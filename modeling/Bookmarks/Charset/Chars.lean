import Bookmarks.Charset.CharData
import Bookmarks.Text.Packed
import Bookmarks.Text.Case
/-!
The properties of code points that the charset detector asks about, and the Unicode blocks.

Every code point read for the detector becomes a `Glyph`: the code point with its property
bits of Unicode 14 and its block, looked up once.
-/
namespace Bookmarks.Charset

/-! ## Properties -/

/-- The property runs, read once. -/
def propertyRuns : Array Nat := Text.unpackHex 6 propertyData

/-- The property bits of a code point. -/
def propertiesOf (c : Nat) : Nat :=
  let i := Text.lastAtMost (fun i => propertyRuns.getD (2 * i) 0) c 0 (propertyRuns.size / 2)
  propertyRuns.getD (2 * i + 1) 0

/-- The blocks as closed ranges, read once. -/
def blockRanges : Text.RangeTable := Text.unpackRanges blockData

/-- The index of the block a code point lies in, if any. -/
def blockOf? (c : Nat) : Option Nat :=
  if blockRanges.isEmpty then none
  else
    let i := Text.lastAtMost (fun i => (blockRanges.getD i (0, 0)).1) c 0 blockRanges.size
    let (first, last) := blockRanges.getD i (1, 0)
    if first ≤ c && c ≤ last then some i else none

/-- The accented letters and the letters under them, read once. -/
def accentBases : Array (Nat × Nat) := Text.pairsOf (Text.unpackHex 6 accentData)

/-- A code point read for the detector, with its properties and its block. -/
structure Glyph where
  code : Nat
  bits : Nat
  block : Option Nat
  deriving DecidableEq, Repr, Inhabited

/-- The glyph of a code point. -/
def glyphOf (c : Nat) : Glyph := ⟨c, propertiesOf c, blockOf? c⟩

namespace Glyph

/-- Whether property bit `k` is set. -/
def has (g : Glyph) (k : Nat) : Bool := g.bits.testBit k

/-- Printable, as text methods say. -/
def isPrintable (g : Glyph) : Bool := g.has 0
/-- A space, as text methods say. -/
def isSpace (g : Glyph) : Bool := g.has 1
/-- Alphabetic, as text methods say. -/
def isAlpha (g : Glyph) : Bool := g.has 2
/-- A digit, as text methods say. -/
def isDigit (g : Glyph) : Bool := g.has 3
/-- Uppercase, as text methods say. -/
def isUpper (g : Glyph) : Bool := g.has 4
/-- Lowercase, as text methods say. -/
def isLower (g : Glyph) : Bool := g.has 5
/-- Punctuation by category or block. -/
def isPunctuation (g : Glyph) : Bool := g.has 6
/-- A symbol by category or block. -/
def isSymbol (g : Glyph) : Bool := g.has 7
/-- An emoticon or pictograph by block. -/
def isEmoticon (g : Glyph) : Bool := g.has 8
/-- A separator. -/
def isSeparator (g : Glyph) : Bool := g.has 9
/-- Named Latin. -/
def isLatin (g : Glyph) : Bool := g.has 10
/-- Named CJK. -/
def isCjk (g : Glyph) : Bool := g.has 11
/-- Named Hiragana. -/
def isHiragana (g : Glyph) : Bool := g.has 12
/-- Named Katakana. -/
def isKatakana (g : Glyph) : Bool := g.has 13
/-- Named Hangul. -/
def isHangul (g : Glyph) : Bool := g.has 14
/-- Named Thai. -/
def isThai (g : Glyph) : Bool := g.has 15
/-- Named Arabic. -/
def isArabic (g : Glyph) : Bool := g.has 16
/-- Named as an Arabic isolated form. -/
def isArabicIsolated (g : Glyph) : Bool := g.has 17
/-- Accented. -/
def isAccented (g : Glyph) : Bool := g.has 18
/-- Unprintable. -/
def isUnprintable (g : Glyph) : Bool := g.has 19
/-- ASCII. -/
def isAscii (g : Glyph) : Bool := g.code < 0x80
/-- Cased: uppercase or lowercase, not both. -/
def isCaseVariable (g : Glyph) : Bool := g.isLower != g.isUpper
/-- The first code point of an accented letter's decomposition; any other code point is its
own. -/
def accentBase (g : Glyph) : Nat :=
  if !g.isAccented then g.code
  else
    let i := Text.lastAtMost (fun i => (accentBases.getD i (0, 0)).1) g.code 0 accentBases.size
    match accentBases[i]? with
    | some (letter, base) => if letter == g.code then base else g.code
    | none => g.code

end Glyph

/-! ## Blocks -/

/-- Whether `needle` stands somewhere in `hay`. -/
def containsText (hay needle : List Char) : Bool :=
  match hay with
  | [] => needle.isEmpty
  | _ :: rest => needle.isPrefixOf hay || containsText rest needle

/-- The words that mark a block as secondary: a supplement, extension or another block beside
the main one of a script. -/
def secondaryWords : List String :=
  ["Supplement", "Extended", "Extensions", "Modifier", "Marks", "Punctuation", "Symbols",
    "Forms", "Operators", "Miscellaneous", "Drawing", "Block", "Shapes", "Supplemental", "Tags"]

/-- A block's name and what the detector reads from it. -/
structure Block where
  name : String
  words : List String
  latin : Bool
  emoticons : Bool
  combining : Bool
  cjk : Bool
  hangul : Bool
  punctuation : Bool
  forms : Bool
  japanese : Bool
  basicLatin : Bool
  secondary : Bool

/-- What the detector reads from a block's name. -/
def Block.ofName (name : String) : Block :=
  let has (w : String) : Bool := containsText name.toList w.toList
  { name := name
    words := name.splitOn " "
    latin := has "Latin"
    emoticons := has "Emoticons"
    combining := has "Combining"
    cjk := has "CJK"
    hangul := has "Hangul"
    punctuation := has "Punctuation"
    forms := has "Forms"
    japanese := name == "Hiragana" || name == "Katakana"
    basicLatin := name == "Basic Latin"
    secondary := secondaryWords.any has }

/-- The blocks, read once. -/
def blocks : Array Block := blockNames.map Block.ofName

/-- What the detector reads from a block it does not know. -/
def unknownBlock : Block := Block.ofName ""

/-- The block at an index. -/
def blockAt (i : Nat) : Block :=
  match blocks[i]? with
  | some b => b
  | none => unknownBlock

/-- Whether two blocks seen next to each other are suspicious: one is missing, or they differ
and do not go together. -/
def suspiciousPair (a b : Option Nat) : Bool :=
  match a, b with
  | some i, some j =>
    if i == j then false
    else
      let x := blockAt i
      let y := blockAt j
      if x.latin && y.latin then false
      else if x.emoticons || y.emoticons then false
      else if (x.latin || y.latin) && (x.combining || y.combining) then false
      else if x.words.any (fun w => !secondaryWords.contains w && y.words.contains w) then false
      else if (x.japanese || y.japanese) && (x.cjk || y.cjk) then false
      else if x.japanese && y.japanese then false
      else if (x.hangul || y.hangul) && (x.cjk || y.cjk || x.basicLatin || y.basicLatin) then false
      else if (x.cjk || y.cjk || (x.japanese && y.japanese)) &&
          (x.punctuation || y.punctuation || x.forms || y.forms || x.basicLatin || y.basicLatin)
      then false
      else true
  | _, _ => true

end Bookmarks.Charset
