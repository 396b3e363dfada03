import Bookmarks.Codec.NameData
import Bookmarks.Text.Case
/-!
Looking up a character by its name, as the `\N{...}` escape does. The names spelled by rule
start with `CJK UNIFIED IDEOGRAPH-` or `HANGUL SYLLABLE `, in capitals: after the first come
four or five uppercase hexadecimal digits naming a unified ideograph of Unicode 14; after the
second the names of a leading consonant, a vowel and a final consonant, each the longest that
fits. Any other name, or other name of a character, is looked up in the table of names in any
case of ASCII letters.
-/
namespace Bookmarks.Codec

/-- Whether a code point is a unified ideograph of Unicode 14. -/
def isUnifiedIdeograph (c : Nat) : Bool :=
  (0x3400 ≤ c && c ≤ 0x4DBF) || (0x4E00 ≤ c && c ≤ 0x9FFF) || (0x20000 ≤ c && c ≤ 0x2A6DF) ||
  (0x2A700 ≤ c && c ≤ 0x2B738) || (0x2B740 ≤ c && c ≤ 0x2B81D) ||
  (0x2B820 ≤ c && c ≤ 0x2CEA1) || (0x2CEB0 ≤ c && c ≤ 0x2EBE0) || (0x30000 ≤ c && c ≤ 0x3134A)

/-- Whether a name starts with a prefix. -/
def startsWithText (name : List Nat) (pre : String) : Bool := (Text.ofString pre).isPrefixOf name

/-- The names of the leading consonants of Hangul syllables, in order. -/
def leadNames : List String :=
  ["G", "GG", "N", "D", "DD", "R", "M", "B", "BB", "S", "SS", "", "J", "JJ", "C", "K", "T",
    "P", "H"]

/-- The names of the vowels of Hangul syllables, in order. -/
def vowelNames : List String :=
  ["A", "AE", "YA", "YAE", "EO", "E", "YEO", "YE", "O", "WA", "WAE", "OE", "YO", "U", "WEO",
    "WE", "WI", "YU", "EU", "YI", "I"]

/-- The names of the final consonants of Hangul syllables, in order; the first is none. -/
def tailNames : List String :=
  ["", "G", "GG", "GS", "N", "NJ", "NH", "D", "L", "LG", "LM", "LB", "LS", "LT", "LP", "LH",
    "M", "B", "BS", "S", "SS", "NG", "J", "C", "K", "T", "P", "H"]

/-- The longest of the names that starts the text: its index and length. -/
def longestName (names : List String) (t : List Nat) : Option (Nat × Nat) :=
  names.zipIdx.foldl (fun best (n, i) =>
    let len := n.length
    let shorter : Bool := match best with
      | some (_, b) => decide (len ≤ b)
      | none => false
    if shorter then best
    else if (Text.ofString n).isPrefixOf t then some (i, len) else best) none

/-- The Hangul syllable a name after its prefix spells. -/
def syllableNamed? (t : List Nat) : Option Nat := do
  let (l, n1) ← longestName leadNames t
  let (v, n2) ← longestName vowelNames (t.drop n1)
  let (k, n3) ← longestName tailNames (t.drop (n1 + n2))
  if n1 + n2 + n3 == t.length then some (0xAC00 + (l * 21 + v) * 28 + k) else none

/-- The unified ideograph four or five uppercase hexadecimal digits name. -/
def ideographNamed? (digits : List Nat) : Option Nat := do
  if digits.length != 4 && digits.length != 5 then none
  let v ← digits.foldlM (fun v d =>
    if 0x30 ≤ d && d ≤ 0x39 then some (16 * v + (d - 0x30))
    else if 0x41 ≤ d && d ≤ 0x46 then some (16 * v + (d - 0x41 + 10))
    else none) 0
  if isUnifiedIdeograph v then some v else none

/-- The marks that start the entries of the packed names: the `k`-th says that the entry's name
starts with the first `k` characters of the name before it. -/
def sharedMarks : Text := Text.ofString "abcdefghijklmnopqrstuvwxyz!#$%&()*+,.:;<=>?@[]^_|~"

/-- The digits of the packed code points, in the order of their values: a digit of the first
half is followed by more digits of the same number, one of the second half is its last. -/
def codeDigits : Text :=
  Text.ofString "!#$%&()*+,.0123456789:;<=>?@ABCDEFGHIJKLMNOPQRSTUVWXYZ[]^_abcdefghijklmnopqrstuvwxyz|~"

/-- The names of the packed table, in order. -/
def readNameList (packed : Text) : List (List Nat) :=
  (packed.foldl (fun names c =>
    match sharedMarks.idxOf? c, names with
    | some k, prev :: _ => prev.take k :: names
    | some _, [] => [[]]
    | none, name :: rest => (name ++ [c]) :: rest
    | none, [] => [[c]]) []).reverse

/-- The code points of the packed table, in order. Each number is the difference from the code
point before it, twice over when it goes up and twice over less one when it goes down. -/
def readCodes (packed : Text) : List Nat :=
  let half := codeDigits.length / 2
  (packed.foldl (fun (codes, pending) c =>
    let d := codeDigits.idxOf c
    if d < half then (codes, pending * half + d)
    else
      let z := pending * half + (d - half)
      let prev := codes.headD 0
      ((if z % 2 = 0 then prev + z / 2 else prev - (z + 1) / 2) :: codes, 0)) ([], 0)).1.reverse

/-- The names and their code points, sorted by name. -/
def readNames (names codes : String) : Array (List Nat × Nat) :=
  ((readNameList (Text.ofString names)).zip (readCodes (Text.ofString codes))).toArray

/-- The table of names, read when first asked for. -/
def nameTable : Thunk (Array (List Nat × Nat)) := Thunk.mk fun _ => readNames nameData codeData

/-- Compares two names code point by code point, a prefix first. -/
def compareName : List Nat → List Nat → Ordering
  | [], [] => .eq
  | [], _ :: _ => .lt
  | _ :: _, [] => .gt
  | a :: as, b :: bs => if a < b then .lt else if b < a then .gt else compareName as bs

/-- Halving search for a name among the entries from `lo` up to but excluding `hi`. -/
def findName (table : Array (List Nat × Nat)) (name : List Nat) (lo hi : Nat) : Option Nat :=
  if lo < hi then
    let mid := (lo + hi) / 2
    let (entry, code) := table.getD mid ([], 0)
    match compareName name entry with
    | .lt => findName table name lo mid
    | .gt => findName table name (mid + 1) hi
    | .eq => some code
  else none
termination_by hi - lo

/-- The character a name names. -/
def lookupName? (name : List Nat) : Option Nat :=
  if startsWithText name "HANGUL SYLLABLE " then syllableNamed? (name.drop 16)
  else if startsWithText name "CJK UNIFIED IDEOGRAPH-" then ideographNamed? (name.drop 22)
  else
    let table := nameTable.get
    findName table (name.map Text.upperAscii) 0 table.size

end Bookmarks.Codec
