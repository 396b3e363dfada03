import Bookmarks.Url.NameprepData
import Bookmarks.Url.Idna
import Bookmarks.Text.Marks
import Bookmarks.Text.Packed
/-!
Nameprep (RFC 3491), the preparation of a host label in the first edition of
internationalised domain names, and the ASCII form of a label that it leads to.

Code points are mapped (some dropped, the others case folded), put in normalisation form KC,
and the label is refused when it holds a prohibited code point or breaks the bidirectional
rule. The normaliser decomposes with the data of Unicode 3.2 and composes with the present
Unicode's; a joined mark is dropped when the main scan reaches its place, but a code point
between the two may still join it.
-/
namespace Bookmarks.Url.Nameprep

/-! ## Tables -/

/-- A table from code points to texts: the sorted keys, and for each key where its text
starts among the values and how long it is. -/
structure TextTable where
  keys : Array Nat
  starts : Array Nat
  lengths : Array Nat
  values : Array Nat

/-- Reads entries from digit `i` on onto a table: a key of six digits, a length of
`lengthDigits` digits, then the code points of the text, six digits each. -/
def readEntries (d : Array Nat) (lengthDigits : Nat) : Nat → Nat → TextTable → TextTable
  | 0, _, t => t
  | fuel + 1, i, t =>
    let number (pos count : Nat) : Nat :=
      (List.range count).foldl (fun acc k => acc * 16 + d.getD (pos + k) 0) 0
    if d.size < i + 6 + lengthDigits then t
    else
      let length := number (i + 6) lengthDigits
      let first := i + 6 + lengthDigits
      let text := (List.range length).map fun k => number (first + 6 * k) 6
      readEntries d lengthDigits fuel (first + 6 * length)
        { keys := t.keys.push (number i 6)
          starts := t.starts.push t.values.size
          lengths := t.lengths.push length
          values := t.values ++ text.toArray }

/-- Reads a packed table whose lengths take `lengthDigits` digits. -/
def TextTable.read (lengthDigits : Nat) (s : String) : TextTable :=
  let d := Text.packedDigits s
  readEntries d lengthDigits d.size 0 ⟨#[], #[], #[], #[]⟩

/-- The text of a code point, when the table has one. -/
def TextTable.get? (t : TextTable) (c : Nat) : Option Text :=
  if t.keys.isEmpty then none
  else
    let i := Text.lastAtMost (fun i => t.keys.getD i 0) c 0 t.keys.size
    if t.keys.getD i 0 != c then none
    else
      let start := t.starts.getD i 0
      some ((t.values.extract start (start + t.lengths.getD i 0)).toList)

/-- What the mapping step writes for a code point. -/
def mappings : TextTable := TextTable.read 1 mappingData

/-- The compatibility decompositions of Unicode 3.2. -/
def decompositions : TextTable := TextTable.read 2 decompositionData

/-- The combining classes other than zero. -/
def combiningClasses : Text.ValueTable := Text.unpackValues combiningClassData

/-- The canonical compositions `(first, second, composed)`, sorted by their two parts. -/
def compositions : Array (Nat × Nat × Nat) := Text.triplesOf (Text.unpackHex 6 compositionData)

/-- The code points a prepared label may not hold. -/
def prohibited : Text.RangeTable := Text.unpackRanges prohibitedData

/-- The code points written right to left. -/
def rightToLeft : Text.RangeTable := Text.unpackRanges rightToLeftData

/-- The code points written left to right. -/
def leftToRight : Text.RangeTable := Text.unpackRanges leftToRightData

/-! ## Normalisation form KC -/

/-- The combining class of a code point. -/
def combiningClass (c : Nat) : Nat := (combiningClasses.find? c).getD 0

/-- The code point two code points compose into, if any. -/
def composition? (a b : Nat) : Option Nat :=
  let key (i : Nat) : Nat :=
    let (x, y, _) := compositions.getD i (0, 0, 0)
    x * 0x110000 + y
  if compositions.isEmpty then none
  else
    let i := Text.lastAtMost key (a * 0x110000 + b) 0 compositions.size
    let (x, y, z) := compositions.getD i (0, 0, 0)
    if x == a && y == b then some z else none

/-- The full compatibility decomposition of a code point: a Hangul syllable into its leading
consonant, its vowel and its final consonant when it has one, others as the table says. -/
def decomposeOne (c : Nat) : Text :=
  if 0xAC00 ≤ c && c ≤ 0xD7A3 then
    let s := c - 0xAC00
    [0x1100 + s / 588, 0x1161 + s % 588 / 28] ++ (if s % 28 == 0 then [] else [0x11A7 + s % 28])
  else (decompositions.get? c).getD [c]

/-- Joins the code points from place `i` on with `cur`, the code point being built, where
`comb` is the class of the last mark passed over; gives the code point built and the places
of the code points joined. -/
def joinFrom (d : Array Nat) (cur comb : Nat) (joined : List Nat) : Nat → Nat → Nat × List Nat
  | 0, _ => (cur, joined)
  | fuel + 1, i =>
    if d.size ≤ i then (cur, joined)
    else
      let c := d.getD i 0
      let cc := combiningClass c
      if comb != 0 && cc == 0 then (cur, joined)
      else if comb != 0 && cc ≤ comb then joinFrom d cur comb joined fuel (i + 1)
      else
        match composition? cur c with
        | some r => joinFrom d r comb (i :: joined) fuel (i + 1)
        | none => if cc == 0 then (cur, joined) else joinFrom d cur cc joined fuel (i + 1)

/-- Composes a decomposed text in canonical order from place `i` on onto `out`. `dropped`
holds the places of code points already joined, each dropped once the scan reaches it. A
leading consonant and a vowel of Hangul make a syllable, with the final consonant after
them. -/
def composeFrom (d : Array Nat) (out : Array Nat) (dropped : List Nat) : Nat → Nat → Array Nat
  | 0, _ => out
  | fuel + 1, i =>
    if d.size ≤ i then out
    else if dropped.contains i then composeFrom d out (dropped.erase i) fuel (i + 1)
    else
      let c := d.getD i 0
      let v := d.getD (i + 1) 0
      let t := d.getD (i + 2) 0
      if 0x1100 ≤ c && c < 0x1113 && i + 1 < d.size && 0x1161 ≤ v && v < 0x1176 then
        let syllable := 0xAC00 + ((c - 0x1100) * 21 + (v - 0x1161)) * 28
        if i + 2 < d.size && 0x11A7 < t && t < 0x11C3 then
          composeFrom d (out.push (syllable + (t - 0x11A7))) dropped fuel (i + 3)
        else composeFrom d (out.push syllable) dropped fuel (i + 2)
      else
        let (r, joined) := joinFrom d c 0 [] d.size (i + 1)
        composeFrom d (out.push r) (joined ++ dropped) fuel (i + 1)

/-- The normalisation form KC of a text. -/
def normalizeKC (t : Text) : Text :=
  let d := (Text.canonicalOrder combiningClass (t.flatMap decomposeOne)).toArray
  (composeFrom d #[] [] (d.size + 1) 0).toList

/-! ## Preparing a label -/

/-- The prepared label, or `none` when the label is refused. -/
def prepare (label : Text) : Option Text :=
  let mapped := label.flatMap fun c => (mappings.get? c).getD [c]
  let result := normalizeKC mapped
  if result.any prohibited.contains then none
  else if result.any rightToLeft.contains &&
      (result.any leftToRight.contains || !rightToLeft.contains (result.headD 0) ||
        !rightToLeft.contains (result.getLastD 0)) then none
  else some result

/-- The ASCII form of a label: an ASCII label as it is, any other label prepared, and when it
is then beyond ASCII, written as `xn--` and its Punycode, which it may not start with
already. The form must be 1 to 63 characters long. -/
def toAscii? (label : Text) : Option Text :=
  let fits (t : Text) : Option Text := if 0 < t.length && t.length < 64 then some t else none
  if label.all (· < 0x80) then fits label
  else do
    let prepared ← prepare label
    if prepared.all (· < 0x80) then fits prepared
    else if (Text.ofString "xn--").isPrefixOf prepared then none
    else fits (Idna.asciiLabel prepared)

end Bookmarks.Url.Nameprep
