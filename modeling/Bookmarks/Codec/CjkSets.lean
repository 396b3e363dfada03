import Bookmarks.Codec.CjkData
import Bookmarks.Text.Packed
/-!
The double-byte character sets, read from their packed tables, and the lookups the decoders
make in them.

A set is looked up by two bytes: a row and a column for the sets of 94 by 94 characters
(GB 2312, KS X 1001, JIS X 0208, JIS X 0212 and the planes of JIS X 0213), a lead and a trail
byte for the others. A table holds segments of consecutive keys; a key is found by halving
search among the segments' first keys.
-/
namespace Bookmarks.Codec

/-- A packed character set: the first key, the number of keys and the place of the first
value of every segment, and all values, 0 standing for no character. -/
structure CodeTable where
  starts : Array Nat
  lengths : Array Nat
  offsets : Array Nat
  values : Array Nat

/-- The number written by `count` hexadecimal digits from place `i`. -/
def digitsAt (d : Array Nat) (i count : Nat) : Nat :=
  (List.range count).foldl (fun acc k => acc * 16 + d.getD (i + k) 0) 0

/-- Reads the segments from digit `i` on, onto a table. -/
def readSegments (d : Array Nat) (width : Nat) : Nat → Nat → CodeTable → CodeTable
  | 0, _, t => t
  | fuel + 1, i, t =>
    if d.size < i + 6 then t
    else
      let start := digitsAt d i 4
      let count := digitsAt d (i + 4) 2
      let values := (List.range count).map fun k => digitsAt d (i + 6 + k * width) width
      readSegments d width fuel (i + 6 + count * width)
        { starts := t.starts.push start
          lengths := t.lengths.push count
          offsets := t.offsets.push t.values.size
          values := t.values ++ values.toArray }

/-- Reads a packed table whose values take `width` hexadecimal digits. -/
def CodeTable.read (width : Nat) (s : String) : CodeTable :=
  let d := Text.packedDigits s
  readSegments d width d.size 0 ⟨#[], #[], #[], #[]⟩

/-- The character of a key. -/
def CodeTable.get? (t : CodeTable) (key : Nat) : Option Nat :=
  if t.starts.isEmpty then none
  else
    let i := Text.lastAtMost (fun i => t.starts.getD i 0) key 0 t.starts.size
    let start := t.starts.getD i 0
    if key < start || start + t.lengths.getD i 0 ≤ key then none
    else
      match t.values.getD (t.offsets.getD i 0 + (key - start)) 0 with
      | 0 => none
      | v => some v

/-- The character of two bytes. -/
def CodeTable.at? (t : CodeTable) (first second : Nat) : Option Nat := t.get? (first * 256 + second)

/-- The characters that stand for two code points, by key. -/
def readPairs (s : String) : List (Nat × Nat × Nat) := (Text.triplesOf (Text.unpackHex 6 s)).toList

/-! ## The sets -/

/-- GB 2312. -/
def gb2312 : CodeTable := CodeTable.read 4 gb2312Data
/-- KS X 1001. -/
def ksx1001 : CodeTable := CodeTable.read 4 ksx1001Data
/-- JIS X 0208. -/
def jisx0208 : CodeTable := CodeTable.read 4 jisx0208Data
/-- JIS X 0212. -/
def jisx0212 : CodeTable := CodeTable.read 4 jisx0212Data
/-- The GBK additions to GB 2312. -/
def gbkExtension : CodeTable := CodeTable.read 4 gbkData
/-- The GB 18030 additions to GBK. -/
def gb18030Extension : CodeTable := CodeTable.read 4 gb18030Data
/-- Big5. -/
def big5 : CodeTable := CodeTable.read 4 big5Data
/-- The code page 950 changes to Big5. -/
def cp950Extension : CodeTable := CodeTable.read 4 cp950Data
/-- The code page 949 additions to KS X 1001. -/
def cp949Extension : CodeTable := CodeTable.read 4 cp949Data
/-- The code page 932 changes to Shift JIS. -/
def cp932Extension : CodeTable := CodeTable.read 4 cp932Data
/-- The HKSCS additions to Big5. -/
def hkscs : CodeTable := CodeTable.read 5 hkscsData
/-- The HKSCS characters that stand for two code points. -/
def hkscsPairs : List (Nat × Nat × Nat) := readPairs hkscsPairData
/-- The JIS X 0213 plane 1 changes to JIS X 0208. -/
def jisx0213One : CodeTable := CodeTable.read 5 jisx0213OneData
/-- The JIS X 0213 plane 1 characters that stand for two code points. -/
def jisx0213Pairs : List (Nat × Nat × Nat) := readPairs jisx0213PairData
/-- JIS X 0213 plane 2. -/
def jisx0213Two : CodeTable := CodeTable.read 5 jisx0213TwoData
/-- The runs of four-byte GB 18030 sequences below U+10000. -/
def gb18030Runs : Array (Nat × Nat) := Text.pairsOf (Text.unpackHex 6 gb18030RunData)

/-- The code points a key of a table of characters and pairs stands for. -/
def withPairs (t : CodeTable) (pairs : List (Nat × Nat × Nat)) (first second : Nat) : Option (List Nat) :=
  match t.at? first second with
  | some c => some [c]
  | none =>
    (pairs.find? fun (k, _, _) => k == first * 256 + second).map fun (_, a, b) => [a, b]

/-- Which edition of JIS X 0213 is read: the one of 2000 lacks ten characters of plane 1 and
reads one of plane 2 otherwise. -/
inductive Edition where
  | y2000
  | y2004
  deriving DecidableEq

/-- The ten characters of plane 1 that the edition of 2000 lacks. -/
def addedIn2004 (row col : Nat) : Bool :=
  [(0x2E, 0x21), (0x2F, 0x7E), (0x4F, 0x54), (0x4F, 0x7E), (0x74, 0x27), (0x7E, 0x7A),
    (0x7E, 0x7B), (0x7E, 0x7C), (0x7E, 0x7D), (0x7E, 0x7E)].contains (row, col)

/-- A character of JIS X 0213 plane 1: its changes to JIS X 0208 first, then JIS X 0208. -/
def jisx0213PlaneOne (row col : Nat) : Option (List Nat) :=
  match withPairs jisx0213One jisx0213Pairs row col with
  | some cs => some cs
  | none => (jisx0208.at? row col).map fun c => [c]

/-- A character of JIS X 0213 plane 2 in an edition. -/
def jisx0213PlaneTwo (edition : Edition) (row col : Nat) : Option Nat :=
  if edition == .y2000 && row == 0x7D && col == 0x3B then some 0x9B1D
  else jisx0213Two.at? row col

/-- The character of a four-byte GB 18030 sequence below U+10000, by its index. -/
def gb18030Bmp (index : Nat) : Nat :=
  let i := Text.lastAtMost (fun i => (gb18030Runs.getD i (0, 0)).1) index 0 gb18030Runs.size
  let (base, first) := gb18030Runs.getD i (0, 0)
  first + index - base

end Bookmarks.Codec
