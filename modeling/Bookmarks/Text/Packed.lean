import Bookmarks.Text.Ranges
/-!
Tables written as runs of fixed-width hexadecimal numbers, read into an array once, their
digits packed three to two characters of a 64-letter alphabet.
-/
namespace Bookmarks.Text

/-- The value of a character of the packing alphabet: the digits, the capital letters and the
small letters in that order, then `+` and `*`, so 0 to 63; 0 for any other character. -/
def packedValue (c : Char) : Nat :=
  if '0' ≤ c && c ≤ '9' then c.toNat - 48
  else if 'A' ≤ c && c ≤ 'Z' then c.toNat - 55
  else if 'a' ≤ c && c ≤ 'z' then c.toNat - 61
  else if c = '+' then 62
  else if c = '*' then 63
  else 0

/-- The hexadecimal digits a packed string stands for: each two characters make a number
below 4096, written as three digits. A character left over at the end is dropped. -/
def packedDigits (s : String) : Array Nat :=
  let (out, _) := s.foldl (fun (out, high) c =>
    match high with
    | none => (out, some (packedValue c))
    | some h =>
      let v := h * 64 + packedValue c
      (((out.push (v / 256)).push (v / 16 % 16)).push (v % 16), none)) (#[], none)
  out

/-- Reads the hexadecimal digits of a packed string as numbers of `width` digits each; digits
left over at the end are dropped. -/
def unpackHex (width : Nat) (s : String) : Array Nat :=
  let (out, _, _) := (packedDigits s).foldl (fun (out, acc, n) d =>
    let acc := acc * 16 + d
    if n + 1 == width then (out.push acc, 0, 0) else (out, acc, n + 1)) (#[], 0, 0)
  out

/-- The pairs of an array read two entries at a time. -/
def pairsOf (xs : Array Nat) : Array (Nat × Nat) :=
  (Array.range (xs.size / 2)).map fun i => (xs.getD (2 * i) 0, xs.getD (2 * i + 1) 0)

/-- The triples of an array read three entries at a time. -/
def triplesOf (xs : Array Nat) : Array (Nat × Nat × Nat) :=
  (Array.range (xs.size / 3)).map fun i =>
    (xs.getD (3 * i) 0, xs.getD (3 * i + 1) 0, xs.getD (3 * i + 2) 0)

/-- A range table written as pairs of six-digit code points. -/
def unpackRanges (s : String) : RangeTable := pairsOf (unpackHex 6 s)

/-- A value table written as triples of six-digit numbers. -/
def unpackValues (s : String) : ValueTable := triplesOf (unpackHex 6 s)

/-- The index of the last of the sorted `keys` from `lo` up to but excluding `hi` that is at
most `c`, when the key at `lo` is. -/
def lastAtMost (keys : Nat → Nat) (c lo hi : Nat) : Nat :=
  if lo + 1 < hi then
    let mid := (lo + hi) / 2
    if keys mid ≤ c then lastAtMost keys c mid hi else lastAtMost keys c lo mid
  else lo
termination_by hi - lo

end Bookmarks.Text
