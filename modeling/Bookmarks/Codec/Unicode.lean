import Bookmarks.Codec.Basic
import Bookmarks.Text.Utf8
/-!
The decoders of the Unicode encodings: UTF-8, UTF-16, UTF-32 and UTF-7.

A malformed piece is refused and the reading goes on after it: a lone surrogate, a value
beyond Unicode, or bytes left over at the end.
-/
namespace Bookmarks.Codec

-- Powers are the core library's `instPowNat`, also where Mathlib's monoid power is in scope.
attribute [local instance (high)] instPowNat

/-! ## UTF-8 -/

/-- Reads UTF-8 bytes onto `acc`, most recent first. -/
def utf8Loop (bytes : List Nat) (acc : List Piece) : List Piece :=
  match bytes with
  | [] => acc
  | b :: more =>
    match Text.utf8Step (b :: more) with
    | .point c size => utf8Loop ((b :: more).drop (max size 1)) (.point c :: acc)
    | .refused size _ => utf8Loop ((b :: more).drop (max size 1)) (.bad :: acc)
termination_by bytes.length
decreasing_by all_goals simp only [List.length_drop, List.length_cons]; omega

/-- Reads UTF-8. -/
def utf8Pieces (bytes : List Nat) : List Piece := (utf8Loop bytes []).reverse

/-! ## UTF-16 and UTF-32 -/

/-- The units of `width` bytes, least significant first when `little`; the bytes left over. -/
def units (width : Nat) (little : Bool) : List Nat → List Nat × List Nat
  | [] => ([], [])
  | b :: rest =>
    let chunk := (b :: rest).take width
    if _h : width = 0 then ([], b :: rest)
    else if chunk.length < width then ([], b :: rest)
    else
      let value := (if little then chunk.reverse else chunk).foldl (fun n x => 256 * n + x) 0
      let (more, left) := units width little ((b :: rest).drop width)
      (value :: more, left)
termination_by bytes => bytes.length
decreasing_by all_goals simp only [List.length_drop, List.length_cons]; omega

/-- Reads UTF-16 units onto `acc`, most recent first. -/
def units16Loop : List Nat → List Piece → List Piece
  | [], acc => acc
  | [u], acc => (if Text.isSurrogate u then .bad else .point u) :: acc
  | u :: v :: more, acc =>
    if Text.isHighSurrogate u then
      if Text.isLowSurrogate v then
        units16Loop more (.point (0x10000 + (u - 0xD800) * 0x400 + (v - 0xDC00)) :: acc)
      else units16Loop (v :: more) (.bad :: acc)
    else if Text.isLowSurrogate u then units16Loop (v :: more) (.bad :: acc)
    else units16Loop (v :: more) (.point u :: acc)

/-- Reads UTF-16 with the given byte order. -/
def utf16Pieces (little : Bool) (bytes : List Nat) : List Piece :=
  let (us, left) := units 2 little bytes
  let pieces := (units16Loop us []).reverse
  -- an odd byte at the end is one piece with a high surrogate cut off before it
  if left.isEmpty || us.getLast?.map Text.isHighSurrogate == some true then pieces
  else pieces ++ [.bad]

/-- Reads UTF-32 with the given byte order. -/
def utf32Pieces (little : Bool) (bytes : List Nat) : List Piece :=
  let (us, left) := units 4 little bytes
  (us.map fun u => if Text.isSurrogate u || u > 0x10FFFF then .bad else .point u) ++
    (if left.isEmpty then [] else [.bad])

/-- Whether bytes start with the given ones. -/
def bytesStartWith (bytes pre : List Nat) : Bool := pre.isPrefixOf bytes

/-- Reads UTF-16 after a byte order mark, little endian without one. -/
def utf16MarkedPieces (bytes : List Nat) : List Piece :=
  if bytesStartWith bytes [0xFF, 0xFE] then utf16Pieces true (bytes.drop 2)
  else if bytesStartWith bytes [0xFE, 0xFF] then utf16Pieces false (bytes.drop 2)
  else utf16Pieces true bytes

/-- Reads UTF-32 after a byte order mark, little endian without one. -/
def utf32MarkedPieces (bytes : List Nat) : List Piece :=
  if bytesStartWith bytes [0xFF, 0xFE, 0, 0] then utf32Pieces true (bytes.drop 4)
  else if bytesStartWith bytes [0, 0, 0xFE, 0xFF] then utf32Pieces false (bytes.drop 4)
  else utf32Pieces true bytes

/-! ## UTF-7 -/

/-- A digit of modified base 64. -/
def isBase64 (b : Nat) : Bool := Text.isAlnumAscii b || b = 0x2B || b = 0x2F

/-- The value of a digit of modified base 64. -/
def base64Value (b : Nat) : Nat :=
  if 0x41 ≤ b && b ≤ 0x5A then b - 0x41
  else if 0x61 ≤ b && b ≤ 0x7A then b - 0x61 + 26
  else if 0x30 ≤ b && b ≤ 0x39 then b - 0x30 + 52
  else if b = 0x2B then 62 else 63

/-- A byte that outside a run stands for itself: ASCII other than `+`. -/
def isDirect (b : Nat) : Bool := b ≤ 127 && b != 0x2B

/-- The state inside a run of base 64: the number of bits held, their value, and a high
surrogate waiting for its low one (0 when none is). -/
structure Shift where
  bits : Nat
  buffer : Nat
  surrogate : Nat

/-- Reads UTF-7 onto `acc`, most recent first, inside a run when `shift` is given. -/
def utf7Loop (bytes : List Nat) (shift : Option Shift) (acc : List Piece) : List Piece :=
  match bytes, shift with
  | [], none => acc
  | [], some sh =>
    if sh.surrogate != 0 || sh.bits ≥ 6 || (sh.bits > 0 && sh.buffer != 0) then .bad :: acc
    else acc
  | b :: rest, some sh =>
    if isBase64 b then
      let buffer := sh.buffer * 64 + base64Value b
      let bits := sh.bits + 6
      if bits ≥ 16 then
        let unit := buffer / 2 ^ (bits - 16)
        let bits := bits - 16
        let buffer := buffer % 2 ^ bits
        if sh.surrogate != 0 && Text.isLowSurrogate unit then
          let c := 0x10000 + (sh.surrogate - 0xD800) * 0x400 + (unit - 0xDC00)
          utf7Loop rest (some ⟨bits, buffer, 0⟩) (.point c :: acc)
        else
          let acc := if sh.surrogate != 0 then .point sh.surrogate :: acc else acc
          if Text.isHighSurrogate unit then utf7Loop rest (some ⟨bits, buffer, unit⟩) acc
          else utf7Loop rest (some ⟨bits, buffer, 0⟩) (.point unit :: acc)
      else utf7Loop rest (some ⟨bits, buffer, sh.surrogate⟩) acc
    else if sh.bits ≥ 6 || sh.buffer != 0 then
      -- a partial unit or padding bits that are not zero: the ending byte goes with them
      utf7Loop rest none (.bad :: acc)
    else
      let acc := if sh.surrogate != 0 && isDirect b then .point sh.surrogate :: acc else acc
      if b = 0x2D then utf7Loop rest none acc else utf7Loop (b :: rest) none acc
  | b :: rest, none =>
    if b = 0x2B then
      match rest with
      | 0x2D :: more => utf7Loop more none (.point 0x2B :: acc)
      | c :: more =>
        if isBase64 c then utf7Loop (c :: more) (some ⟨0, 0, 0⟩) acc
        else utf7Loop more none (.bad :: acc)
      | [] => utf7Loop [] (some ⟨0, 0, 0⟩) acc
    else if isDirect b then utf7Loop rest none (.point b :: acc)
    else utf7Loop rest none (.bad :: acc)
termination_by 2 * bytes.length + (if shift.isSome then 1 else 0)
decreasing_by
  all_goals simp only [List.length_cons, List.length_nil, Option.isSome_some, Option.isSome_none,
    Bool.false_eq_true, if_true, if_false]
  all_goals omega

/-- Reads UTF-7. -/
def utf7Pieces (bytes : List Nat) : List Piece := (utf7Loop bytes none []).reverse

end Bookmarks.Codec
