import Bookmarks.Codec.Basic
import Bookmarks.Codec.Names
/-!
The decoders of escaped text: `unicode_escape`, which reads the backslash escapes of string
literals over Latin-1 bytes, and `raw_unicode_escape`, which reads only `\u` and `\U`.

A backslash at the end, too few digits, a value beyond Unicode and an unknown name cannot be
read; any other backslash that starts no escape stands for itself. Every step takes at least
one byte, so the readings run on a fuel of one more than the number of bytes.
-/
namespace Bookmarks.Codec

/-- The value of a hexadecimal digit byte. -/
def hexValue? (b : Nat) : Option Nat :=
  if 0x30 ≤ b && b ≤ 0x39 then some (b - 0x30)
  else if 0x61 ≤ b && b ≤ 0x66 then some (b - 0x61 + 10)
  else if 0x41 ≤ b && b ≤ 0x46 then some (b - 0x41 + 10)
  else none

/-- How reading a fixed number of hexadecimal digits ends. -/
inductive HexRead where
  /-- The digits' value, and the bytes after them. -/
  | value (v : Nat) (rest : List Nat)
  /-- A byte that is no digit, which starts the bytes returned. -/
  | stop (rest : List Nat)
  /-- The bytes ran out. -/
  | short

/-- Reads `count` hexadecimal digits onto the value `v`. -/
def readHex : Nat → Nat → List Nat → HexRead
  | 0, v, rest => .value v rest
  | _ + 1, _, [] => .short
  | count + 1, v, b :: rest =>
    match hexValue? b with
    | some d => readHex count (16 * v + d) rest
    | none => .stop (b :: rest)

/-- An octal digit byte. -/
def isOctal (b : Nat) : Bool := 0x30 ≤ b && b ≤ 0x37

/-- The character of a simple escape letter. -/
def simpleEscape? (c : Nat) : Option Nat :=
  match c with
  | 0x5C => some 0x5C
  | 0x27 => some 0x27
  | 0x22 => some 0x22
  | 0x62 => some 0x08
  | 0x66 => some 0x0C
  | 0x74 => some 0x09
  | 0x6E => some 0x0A
  | 0x72 => some 0x0D
  | 0x76 => some 0x0B
  | 0x61 => some 0x07
  | _ => none

/-- The number of hexadecimal digits an escape letter takes: `x` two, `u` four, `U` eight. -/
def hexCount? (c : Nat) : Option Nat :=
  if c = 0x78 then some 2 else if c = 0x75 then some 4 else if c = 0x55 then some 8 else none

/-- One octal escape from its first digit `c`: its value and the bytes after it. -/
def octalEscape (c : Nat) (more : List Nat) : Nat × List Nat :=
  match more with
  | d :: more2 =>
    if isOctal d then
      match more2 with
      | e :: more3 =>
        if isOctal e then (64 * (c - 0x30) + 8 * (d - 0x30) + (e - 0x30), more3)
        else (8 * (c - 0x30) + (d - 0x30), more2)
      | [] => (8 * (c - 0x30) + (d - 0x30), more2)
    else (c - 0x30, more)
  | [] => (c - 0x30, more)

/-- What one escape reads to: pieces in order, and the bytes left to read, `none` when the
reading ends. -/
def hexEscape (count : Nat) (more : List Nat) : List Piece × Option (List Nat) :=
  match readHex count 0 more with
  | .value v rest => ([if v > 0x10FFFF then .bad else .point v], some rest)
  | .stop rest => ([.bad], some rest)
  | .short => ([.bad], none)

/-- A `\N` escape after its letter: a name in braces. -/
def namedEscape (more : List Nat) : List Piece × Option (List Nat) :=
  match more with
  | 0x7B :: body =>
    match body.findIdx? (· = 0x7D) with
    | none => ([.bad], none)
    | some 0 => ([.bad], some body)
    | some n =>
      match lookupName? (body.take n) with
      | some p => ([.point p], some (body.drop (n + 1)))
      | none => ([.bad], some (body.drop (n + 1)))
  | [] => ([.bad], none)
  | _ => ([.bad], some more)

/-- The escape after a backslash under `unicode_escape`, from the letter `c`. -/
def escapeAfter (c : Nat) (more : List Nat) : List Piece × Option (List Nat) :=
  if c = 0x0A then ([], some more)
  else match simpleEscape? c with
  | some e => ([.point e], some more)
  | none =>
    if isOctal c then
      let (v, rest) := octalEscape c more
      ([.point v], some rest)
    else match hexCount? c with
    | some count => hexEscape count more
    | none =>
      if c = 0x4E then namedEscape more else ([.point 0x5C, .point c], some more)

/-- Reads `unicode_escape` bytes onto `acc`, most recent first. -/
def escapeLoop : Nat → List Nat → List Piece → List Piece
  | 0, _, acc => acc
  | _ + 1, [], acc => acc
  | fuel + 1, b :: rest, acc =>
    if b != 0x5C then escapeLoop fuel rest (.point b :: acc)
    else
      match rest with
      | [] => .bad :: acc
      | c :: more =>
        let (pieces, next) := escapeAfter c more
        let acc := pieces.reverse ++ acc
        match next with
        | some bytes => escapeLoop fuel bytes acc
        | none => acc

/-- Reads `unicode_escape`. -/
def unicodeEscapePieces (bytes : List Nat) : List Piece :=
  (escapeLoop (bytes.length + 1) bytes []).reverse

/-- Reads `raw_unicode_escape` bytes onto `acc`, most recent first. -/
def rawEscapeLoop : Nat → List Nat → List Piece → List Piece
  | 0, _, acc => acc
  | _ + 1, [], acc => acc
  | fuel + 1, b :: rest, acc =>
    if b != 0x5C then rawEscapeLoop fuel rest (.point b :: acc)
    else
      match rest with
      | [] => .point 0x5C :: acc
      | c :: more =>
        let count := if c = 0x75 then some 4 else if c = 0x55 then some 8 else none
        match count with
        | some count =>
          let (pieces, next) := hexEscape count more
          let acc := pieces.reverse ++ acc
          match next with
          | some bytes => rawEscapeLoop fuel bytes acc
          | none => acc
        | none => rawEscapeLoop fuel more (.point c :: .point 0x5C :: acc)

/-- Reads `raw_unicode_escape`. -/
def rawEscapePieces (bytes : List Nat) : List Piece :=
  (rawEscapeLoop (bytes.length + 1) bytes []).reverse

end Bookmarks.Codec
