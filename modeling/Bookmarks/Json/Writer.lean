import Bookmarks.Json.Value
import Bookmarks.Number.Spelling
/-!
Writing values as JSON text that is pure ASCII.

A code point outside printable ASCII is written as an escape, one beyond the basic plane as
its two surrogate halves. Numbers are written with their shortest decimal digits. Two layouts
are used: one line, and indented by four spaces a level.
-/
namespace Bookmarks.Json

/-- How JSON spells numbers: `NaN`, `Infinity`, positional notation for decimal point
positions from -3 to 16. -/
def numberStyle : Binary64.Style := ⟨"NaN", "Infinity", -4, 16⟩

/-- The escape of one code point. -/
def escapePoint (c : Nat) : Text :=
  if c = 0x22 then [0x5C, 0x22]
  else if c = 0x5C then [0x5C, 0x5C]
  else if c = 0x0A then [0x5C, 0x6E]
  else if c = 0x0D then [0x5C, 0x72]
  else if c = 0x09 then [0x5C, 0x74]
  else if c = 0x08 then [0x5C, 0x62]
  else if c = 0x0C then [0x5C, 0x66]
  else if 0x20 ≤ c && c ≤ 0x7E then [c]
  else if c < 0x10000 then [0x5C, 0x75] ++ Text.hexPadded 4 c
  else
    let v := c - 0x10000
    [0x5C, 0x75] ++ Text.hexPadded 4 (0xD800 + v / 0x400) ++
      [0x5C, 0x75] ++ Text.hexPadded 4 (0xDC00 + v % 0x400)

/-- A text as a quoted, escaped JSON string. -/
def quote (t : Text) : Text := 0x22 :: t.flatMap escapePoint ++ [0x22]

/-- The text of a number or constant. -/
def scalarText : Value → Text
  | .null => Text.ofString "null"
  | .bool true => Text.ofString "true"
  | .bool false => Text.ofString "false"
  | .int n => Text.ofInt n
  | .float x => Binary64.spell numberStyle x
  | .str s => quote s
  | .array _ => Text.ofString "[]"
  | .object _ => Text.ofString "\x7b\x7d"

mutual

/-- A value in the one-line layout, followed by `rest`. Writing onto what follows keeps every
code point of the result consed once, however deep the value is. -/
def writeThen : Value → Text → Text
  | .array [], rest => 0x5B :: 0x5D :: rest
  | .array (x :: xs), rest => 0x5B :: writeThen x (itemsThen xs (0x5D :: rest))
  | .object [], rest => 0x7B :: 0x7D :: rest
  | .object ((k, v) :: ms), rest =>
    0x7B :: quote k ++ 0x3A :: 0x20 :: writeThen v (membersThen ms (0x7D :: rest))
  | v, rest => scalarText v ++ rest

/-- The items after the first, each after `", "`, followed by `rest`. -/
def itemsThen : List Value → Text → Text
  | [], rest => rest
  | x :: xs, rest => 0x2C :: 0x20 :: writeThen x (itemsThen xs rest)

/-- The members after the first, each after `", "`, followed by `rest`. -/
def membersThen : List (Text × Value) → Text → Text
  | [], rest => rest
  | (k, v) :: ms, rest => 0x2C :: 0x20 :: quote k ++ 0x3A :: 0x20 :: writeThen v (membersThen ms rest)

end

/-- A value in the one-line layout. -/
def write (v : Value) : Text := writeThen v []

/-- A line break followed by the indentation of a level, followed by `rest`. -/
def newlineThen (level : Nat) (rest : Text) : Text :=
  0x0A :: List.replicate (4 * level) 0x20 ++ rest

mutual

/-- A value in the indented layout, standing at the given nesting level, followed by
`rest`. -/
def indentedThen (level : Nat) : Value → Text → Text
  | .array [], rest => 0x5B :: 0x5D :: rest
  | .array (x :: xs), rest =>
    0x5B :: newlineThen (level + 1) (indentedThen (level + 1) x
      (indentedItemsThen (level + 1) xs (newlineThen level (0x5D :: rest))))
  | .object [], rest => 0x7B :: 0x7D :: rest
  | .object ((k, v) :: ms), rest =>
    0x7B :: newlineThen (level + 1) (quote k ++ 0x3A :: 0x20 :: indentedThen (level + 1) v
      (indentedMembersThen (level + 1) ms (newlineThen level (0x7D :: rest))))
  | v, rest => scalarText v ++ rest

/-- The items after the first at a level, each after a comma and a line break, followed by
`rest`. -/
def indentedItemsThen (level : Nat) : List Value → Text → Text
  | [], rest => rest
  | x :: xs, rest =>
    0x2C :: newlineThen level (indentedThen level x (indentedItemsThen level xs rest))

/-- The members after the first at a level, each after a comma and a line break, followed
by `rest`. -/
def indentedMembersThen (level : Nat) : List (Text × Value) → Text → Text
  | [], rest => rest
  | (k, v) :: ms, rest =>
    0x2C :: newlineThen level
      (quote k ++ 0x3A :: 0x20 :: indentedThen level v (indentedMembersThen level ms rest))

end

/-- A value in the indented layout, standing at the given nesting level. -/
def writeIndented (level : Nat) (v : Value) : Text := indentedThen level v []

end Bookmarks.Json
