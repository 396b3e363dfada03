import Bookmarks.Json.Value
import Bookmarks.Text.Quoted
import Bookmarks.Number.Spelling
/-!
The display of values in messages and subtitles. A value's display is what a subtitle shows
for it: a text as itself, null as `None`, the booleans as `True` and `False`, numbers by their
shortest digits with `nan` and `inf` for the values that are not finite. Arrays and objects
show as their literal, which writes the texts inside them quoted (`Bookmarks.Text.Quoted`),
items separated by `", "` and keys from values by `": "`.
-/
namespace Bookmarks.Json

/-- How displays spell numbers: `nan`, `inf`, positional notation for decimal point
positions from -3 to 16. -/
def displayNumberStyle : Binary64.Style := ⟨"nan", "inf", -4, 16⟩

namespace Value

mutual

/-- The literal of a value followed by `rest`: a text quoted and escaped, anything else as
displayed. -/
def literalThen : Value → Text → Text
  | .str s, rest => Text.literal s ++ rest
  | .array [], rest => 0x5B :: 0x5D :: rest
  | .array (x :: xs), rest => 0x5B :: literalThen x (literalItemsThen xs (0x5D :: rest))
  | .object [], rest => 0x7B :: 0x7D :: rest
  | .object ((k, v) :: ms), rest =>
    0x7B :: Text.literal k ++ 0x3A :: 0x20 :: literalThen v (literalMembersThen ms (0x7D :: rest))
  | .null, rest => Text.ofString "None" ++ rest
  | .bool true, rest => Text.ofString "True" ++ rest
  | .bool false, rest => Text.ofString "False" ++ rest
  | .int n, rest => Text.ofInt n ++ rest
  | .float x, rest => Binary64.spell displayNumberStyle x ++ rest

/-- The literals of the items after the first, each after `", "`, followed by `rest`. -/
def literalItemsThen : List Value → Text → Text
  | [], rest => rest
  | x :: xs, rest => 0x2C :: 0x20 :: literalThen x (literalItemsThen xs rest)

/-- The members after the first, each after `", "`, followed by `rest`. -/
def literalMembersThen : List (Text × Value) → Text → Text
  | [], rest => rest
  | (k, v) :: ms, rest =>
    0x2C :: 0x20 :: Text.literal k ++ 0x3A :: 0x20 :: literalThen v (literalMembersThen ms rest)

end

/-- The literal of a value: a text quoted and escaped, anything else as displayed. -/
def literal (v : Value) : Text := literalThen v []

/-- The display of a value: a text as itself, anything else as its literal. -/
def display : Value → Text
  | .str s => s
  | v => literal v

end Value

end Bookmarks.Json
