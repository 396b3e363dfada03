import Bookmarks.Json.Display
import Bookmarks.Json.Reader
/-!
Why the workflow stops: a field that is missing, a value of the wrong kind for what is done
with it, a text that UTF-8 cannot carry, a bookmarks file that is missing or is not JSON, a
URL that cannot be split. Each cause has a class, the name by which callers tell causes
apart, and a message; both are given here once, by `Fault.className` and `Fault.message`.
-/
namespace Bookmarks

open Json

/-- A cause for the workflow to stop. -/
inductive Fault where
  /-- An object has no member of this name (the key is a JSON value). -/
  | missingKey (key : Value)
  /-- A member was looked up in a value that is not an object. -/
  | notSubscriptable (kind : Kind)
  /-- A value that is not an array, object or text was walked through. -/
  | notIterable (kind : Kind)
  /-- A text operation was applied to a value of another kind. -/
  | noAttribute (kind : Kind) (name : String)
  /-- Joining texts met an item of another kind at this index. -/
  | joinItem (index : Nat) (kind : Kind)
  /-- Joining texts was given a value that cannot be walked through. -/
  | joinNotIterable
  /-- One was added to a value that is not a number. -/
  | increment (kind : Kind)
  /-- Two values of kinds without an order between them were compared. -/
  | unordered (left right : Kind)
  /-- A text could not be encoded: the code points from `start` up to `stop` are refused. -/
  | unencodable (codec : String) (text : Text) (start stop : Nat) (reason : String)
  /-- The bookmarks file is not JSON; the problem stands at `pos`, on `line` and `column`. -/
  | badJson (problem : Problem) (pos line column : Nat)
  /-- The bookmarks file holds an integer with too many digits. -/
  | digitLimit (digits : Nat)
  /-- An integer has too many digits to be written out. -/
  | longInteger
  /-- The bookmarks file nests arrays and objects too deeply; `object` tells which one went
  too deep. -/
  | tooDeep (object : Bool)
  /-- The bookmarks file does not exist. -/
  | fileMissing (name : Text)
  /-- A URL could not be split into its parts. -/
  | invalidUrl (message : String)

namespace Fault

/-- The fault for a failed reading of the JSON text `doc`. -/
def ofReadError (doc : Text) : ReadError → Fault
  | .malformed problem pos => .badJson problem pos (lineOf doc pos) (columnOf doc pos)
  | .digitLimit digits => .digitLimit digits
  | .tooDeep object => .tooDeep object

/-- The class of a fault. -/
def className : Fault → String
  | .missingKey _ => "KeyError"
  | .notSubscriptable _ => "TypeError"
  | .notIterable _ => "TypeError"
  | .noAttribute _ _ => "AttributeError"
  | .joinItem _ _ => "TypeError"
  | .joinNotIterable => "TypeError"
  | .increment _ => "TypeError"
  | .unordered _ _ => "TypeError"
  | .unencodable _ _ _ _ _ => "UnicodeEncodeError"
  | .badJson _ _ _ _ => "JSONDecodeError"
  | .digitLimit _ => "ValueError"
  | .longInteger => "ValueError"
  | .tooDeep _ => "RecursionError"
  | .fileMissing _ => "FileNotFoundError"
  | .invalidUrl _ => "ValueError"

/-- The escape by which an encoding error names a single refused code point. -/
def pointEscape (c : Nat) : String :=
  if c ≤ 0xFF then "\\x" ++ (Text.hexPadded 2 c).toString
  else if c ≤ 0xFFFF then "\\u" ++ (Text.hexPadded 4 c).toString
  else "\\U" ++ (Text.hexPadded 8 c).toString

/-- The message of an encoding error over the code points from `start` up to `stop`. -/
def encodeMessage (codec : String) (text : Text) (start stop : Nat) (reason : String) : String :=
  match text[start]? with
  | some c =>
    if stop = start + 1 then
      s!"'{codec}' codec can't encode character '{pointEscape c}' in position {start}: {reason}"
    else s!"'{codec}' codec can't encode characters in position {start}-{stop - 1}: {reason}"
  | none => s!"'{codec}' codec can't encode characters in position {start}-{stop - 1}: {reason}"

/-- The message of a fault. -/
def message : Fault → String
  | .missingKey key => (Value.literal key).toString
  | .notSubscriptable .list => "list indices must be integers or slices, not str"
  | .notSubscriptable .str => "string indices must be integers, not 'str'"
  | .notSubscriptable kind => s!"'{kind.name}' object is not subscriptable"
  | .notIterable kind => s!"'{kind.name}' object is not iterable"
  | .noAttribute kind name => s!"'{kind.name}' object has no attribute '{name}'"
  | .joinItem index kind => s!"sequence item {index}: expected str instance, {kind.name} found"
  | .joinNotIterable => "can only join an iterable"
  | .increment .str => "can only concatenate str (not \"int\") to str"
  | .increment .list => "'int' object is not iterable"
  | .increment kind => s!"unsupported operand type(s) for +=: '{kind.name}' and 'int'"
  | .unordered left right =>
    s!"'<' not supported between instances of '{left.name}' and '{right.name}'"
  | .unencodable codec text start stop reason => encodeMessage codec text start stop reason
  | .badJson problem pos line column => s!"{problem.text}: line {line} column {column} (char {pos})"
  | .tooDeep object =>
    "maximum recursion depth exceeded while decoding a JSON " ++
      (if object then "object" else "array") ++ " from a unicode string"
  | .digitLimit digits =>
    s!"Exceeds the limit ({Json.digitLimit} digits) for integer string conversion: value has " ++
      s!"{digits} digits; use sys.set_int_max_str_digits() to increase the limit"
  | .longInteger =>
    s!"Exceeds the limit ({Json.digitLimit} digits) for integer string conversion; " ++
      "use sys.set_int_max_str_digits() to increase the limit"
  | .fileMissing name => s!"[Errno 2] No such file or directory: {(Text.literal name).toString}"
  | .invalidUrl message => message

end Fault

end Bookmarks
