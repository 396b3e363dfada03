import Bookmarks.Text.Basic
import Bookmarks.Number.Binary64
/-!
JSON values as a bookmarks file holds them: null, booleans, integers of any size, binary64
numbers, texts of code points, arrays, and objects that keep their members in the order
they were first written.

Reading an object whose key appears twice keeps the first position and the last value
(`Object.insert`). Values are dynamic here on purpose: a bookmark's fields may hold any
JSON, and the workflow's answers on wrongly typed fields are part of its behaviour.
-/
namespace Bookmarks.Json

/-- A JSON value. -/
inductive Value where
  | null
  | bool (b : Bool)
  | int (n : Int)
  | float (x : Binary64)
  | str (s : Text)
  | array (items : List Value)
  | object (members : List (Text × Value))
  deriving Repr, Inhabited

/-- The kinds of value, named as error messages name them. -/
inductive Kind where
  | none | bool | int | float | str | list | dict
  deriving DecidableEq, Repr

/-- The name a message gives to a kind of value. -/
def Kind.name : Kind → String
  | .none => "NoneType"
  | .bool => "bool"
  | .int => "int"
  | .float => "float"
  | .str => "str"
  | .list => "list"
  | .dict => "dict"

namespace Value

/-- The kind of a value. -/
def kind : Value → Kind
  | .null => .none
  | .bool _ => .bool
  | .int _ => .int
  | .float _ => .float
  | .str _ => .str
  | .array _ => .list
  | .object _ => .dict

/-- Whether a value counts as true in a test: every value except null, false, zero of
either kind and sign, and the empty text, array and object. A not-a-number counts as
true. -/
def truthy : Value → Bool
  | .null => false
  | .bool b => b
  | .int n => n != 0
  | .float x => !x.isZero
  | .str s => !s.isEmpty
  | .array items => !items.isEmpty
  | .object members => !members.isEmpty

/-- A text value from a Lean string. -/
def ofString (s : String) : Value := .str (Text.ofString s)

end Value

namespace Object

/-- The value of the first member named `key`. -/
def get? (members : List (Text × Value)) (key : Text) : Option Value :=
  (members.find? fun m => m.1 == key).map Prod.snd

/-- Sets the member `key`: a member of that name keeps its place and takes the new value;
otherwise the member goes last. -/
def insert (members : List (Text × Value)) (key : Text) (v : Value) : List (Text × Value) :=
  if members.any (fun m => m.1 == key) then
    members.map fun m => if m.1 == key then (key, v) else m
  else members ++ [(key, v)]

end Object

end Bookmarks.Json
