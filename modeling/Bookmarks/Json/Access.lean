import Bookmarks.Fault
import Bookmarks.Text.Case
/-!
What the workflow does with the values of a bookmarks file, and the fault each step meets
on a value of the wrong kind: looking up a member, walking through the items, treating a
value as a text, joining texts, and counting one more use.

Walking through a value gives the items of an array, the keys of an object and the code
points of a text, each as a text of one code point; other values cannot be walked through.
-/
namespace Bookmarks.Json.Value

/-- The member `key` of an object. -/
def field (v : Value) (key : String) : Except Fault Value :=
  match v with
  | .object members =>
    match Object.get? members (Text.ofString key) with
    | some x => .ok x
    | none => .error (.missingKey (.str (Text.ofString key)))
  | other => .error (.notSubscriptable other.kind)

/-- The member `key` of an object, or null when there is none; a fault for a value that is
not an object. -/
def fieldOrNull (v : Value) (key : String) : Except Fault Value :=
  match v with
  | .object members => .ok ((Object.get? members (Text.ofString key)).getD .null)
  | other => .error (.noAttribute other.kind "get")

/-- The items of a value when walked through. -/
def items (v : Value) : Except Fault (List Value) :=
  match v with
  | .array xs => .ok xs
  | .object members => .ok (members.map fun m => .str m.1)
  | .str s => .ok (s.map fun c => .str [c])
  | other => .error (.notIterable other.kind)

/-- A value as a text, for a text operation called `name`. -/
def asText (v : Value) (name : String) : Except Fault Text :=
  match v with
  | .str s => .ok s
  | other => .error (.noAttribute other.kind name)

/-- The lowercase of a text value. -/
def lowered (v : Value) : Except Fault Text := (asText v "lower").map Text.lower

/-- Whether a text value starts with `prefix`. -/
def startsWithText (v : Value) (p : Text) : Except Fault Bool :=
  (asText v "startswith").map fun s => s.startsWith p

/-- The texts of a list of items, in order; the first item that is not a text is a fault
naming its index. -/
def textsFrom (index : Nat) : List Value → Except Fault (List Text)
  | [] => .ok []
  | .str s :: rest => (textsFrom (index + 1) rest).map (s :: ·)
  | other :: _ => .error (.joinItem index other.kind)

/-- The texts that `v` walks through, joined with `sep` between each two. -/
def joinWith (sep : Text) (v : Value) : Except Fault Text :=
  match items v with
  | .error _ => .error .joinNotIterable
  | .ok xs => (textsFrom 0 xs).map (Text.intercalate sep)

/-- One more than a number; a boolean counts as 0 or 1 and gives an integer. -/
def plusOne (v : Value) : Except Fault Value :=
  match v with
  | .int n => .ok (.int (n + 1))
  | .bool b => .ok (.int (if b then 2 else 1))
  | .float x => .ok (.float x.addOne)
  | other => .error (.increment other.kind)

end Bookmarks.Json.Value
