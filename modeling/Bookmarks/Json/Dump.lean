import Bookmarks.Json.Writer
import Bookmarks.Json.Reader
/-!
Writing the indented layout into a file, piece by piece.

An integer with more than 4300 digits cannot be spelled: the piece that holds it is never
written, and the writing stops there, leaving what was written before it.
-/
namespace Bookmarks.Json

/-- Whether an integer has more digits than may be spelled. -/
def tooLong (n : Int) : Bool := (Text.ofNat n.natAbs).length > digitLimit

/-- Whether a value is an array or an object, whose pieces go out one by one. -/
def Value.isContainer : Value → Bool
  | .array _ => true
  | .object _ => true
  | _ => false

mutual

/-- What the indented layout writes of a value standing at a nesting level before an integer
too long to spell stops it, when the value holds one. -/
def stopIn (level : Nat) : Value → Option Text
  | .int n => if tooLong n then some [] else none
  | .array items => stopInItems (level + 1) [0x5B] items
  | .object members =>
    (stopInMembers (level + 1) true members).map (0x7B :: newlineThen (level + 1) [] ++ ·)
  | _ => none

/-- What the items of an array at a level write before an integer too long to spell stops
them; `opening` is the bracket or separator before the first of them. -/
def stopInItems (level : Nat) (opening : Text) : List Value → Option Text
  | [] => none
  | x :: xs =>
    match stopIn level x with
    | some p => some (if x.isContainer then opening ++ newlineThen level p else [])
    | none =>
      (stopInItems level [0x2C] xs).map (opening ++ newlineThen level (writeIndented level x) ++ ·)

/-- What the members of an object at a level write before an integer too long to spell stops
them; `first` says that no separator goes before the first of them. -/
def stopInMembers (level : Nat) (first : Bool) : List (Text × Value) → Option Text
  | [] => none
  | (k, v) :: ms =>
    let head := (if first then [] else 0x2C :: newlineThen level []) ++ quote k ++ [0x3A, 0x20]
    match stopIn level v with
    | some p => some (head ++ p)
    | none => (stopInMembers level false ms).map (head ++ writeIndented level v ++ ·)

end

end Bookmarks.Json
