import Bookmarks.Fault
/-!
Equality and order of values, as the workflow tests them when it matches a chosen URL and
sorts by usage count.

Numbers of every kind compare by their exact values, without rounding. A not-a-number is
unordered and unequal to everything, except to itself inside arrays and objects. Texts order
by code points, arrays lexicographically; ordering other pairs of kinds is a fault naming them.
-/
namespace Bookmarks.Json

-- Powers are the core library's `instPowNat`, also where Mathlib's monoid power is in scope.
attribute [local instance (high)] instPowNat

/-- A number as compared exactly: a finite one is `num / 2^shift`. -/
inductive Magnitude where
  | notANumber
  | negativeInfinity
  | positiveInfinity
  | finite (num : Int) (shift : Nat)
  deriving DecidableEq, Repr

namespace Magnitude

/-- The magnitude of a binary64 number. -/
def ofBinary64 (x : Binary64) : Magnitude :=
  match x.toParts with
  | .nan => .notANumber
  | .infinite neg => if neg then .negativeInfinity else .positiveInfinity
  | .finite neg mantissa exponent =>
    let (num, shift) := Binary64.finiteRatio neg mantissa exponent
    .finite num shift

/-- Exact equality; a not-a-number equals nothing. -/
def eq : Magnitude → Magnitude → Bool
  | .finite a k, .finite b l => a * 2 ^ l == b * 2 ^ k
  | .negativeInfinity, .negativeInfinity => true
  | .positiveInfinity, .positiveInfinity => true
  | _, _ => false

/-- Exact order; a not-a-number is below and above nothing. -/
def lt : Magnitude → Magnitude → Bool
  | .finite a k, .finite b l => a * 2 ^ l < b * 2 ^ k
  | .negativeInfinity, .finite _ _ => true
  | .negativeInfinity, .positiveInfinity => true
  | .finite _ _, .positiveInfinity => true
  | _, _ => false

end Magnitude

namespace Value

/-- The magnitude of a value that is a number; booleans count as 0 and 1. -/
def magnitude? : Value → Option Magnitude
  | .bool b => some (.finite (if b then 1 else 0) 0)
  | .int n => some (.finite n 0)
  | .float x => some (Magnitude.ofBinary64 x)
  | _ => none

mutual

/-- Equality of values; `inner` says whether the two stand inside containers, where a
not-a-number equals itself. -/
def looseEq (inner : Bool) : Value → Value → Bool
  | .null, .null => true
  | .str a, .str b => a == b
  | .array xs, .array ys => itemsEq xs ys
  | .object ms, .object ns => ms.length == ns.length && membersEq ms ns
  | a, b =>
    match a.magnitude?, b.magnitude? with
    | some x, some y => (inner && x == .notANumber && y == .notANumber) || x.eq y
    | _, _ => false

/-- Equality of two lists of items, pairwise. -/
def itemsEq : List Value → List Value → Bool
  | [], [] => true
  | x :: xs, y :: ys => looseEq true x y && itemsEq xs ys
  | _, _ => false

/-- Whether every member of the first object has an equal member of the same name in the
objects `others`. -/
def membersEq : List (Text × Value) → List (Text × Value) → Bool
  | [], _ => true
  | (k, v) :: ms, others =>
    (match Object.get? others k with
      | some w => looseEq true v w
      | none => false) && membersEq ms others

end

/-- Equality of two values standing on their own. -/
def equals (a b : Value) : Bool := looseEq false a b

mutual

/-- Whether `a` is below `b`; a fault when their kinds have no order. -/
def lessThan : Value → Value → Except Fault Bool
  | .str s, .str t => .ok (decide (s < t))
  | .array xs, .array ys => itemsLess xs ys
  | a, b =>
    match a.magnitude?, b.magnitude? with
    | some x, some y => .ok (x.lt y)
    | _, _ => .error (.unordered a.kind b.kind)

/-- The order of two lists of items: that of their first unequal items, or of their lengths
when one list begins the other. -/
def itemsLess : List Value → List Value → Except Fault Bool
  | x :: xs, y :: ys => if looseEq true x y then itemsLess xs ys else lessThan x y
  | xs, ys => .ok (decide (xs.length < ys.length))

end

end Value

end Bookmarks.Json
