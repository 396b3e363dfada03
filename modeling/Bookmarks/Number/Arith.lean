import Bookmarks.Number.Binary64
/-!
Arithmetic on finite binary64 numbers, each operation carried out exactly and rounded once to
the nearest number: the arithmetic of the charset detector's ratios.
-/
namespace Bookmarks

-- Powers are the core library's `instPowNat`, also where Mathlib's monoid power is in scope.
attribute [local instance (high)] instPowNat

namespace Binary64

/-- The value of a finite number as a numerator over a power of two, `(num, k)` standing for
`num / 2^k`; `none` for an infinity or not-a-number. -/
def toDyadic? (x : Binary64) : Option (Int × Nat) :=
  match x.toParts with
  | .finite neg mantissa exponent => some (finiteRatio neg mantissa exponent)
  | _ => none

/-- The nearest number to `num / 2^k`. -/
def ofDyadic (num : Int) (k : Nat) : Binary64 :=
  if num = 0 then zero false else ofRational (num < 0) num.natAbs (2 ^ k)

/-- Two dyadic values over their common power of two: both numerators and the power. -/
def align (a b : Int × Nat) : Int × Int × Nat :=
  let k := max a.2 b.2
  (a.1 * 2 ^ (k - a.2), b.1 * 2 ^ (k - b.2), k)

/-- The nearest number to the quotient of two naturals; the quotient by zero is taken as
zero. -/
def ratio (a b : Nat) : Binary64 := if b = 0 then zero false else ofRational false a b

/-- The nearest number to a natural. -/
def ofNat (n : Nat) : Binary64 := ofRational false n 1

/-- The nearest number to a decimal fraction `n / 10^d`, as a literal with `d` places is
read. -/
def decimal (n d : Nat) : Binary64 := ofRational false n (10 ^ d)

/-- The nearest number to a sum. -/
def add (x y : Binary64) : Binary64 :=
  match x.toDyadic?, y.toDyadic? with
  | some a, some b => let (p, q, k) := align a b; ofDyadic (p + q) k
  | _, _ => nan

/-- The nearest number to a difference. -/
def sub (x y : Binary64) : Binary64 :=
  match x.toDyadic?, y.toDyadic? with
  | some a, some b => let (p, q, k) := align a b; ofDyadic (p - q) k
  | _, _ => nan

/-- The absolute value. -/
def abs (x : Binary64) : Binary64 := ⟨x.bits &&& 0x7FFFFFFFFFFFFFFF⟩

/-- The nearest number to a number divided by a positive natural. -/
def divNat (x : Binary64) (n : Nat) : Binary64 :=
  match x.toDyadic? with
  | some (p, k) => if p = 0 || n = 0 then zero false else ofRational (p < 0) p.natAbs (2 ^ k * n)
  | none => nan

/-- The sum of numbers added from the left, starting from zero. -/
def sum (xs : List Binary64) : Binary64 := xs.foldl add (zero false)

/-- Whether one finite number is less than another. -/
def lt (x y : Binary64) : Bool :=
  match x.toDyadic?, y.toDyadic? with
  | some a, some b => let (p, q, _) := align a b; p < q
  | _, _ => false

/-- Whether one finite number is at most another. -/
def le (x y : Binary64) : Bool :=
  match x.toDyadic?, y.toDyadic? with
  | some a, some b => let (p, q, _) := align a b; p ≤ q
  | _, _ => false

/-- Whether two finite numbers are equal; the zeros of both signs are. -/
def same (x y : Binary64) : Bool := le x y && le y x

/-- The nearest number to `x` rounded to `d` decimal places, a tie going to the even last
digit. -/
def roundDigits (x : Binary64) (d : Nat) : Binary64 :=
  match x.toDyadic? with
  | some (p, k) =>
    let q := roundHalfEven (p.natAbs * 10 ^ d) (2 ^ k)
    ofRational (p < 0) q (10 ^ d)
  | none => x

/-- The integer part of a finite number, toward zero. -/
def truncate (x : Binary64) : Int :=
  match x.toDyadic? with
  | some (p, k) => if p < 0 then -((p.natAbs / 2 ^ k : Nat) : Int) else ((p.natAbs / 2 ^ k : Nat) : Int)
  | none => 0

end Binary64

end Bookmarks
