/-!
Binary64 floating-point numbers by their bits, with the operations a bookmarks file needs
carried out in exact arithmetic on naturals, rounding to the nearest, ties to even.
-/
namespace Bookmarks

-- Powers are the core library's `instPowNat`, also where Mathlib's monoid power is in scope;
-- a literal exponent is typed, since otherwise a default instance picks the power.
attribute [local instance (high)] instPowNat

/-- A binary64 number, given by its 64 bits: one sign bit, eleven exponent bits and
fifty-two fraction bits. -/
structure Binary64 where
  bits : UInt64
  deriving DecidableEq, Repr

namespace Binary64

/-- What a binary64 number stands for. A finite number is `(-1)^neg * mantissa * 2^exponent`
exactly; zero has mantissa zero. -/
inductive Parts where
  | nan
  | infinite (neg : Bool)
  | finite (neg : Bool) (mantissa : Nat) (exponent : Int)
  deriving DecidableEq, Repr

/-- The mantissa of the smallest normal number, `2^52`. -/
def hidden : Nat := 2 ^ (52 : Nat)

/-- Decodes the bits. -/
def toParts (x : Binary64) : Parts :=
  let n := x.bits.toNat
  let neg := n ≥ 2 ^ (63 : Nat)
  let field := (n / hidden) % 2048
  let fraction := n % hidden
  if field = 2047 then
    if fraction = 0 then .infinite neg else .nan
  else if field = 0 then .finite neg fraction (-1074)
  else .finite neg (fraction + hidden) ((field : Int) - 1075)

/-- The quiet not-a-number that reading `NaN` gives. -/
def nan : Binary64 := ⟨0x7FF8000000000000⟩

/-- The infinity of the given sign. -/
def infinity (neg : Bool) : Binary64 :=
  ⟨if neg then 0xFFF0000000000000 else 0x7FF0000000000000⟩

/-- The zero of the given sign. -/
def zero (neg : Bool) : Binary64 := ⟨if neg then 0x8000000000000000 else 0⟩

/-- Sets the sign bit of a number built with a clear one. -/
def withSign (neg : Bool) (x : Binary64) : Binary64 :=
  if neg then ⟨x.bits ||| 0x8000000000000000⟩ else x

/-- Encodes a mantissa below `2^53` with an exponent from `-1074` to `971`; a mantissa below
`2^52` is subnormal and needs the exponent `-1074`. Larger exponents give infinity. -/
def encode (mantissa : Nat) (exponent : Int) : Binary64 :=
  if exponent > 971 then infinity false
  else if mantissa < hidden then ⟨UInt64.ofNat mantissa⟩
  else ⟨UInt64.ofNat ((exponent + 1075).toNat * hidden + (mantissa - hidden))⟩

/-- The quotient `num / (den * 2^e)`, with `2^e` moved to the numerator when `e` is
negative, as a numerator and a denominator. -/
def scaled (num den : Nat) (e : Int) : Nat × Nat :=
  if e ≥ 0 then (num, den * 2 ^ e.toNat) else (num * 2 ^ (-e).toNat, den)

/-- Rounds `n / d` to the nearest natural number, a tie going to the even one. -/
def roundHalfEven (n d : Nat) : Nat :=
  let q := n / d
  let r := n % d
  if 2 * r > d || (2 * r = d && q % 2 = 1) then q + 1 else q

/-- The binary exponent at which the positive rational `num / den` has a mantissa from
`2^52` to below `2^53`, but no lower than the subnormal exponent `-1074`. -/
def exponentFor (num den : Nat) : Int :=
  let first : Int := (num.log2 : Int) - (den.log2 : Int) - 52
  let (n, d) := scaled num den first
  let e := if n / d < hidden then first - 1 else first
  if e < -1074 then -1074 else e

/-- The nearest binary64 number to the positive rational `num / den`, a tie going to the
even mantissa; infinity beyond the largest finite number. -/
def ofPositive (num den : Nat) : Binary64 :=
  let e := exponentFor num den
  let (n, d) := scaled num den e
  let m := roundHalfEven n d
  if m = 2 * 2 ^ (52 : Nat) then encode hidden (e + 1) else encode m e

/-- The nearest binary64 number to `(-1)^neg * num / den`. -/
def ofRational (neg : Bool) (num den : Nat) : Binary64 :=
  if num = 0 then zero neg else withSign neg (ofPositive num den)

/-- The nearest binary64 number to an integer. -/
def ofInt (i : Int) : Binary64 := ofRational (i < 0) i.natAbs 1

/-- A finite value as a numerator over a power of two: `(num, k)` stands for `num / 2^k`. -/
def finiteRatio (neg : Bool) (mantissa : Nat) (exponent : Int) : Int × Nat :=
  let signed : Int := if neg then -(mantissa : Int) else mantissa
  if exponent ≥ 0 then (signed * 2 ^ exponent.toNat, 0) else (signed, (-exponent).toNat)

/-- The nearest binary64 number to `x + 1`, as the sum is rounded. -/
def addOne (x : Binary64) : Binary64 :=
  match x.toParts with
  | .nan => x
  | .infinite _ => x
  | .finite neg mantissa exponent =>
    let (num, k) := finiteRatio neg mantissa exponent
    let total := num + 2 ^ k
    if total = 0 then zero false
    else ofRational (total < 0) total.natAbs (2 ^ k)

/-- The nearest binary64 number to a product. -/
def mul (x y : Binary64) : Binary64 :=
  match x.toParts, y.toParts with
  | .nan, _ => nan
  | _, .nan => nan
  | .infinite a, .infinite b => infinity (a != b)
  | .infinite a, .finite b m _ => if m = 0 then nan else infinity (a != b)
  | .finite a m _, .infinite b => if m = 0 then nan else infinity (a != b)
  | .finite a m e, .finite b n f =>
    let neg := a != b
    let exponent := e + f
    if m * n = 0 then zero neg
    else if exponent ≥ 0 then ofRational neg (m * n * 2 ^ exponent.toNat) 1
    else ofRational neg (m * n) (2 ^ (-exponent).toNat)

/-- Whether the number is not a number. -/
def isNaN (x : Binary64) : Bool := x.toParts = .nan

/-- Whether the number is a zero of either sign. -/
def isZero (x : Binary64) : Bool :=
  match x.toParts with
  | .finite _ 0 _ => true
  | _ => false

end Binary64

end Bookmarks
