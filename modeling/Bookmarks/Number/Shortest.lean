import Bookmarks.Number.Binary64
/-!
The shortest decimal that reads back as a given binary64 number.

For one, two, up to seventeen significant digits, the two decimals around the number are
tested against its rounding interval; the first count with one inside wins, and of two the
nearer. Seventeen digits always suffice.
-/
namespace Bookmarks.Shortest

-- Powers are the core library's `instPowNat`, also where Mathlib's monoid power is in scope.
attribute [local instance (high)] instPowNat

/-- A decimal `0.d₁d₂…dₙ × 10^point`: its digits, the last one non-zero, and the position of
the decimal point. -/
structure Decimal where
  digits : List Nat
  point : Int
  deriving DecidableEq, Repr

/-- The rounding interval of `m * 2^q`, scaled so that all of it is integral: the value, the
two ends, and the common denominator, as numerators `(value, low, high, den)`. The lower
neighbour is nearer when `m` is the smallest normal mantissa and the exponent is above the
subnormal one. -/
def interval (m : Nat) (q : Int) : Nat × Nat × Nat × Nat :=
  let scaleUp := 2 ^ (q - 2).toNat
  let den := 2 ^ (2 - q).toNat
  let lowGap := if m = Binary64.hidden && q > -1074 then 1 else 2
  (4 * m * scaleUp, (4 * m - lowGap) * scaleUp, (4 * m + 2) * scaleUp, den)

/-- The exponent `d` with `10^d ≤ value / den < 10^(d+1)`, searched upwards from `d`. -/
def decadeFrom (value den : Nat) (d : Int) (fuel : Nat) : Int :=
  match fuel with
  | 0 => d
  | fuel + 1 =>
    let (a, b) := if d + 1 ≥ 0 then (value, den * 10 ^ (d + 1).toNat)
      else (value * 10 ^ (-(d + 1)).toNat, den)
    if a < b then d else decadeFrom value den (d + 1) fuel

/-- The decade of a positive value `value / den`. The search starts two below the estimate
from the binary logarithms, `log10 2` being a little below `0.30103`, and so at or below the
decade itself. -/
def decade (value den : Nat) : Int :=
  let binary : Int := (value.log2 : Int) - (den.log2 : Int)
  decadeFrom value den (binary * 30103 / 100000 - 2) 12

/-- The digits of `k`, most significant first, with trailing zeros dropped, and the count of
digits before dropping. -/
def significant (k : Nat) : List Nat × Nat :=
  let ds := (Nat.toDigits 10 k).map fun c => c.toNat - 48
  ((ds.reverse.dropWhile (· = 0)).reverse, ds.length)

/-- The decimal `k * 10^e`. -/
def ofScaled (k : Nat) (e : Int) : Decimal :=
  let (ds, len) := significant k
  ⟨ds, e + len⟩

/-- Tests the decimals with `n` significant digits around the value; `none` when neither
lies in the rounding interval. -/
def tryDigits (value low high den : Nat) (inclusive : Bool) (d : Int) (n : Nat) :
    Option Decimal :=
  let e : Int := d - n + 1
  -- a candidate `k` stands for `k * 10^e`; everything is compared over `den * 10^(-e)`
  let up := if e < 0 then 10 ^ (-e).toNat else 1
  let grid := if e ≥ 0 then 10 ^ e.toNat else 1
  let v := value * up
  let lo := low * up
  let hi := high * up
  let kDown := v / (grid * den)
  let kUp := if v % (grid * den) = 0 then kDown else kDown + 1
  let inside (k : Nat) : Bool :=
    let c := k * grid * den
    if inclusive then lo ≤ c && c ≤ hi else lo < c && c < hi
  match inside kDown, inside kUp with
  | true, true =>
    let below := v - kDown * grid * den
    let above := kUp * grid * den - v
    if below < above then some (ofScaled kDown e)
    else if above < below then some (ofScaled kUp e)
    else some (ofScaled (if kDown % 2 = 0 then kDown else kUp) e)
  | true, false => some (ofScaled kDown e)
  | false, true => some (ofScaled kUp e)
  | false, false => none

/-- The first digit count from `n` on, up to seventeen, that gives a decimal. -/
def searchFrom (value low high den : Nat) (inclusive : Bool) (d : Int) (n : Nat) :
    Nat → Decimal
  | 0 => ofScaled value 0
  | fuel + 1 =>
    match tryDigits value low high den inclusive d n with
    | some r => r
    | none => searchFrom value low high den inclusive d (n + 1) fuel

/-- The shortest decimal that reads back as the positive number `m * 2^q`. -/
def ofFinite (m : Nat) (q : Int) : Decimal :=
  let (value, low, high, den) := interval m q
  searchFrom value low high den (m % 2 = 0) (decade value den) 1 17

end Bookmarks.Shortest
