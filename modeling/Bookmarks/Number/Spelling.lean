import Bookmarks.Number.Shortest
import Bookmarks.Text.Basic
/-!
Spelling a binary64 number with its shortest decimal digits. A finite number is written
positionally when its decimal point falls among or near its digits, and otherwise as one
digit, the rest after a point, and a signed exponent of at least two digits. A `Style` gives
the words for the values that are not finite.
-/
namespace Bookmarks.Binary64

/-- The choices a number's spelling leaves open. -/
structure Style where
  /-- The word for not-a-number. -/
  notANumber : String
  /-- The word for positive infinity; negative infinity puts a minus before it. -/
  infinity : String
  /-- Positional notation is used when the decimal point position `p` (the value being
  `0.d₁d₂… × 10^p`) satisfies `lowestPoint < p ≤ highestPoint`. -/
  lowestPoint : Int
  highestPoint : Int

/-- Two digits of an exponent at least, with its sign. -/
def exponentText (e : Int) : Text :=
  let sign := if e < 0 then 0x2D else 0x2B
  let digits := Text.ofNat e.natAbs
  sign :: (if digits.length < 2 then 0x30 :: digits else digits)

/-- The text of the decimal `0.digits × 10^point`, digits being values below ten. -/
def decimalText (style : Style) (digits : List Nat) (point : Int) : Text :=
  let ds := digits.map (· + 0x30)
  if style.lowestPoint < point && point ≤ style.highestPoint then
    if point ≤ 0 then
      [0x30, 0x2E] ++ List.replicate (-point).toNat 0x30 ++ ds
    else if point.toNat ≥ ds.length then
      ds ++ List.replicate (point.toNat - ds.length) 0x30 ++ [0x2E, 0x30]
    else ds.take point.toNat ++ 0x2E :: ds.drop point.toNat
  else
    let mantissa :=
      match ds with
      | [] => [0x30]
      | [d] => [d]
      | d :: rest => d :: 0x2E :: rest
    mantissa ++ 0x65 :: exponentText (point - 1)

/-- The spelling of a number in a style. -/
def spell (style : Style) (x : Binary64) : Text :=
  match x.toParts with
  | .nan => Text.ofString style.notANumber
  | .infinite neg => (if neg then [0x2D] else []) ++ Text.ofString style.infinity
  | .finite neg mantissa exponent =>
    let sign := if neg then [0x2D] else []
    if mantissa = 0 then sign ++ Text.ofString "0.0"
    else
      let d := Shortest.ofFinite mantissa exponent
      sign ++ decimalText style d.digits d.point

end Bookmarks.Binary64
