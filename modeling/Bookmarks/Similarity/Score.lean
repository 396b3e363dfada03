import Bookmarks.Similarity.Matcher
import Bookmarks.Json.Compare
/-!
Similarity scores from 0 to 100 between a query and a text.

A score is the similarity of two sequences (twice their matched code points over their total
length) times one hundred, rounded in binary64 and to the nearest integer. The partial score
scores the shorter text against each window of the longer one that a matching block aligns it
with; a window above 0.995 gives 100 at once.
-/
namespace Bookmarks.Similarity

-- Powers are the core library's `instPowNat`, also where Mathlib's monoid power is in scope.
attribute [local instance (high)] instPowNat

open Json

/-- The similarity of the two prepared sequences, as a binary64 number. -/
def similarity (m : Matcher) : Binary64 :=
  let total := m.a.size + m.b.size
  if total = 0 then Binary64.ofInt 1 else Binary64.ofRational false (2 * m.matched) total

/-- The similarity of two texts. -/
def similarityOf (a b : Text) : Binary64 := similarity (Matcher.make a b)

/-- The nearest integer to a non-negative binary64 number, a half going to the even one. -/
def roundToNat (x : Binary64) : Nat :=
  match x.toParts with
  | .finite _ mantissa exponent =>
    if exponent ≥ 0 then mantissa * 2 ^ exponent.toNat
    else Binary64.roundHalfEven mantissa (2 ^ (-exponent).toNat)
  | _ => 0

/-- A similarity as a score out of 100. -/
def percent (x : Binary64) : Nat := roundToNat (Binary64.mul (Binary64.ofInt 100) x)

/-- The score of two texts. -/
def ratio (a b : Text) : Nat :=
  if a == b then 100
  else if a.isEmpty || b.isEmpty then 0
  else percent (similarityOf a b)

/-- The threshold above which a window counts as a full match: the binary64 number nearest
to 0.995. -/
def fullMatch : Binary64 := Binary64.ofRational false 995 1000

/-- Whether `x` is above `y`, exactly. -/
def above (x y : Binary64) : Bool := (Magnitude.ofBinary64 y).lt (Magnitude.ofBinary64 x)

/-- The best similarity of `shorter` against the windows of `longer` that the blocks align
it with; `none` as soon as a window is a full match. -/
def bestWindow (shorter longer : Text) : List Block → Binary64 → Option Binary64
  | [], best => some best
  | x :: rest, best =>
    let start := x.j - x.i
    let window := (longer.drop start).take shorter.length
    let r := similarityOf shorter window
    if above r fullMatch then none
    else bestWindow shorter longer rest (if above r best then r else best)

/-- The partial score of two texts. -/
def partialRatio (a b : Text) : Nat :=
  if a == b then 100
  else if a.isEmpty || b.isEmpty then 0
  else
    let (shorter, longer) := if a.length ≤ b.length then (a, b) else (b, a)
    let blocks := (Matcher.make shorter longer).matchingBlocks
    match bestWindow shorter longer blocks (Binary64.zero false) with
    | none => 100
    | some best => percent best

end Bookmarks.Similarity
