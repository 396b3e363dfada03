import Bookmarks.Text.Basic
/-!
Internationalised host labels: a label with a code point beyond ASCII is sent as `xn--`
followed by its Punycode (RFC 3492): the label's ASCII code points, a hyphen when there are
any, then the other code points as variable-length base-36 integers that say where each is
inserted.
-/
namespace Bookmarks.Url.Idna

/-- The Punycode digit for a value below 36: `a` to `z`, then `0` to `9`. -/
def digit (d : Nat) : Nat := if d < 26 then 0x61 + d else 0x30 + (d - 26)

/-- The bias after a delta, as RFC 3492 adapts it. Every step divides the delta by 35, so
the delta itself is fuel enough. -/
def adapt (delta numPoints : Nat) (first : Bool) : Nat :=
  let delta := if first then delta / 700 else delta / 2
  let delta := delta + delta / numPoints
  let rec go (delta k : Nat) (fuel : Nat) : Nat :=
    match fuel with
    | 0 => k
    | fuel + 1 => if delta > 455 then go (delta / 35) (k + 36) fuel else k + 36 * delta / (delta + 38)
  go delta 0 delta

/-- The digits of a delta as a variable-length integer under a bias. -/
def integerDigits (q bias : Nat) : List Nat :=
  let rec go (q k : Nat) (fuel : Nat) : List Nat :=
    match fuel with
    | 0 => []
    | fuel + 1 =>
      let t := if k ≤ bias then 1 else if k ≥ bias + 26 then 26 else k - bias
      if q < t then [digit q]
      else digit (t + (q - t) % (36 - t)) :: go ((q - t) / (36 - t)) (k + 36) fuel
  go q 36 64

/-- The encoding loop: `n` is the code point being inserted, `delta` the running count,
`handled` how many code points are placed, `bias` the current bias. -/
def encodeLoop (input : List Nat) (n delta handled bias : Nat) (out : List Nat) :
    Nat → List Nat
  | 0 => out
  | fuel + 1 =>
    if handled ≥ input.length then out
    else
      let m := (input.filter (· ≥ n)).foldl min (0x110000 : Nat)
      let delta := delta + (m - n) * (handled + 1)
      let (delta, handled, bias, out) := input.foldl (fun (delta, handled, bias, out) c =>
        if c < m then (delta + 1, handled, bias, out)
        else if c = m then
          (0, handled + 1, adapt delta (handled + 1) (handled = basicCount input),
            out ++ integerDigits delta bias)
        else (delta, handled, bias, out)) (delta, handled, bias, out)
      encodeLoop input (m + 1) (delta + 1) handled bias out fuel
where
  basicCount (input : List Nat) : Nat := (input.filter (· < 0x80)).length

/-- The Punycode of a label. -/
def punycode (label : Text) : Text :=
  let basic := label.filter (· < 0x80)
  let start := if basic.isEmpty then [] else basic ++ [0x2D]
  encodeLoop label 0x80 0 basic.length 72 start (label.length + 1)

/-- The ASCII form of a label with code points beyond ASCII. -/
def asciiLabel (label : Text) : Text := Text.ofString "xn--" ++ punycode label

/-- The value of a Punycode digit: a letter of either case, then a decimal digit. -/
def digitValue? (c : Nat) : Option Nat :=
  if 0x41 ≤ c && c ≤ 0x5A then some (c - 0x41)
  else if 0x61 ≤ c && c ≤ 0x7A then some (c - 0x61)
  else if 0x30 ≤ c && c ≤ 0x39 then some (c - 22)
  else none

/-- Reads a variable-length integer under a bias: `j` digits read so far, `w` the weight of
the next digit, `acc` the value so far. `none` when the digits run out or one is no digit. -/
def readInteger (bias : Nat) : Text → Nat → Nat → Nat → Option (Nat × Text)
  | [], _, _, _ => none
  | c :: rest, j, w, acc => do
    let d ← digitValue? c
    let k := 36 * (j + 1)
    let t := if k ≤ bias then 1 else if k ≥ bias + 26 then 26 else k - bias
    let acc := acc + d * w
    if d < t then some (acc, rest) else readInteger bias rest (j + 1) (w * (36 - t)) acc

/-- Inserts the code points the integers of `extended` describe into `decoded`: `n` is the
code point inserted last, `next` one past the place it went, `bias` the current bias. When an
integer does not read, or a code point passes `0x10FFFF`, a strict reading gives `none`; a
lenient one stops with the text so far at the first, and writes `?` for the second, counting
on from there. -/
def insertAll (lenient : Bool) (extended decoded : Text) (n next bias : Nat) (first : Bool) :
    Nat → Option Text
  | 0 => some decoded
  | fuel + 1 =>
    if extended.isEmpty then some decoded
    else
      match readInteger bias extended 0 1 0 with
      | none => if lenient then some decoded else none
      | some (delta, rest) =>
        let pos := next + delta
        let n := n + pos / (decoded.length + 1)
        if n > 0x10FFFF && !lenient then none
        else
          let n := if n > 0x10FFFF then 0x3F else n
          let pos := pos % (decoded.length + 1)
          let decoded := decoded.take pos ++ n :: decoded.drop pos
          insertAll lenient rest decoded n (pos + 1) (adapt delta decoded.length first) false fuel

/-- The label that Punycode spells: the ASCII code points before the last hyphen, then the
others inserted as the integers after it say. `none` when the integers do not read. -/
def decodePunycode (text : Text) : Option Text :=
  let (basic, extended) := (Text.splitLast? text 0x2D).getD ([], text)
  insertAll false extended basic 0x80 0 72 true (extended.length + 1)

end Bookmarks.Url.Idna
