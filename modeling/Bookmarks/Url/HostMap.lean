import Bookmarks.Url.HostMapData
import Bookmarks.Url.IdnaCheck
import Bookmarks.Text.Packed
import Bookmarks.Text.Case
/-!
The ASCII form of a host beyond ASCII when the URL's scheme is not one whose host the URL
parser already normalised: the host is mapped as UTS #46 says, put in normalisation form C and
split into labels, each of which must pass the checks of internationalised domain names.
-/
namespace Bookmarks.Url.HostMap

/-- How the mapping treats a code point. -/
inductive Treatment where
  | keep
  | drop
  | refuse
  | replace (text : Text)
  deriving DecidableEq, Repr

/-- The runs of the mapping as pairs of numbers, read once. -/
def runs : Array Nat := Text.unpackHex 6 runData

/-- The code points of the replacements, read once. -/
def replacements : Array Nat := Text.unpackHex 6 replacementData

/-- The first code point of run `i`. -/
def runStart (i : Nat) : Nat := runs.getD (2 * i) 0 / 8

/-- How the mapping treats a code point: as the last run that starts at or before it says. -/
def treatment (c : Nat) : Treatment :=
  let i := Text.lastAtMost runStart c 0 (runs.size / 2)
  let head := runs.getD (2 * i) 0
  let value := runs.getD (2 * i + 1) 0
  match head % 8 with
  | 0 => .keep
  | 1 => .drop
  | 3 => .replace [value + (c - head / 8)]
  | 4 => .replace ((List.range (value % 32)).map fun k => replacements.getD (value / 32 + k) 0)
  | _ => .refuse

/-- The mapped host, in normalisation form C; `none` when it holds a refused code point. -/
def remap (host : Text) : Option Text := do
  let pieces ← host.mapM fun c =>
    match treatment c with
    | .keep => some [c]
    | .drop => some []
    | .replace t => some t
    | .refuse => none
  pure (Idna.normalizeC pieces.flatten)

/-- The four dots that end a label. -/
def isDot (c : Nat) : Bool := c == 0x2E || c == 0x3002 || c == 0xFF0E || c == 0xFF61

/-- A text split at every dot. -/
def splitAtDots (t : Text) : List Text :=
  let (done, current) := t.foldl (fun (done, current) c =>
    if isDot c then (done ++ [current], []) else (done, current ++ [c])) ([], [])
  done ++ [current]

/-- Whether an ASCII label passes, lowercased: after `xn--`, Punycode that does not end in a
hyphen and spells a label that passes; otherwise the label itself passes. -/
def asciiLabelFits (label : Text) : Bool :=
  let lower := Text.lowerAsciiAll label
  if lower.take 4 == Text.ofString "xn--" then
    let rest := lower.drop 4
    !rest.isEmpty && rest.getLast? != some 0x2D &&
      match Idna.decodePunycode rest with
      | some decoded => Idna.labelFits decoded
      | none => false
  else Idna.labelFits lower

/-- The ASCII form of one mapped label; `none` when it does not pass or is too long. -/
def encodeLabel? (label : Text) : Option Text :=
  let encoded :=
    if label.all (· < 0x80) then (if asciiLabelFits label then some label else none)
    else if Idna.labelFits label then some (Idna.asciiLabel label)
    else none
  encoded.filter (·.length ≤ 63)

/-- The ASCII form of a host; `none` when it has none. -/
def encode? (host : Text) : Option Text := do
  let labels := splitAtDots (← remap host)
  if labels == [[]] then none
  let trailing := labels.getLast? == some []
  let labels := if trailing then labels.dropLast else labels
  let encoded ← labels.mapM encodeLabel?
  let result := Text.intercalate [0x2E] encoded ++ (if trailing then [0x2E] else [])
  if result.length > (if trailing then 254 else 253) then none
  pure result

end Bookmarks.Url.HostMap
