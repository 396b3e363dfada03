import Bookmarks.Markup.References
import Bookmarks.Text.Basic
/-!
Reading the character references in an attribute value of an HTML document.

A numeric reference stands for the code point of its number, a few read as Windows-1252 would,
a surrogate or a number beyond Unicode giving U+FFFD. A named one is the whole name when it is
known, else its longest known beginning; an unknown name is kept with its `&`. A decimal
number longer than 4300 digits is refused.
-/
namespace Bookmarks.Markup

/-- The longest decimal number that can be read. -/
def decimalDigitLimit : Nat := 4300

/-- Halving search for a reference name among the named references at positions `lo` up
to but excluding `hi`. -/
def findNamed (name : String) (lo hi : Nat) : Option (List Nat) :=
  if lo < hi then
    let mid := (lo + hi) / 2
    let (key, value) := namedReferences.getD mid ("", [])
    if name < key then findNamed name lo mid
    else if key < name then findNamed name (mid + 1) hi
    else some value
  else none
termination_by hi - lo

/-- What a named reference stands for, when the name is known. -/
def namedReference? (name : Text) : Option (List Nat) :=
  findNamed name.toString 0 namedReferences.size

/-- The code points a numeric reference stands for. -/
def numericReference (n : Nat) : Text :=
  match remappedNumbers.lookup n with
  | some c => [c]
  | none =>
    if (0xD800 ≤ n && n ≤ 0xDFFF) || n > 0x10FFFF then [0xFFFD]
    else if droppedNumbers.contains n then []
    else [n]

/-- The value of decimal digits. -/
def decimalValue (digits : Text) : Nat := digits.foldl (fun n d => 10 * n + (d - 0x30)) 0

/-- The value of hexadecimal digits. -/
def hexadecimalValue (digits : Text) : Nat :=
  digits.foldl (fun n d => 16 * n + (Text.hexValue? d).getD 0) 0

/-- Whether a code point may stand in a reference name. -/
def isNameChar (c : Nat) : Bool :=
  !(c = 0x09 || c = 0x0A || c = 0x0C || c = 0x20 || c = 0x3C || c = 0x26 || c = 0x23 ||
    c = 0x3B)

/-- A named reference (the name with its `;`, when there is one) as it is read: the whole
name, else its longest known beginning of two or more code points. -/
def readNamed (name : Text) : Text :=
  match namedReference? name with
  | some v => v
  | none =>
    let lengths := (List.range (name.length - 2)).map fun k => name.length - 1 - k
    match lengths.find? fun x => (namedReference? (name.take x)).isSome with
    | some x => ((namedReference? (name.take x)).getD []) ++ name.drop x
    | none => 0x26 :: name

/-- The reference after an `&`: what it reads as and the code points after it, or `none`
when no reference starts there; a decimal number too long to read is refused. -/
def referenceAfter (rest : Text) : Except Nat (Option (Text × Text)) :=
  let dropSemicolon (t : Text) : Text := match t with
    | 0x3B :: more => more
    | other => other
  match rest with
  | 0x23 :: 0x78 :: more | 0x23 :: 0x58 :: more =>
    let digits := more.takeWhile Text.isHexDigit
    if digits.isEmpty then .ok none
    else .ok (some (numericReference (hexadecimalValue digits), dropSemicolon (more.drop digits.length)))
  | 0x23 :: more =>
    let digits := more.takeWhile Text.isDigit
    if digits.isEmpty then .ok none
    else if digits.length > decimalDigitLimit then .error digits.length
    else .ok (some (numericReference (decimalValue digits), dropSemicolon (more.drop digits.length)))
  | _ =>
    let name := (rest.takeWhile isNameChar).take 32
    if name.isEmpty then .ok none
    else
      let after := rest.drop name.length
      match after with
      | 0x3B :: more => .ok (some (readNamed (name ++ [0x3B]), more))
      | _ => .ok (some (readNamed name, after))

/-- Reads every reference of a text, from left to right, after the code points in `acc`
(kept in reverse). -/
def unescapeFrom (acc : Text) : Text → Except Nat Text
  | [] => .ok acc.reverse
  | c :: rest =>
    if c = 0x26 then
      match referenceAfter rest with
      | .error digits => .error digits
      | .ok none => unescapeFrom (c :: acc) rest
      | .ok (some (value, after)) =>
        if _h : after.length < rest.length then unescapeFrom (value.reverse ++ acc) after
        else unescapeFrom (c :: acc) rest
    else unescapeFrom (c :: acc) rest
termination_by t => t.length

/-- Reads every character reference of an attribute value; a decimal reference too long to
read is refused with the number of its digits. -/
def unescape (t : Text) : Except Nat Text :=
  if t.contains 0x26 then unescapeFrom [] t else .ok t

end Bookmarks.Markup
