/-!
Texts as sequences of code points, surrogate halves included: a JSON escape such as `\ud800`
reads as a code point of its own, and only encoding as UTF-8 refuses it.
-/
namespace Bookmarks

/-- A text: its code points in order. -/
abbrev Text := List Nat

namespace Text

/-- The code points of a Lean string. -/
def ofString (s : String) : Text := s.toList.map Char.toNat

/-- A surrogate half, which no UTF encoding carries alone. -/
def isSurrogate (c : Nat) : Bool := 0xD800 ≤ c && c ≤ 0xDFFF

/-- A high surrogate, the first half of a pair. -/
def isHighSurrogate (c : Nat) : Bool := 0xD800 ≤ c && c ≤ 0xDBFF

/-- A low surrogate, the second half of a pair. -/
def isLowSurrogate (c : Nat) : Bool := 0xDC00 ≤ c && c ≤ 0xDFFF

/-- An ASCII decimal digit. -/
def isDigit (c : Nat) : Bool := 0x30 ≤ c && c ≤ 0x39

/-- An ASCII capital letter. -/
def isUpperAscii (c : Nat) : Bool := 0x41 ≤ c && c ≤ 0x5A

/-- An ASCII small letter. -/
def isLowerAscii (c : Nat) : Bool := 0x61 ≤ c && c ≤ 0x7A

/-- An ASCII letter. -/
def isAlphaAscii (c : Nat) : Bool := isUpperAscii c || isLowerAscii c

/-- An ASCII letter or digit. -/
def isAlnumAscii (c : Nat) : Bool := isAlphaAscii c || isDigit c

/-- A code point below 128. -/
def isAscii (c : Nat) : Bool := c < 0x80

/-- The value of an ASCII hexadecimal digit, of either case. -/
def hexValue? (c : Nat) : Option Nat :=
  if isDigit c then some (c - 0x30)
  else if 0x61 ≤ c && c ≤ 0x66 then some (c - 0x61 + 10)
  else if 0x41 ≤ c && c ≤ 0x46 then some (c - 0x41 + 10)
  else none

/-- An ASCII hexadecimal digit. -/
def isHexDigit (c : Nat) : Bool := (hexValue? c).isSome

/-- The small ASCII letter for a capital one; other code points stay. -/
def lowerAscii (c : Nat) : Nat := if isUpperAscii c then c + 32 else c

/-- The capital ASCII letter for a small one; other code points stay. -/
def upperAscii (c : Nat) : Nat := if isLowerAscii c then c - 32 else c

/-- The digit for a value below sixteen, small letters above nine. -/
def hexDigit (d : Nat) : Nat := if d < 10 then 0x30 + d else 0x61 + (d - 10)

/-- The digit for a value below sixteen, capital letters above nine. -/
def hexDigitUpper (d : Nat) : Nat := if d < 10 then 0x30 + d else 0x41 + (d - 10)

/-- The hexadecimal digits of `n`, most significant first, at least one. -/
def hexDigits (n : Nat) : List Nat :=
  if n < 16 then [n] else hexDigits (n / 16) ++ [n % 16]
decreasing_by omega

/-- `n` in small hexadecimal, padded on the left with zeros to `width` digits. -/
def hexPadded (width n : Nat) : Text :=
  let ds := (hexDigits n).map hexDigit
  List.replicate (width - ds.length) 0x30 ++ ds

/-- `n` in capital hexadecimal, padded on the left with zeros to `width` digits. -/
def hexPaddedUpper (width n : Nat) : Text :=
  let ds := (hexDigits n).map hexDigitUpper
  List.replicate (width - ds.length) 0x30 ++ ds

/-- The decimal digits of a natural number, most significant first. -/
def ofNat (n : Nat) : Text := (Nat.toDigits 10 n).map Char.toNat

/-- The decimal text of an integer, with a minus sign when negative. -/
def ofInt (i : Int) : Text :=
  match i with
  | .ofNat n => ofNat n
  | .negSucc n => 0x2D :: ofNat (n + 1)

/-- A Lean string with the same code points; a surrogate, which a Lean string cannot hold,
becomes U+FFFD. Used only on texts that reach the outside world through an encoding that
already refused or escaped surrogates. -/
def toString (t : Text) : String :=
  String.ofList (t.map fun c => if isSurrogate c || c ≥ 0x110000 then '�' else Char.ofNat c)

/-- The ASCII lowering of every code point. -/
def lowerAsciiAll (t : Text) : Text := t.map lowerAscii

/-- Replaces every occurrence of the code point `c` by the text `r`. -/
def replacePoint (t : Text) (c : Nat) (r : Text) : Text :=
  t.flatMap fun d => if d = c then r else [d]

/-- Splits at every occurrence of the code point `sep`; the pieces exclude it, and there is
always one piece more than there are separators. -/
def splitOn (t : Text) (sep : Nat) : List Text :=
  match t with
  | [] => [[]]
  | c :: rest =>
    if c = sep then [] :: splitOn rest sep
    else
      match splitOn rest sep with
      | [] => [[c]]
      | first :: more => (c :: first) :: more

/-- Joins the pieces, with `sep` between each two. -/
def intercalate (sep : Text) (pieces : List Text) : Text :=
  match pieces with
  | [] => []
  | [p] => p
  | p :: more => p ++ sep ++ intercalate sep more

/-- The text before the first occurrence of `c`, and the rest from just after it, if `c`
occurs. -/
def splitFirst? (t : Text) (c : Nat) : Option (Text × Text) :=
  match t with
  | [] => none
  | d :: rest =>
    if d = c then some ([], rest)
    else (splitFirst? rest c).map fun (a, b) => (d :: a, b)

/-- The text before the last occurrence of `c`, and the rest after it, if `c` occurs. -/
def splitLast? (t : Text) (c : Nat) : Option (Text × Text) :=
  (splitFirst? t.reverse c).map fun (a, b) => (b.reverse, a.reverse)

/-- Whether `p` is a prefix of `t`. -/
def startsWith (t p : Text) : Bool := p.isPrefixOf t

/-- Whether `s` is a suffix of `t`. -/
def endsWith (t s : Text) : Bool := s.reverse.isPrefixOf t.reverse

/-- Whether `p` occurs in `t` as a contiguous piece. -/
def includes (t p : Text) : Bool :=
  match t with
  | [] => p.isEmpty
  | c :: rest => p.isPrefixOf (c :: rest) || includes rest p

end Text

end Bookmarks
