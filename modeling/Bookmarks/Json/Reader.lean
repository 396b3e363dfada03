import Bookmarks.Json.Value
/-!
Reading JSON text into values, with the extensions a bookmarks file may use: the words
`NaN`, `Infinity` and `-Infinity`, integers of any length up to 4300 digits, and texts that
hold lone surrogates written as `\uXXXX` escapes.

Every failure names a problem and the position where it was found. A high surrogate escape
followed by a low one stands for one code point. Between two nested calls at least one code
point is consumed, so a fuel of twice the text's length and two never runs out.
-/
namespace Bookmarks.Json

-- Powers are the core library's `instPowNat`, also where Mathlib's monoid power is in scope.
attribute [local instance (high)] instPowNat

/-- What reading a JSON text found wrong. -/
inductive Problem where
  | expectingValue
  | expectingPropertyName
  | expectingComma
  | expectingColon
  | unterminatedString
  | controlCharacter
  | invalidEscape
  | invalidUnicodeEscape
  | extraData
  | byteOrderMark
  deriving DecidableEq, Repr

/-- The words of a problem, as its message begins. -/
def Problem.text : Problem → String
  | .expectingValue => "Expecting value"
  | .expectingPropertyName => "Expecting property name enclosed in double quotes"
  | .expectingComma => "Expecting ',' delimiter"
  | .expectingColon => "Expecting ':' delimiter"
  | .unterminatedString => "Unterminated string starting at"
  | .controlCharacter => "Invalid control character at"
  | .invalidEscape => "Invalid \\escape"
  | .invalidUnicodeEscape => "Invalid \\uXXXX escape"
  | .extraData => "Extra data"
  | .byteOrderMark => "Unexpected UTF-8 BOM (decode using utf-8-sig)"

/-- Why a text is not read as a value: a syntax problem at a position, an integer with
more digits than may be converted, or an array (`object` false) or object nested deeper than
reading goes. -/
inductive ReadError where
  | malformed (problem : Problem) (pos : Nat)
  | digitLimit (digits : Nat)
  | tooDeep (object : Bool)
  deriving DecidableEq, Repr

/-- The most digits an integer may have. -/
def digitLimit : Nat := 4300

/-- The most arrays and objects that may stand one inside another when nothing else says how
much room reading has. -/
def nestingLimit : Nat := 988

namespace Reader

/-- The text being read, for reading at positions. -/
abbrev Doc := Array Nat

/-- Whitespace between tokens. -/
def isSpace (c : Nat) : Bool := c = 0x20 || c = 0x09 || c = 0x0A || c = 0x0D

/-- The first position from `i` on that is not whitespace. -/
def skipSpace (doc : Doc) (i : Nat) : Nat :=
  if h : i < doc.size then
    if isSpace doc[i] then skipSpace doc (i + 1) else i
  else i
termination_by doc.size - i

/-- The code point at a position, if there is one. -/
def at? (doc : Doc) (i : Nat) : Option Nat := doc[i]?

/-- Whether the code points from `i` on spell `word`. -/
def spells (doc : Doc) (i : Nat) (word : String) : Bool :=
  (Text.ofString word).zipIdx.all fun (c, k) => at? doc (i + k) == some c

/-- The value of the four hexadecimal digits from `i` on. -/
def hex4? (doc : Doc) (i : Nat) : Option Nat := do
  let a ← (at? doc i).bind Text.hexValue?
  let b ← (at? doc (i + 1)).bind Text.hexValue?
  let c ← (at? doc (i + 2)).bind Text.hexValue?
  let d ← (at? doc (i + 3)).bind Text.hexValue?
  pure (((a * 16 + b) * 16 + c) * 16 + d)

/-- The code point of a one-letter escape. -/
def simpleEscape? (c : Nat) : Option Nat :=
  if c = 0x22 || c = 0x5C || c = 0x2F then some c
  else if c = 0x62 then some 0x08
  else if c = 0x66 then some 0x0C
  else if c = 0x6E then some 0x0A
  else if c = 0x72 then some 0x0D
  else if c = 0x74 then some 0x09
  else none

/-- Reads the rest of a text literal from position `i`, its opening quote standing at
`begin`; `acc` holds the code points read so far, last first. Gives the text and the
position after the closing quote. -/
def scanText (doc : Doc) (begin i : Nat) (acc : Text) : Except ReadError (Text × Nat) :=
  if h : i < doc.size then
    let c := doc[i]
    if c = 0x22 then .ok (acc.reverse, i + 1)
    else if c = 0x5C then
      match at? doc (i + 1) with
      | none => .error (.malformed .unterminatedString begin)
      | some e =>
        if e ≠ 0x75 then
          match simpleEscape? e with
          | some v => scanText doc begin (i + 2) (v :: acc)
          | none => .error (.malformed .invalidEscape i)
        else if i + 6 ≥ doc.size then .error (.malformed .invalidUnicodeEscape (i + 1))
        else
          match hex4? doc (i + 2) with
          | none => .error (.malformed .invalidUnicodeEscape (i + 1))
          | some u =>
            if Text.isHighSurrogate u && i + 12 < doc.size && at? doc (i + 6) == some 0x5C
                && at? doc (i + 7) == some 0x75 then
              match hex4? doc (i + 8) with
              | none => .error (.malformed .invalidUnicodeEscape (i + 7))
              | some low =>
                if Text.isLowSurrogate low then
                  scanText doc begin (i + 12)
                    ((0x10000 + (u - 0xD800) * 0x400 + (low - 0xDC00)) :: acc)
                else scanText doc begin (i + 6) (u :: acc)
            else scanText doc begin (i + 6) (u :: acc)
    else if c ≤ 0x1F then .error (.malformed .controlCharacter i)
    else scanText doc begin (i + 1) (c :: acc)
  else .error (.malformed .unterminatedString begin)
termination_by doc.size - i

/-- The first position from `i` on that is not an ASCII digit. -/
def skipDigits (doc : Doc) (i : Nat) : Nat :=
  if h : i < doc.size then
    if Text.isDigit doc[i] then skipDigits doc (i + 1) else i
  else i
termination_by doc.size - i

/-- Whether the code point at `i` is an ASCII digit. -/
def digitAt (doc : Doc) (i : Nat) : Bool := (at? doc i).any Text.isDigit

/-- The value of a run of ASCII digits. -/
def digitsValue (ds : List Nat) : Nat := ds.foldl (fun n d => n * 10 + (d - 0x30)) 0

/-- The nearest binary64 number to the decimal `(-1)^neg * digits * 10^exponent`. Beyond
`10^400` every value is infinite, and below `10^-400` every value is zero. -/
def decimalToBinary64 (neg : Bool) (digits : Nat) (exponent : Int) : Binary64 :=
  if digits = 0 then Binary64.zero neg
  else
    let size : Int := (Nat.toDigits 10 digits).length
    if exponent + size > 400 then Binary64.withSign neg (Binary64.infinity false)
    else if exponent + size < -400 then Binary64.zero neg
    else if exponent ≥ 0 then Binary64.ofRational neg (digits * 10 ^ exponent.toNat) 1
    else Binary64.ofRational neg digits (10 ^ (-exponent).toNat)

/-- The value of the number text from `start` up to `stop`, whose integer part runs up to
`intEnd` and fraction up to `fracEnd`. -/
def numberValue (doc : Doc) (start intEnd fracEnd stop : Nat) (isFloat : Bool) :
    Except ReadError Value :=
  let slice (a b : Nat) : List Nat := (doc.extract a b).toList
  let neg := at? doc start == some 0x2D
  let intDigits := slice (if neg then start + 1 else start) intEnd
  if !isFloat then
    if intDigits.length > digitLimit then .error (.digitLimit intDigits.length)
    else
      let n : Int := digitsValue intDigits
      .ok (.int (if neg then -n else n))
  else
    let fracDigits := if fracEnd > intEnd then slice (intEnd + 1) fracEnd else []
    let expPart := slice fracEnd stop
    let exponent : Int :=
      match expPart with
      | _ :: 0x2D :: ds => -(digitsValue ds : Int)
      | _ :: 0x2B :: ds => digitsValue ds
      | _ :: ds => digitsValue ds
      | [] => 0
    let digits := digitsValue (intDigits ++ fracDigits)
    .ok (.float (decimalToBinary64 neg digits (exponent - fracDigits.length)))

/-- Where the integer part of a number whose digits start at `j` ends: after a lone zero, or
after a run of digits led by one from 1 to 9; none when no digit stands at `j`. -/
def wholeEnd? (doc : Doc) (j : Nat) : Option Nat :=
  match at? doc j with
  | some c =>
    if 0x31 ≤ c && c ≤ 0x39 then some (skipDigits doc (j + 1))
    else if c = 0x30 then some (j + 1)
    else none
  | none => none

/-- Where the fraction of a number whose integer part ends at `intEnd` ends, and whether there
is one: a point followed by at least one digit. -/
def fractionEnd (doc : Doc) (intEnd : Nat) : Nat × Bool :=
  if intEnd < doc.size - 1 && at? doc intEnd == some 0x2E && digitAt doc (intEnd + 1) then
    (skipDigits doc (intEnd + 2), true)
  else (intEnd, false)

/-- Where the exponent of a number whose fraction ends at `fracEnd` ends, and whether there is
one: an `e` or `E`, an optional sign and at least one digit. -/
def exponentEnd (doc : Doc) (fracEnd : Nat) : Nat × Bool :=
  let last := doc.size - 1
  if fracEnd < last && (at? doc fracEnd == some 0x65 || at? doc fracEnd == some 0x45) then
    let k := fracEnd + 1
    let k := if k < last && (at? doc k == some 0x2D || at? doc k == some 0x2B) then k + 1 else k
    let k := skipDigits doc k
    if digitAt doc (k - 1) then (k, true) else (fracEnd, false)
  else (fracEnd, false)

/-- Reads a number at `start`: an optional minus, an integer part without leading zeros, an
optional fraction and an optional exponent; an exponent without digits is not part of the
number. -/
def scanNumber (doc : Doc) (start : Nat) : Except ReadError (Value × Nat) :=
  let j := if at? doc start == some 0x2D then start + 1 else start
  if j ≥ doc.size && j > start then .error (.malformed .expectingValue start)
  else
    match wholeEnd? doc j with
    | none => .error (.malformed .expectingValue start)
    | some intEnd =>
      let (fracEnd, hasFraction) := fractionEnd doc intEnd
      let (stop, hasExponent) := exponentEnd doc fracEnd
      (numberValue doc start intEnd fracEnd stop (hasFraction || hasExponent)).map
        fun v => (v, stop)

mutual

/-- Reads one value at position `i`, inside `depth` arrays and objects, where at most `room`
may stand one inside another. -/
def scanValue (doc : Doc) (room depth i : Nat) : Nat → Except ReadError (Value × Nat)
  | 0 => .error (.malformed .expectingValue i)
  | fuel + 1 =>
    match at? doc i with
    | none => .error (.malformed .expectingValue i)
    | some c =>
      if c = 0x22 then (scanText doc i (i + 1) []).map fun (t, j) => (.str t, j)
      else if c = 0x7B then
        if depth < room then scanObject doc room (depth + 1) (skipSpace doc (i + 1)) [] true fuel
        else .error (.tooDeep true)
      else if c = 0x5B then
        if depth < room then scanArray doc room (depth + 1) (skipSpace doc (i + 1)) [] true fuel
        else .error (.tooDeep false)
      else if c = 0x6E && i + 3 < doc.size && spells doc i "null" then .ok (.null, i + 4)
      else if c = 0x74 && i + 3 < doc.size && spells doc i "true" then .ok (.bool true, i + 4)
      else if c = 0x66 && i + 4 < doc.size && spells doc i "false" then
        .ok (.bool false, i + 5)
      else if c = 0x4E && i + 2 < doc.size && spells doc i "NaN" then
        .ok (.float Binary64.nan, i + 3)
      else if c = 0x49 && i + 7 < doc.size && spells doc i "Infinity" then
        .ok (.float (Binary64.infinity false), i + 8)
      else if c = 0x2D && i + 8 < doc.size && spells doc i "-Infinity" then
        .ok (.float (Binary64.infinity true), i + 9)
      else scanNumber doc i
termination_by structural fuel => fuel

/-- Reads the elements of an array from position `i`, just past the opening bracket and
whitespace or a comma and whitespace, the array being the `depth`-th one inside another;
`acc` holds the elements read, last first. -/
def scanArray (doc : Doc) (room depth i : Nat) (acc : List Value) (first : Bool) :
    Nat → Except ReadError (Value × Nat)
  | 0 => .error (.malformed .expectingValue i)
  | fuel + 1 =>
    if first && at? doc i == some 0x5D then .ok (.array [], i + 1)
    else
      match scanValue doc room depth i fuel with
      | .error e => .error e
      | .ok (v, j) =>
        let k := skipSpace doc j
        if at? doc k == some 0x5D then .ok (.array (v :: acc).reverse, k + 1)
        else if at? doc k == some 0x2C then
          scanArray doc room depth (skipSpace doc (k + 1)) (v :: acc) false fuel
        else .error (.malformed .expectingComma k)
termination_by structural fuel => fuel

/-- Reads the members of an object from position `i`, just past the opening brace and
whitespace or a comma and whitespace, the object being the `depth`-th one inside another;
`acc` holds the members read. -/
def scanObject (doc : Doc) (room depth i : Nat) (acc : List (Text × Value)) (first : Bool) :
    Nat → Except ReadError (Value × Nat)
  | 0 => .error (.malformed .expectingValue i)
  | fuel + 1 =>
    if first && at? doc i == some 0x7D then .ok (.object [], i + 1)
    else if at? doc i != some 0x22 then .error (.malformed .expectingPropertyName i)
    else
      match scanText doc i (i + 1) [] with
      | .error e => .error e
      | .ok (key, j) =>
        let k := skipSpace doc j
        if at? doc k != some 0x3A then .error (.malformed .expectingColon k)
        else
          match scanValue doc room depth (skipSpace doc (k + 1)) fuel with
          | .error e => .error e
          | .ok (v, m) =>
            let members := Object.insert acc key v
            let n := skipSpace doc m
            if at? doc n == some 0x7D then .ok (.object members, n + 1)
            else if at? doc n == some 0x2C then
              scanObject doc room depth (skipSpace doc (n + 1)) members false fuel
            else .error (.malformed .expectingComma n)
termination_by structural fuel => fuel

end

end Reader

/-- Reads a whole JSON text: one value, with only whitespace around it, where at most `room`
arrays and objects may stand one inside another. A text that starts with U+FEFF is refused at
position zero. -/
def readWithin (room : Nat) (t : Text) : Except ReadError Value :=
  if t.head? == some 0xFEFF then .error (.malformed .byteOrderMark 0)
  else
    let doc := t.toArray
    match Reader.scanValue doc room 0 (Reader.skipSpace doc 0) (2 * doc.size + 2) with
    | .error e => .error e
    | .ok (v, j) =>
      let k := Reader.skipSpace doc j
      if k = doc.size then .ok v else .error (.malformed .extraData k)

/-- Reads a whole JSON text with the usual room for nesting. -/
def read (t : Text) : Except ReadError Value := readWithin nestingLimit t

/-- The line of a position: one more than the line feeds before it. -/
def lineOf (t : Text) (pos : Nat) : Nat := ((t.take pos).filter (· = 0x0A)).length + 1

/-- The column of a position: its distance from the last line feed before it, or from just
before the start. -/
def columnOf (t : Text) (pos : Nat) : Nat :=
  let before := t.take pos
  match (before.reverse.findIdx? (· = 0x0A)) with
  | some k => k + 1
  | none => pos + 1

/-- The message of a syntax problem in the text `t`. -/
def syntaxMessage (t : Text) (problem : Problem) (pos : Nat) : String :=
  s!"{problem.text}: line {lineOf t pos} column {columnOf t pos} (char {pos})"

end Bookmarks.Json
