import Bookmarks.Text.Utf8
import Bookmarks.Text.Alnum
/-!
Percent-encoding of URLs.

Requoting decodes the escapes of unreserved characters and quotes the URL keeping its
delimiters; when an escape is malformed, the URL is quoted whole with `%` quoted too.
-/
namespace Bookmarks.Url

/-- Bytes that quoting never escapes: ASCII letters and digits and `_.-~`. -/
def alwaysSafe (b : Nat) : Bool :=
  Text.isAlnumAscii b || b = 0x5F || b = 0x2E || b = 0x2D || b = 0x7E

/-- The escape of a byte: `%` and two capital hexadecimal digits. -/
def escapeByte (b : Nat) : Text := 0x25 :: Text.hexPaddedUpper 2 b

/-- Quotes the UTF-8 bytes of a text, keeping the bytes of `safe` and the always-safe ones. -/
def quote (safe : Text) (t : Text) : Text :=
  (Text.utf8Passing t).flatMap fun b => if alwaysSafe b || safe.contains b then [b] else escapeByte b

/-- Characters that need no escape in a URL: unreserved ones. -/
def isUnreserved (c : Nat) : Bool :=
  Text.isAlnumAscii c || c = 0x2D || c = 0x2E || c = 0x5F || c = 0x7E

/-- The value of a digit of base sixteen, or of a decimal digit of any script. -/
def digitValue? (c : Nat) : Option Nat :=
  match Text.hexValue? c with
  | some v => some v
  | none => Text.decimalValue? c

/-- Decodes the escapes of unreserved characters in the pieces after the first `%`; `none`
when an escape of two letters or digits is no number. -/
def unquotePieces : List Text → Option Text
  | [] => some []
  | piece :: rest => do
    let tail ← unquotePieces rest
    match piece with
    | a :: b :: more =>
      if Text.isAlnum a && Text.isAlnum b then
        let value ← (do pure ((← digitValue? a) * 16 + (← digitValue? b)))
        if isUnreserved value then some (value :: more ++ tail)
        else some (0x25 :: piece ++ tail)
      else some (0x25 :: piece ++ tail)
    | _ => some (0x25 :: piece ++ tail)

/-- Decodes the escapes of unreserved characters; `none` for a malformed escape. -/
def unquoteUnreserved (uri : Text) : Option Text :=
  match Text.splitOn uri 0x25 with
  | [] => some []
  | first :: rest => (unquotePieces rest).map (first ++ ·)

/-- Characters kept by requoting. -/
def requoteSafe : Text := Text.ofString "!#$%&'()*+,/:;=?@[]~"

/-- Characters kept by requoting after a malformed escape. -/
def requoteSafeWithoutPercent : Text := Text.ofString "!#$&'()*+,/:;=?@[]~"

/-- Makes a URL safe to send. -/
def requote (uri : Text) : Text :=
  match unquoteUnreserved uri with
  | some u => quote requoteSafe u
  | none => quote requoteSafeWithoutPercent uri

/-- The bytes an ASCII text stands for with every `%` and two hexadecimal digits read as the
byte they spell. -/
def unescapeBytes : Text → List Nat
  | 0x25 :: a :: b :: rest =>
    match Text.hexValue? a, Text.hexValue? b with
    | some x, some y => (16 * x + y) :: unescapeBytes rest
    | _, _ => 0x25 :: unescapeBytes (a :: b :: rest)
  | c :: rest => c :: unescapeBytes rest
  | [] => []

/-- Decodes every escape of a text: each run of ASCII code points is read as the UTF-8 bytes
its escapes spell, with U+FFFD for what is not UTF-8; other code points stay. -/
def unquote (t : Text) : Text :=
  if !t.contains 0x25 then t
  else
    let rec go (fuel : Nat) (t : Text) : Text :=
      match fuel with
      | 0 => t
      | fuel + 1 =>
        match t with
        | [] => []
        | c :: _ =>
          if c < 0x80 then
            let run := t.takeWhile (· < 0x80)
            Text.utf8DecodeReplacing (unescapeBytes run) ++ go fuel (t.drop run.length)
          else
            let run := t.takeWhile (· ≥ 0x80)
            run ++ go fuel (t.drop run.length)
    go t.length t

end Bookmarks.Url
