import Bookmarks.Codec.Single
import Bookmarks.Codec.Unicode
import Bookmarks.Codec.Escape
import Bookmarks.Codec.Multibyte
import Bookmarks.Url.Nameprep
import Bookmarks.Text.Case
/-!
The registry of character sets: looking a name up, and decoding bytes in the character set it
names.

A name is looked up as the registry compares names: lowercased, every run of other characters
than ASCII letters, digits and `.` made one `_`, then through the table of other names, then
with dots made underscores; a name is known by itself only without a dot.
-/
namespace Bookmarks.Codec

/-! ## Names -/

/-- A character set name the way the registry compares names: lowercased ASCII letters,
digits and dots, every other run made one `_` (none at either end); `none` for a name with a
NUL or a surrogate, which the registry refuses. -/
def normalizeName (name : Text) : Option Text :=
  if name.any (fun c => c = 0 || Text.isSurrogate c) then none
  else
    let keep (c : Nat) : Bool := Text.isAlnumAscii c || c = 0x2E
    let step (acc : Text × Bool) (c : Nat) : Text × Bool :=
      let (out, gap) := acc
      if keep c then ((if gap && !out.isEmpty then out ++ [0x5F] else out) ++ [Text.lowerAscii c], false)
      else (out, true)
    some (name.foldl step ([], false)).1

/-- The character set a name stands for. -/
def lookup? (name : Text) : Option String := do
  let norm ← normalizeName name
  let lookupAlias (t : Text) : Option String := charsetAliases.lookup t.toString
  match lookupAlias norm with
  | some m => some m
  | none =>
    match lookupAlias (norm.map fun c => if c = 0x2E then 0x5F else c) with
    | some m => some m
    | none => if !norm.contains 0x2E && charsetNames.contains norm.toString then some norm.toString else none

/-! ## Decoding -/

/-- Whether a character set is read in units of several bytes: the Unicode encodings and the
double-byte character sets. -/
def isMultiByte (codec : String) : Bool :=
  ["utf_8", "utf_8_sig", "utf_16", "utf_16_be", "utf_16_le", "utf_32", "utf_32_le",
    "utf_32_be", "utf_7"].contains codec || isDoubleByte codec

/-- Reads one label of a host written in its ASCII form: a label after `xn--` as Punycode,
which must spell a label whose ASCII form is the label again, lowercased; any other label as
it is. -/
def idnaLabel? (label : Text) : Option Text :=
  if label.length > 1024 then none
  else if (Text.ofString "xn--").isPrefixOf label then do
    let result ← Url.Idna.decodePunycode (label.drop 4)
    let again ← Url.Nameprep.toAscii? result
    if again != Text.lowerAsciiAll label then none else some result
  else some label

/-- Reads a host written in its ASCII form, label by label. Bytes beyond ASCII cannot be
read, and only a strict decoding is offered. -/
def idnaDecode (errors : Errors) (bytes : List Nat) : Option Text :=
  if errors != .strict || !bytes.all (· < 0x80) then none
  else ((Text.splitOn bytes 0x2E).mapM idnaLabel?).map (Text.intercalate [0x2E])

/-- Reads Punycode as a character set: the bytes before the last hyphen are the basic code
points, read as ASCII under the handling of errors, and those after it, which must all be
ASCII, are the integers that insert the others. Only a strict reading fails on an integer
that does not read or on a code point beyond `0x10FFFF`. -/
def punycodeDecode (errors : Errors) (bytes : List Nat) : Option Text :=
  let (basic, extended) := (Text.splitLast? bytes 0x2D).getD ([], bytes)
  if !extended.all (· < 0x80) then none
  else do
    let basic ← errors.finish (asciiPieces basic)
    Url.Idna.insertAll (errors != .strict) extended basic 0x80 0 72 true (extended.length + 1)

/-- How reading bytes in a character set ends: no bytes read as no text whatever the name,
since the registry is not asked for an empty input; otherwise `unreadable` also when the
character set is not one that text is read in. -/
def decodeOutcome (codec : String) (errors : Errors) (bytes : List Nat) : Decoded :=
  let finish (pieces : List Piece) : Decoded := errors.outcome pieces
  if bytes.isEmpty then .text []
  else
    match codec with
    | "utf_8" => finish (utf8Pieces bytes)
    | "utf_8_sig" =>
      finish (utf8Pieces (if bytesStartWith bytes [0xEF, 0xBB, 0xBF] then bytes.drop 3 else bytes))
    | "latin_1" | "charmap" => .text bytes
    | "ascii" => finish (asciiPieces bytes)
    | "utf_16" => finish (utf16MarkedPieces bytes)
    | "utf_16_le" => finish (utf16Pieces true bytes)
    | "utf_16_be" => finish (utf16Pieces false bytes)
    | "utf_32" => finish (utf32MarkedPieces bytes)
    | "utf_32_le" => finish (utf32Pieces true bytes)
    | "utf_32_be" => finish (utf32Pieces false bytes)
    | "utf_7" => finish (utf7Pieces bytes)
    | "unicode_escape" => finish (unicodeEscapePieces bytes)
    | "raw_unicode_escape" => finish (rawEscapePieces bytes)
    | "idna" =>
      match idnaDecode errors bytes with
      | some t => .text t
      | none => .unreadable
    | "punycode" =>
      match punycodeDecode errors bytes with
      | some t => .text t
      | none => .unreadable
    | other =>
      match doubleBytePieces other bytes with
      | some pieces => finish pieces
      | none =>
        match tableOf? other with
        | some table => finish (tablePieces table bytes)
        | none => .unreadable

/-- Reads bytes in a character set; `none` when the character set is not one that text is
read in, when the decoding is strict and some bytes cannot be read, or when the decoder
breaks down. -/
def decode (codec : String) (errors : Errors) (bytes : List Nat) : Option Text :=
  (decodeOutcome codec errors bytes).toOption

end Bookmarks.Codec
