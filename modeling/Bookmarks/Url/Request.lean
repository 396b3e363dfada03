import Bookmarks.Url.Parts
import Bookmarks.Url.Percent
import Bookmarks.Url.IdnaCheck
import Bookmarks.Url.HostMap
import Bookmarks.Text.Blank
/-!
Preparing the URL of an HTTP request: the exact text that is sent, or why there is none.

A URL with a colon that does not start with `http` is sent as it is. Otherwise it is parsed,
and a URL that does not parse, has no scheme or host, or a host starting with `*` or `.`, is
refused. For `http` and `https`, the host is lowercased and its labels beyond ASCII written in
their `xn--` form, the path cleared of dot segments, and each part percent-encoded, keeping the
escapes already there; the URL is then put together and requoted.
-/
namespace Bookmarks.Url

/-- Why a request URL cannot be prepared. -/
inductive Refused where
  /-- No scheme: the URL as given, after dropping leading blanks. -/
  | missingScheme (url : Text)
  /-- No host. -/
  | missingHost (url : Text)
  /-- A host that starts with `*` or `.`. -/
  | badLabel
  /-- A URL that does not parse. -/
  | unparsable (url : Text)
  deriving DecidableEq, Repr

/-- Whether a code point may stand in a registered host name. -/
def isNameChar (c : Nat) : Bool :=
  !(c = 0x5B || c = 0x5D || c = 0x25 || c = 0x3A || c = 0x2F || c = 0x3F || c = 0x23)

/-- The length of the longest registered host name that starts the text: name characters
and escapes of two hexadecimal digits. -/
def nameLength : Text → Nat
  | [] => 0
  | 0x25 :: a :: b :: rest =>
    if Text.isHexDigit a && Text.isHexDigit b then 3 + nameLength rest else 0
  | c :: rest => if isNameChar c then 1 + nameLength rest else 0

/-- The text without one final line feed, which the end of a pattern may stand before. -/
def dropFinalNewline (t : Text) : Text :=
  if t.getLast? == some 0x0A then t.dropLast else t

/-- The port after a colon: leading zeros dropped, at most five digits, the first not zero;
`none` when the text is no port. -/
def portDigits (t : Text) : Option Text :=
  let t := dropFinalNewline t
  let significant := t.dropWhile (· = 0x30)
  if significant.isEmpty then some (if t.isEmpty then [] else [0x30])
  else if significant.all Text.isDigit && significant.length ≤ 5 then some significant
  else none

/-- Whether a text is a group of one to four hexadecimal digits. -/
def isGroup (t : Text) : Bool := !t.isEmpty && t.length ≤ 4 && t.all Text.isHexDigit

/-- Whether a text is four groups of one to three decimal digits separated by dots. -/
def isDottedQuad (t : Text) : Bool :=
  match Text.splitOn t 0x2E with
  | [a, b, c, d] => [a, b, c, d].all fun p => !p.isEmpty && p.length ≤ 3 && p.all Text.isDigit
  | _ => false

/-- The number of groups a colon-separated run stands for, when it is groups possibly ending
in a dotted quad (which counts as two); a quad only counts at the end of the address. -/
def groupCount (t : Text) (atEnd : Bool) : Option Nat :=
  if t.isEmpty then some 0
  else
    let parts := Text.splitOn t 0x3A
    let init := parts.dropLast
    match parts.getLast? with
    | none => some 0
    | some last =>
      if !init.all isGroup then none
      else if isGroup last then some parts.length
      else if atEnd && isDottedQuad last then some (parts.length + 1)
      else none

/-- The position of the first `::` in a text. -/
def doubleColonAt? (t : Text) : Option Nat :=
  (List.range t.length).find? fun k => (t.drop k).take 2 == [0x3A, 0x3A]

/-- Whether a text is a version 6 address as URLs write them: eight groups, or at most seven
around one `::`, the last two possibly a dotted quad. -/
def isAddressPattern (t : Text) : Bool :=
  match doubleColonAt? t with
  | none => groupCount t true == some 8
  | some k =>
    match groupCount (t.take k) false, groupCount (t.drop (k + 2)) true with
    | some l, some r => l + r ≤ 7
    | _, _ => false

/-- Whether a text is a zone body: unreserved characters and escapes, at least one. -/
def isZoneBody (t : Text) : Bool :=
  !t.isEmpty && nameLength t == t.length && t.all fun c => isUnreserved c || c = 0x25

/-- Whether a text is a zone: `%25` or `%`, then a zone body. -/
def isZone (t : Text) : Bool :=
  (t.take 3 == Text.ofString "%25" && isZoneBody (t.drop 3)) ||
    (t.head? == some 0x25 && isZoneBody (t.drop 1))

/-- Whether the text between brackets is a version 6 address with an optional zone. -/
def isBracketed (inner : Text) : Bool :=
  match Text.splitFirst? inner 0x25 with
  | none => isAddressPattern inner
  | some (address, zone) => isAddressPattern address && isZone (0x25 :: zone)

/-- Splits the text after the user information into host and port. -/
def hostAndPort (hp : Text) : Option (Text × Option Text) :=
  let n := nameLength hp
  let rest := hp.drop n
  let afterHost (host rest : Text) : Option (Text × Option Text) :=
    match rest with
    | [] => some (host, none)
    | [0x0A] => some (host, none)
    | 0x3A :: digits =>
      (portDigits digits).map fun p => (host, if p.isEmpty then none else some p)
    | _ => none
  match afterHost (hp.take n) rest with
  | some r => some r
  | none =>
    match hp with
    | 0x5B :: body =>
      match Text.splitFirst? body 0x5D with
      | some (inner, after) =>
        if isBracketed inner then afterHost (0x5B :: inner ++ [0x5D]) after else none
      | none => none
    | _ => none

/-- Characters every part may hold unescaped. -/
def unreservedChars : Text := Text.ofString "ABCDEFGHIJKLMNOPQRSTUVWXYZabcdefghijklmnopqrstuvwxyz0123456789._-~"

/-- Characters allowed unescaped in user information. -/
def userinfoChars : Text := unreservedChars ++ Text.ofString "!$&'()*+,;=:"

/-- Characters allowed unescaped in a path. -/
def pathChars : Text := userinfoChars ++ Text.ofString "@/"

/-- Characters allowed unescaped in a query or fragment. -/
def queryChars : Text := pathChars ++ Text.ofString "?"

/-- Capitalises the digits of every escape, counting the escapes. -/
def upperEscapes : Text → Text × Nat
  | 0x25 :: a :: b :: rest =>
    if Text.isHexDigit a && Text.isHexDigit b then
      let (t, n) := upperEscapes rest
      (0x25 :: Text.upperAscii a :: Text.upperAscii b :: t, n + 1)
    else
      let (t, n) := upperEscapes (a :: b :: rest)
      (0x25 :: t, n)
  | c :: rest => let (t, n) := upperEscapes rest; (c :: t, n)
  | [] => ([], 0)

/-- Percent-encodes the characters of a part outside `allowed`, keeping existing escapes when
every `%` starts one. -/
def encodeInvalid (allowed : Text) (part : Text) : Text :=
  let (part, escapes) := upperEscapes part
  let bytes := Text.utf8Passing part
  let keepPercent := escapes == bytes.count 0x25
  bytes.flatMap fun b =>
    if (keepPercent && b = 0x25) || (b < 0x80 && allowed.contains b) then [b] else escapeByte b

/-- Removes `.` and `..` segments from a path. -/
def removeDotSegments (path : Text) : Text :=
  let segments := Text.splitOn path 0x2F
  let output := segments.foldl (fun out seg =>
    if seg == [0x2E] then out
    else if seg != [0x2E, 0x2E] then out ++ [seg]
    else out.dropLast) []
  let output :=
    if path.head? == some 0x2F && (output.isEmpty || !(output.head?.getD []).isEmpty) then
      [] :: output else output
  let output :=
    if path.endsWith [0x2F, 0x2E] || path.endsWith [0x2F, 0x2E, 0x2E] then output ++ [[]]
    else output
  Text.intercalate [0x2F] output

/-- Whether a host is written as four dotted decimal groups, which are left as they are. -/
def isDottedHost (host : Text) : Bool := isDottedQuad (dropFinalNewline host)

/-- The normal form of a host of an `http` or `https` URL: a bracketed address lowercased up
to its zone, whose `%25` becomes `%`; a dotted quad as it is; otherwise each label in its
ASCII form (`Idna.encodeLabel?`). `none` when a label has no ASCII form. -/
def normalizeHost (host : Text) : Option Text :=
  match host with
  | 0x5B :: _ =>
    let inner := (host.drop 1).takeWhile (· != 0x5D)
    let after := host.drop (inner.length + 1)
    match Text.splitFirst? inner 0x25 with
    | some (address, zone) =>
      let zone := if zone.take 2 == Text.ofString "25" && zone.length > 2 then zone.drop 2 else zone
      some (0x5B :: Text.lowerAsciiAll address ++ 0x25 :: encodeInvalid unreservedChars zone ++ after)
    | none => some (Text.lowerAsciiAll host)
  | _ =>
    if isDottedHost host then some host
    else (Text.intercalate [0x2E]) <$> (Text.splitOn host 0x2E).mapM Idna.encodeLabel?

/-- The pieces of a parsed request URL; absent pieces are `none`. -/
structure Pieces where
  scheme : Option Text
  auth : Option Text
  host : Option Text
  port : Option Nat
  path : Option Text
  query : Option Text
  fragment : Option Text
  deriving DecidableEq, Repr

/-- Whether a URL starts with a scheme and colon, or a slash. -/
def startsWithScheme (url : Text) : Bool :=
  match url with
  | 0x2F :: _ => true
  | c :: rest =>
    Text.isAlphaAscii c &&
      match rest.dropWhile (fun d => Text.isAlnumAscii d || d = 0x2B || d = 0x2D) with
      | 0x3A :: _ => true
      | _ => false
  | [] => false

/-- Parses a request URL into its pieces; `none` when it does not parse. -/
def parsePieces (source : Text) : Option Pieces := do
  if source.isEmpty then
    return ⟨none, none, none, none, none, none, none⟩
  let url := if startsWithScheme source then source else [0x2F, 0x2F] ++ source
  -- the scheme: a letter, then letters, digits, `+`, `-` and `.`, then a colon
  let (scheme, rest) :=
    match url with
    | c :: more =>
      if Text.isAlphaAscii c then
        let body := more.takeWhile fun d => Text.isAlnumAscii d || d = 0x2B || d = 0x2D || d = 0x2E
        match more.drop body.length with
        | 0x3A :: after => (some (Text.lowerAsciiAll (c :: body)), after)
        | _ => (none, url)
      else (none, url)
    | [] => (none, url)
  let (authority, rest) :=
    if rest.take 2 == [0x2F, 0x2F] then
      let body := rest.drop 2
      let a := body.takeWhile fun c => !(c = 0x5C || c = 0x2F || c = 0x3F || c = 0x23)
      (some a, body.drop a.length)
    else (none, rest)
  let path := rest.takeWhile fun c => !(c = 0x3F || c = 0x23)
  let rest := rest.drop path.length
  let (query, rest) :=
    match rest with
    | 0x3F :: more =>
      let q := more.takeWhile (· != 0x23)
      (some q, more.drop q.length)
    | _ => (none, rest)
  let fragment := match rest with
    | 0x23 :: more => some more
    | _ => none
  let normalize := match scheme with
    | none => true
    | some s => s == Text.ofString "http" || s == Text.ofString "https"
  let (auth, host, port) ←
    match authority with
    | some a =>
      if a.isEmpty then some (none, none, none)
      else
        let (auth, hostPort) := (Text.splitLast? a 0x40).getD ([], a)
        let (host, port) ← hostAndPort hostPort
        let auth := if auth.isEmpty then none
          else some (if normalize then encodeInvalid userinfoChars auth else auth)
        some (auth, some host, port)
    | none => some (none, none, none)
  let port ← match port with
    | some p =>
      let value := p.foldl (fun n d => n * 10 + (d - 0x30)) 0
      if value ≤ 65535 then some (some value) else none
    | none => some none
  let host ← match host with
    | some h => if normalize && !h.isEmpty then some <$> normalizeHost h else some (some h)
    | none => some none
  let path := if normalize && !path.isEmpty then
    encodeInvalid pathChars (removeDotSegments path) else path
  let query := query.map fun q => if normalize && !q.isEmpty then encodeInvalid queryChars q else q
  let fragment := fragment.map fun f =>
    if normalize && !f.isEmpty then encodeInvalid queryChars f else f
  let path : Option Text :=
    if path.isEmpty then (if query.isSome || fragment.isSome then some [] else none)
    else some path
  return ⟨scheme, auth, host, port, path, query, fragment⟩

/-- Prepares the URL of a request. -/
def prepare (given : Text) : Except Refused Text :=
  let url := Text.trimLeft given
  if url.contains 0x3A && !(Text.lower url).startsWith (Text.ofString "http") then .ok url
  else
    match parsePieces url with
    | none => .error (.unparsable url)
    | some p =>
      match p.scheme with
      | none => .error (.missingScheme url)
      | some scheme =>
        let host := p.host.getD []
        if scheme.isEmpty then .error (.missingScheme url)
        else if host.isEmpty then .error (.missingHost url)
        else
          let host? :=
            if !host.all (· < 0x80) then HostMap.encode? host
            else if host.head? == some 0x2A || host.head? == some 0x2E then none
            else some host
          match host? with
          | none => .error .badLabel
          | some host =>
            let netloc := (match p.auth with
              | some a => if a.isEmpty then [] else a ++ [0x40]
              | none => []) ++ host ++
              (match p.port with
                | some n => if n = 0 then [] else 0x3A :: Text.ofNat n
                | none => [])
            let path := match p.path with
              | some path => if path.isEmpty then [0x2F] else path
              | none => [0x2F]
            let parts : Parts := ⟨scheme, netloc, path, [], p.query.getD [], p.fragment.getD []⟩
            .ok (requote parts.unsplit)

/-- The message of a refused URL. -/
def Refused.message : Refused → String
  | .missingScheme url =>
    s!"Invalid URL {(Text.literal url).toString}: No scheme supplied. Perhaps you meant https://{url.toString}?"
  | .missingHost url => s!"Invalid URL {(Text.literal url).toString}: No host supplied"
  | .badLabel => "URL has an invalid label."
  | .unparsable url => s!"Failed to parse: {url.toString}"

end Bookmarks.Url
