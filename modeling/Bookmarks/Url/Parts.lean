import Bookmarks.Url.Address
import Bookmarks.Text.Case
import Bookmarks.Text.Quoted
import Bookmarks.Fault
/-!
Splitting a URL into scheme, network location, path, parameters, query and fragment, putting
the parts together again, and resolving a reference against a base URL.

A location with an unbalanced bracket, a bracketed host that is not a version 6 address, and
a location whose compatibility form would hold a delimiter are refused.
-/
namespace Bookmarks.Url

/-- The parts of a split URL. -/
structure Parts where
  scheme : Text
  netloc : Text
  path : Text
  params : Text
  query : Text
  fragment : Text
  deriving DecidableEq, Repr

/-- Characters a scheme may hold. -/
def isSchemeChar (c : Nat) : Bool :=
  Text.isAlnumAscii c || c = 0x2B || c = 0x2D || c = 0x2E

/-- Schemes whose URLs carry a network location. -/
def netlocSchemes : List String :=
  ["", "ftp", "http", "gopher", "nntp", "telnet", "imap", "wais", "file", "mms", "https",
    "shttp", "snews", "prospero", "rtsp", "rtsps", "rtspu", "rsync", "svn", "svn+ssh", "sftp",
    "nfs", "git", "git+ssh", "ws", "wss"]

/-- Schemes whose URLs may be relative. -/
def relativeSchemes : List String :=
  ["", "ftp", "http", "gopher", "nntp", "imap", "wais", "file", "https", "shttp", "mms",
    "prospero", "rtsp", "rtsps", "rtspu", "sftp", "svn", "svn+ssh", "ws", "wss"]

/-- Schemes whose paths may end in parameters after `;`. -/
def paramSchemes : List String :=
  ["", "ftp", "hdl", "prospero", "http", "imap", "https", "shttp", "rtsp", "rtsps", "rtspu",
    "sip", "sips", "mms", "sftp", "tel"]

/-- Whether a scheme is one of a list. -/
def schemeIn (names : List String) (scheme : Text) : Bool :=
  names.any fun n => Text.ofString n == scheme

/-- Code points whose compatibility form holds `/`, `?`, `#`, `@` or `:`. -/
def delimiterLookalikes : List Nat :=
  [0x2047, 0x2048, 0x2049, 0x2100, 0x2101, 0x2105, 0x2106, 0x2A74, 0xFE13, 0xFE16, 0xFE55,
    0xFE56, 0xFE5F, 0xFE6B, 0xFF03, 0xFF0F, 0xFF1A, 0xFF1F, 0xFF20]

/-- Refuses a location whose compatibility form would hold a delimiter. -/
def checkNetloc (netloc : Text) : Except Fault Unit :=
  let rest := netloc.filter fun c => !(c = 0x40 || c = 0x3A || c = 0x23 || c = 0x3F)
  if rest.any delimiterLookalikes.contains then
    .error (.invalidUrl ("netloc '" ++ netloc.toString ++
      "' contains invalid characters under NFKC normalization"))
  else .ok ()

/-- Whether a text is a future address: `v`, hexadecimal digits, a dot, and more. -/
def isFutureAddress (t : Text) : Bool :=
  match t with
  | 0x76 :: rest =>
    let digits := rest.takeWhile Text.isHexDigit
    match rest.drop digits.length with
    | 0x2E :: more => !digits.isEmpty && !more.isEmpty && !more.contains 0x0A
    | _ => false
  | _ => false

/-- Refuses a bracketed host that is no version 6 or future address. -/
def checkBracketedHost (host : Text) : Except Fault Unit :=
  if host.head? == some 0x76 then
    if isFutureAddress host then .ok () else .error (.invalidUrl "IPvFuture address is invalid")
  else if isIPv4 host then .error (.invalidUrl "An IPv4 address cannot be in brackets")
  else if isIPv6 host then .ok ()
  else .error (.invalidUrl ((Text.literal host).toString ++
    " does not appear to be an IPv4 or IPv6 address"))

/-- The end of a location that starts the text: the first `/`, `?` or `#`. -/
def netlocEnd (t : Text) : Nat :=
  (t.findIdx? fun c => c = 0x2F || c = 0x3F || c = 0x23).getD t.length

/-- Splits the path into path and parameters after the `;` in its last segment. -/
def splitParams (path : Text) : Text × Text :=
  let lastSlash := match Text.splitLast? path 0x2F with
    | some (before, _) => before.length
    | none => 0
  match (path.drop lastSlash).findIdx? (· = 0x3B) with
  | some k => (path.take (lastSlash + k), path.drop (lastSlash + k + 1))
  | none => (path, [])

/-- Splits a URL into its parts. -/
def split (url : Text) : Except Fault Parts := do
  let url := (url.dropWhile fun c => c ≤ 0x20).filter fun c => !(c = 0x09 || c = 0x0A || c = 0x0D)
  let (scheme, rest) :=
    match url.findIdx? (· = 0x3A) with
    | some i =>
      if i > 0 && (url.head?.map Text.isAlphaAscii).getD false && (url.take i).all isSchemeChar
      then (Text.lowerAsciiAll (url.take i), url.drop (i + 1))
      else ([], url)
    | none => ([], url)
  let (netloc, rest) ←
    if rest.take 2 == [0x2F, 0x2F] then do
      let body := rest.drop 2
      let netloc := body.take (netlocEnd body)
      let openCount := netloc.contains 0x5B
      let closeCount := netloc.contains 0x5D
      if openCount != closeCount then .error (.invalidUrl "Invalid IPv6 URL")
      if openCount && closeCount then
        let afterOpen := ((Text.splitFirst? netloc 0x5B).map Prod.snd).getD []
        let host := ((Text.splitFirst? afterOpen 0x5D).map Prod.fst).getD afterOpen
        checkBracketedHost host
      pure (netloc, body.drop (netlocEnd body))
    else pure ([], rest)
  let (rest, fragment) := (Text.splitFirst? rest 0x23).getD (rest, [])
  let (path, query) := (Text.splitFirst? rest 0x3F).getD (rest, [])
  if !netloc.all Text.isAscii then checkNetloc netloc
  let (path, params) :=
    if schemeIn paramSchemes scheme && path.contains 0x3B then splitParams path else (path, [])
  pure ⟨scheme, netloc, path, params, query, fragment⟩

/-- Puts split parts together again. The `//` of a location is written when there is a
location, or when the scheme is one that carries a location and the path does not itself
start with `//`; such a path then reads as the location when the result is split again. -/
def Parts.unsplit (p : Parts) : Text :=
  let path := if p.params.isEmpty then p.path else p.path ++ 0x3B :: p.params
  let path :=
    if !p.netloc.isEmpty ||
        (!p.scheme.isEmpty && schemeIn netlocSchemes p.scheme && path.take 2 != [0x2F, 0x2F]) then
      let path := if !path.isEmpty && path.head? != some 0x2F then 0x2F :: path else path
      [0x2F, 0x2F] ++ p.netloc ++ path
    else path
  let url := if p.scheme.isEmpty then path else p.scheme ++ 0x3A :: path
  let url := if p.query.isEmpty then url else url ++ 0x3F :: p.query
  if p.fragment.isEmpty then url else url ++ 0x23 :: p.fragment

/-- The host named by a location: after the last `@`, inside brackets or before a colon,
lowercased up to a scope. -/
def Parts.hostname (p : Parts) : Text :=
  let hostinfo := ((Text.splitLast? p.netloc 0x40).map Prod.snd).getD p.netloc
  let host :=
    match Text.splitFirst? hostinfo 0x5B with
    | some (_, bracketed) => ((Text.splitFirst? bracketed 0x5D).map Prod.fst).getD bracketed
    | none => ((Text.splitFirst? hostinfo 0x3A).map Prod.fst).getD hostinfo
  match Text.splitFirst? host 0x25 with
  | some (name, zone) => Text.lower name ++ 0x25 :: zone
  | none => Text.lower host

/-- The port a location names: the text after the first colon that follows the host, read
as ASCII decimal digits; `none` when that text is empty. Other text, or a number beyond
65535, is refused. -/
def Parts.port? (p : Parts) : Except Fault (Option Nat) :=
  let hostinfo := ((Text.splitLast? p.netloc 0x40).map Prod.snd).getD p.netloc
  let port :=
    match Text.splitFirst? hostinfo 0x5B with
    | some (_, bracketed) =>
      match Text.splitFirst? bracketed 0x5D with
      | some (_, after) => ((Text.splitFirst? after 0x3A).map Prod.snd).getD []
      | none => []
    | none => ((Text.splitFirst? hostinfo 0x3A).map Prod.snd).getD []
  if port.isEmpty then .ok none
  else if port.all Text.isDigit then
    let n := port.foldl (fun n d => 10 * n + (d - 0x30)) 0
    if n ≤ 65535 then .ok (some n) else .error (.invalidUrl "Port out of range 0-65535")
  else .error (.invalidUrl ("Port could not be cast to integer value as " ++ (Text.literal port).toString))

/-- Resolves the path segments of a reference against those of its base. -/
def resolveSegments (segments : List Text) : List Text :=
  let resolved := segments.foldl (fun acc seg =>
    if seg == [0x2E, 0x2E] then acc.dropLast
    else if seg == [0x2E] then acc
    else acc ++ [seg]) []
  match segments.getLast? with
  | some last => if last == [0x2E] || last == [0x2E, 0x2E] then resolved ++ [[]] else resolved
  | none => resolved

/-- Resolves a reference against a base URL. -/
def join (base url : Text) : Except Fault Text := do
  if base.isEmpty then return url
  if url.isEmpty then return base
  let b ← split base
  let u ← split url
  let scheme := if u.scheme.isEmpty then b.scheme else u.scheme
  -- a reference with its own scheme keeps it; splitting with the base's scheme as default
  let u := { u with scheme := scheme }
  if scheme != b.scheme || !schemeIn relativeSchemes scheme then return url
  let netloc ←
    if schemeIn netlocSchemes scheme then
      if !u.netloc.isEmpty then return u.unsplit
      else pure b.netloc
    else pure u.netloc
  if u.path.isEmpty && u.params.isEmpty then
    let query := if u.query.isEmpty then b.query else u.query
    return { u with netloc := netloc, path := b.path, params := b.params, query := query }.unsplit
  let baseParts := Text.splitOn b.path 0x2F
  let baseParts := if baseParts.getLast? != some [] then baseParts.dropLast else baseParts
  let segments :=
    if u.path.head? == some 0x2F then Text.splitOn u.path 0x2F
    else
      let all := baseParts ++ Text.splitOn u.path 0x2F
      match all with
      | [] => []
      | first :: more =>
        let middle := more.dropLast.filter (!·.isEmpty)
        match more.getLast? with
        | some last => first :: middle ++ [last]
        | none => [first]
  let path := Text.intercalate [0x2F] (resolveSegments segments)
  let path := if path.isEmpty then [0x2F] else path
  return { u with netloc := netloc, path := path }.unsplit

end Bookmarks.Url
