import Bookmarks.Web.Page
import Bookmarks.Url.Request
import Bookmarks.Fault
/-!
Fetching a URL from the web: preparing the request, sending it, and following redirects.

A request is refused before it is sent when its URL cannot be prepared or split, when its user
information does not fit in Latin-1, or when its scheme is not `http` or `https`. Every request
sent is recorded. A redirect is followed to its `Location`, resolved against the page's URL,
and credentials are dropped when it leaves the host; after 30 redirects the fetch gives up.
-/
namespace Bookmarks.Web

open Json

/-- Why a fetch fails. -/
inductive Failure where
  /-- The URL cannot be prepared. -/
  | refused (r : Url.Refused)
  /-- A URL cannot be split into its parts. -/
  | invalidUrl (message : String)
  /-- User information does not fit in Latin-1: the code points from `start` up to `stop`. -/
  | credentials (text : Text) (start stop : Nat)
  /-- No transport serves the URL's scheme. -/
  | noAdapter (url : Text)
  /-- No page is served at the URL. -/
  | unreachable (url : Text)
  /-- More than 30 redirects. -/
  | tooManyRedirects
  /-- A location does not fit in Latin-1: the code points from `start` up to `stop`. -/
  | locationText (text : Text) (start stop : Nat)
  /-- A location is not UTF-8: the bytes from `start` up to `stop`, and why. -/
  | locationBytes (bytes : List Nat) (start stop : Nat) (reason : String)
  /-- A page answered with a client or server error. -/
  | status (code : Int) (reason : Text) (url : Text)
  deriving DecidableEq, Repr

/-- The message of a refusal to decode bytes. -/
def decodeMessage (codec : String) (bytes : List Nat) (start stop : Nat) (reason : String) : String :=
  if stop = start + 1 then
    s!"'{codec}' codec can't decode byte 0x{(Text.hexPadded 2 (bytes.getD start 0)).toString} in position {start}: {reason}"
  else s!"'{codec}' codec can't decode bytes in position {start}-{stop - 1}: {reason}"

/-- The message of a failure. -/
def Failure.message : Failure → String
  | .refused r => r.message
  | .invalidUrl m => m
  | .credentials t start stop => Fault.encodeMessage "latin-1" t start stop "ordinal not in range(256)"
  | .noAdapter url => s!"No connection adapters were found for {(Text.literal url).toString}"
  | .unreachable url => s!"oracle web has no page for {url.toString}"
  | .tooManyRedirects => "Exceeded 30 redirects."
  | .locationText t start stop => Fault.encodeMessage "latin-1" t start stop "ordinal not in range(256)"
  | .locationBytes b start stop reason => decodeMessage "utf-8" b start stop reason
  | .status code reason url =>
    let kind := if code < 500 then "Client" else "Server"
    s!"{code} {kind} Error: {reason.toString} for url: {url.toString}"

/-- A fetch: it fails or gives a value, and records every URL it sends a request to. -/
abbrev Fetch := ExceptT Failure (StateM (List Text))

/-- Splits a URL, failing as a fetch does. -/
def splitUrl (url : Text) : Fetch Url.Parts :=
  match Url.split url with
  | .ok p => pure p
  | .error f => throw (.invalidUrl f.message)

/-- Whether a request carries credentials from its URL: only a user with a password, not
both empty, is sent, and it must fit in Latin-1 once unescaped. -/
def checkCredentials (p : Url.Parts) : Fetch Bool :=
  match Text.splitLast? p.netloc 0x40 with
  | none => pure false
  | some (info, _) =>
    match Text.splitFirst? info 0x3A with
    | none => pure false
    | some (user, password) =>
      let user := Url.unquote user
      let password := Url.unquote password
      if user.isEmpty && password.isEmpty then pure false
      else
        match Text.latin1 user, Text.latin1 password with
        | .error r, _ => throw (.credentials user r.start r.stop)
        | .ok _, .error r => throw (.credentials password r.start r.stop)
        | .ok _, .ok _ => pure true

/-- The port of a split URL, failing as a fetch does. -/
def portOf (p : Url.Parts) : Fetch (Option Nat) :=
  match p.port? with
  | .ok port => pure port
  | .error f => throw (.invalidUrl f.message)

/-- Whether following a redirect from `old` to `new` drops the credentials: for another host,
or a change of port or scheme other than `http` to `https` on the standard ports. -/
def dropsCredentials (old new : Text) : Fetch Bool := do
  let o ← splitUrl old
  let n ← splitUrl new
  if o.hostname != n.hostname then return true
  let standard (port : Option Nat) (value : Nat) : Bool := port == none || port == some value
  if o.scheme == Text.ofString "http" && standard (← portOf o) 80 &&
      n.scheme == Text.ofString "https" && standard (← portOf n) 443 then
    return false
  let oldPort ← portOf o
  let newPort ← portOf n
  let changedScheme := o.scheme != n.scheme
  let defaultPort :=
    if o.scheme == Text.ofString "http" then some 80
    else if o.scheme == Text.ofString "https" then some 443 else none
  let isDefault (port : Option Nat) : Bool := port == none || (port.isSome && port == defaultPort)
  if !changedScheme && isDefault oldPort && isDefault newPort then return false
  return oldPort != newPort || changedScheme

/-- Sends one request: the scheme must be `http` or `https`; the URL is recorded, and the page
served there answers. -/
def send (web : Pages) (url : Text) : Fetch Response := do
  let low := Text.lower url
  if !(low.startsWith (Text.ofString "https://") || low.startsWith (Text.ofString "http://")) then
    throw (.noAdapter url)
  modify (· ++ [url])
  match web.page? url with
  | some page => pure ⟨url, page⟩
  | none => throw (.unreachable url)

/-- Where a response redirects to, read as UTF-8 from the Latin-1 bytes of its header; an
empty location does not redirect. -/
def redirectTarget (r : Response) : Fetch (Option Text) :=
  match r.page.location? with
  | none => pure none
  | some location =>
    match Text.latin1 location with
    | .error e => throw (.locationText location e.start e.stop)
    | .ok bytes =>
      match Text.utf8Decode bytes with
      | .error e => throw (.locationBytes bytes e.start e.stop e.reason)
      | .ok t => pure (if t.isEmpty then none else some t)

/-- The URL a redirect leads to from the response `r`, with the fragment carried on. -/
def nextUrl (r : Response) (location fragment : Text) : Fetch (Text × Text) := do
  let location ←
    if location.take 2 == [0x2F, 0x2F] then do
      let here ← splitUrl r.url
      pure (here.scheme ++ 0x3A :: location)
    else pure location
  let parts ← splitUrl location
  let (parts, fragment) :=
    if parts.fragment.isEmpty && !fragment.isEmpty then ({ parts with fragment := fragment }, fragment)
    else if !parts.fragment.isEmpty then (parts, parts.fragment)
    else (parts, fragment)
  let url := Url.requote parts.unsplit
  let url ←
    if parts.netloc.isEmpty then
      match Url.join r.url url with
      | .ok u => pure u
      | .error f => throw (.invalidUrl f.message)
    else pure url
  let _ ← splitUrl url
  pure (url, fragment)

/-- Follows the redirects from a response; `hops` redirects were followed before it, and
`credentials` tells whether the request still carries credentials. -/
def follow (web : Pages) (r : Response) (fragment : Text) (credentials : Bool) (hops : Nat) :
    Nat → Fetch Response
  | 0 => pure r
  | fuel + 1 => do
    match ← redirectTarget r with
    | none => pure r
    | some location =>
      if hops ≥ 30 then throw .tooManyRedirects
      let (url, fragment) ← nextUrl r location fragment
      let credentials ← if credentials then (! ·) <$> dropsCredentials r.url url else pure false
      let next ← send web url
      follow web next fragment credentials (hops + 1) fuel

/-- Fetches a URL: prepares it, sends it and follows its redirects. -/
def fetch (web : Pages) (url : Text) : Fetch Response := do
  let prepared ← match Url.prepare url with
    | .ok u => pure u
    | .error r => throw (.refused r)
  let parts ← splitUrl prepared
  let credentials ← checkCredentials parts
  let first ← send web prepared
  follow web first parts.fragment credentials 0 31

/-- Fails for a response whose status is a client or server error. -/
def raiseForStatus (r : Response) : Fetch Unit :=
  if 400 ≤ r.page.status && r.page.status < 600 then throw (.status r.page.status r.page.reason r.url)
  else pure ()

end Bookmarks.Web
