import Bookmarks.Web.Status
import Bookmarks.Text.Case
/-!
The web as the workflow sees it: a map from request URLs to the pages served at them.

A page has a status code, a reason phrase, headers and a body of bytes. Header names are
compared in lowercase; when a name is given more than once the last one counts. A page
redirects when its status is 301, 302, 303, 307 or 308 and it has a `Location` header.
-/
namespace Bookmarks.Web

/-- A page as the web serves it. -/
structure Page where
  /-- The status code. -/
  status : Int
  /-- The reason phrase. -/
  reason : Text
  /-- The headers, in order. -/
  headers : List (Text × Text)
  /-- The body. -/
  body : List Nat
  deriving DecidableEq, Repr

/-- The pages served, by the exact URL a request is sent to. -/
abbrev Pages := List (Text × Page)

/-- A page that answered a request, with the URL the request was sent to. -/
structure Response where
  /-- The URL the request was sent to. -/
  url : Text
  /-- The page served there. -/
  page : Page
  deriving DecidableEq, Repr

namespace Page

/-- A page with the given status and body, the standard reason phrase and no headers. -/
def plain (status : Int) (body : List Nat) : Page := ⟨status, reasonPhrase status, [], body⟩

/-- The value of a header, its name compared in lowercase; the last one given counts. -/
def header? (p : Page) (name : Text) : Option Text :=
  (p.headers.filter fun h => Text.lower h.1 == Text.lower name).getLast?.map Prod.snd

/-- Whether the status is one that redirects. -/
def redirectStatus (p : Page) : Bool :=
  p.status = 301 || p.status = 302 || p.status = 303 || p.status = 307 || p.status = 308

/-- Where the page redirects to, as the header gives it. -/
def location? (p : Page) : Option Text :=
  if p.redirectStatus then p.header? (Text.ofString "location") else none

end Page

/-- The page served at a URL; of several entries for one URL the last counts. -/
def Pages.page? (web : Pages) (url : Text) : Option Page :=
  ((web.filter fun e => e.1 == url).getLast?).map Prod.snd

end Bookmarks.Web
