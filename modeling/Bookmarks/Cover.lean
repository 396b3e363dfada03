import Bookmarks.Machine
import Bookmarks.Web.Fetch
import Bookmarks.Markup.Decode
import Bookmarks.Markup.StartTags
import Bookmarks.Digest.Md5
import Bookmarks.Json.Access
/-!
The cover image of a bookmark.

A bookmark's URL names a file in the cover image cache, the MD5 of its UTF-8 bytes with
`.webp`. When that file is missing, the page's `og:image` is fetched, and an answer with status
200 becomes the cached file. Whatever fails after the cache lookup is printed as one line, and
the cover is then the standard bookmark icon.
-/
namespace Bookmarks

open Json Web Markup

/-- The directory of the cover image cache. -/
def cacheDirectory : Text := Text.ofString "cover_image_cache"

/-- The name of the cached cover image of a URL with the given UTF-8 bytes. -/
def cacheFileName (bytes : List Nat) : Text := Md5.hexDigest bytes ++ Text.ofString ".webp"

/-- The icon used when a bookmark has no cover image. -/
def fallbackIcon : Text :=
  Text.ofString "/System/Library/CoreServices/CoreTypes.bundle/Contents/Resources/BookmarkIcon.icns"

/-- Why no cover image could be fetched. -/
inductive Snag where
  /-- A fetch failed. -/
  | fetch (f : Failure)
  /-- The page could not be read as HTML. -/
  | markup (r : Rejection)
  /-- The `og:image` tag has no `content`. -/
  | noContent
  /-- The decoder of this character set broke down while the page's character set was
  guessed. -/
  | decoderBroken (codec : String)
  deriving DecidableEq, Repr

/-- The message of a snag. -/
def Snag.message : Snag → String
  | .fetch f => f.message
  | .markup (.assertion m) =>
    "The markup you provided was rejected by the parser. Trying a different parser or a " ++
      "different encoding may help.\n\nOriginal exception(s) from parser:\n AssertionError: " ++ m
  | .markup (.digitLimit n) =>
    s!"Exceeds the limit ({decimalDigitLimit} digits) for integer string conversion: value has " ++
      s!"{n} digits; use sys.set_int_max_str_digits() to increase the limit"
  | .noContent => "'content'"
  | .decoderBroken codec =>
    "decoding with '" ++ codec ++ "' codec failed (RuntimeError: internal codec error)"

/-- The line printed when no cover image could be fetched for a URL. -/
def Snag.note (snag : Snag) (url : Text) : Text :=
  Text.ofString "Error fetching cover image for " ++ url ++ Text.ofString ": " ++
    Text.ofString snag.message ++ [0x0A]

/-- The value of an attribute: of several with the name the last counts, and one without a
value is empty. -/
def attribute? (tag : StartTag) (name : String) : Option Text :=
  (tag.attrs.filter fun a => a.1 == Text.ofString name).getLast?.map fun a => a.2.getD []

/-- The first `<meta>` tag whose `property` is `og:image`. -/
def imageTag? (tags : List StartTag) : Option StartTag :=
  tags.find? fun t => t.name == Text.ofString "meta" && attribute? t "property" == some (Text.ofString "og:image")

/-- A download of a cover image: it fails with a snag or gives the image's bytes, when there
is an image, and records the URLs it sends requests to. -/
abbrev Download := ExceptT Snag (StateM (List Text))

/-- A fetch as part of a download. -/
def Download.ofFetch {α : Type} (f : Fetch α) : Download α := ExceptT.adapt Snag.fetch f

/-- Fetches the page at a URL and the image its `og:image` tag names. -/
def download (web : Pages) (url : Text) : Download (Option (List Nat)) := do
  let page ← Download.ofFetch (fetch web url)
  Download.ofFetch (raiseForStatus page)
  let text ← match decodePage page.page.body with
    | .ok text => pure text
    | .error codec => throw (.decoderBroken codec)
  let tags ← match startTags text with
    | .ok tags => pure tags
    | .error r => throw (.markup r)
  match imageTag? tags with
  | none => pure none
  | some tag =>
    match attribute? tag "content" with
    | none => throw .noContent
    | some content =>
      if content.isEmpty then pure none
      else
        let image ← Download.ofFetch (fetch web content)
        pure (if image.page.status = 200 then some image.page.body else none)

/-- The cover image of a bookmark URL: the path of its cached file, or the standard icon. A
URL that is not a text, or that UTF-8 cannot carry, is a fault. -/
def coverImage (web : Pages) (url : Value) : Run Text := do
  let text ← match url with
    | .str s => pure s
    | other => throw (.noAttribute other.kind "encode")
  let bytes ← match Text.utf8 text with
    | .ok b => pure b
    | .error r => throw (.unencodable "utf-8" text r.start r.stop r.reason)
  let name := cacheFileName bytes
  let path := cacheDirectory ++ [0x2F] ++ name
  let m ← get
  if m.cache.any (·.1 == name) then return path
  let (outcome, sent) := (download web text).run.run m.sent
  set { m with sent := sent }
  match outcome with
  | .ok (some body) =>
    Run.writeCache name body
    pure path
  | .ok none => pure fallbackIcon
  | .error snag =>
    Run.print (snag.note text)
    pure fallbackIcon

end Bookmarks
