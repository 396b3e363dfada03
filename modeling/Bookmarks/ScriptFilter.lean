import Bookmarks.Cover
import Bookmarks.Json.Writer
/-!
The answer to a script filter: the JSON text of the items to show, one per bookmark.

An item has the bookmark's title, a subtitle of its collection, tags and description, its URL
as the argument, and its `cover_image` or else its cover image as the icon.
-/
namespace Bookmarks

open Json

/-- The subtitle of a bookmark. -/
def subtitle (b : Value) : Except Fault Text := do
  let collection ← b.field "collection"
  let tags ← (← b.field "tags").items
  let description ← b.field "description"
  pure ([0x40] ++ collection.display ++ [0x20] ++ tags.flatMap (fun t => 0x23 :: t.display) ++
    [0x30FB] ++ description.display)

/-- The item shown for a bookmark. -/
def scriptItem (web : Web.Pages) (b : Value) : Run Value := do
  let given ← Run.ofExcept (b.fieldOrNull "cover_image")
  let icon ← if given.truthy then pure given
    else Value.str <$> coverImage web (← Run.ofExcept (b.field "url"))
  let sub ← Run.ofExcept (subtitle b)
  let title ← Run.ofExcept (b.field "title")
  let url ← Run.ofExcept (b.field "url")
  pure (.object [(Text.ofString "title", title), (Text.ofString "subtitle", .str sub),
    (Text.ofString "arg", url), (Text.ofString "icon", .object [(Text.ofString "path", icon)])])

/-- The script filter answer for the bookmarks a value walks through. -/
def scriptFilter (web : Web.Pages) (results : Value) : Run Text := do
  let bookmarks ← Run.ofExcept results.items
  let items ← bookmarks.mapM (scriptItem web)
  pure (write (.object [(Text.ofString "items", .array items)]))

end Bookmarks
