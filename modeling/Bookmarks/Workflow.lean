import Bookmarks.ScriptFilter
import Bookmarks.Usage
import Bookmarks.Search
import Bookmarks.Order.Sort
import Bookmarks.Url.Parts
import Bookmarks.Json.Reader
/-!
One run of the workflow on its arguments.

The query is the arguments joined by spaces and stripped. When it is an `http` or `https` URL
with a network location, its use is counted. Otherwise the bookmarks it selects are ordered
by `usage_count`, greatest first, and their script filter answer is printed on a line.
-/
namespace Bookmarks

open Json

/-- The name of the bookmarks file. -/
def bookmarksFileName : Text := Text.ofString "bookmarks.json"

/-- A text as a file read in text mode gives it: each carriage return, alone or followed by a
line feed, becomes one line feed. -/
def readLines : Text → Text
  | 0x0D :: 0x0A :: rest => 0x0A :: readLines rest
  | 0x0D :: rest => 0x0A :: readLines rest
  | c :: rest => c :: readLines rest
  | [] => []

/-- The bookmarks in the bookmarks file, read with room for `room` arrays and objects one
inside another. -/
def loadBookmarks (room : Nat) : Run Value := do
  match (← get).file with
  | none => throw (.fileMissing bookmarksFileName)
  | some raw =>
    let text := readLines raw
    match readWithin room text with
    | .ok doc => Run.ofExcept (doc.field "bookmarks")
    | .error e => throw (Fault.ofReadError text e)

/-- Whether a query is a URL whose use is to be counted: its scheme is `http` or `https` and
it names a network location. -/
def isVisitedUrl (query : Text) : Except Fault Bool := do
  let parts ← Url.split query
  pure ((parts.scheme == Text.ofString "http" || parts.scheme == Text.ofString "https") &&
    !parts.netloc.isEmpty)

/-- The bookmarks ordered by `usage_count`, greatest first, equal counts in their order. -/
def byUsage (bookmarks : List Value) : Except Fault (List Value) :=
  Order.sortDescendingBy (fun b => b.field "usage_count") Value.lessThan bookmarks

/-- One run of the workflow with the given arguments, where the bookmarks file may nest `room`
arrays and objects one inside another. -/
def runWorkflow (web : Web.Pages) (room : Nat) (args : List Value) : Run Unit := do
  let query := Text.trim (← Run.ofExcept ((Value.array args).joinWith [0x20]))
  let bookmarks ← loadBookmarks room
  if ← Run.ofExcept (isVisitedUrl query) then
    let _ ← updateUsage (.str query) bookmarks
    return
  let selected ← Run.ofExcept (search (.str query) bookmarks)
  let ordered ← Run.ofExcept (byUsage (selected.map Prod.snd))
  let answer ← scriptFilter web (.array ordered)
  Run.print (answer ++ [0x0A])

end Bookmarks
