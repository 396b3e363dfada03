import Bookmarks.Machine
import Bookmarks.Json.Access
import Bookmarks.Json.Compare
import Bookmarks.Json.Dump
/-!
Counting a use of a bookmark and saving the bookmarks.

The first bookmark whose `url` equals the selected URL gets one more `usage_count`, and the
bookmarks are saved, indented by four spaces. The file is opened before the text goes out, so
an integer too long to spell leaves it holding the text before that integer.
-/
namespace Bookmarks

open Json

/-- Counts a use of the first bookmark of a list whose `url` equals `selected`. -/
def countFirstUse (selected : Value) : List Value → Except Fault (List Value)
  | [] => pure []
  | b :: rest => do
    if (← b.field "url").equals selected then
      let count ← (← b.field "usage_count").plusOne
      match b with
      | .object members => pure (.object (Object.insert members (Text.ofString "usage_count") count) :: rest)
      | other => pure (other :: rest)
    else (b :: ·) <$> countFirstUse selected rest

/-- Counts a use of the bookmark whose `url` equals `selected`, among the bookmarks a value
walks through; only a list can hold a bookmark that is counted. -/
def countUse (selected : Value) (bookmarks : Value) : Except Fault Value :=
  match bookmarks with
  | .array items => .array <$> countFirstUse selected items
  | other => do
    let _ ← countFirstUse selected (← other.items)
    pure other

/-- The text of a saved bookmarks file. -/
def savedText (bookmarks : Value) : Text :=
  writeIndented 0 (.object [(Text.ofString "bookmarks", bookmarks)])

/-- Saves the bookmarks into the bookmarks file. -/
def saveBookmarks (bookmarks : Value) : Run Unit :=
  match stopIn 0 (.object [(Text.ofString "bookmarks", bookmarks)]) with
  | some written => do
    Run.writeFile written
    throw .longInteger
  | none => Run.writeFile (savedText bookmarks)

/-- Counts a use of the selected URL and saves the bookmarks; gives them as saved. -/
def updateUsage (selected : Value) (bookmarks : Value) : Run Value := do
  let counted ← Run.ofExcept (countUse selected bookmarks)
  saveBookmarks counted
  pure counted

end Bookmarks
