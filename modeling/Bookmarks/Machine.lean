import Bookmarks.Fault
/-!
The world the workflow acts on, and the monad its steps run in.

The world is the bookmarks file (absent, or its text), the files of the cover image cache
(name and bytes, in the order they were made), what has been printed, and the URLs that
requests were sent to. A step may fail with a `Fault`; what it did to the world before
failing stays done.
-/
namespace Bookmarks

/-- The state of the world the workflow acts on. -/
structure Machine where
  /-- The text of the bookmarks file, when there is one. -/
  file : Option Text
  /-- The files of the cover image cache: name and bytes. -/
  cache : List (Text × List Nat)
  /-- Everything printed so far. -/
  output : Text
  /-- The URLs requests were sent to, in order. -/
  sent : List Text
  deriving DecidableEq, Repr

/-- A step of the workflow: it acts on the world and gives a value, or stops with a fault. -/
abbrev Run := ExceptT Fault (StateM Machine)

namespace Run

/-- A value or a fault, as a step. -/
def ofExcept {α : Type} (r : Except Fault α) : Run α :=
  match r with
  | .ok a => pure a
  | .error f => throw f

/-- Prints a text. -/
def print (t : Text) : Run Unit := modify fun m => { m with output := m.output ++ t }

/-- Writes a file of the cover image cache, replacing one of the same name. -/
def writeCache (name : Text) (bytes : List Nat) : Run Unit :=
  modify fun m => { m with cache := m.cache.filter (·.1 != name) ++ [(name, bytes)] }

/-- Writes the bookmarks file. -/
def writeFile (t : Text) : Run Unit := modify fun m => { m with file := some t }

end Run

end Bookmarks
