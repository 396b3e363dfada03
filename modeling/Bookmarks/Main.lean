import Bookmarks.Workflow
import Bookmarks.Markup.Decode
import Bookmarks.Text.Utf8
/-!
The command line: the workflow run on the program's arguments, against the bookmarks file
`bookmarks.json` and the cover image cache `cover_image_cache` in the working directory.

This is the one place that touches the world: it reads the bookmarks file and the cached
cover images, runs the workflow on the pure `Machine`, then writes back what changed and
prints what was printed. No request leaves the machine. A fault ends the program with exit
status 1.
-/
namespace Bookmarks.CommandLine

open Json

/-- The bookmarks file. -/
def bookmarksPath : String := bookmarksFileName.toString

/-- The path of a file in the cover image cache. -/
def cachePath (name : Text) : String := (cacheDirectory ++ [0x2F] ++ name).toString

/-- The bytes of a file, when it can be read. -/
def readBytes? (path : String) : IO (Option (List Nat)) := do
  let .ok bytes ← (IO.FS.readBinFile path).toBaseIO | return none
  return some (bytes.toList.map UInt8.toNat)

/-- The cache files the bookmarks of a file's text can ask for: one for each bookmark whose
`url` is a text. -/
def cacheCandidates (file : Text) : List Text :=
  match read (readLines file) with
  | .ok doc =>
    match doc.field "bookmarks" with
    | .ok (.array bookmarks) => bookmarks.filterMap fun b =>
      match b.field "url" with
      | .ok (.str url) => some (cacheFileName (Text.utf8Passing url))
      | _ => none
    | _ => []
  | .error _ => []

/-- The cached files among the candidates, with their bytes. -/
def readCache (names : List Text) : IO (List (Text × List Nat)) :=
  names.filterMapM fun name => do
    return (← readBytes? (cachePath name)).map (name, ·)

/-- The world as the files show it. -/
def loadMachine : IO Machine := do
  IO.FS.createDirAll cacheDirectory.toString
  let file := (← readBytes? bookmarksPath).map fun bytes =>
    (Codec.decode "utf_8" .replace bytes).getD []
  let cache ← readCache ((file.map cacheCandidates).getD [])
  return ⟨file, cache, [], []⟩

/-- Writes back what a run changed: the bookmarks file and the new cache files. -/
def storeMachine (before after : Machine) : IO Unit := do
  if after.file != before.file then
    if let some text := after.file then IO.FS.writeFile bookmarksPath text.toString
  for (name, bytes) in after.cache do
    unless before.cache.contains (name, bytes) do
      IO.FS.writeBinFile (cachePath name) ⟨(bytes.map UInt8.ofNat).toArray⟩

/-- How many arrays and objects the bookmarks file may nest one inside another when the
program runs on its own: a depth of 1000 shared with the seven calls that lead from the
program's start to the reading, less one. -/
def nestingRoom : Nat := 992

/-- Runs the workflow on the arguments and gives the exit status. -/
def run (args : List String) : IO UInt32 := do
  let before ← loadMachine
  let (outcome, after) :=
    (runWorkflow [] nestingRoom (args.map (Value.str ∘ Text.ofString))).run.run before
  storeMachine before after
  IO.print after.output.toString
  match outcome with
  | .ok _ => return 0
  | .error f =>
    IO.eprintln (f.className ++ ": " ++ f.message)
    return 1

end Bookmarks.CommandLine

/-- The program: the workflow on its arguments. -/
def main (args : List String) : IO UInt32 := Bookmarks.CommandLine.run args
