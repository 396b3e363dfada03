import Bookmarks.Json.Access
import Bookmarks.Text.Blank
import Bookmarks.Similarity.Score
/-!
Searching bookmarks with a query.

A query's words may name filters: `@name` for a collection, `##tag` for tags all present and
`#tag` for a tag among several; they apply in that order and keep the order of the list. A
query without filters ranks the bookmarks by fuzzy similarity to their title, tags and
description, keeping those whose mean score is above 50, best first. A query that is not
truthy keeps every bookmark. Bookmarks are carried with their positions in the list.
-/
namespace Bookmarks

open Json

/-- The filters a query names. -/
structure Query where
  /-- Lowercased collection prefixes, from words `@name`. -/
  collections : List Text
  /-- Lowercased tag prefixes of which one must begin some tag, from words `#tag`. -/
  anyTags : List Text
  /-- Lowercased tag prefixes that must all begin some tag, from words `##tag`. -/
  allTags : List Text
  deriving DecidableEq, Repr

namespace Query

/-- The filters named by the words of a query. -/
def parse (query : Text) : Query :=
  let parts := Text.words (Text.trim query)
  { collections := (parts.filter (·.startsWith [0x40])).map fun p => Text.lower (p.drop 1)
    anyTags := (parts.filter fun p => p.startsWith [0x23] && !p.startsWith [0x23, 0x23]).map
      fun p => Text.lower (p.drop 1)
    allTags := (parts.filter (·.startsWith [0x23, 0x23])).map fun p => Text.lower (p.drop 2) }

/-- Whether the query names any filter. -/
def filters (q : Query) : Bool :=
  !q.collections.isEmpty || !q.allTags.isEmpty || !q.anyTags.isEmpty

end Query

/-- A bookmark with its position in the searched list. -/
abbrev Entry := Nat × Value

/-- Whether some item satisfies a test, testing in order and stopping at the first success;
the first fault stops it too. -/
def anyM {α : Type} (test : α → Except Fault Bool) : List α → Except Fault Bool
  | [] => .ok false
  | x :: rest => do if (← test x) then pure true else anyM test rest

/-- Whether every item satisfies a test, testing in order and stopping at the first
failure; the first fault stops it too. -/
def allM {α : Type} (test : α → Except Fault Bool) : List α → Except Fault Bool
  | [] => .ok true
  | x :: rest => do if (← test x) then allM test rest else pure false

/-- The entries that satisfy a test, in order. -/
def filterM (test : Value → Except Fault Bool) : List Entry → Except Fault (List Entry)
  | [] => .ok []
  | e :: rest => do
    let keep ← test e.2
    let kept ← filterM test rest
    pure (if keep then e :: kept else kept)

/-- Whether the bookmark's collection, lowercased, starts with `name`. -/
def inCollection (b : Value) (name : Text) : Except Fault Bool := do
  let collection ← (← b.field "collection").lowered
  pure (collection.startsWith name)

/-- Whether `p` begins some tag of the bookmark. -/
def tagged (b : Value) (p : Text) : Except Fault Bool := do
  let tags ← (← b.field "tags").items
  anyM (fun tag => tag.startsWithText p) tags

/-- Applies the filters a query names, in order: collections, all-tags, any-tags. -/
def applyFilters (q : Query) (entries : List Entry) : Except Fault (List Entry) := do
  let entries ← if q.collections.isEmpty then pure entries
    else filterM (fun b => anyM (inCollection b) q.collections) entries
  let entries ← if q.allTags.isEmpty then pure entries
    else filterM (fun b => allM (tagged b) q.allTags) entries
  if q.anyTags.isEmpty then pure entries
  else filterM (fun b => anyM (tagged b) q.anyTags) entries

/-- The text a query is matched against: the lowercased title, tags joined by spaces, and
description, separated by spaces. -/
def searchable (b : Value) : Except Fault Text := do
  let title ← (← b.field "title").lowered
  let tags := Text.lower (← (← b.field "tags").joinWith [0x20])
  let description ← (← b.field "description").lowered
  pure (title ++ [0x20] ++ tags ++ [0x20] ++ description)

/-- Twice a bookmark's score against the lowercased query `q`: its partial score, with 20
more when its lowercased title starts with `q`, plus its score. -/
def doubledScore (q : Text) (b : Value) : Except Fault Nat := do
  let s ← searchable b
  let bonus := if (← (← b.field "title").lowered).startsWith q then 20 else 0
  pure (Similarity.partialRatio q s + bonus + Similarity.ratio q s)

/-- The entries ranked by score, best first, ties in list order, keeping those above 50. -/
def rank (q : Text) (entries : List Entry) : Except Fault (List Entry) := do
  let scored ← entries.mapM fun e => do pure (e, ← doubledScore q e.2)
  let sorted := scored.mergeSort fun x y => x.2 ≥ y.2
  pure ((sorted.filter (·.2 > 100)).map Prod.fst)

/-- The bookmarks a query selects from a list, with their positions. A query that is not
truthy selects every bookmark; any other query must be a text. -/
def search (query : Value) (bookmarks : Value) : Except Fault (List Entry) := do
  let entries := (← bookmarks.items).zipIdx.map fun (b, k) => (k, b)
  if !query.truthy then pure entries
  else
    let text ← query.asText "strip"
    let q := Query.parse text
    if q.filters then applyFilters q entries
    else rank (Text.lower text) entries

end Bookmarks
