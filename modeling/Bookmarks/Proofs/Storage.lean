import Bookmarks.Proofs.Json.ReadBack
import Bookmarks.Usage
import Bookmarks.Workflow
/-!
Saving the bookmarks file and loading it again.

Saving storable bookmarks writes the indented layout of their document, which text mode reads
as it is, and loading it gives them back when the reader has room for the nesting. Each
operation has its run lemma, and the round trip is assembled from them.
-/
namespace Bookmarks

open Json

namespace Run

variable {α β : Type} {m m' : Machine}

/-- A step that succeeds hands its value and its world to the next. -/
theorem run_bind_ok {x : Run α} {f : α → Run β} {a : α} (h : x.run.run m = (.ok a, m')) :
    (x >>= f).run.run m = (f a).run.run m' := by
  simp only [ExceptT.run_bind, StateT.run_bind, h]
  rfl

/-- A step that fails stops the run with its fault and its world. -/
theorem run_bind_error {x : Run α} {f : α → Run β} {fault : Fault} (h : x.run.run m = (.error fault, m')) :
    (x >>= f).run.run m = (.error fault, m') := by
  simp only [ExceptT.run_bind, StateT.run_bind, h]
  rfl

/-- A bound step runs the first part, and on a success what follows it. -/
theorem run_bind (x : Run α) (f : α → Run β) :
    (x >>= f).run.run m = match x.run.run m with
      | (.ok a, m') => (f a).run.run m'
      | (.error fault, m') => (.error fault, m') := by
  rcases h : x.run.run m with ⟨_ | a, m'⟩
  · exact run_bind_error h
  · exact run_bind_ok h

theorem run_map (g : α → β) (x : Run α) :
    (g <$> x).run.run m = match x.run.run m with
      | (.ok a, m') => (.ok (g a), m')
      | (.error fault, m') => (.error fault, m') := by
  rw [← bind_pure_comp, run_bind]
  rfl

theorem run_pure (a : α) : (pure a : Run α).run.run m = (.ok a, m) := rfl

theorem run_throw (fault : Fault) : (throw fault : Run α).run.run m = (.error fault, m) := rfl

theorem run_get : (get : Run Machine).run.run m = (.ok m, m) := rfl

theorem run_set (m' : Machine) : (set m' : Run PUnit).run.run m = (.ok (), m') := rfl

theorem run_print (t : Text) : (print t).run.run m = (.ok (), { m with output := m.output ++ t }) :=
  rfl

theorem run_writeCache (name : Text) (bytes : List Nat) :
    (writeCache name bytes).run.run m =
      (.ok (), { m with cache := m.cache.filter (·.1 != name) ++ [(name, bytes)] }) := rfl

theorem run_writeFile (t : Text) : (writeFile t).run.run m = (.ok (), { m with file := some t }) :=
  rfl

theorem run_ofExcept (r : Except Fault α) : (ofExcept r).run.run m = (r, m) := by
  cases r <;> rfl

end Run

/-- Text in the indented layout is its own text-mode reading: it holds no carriage return. -/
theorem readLines_of_layoutText {t : Text} (layout : layoutText t = true) : readLines t = t := by
  induction t with
  | nil => rfl
  | cons c rest ih =>
    simp only [layoutText_cons, Bool.and_eq_true] at layout
    have notReturn : c ≠ 0x0D := by
      rintro rfl
      simp at layout
    rw [readLines.eq_3 c rest (by simp [notReturn]) notReturn, ih layout.2]

/-- The document a bookmarks file is saved as: an object whose one member holds the
bookmarks. -/
theorem storable_document {bookmarks : Value} (storable : bookmarks.storable = true) :
    (Value.object [(Text.ofString "bookmarks", bookmarks)]).storable = true := by
  simp [Value.storable, storableMembers, storable, Text.ofString, storableText, Text.isHighSurrogate]

/-- The file text of storable bookmarks holds only line feeds and printable ASCII. -/
theorem layoutText_savedText {bookmarks : Value} (storable : bookmarks.storable = true) :
    layoutText (savedText bookmarks) = true :=
  layoutText_writeIndented 0 _ (storable_document storable)

/-- Saving bookmarks whose writing nothing stops writes their whole file text and succeeds. -/
theorem saveBookmarks_of_none {bookmarks : Value}
    (stop : stopIn 0 (.object [(Text.ofString "bookmarks", bookmarks)]) = none) (m : Machine) :
    (saveBookmarks bookmarks).run.run m = (.ok (), { m with file := some (savedText bookmarks) }) := by
  rw [saveBookmarks, stop]
  rfl

/-- Saving bookmarks whose writing an integer stops leaves the file holding what was written
before it, and fails. -/
theorem saveBookmarks_of_some {bookmarks : Value} {written : Text}
    (stop : stopIn 0 (.object [(Text.ofString "bookmarks", bookmarks)]) = some written)
    (m : Machine) :
    (saveBookmarks bookmarks).run.run m = (.error .longInteger, { m with file := some written }) := by
  rw [saveBookmarks, stop]
  rfl

/-- Saving storable bookmarks writes their file text and succeeds. -/
theorem saveBookmarks_run {bookmarks : Value} (storable : bookmarks.storable = true) (m : Machine) :
    (saveBookmarks bookmarks).run.run m = (.ok (), { m with file := some (savedText bookmarks) }) :=
  saveBookmarks_of_none (stopIn_of_storable 0 _ (storable_document storable)) m

/-- Loading a file whose text reads as a document gives the document's bookmarks, and changes
nothing. -/
theorem loadBookmarks_run {room : Nat} {t : Text} {doc : Value} {m : Machine}
    (file : m.file = some t) (read : readWithin room (readLines t) = .ok doc) :
    (loadBookmarks room).run.run m = (doc.field "bookmarks", m) := by
  have world : (get : Run Machine).run.run m = (.ok m, m) := rfl
  unfold loadBookmarks
  rw [Run.run_bind_ok world]
  simp only [file, read]
  exact Run.run_ofExcept _

/-- The saved text of storable bookmarks reads back as their document, when reading leaves room
for the document around them. -/
theorem readWithin_savedText {room : Nat} {bookmarks : Value} (storable : bookmarks.storable = true)
    (fits : bookmarks.nesting < room) :
    readWithin room (readLines (savedText bookmarks)) =
      .ok (.object [(Text.ofString "bookmarks", bookmarks)]) := by
  rw [readLines_of_layoutText (layoutText_savedText storable), savedText]
  exact readWithin_writeIndented (storable_document storable)
    (by simp [Value.nesting, membersNesting]; omega)

theorem field_bookmarks (bookmarks : Value) :
    (Value.object [(Text.ofString "bookmarks", bookmarks)]).field "bookmarks" = .ok bookmarks := by
  simp [Value.field, Object.get?]

/-- Saving storable bookmarks, when reading leaves room for the document around them, writes
ASCII text from which loading gives them back unchanged, whatever the world held before. -/
theorem load_after_save {room : Nat} {bookmarks : Value} (storable : bookmarks.storable = true)
    (fits : bookmarks.nesting < room) (m : Machine) :
    (do saveBookmarks bookmarks; loadBookmarks room).run.run m =
        (.ok bookmarks, { m with file := some (savedText bookmarks) }) ∧
      ∀ c ∈ savedText bookmarks, c < 0x80 := by
  have layout := layoutText_savedText storable
  refine ⟨?_, ?_⟩
  · have read : readWithin room (readLines (savedText bookmarks)) =
        .ok (.object [(Text.ofString "bookmarks", bookmarks)]) := by
      rw [readLines_of_layoutText layout, savedText]
      exact readWithin_writeIndented (storable_document storable)
        (by simp [Value.nesting, membersNesting]; omega)
    rw [Run.run_bind_ok (saveBookmarks_run storable m), loadBookmarks_run rfl read,
      field_bookmarks]
  · intro c member
    have printable := List.all_eq_true.mp layout c member
    simp only [Bool.or_eq_true, beq_iff_eq, Bool.and_eq_true, decide_eq_true_eq] at printable
    omega

/-- A list holding a lone surrogate with a character beyond the basic plane, a not-a-number, a
negative zero and an object comes back from the file. -/
theorem load_after_save_sample :
    (Value.array [.str [0xD800, 0x1F600], .float Binary64.nan, .float (Binary64.zero true),
        .object [([0x61], .int (-12))]]).storable = true ∧
      (Value.array [.str [0xD800, 0x1F600], .float Binary64.nan, .float (Binary64.zero true),
        .object [([0x61], .int (-12))]]).nesting < nestingLimit ∧
      ((do
          saveBookmarks (.array [.str [0xD800, 0x1F600], .float Binary64.nan,
            .float (Binary64.zero true), .object [([0x61], .int (-12))]])
          loadBookmarks nestingLimit).run.run ⟨none, [], [], []⟩ =
        (.ok (.array [.str [0xD800, 0x1F600], .float Binary64.nan, .float (Binary64.zero true),
          .object [([0x61], .int (-12))]]), ⟨some (savedText (.array [.str [0xD800, 0x1F600],
            .float Binary64.nan, .float (Binary64.zero true), .object [([0x61], .int (-12))]])),
            [], [], []⟩) ∧
        ∀ c ∈ savedText (.array [.str [0xD800, 0x1F600], .float Binary64.nan,
          .float (Binary64.zero true), .object [([0x61], .int (-12))]]), c < 0x80) :=
  ⟨by decide, by decide, load_after_save (by decide) (by decide) ⟨none, [], [], []⟩⟩

end Bookmarks
