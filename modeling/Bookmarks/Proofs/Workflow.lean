import Bookmarks.Proofs.Order.Faults
import Bookmarks.Proofs.Counting
/-!
What one run of the workflow prints.

A bookmarks file is well formed when its bookmarks are objects with texts for `title`, `url`,
`collection` and `description`, a list of texts for `tags` and a number for `usage_count`. On
such a file neither the search nor the ordering by use can fail, and a run ends in one of three
ways (`workflow_outcome`): the query cannot be split as a URL; it is a URL to count; or one line
of JSON is printed after the notes for cover images that could not be fetched.
-/
namespace Bookmarks

open Json

/-! ## Well-formed bookmarks -/

/-- Whether a value is a text. -/
def Json.Value.isText : Value → Bool
  | .str _ => true
  | _ => false

/-- Whether a value is a number: an integer or a float. -/
def Json.Value.isNumber : Value → Bool
  | .int _ | .float _ => true
  | _ => false

/-- Whether a member of a bookmark is a text. -/
def textField (b : Value) (key : String) : Bool :=
  match b.field key with
  | .ok v => v.isText
  | .error _ => false

/-- A bookmark as the workflow reads it: an object whose `title`, `url`, `collection` and
`description` are texts, whose `tags` are a list of texts, and whose `usage_count` is a
number. -/
def wellFormedBookmark (b : Value) : Bool :=
  textField b "title" && textField b "url" && textField b "collection" &&
    textField b "description" &&
    (match b.field "tags" with
     | .ok (.array tags) => tags.all Value.isText
     | _ => false) &&
    (match b.field "usage_count" with
     | .ok v => v.isNumber
     | .error _ => false)

example : wellFormedBookmark (.object [(Text.ofString "title", .str []),
    (Text.ofString "url", .str []), (Text.ofString "collection", .str []),
    (Text.ofString "description", .str []), (Text.ofString "tags", .array [.str []]),
    (Text.ofString "usage_count", .float Binary64.nan)]) = true := by decide

/-- A well-formed bookmark, as the workflow's file holds them. -/
def sampleBookmark : Value :=
  .object [(Text.ofString "title", .str (Text.ofString "Lean")),
    (Text.ofString "url", .str (Text.ofString "https://lean-lang.org")),
    (Text.ofString "collection", .str (Text.ofString "docs")),
    (Text.ofString "description", .str (Text.ofString "prover")),
    (Text.ofString "tags", .array [.str (Text.ofString "lean")]),
    (Text.ofString "usage_count", .int 3)]

theorem exists_of_isText {v : Value} (text : v.isText = true) : ∃ s, v = .str s := by
  cases v <;> simp_all [Value.isText]

theorem exists_of_textField {b : Value} {key : String} (text : textField b key = true) :
    ∃ s, b.field key = .ok (.str s) := by
  unfold textField at text
  split at text
  · rename_i v found
    obtain ⟨s, rfl⟩ := exists_of_isText text
    exact ⟨s, found⟩
  · cases text

section WellFormed

variable {b : Value} (formed : wellFormedBookmark b = true)
include formed

theorem title_of_wellFormed : ∃ s, b.field "title" = .ok (.str s) := by
  simp only [wellFormedBookmark, Bool.and_eq_true] at formed
  exact exists_of_textField formed.1.1.1.1.1

theorem url_of_wellFormed : ∃ s, b.field "url" = .ok (.str s) := by
  simp only [wellFormedBookmark, Bool.and_eq_true] at formed
  exact exists_of_textField formed.1.1.1.1.2

theorem collection_of_wellFormed : ∃ s, b.field "collection" = .ok (.str s) := by
  simp only [wellFormedBookmark, Bool.and_eq_true] at formed
  exact exists_of_textField formed.1.1.1.2

theorem description_of_wellFormed : ∃ s, b.field "description" = .ok (.str s) := by
  simp only [wellFormedBookmark, Bool.and_eq_true] at formed
  exact exists_of_textField formed.1.1.2

theorem tags_of_wellFormed :
    ∃ tags, b.field "tags" = .ok (.array tags) ∧ ∀ t ∈ tags, t.isText = true := by
  simp only [wellFormedBookmark, Bool.and_eq_true] at formed
  have listed := formed.1.2
  split at listed
  · rename_i ts found
    exact ⟨ts, found, List.all_eq_true.mp listed⟩
  · cases listed

theorem count_of_wellFormed : ∃ c, b.field "usage_count" = .ok c ∧ c.isNumber = true := by
  simp only [wellFormedBookmark, Bool.and_eq_true] at formed
  have count := formed.2
  split at count
  · rename_i c found
    exact ⟨c, found, count⟩
  · cases count

end WellFormed

/-! ## The search cannot fail on well-formed bookmarks -/

section Search

variable {E : Fault → Prop}

theorem anyM_faults {α : Type} {test : α → Except Fault Bool} {xs : List α}
    (each : ∀ x ∈ xs, FaultsIn E (test x)) : FaultsIn E (anyM test xs) := by
  induction xs with
  | nil => simp [anyM]
  | cons x xs ih =>
    simp only [anyM, faultsIn_bind, each x (.head xs), true_and]
    intro found _
    split
    · simp
    · exact ih fun y member => each y (.tail x member)

theorem allM_faults {α : Type} {test : α → Except Fault Bool} {xs : List α}
    (each : ∀ x ∈ xs, FaultsIn E (test x)) : FaultsIn E (allM test xs) := by
  induction xs with
  | nil => simp [allM]
  | cons x xs ih =>
    simp only [allM, faultsIn_bind, each x (.head xs), true_and]
    intro found _
    split
    · exact ih fun y member => each y (.tail x member)
    · simp

theorem filterM_faults {test : Value → Except Fault Bool} {es : List Entry}
    (each : ∀ e ∈ es, FaultsIn E (test e.2)) : FaultsIn E (filterM test es) := by
  induction es with
  | nil => simp [filterM]
  | cons e es ih =>
    simp [filterM, each e (.head es), ih fun d member => each d (.tail e member)]

theorem mem_of_filterM {test : Value → Except Fault Bool} {es kept : List Entry}
    (h : filterM test es = .ok kept) : ∀ e ∈ kept, e ∈ es := by
  induction es generalizing kept with
  | nil =>
    simp only [filterM, Except.ok.injEq] at h
    simp [← h]
  | cons e es ih =>
    rw [filterM] at h
    obtain ⟨keep, -, h⟩ := bind_eq_ok.mp h
    obtain ⟨rest, later, h⟩ := bind_eq_ok.mp h
    obtain rfl := pure_eq_ok.mp h
    intro d member
    split at member
    · rcases List.mem_cons.mp member with rfl | inRest
      · exact .head es
      · exact .tail e (ih later d inRest)
    · exact .tail e (ih later d member)

/-- Texts can always be joined. -/
theorem textsFrom_of_isText (index : Nat) {xs : List Value} (texts : ∀ x ∈ xs, x.isText = true) :
    ∃ ts, Value.textsFrom index xs = .ok ts := by
  induction xs generalizing index with
  | nil => exact ⟨[], rfl⟩
  | cons x xs ih =>
    obtain ⟨s, rfl⟩ := exists_of_isText (texts x (.head xs))
    obtain ⟨rest, later⟩ := ih (index + 1) fun y member => texts y (.tail _ member)
    exact ⟨s :: rest, by simp [Value.textsFrom, later, Except.map]⟩

section WellFormed

variable {b : Value} (formed : wellFormedBookmark b = true)
include formed

theorem inCollection_faults (name : Text) : FaultsIn E (inCollection b name) := by
  obtain ⟨s, found⟩ := collection_of_wellFormed formed
  simp [inCollection, found, Value.lowered, Value.asText, Except.map]

theorem tagged_faults (p : Text) : FaultsIn E (tagged b p) := by
  obtain ⟨tags, found, texts⟩ := tags_of_wellFormed formed
  simp only [tagged, found, faultsIn_bind, faultsIn_ok, true_and]
  rintro _ ⟨⟩
  simp only [Value.items, faultsIn_ok, Except.ok.injEq, true_and, forall_eq']
  refine anyM_faults fun t member => ?_
  obtain ⟨s, rfl⟩ := exists_of_isText (texts t member)
  simp [Value.startsWithText, Value.asText, Except.map]

theorem doubledScore_faults (q : Text) : FaultsIn E (doubledScore q b) := by
  obtain ⟨title, hasTitle⟩ := title_of_wellFormed formed
  obtain ⟨description, hasDescription⟩ := description_of_wellFormed formed
  obtain ⟨tags, hasTags, texts⟩ := tags_of_wellFormed formed
  obtain ⟨words, join⟩ := textsFrom_of_isText 0 texts
  simp [doubledScore, searchable, hasTitle, hasDescription, hasTags, Value.lowered,
    Value.asText, Value.joinWith, Value.items, join, Except.map]

end WellFormed

/-- One stage of the filters: skipped, or keeping the entries that pass a test. -/
def filterStage (skip : Bool) (test : Value → Except Fault Bool) (es : List Entry) :
    Except Fault (List Entry) :=
  if skip then pure es else filterM test es

/-- The filters are three stages, each on what the stage before kept. -/
theorem applyFilters_eq (q : Query) (es : List Entry) :
    applyFilters q es = (do
      let es₁ ← filterStage q.collections.isEmpty (fun b => anyM (inCollection b) q.collections) es
      let es₂ ← filterStage q.allTags.isEmpty (fun b => allM (tagged b) q.allTags) es₁
      filterStage q.anyTags.isEmpty (fun b => anyM (tagged b) q.anyTags) es₂) := by
  unfold applyFilters filterStage
  cases q.collections.isEmpty <;> cases q.allTags.isEmpty <;> rfl

/-- A filter stage keeps some of the entries it is given. -/
theorem mem_of_filterStage {skip : Bool} {test : Value → Except Fault Bool}
    {es kept : List Entry} (h : filterStage skip test es = .ok kept) : ∀ e ∈ kept, e ∈ es := by
  unfold filterStage at h
  split at h
  · cases h
    exact fun e member => member
  · exact mem_of_filterM h

/-- A filter stage whose test cannot fail on well-formed bookmarks cannot fail on well-formed
entries. -/
theorem filterStage_faults {skip : Bool} {test : Value → Except Fault Bool}
    {es : List Entry} (formed : ∀ e ∈ es, wellFormedBookmark e.2 = true)
    (never : ∀ b, wellFormedBookmark b = true → FaultsIn E (test b)) :
    FaultsIn E (filterStage skip test es) := by
  unfold filterStage
  split
  · simp
  · exact filterM_faults fun e member => never e.2 (formed e member)

theorem applyFilters_faults (q : Query) {es : List Entry}
    (formed : ∀ e ∈ es, wellFormedBookmark e.2 = true) : FaultsIn E (applyFilters q es) := by
  rw [applyFilters_eq]
  simp only [faultsIn_bind]
  refine ⟨filterStage_faults formed fun b wf => anyM_faults fun n _ => inCollection_faults wf n,
    fun es₁ first => ⟨?_, fun es₂ second => ?_⟩⟩
  · -- each stage keeps well-formed entries of the stage before
    have formed₁ := fun e member => formed e (mem_of_filterStage first e member)
    exact filterStage_faults formed₁ fun b wf => allM_faults fun n _ => tagged_faults wf n
  · have formed₂ := fun e member =>
      formed e (mem_of_filterStage first e (mem_of_filterStage second e member))
    exact filterStage_faults formed₂ fun b wf => anyM_faults fun n _ => tagged_faults wf n

theorem mem_of_applyFilters {q : Query} {es kept : List Entry} (h : applyFilters q es = .ok kept) :
    ∀ e ∈ kept, e ∈ es := by
  rw [applyFilters_eq] at h
  obtain ⟨es₁, first, h⟩ := bind_eq_ok.mp h
  obtain ⟨es₂, second, h⟩ := bind_eq_ok.mp h
  intro e member
  exact mem_of_filterStage first e (mem_of_filterStage second e (mem_of_filterStage h e member))

theorem rank_faults (q : Text) {es : List Entry}
    (formed : ∀ e ∈ es, wellFormedBookmark e.2 = true) : FaultsIn E (rank q es) := by
  unfold rank
  simp only [faultsIn_bind, faultsIn_pure, implies_true, and_true]
  refine (Order.mapM_faults _ es).mono fun f cause => ?_
  obtain ⟨e, member, scored⟩ := cause
  have score := doubledScore_faults (E := E) (formed e member) q
  cases found : doubledScore q e.2 with
  | error g =>
    simp [found, bind, Except.bind] at scored
    exact score f (scored ▸ found)
  | ok n => simp [found, bind, Except.bind, pure, Except.pure] at scored

theorem mem_of_rank {q : Text} {es kept : List Entry} (h : rank q es = .ok kept) :
    ∀ e ∈ kept, e ∈ es := by
  unfold rank at h
  obtain ⟨scored, listed, h⟩ := bind_eq_ok.mp h
  obtain rfl := pure_eq_ok.mp h
  intro e member
  obtain ⟨p, inSorted, rfl⟩ := List.mem_map.mp member
  obtain ⟨d, inEs, image⟩ :=
    Order.mem_of_mapM listed p (List.mem_mergeSort.mp (List.mem_filter.mp inSorted).1)
  obtain ⟨n, -, image⟩ := bind_eq_ok.mp image
  obtain rfl := pure_eq_ok.mp image
  exact inEs

/-- The search for a text among well-formed bookmarks cannot fail. -/
theorem search_faults (query : Text) {bookmarks : List Value}
    (formed : ∀ b ∈ bookmarks, wellFormedBookmark b = true) :
    FaultsIn E (search (.str query) (.array bookmarks)) := by
  have entries : ∀ e ∈ bookmarks.zipIdx.map (fun p => (p.2, p.1)),
      wellFormedBookmark e.2 = true := by
    intro e member
    obtain ⟨⟨b, k⟩, inIdx, rfl⟩ := List.mem_map.mp member
    exact formed b (List.fst_mem_of_mem_zipIdx inIdx)
  unfold search
  simp only [Value.items, faultsIn_bind, faultsIn_ok, true_and, Except.ok.injEq, forall_eq']
  split
  · simp
  · simp only [Value.asText, faultsIn_bind, faultsIn_ok, true_and, Except.ok.injEq, forall_eq']
    split
    · exact applyFilters_faults _ entries
    · exact rank_faults _ entries

/-- The search gives bookmarks from the list searched. -/
theorem mem_of_search {query : Text} {bookmarks : List Value} {found : List Entry}
    (h : search (.str query) (.array bookmarks) = .ok found) : ∀ e ∈ found, e.2 ∈ bookmarks := by
  have entries : ∀ e ∈ bookmarks.zipIdx.map (fun p => (p.2, p.1)), e.2 ∈ bookmarks := by
    intro e member
    obtain ⟨⟨b, k⟩, inIdx, rfl⟩ := List.mem_map.mp member
    exact List.fst_mem_of_mem_zipIdx inIdx
  unfold search at h
  simp only [Value.items, Value.asText, bind, Except.bind] at h
  intro e member
  split at h
  · cases h
    exact entries e member
  · split at h
    · exact entries e (mem_of_applyFilters h e member)
    · exact entries e (mem_of_rank h e member)

/-- Numbers are always ordered. -/
theorem lessThan_of_isNumber {a b : Value} (ha : a.isNumber = true) (hb : b.isNumber = true) :
    ∃ r, Value.lessThan a b = .ok r := by
  cases a <;> cases b <;> simp_all [Value.isNumber, Value.lessThan, Value.magnitude?]

/-- Well-formed bookmarks can always be ordered by use. -/
theorem byUsage_faults {xs : List Value} (formed : ∀ b ∈ xs, wellFormedBookmark b = true) :
    FaultsIn E (byUsage xs) := by
  refine (Order.sortDescendingBy_faults _ _ xs).mono fun f cause => ?_
  rcases cause with ⟨x, member, missing⟩ | ⟨x, inX, y, inY, kx, ky, keyX, keyY, unordered⟩
  · obtain ⟨c, found, -⟩ := count_of_wellFormed (formed x member)
    simp [found] at missing
  · obtain ⟨c, foundX, numberX⟩ := count_of_wellFormed (formed x inX)
    obtain ⟨d, foundY, numberY⟩ := count_of_wellFormed (formed y inY)
    rw [foundX, Except.ok.injEq] at keyX
    rw [foundY, Except.ok.injEq] at keyY
    subst keyX keyY
    obtain ⟨r, ordered⟩ := lessThan_of_isNumber numberX numberY
    simp [ordered] at unordered

end Search

/-! ## The script filter answer prints only notes and fails only on unencodable URLs -/

/-- The notes printed for cover images that could not be fetched: one for each snag, with the
URL it met. -/
def notesText (notes : List (Snag × Text)) : Text := (notes.map fun n => n.1.note n.2).flatten

/-- Between two worlds, only notes about cover images were printed. -/
def PrintsNotes (m m' : Machine) : Prop := ∃ notes, m'.output = m.output ++ notesText notes

/-- A fault of a text that UTF-8 cannot carry. -/
def Unencodable (f : Fault) : Prop :=
  ∃ text start stop reason, f = .unencodable "utf-8" text start stop reason

theorem PrintsNotes.refl (m : Machine) : PrintsNotes m m := ⟨[], by simp [notesText]⟩

theorem PrintsNotes.of_output {m m' : Machine} (same : m'.output = m.output) : PrintsNotes m m' :=
  ⟨[], by simp [notesText, same]⟩

theorem PrintsNotes.of_note {m m' : Machine} {snag : Snag} {url : Text}
    (noted : m'.output = m.output ++ snag.note url) : PrintsNotes m m' :=
  ⟨[(snag, url)], by simp [notesText, noted]⟩

theorem PrintsNotes.trans {m₁ m₂ m₃ : Machine} (first : PrintsNotes m₁ m₂)
    (second : PrintsNotes m₂ m₃) : PrintsNotes m₁ m₃ := by
  obtain ⟨n₁, h₁⟩ := first
  obtain ⟨n₂, h₂⟩ := second
  exact ⟨n₁ ++ n₂, by simp [notesText, h₁, h₂]⟩

/-- Looking for the cover image of a text URL prints at most a note, and fails only when UTF-8
cannot carry the URL. -/
theorem coverImage_run (web : Web.Pages) (url : Text) (m : Machine) :
    PrintsNotes m ((coverImage web (.str url)).run.run m).2 ∧
      FaultsIn Unencodable ((coverImage web (.str url)).run.run m).1 := by
  cases utf8 : Text.utf8 url with
  | error r =>
    simp only [coverImage, Run.run_bind, Run.run_pure, Run.run_throw, utf8]
    exact ⟨.refl m, fun f h => ⟨url, r.start, r.stop, r.reason, by cases h; rfl⟩⟩
  | ok bytes =>
    by_cases hit : m.cache.any (·.1 == cacheFileName bytes) = true
    · simp only [coverImage, Run.run_bind, Run.run_pure, Run.run_get, utf8, hit, if_true]
      exact ⟨.refl m, by simp⟩
    · rcases down : (download web url).run.run m.sent with ⟨snag | _ | body, sent⟩
      all_goals simp only [coverImage, Run.run_bind, Run.run_pure, Run.run_get, Run.run_set,
        Run.run_print, Run.run_writeCache, utf8, hit, down, Bool.false_eq_true, if_false]
      · exact ⟨.of_note rfl, by simp⟩
      · exact ⟨.of_output rfl, by simp⟩
      · exact ⟨.of_output rfl, by simp⟩

/-- The subtitle of a well-formed bookmark can always be made. -/
theorem subtitle_of_wellFormed {b : Value} (formed : wellFormedBookmark b = true) :
    ∃ t, subtitle b = .ok t := by
  obtain ⟨collection, hasCollection⟩ := collection_of_wellFormed formed
  obtain ⟨tags, hasTags, -⟩ := tags_of_wellFormed formed
  obtain ⟨description, hasDescription⟩ := description_of_wellFormed formed
  simp [subtitle, hasCollection, hasTags, hasDescription, Value.items, bind, Except.bind, pure,
    Except.pure]

/-- The item of a well-formed bookmark prints at most the note of its cover image, and fails
only when UTF-8 cannot carry its URL. -/
theorem scriptItem_run (web : Web.Pages) {b : Value} (formed : wellFormedBookmark b = true)
    (m : Machine) :
    PrintsNotes m ((scriptItem web b).run.run m).2 ∧
      FaultsIn Unencodable ((scriptItem web b).run.run m).1 := by
  obtain ⟨title, hasTitle⟩ := title_of_wellFormed formed
  obtain ⟨members, rfl, -⟩ := Value.field_eq_ok hasTitle
  obtain ⟨url, hasUrl⟩ := url_of_wellFormed formed
  obtain ⟨sub, hasSub⟩ := subtitle_of_wellFormed formed
  simp only [scriptItem, Run.run_bind, Run.run_ofExcept, Value.fieldOrNull]
  split
  · simp only [Run.run_bind, Run.run_pure, Run.run_ofExcept, hasSub, hasTitle, hasUrl]
    exact ⟨.refl m, faultsIn_ok _⟩
  · -- no cover image is given: it is looked for, which is where a note or a fault comes from
    obtain ⟨notes, faults⟩ := coverImage_run web url m
    simp only [Run.run_bind, Run.run_ofExcept, Run.run_map, hasUrl]
    rcases cover : (coverImage web (.str url)).run.run m with ⟨_ | path, m'⟩
    all_goals simp only [cover] at notes faults ⊢
    · exact ⟨notes, by simpa using faults⟩
    · simp only [Run.run_pure, hasSub, hasTitle]
      exact ⟨notes, faultsIn_ok _⟩

/-- The items of well-formed bookmarks print only notes about cover images, and fail only
when UTF-8 cannot carry a URL. -/
theorem scriptItems_run (web : Web.Pages) {bookmarks : List Value}
    (formed : ∀ b ∈ bookmarks, wellFormedBookmark b = true) (m : Machine) :
    PrintsNotes m ((bookmarks.mapM (scriptItem web)).run.run m).2 ∧
      FaultsIn Unencodable ((bookmarks.mapM (scriptItem web)).run.run m).1 := by
  induction bookmarks generalizing m with
  | nil =>
    simp only [List.mapM_nil, Run.run_pure]
    exact ⟨.refl m, faultsIn_ok _⟩
  | cons b rest ih =>
    obtain ⟨first, firstFaults⟩ := scriptItem_run web (formed b (.head rest)) m
    simp only [List.mapM_cons, Run.run_bind]
    rcases item : (scriptItem web b).run.run m with ⟨_ | x, m'⟩
    all_goals simp only [item] at first firstFaults ⊢
    · exact ⟨first, by simpa using firstFaults⟩
    · obtain ⟨later, laterFaults⟩ := ih (fun c member => formed c (.tail b member)) m'
      rcases others : (rest.mapM (scriptItem web)).run.run m' with ⟨_ | xs, m''⟩
      all_goals simp only [others, Run.run_pure] at later laterFaults ⊢
      · exact ⟨first.trans later, by simpa using laterFaults⟩
      · exact ⟨first.trans later, faultsIn_ok _⟩

/-- The script filter answer for well-formed bookmarks prints only notes about cover images
and fails only when UTF-8 cannot carry a URL; when it succeeds it is the one-line JSON text of
an object whose one member `items` is a list. -/
theorem scriptFilter_run (web : Web.Pages) {bookmarks : List Value}
    (formed : ∀ b ∈ bookmarks, wellFormedBookmark b = true) (m : Machine) :
    PrintsNotes m ((scriptFilter web (.array bookmarks)).run.run m).2 ∧
      FaultsIn Unencodable ((scriptFilter web (.array bookmarks)).run.run m).1 ∧
      ∀ answer, ((scriptFilter web (.array bookmarks)).run.run m).1 = .ok answer →
        ∃ items, answer = write (.object [(Text.ofString "items", .array items)]) := by
  obtain ⟨notes, faults⟩ := scriptItems_run web formed m
  simp only [scriptFilter, Run.run_bind, Run.run_ofExcept, Value.items]
  rcases items : (bookmarks.mapM (scriptItem web)).run.run m with ⟨_ | xs, m'⟩
  all_goals simp only [items, Run.run_pure] at notes faults ⊢
  · exact ⟨notes, by simpa using faults, by simp⟩
  · exact ⟨notes, faultsIn_ok _, fun answer same => ⟨xs, by cases same; rfl⟩⟩

/-! ## Counting a visited URL prints nothing -/

/-- Counting a use among well-formed bookmarks cannot fail. -/
theorem countFirstUse_faults {E : Fault → Prop} (selected : Value) {bookmarks : List Value}
    (formed : ∀ b ∈ bookmarks, wellFormedBookmark b = true) :
    FaultsIn E (countFirstUse selected bookmarks) := by
  induction bookmarks with
  | nil => simp [countFirstUse]
  | cons b rest ih =>
    obtain ⟨url, hasUrl⟩ := url_of_wellFormed (formed b (.head rest))
    obtain ⟨count, hasCount, number⟩ := count_of_wellFormed (formed b (.head rest))
    have plus : ∃ next, count.plusOne = .ok next := by
      cases count <;> simp_all [Value.isNumber, Value.plusOne]
    obtain ⟨next, plus⟩ := plus
    simp only [countFirstUse, faultsIn_bind, hasUrl, faultsIn_ok, true_and, Except.ok.injEq,
      forall_eq']
    split
    · simp only [hasCount, plus, faultsIn_bind, faultsIn_ok, true_and, Except.ok.injEq,
        forall_eq']
      split <;> simp
    · exact faultsIn_map.mpr (ih fun c member => formed c (.tail b member))

/-- Counting a use among well-formed bookmarks prints nothing, and fails only when an integer
of the counted bookmarks has too many digits to be saved. -/
theorem updateUsage_run (selected : Value) {bookmarks : List Value}
    (formed : ∀ b ∈ bookmarks, wellFormedBookmark b = true) (m : Machine) :
    ((updateUsage selected (.array bookmarks)).run.run m).2.output = m.output ∧
      FaultsIn (· = .longInteger) ((updateUsage selected (.array bookmarks)).run.run m).1 := by
  obtain ⟨counted, count⟩ := (countFirstUse_faults (E := fun _ => False) selected formed).ok_of_false
  cases fits : (Value.array counted).intsFit with
  | false =>
    obtain ⟨written, stopped⟩ := updateUsage_of_stopped count fits m
    simp [stopped]
  | true => simp [updateUsage_of_counted count fits m]

/-! ## One run of the workflow -/

/-- Joining texts never fails. -/
theorem joinWith_texts (sep : Text) (args : List Text) :
    (Value.array (args.map .str)).joinWith sep = .ok (Text.intercalate sep args) := by
  have texts : ∀ k, Value.textsFrom k (args.map .str) = .ok args := by
    induction args with
    | nil => exact fun k => rfl
    | cons a rest ih => exact fun k => by simp [Value.textsFrom, ih (k + 1), Except.map]
  simp [Value.joinWith, Value.items, texts, Except.map]

/-- One run on a well-formed bookmarks file: a query that cannot be split as a URL fails with
the world as it was; a URL to count prints nothing and fails at most on a count too long to
save; otherwise `{"items": [...]}` is printed on one line after the cover image notes, the one
fault left being a URL that UTF-8 cannot carry. -/
theorem workflow_outcome (web : Web.Pages) (room : Nat) (args : List Text) {m : Machine}
    {text : Text} {doc : Value} {bookmarks : List Value}
    (file : m.file = some text) (read : readWithin room (readLines text) = .ok doc)
    (listed : doc.field "bookmarks" = .ok (.array bookmarks))
    (formed : ∀ b ∈ bookmarks, wellFormedBookmark b = true) :
    let query := Text.trim (Text.intercalate [0x20] args)
    let run := (runWorkflow web room (args.map .str)).run.run m
    (∃ f, isVisitedUrl query = .error f ∧ run = (.error f, m)) ∨
    (isVisitedUrl query = .ok true ∧ run.2.output = m.output ∧
      (run.1 = .ok () ∨ run.1 = .error .longInteger)) ∨
    (isVisitedUrl query = .ok false ∧ ∃ notes,
      (run.1 = .ok () ∧ ∃ items,
        run.2.output = m.output ++ notesText notes ++
          write (.object [(Text.ofString "items", .array items)]) ++ [0x0A] ∧
        0x0A ∉ write (.object [(Text.ofString "items", .array items)])) ∨
      (∃ f, run.1 = .error f ∧ Unencodable f ∧ run.2.output = m.output ++ notesText notes)) := by
  intro query run
  have load : (loadBookmarks room).run.run m = (.ok (.array bookmarks), m) := by
    rw [loadBookmarks_run file read, listed]
  have unfolded : run = ((do
      if ← Run.ofExcept (isVisitedUrl query) then
        let _ ← updateUsage (.str query) (.array bookmarks)
        return
      let selected ← Run.ofExcept (search (.str query) (.array bookmarks))
      let ordered ← Run.ofExcept (byUsage (selected.map Prod.snd))
      let answer ← scriptFilter web (.array ordered)
      Run.print (answer ++ [0x0A])) : Run Unit).run.run m := by
    simp only [run, runWorkflow, Run.run_bind, Run.run_ofExcept, joinWith_texts, load]
    rfl
  rw [unfolded]
  simp only [Run.run_bind, Run.run_ofExcept]
  rcases visited : isVisitedUrl query with f | _ | _
  · exact .inl ⟨f, rfl, rfl⟩
  · -- the search branch: nothing on the way fails but the script filter answer
    refine .inr (.inr ⟨rfl, ?_⟩)
    obtain ⟨found, searched⟩ :=
      (search_faults (E := fun _ => False) query formed).ok_of_false
    have selected : ∀ b ∈ found.map Prod.snd, wellFormedBookmark b = true := by
      intro b member
      obtain ⟨e, inFound, rfl⟩ := List.mem_map.mp member
      exact formed e.2 (mem_of_search searched e inFound)
    obtain ⟨ordered, sorted⟩ := (byUsage_faults (E := fun _ => False) selected).ok_of_false
    have orderedFormed : ∀ b ∈ ordered, wellFormedBookmark b = true := fun b member =>
      selected b (Order.mem_of_sortDescendingBy sorted b member)
    obtain ⟨⟨notes, printed⟩, faults, written⟩ := scriptFilter_run web orderedFormed m
    simp only [searched, sorted, Run.run_bind, Run.run_ofExcept, if_false, Bool.false_eq_true]
    rcases answer : (scriptFilter web (.array ordered)).run.run m with ⟨f | answer, m'⟩
    all_goals simp only [answer] at printed faults written ⊢
    · exact ⟨notes, .inr ⟨f, rfl, by simpa using faults, printed⟩⟩
    · obtain ⟨items, rfl⟩ := written _ rfl
      refine ⟨notes, .inl ⟨rfl, items, ?_, lineFeed_not_mem_write _⟩⟩
      simp only [Run.run_print, printed, List.append_assoc]
  · -- a visited URL: its use is counted, and nothing is printed
    refine .inr (.inl ⟨rfl, ?_⟩)
    obtain ⟨quiet, faults⟩ := updateUsage_run (.str query) formed m
    simp only [if_true, Run.run_bind, Run.run_pure]
    rcases counted : (updateUsage (.str query) (.array bookmarks)).run.run m with ⟨f | c, m'⟩
    all_goals simp only [counted] at quiet faults ⊢
    · exact ⟨quiet, .inr (by simpa using faults)⟩
    · exact ⟨quiet, by simp⟩

/-- The workflow on the saved file of one well-formed bookmark, with an empty query. -/
theorem workflow_outcome_sample :
    readWithin 992 (readLines (savedText (.array [sampleBookmark]))) =
        .ok (.object [(Text.ofString "bookmarks", .array [sampleBookmark])]) ∧
      wellFormedBookmark sampleBookmark = true ∧
      let m : Machine := ⟨some (savedText (.array [sampleBookmark])), [], [], []⟩
      let query := Text.trim (Text.intercalate [0x20] [])
      let run := (runWorkflow [] 992 (([] : List Text).map .str)).run.run m
      (∃ f, isVisitedUrl query = .error f ∧ run = (.error f, m)) ∨
      (isVisitedUrl query = .ok true ∧ run.2.output = m.output ∧
        (run.1 = .ok () ∨ run.1 = .error .longInteger)) ∨
      (isVisitedUrl query = .ok false ∧ ∃ notes,
        (run.1 = .ok () ∧ ∃ items,
          run.2.output = m.output ++ notesText notes ++
            write (.object [(Text.ofString "items", .array items)]) ++ [0x0A] ∧
          0x0A ∉ write (.object [(Text.ofString "items", .array items)])) ∨
        (∃ f, run.1 = .error f ∧ Unencodable f ∧ run.2.output = m.output ++ notesText notes)) := by
  have storable : (Value.array [sampleBookmark]).storable = true := by decide +kernel
  have read : readWithin 992 (readLines (savedText (.array [sampleBookmark]))) =
      .ok (.object [(Text.ofString "bookmarks", .array [sampleBookmark])]) := by
    rw [readLines_of_layoutText (layoutText_savedText storable), savedText]
    exact readWithin_writeIndented (storable_document storable) (by decide)
  have formed : wellFormedBookmark sampleBookmark = true := by decide +kernel
  have every : ∀ b ∈ [sampleBookmark], wellFormedBookmark b = true := by
    intro b member
    rw [List.mem_singleton.mp member]
    exact formed
  have fileIs : (⟨some (savedText (.array [sampleBookmark])), [], [], []⟩ : Machine).file =
      some (savedText (.array [sampleBookmark])) := rfl
  have outcome := workflow_outcome [] 992 [] fileIs read (field_bookmarks _) every
  refine ⟨read, formed, ?_⟩
  -- the statement's local definitions are unfolded on both sides before they are compared
  dsimp only at outcome ⊢
  exact outcome

/-- A query with an unbalanced bracket cannot be split as a URL, so a run on a well-formed file
fails instead of answering. -/
theorem workflow_rejects_unbalanced_bracket :
    (runWorkflow [] 992 ([Text.ofString "http://["].map .str)).run.run
        ⟨some (savedText (.array [])), [], [], []⟩ =
      (.error (.invalidUrl "Invalid IPv6 URL"), ⟨some (savedText (.array [])), [], [], []⟩) := by
  have storable : (Value.array []).storable = true := by decide
  have read : readWithin 992 (readLines (savedText (.array []))) =
      .ok (.object [(Text.ofString "bookmarks", .array [])]) := by
    rw [readLines_of_layoutText (layoutText_savedText storable), savedText]
    exact readWithin_writeIndented (storable_document storable) (by decide)
  have visited : isVisitedUrl (Text.trim (Text.intercalate [0x20] [Text.ofString "http://["])) =
      .error (.invalidUrl "Invalid IPv6 URL") := by rfl
  have load : (loadBookmarks 992).run.run ⟨some (savedText (.array [])), [], [], []⟩ =
      (.ok (.array []), ⟨some (savedText (.array [])), [], [], []⟩) := by
    rw [loadBookmarks_run (show (⟨some (savedText (.array [])), [], [], []⟩ : Machine).file =
      some (savedText (.array [])) from rfl) read, field_bookmarks]
  simp only [runWorkflow, Run.run_bind, Run.run_ofExcept, joinWith_texts, load, visited]

end Bookmarks
