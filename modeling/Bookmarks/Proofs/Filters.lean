import Bookmarks.Proofs.Workflow
/-!
The filters a query names act as one filter.

A query that names filters is searched in three passes. `Query.Admits` states the same
selection as a property of one bookmark, with no passes in it: the search keeps exactly the
bookmarks it accepts, in their order, and since it reads the named prefixes only through
membership, neither plain words nor the order of filter words change anything.
-/
namespace Bookmarks

open Json

/-- Whether a word of a query names a filter: it starts with `@` or `#`. -/
def filterWord (p : Text) : Bool := p.startsWith [0x40] || p.startsWith [0x23]

/-- A word that starts with `##` starts with `#`. -/
theorem startsWith_hash {p : Text} (twice : p.startsWith [0x23, 0x23] = true) :
    p.startsWith [0x23] = true :=
  List.isPrefixOf_iff_prefix.mpr
    ((List.prefix_append [0x23] [0x23]).trans (List.isPrefixOf_iff_prefix.mp twice))

namespace Query

/-- A bookmark with the given collection and tags passes every filter the query names: its
lowercased collection starts with one of the named collections, when any are named; every
all-tag begins one of its tags; and one of the any-tags begins one of its tags, when any are
named. -/
def Admits (q : Query) (collection : Text) (tags : List Text) : Prop :=
  (q.collections = [] ∨ ∃ c ∈ q.collections, c <+: Text.lower collection) ∧
  (∀ a ∈ q.allTags, ∃ t ∈ tags, a <+: t) ∧
  (q.anyTags = [] ∨ ∃ o ∈ q.anyTags, ∃ t ∈ tags, o <+: t)

instance (q : Query) (collection : Text) (tags : List Text) :
    Decidable (q.Admits collection tags) :=
  inferInstanceAs (Decidable (_ ∧ _ ∧ _))

example : (parse (Text.ofString "@wo ##py")).Admits (Text.ofString "Work")
    [Text.ofString "python", Text.ofString "docs"] := by decide +kernel

example : ¬(parse (Text.ofString "#python")).Admits (Text.ofString "Work")
    [Text.ofString "Python"] := by decide +kernel

/-- A query with a filter word among its words names some filter. -/
theorem filters_parse {query : Text}
    (named : ∃ p ∈ Text.words (Text.trim query), filterWord p = true) :
    (parse query).filters = true := by
  obtain ⟨p, mem, word⟩ := named
  simp only [filters, parse, Bool.or_eq_true, Bool.not_eq_true', List.isEmpty_eq_false_iff,
    ne_eq, List.map_eq_nil_iff, List.filter_eq_nil_iff, not_forall, not_not]
  simp only [filterWord, Bool.or_eq_true] at word
  rcases word with collection | tag
  · exact .inl (.inl ⟨p, mem, collection⟩)
  · -- a word starting with `#` is an all-tag when a second `#` follows, else an any-tag
    by_cases twice : p.startsWith [0x23, 0x23] = true
    · exact .inl (.inr ⟨p, mem, twice⟩)
    · exact .inr ⟨p, mem, by simp [tag, twice]⟩

/-- `Admits` reads the named prefixes only through membership. -/
theorem admits_congr {q q' : Query} (collections : ∀ c, c ∈ q.collections ↔ c ∈ q'.collections)
    (allTags : ∀ a, a ∈ q.allTags ↔ a ∈ q'.allTags)
    (anyTags : ∀ o, o ∈ q.anyTags ↔ o ∈ q'.anyTags) (collection : Text) (tags : List Text) :
    q.Admits collection tags ↔ q'.Admits collection tags := by
  have noCollections : q.collections = [] ↔ q'.collections = [] := by
    simp only [List.eq_nil_iff_forall_not_mem, collections]
  have noAnyTags : q.anyTags = [] ↔ q'.anyTags = [] := by
    simp only [List.eq_nil_iff_forall_not_mem, anyTags]
  simp only [Admits, noCollections, noAnyTags, collections, allTags, anyTags]

end Query

/-! ## Passes that cannot fail -/

section Passes

variable {α : Type} {test : α → Except Fault Bool} {f : α → Bool}

theorem anyM_eq_any {xs : List α} (total : ∀ x ∈ xs, test x = .ok (f x)) :
    anyM test xs = .ok (xs.any f) := by
  induction xs with
  | nil => rfl
  | cons x xs ih =>
    have rest := ih fun y member => total y (.tail x member)
    simp only [anyM, total x (.head xs), bind, Except.bind, List.any_cons]
    cases f x <;> simp [rest, pure, Except.pure]

theorem allM_eq_all {xs : List α} (total : ∀ x ∈ xs, test x = .ok (f x)) :
    allM test xs = .ok (xs.all f) := by
  induction xs with
  | nil => rfl
  | cons x xs ih =>
    have rest := ih fun y member => total y (.tail x member)
    simp only [allM, total x (.head xs), bind, Except.bind, List.all_cons]
    cases f x <;> simp [rest, pure, Except.pure]

theorem filterM_eq_filter {test : Value → Except Fault Bool} {p : Entry → Bool}
    {es : List Entry} (total : ∀ e ∈ es, test e.2 = .ok (p e)) :
    filterM test es = .ok (es.filter p) := by
  induction es with
  | nil => rfl
  | cons e es ih =>
    have rest := ih fun d member => total d (.tail e member)
    simp only [filterM, total e (.head es), rest, bind, Except.bind, pure, Except.pure,
      List.filter_cons]

/-- A pass keeps the entries its test passes, or all of them when it is skipped. -/
theorem filterStage_eq_filter {skip : Bool} {test : Value → Except Fault Bool}
    {p : Entry → Bool} {es : List Entry} (total : ∀ e ∈ es, test e.2 = .ok (p e)) :
    filterStage skip test es = .ok (es.filter fun e => skip || p e) := by
  unfold filterStage
  cases skip
  · simpa using filterM_eq_filter total
  · simp [pure, Except.pure]

end Passes

/-! ## The passes of a query over filterable bookmarks -/

/-- A bookmark as the filters read it: an object whose collection is the text `collection`
and whose tags are the texts `tags`. -/
def Filterable (b : Value) (collection : Text) (tags : List Text) : Prop :=
  b.field "collection" = .ok (.str collection) ∧ b.field "tags" = .ok (.array (tags.map .str))

section Filterable

variable {b : Value} {collection : Text} {tags : List Text}

theorem inCollection_eq (shaped : Filterable b collection tags) (name : Text) :
    inCollection b name = .ok ((Text.lower collection).startsWith name) := by
  simp [inCollection, shaped.1, Value.lowered, Value.asText, Except.map, bind, Except.bind,
    pure, Except.pure]

theorem tagged_eq (shaped : Filterable b collection tags) (p : Text) :
    tagged b p = .ok (tags.any fun t => t.startsWith p) := by
  have each : ∀ v ∈ tags.map Value.str,
      v.startsWithText p = .ok ((v.startsWithText p).toOption.getD false) := by
    intro v member
    obtain ⟨t, -, rfl⟩ := List.mem_map.mp member
    rfl
  simp only [tagged, shaped.2, Value.items, bind, Except.bind, anyM_eq_any each, List.any_map]
  rfl

end Filterable

/-- What the three passes compute, as one test of a bookmark's collection and tags. -/
theorem admits_iff_passes (q : Query) (collection : Text) (tags : List Text) :
    decide (q.Admits collection tags) =
      ((q.collections.isEmpty ||
          q.collections.any fun c => (Text.lower collection).startsWith c) &&
        (q.allTags.isEmpty || q.allTags.all fun a => tags.any fun t => t.startsWith a) &&
        (q.anyTags.isEmpty || q.anyTags.any fun o => tags.any fun t => t.startsWith o)) := by
  -- an empty list of all-tags passes every bookmark, so its pass may be skipped
  have allTags : (q.allTags.isEmpty || q.allTags.all fun a => tags.any fun t => t.startsWith a) =
      q.allTags.all fun a => tags.any fun t => t.startsWith a := by
    cases q.allTags <;> simp
  rw [allTags, Bool.eq_iff_iff, decide_eq_true_iff]
  simp [Query.Admits, Text.startsWith, List.isPrefixOf_iff_prefix, List.isEmpty_iff, and_assoc]

/-- The three passes of a query over filterable bookmarks keep exactly the entries whose
bookmark the query admits. -/
theorem applyFilters_eq_filter (q : Query) {es : List Entry} (collection : Value → Text)
    (tags : Value → List Text) (shaped : ∀ e ∈ es, Filterable e.2 (collection e.2) (tags e.2)) :
    applyFilters q es = .ok (es.filter fun e => decide (q.Admits (collection e.2) (tags e.2))) := by
  have inside : ∀ {p : Entry → Bool} {d : Entry}, d ∈ es.filter p →
      Filterable d.2 (collection d.2) (tags d.2) :=
    fun member => shaped _ (List.mem_filter.mp member).1
  rw [applyFilters_eq]
  -- the passes, one after another, each on what the one before kept
  rw [filterStage_eq_filter (p := fun e => q.collections.any fun c =>
      (Text.lower (collection e.2)).startsWith c)
    fun e member => by rw [anyM_eq_any fun c _ => inCollection_eq (shaped e member) c]]
  simp only [bind, Except.bind]
  rw [filterStage_eq_filter (p := fun e => q.allTags.all fun a =>
      (tags e.2).any fun t => t.startsWith a)
    fun e member => by rw [allM_eq_all fun a _ => tagged_eq (inside member) a]]
  simp only
  rw [filterStage_eq_filter (p := fun e => q.anyTags.any fun o =>
      (tags e.2).any fun t => t.startsWith o)
    fun e member => by
      rw [anyM_eq_any fun o _ => tagged_eq (inside (List.mem_filter.mp member).1) o]]
  simp only [List.filter_filter, admits_iff_passes]
  congr 2
  funext e
  simp only [Bool.and_comm]

/-- Each entry of a searched list holds a bookmark of the list. -/
theorem snd_mem_of_mem_entries {bookmarks : List Value} {e : Entry}
    (member : e ∈ bookmarks.zipIdx.map fun (b, k) => (k, b)) : e.2 ∈ bookmarks := by
  obtain ⟨⟨b, k⟩, inIdx, rfl⟩ := List.mem_map.mp member
  exact List.fst_mem_of_mem_zipIdx inIdx

/-- A query with a filter word among its words is searched by the passes of its filters. -/
theorem search_of_named {query : Text}
    (named : ∃ p ∈ Text.words (Text.trim query), filterWord p = true) (bookmarks : List Value) :
    search (.str query) (.array bookmarks) =
      applyFilters (Query.parse query) (bookmarks.zipIdx.map fun (b, k) => (k, b)) := by
  -- a query with a word is not empty, so it is searched and not passed over
  have nonempty : (Value.str query).truthy = true := by
    obtain ⟨p, mem, -⟩ := named
    cases query with
    | nil => simp [Text.trim, Text.trimLeft, Text.trimRight, Text.words, Text.wordsAfter] at mem
    | cons c rest => rfl
  simp only [search, Value.items, Value.asText, bind, Except.bind, nonempty, Bool.not_true,
    Bool.false_eq_true, if_false, Query.filters_parse named, if_true]

/-- Keeping the filter words of a list of words before a test that only filter words pass
changes nothing. -/
theorem filter_filterWord {test : Text → Bool} (named : ∀ p, test p = true → filterWord p = true)
    (parts : List Text) : (parts.filter filterWord).filter test = parts.filter test := by
  rw [List.filter_filter]
  congr 1
  funext p
  cases passes : test p <;> simp [named p, passes]

/-- Two queries whose filter words are the same up to order name the same prefixes, each
kind up to order. -/
theorem parse_perm_of_filterWords_perm {query query' : Text}
    (perm : ((Text.words (Text.trim query)).filter filterWord).Perm
      ((Text.words (Text.trim query')).filter filterWord)) :
    (Query.parse query).collections.Perm (Query.parse query').collections ∧
      (Query.parse query).allTags.Perm (Query.parse query').allTags ∧
      (Query.parse query).anyTags.Perm (Query.parse query').anyTags := by
  have kind : ∀ {test : Text → Bool}, (∀ p, test p = true → filterWord p = true) →
      ((Text.words (Text.trim query)).filter test).Perm
        ((Text.words (Text.trim query')).filter test) := fun named => by
    rw [← filter_filterWord named, ← filter_filterWord named (Text.words (Text.trim query'))]
    exact perm.filter _
  refine ⟨(kind fun p h => ?_).map _, (kind fun p h => ?_).map _, (kind fun p h => ?_).map _⟩
  · simp [filterWord, h]
  · simp [filterWord, startsWith_hash h]
  · simp_all [filterWord]

/-- Searching with a query that has a filter word among its words keeps, from bookmarks that
each have a text collection and a list of text tags, exactly those the query admits, in their
order and with their positions. Hence another query with the same filter words, in any order
and among any plain words, finds the same. -/
theorem search_filters_as_one {query : Text}
    (named : ∃ p ∈ Text.words (Text.trim query), filterWord p = true) {bookmarks : List Value}
    (collection : Value → Text) (tags : Value → List Text)
    (shaped : ∀ b ∈ bookmarks, Filterable b (collection b) (tags b)) :
    search (.str query) (.array bookmarks) =
      .ok ((bookmarks.zipIdx.map fun (b, k) => (k, b)).filter fun e =>
        decide ((Query.parse query).Admits (collection e.2) (tags e.2))) ∧
    ∀ query' : Text, ((Text.words (Text.trim query)).filter filterWord).Perm
        ((Text.words (Text.trim query')).filter filterWord) →
      search (.str query') (.array bookmarks) = search (.str query) (.array bookmarks) := by
  have entries : ∀ e ∈ bookmarks.zipIdx.map (fun (b, k) => (k, b)),
      Filterable e.2 (collection e.2) (tags e.2) :=
    fun e member => shaped e.2 (snd_mem_of_mem_entries member)
  refine ⟨by rw [search_of_named named]; exact applyFilters_eq_filter _ collection tags entries,
    fun query' perm => ?_⟩
  -- the other query has a filter word too: one of the same filter words
  have named' : ∃ p ∈ Text.words (Text.trim query'), filterWord p = true := by
    obtain ⟨p, mem, word⟩ := named
    have kept := perm.mem_iff.mp (List.mem_filter.mpr ⟨mem, word⟩)
    exact ⟨p, (List.mem_filter.mp kept).1, word⟩
  obtain ⟨collections, allTags, anyTags⟩ := parse_perm_of_filterWords_perm perm
  rw [search_of_named named, search_of_named named', applyFilters_eq_filter _ collection tags entries,
    applyFilters_eq_filter _ collection tags entries]
  congr 2
  funext e
  exact decide_eq_decide.mpr (Query.admits_congr (fun c => collections.mem_iff.symm)
    (fun a => allTags.mem_iff.symm) (fun o => anyTags.mem_iff.symm) _ _)

/-- The text member `key` of a bookmark, empty when it has none. -/
def Json.Value.textAt (b : Value) (key : String) : Text :=
  match b.field key with
  | .ok (.str t) => t
  | _ => []

/-- The texts of the list member `key` of a bookmark, leaving out items that are not texts. -/
def Json.Value.textsAt (b : Value) (key : String) : List Text :=
  match b.field key with
  | .ok (.array items) => items.filterMap fun | .str t => some t | _ => none
  | _ => []

/-- `@wo ##py` with a plain word, over a bookmark that passes both filters and one whose tags
are capitalised. -/
theorem search_filters_as_one_sample :
    let work := Value.object [(Text.ofString "collection", .str (Text.ofString "Work")),
      (Text.ofString "tags", .array [.str (Text.ofString "python")])]
    let capital := Value.object [(Text.ofString "collection", .str (Text.ofString "work")),
      (Text.ofString "tags", .array [.str (Text.ofString "Python")])]
    (∃ p ∈ Text.words (Text.trim (Text.ofString "docs @wo ##py")), filterWord p = true) ∧
    (∀ b ∈ [work, capital], Filterable b (b.textAt "collection") (b.textsAt "tags")) ∧
    (search (.str (Text.ofString "docs @wo ##py")) (.array [work, capital]) =
      .ok (([work, capital].zipIdx.map fun (b, k) => (k, b)).filter fun e =>
        decide ((Query.parse (Text.ofString "docs @wo ##py")).Admits (e.2.textAt "collection")
          (e.2.textsAt "tags"))) ∧
    ∀ query' : Text, ((Text.words (Text.trim (Text.ofString "docs @wo ##py"))).filter
        filterWord).Perm ((Text.words (Text.trim query')).filter filterWord) →
      search (.str query') (.array [work, capital]) =
        search (.str (Text.ofString "docs @wo ##py")) (.array [work, capital])) := by
  intro work capital
  have named : ∃ p ∈ Text.words (Text.trim (Text.ofString "docs @wo ##py")),
      filterWord p = true := ⟨Text.ofString "@wo", by decide +kernel, by decide +kernel⟩
  have shaped : ∀ b ∈ [work, capital], Filterable b (b.textAt "collection") (b.textsAt "tags") := by
    intro b member
    rcases List.mem_pair.mp member with rfl | rfl <;> exact ⟨rfl, rfl⟩
  exact ⟨named, shaped, search_filters_as_one named (·.textAt "collection") (·.textsAt "tags") shaped⟩

/-- The tag filters compare the lowercased names of a query with the tags as they are: `#python`
keeps a bookmark tagged `python` and passes over the same bookmark tagged `Python`, the tag whose
lowercase is `python`. -/
theorem tag_filter_reads_tag_case :
    let tagged := fun tag : String =>
      Value.object [(Text.ofString "collection", .str (Text.ofString "c")),
        (Text.ofString "tags", .array [.str (Text.ofString tag)])]
    Text.lower (Text.ofString "Python") = Text.ofString "python" ∧
    search (.str (Text.ofString "#python")) (.array [tagged "Python"]) = .ok [] ∧
    search (.str (Text.ofString "#python")) (.array [tagged "python"]) =
      .ok [(0, tagged "python")] := by
  intro tagged
  have named : ∃ p ∈ Text.words (Text.trim (Text.ofString "#python")), filterWord p = true :=
    ⟨Text.ofString "#python", by decide +kernel, by decide +kernel⟩
  have passes : ∀ tag : String, search (.str (Text.ofString "#python")) (.array [tagged tag]) =
      .ok ([(0, tagged tag)].filter fun _ => decide ((Query.parse (Text.ofString "#python")).Admits
        (Text.ofString "c") [Text.ofString tag])) := fun tag => by
    rw [search_of_named named]
    exact applyFilters_eq_filter _ (fun _ => Text.ofString "c") (fun _ => [Text.ofString tag])
      (fun e member => by simp at member; subst member; exact ⟨rfl, rfl⟩)
  refine ⟨by decide +kernel, ?_, ?_⟩
  · rw [passes, List.filter_eq_nil_iff.mpr fun _ _ => by decide +kernel]
  · rw [passes, List.filter_eq_self.mpr fun _ _ => by decide +kernel]

end Bookmarks
