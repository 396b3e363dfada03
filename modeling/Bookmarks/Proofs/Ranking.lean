import Bookmarks.Proofs.Filters
/-!
Ranking bookmarks by fuzzy score.

The ranking is stated without the sort: the bookmarks found are those scoring above 50, a
greater score before a smaller one, equal scores in list order, the stability of the sort
(`filter_mergeSort_score`). Scores are kept doubled (`twiceScore`), so that they are whole.
-/
namespace Bookmarks

open Json

/-- Twice the score of a bookmark with the given title, tags and description against the
lowercased query `q`. The bookmark is matched as the lowercased title, tags and description,
each two apart by a space; the score is the mean of the partial score, with 20 more when the
lowercased title starts with `q`, and the plain score. -/
def twiceScore (q title : Text) (tags : List Text) (description : Text) : Nat :=
  let s := Text.lower title ++ [0x20] ++ Text.lower (Text.intercalate [0x20] tags) ++ [0x20] ++
    Text.lower description
  Similarity.partialRatio q s + (if (Text.lower title).startsWith q then 20 else 0) +
    Similarity.ratio q s

/-- A bookmark as the ranking reads it: an object whose title, tags and description are the
given texts. -/
def Rankable (b : Value) (title : Text) (tags : List Text) (description : Text) : Prop :=
  b.field "title" = .ok (.str title) ∧ b.field "tags" = .ok (.array (tags.map .str)) ∧
    b.field "description" = .ok (.str description)

theorem doubledScore_eq {b : Value} {title description : Text} {tags : List Text}
    (shaped : Rankable b title tags description) (q : Text) :
    doubledScore q b = .ok (twiceScore q title tags description) := by
  obtain ⟨hasTitle, hasTags, hasDescription⟩ := shaped
  simp [doubledScore, searchable, twiceScore, hasTitle, hasTags, hasDescription, joinWith_texts,
    Value.lowered, Value.asText, Except.map, bind, Except.bind, pure, Except.pure]

/-! ## Sorting by score keeps each score's order -/

section Sorting

variable {α : Type}

/-- The order the ranking sorts by: the greater score first. -/
def byScore (x y : α × Nat) : Bool := decide (x.2 ≥ y.2)

theorem pairwise_mergeSort_byScore (l : List (α × Nat)) :
    (l.mergeSort byScore).Pairwise fun x y => y.2 ≤ x.2 := by
  have sorted := @List.pairwise_mergeSort _ byScore
    (fun a b c ab bc => by simp only [byScore, decide_eq_true_eq] at *; omega)
    (fun a b => by simp only [byScore, Bool.or_eq_true, decide_eq_true_eq]; omega) l
  exact sorted.imp fun {x y} le => by simpa [byScore] using le

/-- Sorting by score leaves the items of each score in the order they had: the sort is
stable. -/
theorem filter_mergeSort_score (l : List (α × Nat)) (s : Nat) :
    (l.mergeSort byScore).filter (fun x => x.2 == s) = l.filter fun x => x.2 == s := by
  -- the items of score `s` are already sorted, so they stay a sublist of the sorted list
  have equal : (l.filter fun x => x.2 == s).Pairwise fun x y => byScore x y = true := by
    refine List.pairwise_of_forall_mem_list fun x inX y inY => ?_
    simp only [List.mem_filter, beq_iff_eq] at inX inY
    simp [byScore, inX.2, inY.2]
  have kept := (List.sublist_mergeSort
    (fun a b c ab bc => by simp only [byScore, decide_eq_true_eq] at *; omega)
    (fun a b => by simp only [byScore, Bool.or_eq_true, decide_eq_true_eq]; omega)
    equal List.filter_sublist).filter fun x => x.2 == s
  rw [List.filter_filter] at kept
  simp only [Bool.and_self] at kept
  -- and the sorted list has no more of them than the list had
  exact (kept.eq_of_length (((List.mergeSort_perm l byScore).filter _).length_eq.symm)).symm

/-- After sorting by score, a greater score stands before a smaller one, and items of equal
scores stand in the order of a position that grew along the list. -/
theorem pairwise_mergeSort_ranked (l : List (α × Nat)) (pos : α → Nat)
    (increasing : l.Pairwise fun x y => pos x.1 < pos y.1) :
    (l.mergeSort byScore).Pairwise fun x y => y.2 < x.2 ∨ (x.2 = y.2 ∧ pos x.1 < pos y.1) := by
  have descending := pairwise_mergeSort_byScore l
  refine List.pairwise_iff_forall_sublist.mpr fun {x y} pair => ?_
  have le : y.2 ≤ x.2 := List.pairwise_iff_forall_sublist.mp descending pair
  rcases Nat.lt_or_eq_of_le le with lt | eq
  · exact .inl lt
  · -- two items of one score: in the sorted list as in the list
    have same : [x, y].Sublist (l.filter fun z => z.2 == x.2) := by
      have := pair.filter fun z => z.2 == x.2
      rwa [filter_mergeSort_score, List.filter_cons_of_pos (by simp),
        List.filter_cons_of_pos (by simp [eq]), List.filter_nil] at this
    exact .inr ⟨eq.symm, List.pairwise_iff_forall_sublist.mp
      ((increasing.filter _)) same⟩

end Sorting

/-! ## The ranking -/

section Ranking

variable {α β ε : Type}

theorem mapM_eq_map {f : α → Except ε β} {g : α → β} {xs : List α}
    (each : ∀ x ∈ xs, f x = .ok (g x)) : xs.mapM f = .ok (xs.map g) := by
  induction xs with
  | nil => rfl
  | cons x xs ih =>
    simp [List.mapM_cons, each x (.head xs), ih fun y member => each y (.tail x member), bind,
      Except.bind, pure, Except.pure]

end Ranking

/-- The positions of the entries of a list grow along it. -/
theorem pairwise_entries (bookmarks : List Value) :
    (bookmarks.zipIdx.map fun (b, k) => ((k, b) : Entry)).Pairwise fun x y => x.1 < y.1 := by
  have positions := List.pairwise_lt_range' (s := 0) (n := bookmarks.length) 1
  rw [← List.zipIdx_map_snd, List.pairwise_map] at positions
  exact List.pairwise_map.mpr positions

/-- Ranking entries whose doubled scores are `score` keeps those above 100, sorted by score. -/
theorem rank_eq {q : Text} {es : List Entry} {score : Entry → Nat}
    (scored : ∀ e ∈ es, doubledScore q e.2 = .ok (score e)) :
    rank q es = .ok ((((es.map fun e => (e, score e)).mergeSort byScore).filter
      fun x => decide (x.2 > 100)).map Prod.fst) := by
  simp only [rank, bind, Except.bind, pure, Except.pure]
  rw [mapM_eq_map (g := fun e => (e, score e)) fun e member => by simp [scored e member]]
  rfl

/-- A query with no filter word among its words is searched by ranking. -/
theorem search_of_plain {query : Text} (nonempty : query ≠ [])
    (plain : ∀ p ∈ Text.words (Text.trim query), filterWord p = false) (bookmarks : List Value) :
    search (.str query) (.array bookmarks) =
      rank (Text.lower query) (bookmarks.zipIdx.map fun (b, k) => (k, b)) := by
  have truthy : (Value.str query).truthy = true := by
    cases query with
    | nil => exact absurd rfl nonempty
    | cons c rest => rfl
  -- no word names a filter, so every kind of filter is empty
  have unnamed : (Query.parse query).filters = false := by
    have none : ∀ p ∈ Text.words (Text.trim query),
        p.startsWith [0x40] = false ∧ p.startsWith [0x23] = false := fun p member => by
      simpa [filterWord] using plain p member
    simp only [Query.filters, Query.parse, Bool.or_eq_false_iff, Bool.not_eq_false',
      List.isEmpty_iff, List.map_eq_nil_iff, List.filter_eq_nil_iff]
    refine ⟨⟨fun p member => by simp [(none p member).1], fun p member twice => ?_⟩,
      fun p member => by simp [(none p member).2]⟩
    have := startsWith_hash twice
    simp [(none p member).2] at this
  simp only [search, Value.items, Value.asText, bind, Except.bind, truthy, Bool.not_true,
    Bool.false_eq_true, if_false, unnamed]

/-- Searching with a non-empty query that has no filter word among its words, in bookmarks that
each have a text title, a list of text tags and a text description, succeeds. It finds the
bookmarks whose score is above 50, each as often as it occurs in the list; a greater score
stands before a smaller one, and bookmarks of equal score stand in list order. Scores are
doubled here, so "above 50" reads "above 100". -/
theorem search_ranks_by_score {query : Text} (nonempty : query ≠ [])
    (plain : ∀ p ∈ Text.words (Text.trim query), filterWord p = false) {bookmarks : List Value}
    (title : Value → Text) (tags : Value → List Text) (description : Value → Text)
    (shaped : ∀ b ∈ bookmarks, Rankable b (title b) (tags b) (description b)) :
    let score := fun e : Entry => twiceScore (Text.lower query) (title e.2) (tags e.2) (description e.2)
    ∃ found, search (.str query) (.array bookmarks) = .ok found ∧
      found.Perm ((bookmarks.zipIdx.map fun (b, k) => (k, b)).filter fun e => 100 < score e) ∧
      found.Pairwise fun x y => score y < score x ∨ (score x = score y ∧ x.1 < y.1) := by
  intro score
  let entries := bookmarks.zipIdx.map fun (b, k) => ((k, b) : Entry)
  let sorted := (entries.map fun e => (e, score e)).mergeSort byScore
  have scored : ∀ e ∈ entries, doubledScore (Text.lower query) e.2 = .ok (score e) :=
    fun e member => doubledScore_eq (shaped e.2 (snd_mem_of_mem_entries member)) _
  refine ⟨(sorted.filter fun x => decide (x.2 > 100)).map Prod.fst,
    by rw [search_of_plain nonempty plain, rank_eq scored], ?_, ?_⟩
  · -- the sort only permutes, and keeping the high scores commutes with it
    have perm := ((List.mergeSort_perm (entries.map fun e => (e, score e)) byScore).filter
      fun x => decide (x.2 > 100)).map Prod.fst
    have unscored : (((entries.map fun e => (e, score e)).filter
        fun x => decide (x.2 > 100)).map Prod.fst) = entries.filter fun e => 100 < score e := by
      simp [List.filter_map, Function.comp_def]
    rw [unscored] at perm
    exact perm
  · -- in the sorted list every item's second part is its entry's score
    have ranked := pairwise_mergeSort_ranked (entries.map fun e => (e, score e)) Prod.fst
      (List.pairwise_map.mpr (pairwise_entries bookmarks))
    have second : ∀ x ∈ sorted, x.2 = score x.1 := fun x member => by
      obtain ⟨e, -, rfl⟩ := List.mem_map.mp ((List.mergeSort_perm _ _).mem_iff.mp member)
      rfl
    refine List.pairwise_map.mpr ((ranked.imp_of_mem fun {x y} inX inY order => ?_).filter _)
    rwa [second x inX, second y inY] at order

/-- The query `le` over two bookmarks, one whose title starts with it. -/
theorem search_ranks_by_score_sample :
    let lean := Value.object [(Text.ofString "title", .str (Text.ofString "Lean")),
      (Text.ofString "tags", .array [.str (Text.ofString "prover")]),
      (Text.ofString "description", .str (Text.ofString "theorem prover"))]
    let pasta := Value.object [(Text.ofString "title", .str (Text.ofString "Pasta")),
      (Text.ofString "tags", .array []), (Text.ofString "description", .str [])]
    let score := fun e : Entry => twiceScore (Text.lower (Text.ofString "le"))
      (e.2.textAt "title") (e.2.textsAt "tags") (e.2.textAt "description")
    Text.ofString "le" ≠ [] ∧
    (∀ p ∈ Text.words (Text.trim (Text.ofString "le")), filterWord p = false) ∧
    (∀ b ∈ [lean, pasta], Rankable b (b.textAt "title") (b.textsAt "tags")
      (b.textAt "description")) ∧
    ∃ found, search (.str (Text.ofString "le")) (.array [lean, pasta]) = .ok found ∧
      found.Perm (([lean, pasta].zipIdx.map fun (b, k) => (k, b)).filter
        fun e => 100 < score e) ∧
      found.Pairwise fun x y => score y < score x ∨ (score x = score y ∧ x.1 < y.1) := by
  intro lean pasta score
  have nonempty : Text.ofString "le" ≠ [] := by decide
  have plain : ∀ p ∈ Text.words (Text.trim (Text.ofString "le")), filterWord p = false := by
    decide +kernel
  have shaped : ∀ b ∈ [lean, pasta], Rankable b (b.textAt "title") (b.textsAt "tags")
      (b.textAt "description") := by
    intro b member
    rcases List.mem_pair.mp member with rfl | rfl <;> exact ⟨rfl, rfl, rfl⟩
  exact ⟨nonempty, plain, shaped, search_ranks_by_score nonempty plain (·.textAt "title")
    (·.textsAt "tags") (·.textAt "description") shaped⟩

end Bookmarks
