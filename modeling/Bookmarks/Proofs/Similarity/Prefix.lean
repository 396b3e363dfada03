import Bookmarks.Proofs.Similarity.Longest
import Bookmarks.Proofs.Ranking
/-!
A bookmark whose title starts with the query is always found.

The partial score of a query against a text it begins is 100 (`partialRatio_of_prefix_match`):
the longest block starts no further along the text than along the query, so its window is the
query itself, a full match (`above_self_fullMatch`) that ends the search for the best window
(`bestWindow_of_full`). A bookmark's searchable text starts with its lowercased title, so with
the title bonus it scores at least 60 (`twiceScore_of_title_prefix_match`), above the
threshold.
-/
namespace Bookmarks.Binary64

-- Powers are the core library's `instPowNat`, also where Mathlib's monoid power is in scope.
attribute [local instance (high)] instPowNat

/-- A positive whole over itself is one: the mantissa `2^52` at the exponent `-52`. -/
theorem ofRational_self {k : Nat} (pos : 0 < k) : ofRational false k k = encode hidden (-52) := by
  have quotient : k * 2 ^ (52 : Nat) / k = hidden := by
    rw [Nat.mul_div_cancel_left _ pos]
    rfl
  have exponent : exponentFor k k = -52 := by
    simp only [exponentFor, sub_self, zero_sub, scaled]
    simp [quotient]
  have round : roundHalfEven (k * 2 ^ (52 : Nat)) k = hidden := by
    simp [roundHalfEven, quotient]
    omega
  simp only [ofRational, Nat.ne_of_gt pos, if_false, withSign, Bool.false_eq_true, ofPositive,
    exponent, scaled]
  simp [round, hidden]

end Bookmarks.Binary64

namespace Bookmarks.Similarity

/-- A text is fully similar to itself. -/
theorem similarityOf_self {t : Text} (nonempty : t ≠ []) :
    similarityOf t t = Binary64.encode Binary64.hidden (-52) := by
  have size : 0 < (Matcher.make t t).a.size := by
    simp [Matcher.make, List.length_pos_iff.mpr nonempty]
  have self : (Matcher.make t t).a = (Matcher.make t t).b := rfl
  simp only [similarityOf, similarity, Matcher.matched_self (Matcher.indexed_make t t) self size,
    ← self]
  rw [if_neg (by omega), ← Nat.two_mul]
  exact Binary64.ofRational_self (by omega)

theorem above_self_fullMatch {t : Text} (nonempty : t ≠ []) :
    above (similarityOf t t) fullMatch = true := by
  rw [similarityOf_self nonempty]
  decide

/-- A window that fully matches stops the search for the best window. -/
theorem bestWindow_of_full {shorter longer : Text} {blocks : List Block} (best : Binary64)
    (full : ∃ x ∈ blocks, above (similarityOf shorter
      ((longer.drop (x.j - x.i)).take shorter.length)) fullMatch = true) :
    bestWindow shorter longer blocks best = none := by
  induction blocks generalizing best with
  | nil => simp at full
  | cons x rest ih =>
    unfold bestWindow
    dsimp only
    split
    · rfl
    · rename_i notFull
      obtain ⟨y, member, yFull⟩ := full
      rcases List.mem_cons.mp member with rfl | inRest
      · exact absurd yFull notFull
      · exact ih _ ⟨y, inRest, yFull⟩

/-- A query that begins a text matches part of it fully. -/
theorem partialRatio_of_prefix_match {q s : Text} (nonempty : q ≠ []) (begins : q <+: s) :
    partialRatio q s = 100 := by
  unfold partialRatio
  by_cases same : q = s
  · simp [same]
  have shorter : q.length ≤ s.length := begins.length_le
  have matcher := Matcher.indexed_make q s
  -- the longest block of the query and the text starts no further along the text than along
  -- the query, so its window is the start of the text: the query itself
  have diag : (Matcher.make q s).Diagonal 0 q.length s.length := by
    refine ⟨shorter, by simp [Matcher.make], fun t _ inside => ?_⟩
    obtain ⟨rest, rfl⟩ := begins
    simp only [Matcher.make, Array.getD_eq_getD_getElem?, List.getElem?_toArray,
      List.getElem?_append_left inside]
  obtain ⟨below, found⟩ := Matcher.longest_below matcher diag (List.length_pos_iff.mpr nonempty)
  have inBlocks : _ ∈ (Matcher.make q s).blocksIn 0 q.length 0 s.length (q.length + 1) :=
    Matcher.longest_mem_blocksIn (Nat.ne_of_gt found)
  obtain ⟨y, joined, yBelow⟩ := Matcher.exists_below_joinAdjacent ⟨_, inBlocks, below⟩
  have window : (s.drop (y.j - y.i)).take q.length = q := by
    rw [Nat.sub_eq_zero_of_le yBelow, List.drop_zero]
    exact (List.prefix_iff_eq_take.mp begins).symm
  have none : bestWindow q s (Matcher.make q s).matchingBlocks (Binary64.zero false) = none := by
    refine bestWindow_of_full _ ⟨y, ?_, by rw [window]; exact above_self_fullMatch nonempty⟩
    simpa [Matcher.matchingBlocks, Matcher.make] using Or.inl joined
  have longer : s ≠ [] := fun empty => nonempty (List.prefix_nil.mp (empty ▸ begins))
  simp [same, nonempty, longer, shorter, none]

end Bookmarks.Similarity

namespace Bookmarks

open Json

/-- Lowering keeps a text that is not empty not empty. -/
theorem lower_ne_nil {t : Text} (nonempty : t ≠ []) : Text.lower t ≠ [] := by
  cases t with
  | nil => exact absurd rfl nonempty
  | cons c rest =>
    unfold Text.lower Text.lowerAfter
    split <;> [simp; split <;> simp]

/-- A bookmark whose lowercased title starts with the lowercased query scores at least 60. -/
theorem twiceScore_of_title_prefix_match {q title description : Text} {tags : List Text}
    (nonempty : q ≠ []) (starts : (Text.lower title).startsWith q = true) :
    120 ≤ twiceScore q title tags description := by
  have begins : q <+: Text.lower title := List.isPrefixOf_iff_prefix.mp starts
  unfold twiceScore
  dsimp only
  rw [Similarity.partialRatio_of_prefix_match nonempty
    (begins.trans (List.prefix_append _ _) |>.trans (List.prefix_append _ _) |>.trans
      (List.prefix_append _ _) |>.trans (List.prefix_append _ _)),
    if_pos starts]
  omega

/-- The entry of the bookmark at position `k`. -/
theorem mem_entries {bookmarks : List Value} {k : Nat} (inside : k < bookmarks.length) :
    ((k, bookmarks[k]) : Entry) ∈ bookmarks.zipIdx.map fun (b, k) => (k, b) := by
  refine List.mem_map.mpr ⟨(bookmarks[k], k), ?_, rfl⟩
  rw [List.mem_iff_getElem]
  exact ⟨k, by simpa using inside, by simp⟩

/-- Searching with a non-empty query that has no filter word among its words, in bookmarks that
each have a text title, a list of text tags and a text description, succeeds, and it finds every
bookmark whose lowercased title starts with the lowercased query, whatever its tags and
description. -/
theorem search_keeps_title_prefix_matches {query : Text} (nonempty : query ≠ [])
    (plain : ∀ p ∈ Text.words (Text.trim query), filterWord p = false) {bookmarks : List Value}
    (title : Value → Text) (tags : Value → List Text) (description : Value → Text)
    (shaped : ∀ b ∈ bookmarks, Rankable b (title b) (tags b) (description b)) :
    ∃ found, search (.str query) (.array bookmarks) = .ok found ∧
      ∀ (k : Nat) (inside : k < bookmarks.length),
        (Text.lower (title bookmarks[k])).startsWith (Text.lower query) = true →
          (k, bookmarks[k]) ∈ found := by
  let entries := bookmarks.zipIdx.map fun (b, k) => ((k, b) : Entry)
  let score := fun e : Entry =>
    twiceScore (Text.lower query) (title e.2) (tags e.2) (description e.2)
  have scored : ∀ e ∈ entries, doubledScore (Text.lower query) e.2 = .ok (score e) :=
    fun e member => doubledScore_eq (shaped e.2 (snd_mem_of_mem_entries member)) _
  refine ⟨_, by rw [search_of_plain nonempty plain, rank_eq scored], fun k inside starts => ?_⟩
  -- the bookmark scores above 50, and the ranking keeps every entry that does
  have high : 100 < score (k, bookmarks[k]) :=
    Nat.lt_of_lt_of_le (by omega)
      (twiceScore_of_title_prefix_match (lower_ne_nil nonempty) starts)
  refine List.mem_map.mpr ⟨((k, bookmarks[k]), score (k, bookmarks[k])), ?_, rfl⟩
  refine List.mem_filter.mpr ⟨?_, by simpa using high⟩
  exact (List.mergeSort_perm _ _).mem_iff.mpr (List.mem_map_of_mem (mem_entries inside))

/-- The query `LE` over a bookmark titled `Lean` whose description is a run of 200 `e`, so long
that `e` is left out of its index, and one titled `Pasta`. -/
theorem search_keeps_title_prefix_matches_sample :
    let lean := Value.object [(Text.ofString "title", .str (Text.ofString "Lean")),
      (Text.ofString "tags", .array [.str (Text.ofString "prover")]),
      (Text.ofString "description", .str (List.replicate 200 0x65))]
    let pasta := Value.object [(Text.ofString "title", .str (Text.ofString "Pasta")),
      (Text.ofString "tags", .array []), (Text.ofString "description", .str [])]
    Text.ofString "LE" ≠ [] ∧
    (∀ p ∈ Text.words (Text.trim (Text.ofString "LE")), filterWord p = false) ∧
    (∀ b ∈ [lean, pasta], Rankable b (b.textAt "title") (b.textsAt "tags")
      (b.textAt "description")) ∧
    ∃ found, search (.str (Text.ofString "LE")) (.array [lean, pasta]) = .ok found ∧
      ∀ (k : Nat) (inside : k < [lean, pasta].length),
        (Text.lower ([lean, pasta][k].textAt "title")).startsWith
          (Text.lower (Text.ofString "LE")) = true → (k, [lean, pasta][k]) ∈ found := by
  intro lean pasta
  have nonempty : Text.ofString "LE" ≠ [] := by decide
  have plain : ∀ p ∈ Text.words (Text.trim (Text.ofString "LE")), filterWord p = false := by
    decide +kernel
  have shaped : ∀ b ∈ [lean, pasta], Rankable b (b.textAt "title") (b.textsAt "tags")
      (b.textAt "description") := by
    intro b member
    rcases List.mem_pair.mp member with rfl | rfl <;> exact ⟨rfl, rfl, rfl⟩
  exact ⟨nonempty, plain, shaped, search_keeps_title_prefix_matches nonempty plain
    (·.textAt "title") (·.textsAt "tags") (·.textAt "description") shaped⟩

end Bookmarks
