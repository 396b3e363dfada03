import Bookmarks.Proofs.Order.Searching
import Mathlib.Data.List.Sort
/-!
The order a stable sort gives, and stable merges.

The comparison the sort is given compares the ranks of two positions (`Ranked`). A stable
sort puts `i` before `j` when `i` has the lower rank, or the same rank and comes first
(`Precedes`), a strict total order: so one list of given positions is in that order, whatever
builds it (`eq_stableSorted`), and `stableSorted` is the library's merge sort by rank.

A merge takes the left run's next position unless the right run's next one has a lower rank
(`List.merge` with `notAbove`); merging the stable sorts of two neighbouring ranges gives the
stable sort of both (`merge_stableSorted`). The four block lemmas (`merge_append_left` and
the like) say when a block passes through a merge unchanged.
-/
namespace Bookmarks.Order

variable {ε β : Type} [LinearOrder β] (rank : Nat → β)

/-- The comparison of positions below `n` is that of their ranks. -/
def Ranked (lt : Less ε) (n : Nat) : Prop :=
  ∀ i j, i < n → j < n → lt i j = .ok (decide (rank i < rank j))

/-- Whether position `i` is not ranked above position `j`: a merge takes `i` first then. -/
def notAbove (i j : Nat) : Bool := decide (rank i ≤ rank j)

/-- Position `i` comes before `j` in a stable sort by rank. -/
def Precedes (i j : Nat) : Prop := rank i < rank j ∨ (rank i = rank j ∧ i < j)

/-- The positions from `lo`, `len` of them, stably sorted by rank. -/
def stableSorted (lo len : Nat) : List Nat := (List.range' lo len).mergeSort (notAbove rank)

variable {rank}

/-- A comparison of ranks asks whether the second position is not ranked above the first. -/
theorem Ranked.eq_not_notAbove {lt : Less ε} {n i j : Nat} (ranked : Ranked rank lt n)
    (first : i < n) (second : j < n) : lt i j = .ok (!notAbove rank j i) := by
  rw [ranked i j first second, notAbove]
  simp only [Except.ok.injEq]
  cases h : decide (rank j ≤ rank i) <;> simp_all

@[simp] theorem notAbove_eq_true {i j : Nat} : notAbove rank i j = true ↔ rank i ≤ rank j := by
  simp [notAbove]

@[simp] theorem notAbove_eq_false {i j : Nat} : notAbove rank i j = false ↔ rank j < rank i := by
  simp [notAbove]

theorem notAbove_trans (i j k : Nat) (first : notAbove rank i j = true)
    (second : notAbove rank j k = true) : notAbove rank i k = true := by
  simp only [notAbove_eq_true] at *
  exact le_trans first second

theorem notAbove_total (i j : Nat) : (notAbove rank i j || notAbove rank j i) = true := by
  simp only [Bool.or_eq_true, notAbove_eq_true]
  exact le_total _ _

theorem Precedes.trans {i j k : Nat} (first : Precedes rank i j) (second : Precedes rank j k) :
    Precedes rank i k := by
  rcases first with lower | ⟨same, earlier⟩ <;> rcases second with lower' | ⟨same', earlier'⟩
  · exact .inl (lt_trans lower lower')
  · exact .inl (same' ▸ lower)
  · exact .inl (same ▸ lower')
  · exact .inr ⟨same.trans same', Nat.lt_trans earlier earlier'⟩

theorem Precedes.asymm {i j : Nat} (first : Precedes rank i j) : ¬Precedes rank j i := by
  rintro (lower | ⟨same, earlier⟩) <;> rcases first with lower' | ⟨same', earlier'⟩
  · exact lt_asymm lower lower'
  · exact lt_irrefl _ (same' ▸ lower)
  · exact lt_irrefl _ (same ▸ lower')
  · omega

theorem Precedes.rank_le {i j : Nat} (first : Precedes rank i j) : rank i ≤ rank j := by
  rcases first with lower | ⟨same, _⟩
  · exact le_of_lt lower
  · exact le_of_eq same

/-- An earlier position not ranked above a later one precedes it. -/
theorem precedes_of_le {i j : Nat} (ranks : rank i ≤ rank j) (earlier : i < j) :
    Precedes rank i j := by
  rcases lt_or_eq_of_le ranks with lower | same
  · exact .inl lower
  · exact .inr ⟨same, earlier⟩

/-! ## The stable sort -/

/-- The library's merge sort by rank keeps positions of one rank in their order. -/
theorem pairwise_precedes_stableSorted (lo len : Nat) :
    (stableSorted rank lo len).Pairwise (Precedes rank) := by
  -- the merge sort is that of the positions paired with their indices, with ties broken by index
  unfold stableSorted
  rw [← List.mergeSort_zipIdx, List.pairwise_map]
  have sorted := List.pairwise_mergeSort (List.zipIdxLE_trans (@notAbove_trans β _ rank))
    (List.zipIdxLE_total (@notAbove_total β _ rank)) (List.range' lo len).zipIdx
  have distinct :
      (((List.range' lo len).zipIdx.mergeSort (List.zipIdxLE (notAbove rank))).map
        (fun x => x.1)).Nodup := by
    rw [List.mergeSort_zipIdx]
    exact (List.mergeSort_perm _ _).nodup_iff.mpr List.nodup_range'
  rw [List.Nodup, List.pairwise_map] at distinct
  refine (sorted.and distinct).imp_of_mem fun {a b} first second ⟨ordered, apart⟩ => ?_
  -- a paired position is the start plus its index
  have place : ∀ x ∈ (List.range' lo len).zipIdx.mergeSort (List.zipIdxLE (notAbove rank)),
      x.1 = lo + x.2 := by
    intro x member
    rw [List.mem_mergeSort] at member
    have inside := List.snd_lt_of_mem_zipIdx member
    rw [List.mem_zipIdx_iff_getElem?, List.getElem?_range' (by simpa using inside)] at member
    simpa using member.symm
  have atA := place a first
  have atB := place b second
  simp only [List.zipIdxLE, notAbove_eq_true] at ordered
  split at ordered
  · rename_i ranks
    split at ordered
    · exact precedes_of_le (by simpa using ranks) (by simp at ordered; omega)
    · rename_i reversed
      exact .inl (lt_of_not_ge (by simpa using reversed))
  · cases ordered

theorem stableSorted_perm (lo len : Nat) : (stableSorted rank lo len).Perm (List.range' lo len) :=
  List.mergeSort_perm _ _

/-- The stable sort is the one list of the positions in which each precedes the next. -/
theorem eq_stableSorted {l : List Nat} {lo len : Nat} (same : l.Perm (List.range' lo len))
    (ordered : l.Pairwise (Precedes rank)) : l = stableSorted rank lo len := by
  refine List.Perm.eq_of_pairwise (fun a b _ _ first second => absurd second first.asymm)
    ordered (pairwise_precedes_stableSorted lo len) (same.trans (stableSorted_perm lo len).symm)

theorem mem_stableSorted {lo len x : Nat} :
    x ∈ stableSorted rank lo len ↔ lo ≤ x ∧ x < lo + len := by
  rw [(stableSorted_perm lo len).mem_iff, List.mem_range'_1]

/-! ## Merges of blocks -/

/-- A left block whose every position is not ranked above the right run's next one is taken
first. -/
theorem merge_append_left {xs as bs : List Nat} {b : Nat}
    (first : ∀ x ∈ xs, rank x ≤ rank b) :
    (xs ++ as).merge (b :: bs) (notAbove rank) = xs ++ as.merge (b :: bs) (notAbove rank) := by
  induction xs with
  | nil => rfl
  | cons x xs ih =>
    have taken : notAbove rank x b = true := notAbove_eq_true.mpr (first x (.head xs))
    rw [List.cons_append, List.cons_merge_cons, if_pos taken,
      ih fun y member => first y (.tail x member), List.cons_append]

/-- A right block whose every position is ranked below the left run's next one is taken
first. -/
theorem merge_append_right {ys as bs : List Nat} {a : Nat}
    (first : ∀ y ∈ ys, rank y < rank a) :
    (a :: as).merge (ys ++ bs) (notAbove rank) = ys ++ (a :: as).merge bs (notAbove rank) := by
  induction ys with
  | nil => rfl
  | cons y ys ih =>
    have passed : ¬notAbove rank a y = true := by simpa using first y (.head ys)
    rw [List.cons_append, List.cons_merge_cons, if_neg passed,
      ih fun z member => first z (.tail y member), List.cons_append]

/-- Positions ranked above every position of the right run come after all of it. -/
theorem merge_of_lt {xs bs : List Nat} (above : ∀ y ∈ bs, ∀ x ∈ xs, rank y < rank x) :
    xs.merge bs (notAbove rank) = bs ++ xs := by
  induction bs with
  | nil => simp
  | cons b bs ih =>
    cases xs with
    | nil => simp
    | cons x xs =>
      have passed : ¬notAbove rank x b = true := by simpa using above b (.head bs) x (.head xs)
      rw [List.cons_merge_cons, if_neg passed, ih fun y member => above y (.tail b member),
        List.cons_append]

/-- A left block ranked above every position of the right run ends the merge. -/
theorem merge_append_left_tail {as xs bs : List Nat}
    (above : ∀ y ∈ bs, ∀ x ∈ xs, rank y < rank x) :
    (as ++ xs).merge bs (notAbove rank) = as.merge bs (notAbove rank) ++ xs := by
  induction as generalizing bs with
  | nil => simpa using merge_of_lt above
  | cons a as ih =>
    induction bs with
    | nil => simp
    | cons b bs ih' =>
      have later : ∀ y ∈ bs, ∀ x ∈ xs, rank y < rank x := fun y member => above y (.tail b member)
      by_cases taken : notAbove rank a b = true
      · rw [List.cons_append, List.cons_merge_cons, if_pos taken, ih above,
          List.cons_merge_cons, if_pos taken, List.cons_append]
      · rw [List.cons_append, List.cons_merge_cons, if_neg taken, ← List.cons_append,
          ih' later, List.cons_merge_cons, if_neg taken, List.cons_append]

/-- A right block not ranked below any position of the left run ends the merge. -/
theorem merge_append_right_tail {as bs ys : List Nat}
    (above : ∀ x ∈ as, ∀ y ∈ ys, rank x ≤ rank y) :
    as.merge (bs ++ ys) (notAbove rank) = as.merge bs (notAbove rank) ++ ys := by
  induction bs generalizing as with
  | nil =>
    simpa using List.merge_of_le fun x y first second =>
      notAbove_eq_true.mpr (above x first y second)
  | cons b bs ih =>
    induction as with
    | nil => simp
    | cons a as ih' =>
      have later : ∀ x ∈ as, ∀ y ∈ ys, rank x ≤ rank y := fun x member => above x (.tail a member)
      by_cases taken : notAbove rank a b = true
      · rw [List.cons_append, List.cons_merge_cons, if_pos taken, ← List.cons_append,
          ih' later, List.cons_merge_cons, if_pos taken, List.cons_append]
      · rw [List.cons_append, List.cons_merge_cons, if_neg taken, ih above,
          List.cons_merge_cons, if_neg taken, List.cons_append]

/-- The merge of two runs in stable order, each of positions before the other's, is in stable
order. -/
theorem pairwise_precedes_merge {as bs : List Nat} (left : as.Pairwise (Precedes rank))
    (right : bs.Pairwise (Precedes rank)) (apart : ∀ a ∈ as, ∀ b ∈ bs, a < b) :
    (as.merge bs (notAbove rank)).Pairwise (Precedes rank) := by
  induction as generalizing bs with
  | nil => simpa using right
  | cons a as ih =>
    induction bs with
    | nil => simpa using left
    | cons b bs ih' =>
      rw [List.pairwise_cons] at left right
      rw [List.cons_merge_cons]
      split
      · -- the left run's position goes first: it precedes the rest of both runs
        rename_i taken
        have first : Precedes rank a b :=
          precedes_of_le (notAbove_eq_true.mp taken) (apart a (.head as) b (.head bs))
        refine List.pairwise_cons.mpr ⟨fun z member => ?_, ih left.2
          (List.pairwise_cons.mpr right) fun x xIn y yIn => apart x (.tail a xIn) y yIn⟩
        rcases List.mem_merge.mp member with inLeft | inRight
        · exact left.1 z inLeft
        · rcases List.mem_cons.mp inRight with rfl | later
          · exact first
          · exact first.trans (right.1 z later)
      · -- the right run's position is ranked lower: it precedes the rest of both runs
        rename_i passed
        have first : Precedes rank b a := .inl (by simpa using passed)
        refine List.pairwise_cons.mpr ⟨fun z member => ?_, ih' right.2
          fun x xIn y yIn => apart x xIn y (.tail b yIn)⟩
        rcases List.mem_merge.mp member with inLeft | inRight
        · rcases List.mem_cons.mp inLeft with rfl | later
          · exact first
          · exact first.trans (left.1 z later)
        · exact right.1 z inRight

/-- Merging the stable sorts of two neighbouring ranges gives the stable sort of both. -/
theorem merge_stableSorted (lo m k : Nat) :
    (stableSorted rank lo m).merge (stableSorted rank (lo + m) k) (notAbove rank) =
      stableSorted rank lo (m + k) := by
  apply eq_stableSorted
  · refine (List.merge_perm_append _).trans ?_
    rw [← List.range'_append, Nat.one_mul]
    exact (stableSorted_perm lo m).append (stableSorted_perm (lo + m) k)
  · refine pairwise_precedes_merge (pairwise_precedes_stableSorted lo m)
      (pairwise_precedes_stableSorted (lo + m) k) fun a first b second => ?_
    have := mem_stableSorted.mp first
    have := mem_stableSorted.mp second
    omega

/-- The stable sort is sorted by rank. -/
theorem sorted_stableSorted (lo len : Nat) :
    (stableSorted rank lo len).Pairwise (fun x y => rank x ≤ rank y) :=
  (pairwise_precedes_stableSorted lo len).imp Precedes.rank_le

/-! ## Runs of cells in order -/

/-- Part of a segment in order is in order. -/
theorem pairwise_segment_inner {R : Nat → Nat → Prop} {a : Array Nat} {lo len lo' len' : Nat}
    (ordered : (segment a lo len).Pairwise R) (low : lo ≤ lo') (high : lo' + len' ≤ lo + len) :
    (segment a lo' len').Pairwise R := by
  obtain ⟨d, rfl⟩ := Nat.exists_eq_add_of_le low
  obtain ⟨e, rfl⟩ : ∃ e, len = d + len' + e := ⟨len - (d + len'), by omega⟩
  rw [segment_add, segment_add] at ordered
  exact (List.pairwise_append.mp (List.pairwise_append.mp ordered).1).2.1

/-- In a segment sorted by rank, an earlier cell is not ranked above a later one. -/
theorem rank_cell_le {a : Array Nat} {lo len i j : Nat}
    (ordered : (segment a lo len).Pairwise (fun x y => rank x ≤ rank y)) (le : i ≤ j)
    (inside : j < len) : rank (cell a (lo + i)) ≤ rank (cell a (lo + j)) := by
  rcases Nat.lt_or_eq_of_le le with earlier | rfl
  · have := List.pairwise_iff_getElem.mp ordered i j (by simp; omega) (by simpa using inside)
      earlier
    simpa [getElem_segment] using this
  · exact le_refl _

/-- In a segment sorted by rank, an earlier cell is not ranked above a later one, by their
indices. -/
theorem rank_cell_le_at {a : Array Nat} {lo len i j : Nat}
    (ordered : (segment a lo len).Pairwise (fun x y => rank x ≤ rank y)) (first : lo ≤ i)
    (le : i ≤ j) (last : j < lo + len) : rank (cell a i) ≤ rank (cell a j) := by
  have := rank_cell_le ordered (show i - lo ≤ j - lo by omega) (by omega)
  rwa [Nat.add_sub_cancel' first, Nat.add_sub_cancel' (by omega)] at this

/-- In a segment sorted by rank, no cell is ranked below the first. -/
theorem rank_first_le {a : Array Nat} {lo len x : Nat}
    (ordered : (segment a lo len).Pairwise (fun x y => rank x ≤ rank y))
    (member : x ∈ segment a lo len) : rank (cell a lo) ≤ rank x := by
  obtain ⟨i, low, high, rfl⟩ := mem_segment.mp member
  have := rank_cell_le ordered (Nat.zero_le (i - lo)) (by omega)
  rwa [Nat.add_zero, Nat.add_sub_cancel' low] at this

/-- In a segment sorted by rank, no cell is ranked above the last. -/
theorem rank_le_last {a : Array Nat} {lo len x : Nat}
    (ordered : (segment a lo len).Pairwise (fun x y => rank x ≤ rank y))
    (member : x ∈ segment a lo len) : rank x ≤ rank (cell a (lo + len - 1)) := by
  obtain ⟨i, low, high, rfl⟩ := mem_segment.mp member
  have := rank_cell_le ordered (show i - lo ≤ len - 1 by omega) (by omega)
  rwa [Nat.add_sub_cancel' low, ← Nat.add_sub_assoc (by omega)] at this

/-- Cells `c` hold, from `base`, the stable merge of the runs of `na` and `nb` cells that cells
`c0` hold there, and are `c0` everywhere else. -/
structure MergedRuns (rank : Nat → β) (c0 c : Array Nat) (base na nb : Nat) : Prop where
  size : c.size = c0.size
  outside : ∀ i, (i < base ∨ base + na + nb ≤ i) → cell c i = cell c0 i
  merged : segment c base (na + nb) =
    (segment c0 base na).merge (segment c0 (base + na) nb) (notAbove rank)

end Bookmarks.Order
