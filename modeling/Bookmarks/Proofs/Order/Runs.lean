import Bookmarks.Proofs.Order.Stable
/-!
The runs the sort starts from hold the stable sort of their positions.

A run whose ranks never fall, or strictly fall and is turned around, is the stable sort of its
positions (`stableSorted_of_rising`, `stableSorted_of_falling`), and lengthening it keeps that
(`binarySort_sorted`).
-/
namespace Bookmarks.Order

variable {ε β : Type} [LinearOrder β] {rank : Nat → β} {n : Nat} {lt : Less ε}

/-! ## Runs of positions -/

theorem pairwise_range' {R : Nat → Nat → Prop} {lo len : Nat}
    (each : ∀ i j, lo ≤ i → i < j → j < lo + len → R i j) :
    (List.range' lo len).Pairwise R := by
  rw [List.pairwise_iff_getElem]
  intro i j first second earlier
  simp only [List.length_range'] at first second
  simp only [List.getElem_range', Nat.one_mul]
  exact each _ _ (by omega) (by omega) (by omega)

/-- Ranks that never fall from one position to the next never fall across a range. -/
theorem rank_le_of_steps {lo hi : Nat} (steps : ∀ j, lo < j → j < hi → rank (j - 1) ≤ rank j)
    {i j : Nat} (first : lo ≤ i) (le : i ≤ j) (last : j < hi) : rank i ≤ rank j := by
  induction j, le using Nat.le_induction with
  | base => exact le_refl _
  | succ j _ ih =>
    have step := steps (j + 1) (by omega) last
    rw [Nat.add_sub_cancel] at step
    exact le_trans (ih (by omega)) step

/-- Ranks that strictly fall from one position to the next strictly fall across a range. -/
theorem rank_lt_of_steps {lo hi : Nat} (steps : ∀ j, lo < j → j < hi → rank j < rank (j - 1))
    {i j : Nat} (first : lo ≤ i) (earlier : i < j) (last : j < hi) : rank j < rank i := by
  induction j, earlier using Nat.le_induction with
  | base =>
    have step := steps (i + 1) (by omega) last
    rwa [Nat.add_sub_cancel] at step
  | succ j _ ih =>
    have step := steps (j + 1) (by omega) last
    rw [Nat.add_sub_cancel] at step
    exact lt_trans step (ih (by omega))

/-- Positions whose ranks never fall are their own stable sort. -/
theorem stableSorted_of_rising {lo len : Nat}
    (steps : ∀ j, lo < j → j < lo + len → rank (j - 1) ≤ rank j) :
    stableSorted rank lo len = List.range' lo len :=
  (eq_stableSorted (List.Perm.refl _) (pairwise_range' fun _ _ first earlier last =>
    precedes_of_le (rank_le_of_steps steps first earlier.le last) earlier)).symm

/-- Positions whose ranks strictly fall, in reverse, are their stable sort. -/
theorem stableSorted_of_falling {lo len : Nat}
    (steps : ∀ j, lo < j → j < lo + len → rank j < rank (j - 1)) :
    stableSorted rank lo len = (List.range' lo len).reverse := by
  refine (eq_stableSorted (List.reverse_perm _) ?_).symm
  rw [List.pairwise_reverse]
  exact pairwise_range' fun _ _ first earlier last => .inl (rank_lt_of_steps steps first earlier last)

/-! ## Finding a run -/

section Finding

variable (ranked : Ranked rank lt n) {a : Array Nat} (below : CellsBelow n a)
include ranked below

/-- `runFrom` counts the cells from `i` on, before `hi`, each of which is (when `descending`) or
is not (otherwise) ranked below the one before it. -/
theorem runFrom_steps {descending : Bool} {i hi len : Nat}
    (found : runFrom lt a descending i hi = .ok len) :
    len ≤ hi - i ∧ ∀ j, i ≤ j → j < i + len →
      decide (rank (cell a j) < rank (cell a (j - 1))) = descending := by
  fun_induction runFrom lt a descending i hi generalizing len with
  | case1 i inside ih =>
    obtain ⟨b, compared, rest⟩ := bind_eq_ok.mp found
    rw [ranked _ _ (below _) (below _), Except.ok.injEq] at compared
    subst compared
    split at rest
    · -- the cell continues the run, and the cells after it are counted on
      rename_i same
      obtain ⟨more, counted, total⟩ := bind_eq_ok.mp rest
      obtain rfl := pure_eq_ok.mp total
      obtain ⟨short, steps⟩ := ih counted
      refine ⟨by omega, fun j low high => ?_⟩
      rcases Nat.eq_or_lt_of_le low with rfl | later
      · simpa using same
      · exact steps j (by omega) (by omega)
    · obtain rfl := pure_eq_ok.mp rest
      exact ⟨by omega, fun j low high => absurd high (by omega)⟩
  | case2 i outside =>
    obtain rfl := pure_eq_ok.mp found
    exact ⟨by omega, fun j low high => absurd high (by omega)⟩

/-- The run found from `lo` is at least one cell long and stays before `hi`; each of its cells
after the first is ranked below the one before it exactly when the run descends. -/
theorem countRun_steps {lo hi len : Nat} {descending : Bool} (inside : lo < hi)
    (found : countRun lt a lo hi = .ok (len, descending)) :
    1 ≤ len ∧ len ≤ hi - lo ∧ ∀ j, lo < j → j < lo + len →
      decide (rank (cell a j) < rank (cell a (j - 1))) = descending := by
  unfold countRun at found
  split at found
  · obtain ⟨rfl, rfl⟩ := Prod.mk.inj (pure_eq_ok.mp found)
    exact ⟨le_refl _, by omega, fun j low high => absurd high (by omega)⟩
  · obtain ⟨d, compared, rest⟩ := bind_eq_ok.mp found
    obtain ⟨more, counted, total⟩ := bind_eq_ok.mp rest
    obtain ⟨rfl, rfl⟩ := Prod.mk.inj (pure_eq_ok.mp total)
    rw [ranked _ _ (below _) (below _), Except.ok.injEq] at compared
    obtain ⟨short, steps⟩ := runFrom_steps ranked below counted
    refine ⟨by omega, by omega, fun j low high => ?_⟩
    rcases Nat.eq_or_lt_of_le (show lo + 1 ≤ j by omega) with rfl | later
    · rw [← compared, Nat.add_sub_cancel]
    · exact steps j (by omega) (by omega)

end Finding

/-- A run found where the cells hold their own positions, turned around when it descends, is
the stable sort of those positions. -/
theorem stableSorted_of_run {a : Array Nat} {lo len : Nat} {descending : Bool}
    (own : ∀ p, lo ≤ p → p < lo + len → cell a p = p)
    (steps : ∀ j, lo < j → j < lo + len →
      decide (rank (cell a j) < rank (cell a (j - 1))) = descending) :
    (if descending then (segment a lo len).reverse else segment a lo len) =
      stableSorted rank lo len := by
  have positions : segment a lo len = List.range' lo len := by
    rw [← segment_range (n := lo + len) (Nat.le_refl _)]
    exact segment_congr fun p low high => by rw [own p low high, cell_range high]
  have ranks : ∀ j, lo < j → j < lo + len →
      decide (rank j < rank (j - 1)) = descending := fun j low high => by
    have step := steps j low high
    rwa [own j (by omega) high, own (j - 1) (by omega) (by omega)] at step
  cases descending with
  | false =>
    rw [if_neg Bool.false_ne_true, positions, stableSorted_of_rising fun j low high =>
      le_of_not_gt (of_decide_eq_false (ranks j low high))]
  | true =>
    rw [if_pos rfl, positions, stableSorted_of_falling fun j low high =>
      of_decide_eq_true (ranks j low high)]

/-! ## Lengthening a run -/

/-- Inserting the next position after every position of a run in stable order that it does not
rank below, and before the rest, gives the stable sort of the longer run. -/
theorem stableSorted_insert {lo s : Nat} {xs ys : List Nat}
    (sorted : xs ++ ys = stableSorted rank lo (s - lo)) (ordered : lo ≤ s)
    (notBelow : ∀ x ∈ xs, rank x ≤ rank s) (above : ∀ y ∈ ys, rank s < rank y) :
    xs ++ s :: ys = stableSorted rank lo (s + 1 - lo) := by
  have inRun : ∀ x ∈ xs ++ ys, x < s := fun x member => by
    rw [sorted, mem_stableSorted] at member
    omega
  apply eq_stableSorted
  · -- the positions: those of the run, and `s` after them
    rw [show s + 1 - lo = s - lo + 1 by omega, List.range'_concat, Nat.one_mul,
      show lo + (s - lo) = s by omega]
    refine List.perm_middle.trans ((List.Perm.cons s
      ((List.Perm.of_eq sorted).trans (stableSorted_perm lo (s - lo)))).trans ?_)
    exact (List.perm_append_singleton _ _).symm
  · have run := sorted ▸ @pairwise_precedes_stableSorted _ _ rank lo (s - lo)
    rw [List.pairwise_append] at run ⊢
    refine ⟨run.1, List.pairwise_cons.mpr ⟨fun y member => .inl (above y member), run.2.1⟩,
      fun x inXs z inRest => ?_⟩
    rcases List.mem_cons.mp inRest with rfl | inYs
    · exact precedes_of_le (notBelow x inXs) (inRun x (List.mem_append_left _ inXs))
    · exact run.2.2 x inXs z inYs

/-- Inserting cell after cell, where the cells not yet reached hold their own positions, extends
a run in stable order to the stable sort of all of them, and changes no cell outside. -/
theorem binarySort_sorted (ranked : Ranked rank lt n) {a b : Array Nat} {lo hi s : Nat}
    (below : CellsBelow n a) (ordered : lo ≤ s) (reach : s ≤ hi) (fits : hi ≤ a.size)
    (sorted : segment a lo (s - lo) = stableSorted rank lo (s - lo))
    (own : ∀ p, s ≤ p → p < hi → cell a p = p) (found : binarySort lt a lo hi s = .ok b) :
    b.size = a.size ∧ CellsBelow n b ∧ (∀ i, (i < lo ∨ hi ≤ i) → cell b i = cell a i) ∧
      segment b lo (hi - lo) = stableSorted rank lo (hi - lo) := by
  fun_induction binarySort lt a lo hi s with
  | case1 a s inside pivot ih =>
    obtain ⟨l, slot, rest⟩ := bind_eq_ok.mp found
    have split := insertionSlot_splits (P := fun i => notAbove rank (cell a i) (cell a s))
      (fun i _ _ => ranked.eq_not_notAbove (below _) (below _))
      (fun i j low le high held => notAbove_eq_true.mpr (le_trans
        (rank_cell_le_at (sorted ▸ sorted_stableSorted lo (s - lo)) low le (by omega))
        (notAbove_eq_true.mp held)))
      ordered slot
    have := split.low
    have := split.high
    have pivotOwn : cell a s = s := own s (le_refl _) inside
    -- the longer run: the cells up to the slot, the pivot, then the cells it passed
    have longer : segment (insertCell a (cell a s) l s) lo (s + 1 - lo) =
        stableSorted rank lo (s + 1 - lo) := by
      rw [segment_insertCell split.low split.high (by omega), pivotOwn]
      refine stableSorted_insert ?_ ordered (fun x member => ?_) (fun y member => ?_)
      · rw [← sorted, show s - lo = l - lo + (s - l) by omega, segment_add,
          show lo + (l - lo) = l by omega]
      · obtain ⟨i, low, high, rfl⟩ := mem_segment.mp member
        have := notAbove_eq_true.mp (split.holds i low (by omega))
        rwa [pivotOwn] at this
      · obtain ⟨i, low, high, rfl⟩ := mem_segment.mp member
        have := notAbove_eq_false.mp (split.fails i low (by omega))
        rwa [pivotOwn] at this
    have grown : (insertCell a (cell a s) l s).size = a.size :=
      size_insertCell split.high (by omega)
    have own' : ∀ p, s + 1 ≤ p → p < hi → cell (insertCell a (cell a s) l s) p = p :=
      fun p low high => by
        rw [cell_insertCell split.high (by omega), if_neg (by omega), if_neg (by omega),
          if_neg (by omega)]
        exact own p (by omega) high
    obtain ⟨size, bounded, outside, merged⟩ := ih l (below.insertCell split.high (by omega))
      (by omega) (by omega) (grown.symm ▸ fits) longer own' rest
    refine ⟨size.trans grown, bounded, fun i away => (outside i away).trans ?_, merged⟩
    show cell (insertCell a (cell a s) l s) i = cell a i
    rw [cell_insertCell split.high (by omega)]
    rcases away with early | late
    · rw [if_pos (by omega)]
    · rw [if_neg (by omega), if_neg (by omega), if_neg (by omega)]
  | case2 a s outside =>
    obtain rfl := pure_eq_ok.mp found
    obtain rfl : s = hi := by omega
    exact ⟨rfl, below, fun _ _ => rfl, sorted⟩

end Bookmarks.Order
