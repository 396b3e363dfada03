import Bookmarks.Proofs.Order.HighMerge
import Bookmarks.Proofs.Order.Runs
/-!
The sort of the positions of a list is their stable sort.

`Stacked` is what holds of the stack of runs between steps: the runs lie side by side from the
first cell, and each holds the stable sort of the positions it covers. Merging two runs keeps
it (`Sorting.mergeAt_merged`, `Stacked.mergeAt`), so do the scan (`Stacked.scan`) and the
collapse (`Stacked.collapse`), whose one run covers the whole list (`sortCells_sorted`).
-/
namespace Bookmarks.Order

variable {ε β : Type} [LinearOrder β] {rank : Nat → β} {n : Nat} {lt : Less ε}

/-! ## Merging two neighbouring runs -/

/-- Nothing moves when one of the runs is empty. -/
theorem mergedRuns_self {c : Array Nat} {base na nb : Nat} (none : na = 0 ∨ nb = 0) :
    MergedRuns rank c c base na nb := by
  refine ⟨rfl, fun _ _ => rfl, ?_⟩
  rcases none with rfl | rfl
  · rw [Nat.zero_add, segment_zero, List.nil_merge, Nat.add_zero]
  · rw [Nat.add_zero, segment_zero, List.merge_right]

/-- The cells of merged runs are positions below `n` when the cells merged were. -/
theorem MergedRuns.cellsBelow {c c' : Array Nat} {base na nb : Nat}
    (merged : MergedRuns rank c c' base na nb) (below : CellsBelow n c) : CellsBelow n c' := by
  intro i
  by_cases inside : base ≤ i ∧ i < base + (na + nb)
  · have member : cell c' i ∈ segment c' base (na + nb) := mem_segment.mpr ⟨i, inside.1, inside.2, rfl⟩
    rw [merged.merged] at member
    rcases List.mem_append.mp ((List.merge_perm_append _).mem_iff.mp member) with first | second
    · obtain ⟨j, -, -, same⟩ := mem_segment.mp first
      exact same ▸ below j
    · obtain ⟨j, -, -, same⟩ := mem_segment.mp second
      exact same ▸ below j
  · rw [merged.outside i (by omega)]
    exact below i

/-- Merging what is left of two neighbouring runs, once the left run's first `k` cells, which
go before the whole right run, and the right run's cells from `nb` on, which go after the whole
left run, are set aside, merges the whole runs. -/
theorem MergedRuns.of_trimmed {c c' : Array Nat} {base lenA lenB k nb : Nat}
    (trimmed : MergedRuns rank c c' (base + k) (lenA - k) nb) (short : k ≤ lenA)
    (fewer : nb ≤ lenB) (someB : 0 < lenB)
    (leftSorted : (segment c base lenA).Pairwise (fun x y => rank x ≤ rank y))
    (early : ∀ i, i < k → rank (cell c (base + i)) ≤ rank (cell c (base + lenA)))
    (late : ∀ j, nb ≤ j → j < lenB →
      rank (cell c (base + lenA - 1)) ≤ rank (cell c (base + lenA + j))) :
    MergedRuns rank c c' base lenA lenB := by
  have splitA : segment c base lenA = segment c base k ++ segment c (base + k) (lenA - k) := by
    rw [← segment_add, Nat.add_sub_cancel' short]
  have splitB : segment c (base + lenA) lenB =
      segment c (base + lenA) nb ++ segment c (base + lenA + nb) (lenB - nb) := by
    rw [← segment_add, Nat.add_sub_cancel' fewer]
  have firstB : segment c (base + lenA) lenB =
      cell c (base + lenA) :: segment c (base + lenA + 1) (lenB - 1) := by
    rw [← segment_cons, Nat.sub_add_cancel someB]
  have same : ∀ i, (i < base + k ∨ base + lenA + nb ≤ i) → cell c' i = cell c i :=
    fun i away => trimmed.outside i (by omega)
  refine ⟨trimmed.size, fun i away => same i (by omega), ?_⟩
  calc segment c' base (lenA + lenB)
      = segment c base k ++ ((segment c (base + k) (lenA - k)).merge
          (segment c (base + lenA) nb) (notAbove rank) ++
            segment c (base + lenA + nb) (lenB - nb)) := by
        rw [show lenA + lenB = k + ((lenA - k + nb) + (lenB - nb)) by omega, segment_add,
          segment_add, trimmed.merged, show base + k + (lenA - k) = base + lenA by omega,
          show base + k + (lenA - k + nb) = base + lenA + nb by omega,
          segment_congr fun i _ high => same i (.inl high),
          @segment_congr c' c (base + lenA + nb) _ fun i low _ => same i (.inr low)]
    _ = segment c base k ++ (segment c (base + k) (lenA - k)).merge
          (segment c (base + lenA) lenB) (notAbove rank) := by
        -- the right run's cells set aside go after all the left run's cells left
        rw [splitB, merge_append_right_tail fun x member y after => ?_]
        obtain ⟨j, low, high, rfl⟩ := mem_segment.mp after
        have last := late (j - (base + lenA)) (by omega) (by omega)
        rw [show base + lenA + (j - (base + lenA)) = j by omega] at last
        refine le_trans ?_ last
        have := rank_le_last leftSorted (splitA ▸ List.mem_append_right _ member)
        rwa [show base + lenA - 1 = base + lenA - 1 by omega] at this
    _ = (segment c base lenA).merge (segment c (base + lenA) lenB) (notAbove rank) := by
        -- the left run's cells set aside go before all the right run's cells
        rw [splitA, firstB, merge_append_left fun x member => ?_]
        obtain ⟨i, low, high, rfl⟩ := mem_segment.mp member
        have first := early (i - base) (by omega)
        rwa [show base + (i - base) = i by omega] at first

/-! ## The stack after a merge -/

/-- The stack after the runs at `i` and `i + 1` are merged: the run at `i` grows over the next
one, and the one above them, if any, moves down. -/
def Sorting.mergedRuns (s : Sorting) (i : Nat) : Array Run :=
  let runs := s.runs.setIfInBounds i { s.run i with len := (s.run i).len + (s.run (i + 1)).len }
  (if i + 3 == runs.size then runs.setIfInBounds (i + 1) (s.run (i + 2)) else runs).pop

theorem Sorting.size_mergedRuns (s : Sorting) (i : Nat) :
    (s.mergedRuns i).size = s.runs.size - 1 := by
  simp only [Sorting.mergedRuns, Array.size_pop]
  split <;> simp

/-- Near the top of the stack, merging the runs at `i` and `i + 1` grows the run at `i` and moves
the runs above down one. -/
theorem Sorting.run_mergedRuns (s : Sorting) {i j : Nat}
    (near : i + 2 = s.runs.size ∨ i + 3 = s.runs.size) (short : j < s.runs.size - 1) :
    (s.mergedRuns i).getD j ⟨0, 0, 0⟩ =
      if j < i then s.run j
      else if j = i then { s.run i with len := (s.run i).len + (s.run (i + 1)).len }
      else s.run (j + 1) := by
  unfold Sorting.mergedRuns Sorting.run
  simp only [Array.getD_eq_getD_getElem?, Array.size_setIfInBounds]
  split
  · rename_i three
    simp only [beq_iff_eq] at three
    simp only [Array.getElem?_pop, Array.getElem?_setIfInBounds, Array.size_setIfInBounds]
    split_ifs <;> first | omega | (subst_vars; simp_all)
  · rename_i notThree
    simp only [beq_iff_eq] at notThree
    simp only [Array.getElem?_pop, Array.getElem?_setIfInBounds, Array.size_setIfInBounds]
    split_ifs <;> first | omega | (subst_vars; simp_all)

/-! ## One merge -/

/-- Merging the runs at `i` and `i + 1` of the stack, two neighbouring runs sorted by rank,
leaves their stable merge in their place, and the stack with the two made one. -/
theorem Sorting.mergeAt_merged (ranked : Ranked rank lt n) {s t : Sorting} {i : Nat}
    (below : CellsBelow n s.cells) (next : (s.run (i + 1)).base = (s.run i).base + (s.run i).len)
    (fits : (s.run i).base + (s.run i).len + (s.run (i + 1)).len ≤ s.cells.size)
    (someA : 0 < (s.run i).len) (someB : 0 < (s.run (i + 1)).len)
    (leftSorted : (segment s.cells (s.run i).base (s.run i).len).Pairwise
      (fun x y => rank x ≤ rank y))
    (rightSorted : (segment s.cells (s.run (i + 1)).base (s.run (i + 1)).len).Pairwise
      (fun x y => rank x ≤ rank y))
    (merged : s.mergeAt lt i = .ok t) :
    t.runs = s.mergedRuns i ∧
      MergedRuns rank s.cells t.cells (s.run i).base (s.run i).len (s.run (i + 1)).len := by
  simp only [Sorting.mergeAt] at merged
  obtain ⟨k, galloped, rest⟩ := bind_eq_ok.mp merged
  -- the left run's first `k` cells go before the right run's first cell, the others after it
  have split := gallopRight_splits
    (P := fun j => notAbove rank (cell s.cells ((s.run i).base + j))
      (cell s.cells (s.run (i + 1)).base))
    (fun _ _ => ranked.eq_not_notAbove (below _) (below _))
    (fun _ _ _ le inside held => notAbove_eq_true.mpr
      (le_trans (rank_cell_le leftSorted le inside) (notAbove_eq_true.mp held)))
    someA galloped
  have := split.high
  have early : ∀ j, j < k → rank (cell s.cells ((s.run i).base + j)) ≤
      rank (cell s.cells ((s.run i).base + (s.run i).len)) := fun j short => by
    rw [← next]
    exact notAbove_eq_true.mp (split.holds j (Nat.zero_le _) short)
  split at rest
  · -- the whole left run goes before the right run: nothing moves
    rename_i none
    simp only [beq_iff_eq] at none
    obtain rfl := pure_eq_ok.mp rest
    exact ⟨rfl, (mergedRuns_self (.inl none)).of_trimmed split.high (le_refl _) someB leftSorted
      early fun j low high => absurd high (by omega)⟩
  rename_i some
  simp only [beq_iff_eq] at some
  obtain ⟨nb, galloped, rest⟩ := bind_eq_ok.mp rest
  -- the right run's first `nb` cells go before the left run's last cell, the others after it
  have last : (s.run i).base + k + ((s.run i).len - k) - 1 = (s.run i).base + (s.run i).len - 1 := by
    omega
  have split' := gallopLeft_splits
    (P := fun j => decide (rank (cell s.cells ((s.run (i + 1)).base + j)) <
      rank (cell s.cells ((s.run i).base + k + ((s.run i).len - k) - 1))))
    (fun _ _ => ranked _ _ (below _) (below _))
    (fun _ _ _ le inside held => by
      simp only [decide_eq_true_eq] at held ⊢
      exact lt_of_le_of_lt (rank_cell_le rightSorted le inside) held)
    (by omega) galloped
  have := split'.high
  have late : ∀ j, nb ≤ j → j < (s.run (i + 1)).len →
      rank (cell s.cells ((s.run i).base + (s.run i).len - 1)) ≤
        rank (cell s.cells ((s.run i).base + (s.run i).len + j)) := fun j low high => by
    have after := of_decide_eq_false (split'.fails j low high)
    rw [last, next] at after
    exact le_of_not_gt after
  split at rest
  · -- the whole right run goes after the left run: nothing moves
    rename_i none
    simp only [beq_iff_eq] at none
    obtain rfl := pure_eq_ok.mp rest
    exact ⟨rfl, (mergedRuns_self (.inr none)).of_trimmed split.high split'.high someB leftSorted
      early late⟩
  rename_i notNone
  simp only [beq_iff_eq] at notNone
  -- what is left of both runs satisfies what either merge asks of its runs
  have start : (s.run i).base + k + ((s.run i).len - k) = (s.run (i + 1)).base := by omega
  have fits' : (s.run i).base + k + ((s.run i).len - k) + nb ≤ s.cells.size := by omega
  have leftSorted' : (segment s.cells ((s.run i).base + k) ((s.run i).len - k)).Pairwise
      (fun x y => rank x ≤ rank y) :=
    pairwise_segment_inner leftSorted (by omega) (by omega)
  have rightSorted' : (segment s.cells ((s.run i).base + k + ((s.run i).len - k)) nb).Pairwise
      (fun x y => rank x ≤ rank y) := by
    rw [start]
    exact pairwise_segment_inner rightSorted (le_refl _) (by omega)
  have first : rank (cell s.cells ((s.run i).base + k + ((s.run i).len - k))) <
      rank (cell s.cells ((s.run i).base + k)) := by
    rw [start]
    exact notAbove_eq_false.mp (split.fails k (le_refl _) (by omega))
  have below' : ∀ y ∈ segment s.cells ((s.run i).base + k + ((s.run i).len - k)) nb,
      rank y < rank (cell s.cells ((s.run i).base + k + ((s.run i).len - k) - 1)) := by
    intro y member
    rw [start] at member
    obtain ⟨j, low, high, rfl⟩ := mem_segment.mp member
    have before := of_decide_eq_true (split'.holds (j - (s.run (i + 1)).base) (Nat.zero_le _)
      (by omega))
    rwa [show (s.run (i + 1)).base + (j - (s.run (i + 1)).base) = j by omega] at before
  split at rest
  · obtain ⟨⟨cells, gallop⟩, mergedLow, rest⟩ := bind_eq_ok.mp rest
    obtain rfl := pure_eq_ok.mp rest
    exact ⟨rfl, (mergeLow_merged ranked fits' below (by omega) (by omega) leftSorted'
      rightSorted' first below' mergedLow).of_trimmed split.high split'.high someB leftSorted
      early late⟩
  · obtain ⟨⟨cells, gallop⟩, mergedHigh, rest⟩ := bind_eq_ok.mp rest
    obtain rfl := pure_eq_ok.mp rest
    exact ⟨rfl, (mergeHigh_merged ranked fits' below (by omega) (by omega) leftSorted'
      rightSorted' first below' mergedHigh).of_trimmed split.high split'.high someB leftSorted
      early late⟩

/-! ## The stack of runs -/

/-- The stack of a sort of `n` positions with those before `lo` done: its runs lie side by side
from the first cell up to `lo`, none is empty, and each holds the stable sort of the positions
it covers; every cell holds a position below `n`. -/
structure Stacked (rank : Nat → β) (n : Nat) (s : Sorting) (lo : Nat) : Prop where
  size : s.cells.size = n
  below : CellsBelow n s.cells
  within : lo ≤ n
  start : 0 < s.runs.size → (s.run 0).base = 0
  adjacent : ∀ j, j + 1 < s.runs.size → (s.run (j + 1)).base = (s.run j).base + (s.run j).len
  top : 0 < s.runs.size → (s.run (s.runs.size - 1)).base + (s.run (s.runs.size - 1)).len = lo
  empty : s.runs.size = 0 → lo = 0
  nonempty : ∀ j, j < s.runs.size → 0 < (s.run j).len
  sorted : ∀ j, j < s.runs.size →
    segment s.cells (s.run j).base (s.run j).len = stableSorted rank (s.run j).base (s.run j).len

variable {s t : Sorting} {lo : Nat}

/-- A run ends no later than where a run above it starts. -/
theorem Stacked.end_le_base (stacked : Stacked rank n s lo) {j k : Nat} (earlier : j < k)
    (inside : k < s.runs.size) : (s.run j).base + (s.run j).len ≤ (s.run k).base := by
  induction k, earlier using Nat.le_induction with
  | base => exact (stacked.adjacent j inside).ge
  | succ k _ ih =>
    have := stacked.adjacent k inside
    have := ih (by omega)
    omega

/-- Every run ends no later than `lo`. -/
theorem Stacked.end_le (stacked : Stacked rank n s lo) {j : Nat} (inside : j < s.runs.size) :
    (s.run j).base + (s.run j).len ≤ lo := by
  have top := stacked.top (by omega)
  rcases Nat.lt_or_eq_of_le (show j ≤ s.runs.size - 1 by omega) with lower | rfl
  · have := stacked.end_le_base lower (by omega)
    omega
  · exact top.le

theorem Stacked.sorted_rank (stacked : Stacked rank n s lo) {j : Nat} (inside : j < s.runs.size) :
    (segment s.cells (s.run j).base (s.run j).len).Pairwise (fun x y => rank x ≤ rank y) := by
  rw [stacked.sorted j inside]
  exact sorted_stableSorted _ _

/-- Merging two neighbouring runs near the top keeps the stack's shape with one run fewer, and
changes no cell from `lo` on. -/
theorem Stacked.mergeAt (stacked : Stacked rank n s lo) (ranked : Ranked rank lt n) {i : Nat}
    (near : i + 2 = s.runs.size ∨ i + 3 = s.runs.size) (merged : s.mergeAt lt i = .ok t) :
    Stacked rank n t lo ∧ t.runs.size + 1 = s.runs.size ∧
      ∀ p, lo ≤ p → cell t.cells p = cell s.cells p := by
  have inside : i + 1 < s.runs.size := by omega
  have next := stacked.adjacent i inside
  have ends := stacked.end_le inside
  have := stacked.size
  have := stacked.within
  obtain ⟨runs, cells⟩ := s.mergeAt_merged ranked stacked.below next (by omega)
    (stacked.nonempty i (by omega)) (stacked.nonempty (i + 1) inside)
    (stacked.sorted_rank (by omega)) (stacked.sorted_rank inside) merged
  have size : t.runs.size = s.runs.size - 1 := by rw [runs, Sorting.size_mergedRuns]
  have run : ∀ j, j < t.runs.size → t.run j =
      if j < i then s.run j
      else if j = i then { s.run i with len := (s.run i).len + (s.run (i + 1)).len }
      else s.run (j + 1) := fun j short => by
    show t.runs.getD j ⟨0, 0, 0⟩ = _
    rw [runs]
    exact s.run_mergedRuns near (by omega)
  -- the runs below the merged ones stay, the merged one grows, and those above move down
  have runBelow : ∀ j, j < i → t.run j = s.run j := fun j lower => by
    rw [run j (by omega), if_pos lower]
  have runAt : (t.run i).base = (s.run i).base ∧
      (t.run i).len = (s.run i).len + (s.run (i + 1)).len := by
    rw [run i (by omega), if_neg (Nat.lt_irrefl i), if_pos rfl]
    exact ⟨rfl, rfl⟩
  have runAbove : ∀ j, i < j → j < t.runs.size → t.run j = s.run (j + 1) := fun j higher short => by
    rw [run j short, if_neg (by omega), if_neg (by omega)]
  -- cells of the runs below and above the merged ones are as they were
  have untouched : ∀ b l, (b + l ≤ (s.run i).base ∨
      (s.run (i + 1)).base + (s.run (i + 1)).len ≤ b) →
      segment t.cells b l = segment s.cells b l := fun b l away =>
    segment_congr fun p low high => cells.outside p (by omega)
  refine ⟨⟨cells.size.trans stacked.size, cells.cellsBelow stacked.below, stacked.within,
    fun some => ?_, fun j short => ?_, fun some => ?_, fun none => by omega, fun j short => ?_,
    fun j short => ?_⟩, by omega, fun p after => cells.outside p (by omega)⟩
  · -- the first run
    rcases Nat.eq_zero_or_pos i with first | later
    · subst first
      rw [runAt.1]
      exact stacked.start (by omega)
    · rw [runBelow 0 later]
      exact stacked.start (by omega)
  · -- neighbouring runs: both below the merged one, meeting at it, or both above it
    rcases Nat.lt_trichotomy (j + 1) i with lower | meet | higher
    · rw [runBelow j (by omega), runBelow (j + 1) lower]
      exact stacked.adjacent j (by omega)
    · subst meet
      rw [runAt.1, runBelow j (by omega)]
      exact stacked.adjacent j (by omega)
    · rw [runAbove (j + 1) (by omega) short]
      rcases Nat.eq_or_lt_of_le (show i ≤ j by omega) with rfl | above
      · rw [runAt.1, runAt.2, stacked.adjacent (i + 1) (by omega), next]
        omega
      · rw [runAbove j above (by omega)]
        exact stacked.adjacent (j + 1) (by omega)
  · -- the top run: the merged one, or the one above it moved down
    rcases near with two | three
    · rw [show t.runs.size - 1 = i by omega, runAt.1, runAt.2, ← Nat.add_assoc, ← next]
      have top := stacked.top (by omega)
      rwa [show s.runs.size - 1 = i + 1 by omega] at top
    · rw [runAbove _ (by omega) (by omega), show t.runs.size - 1 + 1 = s.runs.size - 1 by omega]
      exact stacked.top (by omega)
  · -- no run is empty
    rcases Nat.lt_trichotomy j i with lower | rfl | higher
    · rw [runBelow j lower]
      exact stacked.nonempty j (by omega)
    · rw [runAt.2]
      exact Nat.add_pos_left (stacked.nonempty j (by omega)) _
    · rw [runAbove j higher short]
      exact stacked.nonempty (j + 1) (by omega)
  · -- each run holds the stable sort of its positions
    rcases Nat.lt_trichotomy j i with lower | rfl | higher
    · rw [runBelow j lower, untouched _ _ (.inl (stacked.end_le_base lower (by omega))),
        stacked.sorted j (by omega)]
    · rw [runAt.1, runAt.2, cells.merged, stacked.sorted j (by omega), ← next,
        stacked.sorted (j + 1) inside, next, merge_stableSorted]
    · rw [runAbove j higher short,
        untouched _ _ (.inr (stacked.end_le_base (show i + 1 < j + 1 by omega) (by omega))),
        stacked.sorted (j + 1) (by omega)]

theorem Sorting.run_setIfInBounds (s : Sorting) (i j : Nat) (r : Run) :
    ({ s with runs := s.runs.setIfInBounds i r } : Sorting).run j =
      if i = j ∧ i < s.runs.size then r else s.run j := by
  simp only [Sorting.run, Array.getD_eq_getD_getElem?, Array.getElem?_setIfInBounds]
  by_cases same : i = j
  · subst same
    by_cases inside : i < s.runs.size <;> simp [inside]
  · simp [same]

theorem Sorting.run_push (s : Sorting) (j : Nat) (r : Run) :
    ({ s with runs := s.runs.push r } : Sorting).run j =
      if j < s.runs.size then s.run j else if j = s.runs.size then r else ⟨0, 0, 0⟩ := by
  simp only [Sorting.run, Array.getD_eq_getD_getElem?, Array.getElem?_push]
  split_ifs <;> first | omega | (subst_vars; simp) | simp_all

/-- Runs that cover the same cells, whatever their powers, make a stack of the same shape. -/
theorem Stacked.of_runs (stacked : Stacked rank n s lo) {runs : Array Run}
    (size : runs.size = s.runs.size)
    (same : ∀ j, ({ s with runs := runs } : Sorting).run j = s.run j ∨
      ∃ p, ({ s with runs := runs } : Sorting).run j = { s.run j with power := p }) :
    Stacked rank n { s with runs := runs } lo := by
  have base : ∀ j, (({ s with runs := runs } : Sorting).run j).base = (s.run j).base := fun j => by
    rcases same j with same | ⟨p, same⟩ <;> rw [same]
  have len : ∀ j, (({ s with runs := runs } : Sorting).run j).len = (s.run j).len := fun j => by
    rcases same j with same | ⟨p, same⟩ <;> rw [same]
  refine ⟨stacked.size, stacked.below, stacked.within, fun some => ?_, fun j short => ?_,
    fun some => ?_, fun none => stacked.empty (size ▸ none), fun j short => ?_, fun j short => ?_⟩
  · rw [base]
    exact stacked.start (size ▸ some)
  · rw [base, base, len]
    exact stacked.adjacent j (size ▸ short)
  · simp only [size, base, len]
    exact stacked.top (size ▸ some)
  · rw [len]
    exact stacked.nonempty j (size ▸ short)
  · rw [base, len]
    exact stacked.sorted j (size ▸ short)

/-- Cells that agree with the stack's before `lo` carry the same stack. -/
theorem Stacked.of_cells (stacked : Stacked rank n s lo) {c : Array Nat} (size : c.size = n)
    (below : CellsBelow n c) (same : ∀ p, p < lo → cell c p = cell s.cells p) :
    Stacked rank n { s with cells := c } lo :=
  ⟨size, below, stacked.within, stacked.start, stacked.adjacent, stacked.top, stacked.empty,
    stacked.nonempty, fun j short => by
      show segment c (s.run j).base (s.run j).len = stableSorted rank (s.run j).base (s.run j).len
      exact (segment_congr fun p _ high => same p (by have := stacked.end_le short; omega)).trans
        (stacked.sorted j short)⟩

/-- Merging the runs below the top while the boundary under the top has a greater power keeps
the stack's shape, and changes no cell from `lo` on. -/
theorem Stacked.settleBelow (stacked : Stacked rank n s lo) (ranked : Ranked rank lt n)
    {p fuel : Nat} (settled : s.settleBelow lt p fuel = .ok t) :
    Stacked rank n t lo ∧ ∀ q, lo ≤ q → cell t.cells q = cell s.cells q := by
  induction fuel generalizing s with
  | zero =>
    obtain rfl := pure_eq_ok.mp settled
    exact ⟨stacked, fun _ _ => rfl⟩
  | succ fuel more =>
    simp only [Sorting.settleBelow] at settled
    split at settled
    · rename_i above
      simp only [Bool.and_eq_true, decide_eq_true_eq] at above
      obtain ⟨u, merged, rest⟩ := bind_eq_ok.mp settled
      obtain ⟨stacked', -, kept⟩ := stacked.mergeAt ranked (.inl (by omega)) merged
      obtain ⟨done, kept'⟩ := more stacked' rest
      exact ⟨done, fun q after => (kept' q after).trans (kept q after)⟩
    · obtain rfl := pure_eq_ok.mp settled
      exact ⟨stacked, fun _ _ => rfl⟩

/-- Making room for a new run keeps the stack's shape, and changes no cell from `lo` on. -/
theorem Stacked.foundRun (stacked : Stacked rank n s lo) (ranked : Ranked rank lt n)
    {n2 : Nat} (found : s.foundRun lt n n2 = .ok t) :
    Stacked rank n t lo ∧ ∀ q, lo ≤ q → cell t.cells q = cell s.cells q := by
  unfold Sorting.foundRun at found
  split at found
  · obtain rfl := pure_eq_ok.mp found
    exact ⟨stacked, fun _ _ => rfl⟩
  · obtain ⟨u, settled, rest⟩ := bind_eq_ok.mp found
    obtain rfl := pure_eq_ok.mp rest
    obtain ⟨stacked', kept⟩ := stacked.settleBelow ranked settled
    -- only the top run's power is set
    refine ⟨stacked'.of_runs (by simp) fun j => ?_, kept⟩
    rw [Sorting.run_setIfInBounds]
    split_ifs with top
    · obtain ⟨rfl, -⟩ := top
      exact .inr ⟨_, rfl⟩
    · exact .inl rfl

/-- Pushing a run that holds the stable sort of the positions after the stack extends the
stack over them. -/
theorem Stacked.push (stacked : Stacked rank n s lo) {len : Nat} (some : 0 < len)
    (fits : lo + len ≤ n) (sorted : segment s.cells lo len = stableSorted rank lo len) :
    Stacked rank n { s with runs := s.runs.push ⟨lo, len, 0⟩ } (lo + len) := by
  have top : 0 < s.runs.size → (s.run (s.runs.size - 1)).base + (s.run (s.runs.size - 1)).len = lo :=
    stacked.top
  refine ⟨stacked.size, stacked.below, fits, fun _ => ?_, fun j short => ?_, fun _ => ?_,
    fun none => by simp at none, fun j short => ?_, fun j short => ?_⟩
  · rw [Sorting.run_push]
    split_ifs with some' first
    · exact stacked.start some'
    · exact stacked.empty first.symm
    · omega
  · -- the new run starts where the top one ended
    simp only [Array.size_push] at short
    rw [Sorting.run_push, Sorting.run_push, if_pos (show j < s.runs.size by omega)]
    by_cases below : j + 1 < s.runs.size
    · rw [if_pos below]
      exact stacked.adjacent j below
    · rw [if_neg below, if_pos (by omega)]
      have ends := top (by omega)
      rw [show s.runs.size - 1 = j by omega] at ends
      exact ends.symm
  · simp [Sorting.run_push]
  · simp only [Array.size_push] at short
    rw [Sorting.run_push]
    split_ifs with below
    · exact stacked.nonempty j below
    · exact some
    · omega
  · simp only [Array.size_push] at short
    rw [Sorting.run_push]
    split_ifs with below
    · exact stacked.sorted j below
    · exact sorted
    · omega

/-- Merging the whole stack, two runs at a time, keeps its shape and leaves one run at most. -/
theorem Stacked.collapse (stacked : Stacked rank n s lo) (ranked : Ranked rank lt n) {fuel : Nat}
    (enough : s.runs.size ≤ fuel + 1) (done : s.collapse lt fuel = .ok t) :
    Stacked rank n t lo ∧ t.runs.size ≤ 1 := by
  induction fuel generalizing s with
  | zero =>
    obtain rfl := pure_eq_ok.mp done
    exact ⟨stacked, enough⟩
  | succ fuel more =>
    simp only [Sorting.collapse] at done
    split at done
    · rename_i many
      obtain ⟨u, merged, rest⟩ := bind_eq_ok.mp done
      -- the runs merged are the top two, or the two below the top
      obtain ⟨stacked', fewer, -⟩ := stacked.mergeAt ranked (by
        split
        · rename_i deeper
          simp only [Bool.and_eq_true, decide_eq_true_eq] at deeper
          omega
        · omega) merged
      exact more stacked' (by omega) rest
    · obtain rfl := pure_eq_ok.mp done
      exact ⟨stacked, by omega⟩

/-! ## The scan -/

/-- A stack of the cells before `lo`, then a run of `len` cells holding the stable sort of its
positions, then cells holding their own positions. -/
structure Pending (rank : Nat → β) (n : Nat) (s : Sorting) (lo len : Nat) : Prop where
  stacked : Stacked rank n s lo
  some : 0 < len
  fits : lo + len ≤ n
  sorted : segment s.cells lo len = stableSorted rank lo len
  own : ∀ p, lo + len ≤ p → p < n → cell s.cells p = p

/-- The run found where the cells hold their own positions, turned around when it descends, is
pending on the stack. -/
theorem Stacked.found (stacked : Stacked rank n s lo) (ranked : Ranked rank lt n)
    (own : ∀ p, lo ≤ p → p < n → cell s.cells p = p) {left len : Nat} {descending : Bool}
    (total : lo + left = n) (some : 0 < left)
    (counted : countRun lt s.cells lo (lo + left) = .ok (len, descending)) :
    Pending rank n (if descending then { s with cells := reverseCells s.cells lo (lo + len) } else s)
      lo len := by
  obtain ⟨one, short, steps⟩ := countRun_steps ranked stacked.below (by omega) counted
  have size := stacked.size
  have run := stableSorted_of_run (fun p low high => own p low (by omega)) steps
  cases descending with
  | false =>
    exact ⟨stacked, one, by omega, by simpa using run, fun p low high => own p (by omega) high⟩
  | true =>
    rw [if_pos rfl] at run ⊢
    have turned := cell_reverseCells (a := s.cells) (show lo ≤ lo + len by omega) (by omega)
    refine ⟨stacked.of_cells ((size_reverseCells (by omega) (by omega)).trans size)
      (stacked.below.reverseCells (by omega) (by omega))
      fun p early => ?_, one, by omega, ?_, fun p low high => ?_⟩
    · rw [turned, if_neg (by omega)]
    · rw [segment_reverseCells (by omega), run]
    · rw [turned, if_neg (by omega)]
      exact own p (by omega) high

/-- A short run lengthened by insertion to `force` cells stays pending on the stack. -/
theorem Pending.lengthen (pending : Pending rank n s lo len) (ranked : Ranked rank lt n)
    {force : Nat} {c : Array Nat} (longer : len ≤ force) (fits : lo + force ≤ n)
    (sorted : binarySort lt s.cells lo (lo + force) (lo + len) = .ok c) :
    Pending rank n { s with cells := c } lo force := by
  have size := pending.stacked.size
  obtain ⟨grown, below, outside, merged⟩ := binarySort_sorted ranked pending.stacked.below
    (by omega) (by omega) (by omega) (by rw [Nat.add_sub_cancel_left]; exact pending.sorted)
    (fun p low high => pending.own p low (by omega)) sorted
  refine ⟨pending.stacked.of_cells (by omega) below fun p early => outside p (.inl early),
    by have := pending.some; omega, fits, by simpa using merged, fun p low high => ?_⟩
  rw [show cell ({ s with cells := c } : Sorting).cells p = cell c p from rfl,
    outside p (.inr low)]
  exact pending.own p (by omega) high

/-- Making room for the pending run keeps it pending. -/
theorem Pending.foundRun (pending : Pending rank n s lo len) (ranked : Ranked rank lt n)
    (found : s.foundRun lt n len = .ok t) : Pending rank n t lo len := by
  obtain ⟨stacked, kept⟩ := pending.stacked.foundRun ranked found
  refine ⟨stacked, pending.some, pending.fits, ?_, fun p low high => ?_⟩
  · rw [← pending.sorted]
    exact segment_congr fun p low _ => kept p low
  · rw [kept p (by omega)]
    exact pending.own p low high

/-- The scan, from a stack of the cells before `lo` where the cells after it hold their own
positions, with fuel for each of the `left` cells after `lo`, ends with a stack of all the
cells. -/
theorem Stacked.scan (ranked : Ranked rank lt n) {minrun fuel : Nat} :
    ∀ {s : Sorting} {lo left : Nat}, Stacked rank n s lo →
      (∀ p, lo ≤ p → p < n → cell s.cells p = p) → lo + left = n → left ≤ fuel →
        s.scan lt n minrun fuel lo left = .ok t → Stacked rank n t n := by
  induction fuel with
  | zero =>
    intro s lo left stacked _ total enough scanned
    obtain rfl := pure_eq_ok.mp scanned
    rwa [show lo = n by omega] at stacked
  | succ fuel more =>
    intro s lo left stacked own total enough scanned
    simp only [Sorting.scan] at scanned
    split at scanned
    · rename_i none
      obtain rfl := pure_eq_ok.mp scanned
      simp only [beq_iff_eq] at none
      rwa [show lo = n by omega] at stacked
    rename_i some
    simp only [beq_iff_eq] at some
    obtain ⟨⟨len, descending⟩, counted, rest⟩ := bind_eq_ok.mp scanned
    have found := stacked.found ranked own total (by omega) counted
    generalize (if descending then { s with cells := reverseCells s.cells lo (lo + len) } else s)
      = s1 at found rest
    -- the run is made room for, pushed, and the scan goes on after it
    have tail : ∀ (s2 : Sorting) (len2 : Nat), Pending rank n s2 lo len2 → len2 ≤ left →
        (s2.foundRun lt n len2 >>= fun s => Sorting.scan lt n minrun fuel
          { s with runs := s.runs.push ⟨lo, len2, 0⟩ } (lo + len2) (left - len2)) = .ok t →
        Stacked rank n t n := by
      intro s2 len2 pending short ran
      obtain ⟨s3, made, rest⟩ := bind_eq_ok.mp ran
      have pending' := pending.foundRun ranked made
      exact more (pending'.stacked.push pending'.some pending'.fits pending'.sorted)
        (fun p low high => pending'.own p low high) (by omega) (by have := pending.some; omega)
        rest
    -- a short run is lengthened to the least run length, or to the end
    have := found.fits
    simp only [pure_bind] at rest
    split at rest
    · rename_i short
      obtain ⟨c, sorted, rest⟩ := bind_eq_ok.mp rest
      exact tail _ _ (found.lengthen ranked (by omega) (by omega) sorted) (by omega) rest
    · exact tail _ _ found (by omega) rest

/-! ## The whole sort -/

/-- The sort of the positions of a list, by a comparison that ranks them, is their stable
sort. -/
theorem sortCells_sorted (ranked : Ranked rank lt n) {c : Array Nat}
    (sorted : sortCells lt (Array.range n) = .ok c) : c.toList = stableSorted rank 0 n := by
  unfold sortCells at sorted
  simp only [Array.size_range] at sorted
  split at sorted
  · -- a list of fewer than two is its own stable sort
    rename_i few
    obtain rfl := pure_eq_ok.mp sorted
    rw [Array.toList_range, List.range_eq_range']
    exact eq_stableSorted (List.Perm.refl _) (pairwise_range' fun i j _ earlier last => by omega)
  · rename_i many
    obtain ⟨s, scanned, rest⟩ := bind_eq_ok.mp sorted
    obtain ⟨t, collapsed, rest⟩ := bind_eq_ok.mp rest
    obtain rfl := pure_eq_ok.mp rest
    have start : Stacked rank n ⟨Array.range n, #[], gallopStart⟩ 0 :=
      ⟨Array.size_range, fun i => ?_, Nat.zero_le _, fun none => by simp at none,
        fun j short => by simp at short, fun none => by simp at none, fun _ => rfl,
        fun j short => by simp at short, fun j short => by simp at short⟩
    · obtain ⟨stacked, one⟩ := (Stacked.scan ranked start (fun p _ high => cell_range high)
        (Nat.zero_add n) (le_refl n) scanned).collapse ranked (Nat.le_succ _) collapsed
      -- one run is left, and it covers every position
      have single : t.runs.size = 1 := by
        have := stacked.empty
        omega
      have first := stacked.start (by omega)
      have top := stacked.top (by omega)
      have whole := stacked.sorted 0 (by omega)
      rw [single, Nat.sub_self, first, Nat.zero_add] at top
      rw [first, top] at whole
      rw [toList_eq_segment, stacked.size, whole]
    · by_cases inside : i < n
      · rw [cell_range inside]
        exact inside
      · simp [cell_eq, inside]
        omega

end Bookmarks.Order
