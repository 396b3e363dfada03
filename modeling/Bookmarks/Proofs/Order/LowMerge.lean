import Bookmarks.Proofs.Order.Stable
/-!
A merge from the low end gives the stable merge of its two runs.

The left run is copied aside and the cells are filled from the low end, with the right run
read in place ahead of the writing. `Progress` holds between steps: the cells written, then
the stable merge of what is left of both runs, make the stable merge of the whole runs; the
cells not yet read, and those outside the runs, are untouched. Each way of moving cells keeps
it (`Progress.takeA`, `takeB`, `copyA`, `copyB`), each way of ending gives the whole merge
(`finish_done`, `lastA_done`), and every round places a cell, so the fuel never runs out
(`steps_done`). The caller's part (`Setting`): both runs are sorted, and the left run's last
cell is ranked above the whole right run, so the left run never runs out first.
-/
namespace Bookmarks.Order

variable {ε β : Type} [LinearOrder β] {rank : Nat → β} {n : Nat}

namespace LowMerge

/-- What a merge from the low end of cells `c0` starts from: the two runs lie within the cells,
every cell holds a position below `n`, each run is sorted by rank, and the left run's last cell
is ranked above every cell of the right run. -/
structure Setting (rank : Nat → β) (n : Nat) (m : LowMerge) (c0 : Array Nat) : Prop where
  fits : m.base + m.lenA + m.lenB ≤ c0.size
  below : CellsBelow n c0
  asideBelow : CellsBelow n m.aside
  leftSorted : (segment m.aside 0 m.lenA).Pairwise (fun x y => rank x ≤ rank y)
  rightSorted : (segment c0 (m.base + m.lenA) m.lenB).Pairwise (fun x y => rank x ≤ rank y)
  lastAbove : ∀ y ∈ segment c0 (m.base + m.lenA) m.lenB,
    rank y < rank (cell m.aside (m.lenA - 1))

/-- A merge from the low end of cells `c0`, part done: the cells written so far followed by the
merge of what is left of both runs make the merge of the whole runs; the right run's cells not
yet read are as they were, and so is every cell outside the runs. -/
structure Progress (rank : Nat → β) (n : Nat) (m : LowMerge) (c0 : Array Nat) (s : Merging) :
    Prop where
  size : s.cells.size = c0.size
  leftLeft : s.na ≤ m.lenA
  rightLeft : s.nb ≤ m.lenB
  below : CellsBelow n s.cells
  outside : ∀ i, (i < m.base ∨ m.base + m.lenA + m.lenB ≤ i) → cell s.cells i = cell c0 i
  unread : ∀ i, m.nextB s ≤ i → i < m.base + m.lenA + m.lenB → cell s.cells i = cell c0 i
  merged : segment s.cells m.base (m.lenA - s.na + (m.lenB - s.nb)) ++
      (segment m.aside (m.nextA s) s.na).merge (segment c0 (m.nextB s) s.nb) (notAbove rank) =
    (segment m.aside 0 m.lenA).merge (segment c0 (m.base + m.lenA) m.lenB) (notAbove rank)

/-- A merge from the low end that has ended: the runs' cells hold the merge of the two runs,
and every other cell is as it was. -/
structure Done (rank : Nat → β) (m : LowMerge) (c0 cells : Array Nat) : Prop where
  size : cells.size = c0.size
  outside : ∀ i, (i < m.base ∨ m.base + m.lenA + m.lenB ≤ i) → cell cells i = cell c0 i
  merged : segment cells m.base (m.lenA + m.lenB) =
    (segment m.aside 0 m.lenA).merge (segment c0 (m.base + m.lenA) m.lenB) (notAbove rank)

variable {m : LowMerge} {c0 : Array Nat} {s : Merging}

/-! ## Moving cells -/

/-- Moving a block from what is left of the runs to the cells written keeps the merge. -/
theorem merged_move {done blk restA restB restA' restB' target : List Nat}
    (merged : done ++ restA.merge restB (notAbove rank) = target)
    (moved : restA.merge restB (notAbove rank) = blk ++ restA'.merge restB' (notAbove rank)) :
    (done ++ blk) ++ restA'.merge restB' (notAbove rank) = target := by
  rw [List.append_assoc, ← moved, merged]

/-- What is left of the left run: its next cell, then the others. -/
theorem restA_cons (someA : 0 < s.na) :
    segment m.aside (m.nextA s) s.na =
      cell m.aside (m.nextA s) :: segment m.aside (m.nextA s + 1) (s.na - 1) := by
  rw [← segment_cons]
  congr 1
  omega

/-- What is left of the right run: its next cell, then the others. -/
theorem restB_cons (someB : 0 < s.nb) :
    segment c0 (m.nextB s) s.nb = cell c0 (m.nextB s) :: segment c0 (m.nextB s + 1) (s.nb - 1) := by
  rw [← segment_cons]
  congr 1
  omega

theorem dest_eq : m.dest s = m.base + (m.lenA - s.na + (m.lenB - s.nb)) := by
  unfold LowMerge.dest
  omega

@[simp] theorem takeB_cells :
    (m.takeB s).cells = s.cells.setIfInBounds (m.dest s) (cell s.cells (m.nextB s)) := rfl

@[simp] theorem takeB_na : (m.takeB s).na = s.na := rfl

@[simp] theorem takeB_nb : (m.takeB s).nb = s.nb - 1 := rfl

@[simp] theorem takeA_cells :
    (m.takeA s).cells = s.cells.setIfInBounds (m.dest s) (cell m.aside (m.nextA s)) := rfl

@[simp] theorem takeA_na : (m.takeA s).na = s.na - 1 := rfl

@[simp] theorem takeA_nb : (m.takeA s).nb = s.nb := rfl

/-- The merge after copying the left run's next `k` cells. -/
def copiedA (m : LowMerge) (s : Merging) (k : Nat) : Merging :=
  { s with cells := blit s.cells m.aside (m.dest s) (m.nextA s) k, na := s.na - k }

/-- The merge after copying the right run's next `j` cells. -/
def copiedB (m : LowMerge) (s : Merging) (j : Nat) : Merging :=
  { s with cells := blit s.cells s.cells (m.dest s) (m.nextB s) j, nb := s.nb - j }

@[simp] theorem copiedA_cells {k : Nat} :
    (m.copiedA s k).cells = blit s.cells m.aside (m.dest s) (m.nextA s) k := rfl

@[simp] theorem copiedA_na {k : Nat} : (m.copiedA s k).na = s.na - k := rfl

@[simp] theorem copiedA_nb {k : Nat} : (m.copiedA s k).nb = s.nb := rfl

@[simp] theorem copiedB_cells {j : Nat} :
    (m.copiedB s j).cells = blit s.cells s.cells (m.dest s) (m.nextB s) j := rfl

@[simp] theorem copiedB_na {j : Nat} : (m.copiedB s j).na = s.na := rfl

@[simp] theorem copiedB_nb {j : Nat} : (m.copiedB s j).nb = s.nb - j := rfl

theorem nextA_of_na {t : Merging} (same : t.na = s.na) : m.nextA t = m.nextA s := by
  unfold LowMerge.nextA
  rw [same]

theorem nextB_of_nb {t : Merging} (same : t.nb = s.nb) : m.nextB t = m.nextB s := by
  unfold LowMerge.nextB
  rw [same]

theorem nextA_of_fewer {t : Merging} {k : Nat} (fewer : t.na = s.na - k) (short : k ≤ s.na)
    (inside : s.na ≤ m.lenA) : m.nextA t = m.nextA s + k := by
  unfold LowMerge.nextA
  omega

theorem nextB_of_fewer {t : Merging} {k : Nat} (fewer : t.nb = s.nb - k) (short : k ≤ s.nb)
    (inside : s.nb ≤ m.lenB) : m.nextB t = m.nextB s + k := by
  unfold LowMerge.nextB
  omega

variable (setting : Setting rank n m c0) (progress : Progress rank n m c0 s)
include setting progress

theorem Progress.nextB_cell (someB : 0 < s.nb) : cell s.cells (m.nextB s) = cell c0 (m.nextB s) :=
  progress.unread _ (Nat.le_refl _) (by
    have := progress.rightLeft
    have := setting.fits
    unfold LowMerge.nextB
    omega)

/-- The right run's next cell, ranked below the left run's next one, is taken. -/
theorem Progress.takeB (someA : 0 < s.na) (someB : 0 < s.nb)
    (lower : rank (cell s.cells (m.nextB s)) < rank (cell m.aside (m.nextA s))) :
    Progress rank n m c0 (m.takeB s) := by
  have fits := setting.fits
  have := progress.leftLeft
  have := progress.rightLeft
  have next := progress.nextB_cell setting someB
  -- the cell written lies before the right run's cells still to be read
  have ahead : m.dest s < m.nextB s := by unfold LowMerge.dest LowMerge.nextB; omega
  have inside : m.nextB s < c0.size := by unfold LowMerge.nextB; omega
  have moved := nextB_of_fewer (m := m) (takeB_nb (m := m) (s := s)) someB progress.rightLeft
  refine ⟨?_, progress.leftLeft, by simp only [takeB_nb]; omega, ?_, fun i away => ?_,
    fun i after high => ?_, ?_⟩
  · simp [progress.size]
  · exact progress.below.setIfInBounds (progress.below _) _
  · rw [takeB_cells, cell_setIfInBounds, if_neg (by unfold LowMerge.dest; omega)]
    exact progress.outside i away
  · rw [moved] at after
    rw [takeB_cells, cell_setIfInBounds, if_neg (by omega)]
    exact progress.unread i (by omega) high
  · rw [takeB_cells, takeB_na, takeB_nb, nextA_of_na takeB_na, moved,
      show m.lenA - s.na + (m.lenB - (s.nb - 1)) = m.lenA - s.na + (m.lenB - s.nb) + 1 by omega,
      segment_setIfInBounds_last dest_eq (by rw [progress.size]; omega), next]
    refine merged_move progress.merged ?_
    have restA := restA_cons (m := m) someA
    rw [restB_cons someB, restA, List.cons_merge_cons, if_neg (by simpa [next] using lower),
      ← restA, List.singleton_append]

/-- The left run's next cell is taken when it is not ranked above the right run's next one, or
when the right run is used up. -/
theorem Progress.takeA (someA : 0 < s.na)
    (notAbove' : 0 < s.nb → rank (cell m.aside (m.nextA s)) ≤ rank (cell s.cells (m.nextB s))) :
    Progress rank n m c0 (m.takeA s) := by
  have fits := setting.fits
  have := progress.leftLeft
  have := progress.rightLeft
  have ahead : m.dest s < m.nextB s := by unfold LowMerge.dest LowMerge.nextB; omega
  have moved := nextA_of_fewer (m := m) (takeA_na (m := m) (s := s)) someA progress.leftLeft
  have same := nextB_of_nb (m := m) (takeA_nb (m := m) (s := s))
  refine ⟨?_, by simp only [takeA_na]; omega, progress.rightLeft, ?_, fun i away => ?_,
    fun i after high => ?_, ?_⟩
  · simp [progress.size]
  · exact progress.below.setIfInBounds (setting.asideBelow _) _
  · rw [takeA_cells, cell_setIfInBounds, if_neg (by unfold LowMerge.dest; omega)]
    exact progress.outside i away
  · rw [same] at after
    rw [takeA_cells, cell_setIfInBounds, if_neg (by omega)]
    exact progress.unread i after high
  · rw [takeA_cells, takeA_na, takeA_nb, moved, same,
      show m.lenA - (s.na - 1) + (m.lenB - s.nb) = m.lenA - s.na + (m.lenB - s.nb) + 1 by omega,
      segment_setIfInBounds_last dest_eq (by rw [progress.size]; unfold LowMerge.nextB at ahead; omega)]
    refine merged_move progress.merged ?_
    rw [restA_cons someA, List.singleton_append]
    -- the left run's cell goes first, whether or not the right run has cells left
    rcases Nat.eq_zero_or_pos s.nb with none | someB
    · rw [none, segment_zero, List.merge_right, List.merge_right]
    · have next := progress.nextB_cell setting someB
      rw [restB_cons someB, List.cons_merge_cons,
        if_pos (notAbove_eq_true.mpr (next ▸ notAbove' someB))]

/-- A block of the left run's next cells, none ranked above the right run's next cell (when there
is one), is copied. -/
theorem Progress.copyA {k : Nat} (short : k ≤ s.na)
    (taken : 0 < s.nb → ∀ i < k, rank (cell m.aside (m.nextA s + i)) ≤
      rank (cell s.cells (m.nextB s))) :
    Progress rank n m c0 (m.copiedA s k) := by
  have fits := setting.fits
  have := progress.leftLeft
  have := progress.rightLeft
  have ahead : m.dest s + k ≤ m.nextB s := by unfold LowMerge.dest LowMerge.nextB; omega
  have moved : m.nextA (m.copiedA s k) = m.nextA s + k :=
    nextA_of_fewer copiedA_na short progress.leftLeft
  have same : m.nextB (m.copiedA s k) = m.nextB s := nextB_of_nb copiedA_nb
  refine ⟨?_, by simp only [copiedA_na]; omega, progress.rightLeft, ?_, fun i away => ?_,
    fun i after high => ?_, ?_⟩
  · simp [progress.size]
  · exact progress.below.blit setting.asideBelow _ _ _
  · rw [copiedA_cells, cell_blit, if_neg (by unfold LowMerge.dest at *; omega)]
    exact progress.outside i away
  · rw [same] at after
    rw [copiedA_cells, cell_blit, if_neg (by omega)]
    exact progress.unread i after high
  · rw [copiedA_cells, copiedA_na, copiedA_nb, moved, same,
      show m.lenA - (s.na - k) + (m.lenB - s.nb) = m.lenA - s.na + (m.lenB - s.nb) + k by omega,
      segment_add, ← dest_eq, segment_blit (by rw [progress.size]; unfold LowMerge.nextB at ahead; omega),
      segment_congr (b := s.cells) (fun i _ high => by
        rw [cell_blit, if_neg (by rw [dest_eq]; omega)])]
    refine merged_move progress.merged ?_
    rw [show s.na = k + (s.na - k) by omega, segment_add, show k + (s.na - k) - k = s.na - k by omega]
    rcases Nat.eq_zero_or_pos s.nb with none | someB
    · rw [none, segment_zero, List.merge_right, List.merge_right]
    · have next := progress.nextB_cell setting someB
      rw [restB_cons someB]
      refine merge_append_left fun x member => ?_
      obtain ⟨i, low, high, rfl⟩ := mem_segment.mp member
      have := taken someB (i - m.nextA s) (by omega)
      rwa [next, show m.nextA s + (i - m.nextA s) = i by omega] at this

/-- A block of the right run's next cells, each ranked below the left run's next cell, is
copied down to where the writing is. -/
theorem Progress.copyB {j : Nat} (someA : 0 < s.na) (short : j ≤ s.nb)
    (passed : ∀ i < j, rank (cell s.cells (m.nextB s + i)) < rank (cell m.aside (m.nextA s))) :
    Progress rank n m c0 (m.copiedB s j) := by
  have fits := setting.fits
  have := progress.leftLeft
  have := progress.rightLeft
  -- the block is read ahead of where it is written, and the left run keeps a cell between
  have ahead : m.dest s + j < m.nextB s + j := by unfold LowMerge.dest LowMerge.nextB; omega
  have inside : m.nextB s + j ≤ m.base + m.lenA + m.lenB := by unfold LowMerge.nextB; omega
  have same : m.nextA (m.copiedB s j) = m.nextA s := nextA_of_na copiedB_na
  have moved : m.nextB (m.copiedB s j) = m.nextB s + j :=
    nextB_of_fewer copiedB_nb short progress.rightLeft
  have read : segment s.cells (m.nextB s) j = segment c0 (m.nextB s) j :=
    segment_congr fun i low high => progress.unread i low (by omega)
  refine ⟨?_, progress.leftLeft, by simp only [copiedB_nb]; omega, ?_, fun i away => ?_,
    fun i after high => ?_, ?_⟩
  · simp [progress.size]
  · exact progress.below.blit progress.below _ _ _
  · rw [copiedB_cells, cell_blit, if_neg (by unfold LowMerge.dest at *; omega)]
    exact progress.outside i away
  · rw [moved] at after
    rw [copiedB_cells, cell_blit, if_neg (by omega)]
    exact progress.unread i (by omega) high
  · rw [copiedB_cells, copiedB_na, copiedB_nb, same, moved,
      show m.lenA - s.na + (m.lenB - (s.nb - j)) = m.lenA - s.na + (m.lenB - s.nb) + j by omega,
      segment_add, ← dest_eq, segment_blit (by rw [progress.size]; omega), read,
      segment_congr (b := s.cells) (fun i _ high => by
        rw [cell_blit, if_neg (by rw [dest_eq]; omega)])]
    refine merged_move progress.merged ?_
    rw [show s.nb = j + (s.nb - j) by omega, segment_add, show j + (s.nb - j) - j = s.nb - j by omega,
      restA_cons someA]
    refine merge_append_right fun y member => ?_
    obtain ⟨i, low, high, rfl⟩ := mem_segment.mp member
    have := passed (i - m.nextB s) (by omega)
    rwa [show m.nextB s + (i - m.nextB s) = i by omega,
      progress.unread i low (by omega)] at this

/-- A merge ends with what is left of the left run when the right run is used up, and with the
cells already in place when the left run is. -/
theorem Progress.finish_done (ended : s.na = 0 ∨ s.nb = 0) : Done rank m c0 (m.finish s).1 := by
  have fits := setting.fits
  have := progress.leftLeft
  have := progress.rightLeft
  have untouched : ∀ i, (i < m.dest s ∨ m.dest s + s.na ≤ i) →
      cell (m.finish s).1 i = cell s.cells i := by
    intro i away
    simp only [LowMerge.finish, cell_blit]
    rw [if_neg (by omega)]
  refine ⟨by simp [LowMerge.finish, progress.size], fun i away => ?_, ?_⟩
  · rw [untouched i (by unfold LowMerge.dest; omega)]
    exact progress.outside i away
  · have merged := progress.merged
    rcases ended with noA | noB
    · -- nothing is copied: the right run's cells left are already where they belong
      rw [noA, segment_zero, List.nil_merge] at merged
      have same : segment (m.finish s).1 m.base (m.lenA + m.lenB) =
          segment s.cells m.base (m.lenA + m.lenB) :=
        segment_congr fun i _ _ => untouched i (by rw [noA]; omega)
      have rest : segment s.cells (m.base + (m.lenA - 0 + (m.lenB - s.nb))) s.nb =
          segment c0 (m.nextB s) s.nb := by
        rw [show m.base + (m.lenA - 0 + (m.lenB - s.nb)) = m.nextB s by
          unfold LowMerge.nextB; omega]
        exact segment_congr fun i low high => progress.unread i low (by
          unfold LowMerge.nextB at high; omega)
      rw [same, show m.lenA + m.lenB = m.lenA - 0 + (m.lenB - s.nb) + s.nb by omega,
        segment_add, rest, merged]
    · -- what is left of the left run is copied after the cells written
      rw [noB, segment_zero, List.merge_right] at merged
      have place : m.base + (m.lenA - s.na + (m.lenB - 0)) = m.dest s := by rw [dest_eq, noB]
      have done : segment (m.finish s).1 m.base (m.lenA - s.na + (m.lenB - 0)) =
          segment s.cells m.base (m.lenA - s.na + (m.lenB - 0)) :=
        segment_congr fun i _ high => untouched i (by omega)
      have copied : segment (m.finish s).1 (m.dest s) s.na = segment m.aside (m.nextA s) s.na :=
        segment_blit (by rw [progress.size, dest_eq]; omega)
      rw [show m.lenA + m.lenB = m.lenA - s.na + (m.lenB - 0) + s.na by omega, segment_add, done,
        place, copied, merged]

/-- A merge whose left run has one cell left ends with the right run's cells left, then that
cell, which is ranked above all of them. -/
theorem Progress.lastA_done (one : s.na = 1) : Done rank m c0 (m.lastA s).1 := by
  have fits := setting.fits
  have := progress.leftLeft
  have := progress.rightLeft
  have last : m.nextA s = m.lenA - 1 := by unfold LowMerge.nextA; omega
  have top : m.dest s + s.nb = m.base + m.lenA + m.lenB - 1 := by
    unfold LowMerge.dest; omega
  have ahead : m.dest s + 1 = m.nextB s := by unfold LowMerge.dest LowMerge.nextB; omega
  -- the cells of the result: those written, the right run's left moved down one, the last cell
  have written : ∀ i, cell (m.lastA s).1 i =
      if i = m.dest s + s.nb then cell m.aside (m.nextA s)
      else if m.dest s ≤ i ∧ i < m.dest s + s.nb then cell c0 (i + 1) else cell s.cells i := by
    intro i
    simp only [LowMerge.lastA, cell_setIfInBounds, cell_blit, size_blit]
    by_cases atTop : i = m.dest s + s.nb
    · rw [if_pos ⟨atTop.symm, by rw [progress.size]; omega⟩, if_pos atTop]
    · rw [if_neg (by omega), if_neg atTop]
      by_cases moved : m.dest s ≤ i ∧ i < m.dest s + s.nb
      · rw [if_pos ⟨moved.1, moved.2, by rw [progress.size]; omega⟩, if_pos moved,
          progress.unread _ (by omega) (by omega)]
        congr 1
        omega
      · rw [if_neg (by omega), if_neg moved]
  refine ⟨by simp [LowMerge.lastA, progress.size], fun i away => ?_, ?_⟩
  · rw [written, if_neg (by omega), if_neg (by unfold LowMerge.dest at *; omega)]
    exact progress.outside i away
  · -- the left run's last cell goes after the right run's cells left
    have restA : segment m.aside (m.nextA s) s.na = [cell m.aside (m.nextA s)] := by
      rw [restA_cons (by omega), show s.na - 1 = 0 by omega, segment_zero]
    have after : [cell m.aside (m.nextA s)].merge (segment c0 (m.nextB s) s.nb) (notAbove rank) =
        segment c0 (m.nextB s) s.nb ++ [cell m.aside (m.nextA s)] := by
      have moved := @merge_append_right _ _ rank (segment c0 (m.nextB s) s.nb) [] []
        (cell m.aside (m.nextA s)) fun y member => by
          obtain ⟨i, low, high, rfl⟩ := mem_segment.mp member
          rw [last]
          exact setting.lastAbove _ (mem_segment.mpr ⟨i, by unfold LowMerge.nextB at low; omega,
            by unfold LowMerge.nextB at high; omega, rfl⟩)
      simpa using moved
    have merged := progress.merged
    rw [restA, after] at merged
    have done : segment (m.lastA s).1 m.base (m.lenA - s.na + (m.lenB - s.nb)) =
        segment s.cells m.base (m.lenA - s.na + (m.lenB - s.nb)) :=
      segment_congr fun i _ high => by
        rw [written, if_neg (by rw [dest_eq]; omega), if_neg (by rw [dest_eq]; omega)]
    have rest : segment (m.lastA s).1 (m.base + (m.lenA - s.na + (m.lenB - s.nb))) s.nb =
        segment c0 (m.nextB s) s.nb := by
      rw [← dest_eq, ← ahead]
      refine List.ext_getElem (by simp) fun i first _ => ?_
      simp only [getElem_segment]
      simp only [length_segment] at first
      rw [written, if_neg (by omega), if_pos ⟨by omega, by omega⟩]
      congr 1
      omega
    have final : cell (m.lastA s).1 (m.base + (m.lenA - s.na + (m.lenB - s.nb) + s.nb)) =
        cell m.aside (m.nextA s) := by
      rw [written, if_pos (by rw [dest_eq]; omega)]
    rw [show m.lenA + m.lenB = m.lenA - s.na + (m.lenB - s.nb) + s.nb + 1 by omega, segment_succ,
      segment_add, done, rest, final, ← merged, List.append_assoc]

omit setting in
/-- Changing the gallop counts leaves a merge where it is. -/
theorem Progress.withGallop (g k : Nat) : Progress rank n m c0 { s with gallop := g, kept := k } :=
  ⟨progress.size, progress.leftLeft, progress.rightLeft, progress.below, progress.outside,
    progress.unread, progress.merged⟩

theorem Progress.restA_sorted :
    (segment m.aside (m.nextA s) s.na).Pairwise (fun x y => rank x ≤ rank y) :=
  pairwise_segment_inner setting.leftSorted (Nat.zero_le _) (by
    have := progress.leftLeft
    unfold LowMerge.nextA
    omega)

theorem Progress.restB_sorted :
    (segment s.cells (m.nextB s) s.nb).Pairwise (fun x y => rank x ≤ rank y) := by
  have := progress.rightLeft
  rw [segment_congr (b := c0) fun i low high => progress.unread i low (by
    unfold LowMerge.nextB at high; omega)]
  exact pairwise_segment_inner setting.rightSorted (by unfold LowMerge.nextB; omega) (by
    unfold LowMerge.nextB; omega)

section Rounds

variable {lt : Less ε} (ranked : Ranked rank lt n)
include ranked

/-- Galloping through the left run for the right run's next cell finds how many of the left
run's cells go before it. -/
theorem Progress.gallopA_splits {k : Nat} (someA : 0 < s.na)
    (found : gallopRight lt (cell s.cells (m.nextB s)) (fun i => cell m.aside (m.nextA s + i))
      s.na 0 = .ok k) :
    Splits (fun i => notAbove rank (cell m.aside (m.nextA s + i)) (cell s.cells (m.nextB s)))
      0 s.na k :=
  gallopRight_splits (fun _ _ => ranked.eq_not_notAbove (progress.below _) (setting.asideBelow _))
    (fun _ _ _ le inside held => notAbove_eq_true.mpr
      (le_trans (rank_cell_le (progress.restA_sorted setting) le inside) (notAbove_eq_true.mp held)))
    someA found

/-- Galloping through the right run for the left run's next cell finds how many of the right
run's cells go before it. -/
theorem Progress.gallopB_splits {j : Nat} (someB : 0 < s.nb)
    (found : gallopLeft lt (cell m.aside (m.nextA s)) (fun i => cell s.cells (m.nextB s + i))
      s.nb 0 = .ok j) :
    Splits (fun i => decide (rank (cell s.cells (m.nextB s + i)) < rank (cell m.aside (m.nextA s))))
      0 s.nb j :=
  gallopLeft_splits (fun _ _ => ranked _ _ (progress.below _) (setting.asideBelow _))
    (fun _ _ _ le inside held => by
      simp only [decide_eq_true_eq] at held ⊢
      exact lt_of_le_of_lt (rank_cell_le (progress.restB_sorted setting) le inside) held)
    someB found

/-- A round that takes one cell ends the merge, or leaves a merge with fewer cells to place,
which the rounds after it finish. -/
theorem Progress.single_round {fuel wins losses : Nat} {r : Array Nat × Nat}
    (manyA : 2 ≤ s.na) (someB : 1 ≤ s.nb)
    (next : ∀ t : Merging, Progress rank n m c0 t → 2 ≤ t.na → 1 ≤ t.nb →
      t.na + t.nb < s.na + s.nb → ∀ galloping wins losses r,
        m.steps lt fuel t galloping wins losses = .ok r → Done rank m c0 r.1)
    (ran : m.steps lt (fuel + 1) s false wins losses = .ok r) : Done rank m c0 r.1 := by
  simp only [LowMerge.steps] at ran
  obtain ⟨b, compared, rest⟩ := bind_eq_ok.mp ran
  rw [ranked _ _ (progress.below _) (setting.asideBelow _), Except.ok.injEq] at compared
  subst compared
  by_cases lower : rank (cell s.cells (m.nextB s)) < rank (cell m.aside (m.nextA s))
  · -- the right run's cell goes first
    have taken := progress.takeB setting (by omega) (by omega) lower
    simp only [lower, decide_true, if_true] at rest
    split at rest
    · rename_i used
      obtain rfl := pure_eq_ok.mp rest
      exact taken.finish_done setting (.inr (by simpa using used))
    · rename_i left
      simp only [takeB_nb, beq_iff_eq] at left
      split at rest
      · exact next _ (taken.withGallop _ _) (by simp; omega) (by simp; omega)
          (by simp; omega) _ _ _ _ rest
      · exact next _ taken (by simp; omega) (by simp; omega) (by simp; omega) _ _ _ _ rest
  · -- the left run's cell goes first
    have taken := progress.takeA setting (by omega) fun _ => le_of_not_gt lower
    simp only [lower, decide_false, Bool.false_eq_true, if_false] at rest
    split at rest
    · rename_i one
      obtain rfl := pure_eq_ok.mp rest
      exact taken.lastA_done setting (by simpa using one)
    · rename_i more
      simp only [takeA_na, beq_iff_eq] at more
      split at rest
      · exact next _ (taken.withGallop _ _) (by simp; omega) (by simp; omega)
          (by simp; omega) _ _ _ _ rest
      · exact next _ taken (by simp; omega) (by simp; omega) (by simp; omega) _ _ _ _ rest

/-- The first half of a galloping round: the left run's cells up to the right run's next cell
are copied as one block, and when some of the left run is left, the right run's next cell
follows them. -/
theorem Progress.gallopA_round {k : Nat} (someA : 0 < s.na) (someB : 0 < s.nb)
    (found : gallopRight lt (cell s.cells (m.nextB s)) (fun i => cell m.aside (m.nextA s + i))
      s.na 0 = .ok k) :
    k ≤ s.na ∧ Progress rank n m c0 (m.copiedA s k) ∧
      (k < s.na → Progress rank n m c0 (m.takeB (m.copiedA s k))) := by
  have split := progress.gallopA_splits setting ranked someA found
  have copied := progress.copyA setting split.high fun _ i short =>
    notAbove_eq_true.mp (split.holds i (Nat.zero_le _) short)
  refine ⟨split.high, copied, fun left => copied.takeB setting (by simp; omega) (by simpa) ?_⟩
  have stops := notAbove_eq_false.mp (split.fails k (Nat.le_refl _) left)
  rwa [copied.nextB_cell setting (by simpa), nextB_of_nb copiedA_nb,
    ← progress.nextB_cell setting someB, nextA_of_fewer copiedA_na split.high progress.leftLeft]

/-- The second half of a galloping round: the right run's cells below the left run's next cell
are moved as one block, and when some of the right run is left, the left run's next cell
follows them. -/
theorem Progress.gallopB_round {j : Nat} (someA : 0 < s.na) (someB : 0 < s.nb)
    (found : gallopLeft lt (cell m.aside (m.nextA s)) (fun i => cell s.cells (m.nextB s + i))
      s.nb 0 = .ok j) :
    j ≤ s.nb ∧ Progress rank n m c0 (m.copiedB s j) ∧
      (j < s.nb → Progress rank n m c0 (m.takeA (m.copiedB s j))) := by
  have split := progress.gallopB_splits setting ranked someB found
  have copied := progress.copyB setting someA split.high fun i short =>
    of_decide_eq_true (split.holds i (Nat.zero_le _) short)
  refine ⟨split.high, copied, fun left => copied.takeA setting (by simpa) fun _ => ?_⟩
  have stops := of_decide_eq_false (split.fails j (Nat.le_refl _) left)
  have further := nextB_of_fewer (t := m.copiedB s j) copiedB_nb split.high progress.rightLeft
  have := progress.rightLeft
  rw [copied.nextB_cell setting (by simp; omega), further, nextA_of_na (t := m.copiedB s j) copiedB_na]
  rw [progress.unread _ (Nat.le_add_right _ _) (by unfold LowMerge.nextB; omega)] at stops
  exact le_of_not_gt stops

/-- A galloping round copies a block of the left run, takes the right run's next cell, moves a
block of the right run and takes the left run's next cell; it ends the merge, or leaves a merge
with fewer cells to place, which the rounds after it finish. -/
theorem Progress.gallop_round {fuel wins losses : Nat} {r : Array Nat × Nat}
    (manyA : 2 ≤ s.na) (someB : 1 ≤ s.nb)
    (next : ∀ t : Merging, Progress rank n m c0 t → 2 ≤ t.na → 1 ≤ t.nb →
      t.na + t.nb < s.na + s.nb → ∀ galloping wins losses r,
        m.steps lt fuel t galloping wins losses = .ok r → Done rank m c0 r.1)
    (ran : m.steps lt (fuel + 1) s true wins losses = .ok r) : Done rank m c0 r.1 := by
  simp only [LowMerge.steps] at ran
  generalize (if s.gallop > 1 then s.gallop - 1 else s.gallop) = g at ran
  obtain ⟨k, galloped, ran⟩ := bind_eq_ok.mp ran
  obtain ⟨short, copied, taken⟩ :=
    (progress.withGallop g g).gallopA_round setting ranked (by simp; omega) (by simp; omega)
      galloped
  simp only at short
  -- the round may end after the block of the left run
  split at ran
  · rename_i one
    obtain rfl := pure_eq_ok.mp ran
    exact copied.lastA_done setting (by simp at one ⊢; omega)
  split at ran
  · rename_i none
    obtain rfl := pure_eq_ok.mp ran
    exact copied.finish_done setting (.inl (by simp at none ⊢; omega))
  rename_i notOne notNone
  simp only [Bool.and_eq_true, decide_eq_true_eq, beq_iff_eq, not_and] at notOne notNone
  have manyLeft : 2 ≤ s.na - k := by omega
  have taken := taken (by simp; omega)
  -- or after the right run's next cell
  split at ran
  · rename_i used
    obtain rfl := pure_eq_ok.mp ran
    exact taken.finish_done setting (.inr (by simpa using used))
  rename_i someLeft
  simp only [takeB_nb, beq_iff_eq] at someLeft
  obtain ⟨j, moved, ran⟩ := bind_eq_ok.mp ran
  obtain ⟨shortB, copiedB, takenA⟩ :=
    taken.gallopB_round setting ranked (by simp; omega) (by simp; omega) moved
  simp only [takeB_nb, copiedA_nb] at shortB
  -- or after the block of the right run
  split at ran
  · rename_i none
    obtain rfl := pure_eq_ok.mp ran
    exact copiedB.finish_done setting (.inr (by simp at none ⊢; omega))
  rename_i notNone
  simp only [Bool.and_eq_true, decide_eq_true_eq, beq_iff_eq, not_and, takeB_nb] at notNone
  have takenA := takenA (by simp; omega)
  -- or after the left run's next cell
  split at ran
  · rename_i one
    obtain rfl := pure_eq_ok.mp ran
    exact takenA.lastA_done setting (by simpa using one)
  rename_i notOne
  simp only [takeA_na, takeB_na, beq_iff_eq] at notOne
  split at ran
  · exact next _ takenA (by simp; omega) (by simp; omega) (by simp; omega) _ _ _ _ ran
  · exact next _ (takenA.withGallop _ _) (by simp; omega) (by simp; omega) (by simp; omega)
      _ _ _ _ ran

/-- From any point of the merge with at least two of the left run's cells and one of the right
run's left, and fuel for each, the rounds place every cell where the merge of the runs puts
it. -/
theorem Progress.steps_done {fuel wins losses : Nat} {galloping : Bool} {r : Array Nat × Nat}
    (manyA : 2 ≤ s.na) (someB : 1 ≤ s.nb) (enough : s.na + s.nb ≤ fuel)
    (ran : m.steps lt fuel s galloping wins losses = .ok r) : Done rank m c0 r.1 := by
  -- each round places at least one cell, so the fuel outlasts the cells
  induction fuel generalizing s galloping wins losses r with
  | zero => omega
  | succ fuel more =>
    have next : ∀ t : Merging, Progress rank n m c0 t → 2 ≤ t.na → 1 ≤ t.nb →
        t.na + t.nb < s.na + s.nb → ∀ galloping wins losses r,
          m.steps lt fuel t galloping wins losses = .ok r → Done rank m c0 r.1 :=
      fun _ progress manyA someB fewer _ _ _ _ ran =>
        more progress manyA someB (by omega) ran
    cases galloping with
    | false => exact progress.single_round setting ranked manyA someB next ran
    | true => exact progress.gallop_round setting ranked manyA someB next ran

end Rounds

end LowMerge

/-- Merging from the low end, where the right run's first cell goes before the left run's and
the left run's last cell after the whole right run, puts the two sorted runs' cells in their
stable merge and leaves every other cell as it was. -/
theorem mergeLow_merged {lt : Less ε} (ranked : Ranked rank lt n) {c0 : Array Nat}
    {gallop base na nb : Nat} {r : Array Nat × Nat} (fits : base + na + nb ≤ c0.size)
    (below : CellsBelow n c0) (someA : 0 < na) (someB : 0 < nb)
    (leftSorted : (segment c0 base na).Pairwise (fun x y => rank x ≤ rank y))
    (rightSorted : (segment c0 (base + na) nb).Pairwise (fun x y => rank x ≤ rank y))
    (first : rank (cell c0 (base + na)) < rank (cell c0 base))
    (last : ∀ y ∈ segment c0 (base + na) nb, rank y < rank (cell c0 (base + na - 1)))
    (ran : mergeLow lt c0 gallop base na nb = .ok r) : MergedRuns rank c0 r.1 base na nb := by
  set m : LowMerge := ⟨base, na, nb, c0.extract base (base + na)⟩ with hm
  have positive : 0 < n := Nat.lt_of_le_of_lt (Nat.zero_le _) (below 0)
  have aside : segment m.aside 0 na = segment c0 base na := segment_extract (by omega) (by omega)
  have asideLast : cell m.aside (na - 1) = cell c0 (base + na - 1) := by
    rw [cell_extract (by omega) (by omega)]
    congr 1
    omega
  have setting : LowMerge.Setting rank n m c0 :=
    ⟨fits, below, below.extract positive _ _, aside ▸ leftSorted, rightSorted,
      fun y mem => asideLast ▸ last y mem⟩
  have start : LowMerge.Progress rank n m c0 ⟨c0, na, nb, gallop, gallop⟩ := by
    refine ⟨rfl, Nat.le_refl _, Nat.le_refl _, below, fun _ _ => rfl, fun _ _ _ => rfl, ?_⟩
    simp [LowMerge.nextA, LowMerge.nextB, m]
  have taken := start.takeB setting someA someB (by
    simp only [LowMerge.nextA, LowMerge.nextB, m]
    rw [Nat.sub_self, cell_extract (by omega) (by omega)]
    simpa using first)
  have done : LowMerge.Done rank m c0 r.1 := by
    simp only [mergeLow] at ran
    split at ran
    · rename_i used
      obtain rfl := pure_eq_ok.mp ran
      exact taken.finish_done setting (.inr (by simpa using used))
    split at ran
    · rename_i one
      obtain rfl := pure_eq_ok.mp ran
      exact taken.lastA_done setting (by simpa using one)
    rename_i more one
    simp only [LowMerge.takeB_nb, LowMerge.takeB_na, beq_iff_eq] at more one
    exact taken.steps_done setting ranked (by simp; omega) (by simp; omega) (by simp; omega) ran
  exact ⟨done.size, done.outside, aside ▸ done.merged⟩

end Bookmarks.Order
