import Bookmarks.Proofs.Order.LowMerge
/-!
A merge from the high end gives the stable merge of its two runs.

It mirrors the merge from the low end, lemma for lemma: the right run is copied aside, the
cells are filled from the high end with the left run read in place below the writing, and
the blocks come off the ends of the runs (`merge_append_left_tail`,
`merge_append_right_tail`). The right run's first cell is ranked below the whole left run,
which keeps the right run from running out first.
-/
namespace Bookmarks.Order

variable {ε β : Type} [LinearOrder β] {rank : Nat → β} {n : Nat}

namespace HighMerge

/-- What a merge from the high end starts from, as `LowMerge.Setting` mirrored: the right run,
copied aside, has its first cell ranked below the whole left run. -/
structure Setting (rank : Nat → β) (n : Nat) (m : HighMerge) (lenA lenB : Nat) (c0 : Array Nat) :
    Prop where
  fits : m.base + lenA + lenB ≤ c0.size
  below : CellsBelow n c0
  asideBelow : CellsBelow n m.aside
  leftSorted : (segment c0 m.base lenA).Pairwise (fun x y => rank x ≤ rank y)
  rightSorted : (segment m.aside 0 lenB).Pairwise (fun x y => rank x ≤ rank y)
  firstBelow : ∀ x ∈ segment c0 m.base lenA, rank (cell m.aside 0) < rank x

/-- A merge from the high end, part done: the merge of what is left of both runs, then the
cells written, make the merge of the whole runs. -/
structure Progress (rank : Nat → β) (n : Nat) (m : HighMerge) (lenA lenB : Nat) (c0 : Array Nat)
    (s : Merging) : Prop where
  size : s.cells.size = c0.size
  leftLeft : s.na ≤ lenA
  rightLeft : s.nb ≤ lenB
  below : CellsBelow n s.cells
  outside : ∀ i, (i < m.base ∨ m.base + lenA + lenB ≤ i) → cell s.cells i = cell c0 i
  unread : ∀ i, m.base ≤ i → i < m.base + s.na → cell s.cells i = cell c0 i
  merged : (segment c0 m.base s.na).merge (segment m.aside 0 s.nb) (notAbove rank) ++
      segment s.cells (m.base + s.na + s.nb) (lenA - s.na + (lenB - s.nb)) =
    (segment c0 m.base lenA).merge (segment m.aside 0 lenB) (notAbove rank)

/-- A merge from the high end that has ended. -/
structure Done (rank : Nat → β) (m : HighMerge) (lenA lenB : Nat) (c0 cells : Array Nat) :
    Prop where
  size : cells.size = c0.size
  outside : ∀ i, (i < m.base ∨ m.base + lenA + lenB ≤ i) → cell cells i = cell c0 i
  merged : segment cells m.base (lenA + lenB) =
    (segment c0 m.base lenA).merge (segment m.aside 0 lenB) (notAbove rank)

variable {m : HighMerge} {lenA lenB : Nat} {c0 : Array Nat} {s : Merging}

/-! ## Moving cells -/

theorem merged_move {restA restB restA' restB' blk written target : List Nat}
    (merged : restA.merge restB (notAbove rank) ++ written = target)
    (moved : restA.merge restB (notAbove rank) = restA'.merge restB' (notAbove rank) ++ blk) :
    restA'.merge restB' (notAbove rank) ++ (blk ++ written) = target := by
  rw [← List.append_assoc, ← moved, merged]

theorem restA_snoc (someA : 0 < s.na) :
    segment c0 m.base s.na = segment c0 m.base (s.na - 1) ++ [cell c0 (m.nextA s)] := by
  have last := segment_succ c0 m.base (s.na - 1)
  rwa [Nat.sub_add_cancel someA, show m.base + (s.na - 1) = m.nextA s by
    unfold HighMerge.nextA; omega] at last

theorem restB_snoc (someB : 0 < s.nb) :
    segment m.aside 0 s.nb = segment m.aside 0 (s.nb - 1) ++ [cell m.aside (m.nextB s)] := by
  have last := segment_succ m.aside 0 (s.nb - 1)
  rwa [Nat.sub_add_cancel someB, Nat.zero_add] at last

@[simp] theorem takeA_cells :
    (m.takeA s).cells = s.cells.setIfInBounds (m.dest s) (cell s.cells (m.nextA s)) := rfl

@[simp] theorem takeA_na : (m.takeA s).na = s.na - 1 := rfl

@[simp] theorem takeA_nb : (m.takeA s).nb = s.nb := rfl

@[simp] theorem takeB_cells :
    (m.takeB s).cells = s.cells.setIfInBounds (m.dest s) (cell m.aside (m.nextB s)) := rfl

@[simp] theorem takeB_na : (m.takeB s).na = s.na := rfl

@[simp] theorem takeB_nb : (m.takeB s).nb = s.nb - 1 := rfl

/-- The merge after moving the left run's last `k` cells left up to the writing. -/
def copiedA (m : HighMerge) (s : Merging) (k : Nat) : Merging :=
  { s with cells := blit s.cells s.cells (m.base + s.na - k + s.nb) (m.base + s.na - k) k,
           na := s.na - k }

/-- The merge after copying the right run's last `j` cells left. -/
def copiedB (m : HighMerge) (s : Merging) (j : Nat) : Merging :=
  { s with cells := blit s.cells m.aside (m.base + s.na + s.nb - j) (s.nb - j) j,
           nb := s.nb - j }

@[simp] theorem copiedA_cells {k : Nat} :
    (m.copiedA s k).cells = blit s.cells s.cells (m.base + s.na - k + s.nb) (m.base + s.na - k) k :=
  rfl

@[simp] theorem copiedA_na {k : Nat} : (m.copiedA s k).na = s.na - k := rfl

@[simp] theorem copiedA_nb {k : Nat} : (m.copiedA s k).nb = s.nb := rfl

@[simp] theorem copiedB_cells {j : Nat} :
    (m.copiedB s j).cells = blit s.cells m.aside (m.base + s.na + s.nb - j) (s.nb - j) j := rfl

@[simp] theorem copiedB_na {j : Nat} : (m.copiedB s j).na = s.na := rfl

@[simp] theorem copiedB_nb {j : Nat} : (m.copiedB s j).nb = s.nb - j := rfl

variable (setting : Setting rank n m lenA lenB c0) (progress : Progress rank n m lenA lenB c0 s)
include setting progress

omit setting in
theorem Progress.nextA_cell (someA : 0 < s.na) : cell s.cells (m.nextA s) = cell c0 (m.nextA s) :=
  progress.unread _ (by unfold HighMerge.nextA; omega) (by unfold HighMerge.nextA; omega)

omit setting in
theorem Progress.restA_eq : segment s.cells m.base s.na = segment c0 m.base s.na :=
  segment_congr fun i low high => progress.unread i low high

theorem Progress.restA_sorted :
    (segment c0 m.base s.na).Pairwise (fun x y => rank x ≤ rank y) :=
  pairwise_segment_inner setting.leftSorted (Nat.le_refl _) (by
    have := progress.leftLeft
    omega)

theorem Progress.restB_sorted :
    (segment m.aside 0 s.nb).Pairwise (fun x y => rank x ≤ rank y) :=
  pairwise_segment_inner setting.rightSorted (Nat.le_refl _) (by
    have := progress.rightLeft
    omega)

theorem Progress.le_nextA {x : Nat} (member : x ∈ segment c0 m.base s.na) :
    rank x ≤ rank (cell c0 (m.nextA s)) :=
  rank_le_last (progress.restA_sorted setting) member

theorem Progress.le_nextB {y : Nat} (member : y ∈ segment m.aside 0 s.nb) :
    rank y ≤ rank (cell m.aside (m.nextB s)) := by
  have := rank_le_last (progress.restB_sorted setting) member
  rwa [Nat.zero_add] at this

theorem Progress.takeA (someA : 0 < s.na)
    (lower : 0 < s.nb → rank (cell m.aside (m.nextB s)) < rank (cell s.cells (m.nextA s))) :
    Progress rank n m lenA lenB c0 (m.takeA s) := by
  have fits := setting.fits
  have := progress.leftLeft
  have := progress.rightLeft
  have next := progress.nextA_cell someA
  have place : m.dest s = m.base + (s.na - 1) + s.nb := by unfold HighMerge.dest; omega
  refine ⟨?_, by simp only [takeA_na]; omega, progress.rightLeft, ?_, fun i away => ?_,
    fun i low high => ?_, ?_⟩
  · simp [progress.size]
  · exact progress.below.setIfInBounds (progress.below _) _
  · rw [takeA_cells, cell_setIfInBounds, if_neg (by omega)]
    exact progress.outside i away
  · simp only [takeA_na] at high
    rw [takeA_cells, cell_setIfInBounds, if_neg (by omega)]
    exact progress.unread i low (by omega)
  · rw [takeA_cells, takeA_na, takeA_nb, ← place,
      show lenA - (s.na - 1) + (lenB - s.nb) = lenA - s.na + (lenB - s.nb) + 1 by omega,
      segment_setIfInBounds_first (by rw [progress.size]; omega), next,
      show m.dest s + 1 = m.base + s.na + s.nb by unfold HighMerge.dest; omega,
      ← List.singleton_append]
    refine merged_move progress.merged ?_
    -- the left run's cell ends the merge of what is left
    rw [restA_snoc someA]
    refine merge_append_left_tail fun y member x last => ?_
    rw [List.mem_singleton.mp last, ← next]
    have someB : 0 < s.nb := List.length_pos_of_mem member |>.trans_eq (length_segment _ _ _)
    exact lt_of_le_of_lt (progress.le_nextB setting member) (lower someB)

theorem Progress.takeB (someB : 0 < s.nb)
    (notBelow : 0 < s.na → rank (cell s.cells (m.nextA s)) ≤ rank (cell m.aside (m.nextB s))) :
    Progress rank n m lenA lenB c0 (m.takeB s) := by
  have fits := setting.fits
  have := progress.leftLeft
  have := progress.rightLeft
  have place : m.dest s = m.base + s.na + (s.nb - 1) := by unfold HighMerge.dest; omega
  refine ⟨?_, progress.leftLeft, by simp only [takeB_nb]; omega, ?_, fun i away => ?_,
    fun i low high => ?_, ?_⟩
  · simp [progress.size]
  · exact progress.below.setIfInBounds (setting.asideBelow _) _
  · rw [takeB_cells, cell_setIfInBounds, if_neg (by omega)]
    exact progress.outside i away
  · simp only [takeB_na] at high
    rw [takeB_cells, cell_setIfInBounds, if_neg (by omega)]
    exact progress.unread i low high
  · rw [takeB_cells, takeB_na, takeB_nb, ← place,
      show lenA - s.na + (lenB - (s.nb - 1)) = lenA - s.na + (lenB - s.nb) + 1 by omega,
      segment_setIfInBounds_first (by rw [progress.size]; omega),
      show m.dest s + 1 = m.base + s.na + s.nb by unfold HighMerge.dest; omega,
      ← List.singleton_append]
    refine merged_move progress.merged ?_
    -- the right run's cell ends the merge of what is left
    rw [restB_snoc someB]
    refine merge_append_right_tail fun x member y last => ?_
    rw [List.mem_singleton.mp last]
    have someA : 0 < s.na := List.length_pos_of_mem member |>.trans_eq (length_segment _ _ _)
    rw [progress.nextA_cell someA] at notBelow
    exact le_trans (progress.le_nextA setting member) (notBelow someA)

theorem Progress.copyA {k : Nat} (short : k ≤ s.na)
    (passed : 0 < s.nb → ∀ i, s.na - k ≤ i → i < s.na →
      rank (cell m.aside (m.nextB s)) < rank (cell s.cells (m.base + i))) :
    Progress rank n m lenA lenB c0 (m.copiedA s k) := by
  have fits := setting.fits
  have := progress.leftLeft
  have := progress.rightLeft
  have read : segment s.cells (m.base + s.na - k) k = segment c0 (m.base + s.na - k) k :=
    segment_congr fun i low high => progress.unread i (by omega) (by omega)
  have written : ∀ w, segment (blit s.cells s.cells (m.base + s.na - k + s.nb) (m.base + s.na - k) k)
      (m.base + s.na + s.nb) w = segment s.cells (m.base + s.na + s.nb) w := fun _ =>
    segment_congr fun i low _ => by rw [cell_blit, if_neg (by omega)]
  refine ⟨?_, by simp only [copiedA_na]; omega, progress.rightLeft, ?_, fun i away => ?_,
    fun i low high => ?_, ?_⟩
  · simp [progress.size]
  · exact progress.below.blit progress.below _ _ _
  · rw [copiedA_cells, cell_blit, if_neg (by omega)]
    exact progress.outside i away
  · simp only [copiedA_na] at high
    rw [copiedA_cells, cell_blit, if_neg (by omega)]
    exact progress.unread i low (by omega)
  · rw [copiedA_cells, copiedA_na, copiedA_nb,
      show lenA - (s.na - k) + (lenB - s.nb) = k + (lenA - s.na + (lenB - s.nb)) by omega,
      show m.base + (s.na - k) + s.nb = m.base + s.na - k + s.nb by omega, segment_add,
      segment_blit (by rw [progress.size]; omega), read,
      show m.base + s.na - k + s.nb + k = m.base + s.na + s.nb by omega, written]
    refine merged_move progress.merged ?_
    rw [show s.na = s.na - k + k by omega, segment_add, show s.na - k + k = s.na by omega,
      show m.base + (s.na - k) = m.base + s.na - k by omega]
    -- the block ends the merge of what is left
    refine merge_append_left_tail fun y member x inBlock => ?_
    obtain ⟨i, low, high, rfl⟩ := mem_segment.mp inBlock
    have someB : 0 < s.nb := List.length_pos_of_mem member |>.trans_eq (length_segment _ _ _)
    have above := passed someB (i - m.base) (by omega) (by omega)
    rw [show m.base + (i - m.base) = i by omega, progress.unread i (by omega) (by omega)] at above
    exact lt_of_le_of_lt (progress.le_nextB setting member) above

theorem Progress.copyB {j : Nat} (short : j ≤ s.nb)
    (kept : 0 < s.na → ∀ i, s.nb - j ≤ i → i < s.nb →
      rank (cell s.cells (m.nextA s)) ≤ rank (cell m.aside i)) :
    Progress rank n m lenA lenB c0 (m.copiedB s j) := by
  have fits := setting.fits
  have := progress.leftLeft
  have := progress.rightLeft
  have written : ∀ w, segment (blit s.cells m.aside (m.base + s.na + s.nb - j) (s.nb - j) j)
      (m.base + s.na + s.nb) w = segment s.cells (m.base + s.na + s.nb) w := fun _ =>
    segment_congr fun i low _ => by rw [cell_blit, if_neg (by omega)]
  refine ⟨?_, progress.leftLeft, by simp only [copiedB_nb]; omega, ?_, fun i away => ?_,
    fun i low high => ?_, ?_⟩
  · simp [progress.size]
  · exact progress.below.blit setting.asideBelow _ _ _
  · rw [copiedB_cells, cell_blit, if_neg (by omega)]
    exact progress.outside i away
  · simp only [copiedB_na] at high
    rw [copiedB_cells, cell_blit, if_neg (by omega)]
    exact progress.unread i low high
  · rw [copiedB_cells, copiedB_na, copiedB_nb,
      show lenA - s.na + (lenB - (s.nb - j)) = j + (lenA - s.na + (lenB - s.nb)) by omega,
      show m.base + s.na + (s.nb - j) = m.base + s.na + s.nb - j by omega, segment_add,
      segment_blit (by rw [progress.size]; omega),
      show m.base + s.na + s.nb - j + j = m.base + s.na + s.nb by omega, written]
    refine merged_move progress.merged ?_
    have block := segment_add m.aside 0 (s.nb - j) j
    rw [show s.nb - j + j = s.nb by omega, Nat.zero_add] at block
    rw [block]
    -- the block ends the merge of what is left
    refine merge_append_right_tail fun x member y inBlock => ?_
    obtain ⟨i, low, high, rfl⟩ := mem_segment.mp inBlock
    have someA : 0 < s.na := List.length_pos_of_mem member |>.trans_eq (length_segment _ _ _)
    have below := kept someA i low (by omega)
    rw [progress.nextA_cell someA] at below
    exact le_trans (progress.le_nextA setting member) below

theorem Progress.finish_done (ended : s.na = 0 ∨ s.nb = 0) :
    Done rank m lenA lenB c0 (m.finish s).1 := by
  have fits := setting.fits
  have := progress.leftLeft
  have := progress.rightLeft
  have untouched : ∀ i, (i < m.base + s.na ∨ m.base + s.na + s.nb ≤ i) →
      cell (m.finish s).1 i = cell s.cells i := by
    intro i away
    simp only [HighMerge.finish, cell_blit]
    rw [if_neg (by omega)]
  have written : segment (m.finish s).1 (m.base + s.na + s.nb) (lenA - s.na + (lenB - s.nb)) =
      segment s.cells (m.base + s.na + s.nb) (lenA - s.na + (lenB - s.nb)) :=
    segment_congr fun i low _ => untouched i (.inr low)
  refine ⟨by simp [HighMerge.finish, progress.size], fun i away => ?_, ?_⟩
  · rw [untouched i (by omega)]
    exact progress.outside i away
  · have merged := progress.merged
    rcases ended with noA | noB
    · -- what is left of the right run is copied below the cells written
      rw [noA, segment_zero, List.nil_merge, Nat.add_zero] at merged
      have copied : segment (m.finish s).1 m.base s.nb = segment m.aside 0 s.nb := by
        have := @segment_blit s.cells m.aside (m.base + s.na) 0 s.nb (by rw [progress.size]; omega)
        simp only [HighMerge.finish]
        rwa [noA, Nat.add_zero] at this ⊢
      rw [noA, Nat.add_zero] at written
      rw [show lenA + lenB = s.nb + (lenA - 0 + (lenB - s.nb)) by omega, segment_add, copied,
        written, merged]
    · -- nothing is copied: what is left of the left run is already where it belongs
      rw [noB, segment_zero, List.merge_right, Nat.add_zero] at merged
      have restA : segment (m.finish s).1 m.base s.na = segment c0 m.base s.na :=
        segment_congr fun i low high => by
          rw [untouched i (by omega)]
          exact progress.unread i low high
      rw [noB, Nat.add_zero] at written
      rw [show lenA + lenB = s.na + (lenA - s.na + (lenB - 0)) by omega, segment_add, restA,
        written, merged]

/-- The right run's last cell, ranked below all of the left run, goes first. -/
theorem Progress.lastB_done (one : s.nb = 1) : Done rank m lenA lenB c0 (m.lastB s).1 := by
  have fits := setting.fits
  have := progress.leftLeft
  have := progress.rightLeft
  -- the cells of the result: the right run's cell, the left run's left moved up one, the rest
  have written : ∀ i, cell (m.lastB s).1 i =
      if i = m.base then cell m.aside 0
      else if m.base + 1 ≤ i ∧ i < m.base + 1 + s.na then cell c0 (i - 1) else cell s.cells i := by
    intro i
    simp only [HighMerge.lastB, cell_setIfInBounds, cell_blit, size_blit]
    by_cases first : i = m.base
    · rw [if_pos ⟨first.symm, by rw [progress.size]; omega⟩, if_pos first]
    · rw [if_neg (by omega), if_neg first]
      by_cases moved : m.base + 1 ≤ i ∧ i < m.base + 1 + s.na
      · rw [if_pos ⟨moved.1, moved.2, by rw [progress.size]; omega⟩, if_pos moved,
          progress.unread _ (by omega) (by omega)]
        congr 1
        omega
      · rw [if_neg moved, if_neg (by omega)]
  refine ⟨by simp [HighMerge.lastB, progress.size], fun i away => ?_, ?_⟩
  · rw [written, if_neg (by omega), if_neg (by omega)]
    exact progress.outside i away
  · -- the right run's last cell goes before all the left run's cells left
    have restB : segment m.aside 0 s.nb = [cell m.aside 0] := by rw [one]; rfl
    have before : (segment c0 m.base s.na).merge [cell m.aside 0] (notAbove rank) =
        [cell m.aside 0] ++ segment c0 m.base s.na :=
      merge_of_lt fun y first x member => by
        rw [List.mem_singleton.mp first]
        exact setting.firstBelow x (mem_segment_of_le member progress.leftLeft)
    have merged := progress.merged
    rw [restB, before, one] at merged
    have first : cell (m.lastB s).1 m.base = cell m.aside 0 := by rw [written, if_pos rfl]
    have moved : segment (m.lastB s).1 (m.base + 1) s.na = segment c0 m.base s.na := by
      refine List.ext_getElem (by simp) fun i short _ => ?_
      simp only [getElem_segment]
      simp only [length_segment] at short
      rw [written, if_neg (by omega), if_pos ⟨by omega, by omega⟩]
      congr 1
      omega
    have rest : segment (m.lastB s).1 (m.base + 1 + s.na) (lenA - s.na + (lenB - 1)) =
        segment s.cells (m.base + s.na + 1) (lenA - s.na + (lenB - 1)) := by
      rw [show m.base + 1 + s.na = m.base + s.na + 1 by omega]
      exact segment_congr fun i low _ => by rw [written, if_neg (by omega), if_neg (by omega)]
    rw [show lenA + lenB = s.na + (lenA - s.na + (lenB - 1)) + 1 by omega, segment_cons,
      segment_add, first, moved, rest, ← merged]
    rfl

omit setting in
theorem Progress.withGallop (g k : Nat) :
    Progress rank n m lenA lenB c0 { s with gallop := g, kept := k } :=
  ⟨progress.size, progress.leftLeft, progress.rightLeft, progress.below, progress.outside,
    progress.unread, progress.merged⟩

section Rounds

variable {lt : Less ε} (ranked : Ranked rank lt n)
include ranked

theorem Progress.gallopA_splits {k : Nat} (someA : 0 < s.na)
    (found : gallopRight lt (cell m.aside (m.nextB s)) (fun i => cell s.cells (m.base + i))
      s.na (s.na - 1) = .ok k) :
    Splits (fun i => notAbove rank (cell s.cells (m.base + i)) (cell m.aside (m.nextB s)))
      0 s.na k := by
  have sorted := progress.restA_sorted setting
  rw [← progress.restA_eq] at sorted
  exact gallopRight_splits
    (fun _ _ => ranked.eq_not_notAbove (setting.asideBelow _) (progress.below _))
    (fun _ _ _ le inside held => notAbove_eq_true.mpr
      (le_trans (rank_cell_le sorted le inside) (notAbove_eq_true.mp held)))
    (by omega) found

theorem Progress.gallopB_splits {j : Nat} (someB : 0 < s.nb)
    (found : gallopLeft lt (cell s.cells (m.nextA s)) (fun i => cell m.aside i) s.nb (s.nb - 1) =
      .ok j) :
    Splits (fun i => decide (rank (cell m.aside i) < rank (cell s.cells (m.nextA s)))) 0 s.nb j :=
  gallopLeft_splits (fun _ _ => ranked _ _ (setting.asideBelow _) (progress.below _))
    (fun i j _ le inside held => by
      simp only [decide_eq_true_eq] at held ⊢
      have := rank_cell_le (progress.restB_sorted setting) le inside
      rw [Nat.zero_add, Nat.zero_add] at this
      exact lt_of_le_of_lt this held)
    (by omega) found

theorem Progress.gallopA_round {k : Nat} (someA : 0 < s.na) (someB : 0 < s.nb)
    (found : gallopRight lt (cell m.aside (m.nextB s)) (fun i => cell s.cells (m.base + i))
      s.na (s.na - 1) = .ok k) :
    k ≤ s.na ∧ Progress rank n m lenA lenB c0 (m.copiedA s (s.na - k)) ∧
      (0 < k → Progress rank n m lenA lenB c0 (m.takeB (m.copiedA s (s.na - k)))) := by
  have split := progress.gallopA_splits setting ranked someA found
  have := split.high
  have copied := progress.copyA setting (k := s.na - k) (Nat.sub_le _ _) fun _ i low high =>
    notAbove_eq_false.mp (split.fails i (by omega) high)
  refine ⟨split.high, copied, fun some => copied.takeB setting (by simpa) fun _ => ?_⟩
  have stays := notAbove_eq_true.mp (split.holds (k - 1) (Nat.zero_le _) (by omega))
  have last : m.nextA (m.copiedA s (s.na - k)) = m.base + (k - 1) := by
    simp only [HighMerge.nextA, copiedA_na]
    omega
  rw [last, copied.unread _ (by omega) (by simp; omega), ← progress.unread _ (by omega) (by omega)]
  exact stays

theorem Progress.gallopB_round {j : Nat} (someA : 0 < s.na) (someB : 0 < s.nb)
    (found : gallopLeft lt (cell s.cells (m.nextA s)) (fun i => cell m.aside i) s.nb (s.nb - 1) =
      .ok j) :
    j ≤ s.nb ∧ Progress rank n m lenA lenB c0 (m.copiedB s (s.nb - j)) ∧
      (0 < j → Progress rank n m lenA lenB c0 (m.takeA (m.copiedB s (s.nb - j)))) := by
  have split := progress.gallopB_splits setting ranked someB found
  have := split.high
  have copied := progress.copyB setting (j := s.nb - j) (Nat.sub_le _ _) fun _ i low high =>
    le_of_not_gt (of_decide_eq_false (split.fails i (by omega) high))
  refine ⟨split.high, copied, fun some => copied.takeA setting (by simpa) fun _ => ?_⟩
  have below := of_decide_eq_true (split.holds (j - 1) (Nat.zero_le _) (by omega))
  have last : m.nextB (m.copiedB s (s.nb - j)) = j - 1 := by
    simp only [HighMerge.nextB, copiedB_nb]
    omega
  have same : m.nextA (m.copiedB s (s.nb - j)) = m.nextA s := rfl
  rw [last, copied.nextA_cell (by simpa), same, ← progress.nextA_cell someA]
  exact below

theorem Progress.single_round {fuel wins losses : Nat} {r : Array Nat × Nat}
    (someA : 1 ≤ s.na) (manyB : 2 ≤ s.nb)
    (next : ∀ t : Merging, Progress rank n m lenA lenB c0 t → 1 ≤ t.na → 2 ≤ t.nb →
      t.na + t.nb < s.na + s.nb → ∀ galloping wins losses r,
        m.steps lt fuel t galloping wins losses = .ok r → Done rank m lenA lenB c0 r.1)
    (ran : m.steps lt (fuel + 1) s false wins losses = .ok r) : Done rank m lenA lenB c0 r.1 := by
  simp only [HighMerge.steps] at ran
  obtain ⟨b, compared, rest⟩ := bind_eq_ok.mp ran
  rw [ranked _ _ (setting.asideBelow _) (progress.below _), Except.ok.injEq] at compared
  subst compared
  by_cases lower : rank (cell m.aside (m.nextB s)) < rank (cell s.cells (m.nextA s))
  · -- the left run's cell goes last
    have taken := progress.takeA setting (by omega) fun _ => lower
    simp only [lower, decide_true, if_true] at rest
    split at rest
    · rename_i used
      obtain rfl := pure_eq_ok.mp rest
      exact taken.finish_done setting (.inl (by simpa using used))
    · rename_i left
      simp only [takeA_na, beq_iff_eq] at left
      split at rest
      · exact next _ (taken.withGallop _ _) (by simp; omega) (by simp; omega)
          (by simp; omega) _ _ _ _ rest
      · exact next _ taken (by simp; omega) (by simp; omega) (by simp; omega) _ _ _ _ rest
  · -- the right run's cell goes last
    have taken := progress.takeB setting (by omega) fun _ => le_of_not_gt lower
    simp only [lower, decide_false, Bool.false_eq_true, if_false] at rest
    split at rest
    · rename_i one
      obtain rfl := pure_eq_ok.mp rest
      exact taken.lastB_done setting (by simpa using one)
    · rename_i more
      simp only [takeB_nb, beq_iff_eq] at more
      split at rest
      · exact next _ (taken.withGallop _ _) (by simp; omega) (by simp; omega)
          (by simp; omega) _ _ _ _ rest
      · exact next _ taken (by simp; omega) (by simp; omega) (by simp; omega) _ _ _ _ rest

theorem Progress.gallop_round {fuel wins losses : Nat} {r : Array Nat × Nat}
    (someA : 1 ≤ s.na) (manyB : 2 ≤ s.nb)
    (next : ∀ t : Merging, Progress rank n m lenA lenB c0 t → 1 ≤ t.na → 2 ≤ t.nb →
      t.na + t.nb < s.na + s.nb → ∀ galloping wins losses r,
        m.steps lt fuel t galloping wins losses = .ok r → Done rank m lenA lenB c0 r.1)
    (ran : m.steps lt (fuel + 1) s true wins losses = .ok r) : Done rank m lenA lenB c0 r.1 := by
  simp only [HighMerge.steps] at ran
  generalize (if s.gallop > 1 then s.gallop - 1 else s.gallop) = g at ran
  obtain ⟨k, galloped, ran⟩ := bind_eq_ok.mp ran
  obtain ⟨short, copied, taken⟩ :=
    (progress.withGallop g g).gallopA_round setting ranked (by simp; omega) (by simp; omega)
      galloped
  simp only at short
  -- the round may end after the block of the left run
  split at ran
  · rename_i none
    obtain rfl := pure_eq_ok.mp ran
    exact copied.finish_done setting (.inl (by simp at none ⊢; omega))
  rename_i notNone
  simp only [Bool.and_eq_true, decide_eq_true_eq, beq_iff_eq, not_and] at notNone
  have taken := taken (by omega)
  -- or after the right run's next cell
  split at ran
  · rename_i one
    obtain rfl := pure_eq_ok.mp ran
    exact taken.lastB_done setting (by simpa using one)
  rename_i notOne
  simp only [takeB_nb, beq_iff_eq] at notOne
  obtain ⟨j, moved, ran⟩ := bind_eq_ok.mp ran
  obtain ⟨shortB, copiedB, takenA⟩ :=
    taken.gallopB_round setting ranked (by simp; omega) (by simp; omega) moved
  simp only [takeB_nb, copiedA_nb] at shortB
  -- or after the block of the right run
  split at ran
  · rename_i one
    obtain rfl := pure_eq_ok.mp ran
    exact copiedB.lastB_done setting (by simp at one ⊢; omega)
  split at ran
  · rename_i none
    obtain rfl := pure_eq_ok.mp ran
    exact copiedB.finish_done setting (.inr (by simp at none ⊢; omega))
  rename_i notOne' notNone'
  -- the tests read the counts before the simp lemmas of `takeB` rewrite them
  simp only [Bool.and_eq_true, decide_eq_true_eq, beq_iff_eq, not_and] at notOne' notNone'
  simp only [takeB_nb] at notOne' notNone'
  have takenA := takenA (by omega)
  -- or after the left run's next cell
  split at ran
  · rename_i none
    obtain rfl := pure_eq_ok.mp ran
    exact takenA.finish_done setting (.inl (by simpa using none))
  rename_i notNone''
  simp only [takeA_na, takeB_na, beq_iff_eq] at notNone''
  split at ran
  · exact next _ takenA (by simp; omega) (by simp; omega) (by simp; omega) _ _ _ _ ran
  · exact next _ (takenA.withGallop _ _) (by simp; omega) (by simp; omega) (by simp; omega)
      _ _ _ _ ran

/-- With a left cell and two right cells left, the rounds place every cell. -/
theorem Progress.steps_done {fuel wins losses : Nat} {galloping : Bool} {r : Array Nat × Nat}
    (someA : 1 ≤ s.na) (manyB : 2 ≤ s.nb) (enough : s.na + s.nb ≤ fuel)
    (ran : m.steps lt fuel s galloping wins losses = .ok r) : Done rank m lenA lenB c0 r.1 := by
  -- each round places at least one cell, so the fuel outlasts the cells
  induction fuel generalizing s galloping wins losses r with
  | zero => omega
  | succ fuel more =>
    have next : ∀ t : Merging, Progress rank n m lenA lenB c0 t → 1 ≤ t.na → 2 ≤ t.nb →
        t.na + t.nb < s.na + s.nb → ∀ galloping wins losses r,
          m.steps lt fuel t galloping wins losses = .ok r → Done rank m lenA lenB c0 r.1 :=
      fun _ progress someA manyB fewer _ _ _ _ ran =>
        more progress someA manyB (by omega) ran
    cases galloping with
    | false => exact progress.single_round setting ranked someA manyB next ran
    | true => exact progress.gallop_round setting ranked someA manyB next ran

end Rounds

end HighMerge

/-- Merging from the high end, where the right run's first cell goes before the left run's and
the left run's last cell after the whole right run, puts the two sorted runs' cells in their
stable merge and leaves every other cell as it was. -/
theorem mergeHigh_merged {lt : Less ε} (ranked : Ranked rank lt n) {c0 : Array Nat}
    {gallop base na nb : Nat} {r : Array Nat × Nat} (fits : base + na + nb ≤ c0.size)
    (below : CellsBelow n c0) (someA : 0 < na) (someB : 0 < nb)
    (leftSorted : (segment c0 base na).Pairwise (fun x y => rank x ≤ rank y))
    (rightSorted : (segment c0 (base + na) nb).Pairwise (fun x y => rank x ≤ rank y))
    (first : rank (cell c0 (base + na)) < rank (cell c0 base))
    (last : ∀ y ∈ segment c0 (base + na) nb, rank y < rank (cell c0 (base + na - 1)))
    (ran : mergeHigh lt c0 gallop base na nb = .ok r) : MergedRuns rank c0 r.1 base na nb := by
  set m : HighMerge := ⟨base, c0.extract (base + na) (base + na + nb)⟩ with hm
  have positive : 0 < n := Nat.lt_of_le_of_lt (Nat.zero_le _) (below 0)
  have aside : segment m.aside 0 nb = segment c0 (base + na) nb :=
    segment_extract (Nat.le_refl _) fits
  have asideCell : ∀ i < nb, cell m.aside i = cell c0 (base + na + i) := fun _ short =>
    cell_extract (by omega) fits
  have setting : HighMerge.Setting rank n m na nb c0 :=
    ⟨fits, below, below.extract positive _ _, leftSorted, aside ▸ rightSorted, fun x member => by
      rw [asideCell 0 someB, Nat.add_zero]
      exact lt_of_lt_of_le first (rank_first_le leftSorted member)⟩
  have start : HighMerge.Progress rank n m na nb c0 ⟨c0, na, nb, gallop, gallop⟩ :=
    ⟨rfl, Nat.le_refl _, Nat.le_refl _, below, fun _ _ => rfl, fun _ _ _ => rfl, by simp⟩
  have taken := start.takeA setting someA fun _ => by
    simp only [HighMerge.nextA, HighMerge.nextB]
    rw [asideCell _ (by omega)]
    exact last _ (mem_segment.mpr ⟨_, by omega, by omega, rfl⟩)
  have done : HighMerge.Done rank m na nb c0 r.1 := by
    simp only [mergeHigh] at ran
    split at ran
    · rename_i used
      obtain rfl := pure_eq_ok.mp ran
      exact taken.finish_done setting (.inl (by simpa using used))
    split at ran
    · rename_i one
      obtain rfl := pure_eq_ok.mp ran
      exact taken.lastB_done setting (by simpa using one)
    rename_i none one
    simp only [HighMerge.takeA_nb, HighMerge.takeA_na, beq_iff_eq] at none one
    exact taken.steps_done setting ranked (by simp; omega) (by simp; omega) (by simp; omega) ran
  exact ⟨done.size, done.outside, aside ▸ done.merged⟩

end Bookmarks.Order
