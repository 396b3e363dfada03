import Bookmarks.Order.Sort
import Mathlib.Tactic.SplitIfs
/-!
The cells of a sort in progress, read as lists of positions.

Each way the sort changes its cells is described by what it does to every cell
(`cell_setIfInBounds`, `cell_blit`, `cell_reverseCells`, `cell_insertCell`), and `segment`
reads a block of cells as a list. `CellsBelow n a`, every cell holding a position below `n`,
is kept by every change.
-/
namespace Bookmarks.Order

/-! ## One cell -/

theorem cell_eq (a : Array Nat) (i : Nat) : cell a i = (a[i]?).getD 0 := by
  simp [cell, Array.getD_eq_getD_getElem?]

theorem cell_setIfInBounds (a : Array Nat) (i v j : Nat) :
    cell (a.setIfInBounds i v) j = if i = j ∧ i < a.size then v else cell a j := by
  simp only [cell_eq, Array.getElem?_setIfInBounds]
  by_cases same : i = j
  · subst same
    by_cases inside : i < a.size <;> simp [inside]
  · simp [same]

@[simp] theorem size_blit (dst src : Array Nat) (dstAt srcAt k : Nat) :
    (blit dst src dstAt srcAt k).size = dst.size := by
  induction k generalizing dst with
  | zero => rfl
  | succ k ih => simp [blit, ih]

/-- A copy writes the cells from `dstAt` on, within the array, with the cells of `src` from
`srcAt` on, and leaves every other cell. -/
theorem cell_blit (dst src : Array Nat) (dstAt srcAt k i : Nat) :
    cell (blit dst src dstAt srcAt k) i =
      if dstAt ≤ i ∧ i < dstAt + k ∧ i < dst.size then cell src (srcAt + (i - dstAt))
      else cell dst i := by
  induction k generalizing dst with
  | zero =>
    simp only [blit]
    rw [if_neg (by omega)]
  | succ k ih =>
    -- the last cell of the block is written first, then the others
    simp only [blit, ih, Array.size_setIfInBounds, cell_setIfInBounds]
    by_cases last : i = dstAt + k
    · subst last
      by_cases inside : dstAt + k < dst.size
      · simp [inside]
      · simp [inside]
    · by_cases lower : dstAt ≤ i ∧ i < dstAt + k ∧ i < dst.size
      · simp [lower, show dstAt ≤ i ∧ i < dstAt + (k + 1) ∧ i < dst.size by omega]
      · rw [if_neg lower, if_neg (by omega), if_neg (by omega)]

theorem size_reverseCells {a : Array Nat} {lo hi : Nat} (ordered : lo ≤ hi)
    (inside : hi ≤ a.size) : (reverseCells a lo hi).size = a.size := by
  simp only [reverseCells, Array.size_append, Array.size_extract, Array.size_reverse]
  omega

/-- Turning the cells from `lo` up to `hi` around puts the cell at `lo + hi - 1 - i` at `i`. -/
theorem cell_reverseCells {a : Array Nat} {lo hi : Nat} (ordered : lo ≤ hi)
    (inside : hi ≤ a.size) (i : Nat) :
    cell (reverseCells a lo hi) i =
      if lo ≤ i ∧ i < hi then cell a (lo + hi - 1 - i) else cell a i := by
  simp only [reverseCells, cell_eq, Array.getElem?_append, Array.size_append, Array.size_extract,
    Array.size_reverse, Array.getElem?_extract, show min lo a.size = lo by omega,
    show min hi a.size = hi by omega, Nat.min_self, Nat.sub_zero, Nat.zero_add]
  have index : ∀ x y : Nat, x = y → a[x]?.getD 0 = a[y]?.getD 0 := fun x y same => same ▸ rfl
  split_ifs
  all_goals try omega
  · rw [Array.getElem?_reverse (by simp; omega), Array.getElem?_extract, Array.size_extract,
      if_pos (by omega)]
    exact index _ _ (by omega)
  · exact index _ _ (by omega)
  · rw [Array.getElem?_eq_none (by omega)]

/-- The cells with the cell `pivot` placed at `l` and the cells from `l` up to `s` moved one
further, as inserting the cell at `s` among those before it does. -/
def insertCell (a : Array Nat) (pivot l s : Nat) : Array Nat :=
  a.extract 0 l ++ #[pivot] ++ a.extract l s ++ a.extract (s + 1) a.size

theorem size_insertCell {a : Array Nat} {pivot l s : Nat} (ordered : l ≤ s)
    (inside : s < a.size) : (insertCell a pivot l s).size = a.size := by
  simp only [insertCell, Array.size_append, Array.size_extract, List.size_toArray,
    List.length_singleton]
  omega

theorem cell_insertCell {a : Array Nat} {pivot l s : Nat} (ordered : l ≤ s)
    (inside : s < a.size) (i : Nat) :
    cell (insertCell a pivot l s) i =
      if i < l then cell a i else if i = l then pivot else if i ≤ s then cell a (i - 1)
      else cell a i := by
  simp only [insertCell, cell_eq, Array.getElem?_append, Array.size_append, Array.size_extract,
    Array.getElem?_extract, show min l a.size = l by omega, show min s a.size = s by omega,
    Nat.min_self, Nat.sub_zero, Nat.zero_add, List.size_toArray, List.length_singleton]
  have index : ∀ x y : Nat, x = y → a[x]?.getD 0 = a[y]?.getD 0 := fun x y same => same ▸ rfl
  split_ifs
  all_goals try omega
  · subst_vars
    simp
  · exact index _ _ (by omega)
  · exact index _ _ (by omega)
  · rw [Array.getElem?_eq_none (by omega)]

/-! ## Segments -/

/-- The `len` cells from `lo`, in order. -/
def segment (a : Array Nat) (lo len : Nat) : List Nat := (List.range' lo len).map (cell a)

@[simp] theorem segment_zero (a : Array Nat) (lo : Nat) : segment a lo 0 = [] := rfl

@[simp] theorem length_segment (a : Array Nat) (lo len : Nat) :
    (segment a lo len).length = len := by
  simp [segment]

theorem segment_succ (a : Array Nat) (lo len : Nat) :
    segment a lo (len + 1) = segment a lo len ++ [cell a (lo + len)] := by
  simp [segment, List.range'_concat]

theorem segment_cons (a : Array Nat) (lo len : Nat) :
    segment a lo (len + 1) = cell a lo :: segment a (lo + 1) len := by
  simp [segment, List.range'_succ]

theorem segment_add (a : Array Nat) (lo m k : Nat) :
    segment a lo (m + k) = segment a lo m ++ segment a (lo + m) k := by
  rw [segment, segment, segment, ← List.range'_append, List.map_append, Nat.one_mul]

theorem getElem_segment {a : Array Nat} {lo len i : Nat} (h : i < (segment a lo len).length) :
    (segment a lo len)[i] = cell a (lo + i) := by
  simp [segment]

theorem mem_segment {a : Array Nat} {lo len x : Nat} :
    x ∈ segment a lo len ↔ ∃ i, lo ≤ i ∧ i < lo + len ∧ cell a i = x := by
  simp only [segment, List.mem_map, List.mem_range'_1]
  constructor
  · rintro ⟨i, ⟨low, high⟩, rfl⟩
    exact ⟨i, low, high, rfl⟩
  · rintro ⟨i, low, high, rfl⟩
    exact ⟨i, ⟨low, high⟩, rfl⟩

theorem mem_segment_of_le {a : Array Nat} {lo len len' x : Nat} (member : x ∈ segment a lo len)
    (le : len ≤ len') : x ∈ segment a lo len' := by
  obtain ⟨i, low, high, rfl⟩ := mem_segment.mp member
  exact mem_segment.mpr ⟨i, low, by omega, rfl⟩

/-- Two arrays that agree on the cells of a segment have the same segment. -/
theorem segment_congr {a b : Array Nat} {lo len : Nat}
    (same : ∀ i, lo ≤ i → i < lo + len → cell a i = cell b i) :
    segment a lo len = segment b lo len := by
  simp only [segment]
  refine List.map_congr_left fun i member => ?_
  rw [List.mem_range'_1] at member
  exact same i member.1 member.2

theorem toList_eq_segment (a : Array Nat) : a.toList = segment a 0 a.size := by
  apply List.ext_getElem
  · simp
  · intro i inside _
    simp only [getElem_segment, Nat.zero_add, cell_eq, Array.getElem_toList]
    simp_all

/-- Writing the cell just after a segment extends it by that cell. -/
theorem segment_setIfInBounds_last {a : Array Nat} {lo len p v : Nat} (place : p = lo + len)
    (inside : p < a.size) :
    segment (a.setIfInBounds p v) lo (len + 1) = segment a lo len ++ [v] := by
  subst place
  rw [segment_succ, cell_setIfInBounds, if_pos ⟨rfl, inside⟩]
  congr 1
  refine segment_congr fun i _ high => ?_
  rw [cell_setIfInBounds, if_neg (by omega)]

/-- Writing the first cell of a segment puts it before the others. -/
theorem segment_setIfInBounds_first {a : Array Nat} {p len v : Nat} (inside : p < a.size) :
    segment (a.setIfInBounds p v) p (len + 1) = v :: segment a (p + 1) len := by
  rw [segment_cons, cell_setIfInBounds, if_pos ⟨rfl, inside⟩]
  congr 1
  exact segment_congr fun i low _ => by rw [cell_setIfInBounds, if_neg (by omega)]

/-- A copy of `k` cells puts the segment it reads where it writes. -/
theorem segment_blit {dst src : Array Nat} {dstAt srcAt k : Nat} (inside : dstAt + k ≤ dst.size) :
    segment (blit dst src dstAt srcAt k) dstAt k = segment src srcAt k := by
  refine List.ext_getElem (by simp) fun i first _ => ?_
  simp only [getElem_segment, cell_blit]
  simp only [length_segment] at first
  rw [if_pos ⟨by omega, by omega, by omega⟩]
  congr 1
  omega

theorem cell_extract {a : Array Nat} {lo hi i : Nat} (inside : lo + i < hi) (fits : hi ≤ a.size) :
    cell (a.extract lo hi) i = cell a (lo + i) := by
  simp only [cell_eq, Array.getElem?_extract]
  rw [if_pos (by omega)]

/-- The segment of a block taken out of the cells is the segment it was taken from. -/
theorem segment_extract {a : Array Nat} {lo hi len : Nat} (inside : lo + len ≤ hi)
    (fits : hi ≤ a.size) : segment (a.extract lo hi) 0 len = segment a lo len := by
  refine List.ext_getElem (by simp) fun i first _ => ?_
  simp only [length_segment] at first
  simp only [getElem_segment, Nat.zero_add]
  exact cell_extract (by omega) fits

/-- Turning cells around turns their segment around. -/
theorem segment_reverseCells {a : Array Nat} {lo len : Nat} (inside : lo + len ≤ a.size) :
    segment (reverseCells a lo (lo + len)) lo len = (segment a lo len).reverse := by
  refine List.ext_getElem (by simp) fun i first _ => ?_
  simp only [length_segment] at first
  rw [getElem_segment, List.getElem_reverse, getElem_segment,
    cell_reverseCells (Nat.le_add_right _ _) inside, if_pos ⟨by omega, by omega⟩]
  simp only [length_segment]
  congr 1
  omega

/-- Inserting the cell at `s` at `l` puts it between the cells before `l` and those from `l`
on. -/
theorem segment_insertCell {a : Array Nat} {lo l s : Nat} (low : lo ≤ l) (ordered : l ≤ s)
    (inside : s < a.size) :
    segment (insertCell a (cell a s) l s) lo (s + 1 - lo) =
      segment a lo (l - lo) ++ cell a s :: segment a l (s - l) := by
  have before : segment (insertCell a (cell a s) l s) lo (l - lo) = segment a lo (l - lo) :=
    segment_congr fun i _ high => by rw [cell_insertCell ordered inside, if_pos (by omega)]
  have after : segment (insertCell a (cell a s) l s) (l + 1) (s - l) = segment a l (s - l) := by
    refine List.ext_getElem (by simp) fun i first _ => ?_
    simp only [length_segment] at first
    rw [getElem_segment, getElem_segment, cell_insertCell ordered inside, if_neg (by omega),
      if_neg (by omega), if_pos (by omega)]
    congr 1
    omega
  rw [show s + 1 - lo = l - lo + (s - l + 1) by omega, segment_add,
    show lo + (l - lo) = l by omega, segment_cons, before, after, cell_insertCell ordered inside,
    if_neg (Nat.lt_irrefl l), if_pos rfl]

/-! ## Positions below a bound -/

/-- Every cell holds a position below `n`. -/
def CellsBelow (n : Nat) (a : Array Nat) : Prop := ∀ i, cell a i < n

section Below

variable {n : Nat} {a : Array Nat}

theorem CellsBelow.setIfInBounds (below : CellsBelow n a) {v : Nat} (small : v < n) (i : Nat) :
    CellsBelow n (a.setIfInBounds i v) := by
  intro j
  rw [cell_setIfInBounds]
  split
  · exact small
  · exact below j

theorem CellsBelow.blit (below : CellsBelow n a) {src : Array Nat} (from_ : CellsBelow n src)
    (dstAt srcAt k : Nat) : CellsBelow n (blit a src dstAt srcAt k) := by
  intro i
  rw [cell_blit]
  split
  · exact from_ _
  · exact below i

theorem CellsBelow.extract (below : CellsBelow n a) (positive : 0 < n) (lo hi : Nat) :
    CellsBelow n (a.extract lo hi) := by
  intro i
  simp only [cell_eq, Array.getElem?_extract]
  split
  · simpa [cell_eq] using below (lo + i)
  · exact positive

theorem CellsBelow.reverseCells (below : CellsBelow n a) {lo hi : Nat} (ordered : lo ≤ hi)
    (inside : hi ≤ a.size) : CellsBelow n (Order.reverseCells a lo hi) := by
  intro i
  rw [cell_reverseCells ordered inside]
  split
  · exact below _
  · exact below i

theorem CellsBelow.insertCell (below : CellsBelow n a) {l s : Nat} (ordered : l ≤ s)
    (inside : s < a.size) : CellsBelow n (Order.insertCell a (cell a s) l s) := by
  intro i
  rw [cell_insertCell ordered inside]
  split_ifs
  all_goals exact below _

end Below

theorem cell_range {n i : Nat} (inside : i < n) : cell (Array.range n) i = i := by
  simp [cell_eq, inside]

theorem segment_range {n lo len : Nat} (inside : lo + len ≤ n) :
    segment (Array.range n) lo len = List.range' lo len := by
  simp only [segment]
  conv => rhs; rw [← List.map_id (List.range' lo len)]
  refine List.map_congr_left fun i member => ?_
  rw [List.mem_range'_1] at member
  exact cell_range (by omega)

end Bookmarks.Order
