import Mathlib
import Bookmarks.Similarity.Matcher
/-!
The longest common block when one sequence begins the other.

The index gives a code point all its positions or none (`Indexed`). Where the sequences agree
along the first range (`Diagonal`), the block a row finds on the diagonal is its longest
(`cell_le_diagonal`), so the best block never starts further along the second sequence than
along the first (`Scanned.row`, `longest_below`), and so does every joined block
(`exists_below_joinAdjacent`).
-/
namespace Bookmarks.Similarity.Matcher

/-! ## The index -/

/-- One step of indexing: position `j` holds the code point `c`. -/
def indexStep (acc : List (Nat × List Nat)) (jc : Nat × Nat) : List (Nat × List Nat) :=
  let (j, c) := jc
  if acc.any (·.1 == c) then acc.map fun e => if e.1 == c then (c, e.2 ++ [j]) else e
  else acc ++ [(c, [j])]

theorem zipIdx_swap (b : Array Nat) :
    (b.toList.zipIdx.map fun (c, j) => (j, c)) =
      (List.range b.size).map fun j => (j, b.getD j 0) := by
  apply List.ext_getElem
  · simp
  · intro i h1 h2
    simp only [List.length_map, List.length_range] at h2
    simp [h2]

theorem positionsOf_eq (b : Array Nat) :
    positionsOf b = ((List.range b.size).map fun j => (j, b.getD j 0)).foldl indexStep [] := by
  unfold positionsOf
  rw [zipIdx_swap]
  rfl

/-- What the index holds after the first `t` positions: each code point seen with its
positions so far. -/
structure IndexedUpTo (b : Array Nat) (t : Nat) (acc : List (Nat × List Nat)) : Prop where
  positions : ∀ e ∈ acc, e.2 = (List.range t).filter fun j => b.getD j 0 == e.1
  seen : ∀ j < t, ∃ e ∈ acc, e.1 = b.getD j 0

theorem filter_range_succ (b : Array Nat) (t d : Nat) :
    (List.range (t + 1)).filter (fun j => b.getD j 0 == d) =
      (List.range t).filter (fun j => b.getD j 0 == d) ++
        (if b.getD t 0 = d then [t] else []) := by
  rw [List.range_succ, List.filter_append]
  simp only [Array.getD_eq_getD_getElem?]
  by_cases same : b[t]?.getD 0 = d <;> simp [same]

theorem indexedUpTo_step {b : Array Nat} {t : Nat} {acc : List (Nat × List Nat)}
    (inv : IndexedUpTo b t acc) : IndexedUpTo b (t + 1) (indexStep acc (t, b.getD t 0)) := by
  by_cases known : acc.any (·.1 == b.getD t 0)
  · simp only [indexStep, known, if_true]
    constructor
    · intro e member
      obtain ⟨e', mem', rfl⟩ := List.mem_map.mp member
      by_cases hit : e'.1 = b.getD t 0
      · simp only [hit, beq_self_eq_true, if_true, filter_range_succ, inv.positions e' mem']
      · simp only [beq_iff_eq, hit, if_false, filter_range_succ, inv.positions e' mem',
          Ne.symm hit, List.append_nil]
    · intro j lt
      rcases Nat.lt_succ_iff_lt_or_eq.mp lt with before | rfl
      · obtain ⟨e, mem, key⟩ := inv.seen j before
        refine ⟨_, List.mem_map_of_mem mem, ?_⟩
        by_cases hit : e.1 = b.getD t 0
        · simp only [hit, beq_self_eq_true, if_true]
          rw [← hit, key]
        · rw [key] at hit
          simp only [beq_iff_eq, hit, if_false, key]
      · obtain ⟨e, mem, key⟩ := List.any_eq_true.mp known
        refine ⟨_, List.mem_map_of_mem mem, ?_⟩
        simp only [key, if_true]
  · simp only [indexStep, known, Bool.false_eq_true, if_false]
    have fresh : ∀ e ∈ acc, e.1 ≠ b.getD t 0 := fun e mem same =>
      known (List.any_eq_true.mpr ⟨e, mem, by simp [same]⟩)
    constructor
    · intro e member
      rcases List.mem_append.mp member with old | new
      · simp only [filter_range_succ, inv.positions e old, Ne.symm (fresh e old), if_false,
          List.append_nil]
      · simp only [List.mem_singleton] at new
        subst new
        have none : (List.range t).filter (fun j => b.getD j 0 == b.getD t 0) = [] := by
          refine List.filter_eq_nil_iff.mpr fun j mem hit => ?_
          obtain ⟨e, inAcc, key⟩ := inv.seen j (List.mem_range.mp mem)
          exact fresh e inAcc (by rw [key]; simpa using hit)
        simp only [filter_range_succ, none, if_true, List.nil_append]
    · intro j lt
      rcases Nat.lt_succ_iff_lt_or_eq.mp lt with before | rfl
      · obtain ⟨e, mem, key⟩ := inv.seen j before
        exact ⟨e, List.mem_append_left _ mem, key⟩
      · exact ⟨(b.getD j 0, [j]), by simp, rfl⟩

theorem indexedUpTo_foldl (b : Array Nat) (t : Nat) :
    IndexedUpTo b t (((List.range t).map fun j => (j, b.getD j 0)).foldl indexStep []) := by
  induction t with
  | zero => exact ⟨by simp, by simp⟩
  | succ t ih =>
    rw [List.range_succ, List.map_append, List.foldl_append]
    exact indexedUpTo_step ih

/-- The positions of `c` in `b`, in increasing order. -/
def occurrences (b : Array Nat) (c : Nat) : List Nat :=
  (List.range b.size).filter fun j => b.getD j 0 == c

theorem positionsOf_occurrences {b : Array Nat} {e : Nat × List Nat}
    (member : e ∈ positionsOf b) : e.2 = occurrences b e.1 := by
  rw [positionsOf_eq] at member
  exact (indexedUpTo_foldl b b.size).positions e member

/-- The index of a matcher gives a code point either no position at all or every position it
has in the second sequence. -/
def Indexed (m : Matcher) : Prop := ∀ c, m.positions c = [] ∨ m.positions c = occurrences m.b c

theorem indexed_make (a b : Text) : Indexed (make a b) := by
  intro c
  -- the index is the positions of every code point, or those of the rare ones
  have whole : ∀ e ∈ (make a b).index, e.2 = occurrences (make a b).b e.1 := by
    intro e member
    simp only [make] at member ⊢
    split at member
    · exact positionsOf_occurrences (List.mem_filter.mp member).1
    · exact positionsOf_occurrences member
  unfold positions
  cases found : (make a b).index.find? (·.1 == c) with
  | none => exact .inl rfl
  | some e =>
    have key : e.1 = c := by simpa using List.find?_some found
    exact .inr (by simp [whole e (List.mem_of_find?_eq_some found), key])

section Indexed

variable {m : Matcher} {c j : Nat}

theorem Indexed.sorted (indexed : Indexed m) (c : Nat) : (m.positions c).Pairwise (· < ·) := by
  rcases indexed c with none | all
  · simp [none]
  · rw [all]
    exact List.pairwise_lt_range.filter _

theorem Indexed.mem (indexed : Indexed m) (member : j ∈ m.positions c) :
    j < m.b.size ∧ m.b.getD j 0 = c := by
  rcases indexed c with none | all
  · simp [none] at member
  · rw [all, occurrences, List.mem_filter, List.mem_range] at member
    simpa using member

theorem Indexed.complete (indexed : Indexed m) (some : m.positions c ≠ [])
    (inside : j < m.b.size) (at_j : m.b.getD j 0 = c) : j ∈ m.positions c := by
  rcases indexed c with none | all
  · exact absurd none some
  · rw [all, occurrences, List.mem_filter, List.mem_range]
    exact ⟨inside, by simpa using at_j⟩

end Indexed

/-! ## The rows of the search -/

theorem takeWhile_lt_of_sorted {l : List Nat} (sorted : l.Pairwise (· < ·)) (b : Nat) :
    l.takeWhile (· < b) = l.filter (· < b) := by
  induction l with
  | nil => rfl
  | cons x xs ih =>
    obtain ⟨above, rest⟩ := List.pairwise_cons.mp sorted
    by_cases lt : x < b
    · simp [lt, ih rest]
    · -- everything after `x` is greater still, so nothing passes
      have none : xs.filter (· < b) = [] :=
        List.filter_eq_nil_iff.mpr fun y mem => by have := above y mem; simp; omega
      simp [lt, none]

/-- The positions at which a row of the search looks for its code point: the indexed ones from
`blo` up to `bhi`. -/
def cells (m : Matcher) (blo bhi i : Nat) : List Nat :=
  ((m.positions (m.a.getD i 0)).filter (blo ≤ ·)).takeWhile (· < bhi)

section Cells

variable {m : Matcher} {blo bhi i j : Nat}

theorem cells_eq (indexed : Indexed m) :
    m.cells blo bhi i = (m.positions (m.a.getD i 0)).filter fun j => blo ≤ j ∧ j < bhi := by
  rw [cells, takeWhile_lt_of_sorted ((indexed.sorted _).filter _), List.filter_filter]
  congr 1
  funext j
  simp [Bool.and_comm]

theorem mem_cells (indexed : Indexed m) :
    j ∈ m.cells blo bhi i ↔ j ∈ m.positions (m.a.getD i 0) ∧ blo ≤ j ∧ j < bhi := by
  simp [cells_eq indexed]

theorem cells_sorted (indexed : Indexed m) : (m.cells blo bhi i).Pairwise (· < ·) := by
  rw [cells_eq indexed]
  exact (indexed.sorted _).filter _

end Cells

/-- One cell `j` of row `i`: the common block ending there, when it is longer than the best so
far. -/
def improve (i : Nat) (previous : List (Nat × Nat)) (best : Block) (j : Nat) : Block :=
  let k := lengthBefore previous j + 1
  if k > best.size then ⟨i + 1 - k, j + 1 - k, k⟩ else best

theorem row_eq (m : Matcher) (blo bhi i : Nat) (previous : List (Nat × Nat)) (best : Block) :
    m.row blo bhi i previous best =
      ((m.cells blo bhi i).map fun j => (j, lengthBefore previous j + 1),
        (m.cells blo bhi i).foldl (improve i previous) best) := by
  have fold : ∀ (js : List Nat) (current : List (Nat × Nat)) (best : Block),
      js.foldl (fun acc j =>
        let k := lengthBefore previous j + 1
        (acc.1 ++ [(j, k)], if k > acc.2.size then ⟨i + 1 - k, j + 1 - k, k⟩ else acc.2))
        (current, best) =
      (current ++ js.map fun j => (j, lengthBefore previous j + 1),
        js.foldl (improve i previous) best) := by
    intro js
    induction js with
    | nil => simp
    | cons j js ih =>
      intro current best
      simp only [List.foldl_cons, ih, List.map_cons, List.append_assoc, List.singleton_append]
      rfl
  exact (fold (m.cells blo bhi i) [] best).trans (by rw [List.nil_append])

/-! ## The diagonal -/

/-- How many rows just before row `r`, from row `lo` on, hold a code point that the index
knows, unbroken: the length of the block ending on the diagonal just before row `r`, when the
two sequences agree there. -/
def indexedRun (m : Matcher) (lo : Nat) : Nat → Nat
  | 0 => 0
  | r + 1 => if lo ≤ r ∧ m.positions (m.a.getD r 0) ≠ [] then m.indexedRun lo r + 1 else 0

theorem indexedRun_le (m : Matcher) (lo r : Nat) : m.indexedRun lo r ≤ r - lo := by
  induction r with
  | zero => simp [indexedRun]
  | succ r ih =>
    unfold indexedRun
    split
    · omega
    · omega

/-- The two sequences agree from `lo` up to `ahi`, and the second range reaches at least as far
as the first inside the second sequence: every row of the search has its diagonal cell. -/
structure Diagonal (m : Matcher) (lo ahi bhi : Nat) : Prop where
  le_bhi : ahi ≤ bhi
  bhi_le : bhi ≤ m.b.size
  same : ∀ t, lo ≤ t → t < ahi → m.a.getD t 0 = m.b.getD t 0

section Diagonal

variable {m : Matcher} {lo ahi bhi r j : Nat}

/-- A row whose code point the index knows finds it on the diagonal. -/
theorem diagonal_mem_cells (indexed : Indexed m) (diag : Diagonal m lo ahi bhi) (start : lo ≤ r)
    (inside : r < ahi) (known : m.positions (m.a.getD r 0) ≠ []) : r ∈ m.cells lo bhi r := by
  have := diag.le_bhi
  have := diag.bhi_le
  refine (mem_cells indexed).mpr ⟨indexed.complete known (by omega) ?_, start, by omega⟩
  exact (diag.same r start inside).symm

theorem known_of_mem_cells (indexed : Indexed m) (member : j ∈ m.cells lo bhi r) :
    m.positions (m.a.getD r 0) ≠ [] :=
  List.ne_nil_of_mem ((mem_cells indexed).mp member).1

theorem indexedRun_succ_of_mem (indexed : Indexed m) (start : lo ≤ r)
    (member : j ∈ m.cells lo bhi r) : m.indexedRun lo (r + 1) = m.indexedRun lo r + 1 := by
  rw [indexedRun, if_pos ⟨start, known_of_mem_cells indexed member⟩]

theorem indexedRun_succ_of_not_mem (indexed : Indexed m) (diag : Diagonal m lo ahi bhi)
    (inside : r < ahi) (missing : r ∉ m.cells lo bhi r) : m.indexedRun lo (r + 1) = 0 := by
  unfold indexedRun
  rw [if_neg]
  rintro ⟨start, known⟩
  exact missing (diagonal_mem_cells indexed diag start inside known)

end Diagonal

/-! ## The blocks of one row -/

/-- Blocks that end on a row no longer than a bound on their column end no longer than that bound
on the next row. -/
theorem lengthBefore_le {previous : List (Nat × Nat)} {g : Nat → Nat}
    (bounded : ∀ e ∈ previous, e.2 ≤ g (e.1 + 1)) (j : Nat) : lengthBefore previous j ≤ g j := by
  unfold lengthBefore
  split
  · omega
  · cases found : previous.find? (·.1 == j - 1) with
    | none => simp
    | some e =>
      have key : e.1 = j - 1 := by simpa using List.find?_some found
      have := bounded e (List.mem_of_find?_eq_some found)
      simp only [Option.map_some, Option.getD_some]
      rw [key, Nat.sub_add_cancel (by omega)] at this
      exact this

theorem find?_beq (js : List Nat) (r : Nat) :
    js.find? (· == r) = if r ∈ js then some r else none := by
  induction js with
  | nil => simp
  | cons x xs ih =>
    by_cases same : x = r
    · simp [same]
    · simp [same, ih, Ne.symm same]

/-- The block ending on the diagonal just before the next row is the one the row found there. -/
theorem lengthBefore_map (js : List Nat) (g : Nat → Nat) (r : Nat) :
    lengthBefore (js.map fun j => (j, g j)) (r + 1) = if r ∈ js then g r else 0 := by
  simp only [lengthBefore, Nat.add_one_ne_zero, if_false, Nat.add_sub_cancel, List.find?_map]
  have found := find?_beq js r
  simp only [Function.comp_def] at found ⊢
  rw [found]
  split <;> simp

section Improve

variable {i : Nat} {previous : List (Nat × Nat)} {best : Block} {j : Nat}

/-- A cell keeps the best block, or replaces it by the longer block ending there. -/
theorem improve_cases (i : Nat) (previous : List (Nat × Nat)) (best : Block) (j : Nat) :
    (lengthBefore previous j + 1 ≤ best.size ∧ improve i previous best j = best) ∨
      (best.size < lengthBefore previous j + 1 ∧ improve i previous best j =
        ⟨i + 1 - (lengthBefore previous j + 1), j + 1 - (lengthBefore previous j + 1),
          lengthBefore previous j + 1⟩) := by
  unfold improve
  dsimp only
  split
  · exact .inr ⟨by omega, rfl⟩
  · exact .inl ⟨by omega, rfl⟩

theorem size_le_improve : best.size ≤ (improve i previous best j).size ∧
    lengthBefore previous j + 1 ≤ (improve i previous best j).size := by
  rcases improve_cases i previous best j with ⟨short, same⟩ | ⟨longer, new⟩
  · rw [same]
    exact ⟨le_refl _, short⟩
  · rw [new]
    exact ⟨by simp; omega, by simp⟩

theorem size_le_foldl_improve (js : List Nat) (best : Block) :
    best.size ≤ (js.foldl (improve i previous) best).size := by
  induction js generalizing best with
  | nil => simp
  | cons j js ih => exact size_le_improve.1.trans (ih _)

/-- Cells whose blocks are no longer than the best leave it. -/
theorem foldl_improve_keep {js : List Nat} (short : ∀ j ∈ js, lengthBefore previous j + 1 ≤ best.size) :
    js.foldl (improve i previous) best = best := by
  induction js with
  | nil => rfl
  | cons j js ih =>
    have kept : improve i previous best j = best := by
      simp [improve, Nat.not_lt.mpr (short j (.head js))]
    rw [List.foldl_cons, kept, ih fun j' member => short j' (.tail j member)]

/-- A best block found before row `r`: it starts no further along the second sequence than the
first, it ends before the row, and an empty one is the one the search started with. -/
structure Placed (lo r : Nat) (best : Block) : Prop where
  below : best.j ≤ best.i
  ends : best.i + best.size ≤ r
  empty : best.size = 0 → best.i = lo ∧ best.j = lo

/-- Cells at or before the diagonal, with blocks that fit in the rows so far, keep a placed best
block placed. -/
theorem foldl_improve_placed {lo : Nat} {js : List Nat}
    (early : ∀ j ∈ js, j ≤ i ∧ lengthBefore previous j + 1 ≤ i + 1)
    (placed : Placed lo (i + 1) best) : Placed lo (i + 1) (js.foldl (improve i previous) best) := by
  induction js generalizing best with
  | nil => exact placed
  | cons j js ih =>
    refine ih (fun j' member => early j' (.tail j member)) ?_
    obtain ⟨le, fits⟩ := early j (.head js)
    rcases improve_cases i previous best j with ⟨-, same⟩ | ⟨-, new⟩
    · rwa [same]
    · rw [new]
      exact ⟨by simp; omega, by simp; omega, by simp⟩

end Improve

/-! ## The rows of the search -/

/-- What the search knows after the rows from `lo` up to `r`: the blocks ending on the last row
are no longer than the one ending on the diagonal, which it found; the best block is as long as
every diagonal block so far, and placed. -/
structure Scanned (m : Matcher) (lo r : Nat) (previous : List (Nat × Nat)) (best : Block) : Prop where
  bounded : ∀ e ∈ previous, e.2 ≤ m.indexedRun lo r
  diagonal : lengthBefore previous r = m.indexedRun lo r
  reached : ∀ t, lo ≤ t → t < r → m.indexedRun lo (t + 1) ≤ best.size
  placed : Placed lo r best

theorem scanned_start (m : Matcher) (lo : Nat) : Scanned m lo lo [] ⟨lo, lo, 0⟩ := by
  have empty : m.indexedRun lo lo = 0 := by have := m.indexedRun_le lo lo; omega
  exact ⟨by simp, by simp [lengthBefore, empty], fun t start below => by omega,
    ⟨le_refl _, by simp, fun _ => ⟨rfl, rfl⟩⟩⟩

/-- A sorted list holding `r` splits there into the smaller and the greater items. -/
theorem split_sorted {js : List Nat} (sorted : js.Pairwise (· < ·)) {r : Nat} (member : r ∈ js) :
    ∃ before after, js = before ++ r :: after ∧ (∀ j ∈ before, j < r) ∧ ∀ j ∈ after, r < j := by
  obtain ⟨before, after, rfl⟩ := List.mem_iff_append.mp member
  rw [List.pairwise_append, List.pairwise_cons] at sorted
  exact ⟨before, after, rfl, fun j mem => sorted.2.2 j mem r (.head after),
    sorted.2.1.1⟩

section Row

variable {m : Matcher} {lo ahi bhi r : Nat} {previous : List (Nat × Nat)} {best : Block}

/-- Every block a row finds is no longer than the diagonal block of that row. -/
theorem cell_le_diagonal (indexed : Indexed m) (start : lo ≤ r)
    (scanned : Scanned m lo r previous best) {j : Nat} (member : j ∈ m.cells lo bhi r) :
    lengthBefore previous j + 1 ≤ m.indexedRun lo (r + 1) := by
  have := lengthBefore_le (g := fun _ => m.indexedRun lo r) scanned.bounded j
  rw [indexedRun_succ_of_mem indexed start member]
  omega

/-- One row of the search keeps what the search knows. -/
theorem Scanned.row (indexed : Indexed m) (diag : Diagonal m lo ahi bhi) (start : lo ≤ r)
    (inside : r < ahi) (scanned : Scanned m lo r previous best) :
    Scanned m lo (r + 1) (m.row lo bhi r previous best).1 (m.row lo bhi r previous best).2 := by
  rw [row_eq]
  dsimp only
  have bound := fun {j} (member : j ∈ m.cells lo bhi r) =>
    cell_le_diagonal indexed start scanned member
  have run := m.indexedRun_le lo (r + 1)
  by_cases onDiagonal : r ∈ m.cells lo bhi r
  · -- the cells before the diagonal keep the best block placed, the diagonal cell makes it as
    -- long as the diagonal block, and the cells after it are no longer
    obtain ⟨before, after, split, early, late⟩ :=
      split_sorted (cells_sorted indexed) onDiagonal
    have diagonalLength : lengthBefore previous r + 1 = m.indexedRun lo (r + 1) := by
      rw [scanned.diagonal, indexedRun_succ_of_mem indexed start onDiagonal]
    set first := before.foldl (improve r previous) best
    have placedFirst : Placed lo (r + 1) first := by
      refine foldl_improve_placed (fun j mem => ⟨(early j mem).le, ?_⟩) ?_
      · have := bound (split ▸ List.mem_append_left _ mem); omega
      · exact ⟨scanned.placed.below, by have := scanned.placed.ends; omega, scanned.placed.empty⟩
    set second := improve r previous first r
    have longEnough : m.indexedRun lo (r + 1) ≤ second.size := diagonalLength ▸ size_le_improve.2
    have placedSecond : Placed lo (r + 1) second := by
      refine foldl_improve_placed (fun j (mem : j ∈ [r]) => ?_) placedFirst
      simp only [List.mem_singleton] at mem
      subst mem
      omega
    have kept : after.foldl (improve r previous) second = second := by
      refine foldl_improve_keep fun j mem => ?_
      have := bound (split ▸ List.mem_append_right _ (List.mem_cons_of_mem r mem))
      omega
    have grown : best.size ≤ second.size :=
      (size_le_foldl_improve before best).trans size_le_improve.1
    rw [split, List.foldl_append, List.foldl_cons, kept, ← split]
    refine ⟨fun e mem => ?_, ?_, fun t low high => ?_, ?_⟩
    · obtain ⟨j, inCells, rfl⟩ := List.mem_map.mp mem
      exact bound inCells
    · rw [lengthBefore_map, if_pos onDiagonal, diagonalLength]
    · rcases Nat.lt_succ_iff_lt_or_eq.mp high with earlier | rfl
      · exact (scanned.reached t low earlier).trans grown
      · exact longEnough
    · exact placedSecond
  · -- a row without its diagonal cell finds nothing
    have empty : m.cells lo bhi r = [] := List.eq_nil_iff_forall_not_mem.mpr fun j member =>
      onDiagonal (diagonal_mem_cells indexed diag start inside (known_of_mem_cells indexed member))
    have none := indexedRun_succ_of_not_mem indexed diag inside onDiagonal
    rw [empty]
    refine ⟨by simp, by simp [lengthBefore, none], fun t low high => ?_, ?_⟩
    · rcases Nat.lt_succ_iff_lt_or_eq.mp high with earlier | rfl
      · exact scanned.reached t low earlier
      · simp [none]
    · exact ⟨scanned.placed.below, by have := scanned.placed.ends; simp; omega, scanned.placed.empty⟩

/-- When the two sequences are one, the blocks ending on the last row are no longer than the
diagonal block ending in their column, and the best block lies on the diagonal. -/
structure OnDiagonal (m : Matcher) (lo : Nat) (previous : List (Nat × Nat)) (best : Block) : Prop where
  columns : ∀ e ∈ previous, e.2 ≤ m.indexedRun lo (e.1 + 1)
  diagonal : best.j = best.i

/-- One row of the search over a sequence and itself keeps the best block on the diagonal: a
cell before the diagonal holds a block no longer than the diagonal block of its column, which
an earlier row found. -/
theorem OnDiagonal.row (indexed : Indexed m) (diag : Diagonal m lo ahi bhi) (self : m.a = m.b)
    (start : lo ≤ r) (inside : r < ahi) (scanned : Scanned m lo r previous best)
    (on : OnDiagonal m lo previous best) :
    OnDiagonal m lo (m.row lo bhi r previous best).1 (m.row lo bhi r previous best).2 := by
  rw [row_eq]
  dsimp only
  -- a cell's block is no longer than the diagonal block of its column
  have column : ∀ j ∈ m.cells lo bhi r, lengthBefore previous j + 1 ≤ m.indexedRun lo (j + 1) := by
    intro j member
    obtain ⟨known, low, -⟩ := (mem_cells indexed).mp member
    have same : m.a.getD j 0 = m.a.getD r 0 := by
      rw [self, (indexed.mem known).2, ← self]
    have := lengthBefore_le (g := m.indexedRun lo) on.columns j
    rw [indexedRun, if_pos ⟨low, same ▸ List.ne_nil_of_mem known⟩]
    omega
  refine ⟨fun e mem => ?_, ?_⟩
  · obtain ⟨j, inCells, rfl⟩ := List.mem_map.mp mem
    exact column j inCells
  · by_cases onRow : r ∈ m.cells lo bhi r
    · obtain ⟨before, after, split, early, late⟩ := split_sorted (cells_sorted indexed) onRow
      have keepBefore : before.foldl (improve r previous) best = best := by
        refine foldl_improve_keep fun j mem => ?_
        have inCells := split ▸ List.mem_append_left _ mem
        exact (column j inCells).trans
          (scanned.reached j ((mem_cells indexed).mp inCells).2.1 (early j mem))
      have keepAfter : after.foldl (improve r previous) (improve r previous best r) =
          improve r previous best r := by
        refine foldl_improve_keep fun j mem => ?_
        have inCells := split ▸ List.mem_append_right _ (List.mem_cons_of_mem r mem)
        have := cell_le_diagonal indexed start scanned inCells
        have diagonalLength : lengthBefore previous r + 1 = m.indexedRun lo (r + 1) := by
          rw [scanned.diagonal, indexedRun_succ_of_mem indexed start onRow]
        have : lengthBefore previous r + 1 ≤ (improve r previous best r).size :=
          size_le_improve.2
        omega
      rw [split, List.foldl_append, List.foldl_cons, keepBefore, keepAfter]
      rcases improve_cases r previous best r with ⟨-, same⟩ | ⟨-, new⟩
      · rw [same]
        exact on.diagonal
      · rw [new]
    · have empty : m.cells lo bhi r = [] := List.eq_nil_iff_forall_not_mem.mpr fun j member =>
        onRow (diagonal_mem_cells indexed diag start inside (known_of_mem_cells indexed member))
      rw [empty]
      exact on.diagonal

end Row

/-- The state of the search after the first `t` rows from `alo`, in the second sequence from
`blo` up to `bhi`. -/
def scanRows (m : Matcher) (alo blo bhi t : Nat) : List (Nat × Nat) × Block :=
  (List.range' alo t).foldl (fun (previous, best) i => m.row blo bhi i previous best) ([], ⟨alo, blo, 0⟩)

theorem scanRows_succ (m : Matcher) (alo blo bhi t : Nat) :
    m.scanRows alo blo bhi (t + 1) =
      m.row blo bhi (alo + t) (m.scanRows alo blo bhi t).1 (m.scanRows alo blo bhi t).2 := by
  rw [scanRows, List.range'_concat, List.foldl_append, Nat.one_mul]
  rfl

theorem longest_eq (m : Matcher) (alo ahi blo bhi : Nat) :
    m.longest alo ahi blo bhi = m.growForth ahi bhi
      (m.growBack alo blo (m.scanRows alo blo bhi (ahi - alo)).2 (ahi - alo)) (ahi - alo) := rfl

section Scan

variable {m : Matcher} {lo ahi bhi : Nat}

/-- The search keeps what it knows over all its rows. -/
theorem scanned_rows (indexed : Indexed m) (diag : Diagonal m lo ahi bhi) :
    ∀ t, lo + t ≤ ahi →
      Scanned m lo (lo + t) (m.scanRows lo lo bhi t).1 (m.scanRows lo lo bhi t).2 := by
  intro t
  induction t with
  | zero => intro _; exact scanned_start m lo
  | succ t ih =>
    intro fits
    rw [scanRows_succ, ← Nat.add_assoc]
    exact (ih (by omega)).row indexed diag (by omega) (by omega)

/-- Over a sequence and itself the best block stays on the diagonal. -/
theorem onDiagonal_rows (indexed : Indexed m) (diag : Diagonal m lo ahi bhi) (self : m.a = m.b) :
    ∀ t, lo + t ≤ ahi → OnDiagonal m lo (m.scanRows lo lo bhi t).1 (m.scanRows lo lo bhi t).2 := by
  intro t
  induction t with
  | zero => intro _; exact ⟨by simp [scanRows], rfl⟩
  | succ t ih =>
    intro fits
    rw [scanRows_succ]
    exact (ih (by omega)).row indexed diag self (by omega) (by omega)
      (scanned_rows indexed diag t (by omega))

end Scan

/-! ## Growing the longest block -/

section Grow

variable {m : Matcher} {lo ahi bhi : Nat}

theorem growBack_below (alo blo : Nat) (fuel : Nat) {x : Block} (below : x.j ≤ x.i) :
    (m.growBack alo blo x fuel).j ≤ (m.growBack alo blo x fuel).i ∧
      x.size ≤ (m.growBack alo blo x fuel).size := by
  induction fuel generalizing x with
  | zero => exact ⟨below, le_refl _⟩
  | succ fuel ih =>
    unfold growBack
    split
    · obtain ⟨placed, longer⟩ := ih (x := ⟨x.i - 1, x.j - 1, x.size + 1⟩) (by simp; omega)
      exact ⟨placed, by simp at longer; omega⟩
    · exact ⟨below, le_refl _⟩

theorem growBack_of_start (alo blo fuel : Nat) {x : Block} (start : x.i ≤ alo) :
    m.growBack alo blo x fuel = x := by
  cases fuel with
  | zero => rfl
  | succ fuel =>
    unfold growBack
    rw [if_neg (by simp; omega)]

theorem growForth_keeps (ahi bhi fuel : Nat) (x : Block) :
    (m.growForth ahi bhi x fuel).i = x.i ∧ (m.growForth ahi bhi x fuel).j = x.j ∧
      x.size ≤ (m.growForth ahi bhi x fuel).size := by
  induction fuel generalizing x with
  | zero => exact ⟨rfl, rfl, le_refl _⟩
  | succ fuel ih =>
    unfold growForth
    split
    · obtain ⟨i, j, longer⟩ := ih ⟨x.i, x.j, x.size + 1⟩
      exact ⟨i, j, by simp at longer; omega⟩
    · exact ⟨rfl, rfl, le_refl _⟩

/-- A block followed by equal code points inside both ranges grows. -/
theorem growForth_longer {fuel : Nat} {x : Block} (pos : 0 < fuel) (inA : x.i + x.size < ahi)
    (inB : x.j + x.size < bhi) (equal : m.a.getD (x.i + x.size) 0 = m.b.getD (x.j + x.size) 0) :
    x.size < (m.growForth ahi bhi x fuel).size := by
  obtain ⟨fuel, rfl⟩ : ∃ f, fuel = f + 1 := ⟨fuel - 1, by omega⟩
  unfold growForth
  rw [if_pos (by simp [inA, inB, equal])]
  have := (growForth_keeps (m := m) ahi bhi fuel ⟨x.i, x.j, x.size + 1⟩).2.2
  simp at this
  omega

/-- On the diagonal of a sequence that agrees with the other below a block, the block grows
back to the start of the ranges. -/
theorem growBack_self {fuel : Nat} {x : Block} (onDiagonal : x.j = x.i) (start : lo ≤ x.i)
    (enough : x.i - lo ≤ fuel) (agree : ∀ t, lo ≤ t → t < x.i → m.a.getD t 0 = m.b.getD t 0) :
    m.growBack lo lo x fuel = ⟨lo, lo, x.size + (x.i - lo)⟩ := by
  induction fuel generalizing x with
  | zero =>
    obtain ⟨i, j, size⟩ := x
    simp only at onDiagonal enough start
    subst onDiagonal
    show (⟨j, j, size⟩ : Block) = ⟨lo, lo, size + (j - lo)⟩
    congr 1 <;> omega
  | succ fuel ih =>
    unfold growBack
    by_cases at_start : x.i = lo
    · rw [if_neg (by simp; omega)]
      obtain ⟨i, j, size⟩ := x
      simp only at onDiagonal at_start
      subst onDiagonal at_start
      simp
    · rw [if_pos (by
        simp only [Bool.and_eq_true, decide_eq_true_eq, beq_iff_eq]
        refine ⟨⟨by omega, by omega⟩, ?_⟩
        rw [onDiagonal]
        exact agree _ (by omega) (by omega))]
      rw [ih (by simp [onDiagonal]) (by simp; omega) (by simp; omega)
        fun t low high => agree t low (by simp at high; omega)]
      simp
      omega

/-- On the diagonal of a sequence that agrees with the other above a block, the block grows to
the end of the first range. -/
theorem growForth_self {fuel : Nat} {x : Block} (onDiagonal : x.j = x.i) (fits : ahi ≤ bhi)
    (inside : x.i + x.size ≤ ahi) (enough : ahi - (x.i + x.size) ≤ fuel)
    (agree : ∀ t, x.i + x.size ≤ t → t < ahi → m.a.getD t 0 = m.b.getD t 0) :
    m.growForth ahi bhi x fuel = ⟨x.i, x.i, ahi - x.i⟩ := by
  induction fuel generalizing x with
  | zero =>
    obtain ⟨i, j, size⟩ := x
    simp only at onDiagonal inside enough
    subst onDiagonal
    show (⟨j, j, size⟩ : Block) = ⟨j, j, ahi - j⟩
    congr 1
    omega
  | succ fuel ih =>
    unfold growForth
    by_cases at_end : x.i + x.size = ahi
    · rw [if_neg (by simp; omega)]
      obtain ⟨i, j, size⟩ := x
      simp only at onDiagonal at_end
      subst onDiagonal
      show (⟨j, j, size⟩ : Block) = ⟨j, j, ahi - j⟩
      congr 1
      omega
    · rw [if_pos (by
        simp only [Bool.and_eq_true, decide_eq_true_eq, beq_iff_eq]
        refine ⟨⟨by omega, by omega⟩, ?_⟩
        rw [onDiagonal]
        exact agree _ (le_refl _) (by omega))]
      rw [ih (by simp [onDiagonal]) (by simp; omega) (by simp; omega)
        fun t low high => agree t (by simp at low; omega) high]

end Grow

/-! ## The longest block -/

section Longest

variable {m : Matcher} {lo ahi bhi : Nat}

/-- Where the two sequences agree along the first range, the longest block starts no further
along the second sequence than along the first, and is not empty. -/
theorem longest_below (indexed : Indexed m) (diag : Diagonal m lo ahi bhi) (nonempty : lo < ahi) :
    (m.longest lo ahi lo bhi).j ≤ (m.longest lo ahi lo bhi).i ∧
      0 < (m.longest lo ahi lo bhi).size := by
  have scanned := scanned_rows indexed diag (ahi - lo) (by omega)
  rw [Nat.add_sub_cancel' nonempty.le] at scanned
  rw [longest_eq]
  set best := (m.scanRows lo lo bhi (ahi - lo)).2
  obtain ⟨backBelow, backLonger⟩ := growBack_below (m := m) lo lo (ahi - lo) scanned.placed.below
  obtain ⟨keepI, keepJ, forthLonger⟩ := growForth_keeps (m := m) ahi bhi (ahi - lo)
    (m.growBack lo lo best (ahi - lo))
  refine ⟨by rw [keepI, keepJ]; exact backBelow, ?_⟩
  by_cases empty : best.size = 0
  · -- nothing was found: the empty block at the start grows over the first equal code points
    obtain ⟨atI, atJ⟩ := scanned.placed.empty empty
    have start := growBack_of_start (m := m) lo lo (ahi - lo) (x := best) (by omega)
    rw [start]
    have := diag.le_bhi
    exact Nat.lt_of_le_of_lt (Nat.zero_le _) (growForth_longer (by omega) (by omega) (by omega)
      (by rw [atI, atJ, empty]; exact diag.same lo (le_refl _) nonempty)) |>.trans_le' (by omega)
  · omega

/-- The longest block of a sequence and itself is the whole sequence. -/
theorem longest_self (indexed : Indexed m) (self : m.a = m.b) :
    m.longest 0 m.a.size 0 m.a.size = ⟨0, 0, m.a.size⟩ := by
  have diag : Diagonal m 0 m.a.size m.a.size := ⟨le_refl _, by rw [self], fun t _ _ => by rw [self]⟩
  have scanned := scanned_rows indexed diag m.a.size (by omega)
  have on := onDiagonal_rows indexed diag self m.a.size (by omega)
  simp only [Nat.zero_add] at scanned
  rw [longest_eq, Nat.sub_zero]
  have ends := scanned.placed.ends
  rw [growBack_self on.diagonal (Nat.zero_le _) (by omega) fun t _ _ => by rw [self]]
  rw [growForth_self rfl (le_refl _) (by simp; omega) (by simp) fun t _ _ => by rw [self]]
  simp

end Longest

/-! ## The matching blocks -/

section Blocks

variable {m : Matcher}

/-- The longest block of the ranges is one of their blocks, when it is not empty. -/
theorem longest_mem_blocksIn {alo ahi blo bhi fuel : Nat}
    (found : (m.longest alo ahi blo bhi).size ≠ 0) :
    m.longest alo ahi blo bhi ∈ m.blocksIn alo ahi blo bhi (fuel + 1) := by
  simp only [blocksIn, found, if_false]
  exact List.mem_append_right _ (.head _)

/-- Joining adjacent blocks keeps a block that starts no further along the second sequence than
along the first: the joined block starts where the first of its parts does. -/
theorem exists_below_joinAdjacent {blocks : List Block} (some : ∃ x ∈ blocks, x.j ≤ x.i) :
    ∃ y ∈ joinAdjacent blocks, y.j ≤ y.i := by
  induction blocks using joinAdjacent.induct with
  | case1 x y rest adjacent ih =>
    rw [joinAdjacent, if_pos (by simpa using adjacent)]
    simp only [Bool.and_eq_true, decide_eq_true_eq] at adjacent
    refine ih ?_
    obtain ⟨z, member, below⟩ := some
    rcases List.mem_cons.mp member with rfl | member
    · exact ⟨_, .head _, below⟩
    · rcases List.mem_cons.mp member with rfl | member
      · exact ⟨_, .head _, by simp; omega⟩
      · exact ⟨z, .tail _ member, below⟩
  | case2 x y rest apart ih =>
    rw [joinAdjacent, if_neg (by simpa using apart)]
    obtain ⟨z, member, below⟩ := some
    rcases List.mem_cons.mp member with rfl | member
    · exact ⟨z, .head _, below⟩
    · obtain ⟨w, inJoined, wBelow⟩ := ih ⟨z, member, below⟩
      exact ⟨w, .tail _ inJoined, wBelow⟩
  | case3 blocks short =>
    rw [joinAdjacent.eq_def]
    split
    · exact absurd rfl (short _ _ _)
    · exact some

theorem joinAdjacent_single (x : Block) : joinAdjacent [x] = [x] := by
  rw [joinAdjacent.eq_def]

/-- The blocks of a sequence and itself: the whole sequence, and the closing empty block. -/
theorem matchingBlocks_self (indexed : Indexed m) (self : m.a = m.b) (nonempty : 0 < m.a.size) :
    m.matchingBlocks = [⟨0, 0, m.a.size⟩, ⟨m.a.size, m.a.size, 0⟩] := by
  have whole : m.blocksIn 0 m.a.size 0 m.a.size (m.a.size + 1) = [⟨0, 0, m.a.size⟩] := by
    simp only [blocksIn, longest_self indexed self]
    simp [Nat.ne_of_gt nonempty]
  rw [matchingBlocks, ← self, whole, joinAdjacent_single]
  rfl

theorem matched_self (indexed : Indexed m) (self : m.a = m.b) (nonempty : 0 < m.a.size) :
    m.matched = m.a.size := by
  simp [matched, matchingBlocks_self indexed self nonempty]

end Blocks

end Bookmarks.Similarity.Matcher
