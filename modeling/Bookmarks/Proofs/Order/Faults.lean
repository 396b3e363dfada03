import Mathlib.Data.List.Forall2
import Bookmarks.Order.Sort
/-!
The sort fails only where a comparison fails.

`FaultsIn E x` says that every fault of `x` is one that `E` allows; it passes through `bind`
and branches, and each function of the sort gets one lemma saying that its faults are its
comparison's, by induction along its own recursion.
-/
namespace Bookmarks

variable {ε κ α β : Type}

/-- Every fault of a computation is one that `E` allows. -/
def FaultsIn (E : ε → Prop) (x : Except ε α) : Prop := ∀ e, x = .error e → E e

/-- A bound computation succeeds when its first part does and what follows that success does. -/
theorem bind_eq_ok {x : Except ε α} {f : α → Except ε β} {b : β} :
    (x >>= f) = .ok b ↔ ∃ a, x = .ok a ∧ f a = .ok b := by
  cases x with
  | error e => simp [bind, Except.bind]
  | ok a => simp [bind, Except.bind]

theorem pure_eq_ok {a b : α} : (pure a : Except ε α) = .ok b ↔ a = b := by
  simp [pure, Except.pure]

section Closure

variable {E : ε → Prop}

@[simp] theorem faultsIn_pure (a : α) : FaultsIn E (pure a : Except ε α) := by
  simp [FaultsIn, pure, Except.pure]

@[simp] theorem faultsIn_ok (a : α) : FaultsIn E (Except.ok a : Except ε α) := by
  simp [FaultsIn]

@[simp] theorem faultsIn_error (e : ε) : FaultsIn E (Except.error e : Except ε α) ↔ E e := by
  simp [FaultsIn]

/-- A bound computation fails where its first part fails, or where what follows a success of
it does. -/
@[simp] theorem faultsIn_bind {x : Except ε α} {f : α → Except ε β} :
    FaultsIn E (x >>= f) ↔ FaultsIn E x ∧ ∀ a, x = .ok a → FaultsIn E (f a) := by
  cases x with
  | error e => simp [FaultsIn, bind, Except.bind]
  | ok a => simp [FaultsIn, bind, Except.bind]

@[simp] theorem faultsIn_map {x : Except ε α} {f : α → β} :
    FaultsIn E (f <$> x) ↔ FaultsIn E x := by
  cases x with
  | error e => simp [FaultsIn, Functor.map, Except.map]
  | ok a => simp [FaultsIn, Functor.map, Except.map]

theorem faultsIn_ite {c : Prop} [Decidable c] {x y : Except ε α} :
    FaultsIn E (if c then x else y) ↔ (c → FaultsIn E x) ∧ (¬c → FaultsIn E y) := by
  split <;> simp_all

theorem FaultsIn.mono {E' : ε → Prop} {x : Except ε α} (faults : FaultsIn E x)
    (wider : ∀ e, E e → E' e) : FaultsIn E' x :=
  fun e h => wider e (faults e h)

/-- A computation whose faults no `E` allows succeeds. -/
theorem FaultsIn.ok_of_false {x : Except ε α} (faults : FaultsIn (fun _ => False) x) :
    ∃ a, x = .ok a := by
  cases x with
  | error e => exact (faults e rfl).elim
  | ok a => exact ⟨a, rfl⟩

end Closure

namespace Order

/-! ## Searching by doubling and halving -/

section Search

variable {E : ε → Prop}

theorem leap_faults {onward : Nat → Except ε Bool} (each : ∀ o, FaultsIn E (onward o))
    (maxofs lastofs ofs : Nat) : FaultsIn E (leap onward maxofs lastofs ofs) := by
  fun_induction leap onward maxofs lastofs ofs with
  | case1 lastofs ofs inside next =>
    simp only [faultsIn_bind, each, true_and]
    intro b _
    split
    · exact next
    · simp
  | case2 lastofs ofs outside => simp

theorem settle_faults {before : Nat → Except ε Bool} (each : ∀ i, FaultsIn E (before i))
    (lo hi : Nat) : FaultsIn E (settle before lo hi) := by
  fun_induction settle before lo hi with
  | case1 lo hi inside m up down =>
    simp only [faultsIn_bind, each, true_and]
    intro b _
    split
    · exact up
    · exact down
  | case2 lo hi outside => simp

end Search

/-! ## The steps of the sort, for a comparison whose faults `E` allows -/

section Steps

variable {E : ε → Prop} {lt : Less ε} (cmp : ∀ i j, FaultsIn E (lt i j))
include cmp

theorem runFrom_faults (a : Array Nat) (descending : Bool) (i hi : Nat) :
    FaultsIn E (runFrom lt a descending i hi) := by
  fun_induction runFrom lt a descending i hi with
  | case1 i inside next =>
    simp only [faultsIn_bind, cmp, true_and]
    intro b _
    split
    · simpa using next
    · simp
  | case2 i outside => simp

theorem countRun_faults (a : Array Nat) (lo hi : Nat) : FaultsIn E (countRun lt a lo hi) := by
  unfold countRun
  split
  · simp
  · simp [cmp, runFrom_faults cmp]

theorem insertionSlot_faults (a : Array Nat) (pivot l r : Nat) :
    FaultsIn E (insertionSlot lt a pivot l r) := by
  fun_induction insertionSlot lt a pivot l r with
  | case1 l r inside p left right =>
    simp only [faultsIn_bind, cmp, true_and]
    intro b _
    split
    · exact left
    · exact right
  | case2 l r outside => simp

theorem binarySort_faults (a : Array Nat) (lo hi s : Nat) :
    FaultsIn E (binarySort lt a lo hi s) := by
  fun_induction binarySort lt a lo hi s with
  | case1 a s inside pivot next =>
    simp only [faultsIn_bind, insertionSlot_faults cmp, true_and]
    intro l _
    exact next l
  | case2 a s outside => simp

theorem gallopLeft_faults (key : Nat) (get : Nat → Nat) (n hint : Nat) :
    FaultsIn E (gallopLeft lt key get n hint) := by
  unfold gallopLeft
  simp only [faultsIn_bind, cmp, true_and]
  intro b _
  split <;> simp [cmp, leap_faults, settle_faults]

theorem gallopRight_faults (key : Nat) (get : Nat → Nat) (n hint : Nat) :
    FaultsIn E (gallopRight lt key get n hint) := by
  unfold gallopRight
  simp only [faultsIn_bind, cmp, true_and]
  intro b _
  split <;> simp [cmp, leap_faults, settle_faults]

theorem LowMerge.steps_faults (m : LowMerge) (fuel : Nat) (s : Merging) (galloping : Bool)
    (wins losses : Nat) : FaultsIn E (m.steps lt fuel s galloping wins losses) := by
  induction fuel generalizing s galloping wins losses with
  | zero => simp [LowMerge.steps]
  | succ fuel next =>
    cases galloping with
    | false =>
      simp only [LowMerge.steps, faultsIn_bind, cmp, true_and]
      intro b _
      split <;> simp [faultsIn_ite, next]
    | true =>
      simp [LowMerge.steps, faultsIn_ite, next, gallopLeft_faults cmp, gallopRight_faults cmp]

theorem HighMerge.steps_faults (m : HighMerge) (fuel : Nat) (s : Merging) (galloping : Bool)
    (wins losses : Nat) : FaultsIn E (m.steps lt fuel s galloping wins losses) := by
  induction fuel generalizing s galloping wins losses with
  | zero => simp [HighMerge.steps]
  | succ fuel next =>
    cases galloping with
    | false =>
      simp only [HighMerge.steps, faultsIn_bind, cmp, true_and]
      intro b _
      split <;> simp [faultsIn_ite, next]
    | true =>
      simp [HighMerge.steps, faultsIn_ite, next, gallopLeft_faults cmp, gallopRight_faults cmp]

theorem mergeLow_faults (cells : Array Nat) (gallop base na nb : Nat) :
    FaultsIn E (mergeLow lt cells gallop base na nb) := by
  unfold mergeLow
  simp [faultsIn_ite, LowMerge.steps_faults cmp]

theorem mergeHigh_faults (cells : Array Nat) (gallop base na nb : Nat) :
    FaultsIn E (mergeHigh lt cells gallop base na nb) := by
  unfold mergeHigh
  simp [faultsIn_ite, HighMerge.steps_faults cmp]

theorem Sorting.mergeAt_faults (s : Sorting) (i : Nat) : FaultsIn E (s.mergeAt lt i) := by
  unfold Sorting.mergeAt
  simp [faultsIn_ite, gallopLeft_faults cmp, gallopRight_faults cmp, mergeLow_faults cmp,
    mergeHigh_faults cmp]

theorem Sorting.settleBelow_faults (p fuel : Nat) (s : Sorting) :
    FaultsIn E (s.settleBelow lt p fuel) := by
  induction fuel generalizing s with
  | zero => simp [Sorting.settleBelow]
  | succ fuel next =>
    simp [Sorting.settleBelow, faultsIn_ite, Sorting.mergeAt_faults cmp, next]

theorem Sorting.foundRun_faults (n : Nat) (s : Sorting) (n2 : Nat) :
    FaultsIn E (s.foundRun lt n n2) := by
  unfold Sorting.foundRun
  simp [faultsIn_ite, Sorting.settleBelow_faults cmp]

theorem Sorting.collapse_faults (fuel : Nat) (s : Sorting) : FaultsIn E (s.collapse lt fuel) := by
  induction fuel generalizing s with
  | zero => simp [Sorting.collapse]
  | succ fuel next =>
    simp [Sorting.collapse, faultsIn_ite, Sorting.mergeAt_faults cmp, next]

theorem Sorting.scan_faults (n minrun fuel : Nat) (s : Sorting) (lo left : Nat) :
    FaultsIn E (s.scan lt n minrun fuel lo left) := by
  induction fuel generalizing s lo left with
  | zero => simp [Sorting.scan]
  | succ fuel next =>
    simp [Sorting.scan, faultsIn_ite, countRun_faults cmp, binarySort_faults cmp,
      Sorting.foundRun_faults cmp, next]

theorem sortCells_faults (cells : Array Nat) : FaultsIn E (sortCells lt cells) := by
  unfold sortCells
  simp [faultsIn_ite, Sorting.scan_faults cmp, Sorting.collapse_faults cmp]

end Steps

/-! ## Sorting lists -/

/-- Sorting pairs fails only where the comparison of two of their keys fails. -/
theorem sortPairs_faults (lt : κ → κ → Except ε Bool) (pairs : List (κ × α)) :
    FaultsIn (fun e => ∃ p ∈ pairs, ∃ q ∈ pairs, lt p.1 q.1 = .error e) (sortPairs lt pairs) := by
  unfold sortPairs
  simp only [faultsIn_bind, faultsIn_pure, implies_true, and_true]
  refine sortCells_faults (fun i j e h => ?_) _
  split at h
  · rename_i a x b y first second
    exact ⟨(a, x), List.mem_of_getElem? (by simpa using first),
      (b, y), List.mem_of_getElem? (by simpa using second), h⟩
  · simp [pure, Except.pure] at h

/-- The pairs a sort gives are pairs it was given. -/
theorem mem_of_sortPairs {lt : κ → κ → Except ε Bool} {pairs sorted : List (κ × α)}
    (h : sortPairs lt pairs = .ok sorted) : ∀ p ∈ sorted, p ∈ pairs := by
  unfold sortPairs at h
  obtain ⟨cells, -, h⟩ := bind_eq_ok.mp h
  obtain rfl := pure_eq_ok.mp h
  intro p member
  obtain ⟨i, -, found⟩ := List.mem_filterMap.mp member
  exact List.mem_of_getElem? (by simpa using found)

/-- A mapping fails only where the function fails on an item. -/
theorem mapM_faults (f : α → Except ε β) (xs : List α) :
    FaultsIn (fun e => ∃ x ∈ xs, f x = .error e) (xs.mapM f) := by
  induction xs with
  | nil => simp
  | cons x xs ih =>
    simp only [List.mapM_cons, faultsIn_bind, faultsIn_pure, implies_true, and_true]
    refine ⟨fun e h => ⟨x, .head xs, h⟩, fun _ _ => ih.mono fun e ⟨y, member, h⟩ =>
      ⟨y, .tail x member, h⟩⟩

/-- A successful mapping pairs each item with what the function gave for it. -/
theorem forall₂_of_mapM {f : α → Except ε β} {xs : List α} {ys : List β}
    (h : xs.mapM f = .ok ys) : List.Forall₂ (fun x y => f x = .ok y) xs ys := by
  induction xs generalizing ys with
  | nil => simp_all [pure, Except.pure]
  | cons x xs ih =>
    rw [List.mapM_cons] at h
    obtain ⟨y, first, h⟩ := bind_eq_ok.mp h
    obtain ⟨zs, rest, h⟩ := bind_eq_ok.mp h
    obtain rfl := pure_eq_ok.mp h
    exact .cons first (ih rest)

/-- Each result of a successful mapping is what the function gave for some item. -/
theorem mem_of_mapM {f : α → Except ε β} {xs : List α} {ys : List β}
    (h : xs.mapM f = .ok ys) : ∀ y ∈ ys, ∃ x ∈ xs, f x = .ok y := by
  have pairs := forall₂_of_mapM h
  clear h
  induction pairs with
  | nil => simp
  | @cons x y xs ys image _ ih =>
    intro z member
    rcases List.mem_cons.mp member with rfl | later
    · exact ⟨x, .head xs, image⟩
    · obtain ⟨w, inXs, image⟩ := ih z later
      exact ⟨w, .tail x inXs, image⟩

/-- Each item of a successful mapping stands beside what the function gave for it. -/
theorem mem_zip_of_mapM {f : α → Except ε β} {xs : List α} {ys : List β}
    (h : xs.mapM f = .ok ys) : ∀ p ∈ ys.zip xs, p.2 ∈ xs ∧ f p.2 = .ok p.1 := by
  rintro ⟨y, x⟩ member
  exact ⟨(List.of_mem_zip member).2, List.forall₂_zip (forall₂_of_mapM h).flip member⟩

/-- Sorting by keys fails only where a key cannot be computed, or where the comparison of the
keys of two items fails. -/
theorem sortDescendingBy_faults (key : α → Except ε κ) (lt : κ → κ → Except ε Bool)
    (xs : List α) :
    FaultsIn (fun e => (∃ x ∈ xs, key x = .error e) ∨
        ∃ x ∈ xs, ∃ y ∈ xs, ∃ kx ky, key x = .ok kx ∧ key y = .ok ky ∧ lt kx ky = .error e)
      (sortDescendingBy key lt xs) := by
  unfold sortDescendingBy
  simp only [faultsIn_bind]
  refine ⟨(mapM_faults key xs).mono fun e found => .inl found, fun keys keyed => ?_⟩
  split
  · simp
  · simp only [faultsIn_bind, faultsIn_pure, implies_true, and_true]
    refine (sortPairs_faults lt _).mono fun e ⟨p, first, q, second, h⟩ => .inr ?_
    obtain ⟨pIn, pKey⟩ := mem_zip_of_mapM keyed p (List.mem_reverse.mp first)
    obtain ⟨qIn, qKey⟩ := mem_zip_of_mapM keyed q (List.mem_reverse.mp second)
    exact ⟨p.2, pIn, q.2, qIn, p.1, q.1, pKey, qKey, h⟩

/-- The items a sort by keys gives are items it was given. -/
theorem mem_of_sortDescendingBy {key : α → Except ε κ} {lt : κ → κ → Except ε Bool}
    {xs ys : List α} (h : sortDescendingBy key lt xs = .ok ys) : ∀ y ∈ ys, y ∈ xs := by
  unfold sortDescendingBy at h
  obtain ⟨keys, keyed, h⟩ := bind_eq_ok.mp h
  split at h
  · exact pure_eq_ok.mp h ▸ fun y member => member
  · obtain ⟨pairs, sorted, h⟩ := bind_eq_ok.mp h
    obtain rfl := pure_eq_ok.mp h
    intro y member
    obtain ⟨p, inPairs, rfl⟩ := List.mem_map.mp member
    exact (mem_zip_of_mapM keyed p
      (List.mem_reverse.mp (mem_of_sortPairs sorted p (List.mem_reverse.mp inPairs)))).1

end Order

end Bookmarks
