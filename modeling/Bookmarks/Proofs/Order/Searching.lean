import Bookmarks.Proofs.Order.Cells
import Bookmarks.Proofs.Order.Faults
/-!
What the searches of the sort find.

Every search of the sort looks for the place where a test that holds up to some index stops
holding (`Falling`), by halving (`settle`, `insertionSlot`) or by doubling steps first
(`leap`), and returns it (`Splits`).
-/
namespace Bookmarks.Order

variable {ε : Type}

/-- The test holds up to some index of the range and fails after it. -/
def Falling (P : Nat → Bool) (lo hi : Nat) : Prop :=
  ∀ i j, lo ≤ i → i ≤ j → j < hi → P j = true → P i = true

/-- `r` is where `P` stops holding among the indices from `lo` up to `hi`. -/
structure Splits (P : Nat → Bool) (lo hi r : Nat) : Prop where
  low : lo ≤ r
  high : r ≤ hi
  holds : ∀ i, lo ≤ i → i < r → P i = true
  fails : ∀ i, r ≤ i → i < hi → P i = false

variable {P : Nat → Bool}

theorem Falling.mono {lo hi lo' hi' : Nat} (falling : Falling P lo hi) (low : lo ≤ lo')
    (high : hi' ≤ hi) : Falling P lo' hi' :=
  fun i j first le last held => falling i j (by omega) le (by omega) held

/-- Where the test fails, it fails from there on. -/
theorem Falling.fails_after {lo hi i j : Nat} (falling : Falling P lo hi) (first : lo ≤ i)
    (le : i ≤ j) (last : j < hi) (failed : P i = false) : P j = false := by
  cases held : P j with
  | false => rfl
  | true => simp [falling i j first le last held] at failed

/-- A split of a smaller range is one of the whole range, when the test holds below it and
fails above it. -/
theorem Splits.widen {lo hi lo' hi' r : Nat} (split : Splits P lo' hi' r) (low : lo ≤ lo')
    (high : hi' ≤ hi) (below : ∀ i, lo ≤ i → i < lo' → P i = true)
    (above : ∀ i, hi' ≤ i → i < hi → P i = false) : Splits P lo hi r where
  low := by have := split.low; omega
  high := by have := split.high; omega
  holds i first inside := by
    by_cases early : i < lo'
    · exact below i first early
    · exact split.holds i (by omega) inside
  fails i after inside := by
    by_cases late : hi' ≤ i
    · exact above i late inside
    · exact split.fails i after (by omega)

theorem splits_empty {lo : Nat} : Splits P lo lo lo :=
  ⟨Nat.le_refl lo, Nat.le_refl lo, fun i low high => absurd high (by omega),
    fun i low high => absurd high (by omega)⟩

/-! ## Halving -/

/-- Halving finds where the test stops holding. -/
theorem settle_splits {before : Nat → Except ε Bool} {lo hi r : Nat}
    (decides : ∀ i, lo ≤ i → i < hi → before i = .ok (P i))
    (falling : Falling P lo hi) (ordered : lo ≤ hi) (found : settle before lo hi = .ok r) :
    Splits P lo hi r := by
  fun_induction settle before lo hi with
  | case1 lo hi inside m up down =>
    obtain ⟨b, tested, rest⟩ := bind_eq_ok.mp found
    rw [decides m (by omega) (by omega), Except.ok.injEq] at tested
    subst tested
    cases passes : P m with
    | true =>
      -- the middle passes, and so does every index before it
      simp only [passes, if_true] at rest
      exact (up (fun i low high => decides i (by omega) high) (falling.mono (by omega)
        (Nat.le_refl hi)) (by omega) rest).widen (by omega) (Nat.le_refl hi)
        (fun i low high => falling i m low (by omega) (by omega) passes)
        (fun i high inside => absurd high (by omega))
    | false =>
      -- the middle fails, and so does every index after it
      simp only [passes, Bool.false_eq_true, if_false] at rest
      exact (down (fun i low high => decides i low (by omega)) (falling.mono (Nat.le_refl lo)
        (by omega)) (by omega) rest).widen (Nat.le_refl lo) (by omega)
        (fun i low high => absurd high (by omega))
        (fun i high inside => falling.fails_after (by omega) high inside passes)
  | case2 lo hi outside =>
    obtain rfl : hi = r := pure_eq_ok.mp found
    obtain rfl : lo = hi := by omega
    exact splits_empty

/-- Halving for the slot of `pivot` among sorted cells finds where the cells stop being not
greater than the pivot. -/
theorem insertionSlot_splits {lt : Less ε} {a : Array Nat} {pivot l r s : Nat}
    (decides : ∀ i, l ≤ i → i < r → lt pivot (cell a i) = .ok (!P i))
    (falling : Falling P l r) (ordered : l ≤ r)
    (found : insertionSlot lt a pivot l r = .ok s) : Splits P l r s := by
  fun_induction insertionSlot lt a pivot l r with
  | case1 l r inside p left right =>
    obtain ⟨b, tested, rest⟩ := bind_eq_ok.mp found
    rw [decides p (by omega) (by omega), Except.ok.injEq] at tested
    subst tested
    cases passes : P p with
    | false =>
      -- the pivot goes before the middle cell, and before every cell after it
      simp only [passes, Bool.not_false, if_true] at rest
      exact (left (fun i low high => decides i low (by omega)) (falling.mono (Nat.le_refl l)
        (by omega)) (by omega) rest).widen (Nat.le_refl l) (by omega)
        (fun i low high => absurd high (by omega))
        (fun i high inside => falling.fails_after (by omega) high inside passes)
    | true =>
      -- the pivot goes after the middle cell, and after every cell before it
      simp only [passes, Bool.not_true, Bool.false_eq_true, if_false] at rest
      exact (right (fun i low high => decides i (by omega) high) (falling.mono (by omega)
        (Nat.le_refl r)) (by omega) rest).widen (by omega) (Nat.le_refl r)
        (fun i low high => falling i p low (by omega) (by omega) passes)
        (fun i high inside => absurd high (by omega))
  | case2 l r outside =>
    obtain rfl : l = s := pure_eq_ok.mp found
    obtain rfl : l = r := by omega
    exact splits_empty

/-! ## Galloping -/

/-- Doubling steps from an offset where the test holds end at an offset where it holds and the
next one tried, where it fails or the range ends. -/
theorem leap_bounds {onward : Nat → Except ε Bool} {Q : Nat → Bool}
    {maxofs lastofs ofs last next : Nat}
    (decides : ∀ o, o < maxofs → onward o = .ok (Q o))
    (start : Q lastofs = true) (below : lastofs < ofs) (room : lastofs < maxofs)
    (found : leap onward maxofs lastofs ofs = .ok (last, next)) :
    Q last = true ∧ last < next ∧ next ≤ maxofs ∧ (next < maxofs → Q next = false) := by
  fun_induction leap onward maxofs lastofs ofs with
  | case1 lastofs ofs inside further =>
    obtain ⟨b, tested, rest⟩ := bind_eq_ok.mp found
    rw [decides ofs inside, Except.ok.injEq] at tested
    subst tested
    cases passes : Q ofs with
    | true =>
      simp only [passes, if_true] at rest
      exact further passes (by omega) inside rest
    | false =>
      simp only [passes, Bool.false_eq_true, if_false, pure_eq_ok, Prod.mk.injEq] at rest
      obtain ⟨rfl, rfl⟩ := rest
      exact ⟨start, below, Nat.le_of_lt inside, fun _ => passes⟩
  | case2 lastofs ofs outside =>
    simp only [pure_eq_ok, Prod.mk.injEq] at found
    obtain ⟨rfl, rfl⟩ := found
    exact ⟨start, room, Nat.le_refl _, fun h => absurd h (Nat.lt_irrefl _)⟩

section Gallop

variable {before : Nat → Except ε Bool} {n hint r : Nat}
  (decides : ∀ i, i < n → before i = .ok (P i)) (falling : Falling P 0 n)
include decides falling

/-- A gallop up from a hint where the test holds finds where it stops holding. -/
theorem gallopUp_splits {up : Nat → Except ε Bool} {last ofs : Nat}
    (upward : ∀ o, o < n - hint → up o = .ok (P (hint + o)))
    (inside : hint < n) (passes : P hint = true)
    (leapt : leap up (n - hint) 0 1 = .ok (last, ofs))
    (found : settle before (hint + last + 1) (hint + ofs) = .ok r) : Splits P 0 n r := by
  obtain ⟨held, stepped, bounded, stopped⟩ :=
    leap_bounds (Q := fun o => P (hint + o)) upward (by simpa using passes) (by omega)
      (by omega) leapt
  refine (settle_splits (fun i low high => decides i (by omega)) (falling.mono (by omega)
    (by omega)) (by omega) found).widen (by omega) (by omega)
    (fun i _ high => falling i (hint + last) (by omega) (by omega) (by omega) held)
    (fun i high inside => ?_)
  -- the offset where the doubling stopped fails, and so does everything after it
  exact falling.fails_after (by omega) high inside (stopped (by omega))

/-- A gallop down from a hint where the test fails finds where it stops holding. -/
theorem gallopDown_splits {down : Nat → Except ε Bool} {last ofs : Nat}
    (downward : ∀ o, o < hint + 1 → down o = .ok (!P (hint - o)))
    (inside : hint < n) (failsAt : P hint = false)
    (leapt : leap down (hint + 1) 0 1 = .ok (last, ofs))
    (found : settle before (hint + 1 - ofs) (hint - last) = .ok r) : Splits P 0 n r := by
  obtain ⟨held, stepped, bounded, stopped⟩ :=
    leap_bounds (Q := fun o => !P (hint - o)) downward (by simpa using failsAt) (by omega)
      (by omega) leapt
  refine (settle_splits (fun i low high => decides i (by omega)) (falling.mono (by omega)
    (by omega)) (by omega) found).widen (by omega) (by omega) (fun i _ high => ?_)
    (fun i high inside => falling.fails_after (by omega) high inside (by simpa using held))
  -- the offset where the doubling stopped passes, and so does everything before it
  by_cases whole : ofs < hint + 1
  · exact falling i (hint - ofs) (by omega) (by omega) (by omega)
      (by simpa using stopped whole)
  · omega

end Gallop

/-- Galloping for the place of `key` among sorted cells, before every cell that is not less
than it, finds where the cells stop being less than the key. -/
theorem gallopLeft_splits {lt : Less ε} {key : Nat} {get : Nat → Nat} {n hint r : Nat}
    (decides : ∀ i, i < n → lt (get i) key = .ok (P i)) (falling : Falling P 0 n)
    (inside : hint < n) (found : gallopLeft lt key get n hint = .ok r) : Splits P 0 n r := by
  unfold gallopLeft at found
  obtain ⟨b, tested, rest⟩ := bind_eq_ok.mp found
  replace tested : lt (get hint) key = .ok b := tested
  rw [decides hint inside, Except.ok.injEq] at tested
  subst tested
  cases passes : P hint with
  | true =>
    simp only [passes, if_true] at rest
    obtain ⟨⟨last, ofs⟩, leapt, settled⟩ := bind_eq_ok.mp rest
    exact gallopUp_splits decides falling (fun o short => decides (hint + o) (by omega))
      inside passes leapt settled
  | false =>
    simp only [passes, Bool.false_eq_true, if_false] at rest
    obtain ⟨⟨last, ofs⟩, leapt, settled⟩ := bind_eq_ok.mp rest
    refine gallopDown_splits decides falling (fun o short => ?_) inside passes leapt settled
    simp [decides (hint - o) (by omega), bind, Except.bind, pure, Except.pure]

/-- Galloping for the place of `key` among sorted cells, after every cell it is not less than,
finds where the cells stop being not greater than the key. -/
theorem gallopRight_splits {lt : Less ε} {key : Nat} {get : Nat → Nat} {n hint r : Nat}
    (decides : ∀ i, i < n → lt key (get i) = .ok (!P i)) (falling : Falling P 0 n)
    (inside : hint < n) (found : gallopRight lt key get n hint = .ok r) : Splits P 0 n r := by
  have negated : ∀ i, i < n → (do return !(← lt key (get i)) : Except ε Bool) = .ok (P i) := by
    intro i short
    simp [decides i short, bind, Except.bind, pure, Except.pure]
  unfold gallopRight at found
  obtain ⟨b, tested, rest⟩ := bind_eq_ok.mp found
  replace tested : lt key (get hint) = .ok b := tested
  rw [decides hint inside, Except.ok.injEq] at tested
  subst tested
  cases passes : P hint with
  | false =>
    simp only [passes, Bool.not_false, if_true] at rest
    obtain ⟨⟨last, ofs⟩, leapt, settled⟩ := bind_eq_ok.mp rest
    exact gallopDown_splits negated falling (fun o short => decides (hint - o) (by omega))
      inside passes leapt settled
  | true =>
    simp only [passes, Bool.not_true, Bool.false_eq_true, if_false] at rest
    obtain ⟨⟨last, ofs⟩, leapt, settled⟩ := bind_eq_ok.mp rest
    exact gallopUp_splits negated falling (fun o short => negated (hint + o) (by omega))
      inside passes leapt settled

end Bookmarks.Order
