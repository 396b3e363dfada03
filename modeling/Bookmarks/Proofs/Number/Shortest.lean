import Mathlib
import Bookmarks.Number.Shortest
import Bookmarks.Proofs.Number.Rounding
/-!
The shortest decimal of a finite positive binary64 number rounds back to it.

What `Shortest.ofFinite` returns lies in the rounding interval by construction
(`tryDigits_fits`). That it returns something needs the decade it starts from to be at or
below the number's (`decade_le`), so that at seventeen digits the step between decimals is
below the width of the interval (`tryDigits_isSome`).
-/
namespace Bookmarks.Shortest

open Binary64

theorem scale_ratio (q : Int) :
    ((2 ^ (q - 2).toNat : ℕ) : ℚ) / (2 ^ (2 - q).toNat : ℕ) = 2 ^ (q - 2) := by
  push_cast
  rcases le_total 2 q with high | low
  · rw [show (2 - q).toNat = 0 by omega, pow_zero, div_one, ← zpow_natCast,
      Int.toNat_of_nonneg (by omega)]
  · rw [show (q - 2).toNat = 0 by omega, pow_zero, ← zpow_natCast, Int.toNat_of_nonneg (by omega),
      one_div, ← zpow_neg, neg_sub]

/-- A numerator of `interval` over its denominator, in steps of `2^q`. -/
private theorem over_den (a : ℕ) (q : Int) :
    ((a * 2 ^ (q - 2).toNat : ℕ) : ℚ) / (2 ^ (2 - q).toNat : ℕ) = (a : ℚ) / 4 * 2 ^ q := by
  rw [Nat.cast_mul, mul_div_assoc, scale_ratio, zpow_sub₀ (by norm_num)]
  ring

theorem interval_den_pos (m : Nat) (q : Int) : 0 < (interval m q).2.2.2 := by
  simp only [interval]; positivity

theorem interval_value (m : Nat) (q : Int) :
    ((interval m q).1 : ℚ) / (interval m q).2.2.2 = m * 2 ^ q := by
  simp only [interval]; rw [over_den]; push_cast; ring

theorem interval_high (m : Nat) (q : Int) :
    ((interval m q).2.2.1 : ℚ) / (interval m q).2.2.2 = (m + 1 / 2) * 2 ^ q := by
  simp only [interval]; rw [over_den]; push_cast; ring

theorem interval_low {m : Nat} {q : Int} (pos : 0 < m) :
    ((interval m q).2.1 : ℚ) / (interval m q).2.2.2 = (m - lowReach m q) * 2 ^ q := by
  simp only [interval]
  rw [over_den]
  unfold lowReach
  by_cases quarter : m = Binary64.hidden ∧ -1074 < q
  · have gap : (m = Binary64.hidden && decide (q > -1074)) = true := by simp [quarter.1, quarter.2]
    rw [if_pos gap, if_pos quarter, Nat.cast_sub (by omega)]
    push_cast; ring
  · have gap : (m = Binary64.hidden && decide (q > -1074)) = false := by
      simpa [Bool.and_eq_false_iff, gt_iff_lt] using quarter
    rw [if_neg (by simp [gap]), if_neg quarter, Nat.cast_sub (by omega)]
    push_cast; ring

/-- A power of ten with an integer exponent, as a natural power or the inverse of one. -/
private theorem ten_zpow (d : Int) :
    (10 : ℚ) ^ d = if 0 ≤ d then ((10 ^ d.toNat : ℕ) : ℚ) else 1 / ((10 ^ (-d).toNat : ℕ) : ℚ) := by
  split
  · rename_i nonneg
    rw [Nat.cast_pow, ← zpow_natCast, Int.toNat_of_nonneg nonneg]; norm_num
  · rw [Nat.cast_pow, ← zpow_natCast, Int.toNat_of_nonneg (by omega), one_div, ← zpow_neg, neg_neg]
    norm_num

/-- Whether a positive rational is below a power of ten, tested in naturals as `decadeFrom`
tests it. -/
private theorem below_power_iff (value den : Nat) (hden : 0 < den) (d : Int) :
    (if d + 1 ≥ 0 then value < den * 10 ^ (d + 1).toNat
      else value * 10 ^ (-(d + 1)).toNat < den) ↔ (value : ℚ) / den < 10 ^ (d + 1) := by
  have denQ : (0 : ℚ) < den := by exact_mod_cast hden
  rw [ten_zpow, div_lt_iff₀ denQ]
  split
  · rw [← Nat.cast_mul, Nat.cast_lt, mul_comm]
  · rw [one_div_mul_eq_div, lt_div_iff₀ (by positivity), ← Nat.cast_mul, Nat.cast_lt]

/-- From a decade at or below a positive rational, the search ends at one at or below it. -/
theorem decadeFrom_le {value den : Nat} (hden : 0 < den) {d : Int}
    (start : (10 : ℚ) ^ d ≤ (value : ℚ) / den) (fuel : Nat) :
    (10 : ℚ) ^ decadeFrom value den d fuel ≤ (value : ℚ) / den := by
  induction fuel generalizing d with
  | zero => exact start
  | succ fuel ih =>
    have test := below_power_iff value den hden d
    by_cases nonneg : d + 1 ≥ 0
    · rw [if_pos nonneg] at test
      simp only [decadeFrom, nonneg, if_true]
      split
      · exact start
      · rename_i above
        exact ih (not_lt.mp (test.not.mp above))
    · rw [if_neg nonneg] at test
      simp only [decadeFrom, nonneg, if_false]
      split
      · exact start
      · rename_i above
        exact ih (not_lt.mp (test.not.mp above))

/-- A power of ten below a power of two, from `1000 ≤ 1024`. -/
private theorem ten_pow_le_two_pow (k : Nat) : 10 ^ k ≤ 2 ^ ((10 * k + 2) / 3) := by
  apply (Nat.pow_le_pow_iff_left (by norm_num : 3 ≠ 0)).mp
  calc (10 ^ k) ^ 3 = 1000 ^ k := by rw [← pow_mul, mul_comm, pow_mul]; norm_num
    _ ≤ 1024 ^ k := Nat.pow_le_pow_left (by norm_num) _
    _ = 2 ^ (10 * k) := by rw [pow_mul]; norm_num
    _ ≤ 2 ^ (3 * ((10 * k + 2) / 3)) := Nat.pow_le_pow_right (by norm_num) (by omega)
    _ = (2 ^ ((10 * k + 2) / 3)) ^ 3 := by rw [← pow_mul, mul_comm]

/-- A power of two below a power of ten, from `2^93 ≤ 10^28`. -/
theorem two_pow_le_ten_pow (j : Nat) : 2 ^ (93 * j / 28) ≤ 10 ^ j := by
  apply (Nat.pow_le_pow_iff_left (by norm_num : 28 ≠ 0)).mp
  calc (2 ^ (93 * j / 28)) ^ 28 = 2 ^ (28 * (93 * j / 28)) := by rw [← pow_mul, mul_comm]
    _ ≤ 2 ^ (93 * j) := Nat.pow_le_pow_right (by norm_num) (by omega)
    _ = (2 ^ 93) ^ j := by rw [pow_mul]
    _ ≤ (10 ^ 28) ^ j := Nat.pow_le_pow_left (by norm_num) _
    _ = (10 ^ j) ^ 28 := by rw [← pow_mul, ← pow_mul, mul_comm]

/-- The estimate `decade` starts from, two below `b * log10 2` with `log10 2` rounded up,
lies below `2^(b - 1)` over the whole range of binary exponents. -/
theorem decade_estimate_le (b : Int) (low : -1080 ≤ b) (high : b ≤ 1030) :
    (10 : ℚ) ^ (b * 30103 / 100000 - 2) ≤ 2 ^ (b - 1) := by
  set k := b * 30103 / 100000 - 2 with k_def
  rcases le_or_gt 0 k with nonneg | negative
  · have exponent : (10 * k + 2) / 3 ≤ b - 1 := by omega
    calc (10 : ℚ) ^ k = ((10 ^ k.toNat : ℕ) : ℚ) := by
          rw [Nat.cast_pow, ← zpow_natCast, Int.toNat_of_nonneg nonneg]; norm_num
      _ ≤ ((2 ^ ((10 * k.toNat + 2) / 3) : ℕ) : ℚ) := by exact_mod_cast ten_pow_le_two_pow k.toNat
      _ = 2 ^ ((10 * k + 2) / 3) := by
          rw [Nat.cast_pow, ← zpow_natCast]; norm_num; congr 1; omega
      _ ≤ 2 ^ (b - 1) := zpow_le_zpow_right₀ (by norm_num) exponent
  · rcases le_or_gt 1 b with positive | nonpositive
    · calc (10 : ℚ) ^ k ≤ 1 := zpow_le_one_of_nonpos₀ (by norm_num) negative.le
        _ ≤ 2 ^ (b - 1) := one_le_zpow₀ (by norm_num) (by omega)
    · have exponent : 1 - b ≤ 93 * (-k) / 28 := by omega
      have nat := two_pow_le_ten_pow (-k).toNat
      have twoQ : (2 : ℚ) ^ (1 - b) ≤ (10 : ℚ) ^ (-k) := by
        calc (2 : ℚ) ^ (1 - b) ≤ 2 ^ (93 * (-k) / 28) := zpow_le_zpow_right₀ (by norm_num) exponent
          _ = ((2 ^ (93 * (-k).toNat / 28) : ℕ) : ℚ) := by
              rw [Nat.cast_pow, ← zpow_natCast]; norm_num; congr 1; omega
          _ ≤ ((10 ^ (-k).toNat : ℕ) : ℚ) := by exact_mod_cast nat
          _ = (10 : ℚ) ^ (-k) := by
              rw [Nat.cast_pow, ← zpow_natCast, Int.toNat_of_nonneg (by omega)]; norm_num
      rw [zpow_neg, show (1 : ℤ) - b = -(b - 1) by ring, zpow_neg] at twoQ
      exact (inv_le_inv₀ (by positivity) (by positivity)).mp twoQ

/-- A decimal candidate lies in the interval from `low / den` to `high / den`, its ends included
when `inclusive`. -/
def Fits (low high den : ℕ) (inclusive : Bool) (x : ℚ) : Prop :=
  if inclusive then (low : ℚ) / den ≤ x ∧ x ≤ high / den else (low : ℚ) / den < x ∧ x < high / den

/-- The test of `tryDigits` on a candidate `k * 10^e`, made over a common denominator, is
`Fits`. -/
theorem inside_iff (low high den k : ℕ) (hden : 0 < den) (inclusive : Bool) (e : ℤ) :
    ((if inclusive then
        decide (low * (if e < 0 then 10 ^ (-e).toNat else 1) ≤
            k * (if e ≥ 0 then 10 ^ e.toNat else 1) * den) &&
          decide (k * (if e ≥ 0 then 10 ^ e.toNat else 1) * den ≤
            high * (if e < 0 then 10 ^ (-e).toNat else 1))
      else
        decide (low * (if e < 0 then 10 ^ (-e).toNat else 1) <
            k * (if e ≥ 0 then 10 ^ e.toNat else 1) * den) &&
          decide (k * (if e ≥ 0 then 10 ^ e.toNat else 1) * den <
            high * (if e < 0 then 10 ^ (-e).toNat else 1))) = true) ↔
      Fits low high den inclusive (k * 10 ^ e) := by
  have denQ : (0 : ℚ) < den := by exact_mod_cast hden
  -- `k * 10^e` is `k * grid / up`, whichever sign `e` has
  obtain ⟨grid, up, upPos, ratio, gridEq, upEq⟩ : ∃ grid up : ℕ, 0 < up ∧
      (k : ℚ) * 10 ^ e = (k * grid : ℕ) / up ∧
      (if e ≥ 0 then 10 ^ e.toNat else 1) = grid ∧ (if e < 0 then 10 ^ (-e).toNat else 1) = up := by
    by_cases nonneg : 0 ≤ e
    · refine ⟨10 ^ e.toNat, 1, by norm_num, ?_, by simp [nonneg], by simp [not_lt.mpr nonneg]⟩
      push_cast
      rw [← zpow_natCast, Int.toNat_of_nonneg nonneg]; simp
    · refine ⟨1, 10 ^ (-e).toNat, by positivity, ?_, by simp [nonneg], by simp [lt_of_not_ge nonneg]⟩
      push_cast
      rw [← zpow_natCast, Int.toNat_of_nonneg (by omega), zpow_neg, div_eq_mul_inv]; simp
  have upQ : (0 : ℚ) < up := by exact_mod_cast upPos
  rw [gridEq, upEq, ratio]
  unfold Fits
  cases inclusive
  · simp only [Bool.false_eq_true, if_false, Bool.and_eq_true, decide_eq_true_eq]
    rw [div_lt_div_iff₀ denQ upQ, div_lt_div_iff₀ upQ denQ]
    norm_cast
  · simp only [if_true, Bool.and_eq_true, decide_eq_true_eq]
    rw [div_le_div_iff₀ denQ upQ, div_le_div_iff₀ upQ denQ]
    norm_cast

/-- What `tryDigits` gives is a candidate `k * 10^e` that fits the interval. -/
theorem tryDigits_fits {value low high den : ℕ} (hden : 0 < den) {inclusive : Bool} {d : ℤ}
    {n : ℕ} {r : Decimal} (h : tryDigits value low high den inclusive d n = some r) :
    ∃ k, r = ofScaled k (d - n + 1) ∧ Fits low high den inclusive (k * 10 ^ (d - n + 1)) := by
  unfold tryDigits at h
  extract_lets e up grid v lo hi kDown kUp inside at h
  have fits : ∀ k, inside k = true → Fits low high den inclusive (k * 10 ^ (d - n + 1)) := by
    intro k test
    exact (inside_iff low high den k hden inclusive (d - n + 1)).mp test
  split at h
  · rename_i downFits upFits
    split_ifs at h
    · exact ⟨_, (Option.some.inj h).symm, fits _ downFits⟩
    · exact ⟨_, (Option.some.inj h).symm, fits _ upFits⟩
    · exact ⟨_, (Option.some.inj h).symm, fits _ downFits⟩
    · exact ⟨_, (Option.some.inj h).symm, fits _ upFits⟩
  · rename_i downFits _
    exact ⟨_, (Option.some.inj h).symm, fits _ downFits⟩
  · rename_i _ upFits
    exact ⟨_, (Option.some.inj h).symm, fits _ upFits⟩
  · cases h

/-- Of the multiples of `G` just below and just above `v`, one lies strictly between `lo` and
`hi` when `v` does and the gap between them is wider than `G`. -/
private theorem straddle {G v lo hi kDown kUp : ℕ} (hG : 0 < G) (split : G * kDown + v % G = v)
    (up : kUp = if v % G = 0 then kDown else kDown + 1) (inner : lo < v ∧ v < hi)
    (fine : G < hi - lo) :
    (lo < kDown * G ∧ kDown * G < hi) ∨ (lo < kUp * G ∧ kUp * G < hi) := by
  have rem := Nat.mod_lt v hG
  rw [Nat.mul_comm] at split
  split at up <;> subst up
  · omega
  · rw [Nat.add_mul]; omega

/-- `tryDigits` finds a candidate once its step `10^e` is below the width of the interval
around the value. -/
theorem tryDigits_isSome {value low high den : ℕ} (hden : 0 < den) (inclusive : Bool) (d : ℤ)
    (n : ℕ) (inner : low < value ∧ value < high)
    (fine : (10 : ℚ) ^ (d - n + 1) < ((high : ℚ) - low) / den) :
    (tryDigits value low high den inclusive d n).isSome := by
  unfold tryDigits
  extract_lets e up grid v lo hi kDown kUp inside
  have upPos : 0 < up := by simp only [up]; split <;> positivity
  have gridPos : 0 < grid := by simp only [grid]; split <;> positivity
  have gridQ : (grid : ℚ) = 10 ^ e * up := by
    simp only [grid, up]
    by_cases nonneg : 0 ≤ e
    · simp [nonneg, not_lt.mpr nonneg, ← zpow_natCast, Int.toNat_of_nonneg nonneg]
    · simp only [ge_iff_le, nonneg, if_false, lt_of_not_ge nonneg, if_true, Nat.cast_one,
        Nat.cast_pow, Nat.cast_ofNat]
      rw [← zpow_natCast, Int.toNat_of_nonneg (by omega), ← zpow_add₀ (by norm_num)]
      simp
  have innerNat : lo < v ∧ v < hi :=
    ⟨Nat.mul_lt_mul_of_pos_right inner.1 upPos, Nat.mul_lt_mul_of_pos_right inner.2 upPos⟩
  have fineNat : grid * den < hi - lo := by
    have denQ : (0 : ℚ) < den := by exact_mod_cast hden
    have upQ : (0 : ℚ) < up := by exact_mod_cast upPos
    rw [lt_div_iff₀ denQ] at fine
    have : ((grid * den : ℕ) : ℚ) < ((high * up - low * up : ℕ) : ℚ) := by
      rw [Nat.cast_sub (Nat.mul_le_mul_right up (inner.1.trans inner.2).le)]
      push_cast
      rw [gridQ]
      nlinarith
    exact_mod_cast this
  have either : inside kDown = true ∨ inside kUp = true := by
    have fits : ∀ k, lo < k * (grid * den) ∧ k * (grid * den) < hi → inside k = true := by
      intro k ⟨above, below⟩
      simp only [inside, Nat.mul_assoc]
      cases inclusive
      · simpa using ⟨above, below⟩
      · simpa using ⟨above.le, below.le⟩
    rcases straddle (Nat.mul_pos gridPos hden)
      (show grid * den * kDown + v % (grid * den) = v from Nat.div_add_mod v (grid * den)) rfl
      innerNat fineNat with down | up
    · exact .inl (fits kDown down)
    · exact .inr (fits kUp up)
  split
  · split_ifs <;> rfl
  · rfl
  · rfl
  · rename_i downOut upOut
    rcases either with fits | fits <;> simp_all

/-- The search returns what `tryDigits` gives at some digit count in its range, once one count
of that range gives something. -/
theorem searchFrom_found {value low high den : ℕ} {inclusive : Bool} {d : ℤ} (n fuel target : ℕ)
    (start : n ≤ target) (within : target < n + fuel)
    (found : (tryDigits value low high den inclusive d target).isSome) :
    ∃ count, tryDigits value low high den inclusive d count =
      some (searchFrom value low high den inclusive d n fuel) := by
  induction fuel generalizing n with
  | zero => omega
  | succ fuel ih =>
    unfold searchFrom
    split
    · rename_i r hr
      exact ⟨n, hr⟩
    · rename_i none_here
      rcases Nat.eq_or_lt_of_le start with same | later
      · subst same; rw [none_here] at found; cases found
      · exact ih (n + 1) (by omega) (by omega)

/-- The decade `decade` finds for a rational in the range of binary64 numbers is at or below
its true decade. -/
theorem decade_le {value den : ℕ} (hvalue : 0 < value) (hden : 0 < den)
    (low : (2 : ℚ) ^ (-1074 : ℤ) ≤ value / den) (high : (value : ℚ) / den < 2 ^ (1024 : ℤ)) :
    (10 : ℚ) ^ decade value den ≤ value / den := by
  obtain ⟨below, above⟩ := Binary64.ratio_between_powers hvalue hden
  have two : (1 : ℚ) < 2 := by norm_num
  have bLow := (zpow_lt_zpow_iff_right₀ two).mp (lt_of_le_of_lt low above)
  have bHigh := (zpow_lt_zpow_iff_right₀ two).mp (lt_trans below high)
  unfold decade
  apply decadeFrom_le hden
  calc (10 : ℚ) ^ (((value.log2 : ℤ) - den.log2) * 30103 / 100000 - 2)
      ≤ 2 ^ ((value.log2 : ℤ) - den.log2 - 1) := decade_estimate_le _ (by omega) (by omega)
    _ ≤ value / den := below.le

/-- The shortest decimal of a finite positive number is a candidate `k * 10^e` that rounds to
it. -/
theorem ofFinite_rounds {m : ℕ} {q : ℤ} (parts : Normalized m q) :
    ∃ k : ℕ, ∃ e : ℤ, ofFinite m q = ofScaled k e ∧ RoundsTo m q (k * 10 ^ e) := by
  obtain ⟨mPos, mBelow, qLow, qHigh, -⟩ := parts
  have denPos := interval_den_pos m q
  have valueQ := interval_value m q
  have lowQ : _ = (m - lowReach m q) * 2 ^ q := interval_low mPos
  have highQ := interval_high m q
  have step : (0 : ℚ) < 2 ^ q := zpow_pos (by norm_num) q
  have mQ : (1 : ℚ) ≤ m := by exact_mod_cast mPos
  have mBelowQ : (m : ℚ) + 1 ≤ 2 ^ 53 := by
    exact_mod_cast (show m + 1 ≤ 2 ^ 53 by rw [hidden_eq] at mBelow; omega)
  have reach : lowReach m q = 1 / 2 ∨ (lowReach m q = 1 / 4 ∧ m = Binary64.hidden) := by
    unfold lowReach; split
    · rename_i quarter; exact .inr ⟨rfl, quarter.1⟩
    · exact .inl rfl
  unfold ofFinite
  rcases interval_eq : interval m q with ⟨value, low, high, den⟩
  rw [interval_eq] at denPos valueQ lowQ highQ
  dsimp only at denPos valueQ lowQ highQ ⊢
  have denQ : (0 : ℚ) < den := by exact_mod_cast denPos
  -- the value lies strictly inside its interval, in naturals over the common denominator
  have inner : low < value ∧ value < high := by
    constructor
    · have : (low : ℚ) / den < value / den := by
        rw [lowQ, valueQ]; rcases reach with r | ⟨r, -⟩ <;> rw [r] <;> nlinarith
      exact_mod_cast (div_lt_div_iff_of_pos_right denQ).mp this
    · have : (value : ℚ) / den < high / den := by rw [highQ, valueQ]; nlinarith
      exact_mod_cast (div_lt_div_iff_of_pos_right denQ).mp this
  have valuePos : 0 < value := by omega
  -- the value is a binary64 number, so its decade estimate is at or below its decade
  have range_low : (2 : ℚ) ^ (-1074 : ℤ) ≤ value / den := by
    rw [valueQ]
    calc (2 : ℚ) ^ (-1074 : ℤ) ≤ 2 ^ q := zpow_le_zpow_right₀ (by norm_num) qLow
      _ ≤ m * 2 ^ q := by nlinarith
  have range_high : (value : ℚ) / den < 2 ^ (1024 : ℤ) := by
    rw [valueQ]
    calc (m : ℚ) * 2 ^ q < 2 ^ 53 * 2 ^ q := by gcongr; linarith
      _ ≤ 2 ^ 53 * 2 ^ (971 : ℤ) := by gcongr; norm_num
      _ = 2 ^ (1024 : ℤ) := by
        rw [show (2 : ℚ) ^ 53 = 2 ^ (53 : ℤ) by norm_num, ← zpow_add₀ (by norm_num)]; norm_num
  have decadeLe := decade_le valuePos denPos range_low range_high
  -- with seventeen digits the step is finer than the interval is wide
  have fine : (10 : ℚ) ^ (decade value den - (17 : ℕ) + 1) < ((high : ℚ) - low) / den := by
    rw [sub_div, highQ, lowQ]
    have shift : (10 : ℚ) ^ (decade value den - (17 : ℕ) + 1) =
        (10 : ℚ) ^ decade value den / 10 ^ 16 := by
      rw [show decade value den - ((17 : ℕ) : ℤ) + 1 = decade value den - 16 by push_cast; ring,
        zpow_sub₀ (by norm_num)]
      norm_num
    rw [shift, div_lt_iff₀ (by norm_num)]
    calc (10 : ℚ) ^ decade value den ≤ m * 2 ^ q := valueQ ▸ decadeLe
      _ < ((m + 1 / 2) * 2 ^ q - (m - lowReach m q) * 2 ^ q) * 10 ^ 16 := by
        rcases reach with r | ⟨r, same⟩
        · rw [r]; nlinarith
        · rw [r]
          have : (m : ℚ) = 2 ^ 52 := by rw [same, hidden_eq]; norm_num
          rw [this]; nlinarith
  obtain ⟨count, found⟩ := searchFrom_found 1 17 17 (by omega) (by omega)
    (tryDigits_isSome denPos (decide (m % 2 = 0)) (decade value den) 17 inner fine)
  obtain ⟨k, result, fits⟩ := tryDigits_fits denPos found
  refine ⟨k, decade value den - count + 1, result, ?_⟩
  unfold Fits at fits
  rw [lowQ, highQ] at fits
  by_cases even : m % 2 = 0
  · simp only [even, decide_true, if_true] at fits
    exact ⟨fits.1, fits.2, fun _ => even⟩
  · simp only [even, decide_false, Bool.false_eq_true, if_false] at fits
    refine ⟨fits.1.le, fits.2.le, ?_⟩
    rintro (tie | tie) <;> linarith [fits.1, fits.2]

end Bookmarks.Shortest
