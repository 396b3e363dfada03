import Mathlib
import Bookmarks.Number.Binary64
/-!
Correct rounding of `ofPositive`: a positive rational in the rounding interval of a finite
binary64 number is read as exactly that number. The interval reaches half a step of `2^q` to
either side of `m * 2^q` (a quarter step below when the number below has the next smaller
exponent) and holds its ends when `m` is even. The argument follows `ofPositive`:
`exponentFor` finds the clamped binary exponent, the quotient is within half a step of `m`,
and `roundHalfEven` gives `m`; just below a power of two the mantissa rounds up to `2^53`,
which carries.
-/
namespace Bookmarks.Binary64


/-- The ratio a pair of `scaled` stands for. -/
theorem scaled_ratio (num den : Nat) (e : Int) :
    ((scaled num den e).1 : ℚ) / (scaled num den e).2 = (num : ℚ) / den / 2 ^ e := by
  unfold scaled
  split
  · rename_i nonneg
    have : ((2 : ℚ) ^ e) = 2 ^ e.toNat := by
      rw [← zpow_natCast, Int.toNat_of_nonneg nonneg]
    simp [this, div_div]
  · rename_i neg
    have : ((2 : ℚ) ^ e) = ((2 : ℚ) ^ (-e).toNat)⁻¹ := by
      rw [← zpow_natCast, Int.toNat_of_nonneg (by omega), zpow_neg, inv_inv]
    rw [this]
    push_cast
    field_simp

theorem scaled_den_pos {den : Nat} (hden : 0 < den) (num : Nat) (e : Int) :
    0 < (scaled num den e).2 := by
  unfold scaled
  split <;> positivity

/-- A positive natural lies between the powers of two around its binary logarithm. -/
private theorem log2_bounds {n : Nat} (hn : 0 < n) :
    (2 : ℚ) ^ (n.log2 : ℤ) ≤ n ∧ (n : ℚ) < 2 ^ ((n.log2 : ℤ) + 1) := by
  constructor
  · rw [zpow_natCast]
    exact_mod_cast Nat.log2_self_le (by omega)
  · rw [show (n.log2 : ℤ) + 1 = ((n.log2 + 1 : ℕ) : ℤ) by push_cast; ring, zpow_natCast]
    exact_mod_cast Nat.lt_log2_self

/-- A ratio of positive naturals lies strictly within a factor two of the power of two that the
difference of their binary logarithms names. -/
theorem ratio_between_powers {num den : Nat} (hnum : 0 < num) (hden : 0 < den) :
    (2 : ℚ) ^ ((num.log2 : ℤ) - den.log2 - 1) < num / den ∧
      (num : ℚ) / den < 2 ^ ((num.log2 : ℤ) - den.log2 + 1) := by
  obtain ⟨numLow, numHigh⟩ := log2_bounds hnum
  obtain ⟨denLow, denHigh⟩ := log2_bounds hden
  have denPos : (0 : ℚ) < den := by exact_mod_cast hden
  constructor
  · rw [lt_div_iff₀ denPos, show (num.log2 : ℤ) - den.log2 - 1 = num.log2 - (den.log2 + 1) by ring,
      zpow_sub₀ (by norm_num)]
    calc (2 : ℚ) ^ (num.log2 : ℤ) / 2 ^ ((den.log2 : ℤ) + 1) * den
        < 2 ^ (num.log2 : ℤ) / 2 ^ ((den.log2 : ℤ) + 1) * 2 ^ ((den.log2 : ℤ) + 1) := by gcongr
      _ = 2 ^ (num.log2 : ℤ) := by field_simp
      _ ≤ num := numLow
  · rw [div_lt_iff₀ denPos, show (num.log2 : ℤ) - den.log2 + 1 = num.log2 + 1 - den.log2 by ring,
      zpow_sub₀ (by norm_num)]
    calc (num : ℚ) < 2 ^ ((num.log2 : ℤ) + 1) := numHigh
      _ = 2 ^ ((num.log2 : ℤ) + 1) / 2 ^ (den.log2 : ℤ) * 2 ^ (den.log2 : ℤ) := by field_simp
      _ ≤ 2 ^ ((num.log2 : ℤ) + 1) / 2 ^ (den.log2 : ℤ) * den := by gcongr

/-- The first estimate of `exponentFor` is the exponent of the ratio or one above it. -/
private theorem first_estimate {num den : Nat} (hnum : 0 < num) (hden : 0 < den) {e : Int}
    (above : (2 : ℚ) ^ (e + 52) ≤ num / den) (below : (num : ℚ) / den < 2 ^ (e + 53)) :
    e ≤ (num.log2 : ℤ) - den.log2 - 52 ∧ (num.log2 : ℤ) - den.log2 - 52 ≤ e + 1 := by
  obtain ⟨ratioLow, ratioHigh⟩ := ratio_between_powers hnum hden
  have two : (1 : ℚ) < 2 := by norm_num
  have upper := (zpow_lt_zpow_iff_right₀ two).mp (lt_of_le_of_lt above ratioHigh)
  have lower := (zpow_lt_zpow_iff_right₀ two).mp (lt_trans ratioLow below)
  omega

/-- `exponentFor` finds the binary exponent of the ratio, clamped at the subnormal one. -/
theorem exponentFor_eq {num den : Nat} (hnum : 0 < num) (hden : 0 < den) {e : Int}
    (above : (2 : ℚ) ^ (e + 52) ≤ num / den) (below : (num : ℚ) / den < 2 ^ (e + 53)) :
    exponentFor num den = max e (-1074) := by
  obtain ⟨low, high⟩ := first_estimate hnum hden above below
  have dpos := scaled_den_pos hden num ((num.log2 : ℤ) - den.log2 - 52)
  have ratio := scaled_ratio num den ((num.log2 : ℤ) - den.log2 - 52)
  set first : Int := (num.log2 : ℤ) - den.log2 - 52 with first_def
  have two : (0 : ℚ) < 2 := by norm_num
  -- whether the scaled quotient falls below `2^52` decides the correction
  have corrected : (if (scaled num den first).1 / (scaled num den first).2 < hidden
      then first - 1 else first) = e := by
    have dq : (0 : ℚ) < (scaled num den first).2 := by exact_mod_cast dpos
    rcases (show first = e ∨ first = e + 1 by omega) with same | next
    · rw [if_neg, same]
      rw [not_lt, Nat.le_div_iff_mul_le dpos]
      have : (2 : ℚ) ^ (52 : ℤ) ≤ (scaled num den first).1 / (scaled num den first).2 := by
        rw [ratio, same, le_div_iff₀ (zpow_pos two e), ← zpow_add₀ (by norm_num)]
        simpa [add_comm] using above
      rw [le_div_iff₀ dq] at this
      unfold hidden
      exact_mod_cast this
    · rw [if_pos, next]
      · omega
      rw [Nat.div_lt_iff_lt_mul dpos]
      have : (scaled num den first).1 / ((scaled num den first).2 : ℚ) < 2 ^ (52 : ℤ) := by
        rw [ratio, next, div_lt_iff₀ (zpow_pos two (e + 1)), ← zpow_add₀ (by norm_num)]
        simpa [add_comm, add_assoc] using below
      rw [div_lt_iff₀ dq] at this
      unfold hidden
      exact_mod_cast this
  unfold exponentFor
  simp only [← first_def]
  rw [corrected]
  split <;> omega

/-- Rounding to the nearest natural gives `m` when the quotient is within a half of it, a
tie going to `m` only when `m` is even; stated over twice the numerator. -/
theorem roundHalfEven_eq {n d m : Nat} (hd : 0 < d)
    (low : 2 * m * d ≤ 2 * n + d) (high : 2 * n ≤ 2 * m * d + d)
    (lowTie : 2 * n + d = 2 * m * d → m % 2 = 0)
    (highTie : 2 * n = 2 * m * d + d → m % 2 = 0) :
    roundHalfEven n d = m := by
  unfold roundHalfEven
  have split := Nat.div_add_mod n d
  have rem := Nat.mod_lt n hd
  set q := n / d
  set r := n % d
  -- the quotient is `m` or the natural just below it
  have qLe : q ≤ m := by
    by_contra more
    have : d * (m + 1) ≤ d * q := Nat.mul_le_mul_left d (by omega)
    nlinarith
  have qGe : m ≤ q + 1 := by
    by_contra less
    have : d * (q + 2) ≤ d * m := Nat.mul_le_mul_left d (by omega)
    nlinarith
  rcases (show q = m ∨ q + 1 = m by omega) with same | below
  · subst same
    have : 2 * r ≤ d := by nlinarith
    by_cases tie : 2 * r = d
    · have even := highTie (by nlinarith)
      simp [tie, even]
    · simp [show ¬ d < 2 * r by omega, tie]
  · subst below
    have : d ≤ 2 * r := by nlinarith
    by_cases tie : 2 * r = d
    · have odd : q % 2 = 1 := by have := lowTie (by nlinarith); omega
      simp [tie, odd]
    · simp [show d < 2 * r by omega]

/-- Rounding to the nearest natural, stated over the rational quotient. -/
theorem roundHalfEven_eq_of_near {n d m : Nat} (hd : 0 < d)
    (low : (m : ℚ) - 1 / 2 ≤ n / d) (high : (n : ℚ) / d ≤ m + 1 / 2)
    (lowTie : (n : ℚ) / d = m - 1 / 2 → m % 2 = 0)
    (highTie : (n : ℚ) / d = m + 1 / 2 → m % 2 = 0) :
    roundHalfEven n d = m := by
  have dq : (0 : ℚ) < d := by exact_mod_cast hd
  -- each condition on the quotient is one on twice the numerator
  refine roundHalfEven_eq hd ?_ ?_ ?_ ?_
  · have := (mul_le_mul_iff_of_pos_right (by positivity : (0 : ℚ) < 2 * d)).mpr low
    field_simp at this
    exact_mod_cast (by push_cast; linarith : ((2 * m * d : ℕ) : ℚ) ≤ ((2 * n + d : ℕ) : ℚ))
  · have := (mul_le_mul_iff_of_pos_right (by positivity : (0 : ℚ) < 2 * d)).mpr high
    field_simp at this
    exact_mod_cast (by push_cast; linarith : ((2 * n : ℕ) : ℚ) ≤ ((2 * m * d + d : ℕ) : ℚ))
  · intro tie
    apply lowTie
    have : ((2 * n + d : ℕ) : ℚ) = ((2 * m * d : ℕ) : ℚ) := by exact_mod_cast tie
    push_cast at this
    field_simp
    linarith
  · intro tie
    apply highTie
    have : ((2 * n : ℕ) : ℚ) = ((2 * m * d + d : ℕ) : ℚ) := by exact_mod_cast tie
    push_cast at this
    field_simp
    linarith

/-- The parts `m * 2^q` of a finite positive binary64 number as `toParts` gives them: a
mantissa below `2^53`, at least `2^52` unless the exponent is the subnormal one. -/
def Normalized (m : Nat) (q : Int) : Prop :=
  0 < m ∧ m < 2 * hidden ∧ -1074 ≤ q ∧ q ≤ 971 ∧ (m < hidden → q = -1074)

/-- How far below `m * 2^q`, in steps of `2^q`, its rounding interval reaches: a quarter
step when the number below is only half a step away, else half a step. -/
def lowReach (m : Nat) (q : Int) : ℚ := if m = hidden ∧ -1074 < q then 1 / 4 else 1 / 2

/-- The rationals that round to `m * 2^q`: those of its rounding interval, whose ends belong
to it only when `m` is even. -/
structure RoundsTo (m : Nat) (q : Int) (r : ℚ) : Prop where
  low : ((m : ℚ) - lowReach m q) * 2 ^ q ≤ r
  high : r ≤ ((m : ℚ) + 1 / 2) * 2 ^ q
  tie : r = ((m : ℚ) - lowReach m q) * 2 ^ q ∨ r = ((m : ℚ) + 1 / 2) * 2 ^ q → m % 2 = 0

/-- Below the smallest normal exponent, `exponentFor` gives the subnormal one. -/
private theorem exponentFor_subnormal {num den : Nat} (hnum : 0 < num) (hden : 0 < den)
    {q : Int} (small : (num : ℚ) / den < 2 ^ (q + 52))
    (sub : q = -1074) : exponentFor num den = q := by
  have pos : (0 : ℚ) < num / den := by positivity
  have two : (1 : ℚ) < 2 := by norm_num
  set L := Int.log 2 ((num : ℚ) / den)
  have above : ((2 : ℕ) : ℚ) ^ L ≤ num / den := Int.zpow_log_le_self (by norm_num) pos
  have below : (num : ℚ) / den < ((2 : ℕ) : ℚ) ^ (L + 1) :=
    Int.lt_zpow_succ_log_self (by norm_num) _
  push_cast at above below
  have lower : L < q + 52 := (zpow_lt_zpow_iff_right₀ two).mp (lt_of_le_of_lt above small)
  have lowEnd : (2 : ℚ) ^ (L - 52 + 52) ≤ num / den := by simpa using above
  have highEnd : (num : ℚ) / den < 2 ^ (L - 52 + 53) := by
    rw [show L - 52 + 53 = L + 1 by ring]
    exact below
  rw [exponentFor_eq hnum hden lowEnd highEnd]
  omega

/-- Within a quarter step below `2^52 * 2^q`, where the number below is only half a step
away, the quotient has the mantissa `2^53` one exponent lower, which carries into `2^52` at
`q`. -/
private theorem ofPositive_carry {num den : Nat} (hnum : 0 < num) (hden : 0 < den) {q : Int}
    (qAbove : -1074 < q) (low : ((2 : ℚ) ^ 52 - 1 / 4) * 2 ^ q ≤ num / den)
    (under : (num : ℚ) / den < 2 ^ 52 * 2 ^ q) :
    ofPositive num den = encode hidden q := by
  set R : ℚ := num / den with R_def
  have step : (0 : ℚ) < 2 ^ q := zpow_pos (by norm_num) q
  have shifted : (2 : ℚ) ^ (q - 1) = 2 ^ q / 2 := by
    rw [zpow_sub₀ (by norm_num), zpow_one]
  have expo : exponentFor num den = q - 1 := by
    have lowEnd : (2 : ℚ) ^ (q - 1 + 52) ≤ R := by
      rw [zpow_add₀ (by norm_num), shifted]
      nlinarith
    have highEnd : R < 2 ^ (q - 1 + 53) := by
      rw [zpow_add₀ (by norm_num), shifted]
      nlinarith
    rw [exponentFor_eq hnum hden lowEnd highEnd]
    omega
  have dpos := scaled_den_pos hden num (q - 1)
  have ratio := scaled_ratio num den (q - 1)
  rw [← R_def, shifted] at ratio
  have rounded : roundHalfEven (scaled num den (q - 1)).1 (scaled num den (q - 1)).2 =
      2 * 2 ^ 52 := by
    apply roundHalfEven_eq_of_near dpos
    · rw [ratio]; push_cast
      rw [le_div_iff₀ (by positivity)]; nlinarith
    · rw [ratio]; push_cast
      rw [div_le_iff₀ (by positivity)]; nlinarith
    · intro _; decide
    · intro _; decide
  unfold ofPositive
  simp only [expo, rounded, if_true]
  congr 1
  omega

/-- A positive rational that rounds to `m * 2^q` is read as that number. -/
theorem ofPositive_eq_encode {num den : Nat} (hnum : 0 < num) (hden : 0 < den) {m : Nat}
    {q : Int} (parts : Normalized m q) (near : RoundsTo m q (num / den)) :
    ofPositive num den = encode m q := by
  obtain ⟨mPos, mBelow, qLow, -, mSub⟩ := parts
  set R : ℚ := num / den with R_def
  have step : (0 : ℚ) < 2 ^ q := zpow_pos (by norm_num) q
  have hiddenQ : ((hidden : ℕ) : ℚ) = 2 ^ 52 := by norm_num [hidden]
  have mBelowQ : (m : ℚ) + 1 / 2 < 2 ^ 53 := by
    have : (m : ℚ) + 1 ≤ 2 ^ 53 := by exact_mod_cast (by unfold hidden at mBelow; omega)
    linarith
  by_cases carry : m = hidden ∧ -1074 < q ∧ R < hidden * 2 ^ q
  · -- just below a power of two the mantissa rounds up to `2^53` and carries
    obtain ⟨rfl, qAbove, under⟩ := carry
    have low := near.low
    rw [show lowReach hidden q = 1 / 4 by simp [lowReach, qAbove], hiddenQ] at low
    rw [hiddenQ] at under
    exact ofPositive_carry hnum hden qAbove low under
  · -- otherwise the exponent is `q` and the mantissa rounds to `m`
    -- the interval reaches at most half a step below, and only the half-step end is a tie
    have atLeast : ((m : ℚ) - 1 / 2) * 2 ^ q ≤ R ∧
        (R = ((m : ℚ) - 1 / 2) * 2 ^ q → m % 2 = 0) := by
      by_cases quarter : m = hidden ∧ -1074 < q
      · have above : (m : ℚ) * 2 ^ q ≤ R := by
          by_contra under
          exact carry ⟨quarter.1, quarter.2, by rw [← quarter.1]; linarith⟩
        exact ⟨by nlinarith, fun tie => by nlinarith⟩
      · have reach : lowReach m q = 1 / 2 := by simp [lowReach, quarter]
        have low := near.low
        rw [reach] at low
        exact ⟨low, fun tie => near.tie (.inl (by rw [reach]; exact tie))⟩
    have expo : exponentFor num den = q := by
      by_cases big : (2 : ℚ) ^ (q + 52) ≤ R
      · rw [exponentFor_eq hnum hden big]
        · omega
        · calc R ≤ ((m : ℚ) + 1 / 2) * 2 ^ q := near.high
            _ < 2 ^ 53 * 2 ^ q := by gcongr
            _ = 2 ^ (q + 53) := by rw [zpow_add₀ (by norm_num), mul_comm]; norm_num
      · rw [not_le, zpow_add₀ (by norm_num)] at big
        apply exponentFor_subnormal hnum hden (by rw [zpow_add₀ (by norm_num)]; exact big)
        by_contra normal
        have mNormal : hidden ≤ m := by by_contra; exact normal (mSub (by omega))
        have notHidden : m ≠ hidden := by
          rintro rfl
          exact carry ⟨rfl, by omega, by rw [hiddenQ]; linarith⟩
        have : (m : ℚ) ≥ 2 ^ 52 + 1 := by
          exact_mod_cast (by unfold hidden at mNormal notHidden; omega)
        nlinarith [atLeast.1]
    have dpos := scaled_den_pos hden num q
    have ratio := scaled_ratio num den q
    rw [← R_def] at ratio
    have rounded : roundHalfEven (scaled num den q).1 (scaled num den q).2 = m := by
      apply roundHalfEven_eq_of_near dpos
      · rw [ratio, le_div_iff₀ step]; exact atLeast.1
      · rw [ratio, div_le_iff₀ step]; exact near.high
      · intro tie
        rw [ratio, div_eq_iff step.ne'] at tie
        exact atLeast.2 tie
      · intro tie
        rw [ratio, div_eq_iff step.ne'] at tie
        exact near.tie (.inr tie)
    unfold ofPositive
    simp only [expo, rounded]
    rw [if_neg (by unfold hidden at mBelow; omega)]

/-- Two numbers with the same bits as naturals are the same. -/
theorem ext_toNat {x y : Binary64} (h : x.bits.toNat = y.bits.toNat) : x = y := by
  cases x; cases y
  simp only [mk.injEq]
  exact UInt64.toNat_inj.mp h

/-- Setting the sign bit of a number below `2^63` adds `2^63`. -/
theorem withSign_toNat (neg : Bool) {x : Binary64} (h : x.bits.toNat < 2 ^ 63) :
    (withSign neg x).bits.toNat = (if neg then 2 ^ 63 else 0) + x.bits.toNat := by
  cases neg
  · simp [withSign]
  · simp only [withSign, if_true, UInt64.toNat_or]
    rw [show (0x8000000000000000 : UInt64).toNat = 2 ^ 63 from rfl,
      Nat.or_two_pow_eq_add_of_lt h]
    omega

/-- The mantissa of the smallest normal number, as a numeral. -/
theorem hidden_eq : hidden = 4503599627370496 := rfl

/-- A subnormal mantissa is encoded as itself. -/
theorem encode_subnormal {m : Nat} {q : Int} (small : m < hidden) (finite : q ≤ 971) :
    (encode m q).bits.toNat = m := by
  unfold encode
  rw [if_neg (by omega), if_pos small, UInt64.toNat_ofNat']
  rw [hidden_eq] at small
  omega

/-- A normal mantissa is encoded with its exponent field above its fraction bits. -/
theorem encode_normal {m : Nat} {q : Int} (normal : hidden ≤ m) (below : m < 2 * hidden)
    (low : -1075 < q) (finite : q ≤ 971) :
    (encode m q).bits.toNat = (q + 1075).toNat * hidden + (m - hidden) := by
  unfold encode
  rw [if_neg (by omega), if_neg (by omega), UInt64.toNat_ofNat']
  rw [hidden_eq] at normal below ⊢
  apply Nat.mod_eq_of_lt
  have : (q + 1075).toNat ≤ 2046 := by omega
  omega

/-- What the parts of a finite number say about its bits: the sign is the top bit, the
exponent field is not all ones, and the mantissa is the fraction, with the hidden bit set
unless the field is zero. -/
theorem toParts_eq_finite {x : Binary64} {neg : Bool} {m : Nat} {q : Int}
    (h : x.toParts = .finite neg m q) :
    neg = decide (2 ^ 63 ≤ x.bits.toNat) ∧ x.bits.toNat / hidden % 2048 ≠ 2047 ∧
      (x.bits.toNat / hidden % 2048 = 0 ∧ m = x.bits.toNat % hidden ∧ q = -1074 ∨
        x.bits.toNat / hidden % 2048 ≠ 0 ∧ m = x.bits.toNat % hidden + hidden ∧
          q = ((x.bits.toNat / hidden % 2048 : Nat) : Int) - 1075) := by
  simp only [toParts] at h
  -- the split closes the branches that give other parts
  split_ifs at h with top empty zeroField
  · obtain ⟨rfl, rfl, rfl⟩ := Parts.finite.inj h
    exact ⟨rfl, top, .inl ⟨zeroField, rfl, rfl⟩⟩
  · obtain ⟨rfl, rfl, rfl⟩ := Parts.finite.inj h
    exact ⟨rfl, top, .inr ⟨zeroField, rfl, rfl⟩⟩

/-- What the parts of an infinite number say about its bits: the sign is the top bit, the
exponent field is all ones and the fraction is zero. -/
theorem toParts_eq_infinite {x : Binary64} {neg : Bool} (h : x.toParts = .infinite neg) :
    neg = decide (2 ^ 63 ≤ x.bits.toNat) ∧ x.bits.toNat / hidden % 2048 = 2047 ∧
      x.bits.toNat % hidden = 0 := by
  simp only [toParts] at h
  split_ifs at h with top empty
  exact ⟨(Parts.infinite.inj h).symm, top, empty⟩

/-- A finite number with a non-zero mantissa is the encoding of its parts, with its sign. -/
theorem eq_encode_of_toParts {x : Binary64} {neg : Bool} {m : Nat} {q : Int}
    (h : x.toParts = .finite neg m q) (pos : 0 < m) :
    Normalized m q ∧ x = withSign neg (encode m q) := by
  have bound := x.bits.toNat_lt
  obtain ⟨rfl, top, ⟨zeroField, rfl, rfl⟩ | ⟨nonzero, rfl, rfl⟩⟩ := toParts_eq_finite h
  · -- subnormal: the fraction alone, at the least exponent
    unfold hidden at top zeroField pos ⊢
    refine ⟨⟨pos, by unfold hidden; omega, by omega, by omega, fun _ => rfl⟩, ?_⟩
    apply ext_toNat
    have small : (encode (x.bits.toNat % 2 ^ 52) (-1074)).bits.toNat = x.bits.toNat % 2 ^ 52 :=
      encode_subnormal (by rw [hidden_eq]; omega) (by omega)
    rw [withSign_toNat _ (by omega), small]
    split <;> simp_all <;> omega
  · -- normal: the hidden bit above the fraction, and the field less the bias
    unfold hidden at top nonzero ⊢
    refine ⟨⟨by omega, by unfold hidden; omega, by omega, by omega, by unfold hidden; omega⟩, ?_⟩
    apply ext_toNat
    have normal : (encode (x.bits.toNat % 2 ^ 52 + 2 ^ 52)
        (((x.bits.toNat / 2 ^ 52 % 2048 : ℕ) : ℤ) - 1075)).bits.toNat =
        x.bits.toNat % 2 ^ 63 := by
      rw [encode_normal (by rw [hidden_eq]; omega) (by rw [hidden_eq]; omega) (by omega) (by omega),
        hidden_eq]
      omega
    rw [withSign_toNat _ (by rw [normal]; omega), normal]
    split <;> simp_all <;> omega

theorem zero_toNat (neg : Bool) : (zero neg).bits.toNat = if neg then 2 ^ 63 else 0 := by
  cases neg <;> rfl

theorem infinity_toNat (neg : Bool) :
    (infinity neg).bits.toNat = (if neg then 2 ^ 63 else 0) + 2047 * 2 ^ 52 := by
  cases neg <;> rfl

/-- A zero is the zero of its sign. -/
theorem eq_zero_of_toParts {x : Binary64} {neg : Bool} {q : Int}
    (h : x.toParts = .finite neg 0 q) : x = zero neg := by
  have bound := x.bits.toNat_lt
  obtain ⟨rfl, -, ⟨zeroField, fraction, -⟩ | ⟨-, fraction, -⟩⟩ := toParts_eq_finite h
  · unfold hidden at zeroField fraction
    apply ext_toNat
    rw [zero_toNat]
    split <;> rename_i sign <;> simp only [decide_eq_true_eq] at sign <;> omega
  · -- a normal mantissa holds the hidden bit
    unfold hidden at fraction
    omega

/-- An infinite number is the infinity of its sign. -/
theorem eq_infinity_of_toParts {x : Binary64} {neg : Bool} (h : x.toParts = .infinite neg) :
    x = infinity neg := by
  have bound := x.bits.toNat_lt
  obtain ⟨rfl, top, empty⟩ := toParts_eq_infinite h
  unfold hidden at top empty
  apply ext_toNat
  rw [infinity_toNat]
  split <;> rename_i sign <;> simp only [decide_eq_true_eq] at sign <;> omega

/-- A positive rational that rounds to `m * 2^q` is read, with a sign, as the number of that
sign and those parts. -/
theorem ofRational_eq_of_roundsTo (neg : Bool) {num den : Nat} (hnum : 0 < num) (hden : 0 < den)
    {m : Nat} {q : Int} (parts : Normalized m q) (near : RoundsTo m q (num / den)) :
    ofRational neg num den = withSign neg (encode m q) := by
  unfold ofRational
  rw [if_neg (by omega), ofPositive_eq_encode hnum hden parts near]

end Bookmarks.Binary64
