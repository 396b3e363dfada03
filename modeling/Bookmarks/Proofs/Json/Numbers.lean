import Mathlib
import Bookmarks.Proofs.Json.NumberText
import Bookmarks.Proofs.Number.Shortest
import Bookmarks.Json.Writer
/-!
Numbers written and read back.

Each text the writer spells for a number is read back to the same value: an integer of at
most 4300 digits (`scanNumber_ofInt`), and a binary64 number bit for bit (`scanNumber_spell`),
from the shortest-digit search (`ofFinite_rounds`) and correct rounding of a decimal
(`decimalToBinary64_of_roundsTo`).
-/
namespace Bookmarks
open Json Reader NumberParts

namespace Shortest

/-- The significant digits of a number are its decimal digits without the trailing zeros. -/
theorem significant_digits (k : Nat) :
    Text.ofNat k = (significant k).1.map (· + 0x30) ++
        List.replicate ((significant k).2 - (significant k).1.length) 0x30 ∧
      (significant k).2 = (Text.ofNat k).length := by
  set ds := (Nat.toDigits 10 k).map fun c => c.toNat - 48 with ds_def
  have back : ds.map (· + 0x30) = Text.ofNat k := by
    rw [ds_def, List.map_map]
    unfold Text.ofNat
    apply List.map_congr_left
    intro c member
    have digit := Text.isDigit_of_mem_ofNat
      (List.mem_map_of_mem member : c.toNat ∈ (Nat.toDigits 10 k).map Char.toNat)
    simp [Text.isDigit] at digit
    simp
    omega
  -- the digits split at their trailing zeros
  have zeros : ds.reverse.takeWhile (· = 0) =
      List.replicate (ds.reverse.takeWhile (· = 0)).length 0 := by
    rw [List.eq_replicate_iff]
    refine ⟨rfl, fun b member => ?_⟩
    simpa using List.mem_takeWhile_imp member
  have split : ds = (ds.reverse.dropWhile (· = 0)).reverse ++
      (ds.reverse.takeWhile (· = 0)).reverse := by
    rw [← List.reverse_append, List.takeWhile_append_dropWhile, List.reverse_reverse]
  have shape : significant k = ((ds.reverse.dropWhile (· = 0)).reverse, ds.length) := rfl
  have total := congrArg List.length split
  simp only [List.length_append, List.length_reverse] at total
  rw [shape, ← back]
  refine ⟨?_, by simp⟩
  conv_lhs => rw [split, zeros]
  simp only [List.reverse_replicate, List.map_append, List.map_replicate, Nat.zero_add,
    List.length_reverse]
  congr 2
  omega

/-- The significant digits of a positive number lead with a nonzero digit, and with the trailing
zeros put back they make the number. -/
theorem significand_of_significant {k : Nat} (pos : 0 < k) :
    Significand ((significant k).1.map (· + 0x30)) ∧
      k = digitsValue ((significant k).1.map (· + 0x30)) *
        10 ^ ((significant k).2 - (significant k).1.length) := by
  obtain ⟨whole, -⟩ := significant_digits k
  obtain ⟨c, cs, lead, low, high⟩ := Text.ofNat_head pos
  refine ⟨?_, ?_⟩
  · rcases e : (significant k).1.map (· + 0x30) with _ | ⟨c', cs'⟩
    · rw [e, List.nil_append, lead] at whole
      cases z : (significant k).2 - (significant k).1.length with
      | zero => simp [z] at whole
      | succ z => simp [z, List.replicate_succ] at whole; omega
    · rw [e, lead, List.cons_append] at whole
      obtain ⟨rfl, rest⟩ := List.cons.inj whole
      refine ⟨c, cs', rfl, low, high, fun d member => ?_⟩
      have inDigits : d ∈ Text.ofNat k := by
        rw [lead, rest]
        simp [member]
      exact Text.isDigit_of_mem_ofNat inDigits
  · have value := congrArg digitsValue whole
    rw [digitsValue_ofNat, digitsValue_append, digitsValue_zeros, List.length_replicate,
      Nat.add_zero] at value
    exact value

end Shortest

namespace Json.Reader

theorem digits_bounds {D : Nat} (pos : 0 < D) :
    10 ^ ((Nat.toDigits 10 D).length - 1) ≤ D ∧ D < 10 ^ (Nat.toDigits 10 D).length := by
  have sizePos : 0 < (Nat.toDigits 10 D).length := Nat.length_toDigits_pos
  refine ⟨?_, (Nat.length_toDigits_le_iff (by decide) sizePos).mp le_rfl⟩
  by_contra small
  rw [not_le] at small
  by_cases one : (Nat.toDigits 10 D).length = 1
  · rw [one] at small
    simp at small
    omega
  · have := (Nat.length_toDigits_le_iff (by decide) (by omega)).mpr small
    omega

/-- The largest power of two a finite number stays below is below `10^309`. -/
theorem two_pow_1024_lt : (2 : ℚ) ^ (1024 : ℤ) < 10 ^ (309 : ℤ) := by
  have nat := Shortest.two_pow_le_ten_pow 308
  rw [show 93 * 308 / 28 = 1023 by norm_num] at nat
  have small : (2 : ℕ) ^ (1023 + 1) < 10 ^ (308 + 1) := by
    have : 0 < 10 ^ 308 := by positivity
    rw [pow_succ, pow_succ]
    omega
  have cast : (((2 : ℕ) ^ (1023 + 1) : ℕ) : ℚ) < ((10 ^ (308 + 1) : ℕ) : ℚ) := Nat.cast_lt.mpr small
  rw [Nat.cast_pow, Nat.cast_pow, Nat.cast_ofNat, Nat.cast_ofNat] at cast
  rw [zpow_ofNat, zpow_ofNat]
  exact cast

/-- Half the smallest subnormal number is above `10^-324`. -/
theorem ten_pow_lt_two_pow_1075 : (10 : ℚ) ^ (-324 : ℤ) < 2 ^ (-1075 : ℤ) := by
  have nat := Shortest.two_pow_le_ten_pow 324
  rw [show 93 * 324 / 28 = 1075 + 1 by norm_num, pow_succ] at nat
  have small : (2 : ℕ) ^ 1075 < 10 ^ 324 := by
    have : 0 < 2 ^ 1075 := by positivity
    omega
  rw [zpow_neg, zpow_neg, zpow_ofNat, zpow_ofNat, inv_lt_inv₀ (by positivity) (by positivity)]
  exact_mod_cast small

open Binary64 in
theorem decimalToBinary64_of_roundsTo (neg : Bool) {D : Nat} {E : Int} {m : Nat} {q : Int}
    (pos : 0 < D) (parts : Normalized m q) (near : RoundsTo m q (D * 10 ^ E)) :
    decimalToBinary64 neg D E = withSign neg (encode m q) := by
  obtain ⟨mPos, mBelow, qLow, qHigh, -⟩ := id parts
  obtain ⟨low, high⟩ := digits_bounds pos
  set size := (Nat.toDigits 10 D).length
  have sizePos : 0 < size := Nat.length_toDigits_pos
  have ten : (1 : ℚ) < 10 := by norm_num
  have step : (0 : ℚ) < 2 ^ q := zpow_pos (by norm_num) q
  have tenE : (0 : ℚ) < 10 ^ E := zpow_pos (by norm_num) E
  -- the value lies above half the smallest subnormal and below the largest power of two
  have above : (2 : ℚ) ^ (-1075 : ℤ) ≤ D * 10 ^ E := by
    have reach : lowReach m q ≤ 1 / 2 := by unfold lowReach; split <;> norm_num
    have mQ : (1 : ℚ) ≤ m := by exact_mod_cast mPos
    have least : (2 : ℚ) ^ (-1074 : ℤ) ≤ 2 ^ q := zpow_le_zpow_right₀ (by norm_num) qLow
    calc (2 : ℚ) ^ (-1075 : ℤ) = 1 / 2 * 2 ^ (-1074 : ℤ) := by
          rw [show (-1075 : ℤ) = -1 + -1074 by norm_num, zpow_add₀ (by norm_num)]
          norm_num
      _ ≤ (m - lowReach m q) * 2 ^ q := by
        apply mul_le_mul (by linarith) least (by positivity) (by linarith)
      _ ≤ D * 10 ^ E := near.low
  have below : (D : ℚ) * 10 ^ E < 2 ^ (1024 : ℤ) := by
    have mQ : (m : ℚ) + 1 ≤ 2 ^ 53 := by
      exact_mod_cast (show m + 1 ≤ 2 ^ 53 by rw [hidden_eq] at mBelow; omega)
    have most : (2 : ℚ) ^ q ≤ 2 ^ (971 : ℤ) := zpow_le_zpow_right₀ (by norm_num) qHigh
    calc (D : ℚ) * 10 ^ E ≤ (m + 1 / 2) * 2 ^ q := near.high
      _ < 2 ^ 53 * 2 ^ (971 : ℤ) := by
        apply mul_lt_mul (by linarith) most step (by positivity)
      _ = 2 ^ (1024 : ℤ) := by
        rw [show (2 : ℚ) ^ 53 = 2 ^ (53 : ℤ) by norm_num, ← zpow_add₀ (by norm_num)]
        norm_num
  have top : E + size ≤ 400 := by
    have lead : (10 : ℚ) ^ ((size : ℤ) - 1 + E) ≤ D * 10 ^ E := by
      rw [zpow_add₀ (by norm_num), show ((size : ℤ) - 1) = ((size - 1 : ℕ) : ℤ) by omega,
        zpow_natCast]
      gcongr
      exact_mod_cast low
    have := (zpow_lt_zpow_iff_right₀ ten).mp (lead.trans_lt (below.trans two_pow_1024_lt))
    omega
  have bottom : -400 ≤ E + size := by
    have lead : (D : ℚ) * 10 ^ E < 10 ^ ((size : ℤ) + E) := by
      rw [zpow_add₀ (by norm_num), zpow_natCast]
      gcongr
      exact_mod_cast high
    have := (zpow_lt_zpow_iff_right₀ ten).mp
      (ten_pow_lt_two_pow_1075.trans (above.trans_lt lead))
    omega
  unfold decimalToBinary64
  rw [if_neg (by omega), if_neg (by omega), if_neg (by omega)]
  split
  · rename_i nonneg
    have same : (((D * 10 ^ E.toNat : ℕ) : ℚ) / ((1 : ℕ) : ℚ)) = D * 10 ^ E := by
      push_cast
      rw [← zpow_natCast, Int.toNat_of_nonneg nonneg, div_one]
    rw [← same] at near
    exact ofRational_eq_of_roundsTo neg (by positivity) one_pos parts near
  · rename_i negative
    have same : ((D : ℕ) : ℚ) / ((10 ^ (-E).toNat : ℕ) : ℚ) = D * 10 ^ E := by
      push_cast
      rw [← zpow_natCast, Int.toNat_of_nonneg (by omega), zpow_neg, div_eq_mul_inv, inv_inv]
    rw [← same] at near
    exact ofRational_eq_of_roundsTo neg pos (by positivity) parts near



/-- The pieces of the text the JSON style gives the decimal `0.digits × 10^point`, with a minus
before it when `neg`. -/
def decimalParts (neg : Bool) (digits : List Nat) (point : Int) : NumberParts :=
  let ds := digits.map (· + 0x30)
  if numberStyle.lowestPoint < point && point ≤ numberStyle.highestPoint then
    if point ≤ 0 then ⟨neg, [0x30], List.replicate (-point).toNat 0x30 ++ ds, none⟩
    else if point.toNat ≥ ds.length then
      ⟨neg, ds ++ List.replicate (point.toNat - ds.length) 0x30, [0x30], none⟩
    else ⟨neg, ds.take point.toNat, ds.drop point.toNat, none⟩
  else
    let exponent := point - 1
    let digits := Text.ofNat exponent.natAbs
    ⟨neg, ds.take 1, ds.drop 1,
      some (decide (exponent < 0), if digits.length < 2 then 0x30 :: digits else digits)⟩

theorem text_decimalParts (neg : Bool) {digits : List Nat} (present : digits ≠ []) (point : Int) :
    (decimalParts neg digits point).text =
      signText neg ++ Binary64.decimalText numberStyle digits point := by
  unfold decimalParts Binary64.decimalText
  dsimp only
  by_cases window : (numberStyle.lowestPoint < point && point ≤ numberStyle.highestPoint) = true
  · rw [if_pos window, if_pos window]
    by_cases nonpos : point ≤ 0
    · rw [if_pos nonpos, if_pos nonpos]
      simp [text, fractionText, exponentText, present]
    · rw [if_neg nonpos, if_neg nonpos]
      by_cases wide : point.toNat ≥ (digits.map (· + 0x30)).length
      · rw [if_pos wide, if_pos wide]
        simp [text, fractionText, exponentText]
      · rw [if_neg wide, if_neg wide]
        have inner : (digits.map (· + 0x30)).drop point.toNat ≠ [] := by
          simp only [List.length_map] at wide
          simp
          omega
        simp [text, fractionText, exponentText, inner]
  · rw [if_neg window, if_neg window]
    rcases digits with _ | ⟨d, _ | ⟨e, rest⟩⟩
    · contradiction
    · simp [text, fractionText, exponentText, Binary64.exponentText]
    · simp [text, fractionText, exponentText, Binary64.exponentText]

theorem digits_of_significand {ds : Text} (lead : Significand ds) : ∀ d ∈ ds, Text.isDigit d := by
  obtain ⟨c, cs, rfl, low, high, rest⟩ := lead
  intro d member
  rcases List.mem_cons.mp member with rfl | later
  · simp [Text.isDigit]
    omega
  · exact rest d later

theorem digitsValue_pos {ds : Text} (lead : Significand ds) : 0 < digitsValue ds := by
  obtain ⟨c, cs, rfl, low, -⟩ := lead
  rw [show c :: cs = [c] ++ cs from rfl, digitsValue_append]
  have first : digitsValue [c] = c - 0x30 := by simp [digitsValue]
  have : 0 < 10 ^ cs.length := by positivity
  rw [first]
  nlinarith [Nat.sub_pos_of_lt (show 0x30 < c by omega)]

theorem digitsValue_zero_cons (ds : Text) : digitsValue (0x30 :: ds) = digitsValue ds := by
  rw [show 0x30 :: ds = [0x30] ++ ds from rfl, digitsValue_append]
  simp [digitsValue]

theorem valid_decimalParts (neg : Bool) {digits : List Nat}
    (lead : Significand (digits.map (· + 0x30))) (point : Int) :
    (decimalParts neg digits point).Valid := by
  have allDigits := digits_of_significand lead
  have zero : Text.isDigit 0x30 := by decide
  have exponentDigits : ∀ d ∈ Text.ofNat (point - 1).natAbs, Text.isDigit d :=
    fun d member => Text.isDigit_of_mem_ofNat member
  have present : Text.ofNat (point - 1).natAbs ≠ [] := by simp [Text.ofNat]
  obtain ⟨c, cs, same, low, high, rest⟩ := lead
  unfold decimalParts
  dsimp only
  split_ifs with window nonpos wide short
  · refine ⟨.inl rfl, ?_, by simp⟩
    intro d member
    rcases List.mem_append.mp member with zeros | inDigits
    · rw [List.eq_of_mem_replicate zeros]; exact zero
    · exact allDigits d inDigits
  · refine ⟨.inr ⟨c, cs ++ List.replicate _ 0x30, by rw [same]; rfl, low, high, ?_⟩, by simp [zero],
      by simp⟩
    intro d member
    rcases List.mem_append.mp member with inDigits | zeros
    · exact rest d inDigits
    · rw [List.eq_of_mem_replicate zeros]; exact zero
  · have some : point.toNat = (point.toNat - 1) + 1 := by omega
    refine ⟨.inr ⟨c, cs.take (point.toNat - 1), by rw [same, some]; rfl, low, high,
      fun d member => rest d (List.mem_of_mem_take member)⟩,
      fun d member => allDigits d (List.mem_of_mem_drop member), by simp⟩
  · refine ⟨.inr ⟨c, [], by rw [same]; rfl, low, high, by simp⟩, by rw [same]; exact rest, ?_⟩
    intro negative digits named
    simp only [Option.some.injEq, Prod.mk.injEq] at named
    obtain ⟨-, rfl⟩ := named
    refine ⟨by simp, fun d member => ?_⟩
    rcases List.mem_cons.mp member with rfl | later
    · exact zero
    · exact exponentDigits d later
  · refine ⟨.inr ⟨c, [], by rw [same]; rfl, low, high, by simp⟩, by rw [same]; exact rest, ?_⟩
    intro negative digits named
    simp only [Option.some.injEq, Prod.mk.injEq] at named
    obtain ⟨-, rfl⟩ := named
    exact ⟨present, exponentDigits⟩

theorem isInteger_decimalParts (neg : Bool) {digits : List Nat} (present : digits ≠ [])
    (point : Int) : (decimalParts neg digits point).isInteger = false := by
  unfold decimalParts
  dsimp only
  split_ifs with window nonpos wide short
  · simp [isInteger, present]
  · simp [isInteger]
  · simp only [List.length_map] at wide
    simp [isInteger]
    omega
  · simp [isInteger]
  · simp [isInteger]

/-- An exponent written with its sign and the digits of its size has that value. -/
theorem exponentValue_signed (e : Int) {digits : Text} (size : digitsValue digits = e.natAbs) :
    exponentValue (some (decide (e < 0), digits)) = e := by
  by_cases negative : e < 0
  · simp only [exponentValue, decide_eq_true negative, size]
    omega
  · simp only [exponentValue, decide_eq_false negative, size]
    omega

/-- The digits the reader takes from the decimal's text, with the exponent it reads, scale to
the decimal `0.digits × 10^point`. -/
theorem scale_decimalParts (neg : Bool) {digits : List Nat}
    (lead : Significand (digits.map (· + 0x30))) (point : Int) :
    0 < digitsValue ((decimalParts neg digits point).whole ++
        (decimalParts neg digits point).fraction) ∧
      (digitsValue ((decimalParts neg digits point).whole ++
          (decimalParts neg digits point).fraction) : ℚ) *
        10 ^ (exponentValue (decimalParts neg digits point).exponent -
          (decimalParts neg digits point).fraction.length) =
      digitsValue (digits.map (· + 0x30)) * 10 ^ (point - digits.length) := by
  have pos := digitsValue_pos lead
  have present : digits ≠ [] := by
    obtain ⟨c, cs, same, -⟩ := lead
    rintro rfl
    simp at same
  have long : 1 ≤ digits.length := List.length_pos_iff.mpr present
  unfold decimalParts
  dsimp only
  split_ifs with window nonpos wide short
  · -- `0.` and zeros before the digits
    have value : digitsValue ([0x30] ++ (List.replicate (-point).toNat 0x30 ++
        digits.map (· + 0x30))) = digitsValue (digits.map (· + 0x30)) := by
      rw [← List.append_assoc, List.singleton_append, ← List.replicate_succ, digitsValue_append,
        digitsValue_zeros]
      simp
    simp only [value, List.length_append, List.length_replicate, List.length_map,
      exponentValue]
    refine ⟨pos, ?_⟩
    congr 2
    push_cast
    omega
  · -- the digits and zeros before `.0`
    have value : digitsValue (digits.map (· + 0x30) ++ List.replicate (point.toNat -
        (digits.map (· + 0x30)).length) 0x30 ++ [0x30]) =
        digitsValue (digits.map (· + 0x30)) * 10 ^ (point.toNat - digits.length + 1) := by
      rw [digitsValue_append, digitsValue_append, digitsValue_zeros]
      simp [digitsValue, pow_succ, mul_assoc]
    simp only [value, exponentValue, List.length_singleton]
    refine ⟨by positivity, ?_⟩
    push_cast
    rw [show (point - digits.length : ℤ) = ((point.toNat - digits.length + 1 : ℕ) : ℤ) + (-1) by
        simp only [List.length_map] at wide; push_cast; omega,
      zpow_add₀ (by norm_num), zpow_natCast, mul_assoc]
  · -- a point among the digits
    simp only [List.take_append_drop, exponentValue, List.length_drop, List.length_map]
    refine ⟨pos, ?_⟩
    congr 2
    simp only [List.length_map] at wide
    omega
  · -- one digit, the rest and a padded exponent
    simp only [List.take_append_drop, List.length_drop, List.length_map]
    rw [exponentValue_signed (point - 1) (by rw [digitsValue_zero_cons, digitsValue_ofNat])]
    refine ⟨pos, ?_⟩
    congr 2
    omega
  · -- one digit, the rest and an exponent
    simp only [List.take_append_drop, List.length_drop, List.length_map]
    rw [exponentValue_signed (point - 1) (digitsValue_ofNat _)]
    refine ⟨pos, ?_⟩
    congr 2
    omega

theorem value_of_not_integer {p : NumberParts} (float : p.isInteger = false) :
    p.value = .float (decimalToBinary64 p.neg (digitsValue (p.whole ++ p.fraction))
      (exponentValue p.exponent - p.fraction.length)) := by
  simp [value, float]

variable {doc : Doc} {i : Nat} {t : Text}

/-- An integer's text is read back as that integer, when it has at most 4300 digits. -/
theorem scanNumber_ofInt (n : Int) (short : (Text.ofNat n.natAbs).length ≤ digitLimit)
    (h : remaining doc i = Text.ofInt n ++ t) (ends : Ends t) :
    scanNumber doc i = .ok (.int n, i + (Text.ofInt n).length) := by
  let p : NumberParts := ⟨decide (n < 0), Text.ofNat n.natAbs, [], none⟩
  have spelled : Text.ofInt n = p.text := by
    cases n <;> simp [p, Text.ofInt, text, signText, fractionText, exponentText]
  have valid : p.Valid := by
    refine ⟨?_, by simp [p], by simp [p]⟩
    by_cases zero : n.natAbs = 0
    · exact .inl (by simp [p, zero, Text.ofNat_zero])
    · obtain ⟨c, cs, lead, low, high⟩ := Text.ofNat_head (Nat.pos_of_ne_zero zero)
      refine .inr ⟨c, cs, lead, low, high, fun d member => ?_⟩
      exact Text.isDigit_of_mem_ofNat (show d ∈ Text.ofNat n.natAbs by simp [lead, member])
  rw [spelled] at h ⊢
  rw [scanNumber_parts valid (fun _ => short) h ends]
  have sign : (if decide (n < 0) = true then -(n.natAbs : ℤ) else n.natAbs) = n := by
    split <;> rename_i negative <;> simp only [decide_eq_true_eq] at negative <;> omega
  simp only [p, value, isInteger, List.isEmpty_nil, Option.isNone_none, Bool.and_self, if_true,
    digitsValue_ofNat, sign]

/-- An integer's text starts with its sign and a digit. -/
theorem head_ofInt (n : Int) :
    ∃ d t, Text.ofInt n = signText (decide (n < 0)) ++ d :: t ∧ Text.isDigit d := by
  have lead : ∀ k, ∃ d t, Text.ofNat k = d :: t ∧ Text.isDigit d := by
    intro k
    cases digits : Text.ofNat k with
    | nil => exact absurd (List.map_eq_nil_iff.mp digits) Nat.toDigits_ne_nil
    | cons d t => exact ⟨d, t, rfl, Text.isDigit_of_mem_ofNat (show d ∈ Text.ofNat k by simp [digits])⟩
  cases n with
  | ofNat k =>
    obtain ⟨d, t, digits, digit⟩ := lead k
    exact ⟨d, t, by simp [Text.ofInt, signText, digits], digit⟩
  | negSucc k =>
    obtain ⟨d, t, digits, digit⟩ := lead (k + 1)
    exact ⟨d, t, by simp [Text.ofInt, signText, digits, Int.negSucc_lt_zero], digit⟩

/-- A finite number is spelled as a number text that is not an integer's, with that number as its
value. -/
theorem spell_parts {x : Binary64} {neg : Bool} {m : Nat} {q : Int}
    (finite : x.toParts = .finite neg m q) :
    ∃ p : NumberParts, p.Valid ∧ p.isInteger = false ∧ p.neg = neg ∧
      Binary64.spell numberStyle x = p.text ∧ p.value = .float x := by
  by_cases zero : m = 0
  · -- a zero is written `0.0`, after its sign
    subst zero
    let p : NumberParts := ⟨neg, [0x30], [0x30], none⟩
    have zeroDigit : Text.isDigit 0x30 := by decide
    have float : p.isInteger = false := by simp [p, isInteger]
    refine ⟨p, ⟨.inl rfl, by simp [p, zeroDigit], by simp [p]⟩, float, rfl, ?_, ?_⟩
    · cases neg <;> simp [p, Binary64.spell, finite, text, signText, fractionText, exponentText,
        Text.ofString]
    · rw [value_of_not_integer float, Binary64.eq_zero_of_toParts finite]
      rfl
  · have pos : 0 < m := Nat.pos_of_ne_zero zero
    obtain ⟨normal, xEq⟩ := Binary64.eq_encode_of_toParts finite pos
    obtain ⟨k, e, decimal, rounds⟩ := Shortest.ofFinite_rounds normal
    -- the decimal is positive, as the number is
    have kPos : 0 < k := by
      by_contra nonpos
      have low := rounds.low
      have reach : Binary64.lowReach m q ≤ 1 / 2 := by
        unfold Binary64.lowReach; split <;> norm_num
      have mQ : (1 : ℚ) ≤ m := by exact_mod_cast pos
      have step : (0 : ℚ) < 2 ^ q := zpow_pos (by norm_num) q
      rw [show k = 0 by omega] at low
      simp only [Nat.cast_zero, zero_mul] at low
      nlinarith
    obtain ⟨lead, scaledK⟩ := Shortest.significand_of_significant kPos
    obtain ⟨-, length⟩ := Shortest.significant_digits k
    have present : (Shortest.significant k).1 ≠ [] := by
      obtain ⟨c, cs, same, -⟩ := lead
      intro empty
      simp [empty] at same
    set p := decimalParts neg (Shortest.significant k).1 (e + (Shortest.significant k).2)
    have spelled : Binary64.spell numberStyle x = p.text := by
      rw [text_decimalParts neg present]
      simp [Binary64.spell, finite, zero, decimal, Shortest.ofScaled, signText]
    have float := isInteger_decimalParts neg present (e + (Shortest.significant k).2)
    have sign : p.neg = neg := by
      unfold p decimalParts; dsimp only; split_ifs <;> rfl
    refine ⟨p, valid_decimalParts neg lead _, float, sign, spelled, ?_⟩
    rw [value_of_not_integer float]
    obtain ⟨digitsPos, scale⟩ := scale_decimalParts neg lead (e + (Shortest.significant k).2)
    -- the digits read back scale to the shortest decimal `k * 10^e`
    have same : (digitsValue (p.whole ++ p.fraction) : ℚ) *
        10 ^ (exponentValue p.exponent - p.fraction.length) = k * 10 ^ e := by
      rw [scale]
      conv_rhs => rw [scaledK]
      have within : (Shortest.significant k).1.length ≤ (Shortest.significant k).2 := by
        rw [length]
        have := congrArg List.length (Shortest.significant_digits k).1
        simp only [List.length_append, List.length_map, List.length_replicate] at this
        omega
      push_cast
      rw [mul_assoc, ← zpow_natCast, ← zpow_add₀ (by norm_num)]
      congr 2
      push_cast [within]
      ring
    rw [← same] at rounds
    rw [sign, decimalToBinary64_of_roundsTo neg digitsPos normal rounds, ← xEq]

/-- A finite number's text is read back as that number. -/
theorem scanNumber_spell {x : Binary64} {neg : Bool} {m : Nat} {q : Int}
    (finite : x.toParts = .finite neg m q) (h : remaining doc i = Binary64.spell numberStyle x ++ t)
    (ends : Ends t) :
    scanNumber doc i = .ok (.float x, i + (Binary64.spell numberStyle x).length) := by
  obtain ⟨p, valid, float, -, spelled, value⟩ := spell_parts finite
  rw [spelled] at h ⊢
  rw [scanNumber_parts valid (by simp [float]) h ends, value]

end Json.Reader

end Bookmarks
