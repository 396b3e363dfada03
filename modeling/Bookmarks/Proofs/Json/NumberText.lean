import Mathlib
import Bookmarks.Proofs.Json.Cursor
/-!
Number texts as the reader takes them apart.

A number text is an optional minus, integer digits, an optional fraction after a point and an
optional exponent after an `e` and its sign. `NumberParts` holds these pieces. The reader reads
the text they spell, followed by anything that cannot continue a number, as the integer or the
binary64 number the pieces stand for (`scanNumber_parts`); each end the reader looks for has
its own lemma, in the order the reader finds them.
-/
namespace Bookmarks

namespace Text

/-- The decimal digits of a number are those of its tenth followed by its last digit. -/
theorem ofNat_eq_if (n : Nat) :
    ofNat n = if n < 10 then [0x30 + n] else ofNat (n / 10) ++ [0x30 + n % 10] := by
  unfold ofNat
  rw [Nat.toDigits_eq_if (by decide)]
  split
  · rename_i small
    simp [Nat.toNat_digitChar_of_lt_ten small]
  · simp [Nat.toNat_digitChar_of_lt_ten (Nat.mod_lt n (by decide))]

theorem ofNat_zero : ofNat 0 = [0x30] := by
  simp [ofNat_eq_if 0]

theorem isDigit_of_mem_ofNat {n c : Nat} (member : c ∈ ofNat n) : isDigit c := by
  induction n using Nat.strong_induction_on with
  | _ n ih =>
    rw [ofNat_eq_if] at member
    split at member
    · simp only [List.mem_singleton] at member
      simp [isDigit]
      omega
    · rcases List.mem_append.mp member with earlier | last
      · exact ih (n / 10) (by omega) earlier
      · simp only [List.mem_singleton] at last
        simp [isDigit]
        omega

/-- A positive number's digits start with one from 1 to 9. -/
theorem ofNat_head {n : Nat} (pos : 0 < n) :
    ∃ c cs, ofNat n = c :: cs ∧ 0x31 ≤ c ∧ c ≤ 0x39 := by
  induction n using Nat.strong_induction_on with
  | _ n ih =>
    rw [ofNat_eq_if]
    split
    · exact ⟨_, [], rfl, by omega, by omega⟩
    · obtain ⟨c, cs, same, low, high⟩ := ih (n / 10) (by omega) (by omega)
      exact ⟨c, cs ++ [0x30 + n % 10], by simp [same], low, high⟩

end Text

namespace Json.Reader

/-! ## Values of digit runs -/

theorem digitsValue_append (a b : List Nat) :
    digitsValue (a ++ b) = digitsValue a * 10 ^ b.length + digitsValue b := by
  -- the fold from any start is that start shifted past the digits, plus their value
  have shift : ∀ (start : Nat) (l : List Nat),
      l.foldl (fun n d => n * 10 + (d - 0x30)) start = start * 10 ^ l.length + digitsValue l := by
    intro start l
    induction l generalizing start with
    | nil => simp [digitsValue]
    | cons d ds ih =>
      simp only [List.foldl_cons, List.length_cons, digitsValue] at ih ⊢
      rw [ih, ih (0 * 10 + (d - 0x30))]
      ring
  unfold digitsValue
  rw [List.foldl_append]
  exact shift _ b

theorem digitsValue_zeros (z : Nat) : digitsValue (List.replicate z 0x30) = 0 := by
  induction z with
  | zero => rfl
  | succ z ih => rw [List.replicate_succ', digitsValue_append, ih]; rfl

theorem digitsValue_ofNat (n : Nat) : digitsValue (Text.ofNat n) = n := by
  have same : digitsValue (Text.ofNat n) = Nat.ofDigitChars 10 (Nat.toDigits 10 n) 0 := by
    simp only [digitsValue, Text.ofNat, List.foldl_map, Nat.ofDigitChars_eq_foldl]
    congr 1
    funext s c
    simp only [Char.reduceToNat]
    ring
  rw [same, Nat.ofDigitChars_ten_toDigits]

/-! ## The pieces of a number text -/

/-- The pieces of a number text: whether a minus stands before it, its integer digits, the
digits of its fraction (none when it has no point) and its exponent, negative or not, with its
digits. -/
structure NumberParts where
  neg : Bool
  whole : Text
  fraction : Text
  exponent : Option (Bool × Text)

namespace NumberParts

/-- The minus of a negative number. -/
def signText (neg : Bool) : Text := if neg then [0x2D] else []

/-- The point and digits of a fraction, when there is one. -/
def fractionText (fraction : Text) : Text := if fraction = [] then [] else 0x2E :: fraction

/-- The `e`, sign and digits of an exponent, when there is one. -/
def exponentText : Option (Bool × Text) → Text
  | none => []
  | some (negative, digits) => 0x65 :: (if negative then 0x2D else 0x2B) :: digits

/-- The text the pieces spell. -/
def text (p : NumberParts) : Text :=
  signText p.neg ++ p.whole ++ fractionText p.fraction ++ exponentText p.exponent

/-- Digits led by one from 1 to 9. -/
def Significand (digits : Text) : Prop :=
  ∃ c cs, digits = c :: cs ∧ 0x31 ≤ c ∧ c ≤ 0x39 ∧ ∀ d ∈ cs, Text.isDigit d

/-- Integer digits as a number text has them: a lone zero, or digits led by one from 1 to 9. -/
def WholeDigits (whole : Text) : Prop := whole = [0x30] ∨ Significand whole

/-- Pieces that spell a number: integer digits without a leading zero, and digits in the
fraction and at least one in the exponent. -/
structure Valid (p : NumberParts) : Prop where
  whole : WholeDigits p.whole
  fraction : ∀ d ∈ p.fraction, Text.isDigit d
  exponent : ∀ negative digits, p.exponent = some (negative, digits) →
    digits ≠ [] ∧ ∀ d ∈ digits, Text.isDigit d

/-- Whether the pieces spell an integer: no point and no exponent. -/
def isInteger (p : NumberParts) : Bool := p.fraction.isEmpty && p.exponent.isNone

/-- The power of ten the exponent gives. -/
def exponentValue : Option (Bool × Text) → Int
  | none => 0
  | some (true, digits) => -(digitsValue digits : Int)
  | some (false, digits) => digitsValue digits

/-- The value the reader gives a number text. -/
def value (p : NumberParts) : Value :=
  if p.isInteger then
    .int (if p.neg then -(digitsValue p.whole : Int) else digitsValue p.whole)
  else
    .float (decimalToBinary64 p.neg (digitsValue (p.whole ++ p.fraction))
      (exponentValue p.exponent - p.fraction.length))

end NumberParts

open NumberParts

variable {doc : Doc} {i : Nat} {t : Text}

/-- A number text starts with its sign and a digit. -/
theorem head_of_valid {p : NumberParts} (valid : p.Valid) :
    ∃ d t, p.text = signText p.neg ++ d :: t ∧ Text.isDigit d := by
  rcases valid.whole with zero | ⟨c, cs, lead, low, high, -⟩
  · exact ⟨0x30, fractionText p.fraction ++ exponentText p.exponent, by simp [text, zero], by decide⟩
  · refine ⟨c, cs ++ fractionText p.fraction ++ exponentText p.exponent, by simp [text, lead], ?_⟩
    simp [Text.isDigit]
    omega

/-- What cannot continue a number: anything but a digit, a point or an `e`. -/
def Ends (t : Text) : Prop :=
  ∀ c ∈ t.head?, Text.isDigit c = false ∧ c ≠ 0x2E ∧ c ≠ 0x65 ∧ c ≠ 0x45

theorem wholeEnd?_of_digits {whole : Text} (digits : WholeDigits whole)
    (h : remaining doc i = whole ++ t) (stop : ∀ c ∈ t.head?, Text.isDigit c = false) :
    wholeEnd? doc i = some (i + whole.length) := by
  rcases digits with rfl | ⟨c, cs, rfl, low, high, rest⟩
  · unfold wholeEnd?
    rw [at?_of_remaining h]
    rfl
  · have next := skipDigits_of_remaining (remaining_succ h) rest stop
    simp only [wholeEnd?, at?_of_remaining h, low, high, decide_true, Bool.and_self, if_true, next,
      List.length_cons]
    congr 1
    omega

theorem fractionEnd_of_none (h : remaining doc i = t) (stop : ∀ c ∈ t.head?, c ≠ 0x2E) :
    fractionEnd doc i = (i, false) := by
  unfold fractionEnd
  rw [if_neg]
  cases t with
  | nil => simp [at?_eq_head, h]
  | cons c cs => simp [at?_of_remaining h, stop c rfl]

theorem fractionEnd_of_digits {fraction : Text} (h : remaining doc i = 0x2E :: fraction ++ t)
    (present : fraction ≠ []) (digits : ∀ d ∈ fraction, Text.isDigit d)
    (stop : ∀ c ∈ t.head?, Text.isDigit c = false) :
    fractionEnd doc i = (i + 1 + fraction.length, true) := by
  obtain ⟨f, fs, rfl⟩ := List.exists_cons_of_ne_nil present
  simp only [List.cons_append] at h
  have afterPoint := remaining_succ h
  have afterFirst := remaining_succ afterPoint
  have size := size_eq_of_remaining h
  simp only [List.length_cons, List.length_append] at size
  have first : digitAt doc (i + 1) = true := by
    simp [digitAt, at?_of_remaining afterPoint, digits f (.head fs)]
  have next := skipDigits_of_remaining afterFirst (fun d member => digits d (.tail f member)) stop
  have point : (decide (i < doc.size - 1) && at? doc i == some 0x2E && digitAt doc (i + 1)) = true := by
    simp [at?_of_remaining h, first]
    omega
  simp only [fractionEnd, point, if_true, next, List.length_cons]
  congr 1
  omega

theorem exponentEnd_of_none (h : remaining doc i = t) (stop : ∀ c ∈ t.head?, c ≠ 0x65 ∧ c ≠ 0x45) :
    exponentEnd doc i = (i, false) := by
  unfold exponentEnd
  rw [if_neg]
  cases t with
  | nil => simp [at?_eq_head, h]
  | cons c cs => simp [at?_of_remaining h, (stop c rfl).1, (stop c rfl).2]

theorem exponentEnd_of_digits {negative : Bool} {digits : Text}
    (h : remaining doc i = exponentText (some (negative, digits)) ++ t) (present : digits ≠ [])
    (allDigits : ∀ d ∈ digits, Text.isDigit d) (stop : ∀ c ∈ t.head?, Text.isDigit c = false) :
    exponentEnd doc i = (i + 2 + digits.length, true) := by
  simp only [exponentText, List.cons_append] at h
  have afterE := remaining_succ h
  have afterSign := remaining_succ afterE
  have next := skipDigits_of_remaining afterSign allDigits stop
  -- the digit the exponent ends with is the one the reader checks last
  obtain ⟨init, d, rfl⟩ : ∃ init d, digits = init ++ [d] :=
    ⟨digits.dropLast, digits.getLast present, (List.dropLast_append_getLast present).symm⟩
  have size := size_eq_of_remaining h
  simp only [List.length_cons, List.length_append, List.length_nil, Nat.zero_add] at size next ⊢
  have lastAt : digitAt doc (i + 1 + 1 + (init.length + 1) - 1) = true := by
    rw [show i + 1 + 1 + (init.length + 1) - 1 = (i + 1 + 1) + init.length by omega,
      digitAt, at?_append afterSign (by simp)]
    simp [allDigits d (by simp)]
  have marker : (decide (i < doc.size - 1) && (at? doc i == some 0x65 || at? doc i == some 0x45))
      = true := by
    simp [at?_of_remaining h]
    omega
  have signed : (decide (i + 1 < doc.size - 1) &&
      (at? doc (i + 1) == some 0x2D || at? doc (i + 1) == some 0x2B)) = true := by
    cases negative <;> simp [at?_of_remaining afterE] <;> omega
  simp only [exponentEnd, marker, signed, if_true, next, lastAt]

/-! ## Reading the whole text -/

/-- What remains at each end the reader finds in a number text. -/
theorem remaining_of_parts (p : NumberParts) (h : remaining doc i = p.text ++ t) :
    remaining doc (i + (signText p.neg).length) =
        p.whole ++ (fractionText p.fraction ++ (exponentText p.exponent ++ t)) ∧
      remaining doc (i + (signText p.neg).length + p.whole.length) =
        fractionText p.fraction ++ (exponentText p.exponent ++ t) ∧
      remaining doc (i + (signText p.neg).length + p.whole.length +
        (fractionText p.fraction).length) = exponentText p.exponent ++ t ∧
      i + p.text.length = i + (signText p.neg).length + p.whole.length +
        (fractionText p.fraction).length + (exponentText p.exponent).length := by
  simp only [text, List.append_assoc] at h
  have atWhole := remaining_append h
  have atFraction := remaining_append atWhole
  have atExponent := remaining_append atFraction
  refine ⟨atWhole, atFraction, atExponent, ?_⟩
  simp only [text, List.length_append]
  omega

/-- After the integer digits comes a point, an `e` or the end of the number. -/
theorem head_after_whole (p : NumberParts) (ends : Ends t) :
    ∀ c ∈ (fractionText p.fraction ++ (exponentText p.exponent ++ t)).head?,
      Text.isDigit c = false := by
  intro c member
  unfold fractionText at member
  split at member
  · cases e : p.exponent with
    | none => simp only [e, exponentText, List.nil_append] at member; exact (ends c member).1
    | some x => simp [e, exponentText] at member; simp [← member, Text.isDigit]
  · simp at member; simp [← member, Text.isDigit]

/-- After the fraction comes an `e` or the end of the number. -/
theorem head_after_fraction (p : NumberParts) (ends : Ends t) :
    ∀ c ∈ (exponentText p.exponent ++ t).head?, Text.isDigit c = false ∧ c ≠ 0x2E := by
  intro c member
  cases e : p.exponent with
  | none =>
    simp only [e, exponentText, List.nil_append] at member
    exact ⟨(ends c member).1, (ends c member).2.1⟩
  | some x => simp [e, exponentText] at member; simp [← member, Text.isDigit]

/-- A minus is read at the start exactly when the number has one. -/
theorem minus_of_parts {p : NumberParts} (valid : p.Valid) (h : remaining doc i = p.text ++ t) :
    (at? doc i == some 0x2D) = p.neg := by
  have first : (p.text ++ t).head? = (signText p.neg ++ p.whole).head? := by
    rcases valid.whole with w | ⟨c, cs, w, -⟩ <;> simp [text, w]
  rw [at?_eq_head, h, first]
  rcases valid.whole with w | ⟨c, cs, w, low, -⟩ <;> cases p.neg <;> simp [signText, w]
  omega

theorem start_of_sign (neg : Bool) : (if neg then i + 1 else i) = i + (signText neg).length := by
  cases neg <;> rfl

theorem numberValue_parts {p : NumberParts} (valid : p.Valid)
    (short : p.isInteger → p.whole.length ≤ digitLimit) (h : remaining doc i = p.text ++ t) :
    numberValue doc i (i + (signText p.neg).length + p.whole.length)
      (i + (signText p.neg).length + p.whole.length + (fractionText p.fraction).length)
      (i + p.text.length) (!p.isInteger) = .ok p.value := by
  obtain ⟨atWhole, atFraction, atExponent, stop⟩ := remaining_of_parts p h
  have fractionSlice :
      (if i + (signText p.neg).length + p.whole.length + (fractionText p.fraction).length >
          i + (signText p.neg).length + p.whole.length then
        (doc.extract (i + (signText p.neg).length + p.whole.length + 1)
          (i + (signText p.neg).length + p.whole.length + (fractionText p.fraction).length)).toList
      else []) = p.fraction := by
    by_cases empty : p.fraction = []
    · simp [fractionText, empty]
    · have point : fractionText p.fraction = 0x2E :: p.fraction := by simp [fractionText, empty]
      rw [point, List.cons_append] at atFraction
      have digits := extract_of_remaining (remaining_succ atFraction)
      simp only [point, List.length_cons]
      rw [if_pos (by omega), show i + (signText p.neg).length + p.whole.length +
        (p.fraction.length + 1) = i + (signText p.neg).length + p.whole.length + 1 +
          p.fraction.length by omega]
      exact digits
  rw [stop]
  unfold numberValue
  simp only [minus_of_parts valid h, start_of_sign, extract_of_remaining atWhole, fractionSlice,
    extract_of_remaining atExponent]
  unfold value
  cases integer : p.isInteger
  · simp only [Bool.not_false, Bool.false_eq_true, if_false]
    rcases p.exponent with _ | ⟨_ | _, ds⟩ <;> rfl
  · have fits := short integer
    simp [Nat.not_lt.mpr fits]

/-- The reader reads a number text, followed by what cannot continue it, as the value of its
pieces, and stops right after it. -/
theorem scanNumber_parts {p : NumberParts} (valid : p.Valid)
    (short : p.isInteger → p.whole.length ≤ digitLimit) (h : remaining doc i = p.text ++ t)
    (ends : Ends t) : scanNumber doc i = .ok (p.value, i + p.text.length) := by
  obtain ⟨atWhole, atFraction, atExponent, stop⟩ := remaining_of_parts p h
  have read := numberValue_parts valid short h
  -- the integer digits are there, so a minus is not the last code point
  have inside : i + (signText p.neg).length < doc.size := by
    rcases valid.whole with w | ⟨c, cs, w, -⟩ <;> rw [w, List.cons_append] at atWhole <;>
      exact lt_size_of_remaining atWhole
  have whole := wholeEnd?_of_digits valid.whole atWhole (head_after_whole p ends)
  have fraction : fractionEnd doc (i + (signText p.neg).length + p.whole.length) =
      (i + (signText p.neg).length + p.whole.length + (fractionText p.fraction).length,
        !p.fraction.isEmpty) := by
    by_cases empty : p.fraction = []
    · rw [empty, fractionText, if_pos rfl, List.nil_append] at atFraction
      rw [fractionEnd_of_none atFraction (fun c member => (head_after_fraction p ends c member).2)]
      simp [fractionText, empty]
    · rw [fractionText, if_neg empty] at atFraction
      rw [fractionEnd_of_digits atFraction empty valid.fraction
        (fun c member => (head_after_fraction p ends c member).1)]
      simp [fractionText, empty]
      omega
  have exponent : exponentEnd doc (i + (signText p.neg).length + p.whole.length +
      (fractionText p.fraction).length) = (i + p.text.length, p.exponent.isSome) := by
    rw [stop]
    cases e : p.exponent with
    | none =>
      rw [e, exponentText, List.nil_append] at atExponent
      rw [exponentEnd_of_none atExponent
        (fun c member => ⟨(ends c member).2.2.1, (ends c member).2.2.2⟩)]
      simp [exponentText]
    | some x =>
      obtain ⟨negative, digits⟩ := x
      rw [e] at atExponent
      obtain ⟨present, allDigits⟩ := valid.exponent negative digits e
      rw [exponentEnd_of_digits atExponent present allDigits (fun c member => (ends c member).1)]
      simp [exponentText]
      omega
  have float : (!p.fraction.isEmpty || p.exponent.isSome) = !p.isInteger := by
    simp [isInteger, Bool.not_and]
  unfold scanNumber
  simp only [minus_of_parts valid h, start_of_sign, whole, fraction, exponent, float, read]
  rw [if_neg (by simp; omega)]
  rfl

end Json.Reader

end Bookmarks
