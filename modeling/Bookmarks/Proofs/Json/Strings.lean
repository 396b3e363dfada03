import Mathlib
import Bookmarks.Proofs.Json.Cursor
import Bookmarks.Json.Writer
/-!
Texts written and read back.

The writer quotes a text with every code point outside printable ASCII escaped: `\b`, `\f`,
`\n`, `\r`, `\t` and the backslash before a quote or a backslash, `\u` and four hexadecimal
digits within the basic plane, and the escapes of its two surrogate halves beyond it. The reader
takes each escape back (`escapePoint_cases` says which forms there are, and a step lemma reads
each), so a text comes back whole (`scanText_quote`) when it is `storableText`: its code points
are at most U+10FFFF, and no high surrogate stands right before a low one, whose two escapes the
reader would join.
-/
namespace Bookmarks

namespace Text

/-- Four small hexadecimal digits of a code point in the basic plane, most significant first. -/
theorem hexPadded_four {c : Nat} (small : c < 0x10000) :
    hexPadded 4 c = [hexDigit (c / 4096), hexDigit (c / 256 % 16), hexDigit (c / 16 % 16),
      hexDigit (c % 16)] := by
  have zero : hexDigit 0 = 0x30 := rfl
  unfold hexPadded
  by_cases one : c < 16
  · rw [hexDigits, if_pos one]
    simp [zero, show c / 4096 = 0 by omega, show c / 256 % 16 = 0 by omega,
      show c / 16 % 16 = 0 by omega, Nat.mod_eq_of_lt one]
  rw [hexDigits, if_neg one]
  by_cases two : c / 16 < 16
  · rw [hexDigits, if_pos two]
    simp [zero, show c / 4096 = 0 by omega, show c / 256 % 16 = 0 by omega,
      Nat.mod_eq_of_lt two]
  rw [hexDigits, if_neg two]
  by_cases three : c / 16 / 16 < 16
  · rw [hexDigits, if_pos three]
    simp [zero, show c / 4096 = 0 by omega, show c / 256 % 16 = c / 16 / 16 by omega]
  rw [hexDigits, if_neg three, hexDigits, if_pos (by omega)]
  simp only [List.map_append, List.map_cons, List.map_nil, List.length_append,
    List.length_cons, List.length_nil]
  simp [show c / 16 / 16 / 16 = c / 4096 by omega, show c / 16 / 16 % 16 = c / 256 % 16 by omega]

theorem hexValue?_hexDigit {d : Nat} (small : d < 16) : hexValue? (hexDigit d) = some d := by
  unfold hexDigit hexValue?
  by_cases digit : d < 10
  · simp [digit, isDigit]
    omega
  · simp only [digit, if_false, isDigit]
    rw [if_neg (by simp; omega), if_pos (by simp; omega)]
    congr 1
    omega

/-- The hexadecimal digits of a number are each below sixteen. -/
theorem hexDigits_lt (n : Nat) : ∀ d ∈ hexDigits n, d < 16 := by
  induction n using Nat.strong_induction_on with
  | _ n ih =>
    rw [hexDigits]
    split
    · rename_i small
      simpa using small
    · rename_i large
      simp only [List.mem_append, List.mem_singleton]
      rintro d (higher | rfl)
      · exact ih (n / 16) (by omega) d higher
      · omega

/-- Padded hexadecimal digits are printable ASCII, whatever the number. -/
theorem printable_hexPadded (width n : Nat) :
    ∀ d ∈ hexPadded width n, 0x20 ≤ d ∧ d ≤ 0x7E := by
  intro d member
  simp only [hexPadded, List.mem_append, List.mem_replicate, List.mem_map] at member
  rcases member with ⟨-, rfl⟩ | ⟨k, digit, rfl⟩
  · omega
  · have small := hexDigits_lt n k digit
    unfold hexDigit
    split <;> omega

end Text

namespace Json

/-- Whether a text comes back from its quoted form: every code point is at most U+10FFFF, and
no high surrogate stands right before a low one, since the reader joins the escapes of such a
pair into one code point. -/
def storableText : Text → Bool
  | [] => true
  | c :: cs => decide (c ≤ 0x10FFFF) &&
      !(Text.isHighSurrogate c && cs.head?.any Text.isLowSurrogate) && storableText cs

/-- Every code point of an escape is printable ASCII. -/
theorem printable_escapePoint (c : Nat) : ∀ d ∈ escapePoint c, 0x20 ≤ d ∧ d ≤ 0x7E := by
  -- each of the seven named characters is escaped by a backslash and a letter
  by_cases named : c ∈ [0x22, 0x5C, 0x0A, 0x0D, 0x09, 0x08, 0x0C]
  · simp only [List.mem_cons, List.not_mem_nil, or_false] at named
    rcases named with rfl | rfl | rfl | rfl | rfl | rfl | rfl <;> decide
  simp only [List.mem_cons, List.not_mem_nil, or_false, not_or] at named
  obtain ⟨quote, backslash, lf, cr, tab, bs, ff⟩ := named
  rw [escapePoint, if_neg quote, if_neg backslash, if_neg lf, if_neg cr, if_neg tab, if_neg bs,
    if_neg ff]
  split
  · rename_i printable
    simp only [Bool.and_eq_true, decide_eq_true_eq] at printable
    simpa using printable
  split
  · simp only [List.forall_mem_append]
    exact ⟨by decide, Text.printable_hexPadded 4 c⟩
  · simp only [List.forall_mem_append]
    exact ⟨⟨⟨by decide, Text.printable_hexPadded 4 _⟩, by decide⟩, Text.printable_hexPadded 4 _⟩

/-- The quoted form of a text is printable ASCII. -/
theorem printable_quote (s : Text) : ∀ d ∈ quote s, 0x20 ≤ d ∧ d ≤ 0x7E := by
  intro d member
  simp only [quote, List.cons_append, List.mem_cons, List.mem_append, List.mem_flatMap,
    List.not_mem_nil, or_false] at member
  rcases member with rfl | ⟨c, -, inEscape⟩ | rfl
  · decide
  · exact printable_escapePoint c d inEscape
  · decide

namespace Reader

variable {doc : Doc} {i : Nat} {t : Text}

/-- Four hexadecimal digits in front of what remains are read as their value. -/
theorem hex4?_of_remaining {c : Nat} (small : c < 0x10000)
    (h : remaining doc i = Text.hexPadded 4 c ++ t) : hex4? doc i = some c := by
  rw [Text.hexPadded_four small] at h
  simp only [List.cons_append, List.nil_append] at h
  have first := at?_of_remaining h
  have second := at?_of_remaining (remaining_succ h)
  have third := at?_of_remaining (remaining_succ (remaining_succ h))
  have fourth := at?_of_remaining (remaining_succ (remaining_succ (remaining_succ h)))
  simp only [hex4?, first, second, third, fourth, Option.bind_some, Option.bind_eq_bind,
    Option.pure_def,
    Text.hexValue?_hexDigit (show c / 4096 < 16 by omega),
    Text.hexValue?_hexDigit (show c / 256 % 16 < 16 by omega),
    Text.hexValue?_hexDigit (show c / 16 % 16 < 16 by omega),
    Text.hexValue?_hexDigit (show c % 16 < 16 by omega)]
  congr 1
  omega

/-- The ways one code point is escaped: as itself, as a backslash and a letter, as `\u` and
four hexadecimal digits, or beyond the basic plane as the escapes of its two surrogate
halves. -/
theorem escapePoint_cases (c : Nat) :
    (escapePoint c = [c] ∧ 0x1F < c ∧ c ≠ 0x22 ∧ c ≠ 0x5C) ∨
    (∃ e, escapePoint c = [0x5C, e] ∧ e ≠ 0x75 ∧ simpleEscape? e = some c) ∨
    (c < 0x10000 ∧ escapePoint c = 0x5C :: 0x75 :: Text.hexPadded 4 c) ∨
    (0x10000 ≤ c ∧ escapePoint c = 0x5C :: 0x75 :: (Text.hexPadded 4 (0xD800 + (c - 0x10000) / 0x400) ++
      0x5C :: 0x75 :: Text.hexPadded 4 (0xDC00 + (c - 0x10000) % 0x400))) := by
  -- the halves are kept whole: unfolding their digits would make the kernel compute them
  have pair : ∀ hi lo : Text, [0x5C, 0x75] ++ hi ++ [0x5C, 0x75] ++ lo =
      0x5C :: 0x75 :: (hi ++ 0x5C :: 0x75 :: lo) := by simp
  -- each of the seven named characters is escaped by a backslash and a letter that reads back
  by_cases named : c ∈ [0x22, 0x5C, 0x0A, 0x0D, 0x09, 0x08, 0x0C]
  · simp only [List.mem_cons, List.not_mem_nil, or_false] at named
    rcases named with rfl | rfl | rfl | rfl | rfl | rfl | rfl <;>
      exact .inr (.inl ⟨_, rfl, by decide, by decide⟩)
  simp only [List.mem_cons, List.not_mem_nil, or_false, not_or] at named
  obtain ⟨quote, backslash, lf, cr, tab, bs, ff⟩ := named
  rw [escapePoint, if_neg quote, if_neg backslash, if_neg lf, if_neg cr, if_neg tab, if_neg bs,
    if_neg ff]
  split
  · rename_i printable
    simp only [Bool.and_eq_true, decide_eq_true_eq] at printable
    exact .inl ⟨rfl, by omega, quote, backslash⟩
  split
  · rename_i basic
    exact .inr (.inr (.inl ⟨basic, rfl⟩))
  · exact .inr (.inr (.inr ⟨by omega, pair _ _⟩))

theorem scanText_close {b : Nat} {acc : Text} (h : remaining doc i = 0x22 :: t) :
    scanText doc b i acc = .ok (acc.reverse, i + 1) := by
  rw [scanText, dif_pos (lt_size_of_remaining h)]
  simp [getElem_of_remaining h]

theorem scanText_plain {b c : Nat} {acc : Text} (h : remaining doc i = c :: t) (printable : 0x1F < c)
    (quote : c ≠ 0x22) (backslash : c ≠ 0x5C) :
    scanText doc b i acc = scanText doc b (i + 1) (c :: acc) := by
  rw [scanText, dif_pos (lt_size_of_remaining h)]
  simp [getElem_of_remaining h, quote, backslash, show ¬c ≤ 0x1F by omega]

theorem scanText_simple {b e v : Nat} {acc : Text} (h : remaining doc i = 0x5C :: e :: t)
    (notU : e ≠ 0x75) (simple : simpleEscape? e = some v) :
    scanText doc b i acc = scanText doc b (i + 2) (v :: acc) := by
  rw [scanText, dif_pos (lt_size_of_remaining h)]
  simp [getElem_of_remaining h, at?_of_remaining (remaining_succ h), notU, simple]

theorem length_hexPadded_four {c : Nat} (small : c < 0x10000) : (Text.hexPadded 4 c).length = 4 := by
  rw [Text.hexPadded_four small]
  rfl

/-- A `\u` escape that does not start a surrogate pair is read as its code point. -/
theorem scanText_unicode {b u d : Nat} {acc : Text}
    (h : remaining doc i = 0x5C :: 0x75 :: (Text.hexPadded 4 u ++ d :: t)) (small : u < 0x10000)
    (alone : Text.isHighSurrogate u → at? doc (i + 6) = some 0x5C → at? doc (i + 7) = some 0x75 →
      ∃ low, hex4? doc (i + 8) = some low ∧ Text.isLowSurrogate low = false) :
    scanText doc b i acc = scanText doc b (i + 6) (u :: acc) := by
  have hex := hex4?_of_remaining small (remaining_succ (remaining_succ h))
  have size := size_eq_of_remaining h
  simp only [List.length_append, List.length_cons, length_hexPadded_four small] at size
  rw [scanText, dif_pos (lt_size_of_remaining h)]
  simp only [getElem_of_remaining h, at?_of_remaining (remaining_succ h), hex]
  simp only [show ¬(0x5C : Nat) = 0x22 by decide, if_false, if_true, ne_eq, not_true_eq_false,
    show ¬ i + 6 ≥ doc.size by omega]
  by_cases joined : (Text.isHighSurrogate u && decide (i + 12 < doc.size) &&
      at? doc (i + 6) == some 0x5C && at? doc (i + 7) == some 0x75) = true
  · simp only [Bool.and_eq_true, beq_iff_eq, decide_eq_true_eq] at joined
    obtain ⟨⟨⟨high, -⟩, backslash⟩, letter⟩ := joined
    obtain ⟨low, lowAt, notLow⟩ := alone high backslash letter
    simp [high, backslash, letter, lowAt, notLow]
  · rw [if_neg joined]

/-- The escapes of a high and a low surrogate in a row are read as the code point they make. -/
theorem scanText_pair {b hi lo d : Nat} {acc : Text}
    (h : remaining doc i = 0x5C :: 0x75 :: (Text.hexPadded 4 hi ++
      0x5C :: 0x75 :: (Text.hexPadded 4 lo ++ d :: t)))
    (high : Text.isHighSurrogate hi) (low : Text.isLowSurrogate lo) :
    scanText doc b i acc =
      scanText doc b (i + 12) ((0x10000 + (hi - 0xD800) * 0x400 + (lo - 0xDC00)) :: acc) := by
  simp only [Text.isHighSurrogate, Text.isLowSurrogate, Bool.and_eq_true, decide_eq_true_eq]
    at high low
  have hiHex := hex4?_of_remaining (by omega) (remaining_succ (remaining_succ h))
  have afterHi := remaining_append (remaining_succ (remaining_succ h))
  rw [length_hexPadded_four (by omega)] at afterHi
  have loHex := hex4?_of_remaining (show lo < 0x10000 by omega)
    (remaining_succ (remaining_succ afterHi))
  have backslash := at?_of_remaining afterHi
  have letter := at?_of_remaining (remaining_succ afterHi)
  have size := size_eq_of_remaining h
  simp only [List.length_append, List.length_cons, length_hexPadded_four (show hi < 0x10000 by omega),
    length_hexPadded_four (show lo < 0x10000 by omega)] at size
  rw [scanText, dif_pos (lt_size_of_remaining h)]
  simp only [getElem_of_remaining h, at?_of_remaining (remaining_succ h), hiHex]
  simp only [show ¬(0x5C : Nat) = 0x22 by decide, if_false, if_true, ne_eq, not_true_eq_false,
    show ¬ i + 6 ≥ doc.size by omega]
  have highHere : Text.isHighSurrogate hi = true := by simp [Text.isHighSurrogate]; omega
  have lowHere : Text.isLowSurrogate lo = true := by simp [Text.isLowSurrogate]; omega
  simp only [show i + 1 + 1 + 4 = i + 6 by omega] at backslash
  simp only [show i + 1 + 1 + 4 + 1 = i + 7 by omega] at letter
  simp only [show i + 1 + 1 + 4 + 1 + 1 = i + 8 by omega] at loHex
  simp [highHere, lowHere, backslash, letter, loHex, show i + 12 < doc.size by omega]

/-- Where an escape starts with a backslash and a `u`, four hexadecimal digits follow, and they
are no low surrogate unless the escaped code point is one. -/
theorem hex4?_after_escape {d : Nat} {w : Text} (valid : d ≤ 0x10FFFF)
    (h : remaining doc i = escapePoint d ++ w) (backslash : at? doc i = some 0x5C)
    (letter : at? doc (i + 1) = some 0x75) :
    ∃ low, hex4? doc (i + 2) = some low ∧
      (Text.isLowSurrogate low = true → Text.isLowSurrogate d = true) := by
  rcases escapePoint_cases d with ⟨same, printable, -, notBackslash⟩ | ⟨e, same, notU, -⟩ |
    ⟨small, same⟩ | ⟨large, same⟩
  · rw [at?_of_remaining (show remaining doc i = d :: w by rw [h, same]; rfl)] at backslash
    simp only [Option.some.injEq] at backslash
    exact absurd backslash notBackslash
  · have := at?_of_remaining (remaining_succ (show remaining doc i = 0x5C :: e :: w by
      rw [h, same]; rfl))
    rw [letter] at this
    simp only [Option.some.injEq] at this
    exact absurd this.symm notU
  · refine ⟨d, hex4?_of_remaining small (remaining_succ (remaining_succ (show remaining doc i =
      0x5C :: 0x75 :: (Text.hexPadded 4 d ++ w) by rw [h, same]; rfl))), fun low => low⟩
  · have shape : remaining doc i = 0x5C :: 0x75 ::
        (Text.hexPadded 4 (0xD800 + (d - 0x10000) / 0x400) ++
          0x5C :: 0x75 :: (Text.hexPadded 4 (0xDC00 + (d - 0x10000) % 0x400) ++ w)) := by
      rw [h, same, List.cons_append, List.cons_append, List.append_assoc, List.cons_append,
        List.cons_append]
    refine ⟨0xD800 + (d - 0x10000) / 0x400,
      hex4?_of_remaining (by omega) (remaining_succ (remaining_succ shape)), fun low => ?_⟩
    simp only [Text.isLowSurrogate, Bool.and_eq_true, decide_eq_true_eq] at low
    omega

/-- The reader reads the escape of one code point back as that code point. -/
theorem scanText_escapePoint {b c : Nat} {cs rest acc : Text} (valid : c ≤ 0x10FFFF)
    (apart : Text.isHighSurrogate c = true → ∀ d ∈ cs.head?, Text.isLowSurrogate d = false)
    (next : ∀ d ∈ cs.head?, d ≤ 0x10FFFF)
    (h : remaining doc i = escapePoint c ++ (cs.flatMap escapePoint ++ 0x22 :: rest)) :
    scanText doc b i acc = scanText doc b (i + (escapePoint c).length) (c :: acc) := by
  -- what follows the escape is never empty: at the least the closing quote
  obtain ⟨f, fs, following⟩ : ∃ f fs, cs.flatMap escapePoint ++ 0x22 :: rest = f :: fs :=
    List.exists_cons_of_ne_nil (by simp)
  rcases escapePoint_cases c with ⟨same, printable, quote, backslash⟩ | ⟨e, same, notU, simple⟩ |
    ⟨small, same⟩ | ⟨large, same⟩
  · rw [same] at h ⊢
    exact scanText_plain h printable quote backslash
  · rw [same] at h ⊢
    exact scanText_simple h notU simple
  · rw [same, List.cons_append, List.cons_append, following] at h
    rw [same, List.length_cons, List.length_cons, length_hexPadded_four small]
    apply scanText_unicode h small
    intro high backslash letter
    -- a surrogate pair starts only where the next code point's escape starts with `\u`
    cases cs with
    | nil =>
      simp only [List.flatMap_nil, List.nil_append] at following
      have quoteAt := at?_of_remaining (remaining_append (show remaining doc i =
        (0x5C :: 0x75 :: Text.hexPadded 4 c) ++ (0x22 :: rest) by rw [h, ← following]; rfl))
      simp only [List.length_cons, length_hexPadded_four small] at quoteAt
      rw [quoteAt] at backslash
      simp at backslash
    | cons d ds =>
      have after := remaining_append (show remaining doc i =
        (0x5C :: 0x75 :: Text.hexPadded 4 c) ++
          (escapePoint d ++ (ds.flatMap escapePoint ++ 0x22 :: rest)) by
        rw [h, ← following]; simp)
      simp only [List.length_cons, length_hexPadded_four small] at after
      obtain ⟨low, lowAt, lowOnly⟩ := hex4?_after_escape (next d rfl) after backslash letter
      refine ⟨low, lowAt, ?_⟩
      cases lowBool : Text.isLowSurrogate low with
      | false => rfl
      | true => exact absurd (lowOnly lowBool) (by simp [apart high d rfl])
  · have twelve : (escapePoint c).length = 12 := by
      rw [same]
      rw [List.length_cons, List.length_cons, List.length_append, List.length_cons, List.length_cons,
        length_hexPadded_four (show 0xD800 + (c - 0x10000) / 0x400 < 0x10000 by omega),
        length_hexPadded_four (show 0xDC00 + (c - 0x10000) % 0x400 < 0x10000 by omega)]
    rw [twelve]
    rw [same] at h
    rw [List.cons_append, List.cons_append, List.append_assoc, List.cons_append, List.cons_append,
      following] at h
    rw [scanText_pair h (by simp [Text.isHighSurrogate]; omega)
      (by simp [Text.isLowSurrogate]; omega)]
    have combined : 0x10000 + (0xD800 + (c - 0x10000) / 0x400 - 0xD800) * 0x400 +
        (0xDC00 + (c - 0x10000) % 0x400 - 0xDC00) = c := by omega
    rw [combined]

/-- The reader reads the escaped code points of a storable text back, up to the closing
quote. -/
theorem scanText_escaped {b : Nat} {s rest acc : Text} (storable : storableText s = true)
    (h : remaining doc i = s.flatMap escapePoint ++ 0x22 :: rest) :
    scanText doc b i acc = .ok (acc.reverse ++ s, i + (s.flatMap escapePoint).length + 1) := by
  induction s generalizing i acc with
  | nil => simpa using scanText_close h
  | cons c cs ih =>
    simp only [storableText, Bool.and_eq_true, decide_eq_true_eq, Bool.not_eq_true',
      Bool.and_eq_false_iff] at storable
    obtain ⟨⟨valid, apart⟩, rest⟩ := storable
    have nextValid : ∀ d ∈ cs.head?, d ≤ 0x10FFFF := by
      intro d first
      cases cs with
      | nil => simp at first
      | cons d' ds =>
        simp only [List.head?_cons, Option.mem_def, Option.some.injEq] at first
        subst first
        simp only [storableText, Bool.and_eq_true, decide_eq_true_eq] at rest
        exact rest.1.1
    have separate : Text.isHighSurrogate c = true → ∀ d ∈ cs.head?, Text.isLowSurrogate d = false := by
      intro high d first
      rcases apart with notHigh | notLow
      · simp [high] at notHigh
      · cases cs with
        | nil => simp at first
        | cons d' ds =>
          simp only [List.head?_cons, Option.mem_def, Option.some.injEq] at first
          subst first
          simpa using notLow
    simp only [List.flatMap_cons, List.append_assoc] at h
    rw [scanText_escapePoint valid separate nextValid h, ih rest (remaining_append h)]
    simp only [List.reverse_cons, List.append_assoc, List.singleton_append, List.flatMap_cons,
      List.length_append]
    congr 2
    omega

/-- A storable text is read back from its quoted form, and the reader stops right after the
closing quote. -/
theorem scanText_quote {s rest : Text} (storable : storableText s = true)
    (h : remaining doc i = quote s ++ rest) :
    scanText doc i (i + 1) [] = .ok (s, i + (quote s).length) := by
  simp only [quote, List.cons_append, List.append_assoc, List.nil_append] at h
  rw [scanText_escaped storable (remaining_succ h)]
  simp only [quote, List.reverse_nil, List.nil_append, List.cons_append, List.length_cons,
    List.length_append, List.length_nil]
  congr 2
  omega

end Reader

end Json

end Bookmarks
