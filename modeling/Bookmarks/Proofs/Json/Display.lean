import Bookmarks.Proofs.Json.Layout
import Bookmarks.Json.Display
import Bookmarks.Json.Access
/-!
Which texts are storable, and why the display of a storable value is one.

A storable text holds no code point beyond U+10FFFF and no high surrogate right before a low
one; a plain code point (at most U+10FFFF, no surrogate) may stand anywhere in one. A text
displays as itself, any other value as its literal, which is plain throughout: a code point of
a text inside it stands for itself only when printable, which no surrogate is
(`isPlain_of_isPrintable`). So the display of a storable value is storable, and so is what a
storable value walks through.
-/
namespace Bookmarks

namespace Text

/-- A code point a text may hold anywhere: at most U+10FFFF, and no surrogate. -/
def isPlain (c : Nat) : Bool := decide (c ≤ 0x10FFFF) && !isSurrogate c

/-- A code point the halving search finds lies in one of the ranges it searched. -/
theorem RangeTable.mem_of_searchBetween {table : RangeTable} {c lo hi : Nat}
    (found : table.searchBetween c lo hi = true) :
    ∃ k, lo ≤ k ∧ k < hi ∧ (table.getD k (1, 0)).1 ≤ c ∧ c ≤ (table.getD k (1, 0)).2 := by
  fun_induction RangeTable.searchBetween table c lo hi with
  | case1 lo hi inside mid first last middle below ih =>
    obtain ⟨k, low, high, within⟩ := ih found
    exact ⟨k, low, by omega, within⟩
  | case2 lo hi inside mid first last middle notBelow above ih =>
    obtain ⟨k, low, high, within⟩ := ih found
    exact ⟨k, by omega, high, within⟩
  | case3 lo hi inside mid first last middle notBelow notAbove =>
    refine ⟨mid, by omega, by omega, ?_, ?_⟩ <;> rw [middle] <;> omega
  | case4 => cases found

/-- No range of printable code points reaches past U+10FFFF or into the surrogates. -/
theorem printableRanges_plain : printableRanges.toList.all (fun r =>
    decide (r.2 ≤ 0x10FFFF) && (decide (r.2 < 0xD800) || decide (0xDFFF < r.1))) = true := by
  decide +kernel

/-- A plain code point, in numbers. -/
theorem isPlain_iff {c : Nat} : isPlain c = true ↔ c ≤ 0x10FFFF ∧ (c < 0xD800 ∨ 0xDFFF < c) := by
  simp only [isPlain, isSurrogate, Bool.and_eq_true, decide_eq_true_eq, Bool.not_eq_true',
    Bool.and_eq_false_imp, decide_eq_false_iff_not]
  omega

/-- A plain code point is neither half of a surrogate pair. -/
theorem surrogates_of_isPlain {c : Nat} (plain : isPlain c = true) :
    isHighSurrogate c = false ∧ isLowSurrogate c = false := by
  have bounds := isPlain_iff.mp plain
  simp only [isHighSurrogate, isLowSurrogate, Bool.and_eq_false_imp, decide_eq_true_eq,
    decide_eq_false_iff_not]
  omega

/-- A printable code point is plain. -/
theorem isPlain_of_isPrintable {c : Nat} (printable : isPrintable c = true) : isPlain c = true := by
  obtain ⟨k, -, inside, low, high⟩ := RangeTable.mem_of_searchBetween printable
  have member : printableRanges.getD k (1, 0) ∈ printableRanges.toList := by
    simp [Array.getD, inside]
  have range := List.all_eq_true.mp printableRanges_plain _ member
  simp only [Bool.and_eq_true, Bool.or_eq_true, decide_eq_true_eq] at range
  exact isPlain_iff.mpr (by omega)

theorem isPlain_of_ascii {c : Nat} (ascii : c ≤ 0x7E) : isPlain c = true :=
  isPlain_iff.mpr (by omega)

/-- A code point's spelling inside a literal is plain: the escapes are printable ASCII, and a
code point stands for itself only where it is printable. -/
theorem plain_literalPoint {quote : Nat} (visible : 0x20 ≤ quote ∧ quote ≤ 0x7E) (c : Nat) :
    ∀ d ∈ literalPoint quote c, isPlain d = true := by
  have hex : ∀ (lead : Text) (width : Nat), (∀ d ∈ lead, d ≤ 0x7E) →
      ∀ d ∈ lead ++ hexPadded width c, isPlain d = true := by
    intro lead width ascii d member
    rcases List.mem_append.mp member with inLead | inDigits
    · exact isPlain_of_ascii (ascii d inLead)
    · exact isPlain_of_ascii (printable_hexPadded width c d inDigits).2
  unfold literalPoint
  by_cases special : (c = quote || c = 0x5C) = true
  · -- the quote or the backslash, after a backslash
    rw [if_pos special]
    simp only [Bool.or_eq_true, decide_eq_true_eq] at special
    intro d member
    simp only [List.mem_cons, List.not_mem_nil, or_false] at member
    rcases member with rfl | rfl <;> exact isPlain_of_ascii (by omega)
  rw [if_neg special]
  -- tab, line feed and carriage return are a backslash and a letter
  by_cases named : c ∈ [0x09, 0x0A, 0x0D]
  · simp only [List.mem_cons, List.not_mem_nil, or_false] at named
    rcases named with rfl | rfl | rfl <;> decide
  simp only [List.mem_cons, List.not_mem_nil, or_false, not_or] at named
  obtain ⟨tab, lf, cr⟩ := named
  rw [if_neg tab, if_neg lf, if_neg cr]
  split_ifs with control low printable latin basic
  · exact hex _ 2 (by decide)
  · -- printable ASCII stands for itself
    intro d member
    simp only [List.mem_singleton] at member
    subst member
    exact isPlain_of_ascii (by omega)
  · -- so does a printable code point beyond ASCII
    intro d member
    simp only [List.mem_singleton] at member
    subst member
    exact isPlain_of_isPrintable printable
  · exact hex _ 2 (by decide)
  · exact hex _ 4 (by decide)
  · exact hex _ 8 (by decide)

/-- A literal is plain. -/
theorem plain_literal (t : Text) : ∀ d ∈ literal t, isPlain d = true := by
  have quoteVisible : 0x20 ≤ literalQuote t ∧ literalQuote t ≤ 0x7E := by
    unfold literalQuote
    split <;> decide
  intro d member
  simp only [literal, List.cons_append, List.mem_cons, List.mem_append, List.mem_flatMap,
    List.not_mem_nil, or_false] at member
  rcases member with rfl | ⟨c, -, inPoint⟩ | rfl
  · exact isPlain_of_ascii quoteVisible.2
  · exact plain_literalPoint quoteVisible c d inPoint
  · exact isPlain_of_ascii quoteVisible.2

end Text

namespace Json

theorem storableText_of_plain {t : Text} (plain : ∀ c ∈ t, Text.isPlain c = true) :
    storableText t = true := by
  induction t with
  | nil => rfl
  | cons c cs ih =>
    have first := plain c (.head cs)
    simp [storableText, ih fun d member => plain d (.tail c member),
      (Text.surrogates_of_isPlain first).1, (Text.isPlain_iff.mp first).1]

theorem le_of_storableText {t : Text} (storable : storableText t = true) :
    ∀ c ∈ t, c ≤ 0x10FFFF := by
  induction t with
  | nil => simp
  | cons c cs ih =>
    simp only [storableText, Bool.and_eq_true, decide_eq_true_eq] at storable
    intro d member
    rcases List.mem_cons.mp member with rfl | later
    · exact storable.1.1
    · exact ih storable.2 d later

/-- Two storable texts join into a storable text unless the first ends in a high surrogate and
the second starts with a low one. -/
theorem storableText_append {a b : Text} (first : storableText a = true)
    (second : storableText b = true)
    (joint : ∀ x ∈ a.getLast?, ∀ y ∈ b.head?,
      (Text.isHighSurrogate x && Text.isLowSurrogate y) = false) :
    storableText (a ++ b) = true := by
  induction a with
  | nil => simpa using second
  | cons x a ih =>
    simp only [storableText, Bool.and_eq_true] at first
    obtain ⟨⟨small, unpaired⟩, rest⟩ := first
    cases a with
    | nil =>
      have edge : (Text.isHighSurrogate x && b.head?.any Text.isLowSurrogate) = false := by
        cases head : b.head? with
        | none => simp
        | some y => simpa using joint x (by simp) y head
      simp [storableText, small, edge, second]
    | cons y a =>
      have inner := ih rest fun x' last y' head => joint x' (by simpa using last) y' head
      simp only [List.cons_append, storableText, Bool.and_eq_true] at inner ⊢
      exact ⟨⟨small, by simpa using unpaired⟩, inner⟩

/-- A plain code point between two storable texts keeps their join storable. -/
theorem storableText_append_plain {a b : Text} {c : Nat} (plain : Text.isPlain c = true)
    (first : storableText a = true) (second : storableText b = true) :
    storableText (a ++ c :: b) = true := by
  obtain ⟨notHigh, notLow⟩ := Text.surrogates_of_isPlain plain
  refine storableText_append first ?_ fun x _ y head => ?_
  · simp [storableText, (Text.isPlain_iff.mp plain).1, notHigh, second]
  · simp only [List.head?_cons, Option.mem_def, Option.some.injEq] at head
    subst head
    simp [notLow]

/-- A number's display is printable ASCII: a finite number is spelled as JSON spells it, and
the words for the others are ASCII too. -/
theorem printable_spell_display (x : Binary64) :
    ∀ c ∈ Binary64.spell displayNumberStyle x, 0x20 ≤ c ∧ c ≤ 0x7E := by
  cases parts : x.toParts with
  | nan => simp [Binary64.spell, parts, displayNumberStyle, Text.ofString]
  | infinite neg =>
    cases neg <;> simp [Binary64.spell, parts, displayNumberStyle, Text.ofString]
  | finite neg m q =>
    have same : Binary64.spell displayNumberStyle x = scalarText (.float x) := by
      simp only [scalarText, Binary64.spell, parts]
      rfl
    rw [same]
    exact printable_scalarText (.float x)

namespace Value

theorem plain_of_printable {t : Text} (printable : ∀ c ∈ t, 0x20 ≤ c ∧ c ≤ 0x7E) :
    ∀ c ∈ t, Text.isPlain c = true := fun c member =>
  Text.isPlain_of_ascii (printable c member).2

mutual

/-- A literal holds only plain code points, before a plain text. -/
theorem plain_literalThen : ∀ (v : Value) (rest : Text), (∀ c ∈ rest, Text.isPlain c = true) →
    ∀ c ∈ literalThen v rest, Text.isPlain c = true
  | .str s, rest, after => by
    simp only [literalThen, List.forall_mem_append]
    exact ⟨Text.plain_literal s, after⟩
  | .array [], _, after => by
    simp only [literalThen, List.forall_mem_cons]
    exact ⟨by decide, by decide, after⟩
  | .array (x :: xs), rest, after => by
    have closing : ∀ c ∈ 0x5D :: rest, Text.isPlain c = true :=
      List.forall_mem_cons.mpr ⟨by decide, after⟩
    simp only [literalThen, List.forall_mem_cons]
    exact ⟨by decide, plain_literalThen x _ (plain_literalItemsThen xs _ closing)⟩
  | .object [], _, after => by
    simp only [literalThen, List.forall_mem_cons]
    exact ⟨by decide, by decide, after⟩
  | .object ((k, v) :: ms), rest, after => by
    have closing : ∀ c ∈ 0x7D :: rest, Text.isPlain c = true :=
      List.forall_mem_cons.mpr ⟨by decide, after⟩
    have inner := plain_literalThen v _ (plain_literalMembersThen ms _ closing)
    simp only [literalThen, List.cons_append, List.forall_mem_cons, List.forall_mem_append]
    exact ⟨by decide, Text.plain_literal k, by decide, by decide, inner⟩
  | .null, _, after | .bool true, _, after | .bool false, _, after => by
    simp only [literalThen, List.forall_mem_append]
    exact ⟨by decide, after⟩
  | .int n, _, after => by
    simp only [literalThen, List.forall_mem_append]
    exact ⟨plain_of_printable (printable_scalarText (.int n)), after⟩
  | .float x, _, after => by
    simp only [literalThen, List.forall_mem_append]
    exact ⟨plain_of_printable (printable_spell_display x), after⟩

theorem plain_literalItemsThen : ∀ (xs : List Value) (rest : Text),
    (∀ c ∈ rest, Text.isPlain c = true) → ∀ c ∈ literalItemsThen xs rest, Text.isPlain c = true
  | [], _, after => after
  | x :: xs, rest, after => by
    simp only [literalItemsThen, List.forall_mem_cons]
    exact ⟨by decide, by decide, plain_literalThen x _ (plain_literalItemsThen xs rest after)⟩

theorem plain_literalMembersThen : ∀ (ms : List (Text × Value)) (rest : Text),
    (∀ c ∈ rest, Text.isPlain c = true) → ∀ c ∈ literalMembersThen ms rest, Text.isPlain c = true
  | [], _, after => after
  | (k, v) :: ms, rest, after => by
    have inner := plain_literalThen v _ (plain_literalMembersThen ms rest after)
    simp only [literalMembersThen, List.cons_append, List.forall_mem_cons, List.forall_mem_append]
    exact ⟨by decide, by decide, Text.plain_literal k, by decide, by decide, inner⟩

end

/-- The display of a storable value is a storable text: a text displays as itself, and any
other value as its literal, which is plain. -/
theorem storableText_display {v : Value} (storable : v.storable = true) :
    storableText v.display = true := by
  cases v with
  | str s => simpa [display, Value.storable] using storable
  | null | bool _ | int _ | float _ | array _ | object _ =>
    exact storableText_of_plain (plain_literalThen _ [] (by simp))

end Value

theorem Object.mem_of_get? {members : List (Text × Value)} {k : Text} {v : Value}
    (found : Object.get? members k = some v) : (k, v) ∈ members := by
  simp only [Object.get?, Option.map_eq_some_iff] at found
  obtain ⟨m, first, rfl⟩ := found
  have named : m.1 = k := by simpa using List.find?_some first
  rw [← named]
  exact List.mem_of_find?_eq_some first

theorem storable_of_mem_members {ms : List (Text × Value)} {k : Text} {v : Value}
    (storable : storableMembers ms = true) (member : (k, v) ∈ ms) :
    storableText k = true ∧ v.storable = true := by
  induction ms with
  | nil => cases member
  | cons m ms ih =>
    obtain ⟨k', v'⟩ := m
    simp only [storableMembers, Bool.and_eq_true] at storable
    rcases List.mem_cons.mp member with same | later
    · cases same
      exact ⟨storable.1.1.1, storable.1.2⟩
    · exact ih storable.2 later

theorem nesting_le_of_mem_members {ms : List (Text × Value)} {k : Text} {v : Value}
    (member : (k, v) ∈ ms) : v.nesting ≤ membersNesting ms := by
  induction ms with
  | nil => cases member
  | cons m ms ih =>
    obtain ⟨k', v'⟩ := m
    simp only [membersNesting]
    rcases List.mem_cons.mp member with same | later
    · cases same
      omega
    · have := ih later
      omega

namespace Value

/-- What a storable value walks through is storable: its items, its keys, or the code points of
its text, each a text of one. -/
theorem storable_of_items {v : Value} {ts : List Value} (storable : v.storable = true)
    (walked : v.items = .ok ts) : ∀ t ∈ ts, t.storable = true := by
  cases v with
  | array xs =>
    simp only [items, Except.ok.injEq] at walked
    subst walked
    simp only [Value.storable] at storable
    intro t member
    induction xs with
    | nil => cases member
    | cons x xs ih =>
      simp only [storableItems, Bool.and_eq_true] at storable
      rcases List.mem_cons.mp member with rfl | later
      · exact storable.1
      · exact ih storable.2 later
  | object members =>
    simp only [items, Except.ok.injEq] at walked
    subst walked
    intro t member
    obtain ⟨m, inMembers, rfl⟩ := List.mem_map.mp member
    exact (storable_of_mem_members (by simpa [Value.storable] using storable) inMembers).1
  | str s =>
    simp only [items, Except.ok.injEq] at walked
    subst walked
    intro t member
    obtain ⟨c, inText, rfl⟩ := List.mem_map.mp member
    have small := le_of_storableText (by simpa [Value.storable] using storable) c inText
    simp [Value.storable, storableText, small]
  | null | bool _ | int _ | float _ => simp [items] at walked

end Value

end Json

end Bookmarks
