import Bookmarks.Proofs.Json.Spacing
/-!
The reader gives back every storable value from its text, in either layout.

Reading is three functions sharing one fuel, each with its invariant (`ReadsValues`,
`ReadsItems`, `ReadsMembers`); one step lemma gives the three at one more fuel, and an
induction on the fuel gives them at every fuel the value's read calls allow. Only the blanks'
being blanks matters, so both layouts read back.
-/
namespace Bookmarks.Json

namespace Reader
open NumberParts

variable {doc : Doc} {room depth i fuel : Nat} {rest : Text}

/-- Where no text, container or word starts, the reader reads a number. -/
theorem scanValue_of_other {c : Nat} (h : at? doc i = some c) (notText : c ≠ 0x22)
    (notObject : c ≠ 0x7B) (notArray : c ≠ 0x5B) (noWord : c ∉ [0x6E, 0x74, 0x66, 0x4E, 0x49])
    (noMinusInfinity : c = 0x2D → spells doc i "-Infinity" = false) :
    scanValue doc room depth i (fuel + 1) = scanNumber doc i := by
  simp only [List.mem_cons, List.not_mem_nil, not_or] at noWord
  obtain ⟨notN, notT, notF, notNaN, notI, -⟩ := noWord
  by_cases minus : c = 0x2D
  · simp [scanValue, h, minus, noMinusInfinity minus]
  · simp [scanValue, h, notText, notObject, notArray, notN, notT, notF, notNaN, notI, minus]

/-- Where a digit, or a minus and a digit, stands, the reader reads a number. -/
theorem scanValue_of_digit {neg : Bool} {d : Nat} (h : remaining doc i = signText neg ++ d :: rest)
    (digit : Text.isDigit d) : scanValue doc room depth i (fuel + 1) = scanNumber doc i := by
  have bounds : 0x30 ≤ d ∧ d ≤ 0x39 := by simpa [Text.isDigit] using digit
  cases neg with
  | false =>
    simp only [signText, Bool.false_eq_true, if_false, List.nil_append] at h
    exact scanValue_of_other (at?_of_remaining h) (by omega) (by omega) (by omega)
      (by simp; omega) (by omega)
  | true =>
    simp only [signText, if_true, List.cons_append, List.nil_append] at h
    -- the minus is followed by a digit, not by the rest of `-Infinity`
    have other : spells doc i "-Infinity" = false := by
      refine spells_of_mismatch (show 1 < (Text.ofString "-Infinity").length by simp [Text.ofString]) ?_
      rw [at?_of_remaining (remaining_succ h)]
      simp [Text.ofString]
      omega
    exact scanValue_of_other (at?_of_remaining h) (by decide) (by decide) (by decide) (by decide)
      (fun _ => other)

/-- The reader reads the text of a storable value that is neither an array nor an object back
as that value. -/
theorem scanValue_scalarText {v : Value} (scalar : v.isContainer = false)
    (storable : v.storable = true) (h : remaining doc i = scalarText v ++ rest) (ends : Ends rest) :
    scanValue doc room depth i (fuel + 1) = .ok (v, i + (scalarText v).length) := by
  cases v with
  | null =>
    obtain ⟨first, spelled, size⟩ := word_of_remaining
      (show Text.ofString "null" = 0x6E :: [0x75, 0x6C, 0x6C] by simp [Text.ofString]) h
    simp only [List.length_cons, List.length_nil] at size
    simp [scanValue, first, spelled, size, scalarText, Text.ofString]
  | bool b =>
    cases b with
    | true =>
      obtain ⟨first, spelled, size⟩ := word_of_remaining
        (show Text.ofString "true" = 0x74 :: [0x72, 0x75, 0x65] by simp [Text.ofString]) h
      simp only [List.length_cons, List.length_nil] at size
      simp [scanValue, first, spelled, size, scalarText, Text.ofString]
    | false =>
      obtain ⟨first, spelled, size⟩ := word_of_remaining
        (show Text.ofString "false" = 0x66 :: [0x61, 0x6C, 0x73, 0x65] by simp [Text.ofString]) h
      simp only [List.length_cons, List.length_nil] at size
      simp [scanValue, first, spelled, size, scalarText, Text.ofString]
  | int n =>
    obtain ⟨d, t, text, digit⟩ := head_ofInt n
    have number : remaining doc i = signText (decide (n < 0)) ++ d :: (t ++ rest) := by
      rw [h, scalarText, text]
      simp
    rw [scanValue_of_digit number digit]
    exact scanNumber_ofInt n (by simpa [Value.storable] using storable) h ends
  | float x =>
    cases parts : x.toParts with
    | nan =>
      have same : x = Binary64.nan := by
        simpa [Value.storable, Binary64.isNaN, parts] using storable
      subst same
      have spelled : scalarText (.float Binary64.nan) = Text.ofString "NaN" := by
        simp [scalarText, Binary64.spell, parts, numberStyle]
      rw [spelled] at h ⊢
      obtain ⟨first, word, size⟩ := word_of_remaining
        (show Text.ofString "NaN" = 0x4E :: [0x61, 0x4E] by simp [Text.ofString]) h
      simp only [List.length_cons, List.length_nil] at size
      simp [scanValue, first, word, size, Text.ofString]
    | infinite neg =>
      rw [Binary64.eq_infinity_of_toParts parts] at h ⊢
      cases neg with
      | false =>
        have spelled : scalarText (.float (Binary64.infinity false)) = Text.ofString "Infinity" := by
          simp [scalarText, Binary64.spell, Binary64.eq_infinity_of_toParts parts ▸ parts, numberStyle]
        rw [spelled] at h ⊢
        obtain ⟨first, word, size⟩ := word_of_remaining
          (show Text.ofString "Infinity" = 0x49 :: [0x6E, 0x66, 0x69, 0x6E, 0x69, 0x74, 0x79] by
            simp [Text.ofString]) h
        simp only [List.length_cons, List.length_nil] at size
        simp [scanValue, first, word, size, Text.ofString]
      | true =>
        have spelled : scalarText (.float (Binary64.infinity true)) = Text.ofString "-Infinity" := by
          simp [scalarText, Binary64.spell, Binary64.eq_infinity_of_toParts parts ▸ parts, numberStyle,
            Text.ofString]
        rw [spelled] at h ⊢
        obtain ⟨first, word, size⟩ := word_of_remaining
          (show Text.ofString "-Infinity" = 0x2D :: [0x49, 0x6E, 0x66, 0x69, 0x6E, 0x69, 0x74, 0x79] by
            simp [Text.ofString]) h
        simp only [List.length_cons, List.length_nil] at size
        simp [scanValue, first, word, size, Text.ofString]
    | finite neg m q =>
      obtain ⟨p, valid, -, sign, spelled, -⟩ := spell_parts parts
      obtain ⟨d, t, text, digit⟩ := head_of_valid valid
      have number : remaining doc i = signText p.neg ++ d :: (t ++ rest) := by
        rw [h, scalarText, spelled, text]
        simp
      rw [scanValue_of_digit number digit]
      exact scanNumber_spell parts h ends
  | str s =>
    simp only [scalarText] at h ⊢
    have first : at? doc i = some 0x22 := by
      rw [at?_eq_head, h, quote]
      rfl
    simp [scanValue, first, scanText_quote (by simpa [Value.storable] using storable) h, Except.map]
  | array items => simp [Value.isContainer] at scalar
  | object members => simp [Value.isContainer] at scalar

/-- Blanks and then a comma or a closing bracket or brace end a number before them. -/
theorem ends_of_blanks {w : Text} {c : Nat} (rest : Text) (blank : ∀ d ∈ w, isSpace d = true)
    (stop : c = 0x2C ∨ c = 0x5D ∨ c = 0x7D) : Ends (w ++ c :: rest) := by
  intro d first
  cases w with
  | nil =>
    simp only [List.nil_append, List.head?_cons, Option.mem_def, Option.some.injEq] at first
    subst first
    rcases stop with rfl | rfl | rfl <;> decide
  | cons b bs =>
    simp only [List.cons_append, List.head?_cons, Option.mem_def, Option.some.injEq] at first
    subst first
    have space := blank _ (.head bs)
    simp only [isSpace, Bool.or_eq_true, decide_eq_true_eq] at space
    rcases space with ((rfl | rfl) | rfl) | rfl <;> decide

section Spaced

variable (s : Spacing)

/-- The reader, given `fuel`, reads back every storable value whose spaced text stands at a
position, when the value fits the room left for nesting. -/
def ReadsValues (doc : Doc) (room fuel : Nat) : Prop :=
  ∀ (level depth i : Nat) (v : Value) (rest : Text), v.storable = true →
    depth + v.nesting ≤ room → v.readCalls ≤ fuel → Ends rest →
    remaining doc i = spaced s level v ++ rest →
    scanValue doc room depth i fuel = .ok (v, i + (spaced s level v).length)

/-- The reader, given `fuel`, reads back the items of an array from the first of them to its
closing bracket, after the items it has read. -/
def ReadsItems (doc : Doc) (room fuel : Nat) : Prop :=
  ∀ (level depth i : Nat) (acc : List Value) (first : Bool) (x : Value) (xs : List Value)
    (rest : Text), storableItems (x :: xs) = true → depth + itemsNesting (x :: xs) ≤ room →
    itemsReadCalls (x :: xs) < fuel → remaining doc i = spacedItems s level x xs ++ rest →
    scanArray doc room depth i acc first fuel =
      .ok (.array (acc.reverse ++ x :: xs), i + (spacedItems s level x xs).length)

/-- One more call lets the reader read the items of an array: the first item as a value, then
the closing bracket or a comma and the items after it. -/
theorem readsItems_succ (values : ReadsValues s doc room fuel)
    (items : ReadsItems s doc room fuel) : ReadsItems s doc room (fuel + 1) := by
  intro level depth i acc first x xs rest storable fits calls h
  simp only [storableItems, Bool.and_eq_true] at storable
  simp only [itemsNesting] at fits
  simp only [itemsReadCalls] at calls
  set tail := spacedItemsThen s level xs (s.closing level ++ [0x5D])
  have split : remaining doc i = spaced s (level + 1) x ++ (tail ++ rest) := by
    rw [h, spacedItems, spacedThen_eq, List.append_assoc]
  -- the first item is no closing bracket
  obtain ⟨c, t, head, -, -, notClose⟩ := head_spaced s (level + 1) x
  have atFirst : at? doc i = some c := by
    rw [at?_eq_head, split, head]
    rfl
  have notEmpty : (first && at? doc i == some 0x5D) = false := by simp [atFirst, notClose]
  have ends : Ends (tail ++ rest) := by
    cases xs with
    | nil =>
      simpa [tail, spacedItemsThen] using
        ends_of_blanks rest (s.blank_closing level) (Or.inr (Or.inl rfl))
    | cons y ys =>
      simpa [tail, spacedItemsThen] using
        ends_of_blanks (w := []) _ (by simp) (Or.inl rfl)
  have read := values (level + 1) depth i x (tail ++ rest) storable.1 (by omega) (by omega) ends
    split
  have after := remaining_append split
  rw [scanArray]
  simp only [notEmpty, Bool.false_eq_true, if_false, read]
  cases xs with
  | nil =>
    -- the closing blanks and the closing bracket end the array
    have closing : remaining doc (i + (spaced s (level + 1) x).length) =
        s.closing level ++ 0x5D :: rest := by
      simp [after, tail, spacedItemsThen]
    rw [skipSpace_of_remaining closing (s.blank_closing level) (by simp [isSpace]),
      at?_of_remaining (remaining_append closing)]
    simp [spacedItems_nil]
    omega
  | cons y ys =>
    -- a comma and the separating blanks lead to the next item
    have separator : remaining doc (i + (spaced s (level + 1) x).length) =
        0x2C :: (s.separator level ++ (spacedItems s level y ys ++ rest)) := by
      simp [after, tail, spacedItemsThen, spacedItems]
    obtain ⟨c', t', next, visible', -⟩ := head_spacedItems s level y ys
    have skipped := skipSpace_of_remaining (remaining_succ separator) (s.blank_separator level)
      (by simp [next, isSpace]; omega)
    rw [skipSpace_of_head separator (by simp [isSpace]), at?_of_remaining separator]
    simp only [beq_iff_eq, Option.some.injEq, if_true, skipped]
    rw [items level depth _ (x :: acc) false y ys rest storable.2 (by omega) (by omega)
      (remaining_append (remaining_succ separator))]
    simp [spacedItems_cons]
    omega

/-- A key no member has goes last. -/
theorem insert_of_fresh {acc : List (Text × Value)} {k : Text} (v : Value)
    (fresh : ∀ m ∈ acc, m.1 ≠ k) : Object.insert acc k v = acc ++ [(k, v)] := by
  have none : acc.any (fun m => m.1 == k) = false := by
    rw [List.any_eq_false]
    intro m member
    simpa using fresh m member
  simp [Object.insert, none]

/-- The reader, given `fuel`, reads back the members of an object from the first of them to its
closing brace, after members it has read that share no key with them. -/
def ReadsMembers (doc : Doc) (room fuel : Nat) : Prop :=
  ∀ (level depth i : Nat) (acc : List (Text × Value)) (first : Bool) (k : Text) (v : Value)
    (ms : List (Text × Value)) (rest : Text), storableMembers ((k, v) :: ms) = true →
    (∀ m ∈ acc, ∀ m' ∈ (k, v) :: ms, m.1 ≠ m'.1) → depth + membersNesting ((k, v) :: ms) ≤ room →
    membersReadCalls ((k, v) :: ms) < fuel →
    remaining doc i = spacedMembers s level k v ms ++ rest →
    scanObject doc room depth i acc first fuel =
      .ok (.object (acc ++ (k, v) :: ms), i + (spacedMembers s level k v ms).length)

/-- One more call lets the reader read the members of an object: the first key, its colon and
its value, then the closing brace or a comma and the members after it. -/
theorem readsMembers_succ (values : ReadsValues s doc room fuel)
    (members : ReadsMembers s doc room fuel) : ReadsMembers s doc room (fuel + 1) := by
  intro level depth i acc first k v ms rest storable fresh fits calls h
  simp only [storableMembers, Bool.and_eq_true, Bool.not_eq_true'] at storable
  obtain ⟨⟨⟨keyStorable, unique⟩, valueStorable⟩, restStorable⟩ := storable
  simp only [membersNesting] at fits
  simp only [membersReadCalls] at calls
  set tail := spacedMembersThen s level ms (s.closing level ++ [0x7D])
  have split : remaining doc i =
      quote k ++ 0x3A :: 0x20 :: (spaced s (level + 1) v ++ (tail ++ rest)) := by
    rw [h, spacedMembers, spacedThen_eq]
    simp [tail]
  have atQuote : at? doc i = some 0x22 := by
    rw [at?_eq_head, split, quote]
    rfl
  -- the key, its colon and the blank after it
  have afterKey := remaining_append split
  have afterColon := remaining_succ afterKey
  obtain ⟨c, t, head, visible, -⟩ := head_spaced s (level + 1) v
  have skipped : skipSpace doc (i + (quote k).length + 1) = i + (quote k).length + 1 + 1 := by
    refine skipSpace_of_remaining (show _ = [0x20] ++ _ from afterColon) (by simp [isSpace]) ?_
    simp [head, isSpace]
    omega
  have valueStart : remaining doc (i + (quote k).length + 1 + 1) =
      spaced s (level + 1) v ++ (tail ++ rest) :=
    remaining_append (show _ = [0x20] ++ _ from afterColon)
  have ends : Ends (tail ++ rest) := by
    cases ms with
    | nil =>
      simpa [tail, spacedMembersThen] using
        ends_of_blanks rest (s.blank_closing level) (Or.inr (Or.inr rfl))
    | cons member ms =>
      obtain ⟨k', v'⟩ := member
      simpa [tail, spacedMembersThen] using
        ends_of_blanks (w := []) _ (by simp) (Or.inl rfl)
  have read := values (level + 1) depth _ v (tail ++ rest) valueStorable (by omega) (by omega)
    ends valueStart
  have afterValue := remaining_append valueStart
  have insert : Object.insert acc k v = acc ++ [(k, v)] :=
    insert_of_fresh v (fun m member => fresh m member (k, v) (.head ms))
  rw [scanObject]
  simp only [atQuote, beq_iff_eq, Bool.false_eq_true, if_false, bne_self_eq_false,
    scanText_quote keyStorable split, skipSpace_of_head afterKey (by simp [isSpace]),
    at?_of_remaining afterKey, skipped, read, insert]
  cases ms with
  | nil =>
    -- the closing blanks and the closing brace end the object
    have closing : remaining doc
        (i + (quote k).length + 1 + 1 + (spaced s (level + 1) v).length) =
        s.closing level ++ 0x7D :: rest := by
      simp [afterValue, tail, spacedMembersThen]
    rw [skipSpace_of_remaining closing (s.blank_closing level) (by simp [isSpace]),
      at?_of_remaining (remaining_append closing)]
    simp [spacedMembers_nil]
    omega
  | cons member ms =>
    obtain ⟨k', v'⟩ := member
    -- a comma and the separating blanks lead to the next member, whose key is new
    have separator : remaining doc
        (i + (quote k).length + 1 + 1 + (spaced s (level + 1) v).length) =
        0x2C :: (s.separator level ++ (spacedMembers s level k' v' ms ++ rest)) := by
      simp [afterValue, tail, spacedMembersThen, spacedMembers]
    have skippedBlanks := skipSpace_of_remaining (remaining_succ separator)
      (s.blank_separator level) (by simp [spacedMembers, quote, isSpace])
    have fresh' : ∀ m ∈ acc ++ [(k, v)], ∀ m' ∈ (k', v') :: ms, m.1 ≠ m'.1 := by
      intro m member m' later
      rcases List.mem_append.mp member with old | new
      · exact fresh m old m' (.tail _ later)
      · simp only [List.mem_singleton] at new
        subst new
        simp only [List.any_eq_false, beq_iff_eq] at unique
        exact fun same => unique m' later same.symm
    rw [skipSpace_of_head separator (by simp [isSpace]), at?_of_remaining separator]
    simp only [Option.some.injEq, if_true, skippedBlanks]
    rw [members level depth _ (acc ++ [(k, v)]) false k' v' ms rest restStorable fresh'
      (by omega) (by omega) (remaining_append (remaining_succ separator))]
    simp [spacedMembers_cons]
    omega

/-- One more call lets the reader read a value: a number, word or text at once, an array or an
object through its items or members. -/
theorem readsValues_succ (items : ReadsItems s doc room fuel)
    (members : ReadsMembers s doc room fuel) : ReadsValues s doc room (fuel + 1) := by
  intro level depth i v rest storable fits calls ends h
  cases v with
  | array xs =>
    have atOpen : at? doc i = some 0x5B := by
      rw [at?_eq_head, h]
      cases xs <;> rfl
    have less : depth < room := by simp only [Value.nesting] at fits; omega
    simp only [scanValue, atOpen, less, if_true]
    cases xs with
    | nil =>
      -- `[]`: the reader finds the closing bracket at once
      obtain ⟨calls', rfl⟩ : ∃ calls', fuel = calls' + 1 :=
        ⟨fuel - 1, by simp [Value.readCalls, itemsReadCalls] at calls; omega⟩
      have closing : remaining doc (i + 1) = 0x5D :: rest := remaining_succ h
      rw [skipSpace_of_head closing (by simp [isSpace]), scanArray]
      simp [at?_of_remaining closing, spaced, spacedThen]
    | cons x xs =>
      simp only [spaced_array, List.cons_append, List.append_assoc] at h
      obtain ⟨c, t, head, visible, -⟩ := head_spacedItems s level x xs
      rw [skipSpace_of_remaining (remaining_succ h) (s.blank_opening level)
          (by simp [head, isSpace]; omega),
        items level (depth + 1) _ [] true x xs rest (by simpa [Value.storable] using storable)
          (by simp only [Value.nesting] at fits; omega)
          (by simp only [Value.readCalls] at calls; omega)
          (remaining_append (remaining_succ h))]
      simp [spaced_array]
      omega
  | object ms =>
    have atOpen : at? doc i = some 0x7B := by
      rw [at?_eq_head, h]
      cases ms <;> rfl
    have less : depth < room := by simp only [Value.nesting] at fits; omega
    simp only [scanValue, atOpen, less, if_true]
    cases ms with
    | nil =>
      -- a brace and its closing brace
      obtain ⟨calls', rfl⟩ : ∃ calls', fuel = calls' + 1 :=
        ⟨fuel - 1, by simp [Value.readCalls, membersReadCalls] at calls; omega⟩
      have closing : remaining doc (i + 1) = 0x7D :: rest := remaining_succ h
      rw [skipSpace_of_head closing (by simp [isSpace]), scanObject]
      simp [at?_of_remaining closing, spaced, spacedThen]
    | cons member ms =>
      obtain ⟨k, v⟩ := member
      simp only [spaced_object, List.cons_append, List.append_assoc] at h
      rw [skipSpace_of_remaining (remaining_succ h) (s.blank_opening level)
          (by simp [spacedMembers, quote, isSpace]),
        members level (depth + 1) _ [] true k v ms rest (by simpa [Value.storable] using storable)
          (by simp) (by simp only [Value.nesting] at fits; omega)
          (by simp only [Value.readCalls] at calls; omega)
          (remaining_append (remaining_succ h))]
      simp [spaced_object]
      omega
  | null | bool _ | int _ | float _ | str _ =>
    rw [spaced_scalar s rfl] at h ⊢
    exact scanValue_scalarText rfl storable h ends

theorem readCalls_pos (v : Value) : 0 < v.readCalls := by
  cases v <;> simp [Value.readCalls]

/-- Given as many calls as a value needs, the reader reads back values, items and members
alike: each step lemma above, by induction on the calls. -/
theorem reads_of_fuel (doc : Doc) (room : Nat) : ∀ fuel,
    ReadsValues s doc room fuel ∧ ReadsItems s doc room fuel ∧ ReadsMembers s doc room fuel := by
  intro fuel
  induction fuel with
  | zero =>
    refine ⟨?_, ?_, ?_⟩
    · intro _ _ _ v _ _ _ calls
      have := readCalls_pos v
      omega
    · intro _ _ _ _ _ _ _ _ _ _ calls
      omega
    · intro _ _ _ _ _ _ _ _ _ _ _ _ calls
      omega
  | succ fuel step =>
    obtain ⟨values, items, members⟩ := step
    exact ⟨readsValues_succ s items members, readsItems_succ s values items,
      readsMembers_succ s values members⟩

end Spaced

end Reader

open Reader in
/-- The reader reads back the spaced text of a storable value that fits its room for
nesting. -/
theorem readWithin_spaced (s : Spacing) {room : Nat} {v : Value} (storable : v.storable = true)
    (fits : v.nesting ≤ room) : readWithin room (spaced s 0 v) = .ok v := by
  obtain ⟨c, t, head, visible, printable, -⟩ := head_spaced s 0 v
  have whole : remaining (spaced s 0 v).toArray 0 = spaced s 0 v ++ [] := by
    simp [remaining]
  have read := (reads_of_fuel s _ room (2 * (spaced s 0 v).length + 2)).1 0 0 0 v [] storable
    (by omega) (by have := readCalls_le_spaced s 0 v; omega) (by simp [Ends]) whole
  have past : remaining (spaced s 0 v).toArray (spaced s 0 v).length = [] := by
    simpa using remaining_append whole
  rw [readWithin, if_neg (by simp [head]; omega)]
  simp only [skipSpace_of_head whole (by simp [head, isSpace]; omega), List.size_toArray, read,
    Nat.zero_add, skipSpace_of_head past (by simp), if_true]

/-- The reader reads back the indented text of a storable value that fits its room for
nesting. -/
theorem readWithin_writeIndented {room : Nat} {v : Value} (storable : v.storable = true)
    (fits : v.nesting ≤ room) : readWithin room (writeIndented 0 v) = .ok v := by
  rw [writeIndented_eq_spaced]
  exact readWithin_spaced .indented storable fits

/-- The reader reads back the one-line text of a storable value that fits its room for
nesting. -/
theorem readWithin_write {room : Nat} {v : Value} (storable : v.storable = true)
    (fits : v.nesting ≤ room) : readWithin room (write v) = .ok v := by
  rw [write_eq_spaced 0]
  exact readWithin_spaced .oneLine storable fits

end Bookmarks.Json
