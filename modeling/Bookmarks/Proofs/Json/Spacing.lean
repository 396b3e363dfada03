import Bookmarks.Proofs.Json.Layout
/-!
The two layouts of the writer as one. Both write brackets, commas, keys and scalars alike and
differ only in the blanks after an opening bracket, after each comma and before the closing
one. A spacing names those blanks by level; the indented layout (`indentedThen_eq_spaced`) and
the one-line layout (`writeThen_eq_spaced`) are spacings, so what the reader does with spaced
text holds of both. A spaced text starts with a printable code point that is neither a blank
nor a closing bracket, and is at least as long as the reader's calls for the value.
-/
namespace Bookmarks.Json

open Reader

/-- The blanks of a layout, by the level of the array or object they stand in: after its
opening bracket or brace, after each comma, and before its closing bracket or brace. -/
structure Spacing where
  opening : Nat → Text
  separator : Nat → Text
  closing : Nat → Text
  blank_opening : ∀ level, ∀ c ∈ opening level, isSpace c = true
  blank_separator : ∀ level, ∀ c ∈ separator level, isSpace c = true
  blank_closing : ∀ level, ∀ c ∈ closing level, isSpace c = true

mutual

/-- A value written with a spacing, standing at the given level, followed by `rest`. -/
def spacedThen (s : Spacing) (level : Nat) : Value → Text → Text
  | .array [], rest => 0x5B :: 0x5D :: rest
  | .array (x :: xs), rest =>
    0x5B :: s.opening level ++
      spacedThen s (level + 1) x (spacedItemsThen s level xs (s.closing level ++ 0x5D :: rest))
  | .object [], rest => 0x7B :: 0x7D :: rest
  | .object ((k, v) :: ms), rest =>
    0x7B :: s.opening level ++ quote k ++ 0x3A :: 0x20 ::
      spacedThen s (level + 1) v (spacedMembersThen s level ms (s.closing level ++ 0x7D :: rest))
  | v, rest => scalarText v ++ rest

/-- The items after the first of an array at a level, each after a comma and the separating
blanks, followed by `rest`. -/
def spacedItemsThen (s : Spacing) (level : Nat) : List Value → Text → Text
  | [], rest => rest
  | x :: xs, rest =>
    0x2C :: s.separator level ++ spacedThen s (level + 1) x (spacedItemsThen s level xs rest)

/-- The members after the first of an object at a level, each after a comma and the
separating blanks, followed by `rest`. -/
def spacedMembersThen (s : Spacing) (level : Nat) : List (Text × Value) → Text → Text
  | [], rest => rest
  | (k, v) :: ms, rest =>
    0x2C :: s.separator level ++ quote k ++ 0x3A :: 0x20 ::
      spacedThen s (level + 1) v (spacedMembersThen s level ms rest)

end

/-- A value written with a spacing, standing at the given level. -/
def spaced (s : Spacing) (level : Nat) (v : Value) : Text := spacedThen s level v []

/-- The indented layout: a line break and the indentation of the items' level after an
opening bracket and after a comma, a line break and the container's own indentation before
its closing bracket. -/
def Spacing.indented : Spacing where
  opening level := 0x0A :: List.replicate (4 * (level + 1)) 0x20
  separator level := 0x0A :: List.replicate (4 * (level + 1)) 0x20
  closing level := 0x0A :: List.replicate (4 * level) 0x20
  blank_opening level c member := by
    rcases List.mem_cons.mp member with rfl | spaces
    · rfl
    · rw [List.eq_of_mem_replicate spaces]; rfl
  blank_separator level c member := by
    rcases List.mem_cons.mp member with rfl | spaces
    · rfl
    · rw [List.eq_of_mem_replicate spaces]; rfl
  blank_closing level c member := by
    rcases List.mem_cons.mp member with rfl | spaces
    · rfl
    · rw [List.eq_of_mem_replicate spaces]; rfl

/-- The one-line layout: one blank after each comma and nothing else. -/
def Spacing.oneLine : Spacing where
  opening _ := []
  separator _ := [0x20]
  closing _ := []
  blank_opening _ _ member := nomatch member
  blank_separator _ c member := by rw [List.mem_singleton.mp member]; rfl
  blank_closing _ _ member := nomatch member

/-! ## The two layouts -/

mutual

theorem indentedThen_eq_spaced (level : Nat) : ∀ (v : Value) (rest : Text),
    indentedThen level v rest = spacedThen .indented level v rest
  | .array [], _ => rfl
  | .array (x :: xs), rest => by
    simp only [indentedThen, spacedThen, newlineThen, Spacing.indented, List.cons_append,
      indentedThen_eq_spaced (level + 1) x, indentedItemsThen_eq_spaced level xs]
  | .object [], _ => rfl
  | .object ((k, v) :: ms), rest => by
    simp only [indentedThen, spacedThen, newlineThen, Spacing.indented, List.cons_append,
      List.append_assoc, indentedThen_eq_spaced (level + 1) v,
      indentedMembersThen_eq_spaced level ms]
  | .null, _ | .bool _, _ | .int _, _ | .float _, _ | .str _, _ => rfl

theorem indentedItemsThen_eq_spaced (level : Nat) : ∀ (xs : List Value) (rest : Text),
    indentedItemsThen (level + 1) xs rest = spacedItemsThen .indented level xs rest
  | [], _ => rfl
  | x :: xs, rest => by
    simp only [indentedItemsThen, spacedItemsThen, newlineThen, Spacing.indented,
      List.cons_append, indentedThen_eq_spaced (level + 1) x, indentedItemsThen_eq_spaced level xs]

theorem indentedMembersThen_eq_spaced (level : Nat) : ∀ (ms : List (Text × Value)) (rest : Text),
    indentedMembersThen (level + 1) ms rest = spacedMembersThen .indented level ms rest
  | [], _ => rfl
  | (k, v) :: ms, rest => by
    simp only [indentedMembersThen, spacedMembersThen, newlineThen, Spacing.indented,
      List.cons_append, List.append_assoc, indentedThen_eq_spaced (level + 1) v,
      indentedMembersThen_eq_spaced level ms]

end

/-- The indented layout is the indented spacing. -/
theorem writeIndented_eq_spaced (level : Nat) (v : Value) :
    writeIndented level v = spaced .indented level v :=
  indentedThen_eq_spaced level v []

mutual

theorem writeThen_eq_spaced (level : Nat) : ∀ (v : Value) (rest : Text),
    writeThen v rest = spacedThen .oneLine level v rest
  | .array [], _ => rfl
  | .array (x :: xs), rest => by
    simp only [writeThen, spacedThen, Spacing.oneLine, List.nil_append, List.cons_append,
      writeThen_eq_spaced (level + 1) x, itemsThen_eq_spaced level xs]
  | .object [], _ => rfl
  | .object ((k, v) :: ms), rest => by
    simp only [writeThen, spacedThen, Spacing.oneLine, List.nil_append, List.cons_append,
      writeThen_eq_spaced (level + 1) v, membersThen_eq_spaced level ms]
  | .null, _ | .bool _, _ | .int _, _ | .float _, _ | .str _, _ => rfl

theorem itemsThen_eq_spaced (level : Nat) : ∀ (xs : List Value) (rest : Text),
    itemsThen xs rest = spacedItemsThen .oneLine level xs rest
  | [], _ => rfl
  | x :: xs, rest => by
    simp only [itemsThen, spacedItemsThen, Spacing.oneLine, List.cons_append, List.nil_append,
      writeThen_eq_spaced (level + 1) x, itemsThen_eq_spaced level xs]

theorem membersThen_eq_spaced (level : Nat) : ∀ (ms : List (Text × Value)) (rest : Text),
    membersThen ms rest = spacedMembersThen .oneLine level ms rest
  | [], _ => rfl
  | (k, v) :: ms, rest => by
    simp only [membersThen, spacedMembersThen, Spacing.oneLine, List.cons_append,
      List.nil_append, writeThen_eq_spaced (level + 1) v, membersThen_eq_spaced level ms]

end

/-- The one-line layout is the one-line spacing, at any level. -/
theorem write_eq_spaced (level : Nat) (v : Value) : write v = spaced .oneLine level v :=
  writeThen_eq_spaced level v []

/-! ## The shape of spaced text -/

section Shape

variable (s : Spacing)

mutual

theorem spacedThen_append (level : Nat) : ∀ (v : Value) (a b : Text),
    spacedThen s level v a ++ b = spacedThen s level v (a ++ b)
  | .array [], _, _ => rfl
  | .array (x :: xs), a, b => by
    simp only [spacedThen, List.cons_append, List.append_assoc, spacedThen_append (level + 1) x,
      spacedItemsThen_append level xs]
  | .object [], _, _ => rfl
  | .object ((k, v) :: ms), a, b => by
    simp only [spacedThen, List.cons_append, List.append_assoc, spacedThen_append (level + 1) v,
      spacedMembersThen_append level ms]
  | .null, _, _ | .bool _, _, _ | .int _, _, _ | .float _, _, _ | .str _, _, _ => by
    simp only [spacedThen, List.append_assoc]

theorem spacedItemsThen_append (level : Nat) : ∀ (xs : List Value) (a b : Text),
    spacedItemsThen s level xs a ++ b = spacedItemsThen s level xs (a ++ b)
  | [], _, _ => rfl
  | x :: xs, a, b => by
    simp only [spacedItemsThen, List.cons_append, List.append_assoc,
      spacedThen_append (level + 1) x, spacedItemsThen_append level xs]

theorem spacedMembersThen_append (level : Nat) : ∀ (ms : List (Text × Value)) (a b : Text),
    spacedMembersThen s level ms a ++ b = spacedMembersThen s level ms (a ++ b)
  | [], _, _ => rfl
  | (k, v) :: ms, a, b => by
    simp only [spacedMembersThen, List.cons_append, List.append_assoc,
      spacedThen_append (level + 1) v, spacedMembersThen_append level ms]

end

/-- A spaced value followed by a text is its text followed by that text. -/
theorem spacedThen_eq (level : Nat) (v : Value) (rest : Text) :
    spacedThen s level v rest = spaced s level v ++ rest := by
  rw [spaced, spacedThen_append, List.nil_append]

theorem spacedItemsThen_eq (level : Nat) (xs : List Value) (rest : Text) :
    spacedItemsThen s level xs rest = spacedItemsThen s level xs [] ++ rest := by
  rw [spacedItemsThen_append, List.nil_append]

theorem spacedMembersThen_eq (level : Nat) (ms : List (Text × Value)) (rest : Text) :
    spacedMembersThen s level ms rest = spacedMembersThen s level ms [] ++ rest := by
  rw [spacedMembersThen_append, List.nil_append]

/-- The items of an array at a level, from the first item to the closing bracket. -/
def spacedItems (level : Nat) (x : Value) (xs : List Value) : Text :=
  spacedThen s (level + 1) x (spacedItemsThen s level xs (s.closing level ++ [0x5D]))

/-- The members of an object at a level, from the first key to the closing brace. -/
def spacedMembers (level : Nat) (k : Text) (v : Value) (ms : List (Text × Value)) : Text :=
  quote k ++ 0x3A :: 0x20 ::
    spacedThen s (level + 1) v (spacedMembersThen s level ms (s.closing level ++ [0x7D]))

theorem spaced_array (level : Nat) (x : Value) (xs : List Value) :
    spaced s level (.array (x :: xs)) = 0x5B :: s.opening level ++ spacedItems s level x xs := by
  simp only [spaced, spacedThen, spacedItems]

theorem spaced_object (level : Nat) (k : Text) (v : Value) (ms : List (Text × Value)) :
    spaced s level (.object ((k, v) :: ms)) =
      0x7B :: s.opening level ++ spacedMembers s level k v ms := by
  simp only [spaced, spacedThen, spacedMembers, List.append_assoc]

theorem spaced_scalar {v : Value} (scalar : v.isContainer = false) (level : Nat) :
    spaced s level v = scalarText v := by
  cases v <;> simp_all [spaced, spacedThen, Value.isContainer]

theorem spacedItems_nil (level : Nat) (x : Value) :
    spacedItems s level x [] = spaced s (level + 1) x ++ (s.closing level ++ [0x5D]) := by
  rw [spacedItems, spacedItemsThen, spacedThen_eq]

theorem spacedItems_cons (level : Nat) (x y : Value) (ys : List Value) :
    spacedItems s level x (y :: ys) =
      spaced s (level + 1) x ++ 0x2C :: s.separator level ++ spacedItems s level y ys := by
  rw [spacedItems, spacedItemsThen, spacedThen_eq, spacedItems]
  simp only [List.cons_append, List.append_assoc]

theorem spacedMembers_nil (level : Nat) (k : Text) (v : Value) :
    spacedMembers s level k v [] =
      quote k ++ 0x3A :: 0x20 :: (spaced s (level + 1) v ++ (s.closing level ++ [0x7D])) := by
  rw [spacedMembers, spacedMembersThen, spacedThen_eq]

theorem spacedMembers_cons (level : Nat) (k : Text) (v : Value) (k' : Text) (v' : Value)
    (ms : List (Text × Value)) :
    spacedMembers s level k v ((k', v') :: ms) = quote k ++ 0x3A :: 0x20 ::
      (spaced s (level + 1) v ++ 0x2C :: s.separator level ++ spacedMembers s level k' v' ms) := by
  rw [spacedMembers, spacedMembersThen, spacedThen_eq, spacedMembers]
  simp only [List.cons_append, List.append_assoc]

open NumberParts in
/-- The text of a number, constant or text starts with a printable code point that is neither
a blank nor a closing bracket. -/
theorem head_scalarText {v : Value} (scalar : v.isContainer = false) :
    ∃ c t, scalarText v = c :: t ∧ 0x21 ≤ c ∧ c ≤ 0x7E ∧ c ≠ 0x5D := by
  -- a number starts with a minus or a digit
  have signed : ∀ (neg : Bool) (d : Nat) (t : Text), Text.isDigit d →
      ∃ c t', signText neg ++ d :: t = c :: t' ∧ 0x21 ≤ c ∧ c ≤ 0x7E ∧ c ≠ 0x5D := by
    intro neg d t digit
    have bounds : 0x30 ≤ d ∧ d ≤ 0x39 := by simpa [Text.isDigit] using digit
    cases neg with
    | false => exact ⟨d, t, rfl, by omega, by omega, by omega⟩
    | true => exact ⟨0x2D, d :: t, rfl, by decide, by decide, by decide⟩
  cases v with
  | null => simp [scalarText, Text.ofString]
  | bool b => cases b <;> simp [scalarText, Text.ofString]
  | int n =>
    obtain ⟨d, t, text, digit⟩ := head_ofInt n
    simpa [scalarText, text] using signed _ d t digit
  | float x =>
    cases parts : x.toParts with
    | nan => simp [scalarText, Binary64.spell, parts, numberStyle, Text.ofString]
    | infinite neg =>
      cases neg <;> simp [scalarText, Binary64.spell, parts, numberStyle, Text.ofString]
    | finite neg m q =>
      obtain ⟨p, valid, -, -, spelled, -⟩ := spell_parts parts
      obtain ⟨d, t, text, digit⟩ := head_of_valid valid
      simpa [scalarText, spelled, text] using signed _ d t digit
  | str s => exact ⟨0x22, s.flatMap escapePoint ++ [0x22], rfl, by decide, by decide, by decide⟩
  | array items => simp [Value.isContainer] at scalar
  | object members => simp [Value.isContainer] at scalar

/-- A spaced value starts with a printable code point that is neither a blank nor a closing
bracket. -/
theorem head_spaced (level : Nat) (v : Value) :
    ∃ c t, spaced s level v = c :: t ∧ 0x21 ≤ c ∧ c ≤ 0x7E ∧ c ≠ 0x5D := by
  cases v with
  | array items => cases items <;> exact ⟨0x5B, _, rfl, by decide, by decide, by decide⟩
  | object members =>
    cases members with
    | nil => exact ⟨0x7B, _, rfl, by decide, by decide, by decide⟩
    | cons member ms => exact ⟨0x7B, _, rfl, by decide, by decide, by decide⟩
  | null | bool _ | int _ | float _ | str _ =>
    rw [spaced_scalar s rfl]
    exact head_scalarText rfl

/-- The items of an array start as their first item does. -/
theorem head_spacedItems (level : Nat) (x : Value) (xs : List Value) :
    ∃ c t, spacedItems s level x xs = c :: t ∧ 0x21 ≤ c ∧ c ≠ 0x5D := by
  obtain ⟨c, t, head, visible, -, notClose⟩ := head_spaced s (level + 1) x
  refine ⟨c, t ++ spacedItemsThen s level xs (s.closing level ++ [0x5D]), ?_, visible, notClose⟩
  rw [spacedItems, spacedThen_eq, head, List.cons_append]

theorem one_le_length_spaced (level : Nat) (v : Value) : 1 ≤ (spaced s level v).length := by
  obtain ⟨c, t, head, -⟩ := head_spaced s level v
  simp [head]

theorem readCalls_le_of_scalar (level : Nat) {v : Value} (scalar : v.isContainer = false) :
    v.readCalls ≤ 2 * (spaced s level v).length := by
  have one : v.readCalls = 1 := by cases v <;> simp_all [Value.isContainer, Value.readCalls]
  have := one_le_length_spaced s level v
  omega

mutual

/-- The reader makes at most two calls for each code point of a value's spaced text: one for a
value or a closing bracket, and one for the comma before an item, which is followed by at least
one code point of its own. -/
theorem readCalls_le_spaced (level : Nat) :
    ∀ v : Value, v.readCalls ≤ 2 * (spaced s level v).length
  | .array [] => by simp [Value.readCalls, itemsReadCalls, spaced, spacedThen]
  | .array (x :: xs) => by
    have first := readCalls_le_spaced (level + 1) x
    have others := itemsReadCalls_le_spaced level xs
    simp only [spaced_array, spacedItems, spacedThen_eq,
      spacedItemsThen_eq s level xs (s.closing level ++ [0x5D]),
      List.length_cons, List.length_append, Value.readCalls, itemsReadCalls]
    omega
  | .object [] => by simp [Value.readCalls, membersReadCalls, spaced, spacedThen]
  | .object ((k, v) :: ms) => by
    have first := readCalls_le_spaced (level + 1) v
    have others := membersReadCalls_le_spaced level ms
    simp only [spaced_object, spacedMembers, spacedThen_eq,
      spacedMembersThen_eq s level ms (s.closing level ++ [0x7D]),
      List.length_cons, List.length_append, Value.readCalls, membersReadCalls]
    omega
  | .null | .bool _ | .int _ | .float _ | .str _ => readCalls_le_of_scalar s level rfl

theorem itemsReadCalls_le_spaced (level : Nat) :
    ∀ xs : List Value, itemsReadCalls xs ≤ 2 * (spacedItemsThen s level xs []).length
  | [] => by simp [itemsReadCalls, spacedItemsThen]
  | x :: xs => by
    have first := readCalls_le_spaced (level + 1) x
    have others := itemsReadCalls_le_spaced level xs
    simp only [spacedItemsThen, spacedThen_eq, List.length_cons, List.length_append,
      itemsReadCalls]
    omega

theorem membersReadCalls_le_spaced (level : Nat) :
    ∀ ms : List (Text × Value), membersReadCalls ms ≤ 2 * (spacedMembersThen s level ms []).length
  | [] => by simp [membersReadCalls, spacedMembersThen]
  | (k, v) :: ms => by
    have first := readCalls_le_spaced (level + 1) v
    have others := membersReadCalls_le_spaced level ms
    simp only [spacedMembersThen, spacedThen_eq, List.length_cons, List.length_append,
      membersReadCalls]
    omega

end

end Shape

end Bookmarks.Json
