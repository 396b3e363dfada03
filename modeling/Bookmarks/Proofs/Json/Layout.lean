import Bookmarks.Proofs.Json.Numbers
import Bookmarks.Proofs.Json.Strings
import Bookmarks.Json.Dump
/-!
The indented layout as text: its shape, what it is made of, and what a value must be for the
reader to give it back.

A value is storable when its texts and keys are storable, its integers have at most 4300
digits, its one not-a-number is the reader's, and no object names a key twice. The layout of
an array or object is its opening bracket, a line break and a body, a first value and what
follows it, so that proofs about the writer's stops never unfold it. The text of a storable
value holds only line feeds and printable ASCII; the one-line layout of any value is printable
ASCII.
-/
namespace Bookmarks.Json

mutual

/-- Whether a value comes back unchanged from its indented text: its texts and keys are
storable, its integers have at most 4300 digits, its one not-a-number is the one the reader
gives, and none of its objects names a key twice. -/
def Value.storable : Value → Bool
  | .null | .bool _ => true
  | .int n => (Text.ofNat n.natAbs).length ≤ digitLimit
  | .float x => !x.isNaN || x == Binary64.nan
  | .str s => storableText s
  | .array items => storableItems items
  | .object members => storableMembers members

/-- Whether every item of a list is storable. -/
def storableItems : List Value → Bool
  | [] => true
  | x :: xs => x.storable && storableItems xs

/-- Whether every member of a list is storable, with a storable key that no later member
names. -/
def storableMembers : List (Text × Value) → Bool
  | [] => true
  | (k, v) :: ms => storableText k && !(ms.any (·.1 == k)) && v.storable && storableMembers ms

end

mutual

/-- How many arrays and objects stand one inside another in a value. -/
def Value.nesting : Value → Nat
  | .array items => itemsNesting items + 1
  | .object members => membersNesting members + 1
  | _ => 0

/-- The deepest nesting among the items of a list. -/
def itemsNesting : List Value → Nat
  | [] => 0
  | x :: xs => max x.nesting (itemsNesting xs)

/-- The deepest nesting among the values of a list of members. -/
def membersNesting : List (Text × Value) → Nat
  | [] => 0
  | (_, v) :: ms => max v.nesting (membersNesting ms)

end

mutual

/-- The calls the reader makes to read a value: one for the value, and for an array or an
object one for each item or member and one for its closing bracket. -/
def Value.readCalls : Value → Nat
  | .array items => itemsReadCalls items + 2
  | .object members => membersReadCalls members + 2
  | _ => 1

/-- The calls the reader makes for the items of a list. -/
def itemsReadCalls : List Value → Nat
  | [] => 0
  | x :: xs => x.readCalls + itemsReadCalls xs + 1

/-- The calls the reader makes for the members of a list. -/
def membersReadCalls : List (Text × Value) → Nat
  | [] => 0
  | (_, v) :: ms => v.readCalls + membersReadCalls ms + 1

end

example : (Value.array [.int 3, .object [([0x61], .float Binary64.nan)]]).storable := by decide
example : (Value.array [.int 3, .object [(Text.ofString "a", .null)]]).nesting = 2 := by decide

mutual

theorem indentedThen_append (level : Nat) : ∀ (v : Value) (a b : Text),
    indentedThen level v a ++ b = indentedThen level v (a ++ b)
  | .array [], _, _ => rfl
  | .array (x :: xs), a, b => by
    simp only [indentedThen, newlineThen, List.cons_append, List.append_assoc,
      indentedThen_append (level + 1) x, indentedItemsThen_append (level + 1) xs]
  | .object [], _, _ => rfl
  | .object ((k, v) :: ms), a, b => by
    simp only [indentedThen, newlineThen, List.cons_append, List.append_assoc,
      indentedThen_append (level + 1) v, indentedMembersThen_append (level + 1) ms]
  | .null, _, _ | .bool _, _, _ | .int _, _, _ | .float _, _, _ | .str _, _, _ => by
    simp only [indentedThen, List.append_assoc]

theorem indentedItemsThen_append (level : Nat) : ∀ (xs : List Value) (a b : Text),
    indentedItemsThen level xs a ++ b = indentedItemsThen level xs (a ++ b)
  | [], _, _ => rfl
  | x :: xs, a, b => by
    simp only [indentedItemsThen, newlineThen, List.cons_append, List.append_assoc,
      indentedThen_append level x, indentedItemsThen_append level xs]

theorem indentedMembersThen_append (level : Nat) : ∀ (ms : List (Text × Value)) (a b : Text),
    indentedMembersThen level ms a ++ b = indentedMembersThen level ms (a ++ b)
  | [], _, _ => rfl
  | (k, v) :: ms, a, b => by
    simp only [indentedMembersThen, newlineThen, List.cons_append, List.append_assoc,
      indentedThen_append level v, indentedMembersThen_append level ms]

end

/-- A value in the indented layout followed by a text is its text followed by that text. -/
theorem indentedThen_eq (level : Nat) (v : Value) (rest : Text) :
    indentedThen level v rest = writeIndented level v ++ rest := by
  rw [writeIndented, indentedThen_append, List.nil_append]

theorem indentedItemsThen_eq (level : Nat) (xs : List Value) (rest : Text) :
    indentedItemsThen level xs rest = indentedItemsThen level xs [] ++ rest := by
  rw [indentedItemsThen_append, List.nil_append]

theorem indentedMembersThen_eq (level : Nat) (ms : List (Text × Value)) (rest : Text) :
    indentedMembersThen level ms rest = indentedMembersThen level ms [] ++ rest := by
  rw [indentedMembersThen_append, List.nil_append]

theorem newlineThen_eq (level : Nat) (t : Text) :
    newlineThen level t = (0x0A :: List.replicate (4 * level) 0x20) ++ t := rfl

/-- The items of an array at a level, from the first item to the closing bracket. -/
def itemsBody (level : Nat) (x : Value) (xs : List Value) : Text :=
  indentedThen (level + 1) x (indentedItemsThen (level + 1) xs (newlineThen level [0x5D]))

/-- The members of an object at a level, from the first key to the closing brace. -/
def membersBody (level : Nat) (k : Text) (v : Value) (ms : List (Text × Value)) : Text :=
  quote k ++ 0x3A :: 0x20 ::
    indentedThen (level + 1) v (indentedMembersThen (level + 1) ms (newlineThen level [0x7D]))

theorem writeIndented_array (level : Nat) (x : Value) (xs : List Value) :
    writeIndented level (.array (x :: xs)) = 0x5B :: newlineThen (level + 1) (itemsBody level x xs) :=
  rfl

theorem writeIndented_object (level : Nat) (k : Text) (v : Value) (ms : List (Text × Value)) :
    writeIndented level (.object ((k, v) :: ms)) =
      0x7B :: newlineThen (level + 1) (membersBody level k v ms) := by
  simp [writeIndented, indentedThen, membersBody]

/-- Whether a text holds only line feeds and printable ASCII, as the indented layout of a
storable value does. -/
def layoutText (t : Text) : Bool := t.all fun c => c == 0x0A || (0x20 ≤ c && c ≤ 0x7E)

@[simp] theorem layoutText_nil : layoutText [] = true := rfl

@[simp] theorem layoutText_cons (c : Nat) (t : Text) :
    layoutText (c :: t) = ((c == 0x0A || (0x20 ≤ c && c ≤ 0x7E)) && layoutText t) := rfl

@[simp] theorem layoutText_append (a b : Text) :
    layoutText (a ++ b) = (layoutText a && layoutText b) := by
  simp [layoutText, List.all_append]

theorem layoutText_of_printable {t : Text} (printable : ∀ c ∈ t, 0x20 ≤ c ∧ c ≤ 0x7E) :
    layoutText t = true := by
  simp only [layoutText, List.all_eq_true]
  intro c member
  simp [printable c member]

theorem layoutText_replicate (n : Nat) : layoutText (List.replicate n 0x20) = true := by
  induction n with
  | zero => rfl
  | succ n ih => simp [List.replicate_succ, ih]

theorem layoutText_newlineThen (level : Nat) (t : Text) :
    layoutText (newlineThen level t) = layoutText t := by
  simp [newlineThen_eq, layoutText_replicate]

open Reader NumberParts in
/-- A number text is printable ASCII. -/
theorem printable_of_valid {p : NumberParts} (valid : p.Valid) :
    ∀ c ∈ p.text, 0x20 ≤ c ∧ c ≤ 0x7E := by
  have digits : ∀ {t : Text}, (∀ d ∈ t, Text.isDigit d) → ∀ d ∈ t, 0x20 ≤ d ∧ d ≤ 0x7E := by
    intro t all d member
    have := all d member
    simp [Text.isDigit] at this
    omega
  have whole : ∀ d ∈ p.whole, Text.isDigit d := by
    rcases valid.whole with zero | ⟨c, cs, lead, low, high, rest⟩
    · simp [zero]
      decide
    · simp only [lead, List.mem_cons, forall_eq_or_imp]
      exact ⟨by simp [Text.isDigit]; omega, rest⟩
  have exponent : ∀ d ∈ exponentText p.exponent, 0x20 ≤ d ∧ d ≤ 0x7E := by
    rcases exponent : p.exponent with _ | ⟨negative, ds⟩
    · simp [exponentText]
    · have := digits (valid.exponent negative ds exponent).2
      cases negative <;> simpa [exponentText] using this
  have fraction : ∀ d ∈ fractionText p.fraction, 0x20 ≤ d ∧ d ≤ 0x7E := by
    unfold fractionText
    split
    · simp
    · simpa using digits valid.fraction
  intro c member
  simp only [text, List.mem_append] at member
  rcases member with ((sign | inWhole) | inFraction) | inExponent
  · cases neg : p.neg <;> simp [signText, neg] at sign
    omega
  · exact digits whole c inWhole
  · exact fraction c inFraction
  · exact exponent c inExponent

open Reader in
/-- The text of a number, constant or text is printable ASCII. -/
theorem printable_scalarText (v : Value) : ∀ c ∈ scalarText v, 0x20 ≤ c ∧ c ≤ 0x7E := by
  cases v with
  | null => decide
  | bool b => cases b <;> decide
  | int n =>
    have digits : ∀ k, ∀ d ∈ Text.ofNat k, 0x20 ≤ d ∧ d ≤ 0x7E := fun k d member => by
      have := Text.isDigit_of_mem_ofNat member
      simp [Text.isDigit] at this
      omega
    cases n with
    | ofNat k => simpa [scalarText, Text.ofInt] using digits k
    | negSucc k => simpa [scalarText, Text.ofInt] using digits (k + 1)
  | float x =>
    cases parts : x.toParts with
    | nan => simp [scalarText, Binary64.spell, parts, numberStyle, Text.ofString]
    | infinite neg =>
      cases neg <;> simp [scalarText, Binary64.spell, parts, numberStyle, Text.ofString]
    | finite neg m q =>
      obtain ⟨p, valid, -, -, spelled, -⟩ := spell_parts parts
      rw [scalarText, spelled]
      exact printable_of_valid valid
  | str s => exact printable_quote s
  | array items => simp [scalarText, Text.ofString]
  | object members => simp [scalarText, Text.ofString]

theorem layoutText_scalarText (v : Value) : layoutText (scalarText v) = true :=
  layoutText_of_printable (printable_scalarText v)

mutual

/-- The indented text of a storable value holds only line feeds and printable ASCII. -/
theorem layoutText_writeIndented (level : Nat) :
    ∀ v : Value, v.storable = true → layoutText (writeIndented level v) = true
  | .array [], _ => rfl
  | .array (x :: xs), storable => by
    simp only [Value.storable, storableItems, Bool.and_eq_true] at storable
    have first := layoutText_writeIndented (level + 1) x storable.1
    have others := layoutText_items (level + 1) xs storable.2
    simp [writeIndented_array, itemsBody, indentedThen_eq,
      indentedItemsThen_eq (level + 1) xs (newlineThen level [0x5D]), layoutText_newlineThen, first,
      others]
  | .object [], _ => rfl
  | .object ((k, v) :: ms), storable => by
    simp only [Value.storable, storableMembers, Bool.and_eq_true] at storable
    have key := layoutText_of_printable (printable_quote k)
    have first := layoutText_writeIndented (level + 1) v storable.1.2
    have others := layoutText_members (level + 1) ms storable.2
    simp [writeIndented_object, membersBody, indentedThen_eq,
      indentedMembersThen_eq (level + 1) ms (newlineThen level [0x7D]), layoutText_newlineThen, key,
      first, others]
  | .null, _ | .bool _, _ | .int _, _ | .float _, _ | .str _, _ => by
    rw [show writeIndented level _ = scalarText _ from List.append_nil _]
    exact layoutText_scalarText _

theorem layoutText_items (level : Nat) :
    ∀ xs : List Value, storableItems xs = true → layoutText (indentedItemsThen level xs []) = true
  | [], _ => rfl
  | x :: xs, storable => by
    simp only [storableItems, Bool.and_eq_true] at storable
    have first := layoutText_writeIndented level x storable.1
    have others := layoutText_items level xs storable.2
    simp [indentedItemsThen, indentedThen_eq, layoutText_newlineThen, first, others]

theorem layoutText_members (level : Nat) :
    ∀ ms : List (Text × Value), storableMembers ms = true →
      layoutText (indentedMembersThen level ms []) = true
  | [], _ => rfl
  | (k, v) :: ms, storable => by
    simp only [storableMembers, Bool.and_eq_true] at storable
    have key := layoutText_of_printable (printable_quote k)
    have first := layoutText_writeIndented level v storable.1.2
    have others := layoutText_members level ms storable.2
    simp [indentedMembersThen, indentedThen_eq, layoutText_newlineThen, key, first, others]

end

mutual

/-- Nothing stops the writing of a storable value: none of its integers is too long. -/
theorem stopIn_of_storable (level : Nat) : ∀ v : Value, v.storable = true → stopIn level v = none
  | .int n, storable => by
    simp only [Value.storable, decide_eq_true_eq] at storable
    simp [stopIn, tooLong]
    omega
  | .array items, storable =>
    stopInItems_of_storable (level + 1) [0x5B] items (by simpa [Value.storable] using storable)
  | .object members, storable => by
    simp [stopIn, stopInMembers_of_storable (level + 1) true members
      (by simpa [Value.storable] using storable)]
  | .null, _ | .bool _, _ | .float _, _ | .str _, _ => rfl

theorem stopInItems_of_storable (level : Nat) (opening : Text) :
    ∀ xs : List Value, storableItems xs = true → stopInItems level opening xs = none
  | [], _ => rfl
  | x :: xs, storable => by
    simp only [storableItems, Bool.and_eq_true] at storable
    simp [stopInItems, stopIn_of_storable level x storable.1,
      stopInItems_of_storable level [0x2C] xs storable.2]

theorem stopInMembers_of_storable (level : Nat) (first : Bool) :
    ∀ ms : List (Text × Value), storableMembers ms = true → stopInMembers level first ms = none
  | [], _ => rfl
  | (k, v) :: ms, storable => by
    simp only [storableMembers, Bool.and_eq_true] at storable
    simp [stopInMembers, stopIn_of_storable level v storable.1.2,
      stopInMembers_of_storable level false ms storable.2]

end

mutual

/-- The one-line layout writes only printable ASCII before what follows it. -/
theorem printable_writeThen : ∀ (v : Value) (rest : Text), (∀ c ∈ rest, 0x20 ≤ c ∧ c ≤ 0x7E) →
    ∀ c ∈ writeThen v rest, 0x20 ≤ c ∧ c ≤ 0x7E
  | .array [], _, after => by simpa [writeThen] using after
  | .array (x :: xs), rest, after => by
    have closing : ∀ c ∈ 0x5D :: rest, 0x20 ≤ c ∧ c ≤ 0x7E :=
      List.forall_mem_cons.mpr ⟨by decide, after⟩
    have inner := printable_writeThen x _ (printable_itemsThen xs _ closing)
    simp only [writeThen, List.forall_mem_cons]
    exact ⟨by decide, inner⟩
  | .object [], _, after => by simpa [writeThen] using after
  | .object ((k, v) :: ms), rest, after => by
    have closing : ∀ c ∈ 0x7D :: rest, 0x20 ≤ c ∧ c ≤ 0x7E :=
      List.forall_mem_cons.mpr ⟨by decide, after⟩
    have inner := printable_writeThen v _ (printable_membersThen ms _ closing)
    simp only [writeThen, List.cons_append, List.forall_mem_cons, List.forall_mem_append]
    exact ⟨by decide, printable_quote k, ⟨by decide, by decide, inner⟩⟩
  | .null, _, after | .bool _, _, after | .int _, _, after | .float _, _, after
  | .str _, _, after => fun c member => by
    change c ∈ scalarText _ ++ _ at member
    rcases List.mem_append.mp member with inScalar | inRest
    · exact printable_scalarText _ c inScalar
    · exact after c inRest

theorem printable_itemsThen : ∀ (xs : List Value) (rest : Text),
    (∀ c ∈ rest, 0x20 ≤ c ∧ c ≤ 0x7E) → ∀ c ∈ itemsThen xs rest, 0x20 ≤ c ∧ c ≤ 0x7E
  | [], _, after => after
  | x :: xs, rest, after => by
    have inner := printable_writeThen x _ (printable_itemsThen xs rest after)
    simp only [itemsThen, List.forall_mem_cons]
    exact ⟨by decide, by decide, inner⟩

theorem printable_membersThen : ∀ (ms : List (Text × Value)) (rest : Text),
    (∀ c ∈ rest, 0x20 ≤ c ∧ c ≤ 0x7E) → ∀ c ∈ membersThen ms rest, 0x20 ≤ c ∧ c ≤ 0x7E
  | [], _, after => after
  | (k, v) :: ms, rest, after => by
    have inner := printable_writeThen v _ (printable_membersThen ms rest after)
    simp only [membersThen, List.cons_append, List.forall_mem_cons, List.forall_mem_append]
    exact ⟨by decide, by decide, printable_quote k, ⟨by decide, by decide, inner⟩⟩

end

/-- The one-line layout of any value is printable ASCII. -/
theorem printable_write (v : Value) : ∀ c ∈ write v, 0x20 ≤ c ∧ c ≤ 0x7E :=
  printable_writeThen v [] (by simp)

/-- The one-line layout of a value holds no line break. -/
theorem lineFeed_not_mem_write (v : Value) : 0x0A ∉ write v := fun member => by
  have := printable_write v 0x0A member
  omega

end Bookmarks.Json
