import Bookmarks.Proofs.Json.Layout
/-!
Where an integer too long to spell stops the writing of the indented layout.

Nothing stops the writing of a value exactly when every integer it holds has at most 4300
digits (`stopIn_eq_none_iff`). When something does, what was written is the beginning of the
value's text, short of all of it (`stopIn_prefix`): the pieces go out in the order of the text,
and the piece that holds the integer never goes out.
-/
namespace Bookmarks.Json

mutual

/-- Whether every integer a value holds has at most 4300 digits, so that its text can be
written. -/
def Value.intsFit : Value → Bool
  | .int n => !tooLong n
  | .array items => itemsFit items
  | .object members => membersFit members
  | _ => true

/-- Whether every integer the items of a list hold can be written. -/
def itemsFit : List Value → Bool
  | [] => true
  | x :: xs => x.intsFit && itemsFit xs

/-- Whether every integer the values of a list of members hold can be written. -/
def membersFit : List (Text × Value) → Bool
  | [] => true
  | (_, v) :: ms => v.intsFit && membersFit ms

end

/-- What the items of an array at a level write after their opening bracket or separator. -/
def itemsText (level : Nat) (opening : Text) : List Value → Text
  | [] => []
  | x :: xs => opening ++ newlineThen level (writeIndented level x) ++ indentedItemsThen level xs []

/-- What the members of an object at a level write, with the separator before the first when
it is not the first of the object. -/
def membersText (level : Nat) (first : Bool) : List (Text × Value) → Text
  | [] => []
  | (k, v) :: ms => (if first then [] else 0x2C :: newlineThen level []) ++ quote k ++ [0x3A, 0x20] ++
      writeIndented level v ++ indentedMembersThen level ms []

theorem itemsText_separated (level : Nat) (xs : List Value) :
    itemsText level [0x2C] xs = indentedItemsThen level xs [] := by
  cases xs with
  | nil => rfl
  | cons x xs =>
    simp [itemsText, indentedItemsThen, indentedThen_eq, newlineThen]

theorem membersText_separated (level : Nat) (ms : List (Text × Value)) :
    membersText level false ms = indentedMembersThen level ms [] := by
  cases ms with
  | nil => rfl
  | cons member ms =>
    obtain ⟨k, v⟩ := member
    simp [membersText, indentedMembersThen, indentedThen_eq, newlineThen]

mutual

/-- Nothing stops the writing of a value exactly when every integer it holds can be written. -/
theorem stopIn_eq_none_iff (level : Nat) : ∀ v : Value, stopIn level v = none ↔ v.intsFit = true
  | .int n => by simp [stopIn, Value.intsFit]
  | .array items => by
    simp only [stopIn, Value.intsFit]
    exact stopInItems_eq_none_iff (level + 1) [0x5B] items
  | .object members => by
    simp only [stopIn, Value.intsFit, Option.map_eq_none_iff]
    exact stopInMembers_eq_none_iff (level + 1) true members
  | .null | .bool _ | .float _ | .str _ => by simp [stopIn, Value.intsFit]

theorem stopInItems_eq_none_iff (level : Nat) (opening : Text) :
    ∀ xs : List Value, stopInItems level opening xs = none ↔ itemsFit xs = true
  | [] => by simp [stopInItems, itemsFit]
  | x :: xs => by
    have first := stopIn_eq_none_iff level x
    have others := stopInItems_eq_none_iff level [0x2C] xs
    cases stop : stopIn level x with
    | some p => simp_all [stopInItems, itemsFit]
    | none => simp_all [stopInItems, itemsFit]

theorem stopInMembers_eq_none_iff (level : Nat) (first : Bool) :
    ∀ ms : List (Text × Value), stopInMembers level first ms = none ↔ membersFit ms = true
  | [] => by simp [stopInMembers, membersFit]
  | (k, v) :: ms => by
    have value := stopIn_eq_none_iff level v
    have others := stopInMembers_eq_none_iff level false ms
    cases stop : stopIn level v with
    | some p => simp_all [stopInMembers, membersFit]
    | none => simp_all [stopInMembers, membersFit]

end

theorem writeIndented_array_itemsText (level : Nat) (x : Value) (xs : List Value) :
    writeIndented level (.array (x :: xs)) =
      itemsText (level + 1) [0x5B] (x :: xs) ++ newlineThen level [0x5D] := by
  rw [writeIndented_array, itemsBody, indentedThen_eq,
    indentedItemsThen_eq (level + 1) xs (newlineThen level [0x5D])]
  simp [itemsText, newlineThen]

theorem writeIndented_object_membersText (level : Nat) (k : Text) (v : Value)
    (ms : List (Text × Value)) :
    writeIndented level (.object ((k, v) :: ms)) =
      (0x7B :: newlineThen (level + 1) []) ++ membersText (level + 1) true ((k, v) :: ms) ++
        newlineThen level [0x7D] := by
  rw [writeIndented_object, membersBody, indentedThen_eq,
    indentedMembersThen_eq (level + 1) ms (newlineThen level [0x7D])]
  simp [membersText, newlineThen]

mutual

/-- What a stopped writing leaves is the beginning of the value's text, short of all of it:
the integer that stops it is never written. -/
theorem stopIn_prefix (level : Nat) :
    ∀ (v : Value) (p : Text), stopIn level v = some p → ∃ rest, rest ≠ [] ∧ writeIndented level v = p ++ rest
  | .int n, p, stop => by
    simp only [stopIn] at stop
    split at stop
    · cases stop
      obtain ⟨d, t, text, -⟩ := Reader.head_ofInt n
      exact ⟨Text.ofInt n, by simp [text], by simp [writeIndented, indentedThen, scalarText]⟩
    · cases stop
  | .array [], p, stop => by simp [stopIn, stopInItems] at stop
  | .array (x :: xs), p, stop => by
    obtain ⟨rest, nonempty, text⟩ := stopInItems_prefix (level + 1) [0x5B] (x :: xs) p stop
    exact ⟨rest ++ newlineThen level [0x5D], by simp [nonempty],
      by rw [writeIndented_array_itemsText, text, List.append_assoc]⟩
  | .object [], p, stop => by simp [stopIn, stopInMembers] at stop
  | .object ((k, v) :: ms), p, stop => by
    simp only [stopIn, Option.map_eq_some_iff] at stop
    obtain ⟨q, inner, rfl⟩ := stop
    obtain ⟨rest, nonempty, text⟩ := stopInMembers_prefix (level + 1) true ((k, v) :: ms) q inner
    exact ⟨rest ++ newlineThen level [0x7D], by simp [nonempty],
      by rw [writeIndented_object_membersText, text]; simp⟩
  | .null, p, stop | .bool _, p, stop | .float _, p, stop | .str _, p, stop => by
    simp [stopIn] at stop

theorem stopInItems_prefix (level : Nat) (opening : Text) :
    ∀ (xs : List Value) (p : Text), stopInItems level opening xs = some p →
      ∃ rest, rest ≠ [] ∧ itemsText level opening xs = p ++ rest
  | [], p, stop => by simp [stopInItems] at stop
  | x :: xs, p, stop => by
    cases first : stopIn level x with
    | some q =>
      simp only [stopInItems, first, Option.some.injEq] at stop
      subst stop
      obtain ⟨rest, nonempty, text⟩ := stopIn_prefix level x q first
      cases x.isContainer with
      | false =>
        -- an item that is no container goes out with its opening, so neither is written
        exact ⟨itemsText level opening (x :: xs), by simp [itemsText, newlineThen], rfl⟩
      | true =>
        refine ⟨rest ++ indentedItemsThen level xs [], by simp [nonempty], ?_⟩
        simp [itemsText, text, newlineThen]
    | none =>
      simp only [stopInItems, first, Option.map_eq_some_iff] at stop
      obtain ⟨q, later, rfl⟩ := stop
      obtain ⟨rest, nonempty, text⟩ := stopInItems_prefix level [0x2C] xs q later
      refine ⟨rest, nonempty, ?_⟩
      rw [itemsText, ← itemsText_separated, text]
      simp

theorem stopInMembers_prefix (level : Nat) (first : Bool) :
    ∀ (ms : List (Text × Value)) (p : Text), stopInMembers level first ms = some p →
      ∃ rest, rest ≠ [] ∧ membersText level first ms = p ++ rest
  | [], p, stop => by simp [stopInMembers] at stop
  | (k, v) :: ms, p, stop => by
    cases value : stopIn level v with
    | some q =>
      simp only [stopInMembers, value, Option.some.injEq] at stop
      subst stop
      obtain ⟨rest, nonempty, text⟩ := stopIn_prefix level v q value
      refine ⟨rest ++ indentedMembersThen level ms [], by simp [nonempty], ?_⟩
      simp [membersText, text]
    | none =>
      simp only [stopInMembers, value, Option.map_eq_some_iff] at stop
      obtain ⟨q, later, rfl⟩ := stop
      obtain ⟨rest, nonempty, text⟩ := stopInMembers_prefix level false ms q later
      refine ⟨rest, nonempty, ?_⟩
      rw [membersText, ← membersText_separated, text]
      simp

end

end Bookmarks.Json
