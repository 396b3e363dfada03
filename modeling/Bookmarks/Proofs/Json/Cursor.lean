import Mathlib
import Bookmarks.Json.Reader
/-!
The reader's positions, seen as what remains of the text from them on.

The reader walks an array of code points by position. Its proofs follow what remains of the
text at each position instead, a list whose head is the code point the reader looks at next,
so that the text a writer produced can be matched against it piece by piece.
-/
namespace Bookmarks.Json.Reader

/-- What remains of the text from position `i` on. -/
def remaining (doc : Doc) (i : Nat) : Text := doc.toList.drop i

variable {doc : Doc} {i : Nat} {c : Nat} {t w : Text}

theorem at?_add (doc : Doc) (i k : Nat) : at? doc (i + k) = (remaining doc i)[k]? := by
  simp [at?, remaining, List.getElem?_drop]

theorem at?_eq_head (doc : Doc) (i : Nat) : at? doc i = (remaining doc i).head? := by
  rw [List.head?_eq_getElem?, ← at?_add, Nat.add_zero]

theorem at?_of_remaining (h : remaining doc i = c :: t) : at? doc i = some c := by
  simpa [h] using at?_add doc i 0

theorem remaining_add (doc : Doc) (i k : Nat) :
    remaining doc (i + k) = (remaining doc i).drop k := by
  simp [remaining, List.drop_drop]

theorem remaining_append (h : remaining doc i = w ++ t) : remaining doc (i + w.length) = t := by
  rw [remaining_add, h, List.drop_left]

theorem remaining_succ (h : remaining doc i = c :: t) : remaining doc (i + 1) = t :=
  remaining_append (show remaining doc i = [c] ++ t from h)

theorem lt_size_of_remaining (h : remaining doc i = c :: t) : i < doc.size := by
  by_contra outside
  simp [remaining, List.drop_eq_nil_of_le (show doc.toList.length ≤ i by simpa using outside)] at h

theorem getElem_of_remaining (h : remaining doc i = c :: t) (inside : i < doc.size) :
    doc[i] = c := by
  have := at?_of_remaining h
  simpa [at?, inside] using this

theorem size_sub_of_remaining (h : remaining doc i = t) : doc.size - i = t.length := by
  rw [← h]
  simp [remaining]

theorem size_eq_of_remaining (h : remaining doc i = c :: t) : doc.size = i + t.length + 1 := by
  have inside := lt_size_of_remaining h
  have left := size_sub_of_remaining h
  simp only [List.length_cons] at left
  omega

theorem at?_append {k : Nat} (h : remaining doc i = w ++ t) (inWord : k < w.length) :
    at? doc (i + k) = w[k]? := by
  rw [at?_add, h, List.getElem?_append_left inWord]

/-- The code points from one position to another are the first of what remains. -/
theorem extract_toList (doc : Doc) (a b : Nat) :
    (doc.extract a b).toList = (remaining doc a).take (b - a) := by
  simp [Array.toList_extract, List.extract_eq_take_drop, remaining]

theorem extract_of_remaining (h : remaining doc i = w ++ t) :
    (doc.extract i (i + w.length)).toList = w := by
  rw [extract_toList, Nat.add_sub_cancel_left, h, List.take_left]

/-! ## Scanning runs -/

/-- Skipping whitespace passes exactly the blanks in front of a text that does not start with
one. -/
theorem skipSpace_of_remaining (h : remaining doc i = w ++ t) (blank : ∀ c ∈ w, isSpace c)
    (stop : ∀ c ∈ t.head?, isSpace c = false) : skipSpace doc i = i + w.length := by
  induction w generalizing i with
  | nil =>
    rw [skipSpace]
    split
    · rename_i inside
      cases t with
      | nil => simp [remaining] at h; omega
      | cons d ds =>
        have nonBlank : isSpace d = false := stop d rfl
        simp [getElem_of_remaining h inside, nonBlank]
    · rfl
  | cons b bs ih =>
    have next := ih (remaining_succ h) (fun c member => blank c (.tail b member))
    have inside := lt_size_of_remaining h
    rw [skipSpace, dif_pos inside, getElem_of_remaining h inside, if_pos (blank b (.head bs)),
      next]
    simp only [List.length_cons]
    omega

/-- Skipping whitespace stays put before a text that does not start with a blank. -/
theorem skipSpace_of_head (h : remaining doc i = t) (stop : ∀ c ∈ t.head?, isSpace c = false) :
    skipSpace doc i = i := by
  simpa using skipSpace_of_remaining (show remaining doc i = [] ++ t by simpa using h) (by simp) stop

/-- Skipping digits passes exactly the digits in front of a text that does not start with
one. -/
theorem skipDigits_of_remaining (h : remaining doc i = w ++ t) (digits : ∀ c ∈ w, Text.isDigit c)
    (stop : ∀ c ∈ t.head?, Text.isDigit c = false) : skipDigits doc i = i + w.length := by
  induction w generalizing i with
  | nil =>
    rw [skipDigits]
    split
    · rename_i inside
      cases t with
      | nil => simp [remaining] at h; omega
      | cons d ds =>
        have nonDigit : Text.isDigit d = false := stop d rfl
        simp [getElem_of_remaining h inside, nonDigit]
    · rfl
  | cons b bs ih =>
    have next := ih (remaining_succ h) (fun c member => digits c (.tail b member))
    have inside := lt_size_of_remaining h
    rw [skipDigits, dif_pos inside, getElem_of_remaining h inside, if_pos (digits b (.head bs)),
      next]
    simp only [List.length_cons]
    omega

/-- A word in front of what remains is spelled there. -/
theorem spells_of_remaining {word : String} (h : remaining doc i = Text.ofString word ++ t) :
    spells doc i word = true := by
  unfold spells
  rw [List.all_eq_true]
  rintro ⟨d, k⟩ member
  obtain ⟨inWord, same⟩ := List.mem_zipIdx' member
  simp [at?_append h inWord, same]

/-- A word is not spelled where one of its code points is missing. -/
theorem spells_of_mismatch {word : String} {k : Nat} (inWord : k < (Text.ofString word).length)
    (other : at? doc (i + k) ≠ (Text.ofString word)[k]?) : spells doc i word = false := by
  unfold spells
  rw [List.all_eq_false]
  refine ⟨((Text.ofString word)[k], k), List.mem_zipIdx_iff_getElem?.mpr (by simp), ?_⟩
  simpa [List.getElem?_eq_getElem inWord] using other

/-- What the reader needs of a word in front of what remains: its first code point, its
spelling, and room for the rest of it. -/
theorem word_of_remaining {word : String} {cs : Text}
    (spelled : Text.ofString word = c :: cs) (h : remaining doc i = Text.ofString word ++ t) :
    at? doc i = some c ∧ spells doc i word = true ∧ i + cs.length < doc.size := by
  refine ⟨?_, spells_of_remaining h, ?_⟩
  · rw [spelled, List.cons_append] at h
    exact at?_of_remaining h
  · rw [spelled, List.cons_append] at h
    have := size_eq_of_remaining h
    simp only [List.length_append] at this
    omega

end Bookmarks.Json.Reader
