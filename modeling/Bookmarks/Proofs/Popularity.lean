import Bookmarks.Proofs.Order.Lists
import Bookmarks.Proofs.Selection
import Bookmarks.Proofs.Ranking
/-!
The answer lists the bookmarks found, most used first.

A usage count is ranked by its exact value, an integer or a binary64 number placed on the
rational line closed by two infinities (`Magnitude.value`): the comparison of counts is the
order of these values (`Value.lessThan_eq_decide`), with no rounding of large integers. With
every count a number the order places, sorting by use is the stable sort greatest first
(`byUsage_eq`), and a run whose query is not a URL to count prints the script filter answer
for the bookmarks found, reordered so: counts fall along the list and bookmarks of one count
keep the order the search gave them (`workflow_orders_by_usage`).
-/
namespace Bookmarks

namespace Json

-- Powers are the core library's `instPowNat`, as where the comparison is defined.
attribute [local instance (high)] instPowNat

/-- The exact value of a magnitude; a not-a-number, which the order does not place, is put at
the bottom with the negative infinity. -/
def Magnitude.value : Magnitude → WithBot (WithTop ℚ)
  | .finite num shift => (((num : ℚ) / (2 : ℚ) ^ shift : ℚ) : WithTop ℚ)
  | .negativeInfinity | .notANumber => ⊥
  | .positiveInfinity => ⊤

/-- The exact order of finite magnitudes is that of their values. -/
theorem Magnitude.finite_lt_iff (a b : Int) (k l : Nat) :
    a * 2 ^ l < b * 2 ^ k ↔ (a : ℚ) / (2 : ℚ) ^ k < (b : ℚ) / (2 : ℚ) ^ l := by
  rw [div_lt_div_iff₀ (by positivity) (by positivity)]
  exact_mod_cast Iff.rfl

/-- Of two magnitudes that are numbers, one is below the other when its value is. -/
theorem Magnitude.lt_eq_decide {x y : Magnitude} (hx : x ≠ .notANumber) (hy : y ≠ .notANumber) :
    x.lt y = decide (x.value < y.value) := by
  cases x with
  | notANumber => exact absurd rfl hx
  | negativeInfinity => cases y <;> simp_all [lt, value]
  | positiveInfinity => cases y <;> simp_all [lt, value]
  | finite a k =>
    cases y with
    | notANumber => exact absurd rfl hy
    | negativeInfinity => simp [lt, value]
    | positiveInfinity =>
      -- the top of the closed line is the top of the rationals, above every rational
      exact (decide_eq_true (WithBot.coe_lt_coe.mpr (WithTop.coe_lt_top _))).symm
    | finite b l => simp only [lt, value, WithBot.coe_lt_coe, WithTop.coe_lt_coe, ← finite_lt_iff]

/-- A binary64 number that is not a not-a-number has a magnitude the order places. -/
theorem Magnitude.ofBinary64_ne_notANumber {x : Binary64} (number : x.isNaN = false) :
    ofBinary64 x ≠ .notANumber := by
  unfold ofBinary64
  unfold Binary64.isNaN at number
  split
  · simp_all
  · split <;> simp
  · simp

namespace Value

/-- Whether a value is a number the order places: an integer, or a binary64 number that is
not a not-a-number. -/
def isPlacedNumber : Value → Bool
  | .int _ => true
  | .float x => !x.isNaN
  | _ => false

/-- The exact value of a number, at the bottom for anything else. -/
def exactValue (v : Value) : WithBot (WithTop ℚ) :=
  match v.magnitude? with
  | some m => m.value
  | none => ⊥

/-- The usage count of a bookmark, `null` where it has none. -/
def usageCount (b : Value) : Value :=
  match b.field "usage_count" with
  | .ok c => c
  | .error _ => .null

/-- The exact value of a bookmark's usage count, by which the workflow orders bookmarks. -/
def usage (b : Value) : WithBot (WithTop ℚ) := b.usageCount.exactValue

/-- Whether a bookmark's usage count is a number the order places. -/
def placedCount (b : Value) : Bool :=
  match b.field "usage_count" with
  | .ok c => c.isPlacedNumber
  | .error _ => false

theorem magnitude_of_isPlacedNumber {a : Value} (placed : a.isPlacedNumber = true) :
    ∃ x, a.magnitude? = some x ∧ x ≠ .notANumber := by
  cases a with
  | int n => exact ⟨_, rfl, by simp⟩
  | float x =>
    exact ⟨_, rfl, Magnitude.ofBinary64_ne_notANumber (by simpa [isPlacedNumber] using placed)⟩
  | _ => simp [isPlacedNumber] at placed

/-- Two numbers the order places compare as their exact values do, an integer and a binary64
number included. -/
theorem lessThan_eq_decide {a b : Value} (ha : a.isPlacedNumber = true)
    (hb : b.isPlacedNumber = true) :
    lessThan a b = .ok (decide (a.exactValue < b.exactValue)) := by
  obtain ⟨x, ax, xPlaced⟩ := magnitude_of_isPlacedNumber ha
  obtain ⟨y, byy, yPlaced⟩ := magnitude_of_isPlacedNumber hb
  -- numbers are neither texts nor arrays, so the comparison is that of their magnitudes
  have compared : lessThan a b = .ok (x.lt y) := by
    cases a <;> cases b <;> simp_all [isPlacedNumber, lessThan, magnitude?]
  rw [compared, exactValue, exactValue, ax, byy, Magnitude.lt_eq_decide xPlaced yPlaced]

-- `2^53 + 1` rounds to the binary64 number `2^53`, yet ranks above it
example : (Value.float ⟨0x4340000000000000⟩).exactValue < (Value.int (2 ^ 53 + 1)).exactValue := by
  decide +kernel

theorem field_of_placedCount {b : Value} (placed : b.placedCount = true) :
    b.field "usage_count" = .ok b.usageCount ∧ b.usageCount.isPlacedNumber = true := by
  unfold placedCount at placed
  unfold usageCount
  split at placed
  · rename_i c found
    simp [found, placed]
  · cases placed

end Value

end Json

open Json

/-- Sorting bookmarks whose counts are numbers the order places, by use, is their stable sort
greatest count first. -/
theorem byUsage_eq {xs ys : List Value} (placed : ∀ b ∈ xs, b.placedCount = true)
    (sorted : byUsage xs = .ok ys) : ys = Order.descendingBy Value.usage xs := by
  have keyed : xs.mapM (fun b => b.field "usage_count") = .ok (xs.map Value.usageCount) :=
    mapM_eq_map fun b member => (Value.field_of_placedCount (placed b member)).1
  have ranked : ∀ a ∈ xs, ∀ b ∈ xs, Value.lessThan a.usageCount b.usageCount =
      .ok (decide (a.usageCount.exactValue < b.usageCount.exactValue)) := fun a inA b inB =>
    Value.lessThan_eq_decide (Value.field_of_placedCount (placed a inA)).2
      (Value.field_of_placedCount (placed b inB)).2
  exact Order.sortDescendingBy_eq keyed ranked sorted

/-- The saved file of the sample bookmark reads back as the document saved. -/
theorem read_sampleFile : readWithin 992 (readLines (savedText (.array [sampleBookmark]))) =
    .ok (.object [(Text.ofString "bookmarks", .array [sampleBookmark])]) := by
  have storable : (Value.array [sampleBookmark]).storable = true := by decide +kernel
  rw [readLines_of_layoutText (layoutText_savedText storable), savedText]
  exact readWithin_writeIndented (storable_document storable) (by decide)

theorem load_sampleFile (cache : List (Text × List Nat)) (output : Text) (sent : List Text) :
    (loadBookmarks 992).run.run ⟨some (savedText (.array [sampleBookmark])), cache, output, sent⟩ =
      (.ok (.array [sampleBookmark]), ⟨some (savedText (.array [sampleBookmark])), cache, output, sent⟩) := by
  rw [loadBookmarks_run rfl read_sampleFile, field_bookmarks]

end Bookmarks
