import Bookmarks.Proofs.Json.Stops
import Bookmarks.Proofs.Storage
/-!
Counting a use of a URL and saving the bookmarks.

Counting either fails on the way, before the file is touched, or gives the bookmarks with the
first whose `url` equals the URL counted once more (`CountedAs`, stated through the members of
the bookmarks and not through the search). Saving then writes the whole text of the counted
bookmarks, unless one of their integers has more than 4300 digits: the file has been opened by
then, and it is left holding the beginning of that text, up to that integer. A count of 4300
nines is such a case: one more use of its bookmark leaves a file where there was none.
-/
namespace Bookmarks

open Json

theorem Json.Value.field_eq_ok {v x : Value} {key : String} (h : v.field key = .ok x) :
    ∃ members, v = .object members ∧ Object.get? members (Text.ofString key) = some x := by
  cases v with
  | object members =>
    refine ⟨members, rfl, ?_⟩
    simp only [Value.field] at h
    split at h
    · rename_i found
      cases h
      exact found
    · cases h
  | _ => simp [Value.field] at h

/-- Setting a member that an object has gives every member of that name the new value, in its
place. -/
theorem Json.Object.insert_of_get? {members : List (Text × Value)} {k : Text} {c : Value}
    (found : Object.get? members k = some c) (v : Value) :
    Object.insert members k v = members.map fun m => if m.1 = k then (k, v) else m := by
  have named : members.any (fun m => m.1 == k) = true := by
    simp only [Object.get?, Option.map_eq_some_iff] at found
    obtain ⟨m, first, -⟩ := found
    rw [List.any_eq_true]
    exact ⟨m, List.mem_of_find?_eq_some first, by simpa using List.find?_some first⟩
  simp [Object.insert, named]

/-- A bookmark the search for the selected URL passes over: it has a `url`, and that is not
the selected URL. -/
def PassedOver (selected b : Value) : Prop :=
  ∃ url, b.field "url" = .ok url ∧ url.equals selected = false

/-- What counting a use of `selected` makes of a list of bookmarks: the first bookmark whose
`url` equals it takes the next `usage_count`, in the place of the old one, and nothing else
changes; when no bookmark's `url` equals it, the list stays as it was. -/
def CountedAs (selected : Value) (items counted : List Value) : Prop :=
  ((∀ b ∈ items, PassedOver selected b) ∧ counted = items) ∨
  ∃ pre members post url count next,
    items = pre ++ .object members :: post ∧ (∀ b ∈ pre, PassedOver selected b) ∧
    Object.get? members (Text.ofString "url") = some url ∧ url.equals selected = true ∧
    Object.get? members (Text.ofString "usage_count") = some count ∧ count.plusOne = .ok next ∧
    counted = pre ++ .object (members.map fun m =>
      if m.1 = Text.ofString "usage_count" then (Text.ofString "usage_count", next) else m) :: post

/-- A list that counting a use leaves with a bookmark in front had that bookmark passed over
and the rest counted, or had it counted. -/
theorem countedAs_cons {selected b : Value} {rest counted : List Value}
    (passed : PassedOver selected b) (later : CountedAs selected rest counted) :
    CountedAs selected (b :: rest) (b :: counted) := by
  rcases later with ⟨none, rfl⟩ | ⟨pre, members, post, url, count, next, split, before, rest'⟩
  · refine .inl ⟨?_, rfl⟩
    intro c member
    rcases List.mem_cons.mp member with rfl | inRest
    · exact passed
    · exact none c inRest
  · refine .inr ⟨b :: pre, members, post, url, count, next, by simp [split], ?_, rest'.1, rest'.2.1,
      rest'.2.2.1, rest'.2.2.2.1, by simp [rest'.2.2.2.2]⟩
    intro c member
    rcases List.mem_cons.mp member with rfl | inPre
    · exact passed
    · exact before c inPre

/-- Counting a use of a URL, when it succeeds, does what `CountedAs` says. -/
theorem countFirstUse_spec {selected : Value} :
    ∀ {items counted : List Value}, countFirstUse selected items = .ok counted →
      CountedAs selected items counted
  | [], counted, h => by
    simp only [countFirstUse, pure, Except.pure, Except.ok.injEq] at h
    exact .inl ⟨by simp, h.symm⟩
  | b :: rest, counted, h => by
    simp only [countFirstUse, bind, Except.bind] at h
    cases url : b.field "url" with
    | error f => simp [url] at h
    | ok u =>
      obtain ⟨members, rfl, found⟩ := Value.field_eq_ok url
      simp only [url] at h
      by_cases same : u.equals selected = true
      · -- the first bookmark with the selected URL takes the next count
        simp only [same, if_true] at h
        cases count : (Value.object members).field "usage_count" with
        | error f => simp [count] at h
        | ok c =>
          obtain ⟨members', object, present⟩ := Value.field_eq_ok count
          cases object
          cases next : c.plusOne with
          | error f => simp [count, next] at h
          | ok n =>
            simp only [count, next, pure, Except.pure, Except.ok.injEq] at h
            subst h
            refine .inr ⟨[], members, rest, u, c, n, rfl, by simp, found, same, present, next, ?_⟩
            rw [Object.insert_of_get? present]
            rfl
      · simp only [same, Bool.false_eq_true, if_false] at h
        cases later : countFirstUse selected rest with
        | error f => simp [later, Functor.map, Except.map] at h
        | ok counted' =>
          simp only [later, Functor.map, Except.map, Except.ok.injEq] at h
          subst h
          exact countedAs_cons ⟨u, url, by simpa using same⟩ (countFirstUse_spec later)

theorem intsFit_document (bookmarks : Value) :
    (Value.object [(Text.ofString "bookmarks", bookmarks)]).intsFit = bookmarks.intsFit := by
  simp [Value.intsFit, membersFit]

/-- Counting a use among the bookmarks of a list leaves the world as it was. -/
theorem countUse_run (selected : Value) (items : List Value) (m : Machine) :
    (Run.ofExcept (countUse selected (.array items))).run.run m =
      (.array <$> countFirstUse selected items, m) := by
  rw [Run.run_ofExcept, countUse]

/-- A count that fails stops the update with its fault, before the file is touched. -/
theorem updateUsage_of_error {selected : Value} {items : List Value} {f : Fault}
    (counting : countFirstUse selected items = .error f) (m : Machine) :
    (updateUsage selected (.array items)).run.run m = (.error f, m) := by
  rw [updateUsage, Run.run_bind_error (by rw [countUse_run, counting]; rfl)]

/-- Counting a use that gives the counted list, when every integer of it can be written, saves
the list and gives it back. -/
theorem updateUsage_of_counted {selected : Value} {items counted : List Value}
    (counting : countFirstUse selected items = .ok counted)
    (fits : (Value.array counted).intsFit = true) (m : Machine) :
    (updateUsage selected (.array items)).run.run m =
      (.ok (.array counted), { m with file := some (savedText (.array counted)) }) := by
  have stop : stopIn 0 (.object [(Text.ofString "bookmarks", .array counted)]) = none := by
    rw [stopIn_eq_none_iff, intsFit_document]
    exact fits
  rw [updateUsage, Run.run_bind_ok (by rw [countUse_run, counting]; rfl),
    Run.run_bind_ok (saveBookmarks_of_none stop m)]
  rfl

/-- Counting a use that gives a counted list with an integer too long to write fails, with the
file left holding what was written before it. -/
theorem updateUsage_of_stopped {selected : Value} {items counted : List Value}
    (counting : countFirstUse selected items = .ok counted)
    (fits : (Value.array counted).intsFit = false) (m : Machine) :
    ∃ written, (updateUsage selected (.array items)).run.run m =
      (.error .longInteger, { m with file := some written }) := by
  cases stop : stopIn 0 (.object [(Text.ofString "bookmarks", .array counted)]) with
  | none =>
    rw [stopIn_eq_none_iff, intsFit_document, fits] at stop
    cases stop
  | some written =>
    refine ⟨written, ?_⟩
    rw [updateUsage, Run.run_bind_ok (by rw [countUse_run, counting]; rfl),
      Run.run_bind_error (saveBookmarks_of_some stop m)]

/-- Counting a use of a URL among a list of bookmarks either fails before the bookmarks file is
touched, leaving the world as it was, or counts the use as `CountedAs` says and saves: when every
integer of the counted bookmarks can be written, the file then holds their whole text and the
counted bookmarks are given back; otherwise the saving fails and leaves the file holding the
beginning of that text, short of all of it. -/
theorem updateUsage_outcome (selected : Value) (items : List Value) (m : Machine) :
    (∃ f, (updateUsage selected (.array items)).run.run m = (.error f, m)) ∨
    ∃ counted, CountedAs selected items counted ∧
      (((Value.array counted).intsFit = true ∧
          (updateUsage selected (.array items)).run.run m =
            (.ok (.array counted), { m with file := some (savedText (.array counted)) })) ∨
        ((Value.array counted).intsFit = false ∧ ∃ written,
          written <+: savedText (.array counted) ∧
          written.length < (savedText (.array counted)).length ∧
          (updateUsage selected (.array items)).run.run m =
            (.error .longInteger, { m with file := some written }))) := by
  cases counting : countFirstUse selected items with
  | error f =>
    refine .inl ⟨f, ?_⟩
    simp [updateUsage, countUse, counting, Functor.map, Except.map, Run.ofExcept]
    rfl
  | ok counted =>
    refine .inr ⟨counted, countFirstUse_spec counting, ?_⟩
    have counted' : (Run.ofExcept (countUse selected (.array items))).run.run m =
        (.ok (.array counted), m) := by
      simp [countUse, counting, Functor.map, Except.map]
      rfl
    cases stop : stopIn 0 (.object [(Text.ofString "bookmarks", .array counted)]) with
    | none =>
      refine .inl ⟨by rw [← intsFit_document, ← stopIn_eq_none_iff]; exact stop, ?_⟩
      rw [updateUsage, Run.run_bind_ok counted', Run.run_bind_ok (by rw [saveBookmarks, stop]; rfl)]
      rfl
    | some written =>
      have fits : (Value.array counted).intsFit = false := by
        rw [← intsFit_document, Bool.eq_false_iff, Ne, ← stopIn_eq_none_iff, stop]
        simp
      obtain ⟨rest, nonempty, text⟩ := stopIn_prefix 0 _ written stop
      refine .inr ⟨fits, written, ⟨rest, text.symm⟩, ?_, ?_⟩
      · rw [savedText, text, List.length_append]
        have : 0 < rest.length := List.length_pos_of_ne_nil nonempty
        omega
      · rw [updateUsage, Run.run_bind_ok counted']
        simp [saveBookmarks, stop, ExceptT.run_bind, Run.writeFile, throw, throwThe,
          MonadExceptOf.throw]
        rfl

/-- An integer is too long to write exactly when it has at least `10 ^ 4300` as its size. -/
theorem tooLong_iff (n : Int) : tooLong n = true ↔ 10 ^ digitLimit ≤ n.natAbs := by
  have digits : (Text.ofNat n.natAbs).length ≤ digitLimit ↔ n.natAbs < 10 ^ digitLimit := by
    rw [Text.ofNat, List.length_map, Nat.length_toDigits_le_iff (by decide) (by decide)]
  unfold tooLong
  rw [decide_eq_true_iff]
  omega

/-- Counting a use of the URL of a lone bookmark that holds only its `url` and its count gives
it the next count. -/
theorem countFirstUse_lone (u : Text) {count next : Value} (plus : count.plusOne = .ok next) :
    countFirstUse (.str u) [.object [(Text.ofString "url", .str u), (Text.ofString "usage_count", count)]] =
      .ok [.object [(Text.ofString "url", .str u), (Text.ofString "usage_count", next)]] := by
  have keys : Text.ofString "url" ≠ Text.ofString "usage_count" := by
    simp [Text.ofString]
  simp [countFirstUse, Value.field, Object.get?, Value.equals, Value.looseEq, plus, Object.insert,
    keys, bind, Except.bind, pure, Except.pure]

/-- A count of 4300 nines grows to 4301 digits, which cannot be written: counting a use of that
bookmark fails, and the bookmarks file, absent before, is left holding the text written before
the count. -/
theorem updateUsage_long_count_writes_file :
    ∃ f written, (updateUsage (.str (Text.ofString "http://a.b"))
      (.array [.object [(Text.ofString "url", .str (Text.ofString "http://a.b")),
        (Text.ofString "usage_count", .int (10 ^ 4300 - 1))]])).run.run ⟨none, [], [], []⟩ =
      (.error f, ⟨some written, [], [], []⟩) := by
  have counting : (Run.ofExcept (countUse (.str (Text.ofString "http://a.b"))
      (.array [.object [(Text.ofString "url", .str (Text.ofString "http://a.b")),
        (Text.ofString "usage_count", .int (10 ^ 4300 - 1))]]))).run.run ⟨none, [], [], []⟩ =
      (.ok (.array [.object [(Text.ofString "url", .str (Text.ofString "http://a.b")),
        (Text.ofString "usage_count", .int (10 ^ 4300 - 1 + 1))]]), ⟨none, [], [], []⟩) := by
    rw [countUse, countFirstUse_lone _ rfl]
    rfl
  obtain ⟨written, stop⟩ : ∃ written, stopIn 0 (.object [(Text.ofString "bookmarks",
      .array [.object [(Text.ofString "url", .str (Text.ofString "http://a.b")),
        (Text.ofString "usage_count", .int (10 ^ 4300 - 1 + 1))]])]) = some written := by
    apply Option.ne_none_iff_exists'.mp
    have long : tooLong (10 ^ 4300 - 1 + 1) = true := by
      have ten : (10 : Int).natAbs = 10 := rfl
      rw [tooLong_iff, Int.sub_add_cancel, Int.natAbs_pow, ten, digitLimit]
    rw [Ne, stopIn_eq_none_iff]
    simp only [Value.intsFit, itemsFit, membersFit, long]
    decide
  exact ⟨.longInteger, written, by
    rw [updateUsage, Run.run_bind_ok counting, Run.run_bind_error (saveBookmarks_of_some stop _)]⟩

end Bookmarks
