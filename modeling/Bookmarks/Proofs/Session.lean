import Bookmarks.Proofs.Selection
import Bookmarks.Proofs.Filters
/-!
A session of runs against one bookmarks file.

A session is a list of runs against the same file. A run whose query is a URL to count
(`countsUse`) counts a use and saves the bookmarks; any other leaves the file as it was. When
no run fails, the file ends as it started if no run counted a use, and otherwise as the saved
text of the first bookmarks, each count grown by one for every counted query that is its URL
and the URL of no bookmark before it (`afterUses`); the file's other members are then gone.
One run keeps the invariant `SessionAt` (`SessionAt.step`, from `countFirstUse_afterUses`),
and the session is an induction over its runs (`SessionAt.run`).
-/
namespace Bookmarks

open Json

/-! ## Setting the count of a bookmark -/

theorem Json.Object.get?_map_values (members : List (Text × Value)) (key : Text)
    (g : Text → Value → Value) :
    Object.get? (members.map fun m => (m.1, g m.1 m.2)) key =
      (Object.get? members key).map (g key) := by
  induction members with
  | nil => rfl
  | cons m rest ih =>
    by_cases named : m.1 = key
    · simp [Object.get?, named]
    · simpa [Object.get?, named] using ih

namespace Json.Value

theorem withCount_object (members : List (Text × Value)) (next : Value) :
    (Value.object members).withCount next = .object (members.map fun m =>
      (m.1, if m.1 = Text.ofString "usage_count" then next else m.2)) := by
  simp only [withCount]
  congr 1
  refine List.map_congr_left fun m _ => ?_
  split <;> simp_all

/-- Setting the count changes the member `usage_count` and no other. -/
theorem field_withCount (b next : Value) (key : String) :
    (b.withCount next).field key =
      if Text.ofString key = Text.ofString "usage_count" then (b.field key).map fun _ => next
      else b.field key := by
  cases b with
  | object members =>
    have mapped := Object.get?_map_values members (Text.ofString key) fun k v =>
      if k = Text.ofString "usage_count" then next else v
    rw [withCount_object]
    simp only [field]
    rw [mapped]
    cases Object.get? members (Text.ofString key) with
    | none => simp [Except.map]
    | some x =>
      by_cases named : Text.ofString key = Text.ofString "usage_count" <;>
        simp [named, Except.map]
  | _ => split <;> rfl

theorem field_withCount_count {b c : Value} (next : Value) (has : b.field "usage_count" = .ok c) :
    (b.withCount next).field "usage_count" = .ok next := by
  rw [field_withCount, if_pos rfl, has]
  rfl

theorem field_withCount_url (b next : Value) : (b.withCount next).field "url" = b.field "url" := by
  rw [field_withCount, if_neg (by decide +kernel)]

theorem withCount_withCount (b x y : Value) : (b.withCount x).withCount y = b.withCount y := by
  cases b with
  | object members =>
    simp only [withCount_object, List.map_map]
    congr 1
    refine List.map_congr_left fun m _ => ?_
    by_cases named : m.1 = Text.ofString "usage_count" <;> simp [named]
  | _ => rfl

/-- A bookmark with `uses` more uses counted: its integer `usage_count` grown by `uses`. -/
def withUses (b : Value) (uses : Nat) : Value :=
  if uses = 0 then b
  else
    match b.field "usage_count" with
    | .ok (.int n) => b.withCount (.int (n + uses))
    | _ => b

section WithUses

variable {b : Value} {n : Int}

theorem withUses_zero (b : Value) : b.withUses 0 = b := rfl

theorem withUses_of_count (has : b.field "usage_count" = .ok (.int n)) {uses : Nat}
    (some : uses ≠ 0) : b.withUses uses = b.withCount (.int (n + uses)) := by
  simp [withUses, some, has]

theorem field_withUses_count (has : b.field "usage_count" = .ok (.int n)) (uses : Nat) :
    (b.withUses uses).field "usage_count" = .ok (.int (n + uses)) := by
  by_cases none : uses = 0
  · subst none
    simpa [withUses_zero] using has
  · rw [withUses_of_count has none, field_withCount_count _ has]

theorem field_withUses_url (b : Value) (uses : Nat) :
    (b.withUses uses).field "url" = b.field "url" := by
  unfold withUses
  split
  · rfl
  · split
    · exact field_withCount_url _ _
    · rfl

theorem withUses_withCount (b : Value) (uses : Nat) (y : Value) :
    (b.withUses uses).withCount y = b.withCount y := by
  unfold withUses
  split
  · rfl
  · split
    · exact withCount_withCount _ _ _
    · rfl

/-- One more use of a bookmark with `uses` uses counted sets its count to the next integer. -/
theorem withUses_succ (has : b.field "usage_count" = .ok (.int n)) (uses : Nat) :
    (b.withUses uses).withCount (.int (n + uses + 1)) = b.withUses (uses + 1) := by
  rw [withUses_withCount, withUses_of_count has (Nat.succ_ne_zero uses)]
  push_cast
  rw [Int.add_assoc]

end WithUses

end Json.Value

/-- The bookmarks once the uses of the counted queries are counted: each takes one use for
every query that is its URL and the URL of no bookmark before it. -/
def afterUses (bookmarks : List Value) (queries : List Text) : List Value :=
  bookmarks.mapIdx fun k b => b.withUses (queries.countP fun q =>
    b.textAt "url" == q && (bookmarks.take k).all fun c => c.textAt "url" != q)

/-- The first bookmark takes the queries that are its URL; the rest take theirs from what is
left. -/
theorem afterUses_cons (b : Value) (rest : List Value) (queries : List Text) :
    afterUses (b :: rest) queries = b.withUses (queries.count (b.textAt "url")) ::
      afterUses rest (queries.filter (· != b.textAt "url")) := by
  rw [afterUses, List.mapIdx_cons]
  congr 1
  · rw [List.count_eq_countP]
    congr 1
    refine List.countP_congr fun q _ => ?_
    simp only [List.take_zero, List.all_nil, Bool.and_true, beq_iff_eq]
    exact eq_comm
  · rw [afterUses]
    congr 1
    funext k c
    rw [List.countP_filter]
    congr 1
    refine List.countP_congr fun q _ => ?_
    -- the bookmark in front is among those before `c`, with its URL compared the other way
    simp only [List.take_succ_cons, List.all_cons, Bool.and_eq_true, bne_iff_ne, ne_eq]
    grind

theorem afterUses_nil (queries : List Text) : afterUses [] queries = [] := rfl

theorem afterUses_no_queries (bookmarks : List Value) : afterUses bookmarks [] = bookmarks := by
  induction bookmarks with
  | nil => rfl
  | cons b rest ih =>
    rw [afterUses_cons, List.count_nil, Value.withUses_zero, List.filter_nil, ih]

/-! ## Counting one more use -/

theorem Json.Value.eq_of_equals_str {v : Value} {q : Text} (same : v.equals (.str q) = true) :
    v = .str q := by
  cases v <;> simp_all [Value.equals, Value.looseEq, Value.magnitude?]

theorem textAt_of_url {b : Value} {q : Text} (url : b.field "url" = .ok (.str q)) :
    b.textAt "url" = q := by
  simp [Value.textAt, url]

/-- A bookmark the search for a non-empty URL passes over does not have that URL as its text. -/
theorem textAt_ne_of_passed {b v : Value} {q : Text} (url : b.field "url" = .ok v)
    (passed : v.equals (.str q) = false) (nonempty : q ≠ []) : b.textAt "url" ≠ q := by
  intro same
  cases v with
  | str s =>
    simp only [Value.textAt, url] at same
    simp [Value.equals, Value.looseEq, same] at passed
  | _ =>
    simp only [Value.textAt, url] at same
    exact nonempty same.symm

/-- Counting one more use of a non-empty URL among bookmarks that already took the uses of some
queries gives the bookmarks with the uses of those queries and of the URL; the bookmarks count
integers. -/
theorem countFirstUse_afterUses {q : Text} (nonempty : q ≠ []) :
    ∀ {bookmarks : List Value} {queries : List Text} {counted : List Value},
      (∀ b ∈ bookmarks, ∃ n : Int, b.field "usage_count" = .ok (.int n)) →
      countFirstUse (.str q) (afterUses bookmarks queries) = .ok counted →
      counted = afterUses bookmarks (queries ++ [q])
  | [], _, counted, _, h => by
    simp only [afterUses_nil, countFirstUse, pure, Except.pure, Except.ok.injEq] at h
    exact h.symm
  | b :: rest, queries, counted, counts, h => by
    rw [afterUses_cons] at h
    rw [afterUses_cons]
    simp only [countFirstUse, bind, Except.bind, Value.field_withUses_url] at h
    cases url : b.field "url" with
    | error f => simp [url] at h
    | ok v =>
      simp only [url] at h
      by_cases same : v.equals (.str q) = true
      · -- the first bookmark with the URL takes one more use, and the rest is as it was
        obtain rfl := Value.eq_of_equals_str same
        rw [textAt_of_url url] at h ⊢
        obtain ⟨n, hasCount⟩ := counts b (.head rest)
        have grown := Value.field_withUses_count hasCount (queries.count q)
        obtain ⟨members, object, present⟩ := Value.field_eq_ok grown
        simp only [same, if_true, grown, Value.plusOne] at h
        rw [object] at h
        simp only [pure, Except.pure, Except.ok.injEq] at h
        subst h
        rw [List.count_append, List.count_singleton_self, List.filter_append,
          List.filter_singleton, bne_self_eq_false, cond_false, List.append_nil,
          ← Value.withUses_succ hasCount, Object.insert_of_get? present, object]
        rfl
      · -- a bookmark with another URL is passed over, and the use is counted in the rest
        have other : b.textAt "url" ≠ q := textAt_ne_of_passed url (by simpa using same) nonempty
        simp only [same, Bool.false_eq_true, if_false] at h
        cases later : countFirstUse (.str q) (afterUses rest (queries.filter (· != b.textAt "url"))) with
        | error f => simp [later, Functor.map, Except.map] at h
        | ok counted' =>
          simp only [later, Functor.map, Except.map, Except.ok.injEq] at h
          subst h
          rw [countFirstUse_afterUses nonempty (fun c member => counts c (.tail b member)) later,
            List.count_append, List.filter_append]
          simp [Ne.symm other]

/-! ## Counted bookmarks come back from their saved text -/

theorem intsFit_of_membersFit : ∀ {members : List (Text × Value)}, membersFit members = true →
    ∀ m ∈ members, m.2.intsFit = true
  | [], _ => by simp
  | (k, v) :: rest, fits => by
    simp only [membersFit, Bool.and_eq_true] at fits
    intro m member
    rcases List.mem_cons.mp member with rfl | later
    · exact fits.1
    · exact intsFit_of_membersFit fits.2 m later

/-- Giving members new values that are storable keeps the members storable: the keys stay as
they were. -/
theorem storableMembers_map_values {h : Text × Value → Value} :
    ∀ {members : List (Text × Value)}, storableMembers members = true →
      (∀ m ∈ members, m.2.storable = true → (h m).storable = true) →
      storableMembers (members.map fun m => (m.1, h m)) = true
  | [], _, _ => rfl
  | (k, v) :: rest, storable, each => by
    simp only [storableMembers, Bool.and_eq_true] at storable
    obtain ⟨⟨⟨text, fresh⟩, value⟩, later⟩ := storable
    have keys : ((rest.map fun m => (m.1, h m)).any fun m => m.1 == k) =
        rest.any fun m => m.1 == k := by
      simp only [List.any_map, Function.comp_def]
    simp only [List.map_cons, storableMembers, keys, text, fresh, each (k, v) (.head rest) value,
      storableMembers_map_values later fun m member => each m (.tail _ member), Bool.and_self]

/-- Setting an integer count that can be written keeps a bookmark storable. -/
theorem storable_withCount {b : Value} {x : Int} (storable : b.storable = true)
    (fits : (b.withCount (.int x)).intsFit = true) : (b.withCount (.int x)).storable = true := by
  cases b with
  | object members =>
    rw [Value.withCount_object] at fits ⊢
    simp only [Value.storable] at storable ⊢
    simp only [Value.intsFit] at fits
    refine storableMembers_map_values storable fun m member old => ?_
    split
    · -- the new count is an integer short enough to be written
      rename_i named
      have fit := intsFit_of_membersFit fits _ (List.mem_map_of_mem member)
      rw [if_pos named] at fit
      simpa [Value.intsFit, Value.storable, tooLong] using fit
    · exact old
  | _ => exact storable

theorem Json.Value.withUses_eq_or (b : Value) (uses : Nat) :
    b.withUses uses = b ∨ ∃ n : Int, b.field "usage_count" = .ok (.int n) ∧
      b.withUses uses = b.withCount (.int (n + uses)) := by
  unfold Value.withUses
  split
  · exact .inl rfl
  · split
    · exact .inr ⟨_, ‹_›, rfl⟩
    · exact .inl rfl

theorem storable_withUses {b : Value} (storable : b.storable = true) {uses : Nat}
    (fits : (b.withUses uses).intsFit = true) : (b.withUses uses).storable = true := by
  rcases Value.withUses_eq_or b uses with same | ⟨n, -, counted⟩
  · rw [same]
    exact storable
  · rw [counted] at fits ⊢
    exact storable_withCount storable fits

/-- A member given a value without arrays or objects in place of its old one nests no deeper. -/
theorem membersNesting_map_values {h : Text × Value → Value} :
    ∀ {members : List (Text × Value)}, (∀ m ∈ members, (h m).nesting ≤ m.2.nesting) →
      membersNesting (members.map fun m => (m.1, h m)) ≤ membersNesting members
  | [], _ => Nat.le_refl 0
  | (k, v) :: rest, each => by
    have first : (h (k, v)).nesting ≤ v.nesting := each (k, v) (.head rest)
    have later := membersNesting_map_values fun m member => each m (.tail _ member)
    simp only [List.map_cons, membersNesting]
    omega

theorem nesting_withUses (b : Value) (uses : Nat) : (b.withUses uses).nesting ≤ b.nesting := by
  rcases Value.withUses_eq_or b uses with same | ⟨n, has, counted⟩
  · rw [same]
  · obtain ⟨members, rfl, -⟩ := Value.field_eq_ok has
    rw [counted, Value.withCount_object]
    have shallower : membersNesting (members.map fun m =>
        (m.1, if m.1 = Text.ofString "usage_count" then .int (n + uses) else m.2)) ≤
        membersNesting members :=
      membersNesting_map_values fun m _ => by split <;> simp [Value.nesting]
    simp only [Value.nesting]
    omega

theorem storable_afterUses : ∀ {bookmarks : List Value} {queries : List Text},
    storableItems bookmarks = true → itemsFit (afterUses bookmarks queries) = true →
      storableItems (afterUses bookmarks queries) = true
  | [], _, _, _ => rfl
  | b :: rest, queries, storable, fits => by
    rw [afterUses_cons] at fits ⊢
    simp only [storableItems, itemsFit, Bool.and_eq_true] at storable fits ⊢
    exact ⟨storable_withUses storable.1 fits.1, storable_afterUses storable.2 fits.2⟩

theorem itemsNesting_afterUses : ∀ (bookmarks : List Value) (queries : List Text),
    itemsNesting (afterUses bookmarks queries) ≤ itemsNesting bookmarks
  | [], _ => Nat.le_refl 0
  | b :: rest, queries => by
    have first := nesting_withUses b (queries.count (b.textAt "url"))
    have later := itemsNesting_afterUses rest (queries.filter (· != b.textAt "url"))
    rw [afterUses_cons]
    simp only [itemsNesting]
    omega

theorem nesting_afterUses (bookmarks : List Value) (queries : List Text) :
    (Value.array (afterUses bookmarks queries)).nesting ≤ (Value.array bookmarks).nesting := by
  simp only [Value.nesting]
  exact Nat.add_le_add_right (itemsNesting_afterUses bookmarks queries) 1

/-! ## One run of a session -/

/-- Whether a run with this query counts a use: the query splits as a URL with scheme `http`
or `https` and a network location. -/
def countsUse (query : Text) : Bool :=
  match isVisitedUrl query with
  | .ok visited => visited
  | .error _ => false

theorem isVisitedUrl_of_countsUse {q : Text} (counted : countsUse q = true) :
    isVisitedUrl q = .ok true := by
  unfold countsUse at counted
  split at counted
  · rename_i visited
    rw [visited, counted]
  · cases counted

theorem not_visited_of_countsUse {q : Text} (passed : countsUse q = false) :
    isVisitedUrl q ≠ .ok true := fun visited => by
  simp [countsUse, visited] at passed

theorem nonempty_of_countsUse {q : Text} (counted : countsUse q = true) : q ≠ [] := by
  rintro rfl
  have empty : isVisitedUrl [] = .ok false := by rfl
  simp [countsUse, empty] at counted

/-- Counting a use among a list of bookmarks succeeds only by counting it and saving the whole
text of the counted bookmarks, which can then all be written. -/
theorem updateUsage_ok {selected : Value} {items : List Value} {m : Machine} {v : Value}
    (h : ((updateUsage selected (.array items)).run.run m).1 = .ok v) :
    ∃ counted, countFirstUse selected items = .ok counted ∧
      (Value.array counted).intsFit = true ∧
      (updateUsage selected (.array items)).run.run m =
        (.ok (.array counted), { m with file := some (savedText (.array counted)) }) := by
  cases counting : countFirstUse selected items with
  | error f =>
    rw [updateUsage_of_error counting] at h
    cases h
  | ok counted =>
    cases fits : (Value.array counted).intsFit with
    | true => exact ⟨counted, rfl, fits, updateUsage_of_counted counting fits m⟩
    | false =>
      -- an integer too long to write stops the save, and the count fails
      obtain ⟨written, stopped⟩ := updateUsage_of_stopped counting fits m
      rw [stopped] at h
      cases h

/-- The text of the bookmarks file of a session that began on `original`, once the uses of the
counted queries were counted: the first text while no use was counted, afterwards the saved
text of the counted bookmarks. -/
def sessionText (original : Text) (bookmarks : List Value) (counted : List Text) : Text :=
  if counted = [] then original else savedText (.array (afterUses bookmarks counted))

/-- The world after the runs of a session whose queries were `done`: the file holds the session
text, and the bookmarks with the uses counted so far come back from their saved text. -/
structure SessionAt (original : Text) (bookmarks : List Value) (done : List Text) (m : Machine) :
    Prop where
  file : m.file = some (sessionText original bookmarks (done.filter countsUse))
  storable : (Value.array (afterUses bookmarks (done.filter countsUse))).storable = true

section Session

variable {web : Web.Pages} {room : Nat} {original : Text} {bookmarks : List Value}
  (read : ∃ doc, readWithin room (readLines original) = .ok doc ∧
    doc.field "bookmarks" = .ok (.array bookmarks))
  (storable : (Value.array bookmarks).storable = true)
  (fits : (Value.array bookmarks).nesting < room)
  (counts : ∀ b ∈ bookmarks, ∃ n : Int, b.field "usage_count" = .ok (.int n))

include read fits in
/-- In the course of a session, the file loads as the bookmarks with the uses counted so far. -/
theorem SessionAt.load {done : List Text} {m : Machine} (now : SessionAt original bookmarks done m) :
    (loadBookmarks room).run.run m =
      (.ok (.array (afterUses bookmarks (done.filter countsUse))), m) := by
  obtain ⟨file, stored⟩ := now
  unfold sessionText at file
  split at file
  · -- no use counted yet: the first file
    rename_i none
    obtain ⟨doc, readDoc, listed⟩ := read
    rw [loadBookmarks_run file readDoc, listed, none, afterUses_no_queries]
  · -- the saved text of the counted bookmarks reads back as them
    rw [loadBookmarks_run file (readWithin_savedText stored ((nesting_afterUses _ _).trans_lt fits)),
      field_bookmarks]

include read storable fits counts in
/-- One run that does not fail carries a session on: a run whose query counts a use saves the
bookmarks with that use counted too, and any other run leaves the file as it was. -/
theorem SessionAt.step {done : List Text} {m : Machine} (now : SessionAt original bookmarks done m)
    (args : List Text) (ok : ((runWorkflow web room (args.map .str)).run.run m).1 = .ok ()) :
    SessionAt original bookmarks (done ++ [Text.trim (Text.intercalate [0x20] args)])
      ((runWorkflow web room (args.map .str)).run.run m).2 := by
  have load := now.load read fits
  cases uses : countsUse (Text.trim (Text.intercalate [0x20] args))
  · -- a search: nothing is counted, and the file is as it was
    have same : (done ++ [Text.trim (Text.intercalate [0x20] args)]).filter countsUse =
        done.filter countsUse := by
      simp [List.filter_append, uses]
    refine ⟨?_, ?_⟩
    · rw [same, runWorkflow_file_of_search web room m (not_visited_of_countsUse uses)]
      exact now.file
    · rw [same]
      exact now.storable
  · -- a URL to count: one more use, and the counted bookmarks are saved
    have grown : (done ++ [Text.trim (Text.intercalate [0x20] args)]).filter countsUse =
        done.filter countsUse ++ [Text.trim (Text.intercalate [0x20] args)] := by
      simp [List.filter_append, uses]
    rw [runWorkflow_of_visited web room load (isVisitedUrl_of_countsUse uses)] at ok ⊢
    obtain ⟨_, _, ran, -⟩ := ok_of_bind ok
    obtain ⟨counted, counting, fitsCounted, saved⟩ := updateUsage_ok (by rw [ran])
    have after := countFirstUse_afterUses (nonempty_of_countsUse uses) counts counting
    rw [Run.world_bind_pure, saved]
    refine ⟨?_, ?_⟩
    · rw [grown, after]
      simp [sessionText]
    · rw [grown]
      rw [after] at fitsCounted
      simp only [Value.storable, Value.intsFit] at storable fitsCounted ⊢
      exact storable_afterUses storable fitsCounted

include read storable fits counts in
/-- A session whose runs do not fail carries its world from run to run. -/
theorem SessionAt.run : ∀ (calls : List (List Text)) {done : List Text} {m : Machine},
    SessionAt original bookmarks done m →
    ((calls.forM fun args => runWorkflow web room (args.map .str)).run.run m).1 = .ok () →
    SessionAt original bookmarks
      (done ++ calls.map fun args => Text.trim (Text.intercalate [0x20] args))
      ((calls.forM fun args => runWorkflow web room (args.map .str)).run.run m).2
  | [], done, m, now, _ => by
    rw [List.map_nil, List.append_nil]
    exact now
  | args :: rest, done, m, now, ok => by
    rw [List.forM_eq_forM, List.forM_cons] at ok ⊢
    obtain ⟨_, _, first, later⟩ := ok_of_bind ok
    have next := now.step read storable fits counts args (by rw [first])
    rw [first] at next
    rw [Run.run_bind_ok first]
    simpa using SessionAt.run rest next later

end Session

/-! ## A session of runs -/

/-- A session of runs against a bookmarks file, whose bookmarks count integers and come back
unchanged from their saved text, ends, when no run fails, with the file as it was if no run
counted a use. Otherwise it ends with the saved text of the bookmarks with their uses counted,
which reads back as a document holding those bookmarks and nothing else. Every run whose query
is not a URL to count leaves the file as it found it. -/
theorem session_counts_uses (web : Web.Pages) (room : Nat) (calls : List (List Text))
    {m : Machine} {text : Text} {doc : Value} {bookmarks : List Value}
    (file : m.file = some text) (read : readWithin room (readLines text) = .ok doc)
    (listed : doc.field "bookmarks" = .ok (.array bookmarks))
    (storable : (Value.array bookmarks).storable = true)
    (fits : (Value.array bookmarks).nesting < room)
    (counts : ∀ b ∈ bookmarks, ∃ n : Int, b.field "usage_count" = .ok (.int n))
    (succeeds :
      ((calls.forM fun args => runWorkflow web room (args.map .str)).run.run m).1 = .ok ()) :
    let counted := (calls.map fun args => Text.trim (Text.intercalate [0x20] args)).filter countsUse
    let final := ((calls.forM fun args => runWorkflow web room (args.map .str)).run.run m).2
    (counted = [] → final.file = m.file) ∧
    (counted ≠ [] → final.file = some (savedText (.array (afterUses bookmarks counted))) ∧
      readWithin room (readLines (savedText (.array (afterUses bookmarks counted)))) =
        .ok (.object [(Text.ofString "bookmarks", .array (afterUses bookmarks counted))])) ∧
    ∀ (args : List Text) (m' : Machine),
      countsUse (Text.trim (Text.intercalate [0x20] args)) = false →
      ((runWorkflow web room (args.map .str)).run.run m').2.file = m'.file := by
  dsimp only
  have start : SessionAt text bookmarks [] m :=
    ⟨by simp [sessionText, file], by simpa [afterUses_no_queries] using storable⟩
  have finish := start.run ⟨doc, read, listed⟩ storable fits counts calls succeeds
  rw [List.nil_append] at finish
  refine ⟨fun none => ?_, fun some => ?_, fun args m' passed =>
    runWorkflow_file_of_search web room m' (not_visited_of_countsUse passed)⟩
  · rw [finish.file, sessionText, if_pos none, file]
  · -- a use was counted: the file holds the saved text, which reads back
    have saved := finish.file
    rw [sessionText, if_neg some] at saved
    exact ⟨saved, readWithin_savedText finish.storable ((nesting_afterUses _ _).trans_lt fits)⟩

/-- Two runs on the URL of the one bookmark of a saved file: both count a use. -/
theorem session_counts_uses_sample :
    let b := coveredBookmark (Text.ofString "http://a.b")
    let m : Machine := ⟨some (savedText (.array [b])), [], [], []⟩
    let calls := [[Text.ofString "http://a.b"], [Text.ofString "http://a.b"]]
    readWithin 992 (readLines (savedText (.array [b]))) =
        .ok (.object [(Text.ofString "bookmarks", .array [b])]) ∧
      (Value.array [b]).storable = true ∧ (Value.array [b]).nesting < 992 ∧
      (∀ c ∈ [b], ∃ n : Int, c.field "usage_count" = .ok (.int n)) ∧
      ((calls.forM fun args => runWorkflow [] 992 (args.map .str)).run.run m).1 = .ok () ∧
      let counted := (calls.map fun args => Text.trim (Text.intercalate [0x20] args)).filter countsUse
      let final := ((calls.forM fun args => runWorkflow [] 992 (args.map .str)).run.run m).2
      (counted = [] → final.file = m.file) ∧
      (counted ≠ [] → final.file = some (savedText (.array (afterUses [b] counted))) ∧
        readWithin 992 (readLines (savedText (.array (afterUses [b] counted)))) =
          .ok (.object [(Text.ofString "bookmarks", .array (afterUses [b] counted))])) ∧
      ∀ (args : List Text) (m' : Machine),
        countsUse (Text.trim (Text.intercalate [0x20] args)) = false →
        ((runWorkflow [] 992 (args.map .str)).run.run m').2.file = m'.file := by
  intro b m calls
  have storable : (Value.array [b]).storable = true := by decide +kernel
  have fits : (Value.array [b]).nesting < 992 := by decide
  have read := readWithin_savedText storable fits
  have counts : ∀ c ∈ [b], ∃ n : Int, c.field "usage_count" = .ok (.int n) := by
    intro c member
    rw [List.mem_singleton.mp member]
    exact ⟨0, rfl⟩
  have stripped : Text.trim (Text.ofString "http://a.b") = Text.ofString "http://a.b" := by
    decide +kernel
  have visited : isVisitedUrl (Text.ofString "http://a.b") = .ok true := by rfl
  -- the first run counts the use of `b`, the second counts it again
  have once : countFirstUse (.str (Text.ofString "http://a.b")) [b] =
      .ok [b.withCount (.int 1)] :=
    countFirstUse_at (k := 0) rfl (by decide) (fun j hj => absurd hj (Nat.not_lt_zero j)) rfl rfl
  have twice : countFirstUse (.str (Text.ofString "http://a.b")) [b.withCount (.int 1)] =
      .ok [(b.withCount (.int 1)).withCount (.int 2)] :=
    countFirstUse_at (k := 0) (show (Value.int 1).plusOne = .ok (.int 2) from rfl) (by decide)
      (fun j hj => absurd hj (Nat.not_lt_zero j)) rfl rfl
  have storableOnce : (Value.array [b.withCount (.int 1)]).storable = true := by decide +kernel
  have first : (runWorkflow [] 992 ([Text.ofString "http://a.b"].map .str)).run.run m =
      (.ok (), { m with file := some (savedText (.array [b.withCount (.int 1)])) }) := by
    rw [List.map_cons, List.map_nil, runWorkflow_of_url [] 992
        (by rw [loadBookmarks_run rfl read, field_bookmarks]) stripped visited,
      Run.run_bind_ok (updateUsage_of_counted once (by decide +kernel) m)]
    rfl
  have second : (runWorkflow [] 992 ([Text.ofString "http://a.b"].map .str)).run.run
        { m with file := some (savedText (.array [b.withCount (.int 1)])) } =
      (.ok (), { m with file := some (savedText (.array [(b.withCount (.int 1)).withCount (.int 2)])) }) := by
    rw [List.map_cons, List.map_nil, runWorkflow_of_url [] 992 (by rw [loadBookmarks_run rfl
        (readWithin_savedText storableOnce (by decide)), field_bookmarks]) stripped visited,
      Run.run_bind_ok (updateUsage_of_counted twice (by decide +kernel) _)]
    rfl
  have succeeds : ((calls.forM fun args => runWorkflow [] 992 (args.map .str)).run.run m).1 =
      .ok () := by
    rw [List.forM_eq_forM, List.forM_cons, Run.run_bind_ok first, List.forM_cons,
      Run.run_bind_ok second, List.forM_nil]
    rfl
  exact ⟨read, storable, fits, counts, succeeds,
    session_counts_uses [] 992 calls rfl read (field_bookmarks _) storable fits counts succeeds⟩

/-- A file whose document holds a member besides `bookmarks` loses it at the first use counted:
the file then holds the saved text of the bookmarks alone. -/
theorem session_drops_other_members :
    let document := Value.object [(Text.ofString "bookmarks", .array [.object [(Text.ofString "url",
      .str (Text.ofString "http://a.b")), (Text.ofString "usage_count", .int 0)]]),
      (Text.ofString "v", .int 1)]
    let counted := Value.object [(Text.ofString "url", .str (Text.ofString "http://a.b")),
      (Text.ofString "usage_count", .int 1)]
    let m : Machine := ⟨some (writeIndented 0 document), [], [], []⟩
    readWithin 992 (readLines (writeIndented 0 document)) = .ok document ∧
      ([[Text.ofString "http://a.b"]].forM fun args => runWorkflow [] 992 (args.map .str)).run.run m =
        (.ok (), { m with file := some (savedText (.array [counted])) }) ∧
      readWithin 992 (readLines (savedText (.array [counted]))) =
        .ok (.object [(Text.ofString "bookmarks", .array [counted])]) := by
  intro document counted m
  have storable : document.storable = true := by decide +kernel
  have read : readWithin 992 (readLines (writeIndented 0 document)) = .ok document := by
    rw [readLines_of_layoutText (layoutText_writeIndented 0 _ storable)]
    exact readWithin_writeIndented storable (by decide)
  have stripped : Text.trim (Text.ofString "http://a.b") = Text.ofString "http://a.b" := by
    decide +kernel
  have visited : isVisitedUrl (Text.ofString "http://a.b") = .ok true := by rfl
  have once : (runWorkflow [] 992 ([Text.ofString "http://a.b"].map .str)).run.run m =
      (.ok (), { m with file := some (savedText (.array [counted])) }) := by
    rw [List.map_cons, List.map_nil,
      runWorkflow_of_url [] 992 (by rw [loadBookmarks_run rfl read]; rfl) stripped visited,
      Run.run_bind_ok (updateUsage_of_counted (countFirstUse_lone _ rfl) (by decide +kernel) m)]
    rfl
  refine ⟨read, ?_, readWithin_savedText (by decide +kernel) (by decide)⟩
  rw [List.forM_eq_forM, List.forM_cons, Run.run_bind_ok once, List.forM_nil]
  rfl

end Bookmarks
