import Bookmarks.Proofs.CoverCache
/-!
Selecting an item of the script filter answer.

The argument of an item is the `url` of its bookmark. A run on a URL to count gives the first
bookmark with that `url` the next `usage_count` and changes no other; any other argument is
searched for, leaving the file as it was (`runWorkflow_file_of_search`).
-/
namespace Bookmarks

open Json

/-! ## Steps that never write the bookmarks file -/

/-- A step whose value is dropped leaves the world as the step left it. -/
theorem Run.world_bind_pure {α β : Type} (x : Run α) (b : β) (m : Machine) :
    ((x >>= fun _ => pure b).run.run m).2 = (x.run.run m).2 := by
  rw [Run.run_bind]
  rcases x.run.run m with ⟨_ | _, m'⟩ <;> rfl

/-- A step that leaves the bookmarks file as it found it. -/
def KeepsFile {α : Type} (x : Run α) : Prop := ∀ m, (x.run.run m).2.file = m.file

section KeepsFile

variable {α β : Type}

theorem keepsFile_pure (a : α) : KeepsFile (pure a : Run α) := fun _ => rfl

theorem keepsFile_ofExcept (r : Except Fault α) : KeepsFile (Run.ofExcept r) := fun m => by
  rw [Run.run_ofExcept]

theorem keepsFile_print (t : Text) : KeepsFile (Run.print t) := fun _ => rfl

theorem keepsFile_bind {x : Run α} {f : α → Run β} (first : KeepsFile x)
    (next : ∀ a, KeepsFile (f a)) : KeepsFile (x >>= f) := by
  intro m
  rw [Run.run_bind]
  rcases ran : x.run.run m with ⟨_ | a, m'⟩
  all_goals have kept : m'.file = m.file := by simpa [ran] using first m
  · exact kept
  · exact (next a m').trans kept

theorem keepsFile_map (g : α → β) {x : Run α} (keeps : KeepsFile x) : KeepsFile (g <$> x) := by
  rw [← bind_pure_comp]
  exact keepsFile_bind keeps fun a => keepsFile_pure (g a)

theorem keepsFile_mapM {f : α → Run β} (each : ∀ a, KeepsFile (f a)) :
    ∀ xs : List α, KeepsFile (xs.mapM f)
  | [] => keepsFile_pure []
  | a :: rest => by
    rw [List.mapM_cons]
    exact keepsFile_bind (each a) fun b =>
      keepsFile_bind (keepsFile_mapM each rest) fun bs => keepsFile_pure (b :: bs)

end KeepsFile

/-- Looking for a cover image touches the cache, the record of requests and the output, never
the bookmarks file. -/
theorem coverImage_keepsFile (web : Web.Pages) (url : Value) : KeepsFile (coverImage web url) := by
  intro m
  cases url with
  | str s =>
    cases utf8 : Text.utf8 s with
    | error r => simp only [coverImage, Run.run_bind, Run.run_pure, Run.run_throw, utf8]
    | ok bytes =>
      rw [coverImage_eq web utf8]
      split
      · rfl
      · split <;> rfl
  | _ => rfl

theorem scriptItem_keepsFile (web : Web.Pages) (b : Value) : KeepsFile (scriptItem web b) := by
  unfold scriptItem
  refine keepsFile_bind (keepsFile_ofExcept _) fun given => ?_
  dsimp only
  -- the icon is the one given, or the cover image looked up for the URL
  split
  on_goal 1 => refine keepsFile_bind (keepsFile_pure _) fun icon => ?_
  on_goal 2 => refine keepsFile_bind (keepsFile_ofExcept _) fun url =>
    keepsFile_bind (keepsFile_map _ (coverImage_keepsFile web url)) fun icon => ?_
  -- then members of the bookmark are read, and the item is made of them
  all_goals exact keepsFile_bind (keepsFile_ofExcept _) fun _ =>
    keepsFile_bind (keepsFile_ofExcept _) fun _ =>
      keepsFile_bind (keepsFile_ofExcept _) fun _ => keepsFile_pure _

theorem scriptFilter_keepsFile (web : Web.Pages) (results : Value) :
    KeepsFile (scriptFilter web results) := by
  unfold scriptFilter
  exact keepsFile_bind (keepsFile_ofExcept _) fun bookmarks =>
    keepsFile_bind (keepsFile_mapM (scriptItem_keepsFile web) bookmarks) fun _ => keepsFile_pure _

/-- Loading the bookmarks only reads the world. -/
theorem loadBookmarks_world (room : Nat) (m : Machine) : ((loadBookmarks room).run.run m).2 = m := by
  unfold loadBookmarks
  rw [Run.run_bind_ok Run.run_get]
  split
  · rfl
  · dsimp only
    split
    · rw [Run.run_ofExcept]
    · rfl

/-! ## What an item is made of -/

/-- An item made for a bookmark holds the bookmark's title, its subtitle and, as its argument,
its `url`, as they were read from the bookmark. -/
theorem scriptItem_ok {web : Web.Pages} {b item : Value} {m m' : Machine}
    (rendered : (scriptItem web b).run.run m = (.ok item, m')) :
    ∃ title sub url icon, b.field "title" = .ok title ∧ subtitle b = .ok sub ∧
      b.field "url" = .ok url ∧
      item = .object [(Text.ofString "title", title), (Text.ofString "subtitle", .str sub),
        (Text.ofString "arg", url), (Text.ofString "icon", .object [(Text.ofString "path", icon)])] := by
  have made : ((scriptItem web b).run.run m).1 = .ok item := by rw [rendered]
  unfold scriptItem at made
  obtain ⟨given, _, -, made⟩ := ok_of_bind made
  dsimp only at made
  split at made
  -- without a given cover image the URL is read first, to look for one
  on_goal 2 => obtain ⟨_, _, -, made⟩ := ok_of_bind made
  -- both ways then end in the steps that read the members the item is made of
  all_goals
    obtain ⟨icon, _, -, made⟩ := ok_of_bind made
    obtain ⟨sub, _, readSub, made⟩ := ok_of_bind made
    obtain ⟨title, _, readTitle, made⟩ := ok_of_bind made
    obtain ⟨url, _, readUrl, made⟩ := ok_of_bind made
    rw [Run.run_ofExcept] at readSub readTitle readUrl
    exact ⟨title, sub, url, icon, (Prod.mk.inj readTitle).1, (Prod.mk.inj readSub).1,
      (Prod.mk.inj readUrl).1, by cases made; rfl⟩

/-! ## The two ways a run of the workflow goes -/

/-- A run whose query is not a URL to count searches, and a search leaves the bookmarks file as
it was. -/
theorem runWorkflow_file_of_search (web : Web.Pages) (room : Nat) {args : List Text} (m : Machine)
    (searching : isVisitedUrl (Text.trim (Text.intercalate [0x20] args)) ≠ .ok true) :
    ((runWorkflow web room (args.map .str)).run.run m).2.file = m.file := by
  simp only [runWorkflow, Run.run_bind, Run.run_ofExcept, joinWith_texts]
  rcases load : (loadBookmarks room).run.run m with ⟨f | bookmarks, m'⟩
  all_goals obtain rfl : m' = m := by simpa [load] using loadBookmarks_world room m
  · rfl
  · rcases visited : isVisitedUrl (Text.trim (Text.intercalate [0x20] args)) with f | _ | _
    · rfl
    · -- every step of the search reads the bookmarks it was given, or prints
      simp only [Bool.false_eq_true, if_false]
      exact keepsFile_bind (keepsFile_ofExcept _) (fun _ => keepsFile_bind (keepsFile_ofExcept _)
        fun _ => keepsFile_bind (scriptFilter_keepsFile web _) fun _ => keepsFile_print _) m'
    · exact absurd visited searching

/-- A run whose query is not a URL to count answers with the loaded bookmarks it selects. -/
theorem runWorkflow_of_search (web : Web.Pages) (room : Nat) {args : List Text} {m : Machine}
    {bookmarks : Value} (load : (loadBookmarks room).run.run m = (.ok bookmarks, m))
    (searching : isVisitedUrl (Text.trim (Text.intercalate [0x20] args)) = .ok false) :
    (runWorkflow web room (args.map .str)).run.run m =
      ((do
        let selected ← Run.ofExcept (search (.str (Text.trim (Text.intercalate [0x20] args))) bookmarks)
        let ordered ← Run.ofExcept (byUsage (selected.map Prod.snd))
        let answer ← scriptFilter web (.array ordered)
        Run.print (answer ++ [0x0A])) : Run Unit).run.run m := by
  simp only [runWorkflow, Run.run_bind, Run.run_ofExcept, joinWith_texts, load, searching,
    Bool.false_eq_true, if_false]

/-- A run whose query is a URL to count counts its use among the loaded bookmarks and ends. -/
theorem runWorkflow_of_visited (web : Web.Pages) (room : Nat) {args : List Text} {m : Machine}
    {bookmarks : Value} (load : (loadBookmarks room).run.run m = (.ok bookmarks, m))
    (visited : isVisitedUrl (Text.trim (Text.intercalate [0x20] args)) = .ok true) :
    (runWorkflow web room (args.map .str)).run.run m =
      ((updateUsage (.str (Text.trim (Text.intercalate [0x20] args))) bookmarks >>= fun _ =>
        pure ()) : Run Unit).run.run m := by
  simp only [runWorkflow, Run.run_bind, Run.run_ofExcept, joinWith_texts, load, visited, if_true]

/-- A run on one argument that is its own stripped form and a URL to count counts the use of that
URL. -/
theorem runWorkflow_of_url (web : Web.Pages) (room : Nat) {u : Text} {m : Machine}
    {bookmarks : Value} (load : (loadBookmarks room).run.run m = (.ok bookmarks, m))
    (stripped : Text.trim u = u) (visited : isVisitedUrl u = .ok true) :
    (runWorkflow web room [.str u]).run.run m =
      ((updateUsage (.str u) bookmarks >>= fun _ => pure ()) : Run Unit).run.run m := by
  -- the one argument, joined and stripped, is the URL itself
  have query : Text.trim (Text.intercalate [0x20] [u]) = u := stripped
  have counts := runWorkflow_of_visited web room load
    (show isVisitedUrl (Text.trim (Text.intercalate [0x20] [u])) = .ok true by rw [query]; exact visited)
  rw [query] at counts
  exact counts

/-! ## Counting the use of one bookmark -/

/-- A bookmark with `usage_count` set to `next`, in the place of the old one; a value that is
no object stays as it is. -/
def Json.Value.withCount (b next : Value) : Value :=
  match b with
  | .object members => .object (members.map fun m =>
      if m.1 = Text.ofString "usage_count" then (Text.ofString "usage_count", next) else m)
  | other => other

theorem plusOne_of_isNumber {c : Value} (number : c.isNumber = true) : ∃ next, c.plusOne = .ok next := by
  cases c <;> simp_all [Value.isNumber, Value.plusOne]

/-- Counting a use of a text URL gives the bookmark at position `k` the next count and changes no
other, when that bookmark has the URL and every bookmark before it has another text URL. -/
theorem countFirstUse_at {u : Text} {count next : Value} (plus : count.plusOne = .ok next) :
    ∀ {bookmarks : List Value} {k : Nat} (hk : k < bookmarks.length),
      (∀ j (hj : j < k), ∃ s, bookmarks[j].field "url" = .ok (.str s) ∧ s ≠ u) →
      bookmarks[k].field "url" = .ok (.str u) →
      bookmarks[k].field "usage_count" = .ok count →
      countFirstUse (.str u) bookmarks = .ok (bookmarks.set k (bookmarks[k].withCount next))
  | [], _, hk => absurd hk (Nat.not_lt_zero _)
  | b :: rest, 0, _ => fun _ url counted => by
    -- the bookmark in front has the URL: it is the one counted
    obtain ⟨members, rfl, present⟩ := Value.field_eq_ok counted
    simp only [List.getElem_cons_zero] at url counted
    simp [countFirstUse, url, counted, plus, Value.equals, Value.looseEq, bind, Except.bind, pure,
      Except.pure, Value.withCount, Object.insert_of_get? present]
  | b :: rest, k + 1, hk => fun earlier url counted => by
    -- the bookmark in front has another URL: it is passed over, and the rest is counted
    obtain ⟨s, passed, differs⟩ := earlier 0 (Nat.succ_pos k)
    have inRest : k < rest.length := by simpa using hk
    have later := countFirstUse_at plus inRest
      (fun j hj => by simpa using earlier (j + 1) (by omega)) (by simpa using url)
      (by simpa using counted)
    simp only [List.getElem_cons_zero] at passed
    simp [countFirstUse, passed, differs, later, Value.equals, Value.looseEq, bind, Except.bind,
      Functor.map, Except.map]

/-! ## Selecting an item counts the bookmark it was made from -/

/-- Selecting an item made for the bookmark at position `k` of a well-formed bookmarks file
passes the bookmark's `url` to the next run. When that URL is its own stripped form, is a URL
to count, and no earlier bookmark has it, the next run prints nothing and gives that bookmark
the next `usage_count`, in the place of the old one, and changes no other bookmark; when every
integer can then be written, the file holds the counted bookmarks and the run ends well. -/
theorem selection_counts_rendered_bookmark (web web' : Web.Pages) (room : Nat)
    {m₀ m₁ m : Machine} {text : Text} {doc : Value} {bookmarks : List Value}
    (file : m.file = some text) (read : readWithin room (readLines text) = .ok doc)
    (listed : doc.field "bookmarks" = .ok (.array bookmarks))
    (formed : ∀ b ∈ bookmarks, wellFormedBookmark b = true)
    {k : Nat} (hk : k < bookmarks.length) {item : Value}
    (rendered : (scriptItem web bookmarks[k]).run.run m₀ = (.ok item, m₁))
    {u : Text} (url : bookmarks[k].field "url" = .ok (.str u))
    (stripped : Text.trim u = u) (visited : isVisitedUrl u = .ok true)
    (first : ∀ j (hj : j < k), bookmarks[j].field "url" ≠ .ok (.str u)) :
    item.field "arg" = .ok (.str u) ∧
    ∃ count next, bookmarks[k].field "usage_count" = .ok count ∧ count.plusOne = .ok next ∧
      let counted := bookmarks.set k (bookmarks[k].withCount next)
      let run := (runWorkflow web' room [.str u]).run.run m
      run.2.output = m.output ∧
      ((Value.array counted).intsFit = true →
        run = (.ok (), { m with file := some (savedText (.array counted)) })) := by
  obtain ⟨_, _, arg, _, -, -, readUrl, rfl⟩ := scriptItem_ok rendered
  obtain rfl : arg = .str u := Except.ok.inj (readUrl.symm.trans url)
  refine ⟨rfl, ?_⟩
  obtain ⟨count, hasCount, number⟩ := count_of_wellFormed (formed _ (List.getElem_mem hk))
  obtain ⟨next, plus⟩ := plusOne_of_isNumber number
  refine ⟨count, next, hasCount, plus, ?_⟩
  intro counted run
  -- every bookmark before the selected one has a text URL, and not the selected one
  have earlier : ∀ j (hj : j < k), ∃ s, bookmarks[j].field "url" = .ok (.str s) ∧ s ≠ u := by
    intro j hj
    obtain ⟨s, hasUrl⟩ := url_of_wellFormed (formed _ (List.getElem_mem (Nat.lt_trans hj hk)))
    exact ⟨s, hasUrl, fun same => first j hj (same ▸ hasUrl)⟩
  have counting : countFirstUse (.str u) bookmarks = .ok counted :=
    countFirstUse_at plus hk earlier url hasCount
  have load : (loadBookmarks room).run.run m = (.ok (.array bookmarks), m) := by
    rw [loadBookmarks_run file read, listed]
  have counts : run = ((updateUsage (.str u) (.array bookmarks) >>= fun _ => pure ()) :
      Run Unit).run.run m :=
    runWorkflow_of_url web' room load stripped visited
  rw [counts]
  refine ⟨?_, fun fits => ?_⟩
  · rw [Run.world_bind_pure]
    exact (updateUsage_run (.str u) formed m).1
  · rw [Run.run_bind_ok (updateUsage_of_counted counting fits m)]
    rfl

/-- A well-formed bookmark that names its own cover image, so that its item is made without
looking one up. -/
def coveredBookmark (url : Text) : Value :=
  .object [(Text.ofString "title", .str (Text.ofString "t")), (Text.ofString "url", .str url),
    (Text.ofString "collection", .str (Text.ofString "c")),
    (Text.ofString "description", .str (Text.ofString "d")), (Text.ofString "tags", .array []),
    (Text.ofString "usage_count", .int 0),
    (Text.ofString "cover_image", .str (Text.ofString "c.png"))]

/-- The item of `coveredBookmark url`. -/
def coveredItem (url : Text) : Value :=
  .object [(Text.ofString "title", .str (Text.ofString "t")),
    (Text.ofString "subtitle", .str (Text.ofString "@c ・d")), (Text.ofString "arg", .str url),
    (Text.ofString "icon", .object [(Text.ofString "path", .str (Text.ofString "c.png"))])]

theorem scriptItem_coveredBookmark (web : Web.Pages) (url : Text) (m : Machine) :
    (scriptItem web (coveredBookmark url)).run.run m = (.ok (coveredItem url), m) := rfl

/-- Selecting the item of the second of two bookmarks, whose URL the first does not have. -/
theorem selection_counts_rendered_bookmark_sample :
    let bookmarks := [sampleBookmark, coveredBookmark (Text.ofString "http://a.b")]
    let m : Machine := ⟨some (savedText (.array bookmarks)), [], [], []⟩
    readWithin 992 (readLines (savedText (.array bookmarks))) =
        .ok (.object [(Text.ofString "bookmarks", .array bookmarks)]) ∧
      (∀ b ∈ bookmarks, wellFormedBookmark b = true) ∧
      Text.trim (Text.ofString "http://a.b") = Text.ofString "http://a.b" ∧
      isVisitedUrl (Text.ofString "http://a.b") = .ok true ∧
      bookmarks[0].field "url" ≠ .ok (.str (Text.ofString "http://a.b")) ∧
      (coveredItem (Text.ofString "http://a.b")).field "arg" = .ok (.str (Text.ofString "http://a.b")) ∧
      ∃ count next, bookmarks[1].field "usage_count" = .ok count ∧ count.plusOne = .ok next ∧
        let counted := bookmarks.set 1 (bookmarks[1].withCount next)
        let run := (runWorkflow [] 992 [.str (Text.ofString "http://a.b")]).run.run m
        run.2.output = m.output ∧
        ((Value.array counted).intsFit = true →
          run = (.ok (), { m with file := some (savedText (.array counted)) })) := by
  intro bookmarks m
  have read : readWithin 992 (readLines (savedText (.array bookmarks))) =
      .ok (.object [(Text.ofString "bookmarks", .array bookmarks)]) :=
    readWithin_savedText (by decide +kernel) (by decide +kernel)
  have formed : ∀ b ∈ bookmarks, wellFormedBookmark b = true := by decide +kernel
  have other : bookmarks[0].field "url" ≠ .ok (.str (Text.ofString "http://a.b")) := by
    intro same
    have texts := Value.str.inj (Except.ok.inj same)
    exact absurd texts (by decide +kernel)
  have stripped : Text.trim (Text.ofString "http://a.b") = Text.ofString "http://a.b" := by
    decide +kernel
  have visited : isVisitedUrl (Text.ofString "http://a.b") = .ok true := by rfl
  have counts := selection_counts_rendered_bookmark [] [] 992 (m := m) (k := 1)
    (u := Text.ofString "http://a.b") rfl read (field_bookmarks _) formed (by decide)
    (scriptItem_coveredBookmark [] _ m) rfl stripped visited fun j hj => by
      obtain rfl : j = 0 := by omega
      exact other
  exact ⟨read, formed, stripped, visited, other, counts⟩

/-- A bookmark whose URL is a plain word is shown by a search, and selecting its item passes the
word on; but a run on that word searches again, and leaves the bookmarks file, and the count of
the bookmark in it, as they were. -/
theorem plain_word_selection_leaves_count :
    let b := coveredBookmark (Text.ofString "x")
    let m : Machine := ⟨some (savedText (.array [b])), [], [], []⟩
    ((runWorkflow [] 992 []).run.run m).2.output =
        write (.object [(Text.ofString "items", .array [coveredItem (Text.ofString "x")])]) ++
          [0x0A] ∧
      (scriptItem [] b).run.run m = (.ok (coveredItem (Text.ofString "x")), m) ∧
      (coveredItem (Text.ofString "x")).field "arg" = .ok (.str (Text.ofString "x")) ∧
      b.field "usage_count" = .ok (.int 0) ∧
      ((runWorkflow [] 992 [.str (Text.ofString "x")]).run.run m).2.file = m.file := by
  intro b m
  have read : readWithin 992 (readLines (savedText (.array [b]))) =
      .ok (.object [(Text.ofString "bookmarks", .array [b])]) :=
    readWithin_savedText (by decide +kernel) (by decide +kernel)
  -- neither the empty query nor the word splits as a URL with a network location
  have empty : isVisitedUrl (Text.trim (Text.intercalate [0x20] [])) = .ok false := by rfl
  have word : isVisitedUrl (Text.trim (Text.intercalate [0x20] [Text.ofString "x"])) =
      .ok false := by rfl
  refine ⟨?_, scriptItem_coveredBookmark [] _ m, rfl, rfl, ?_⟩
  · rw [show ([] : List Value) = ([] : List Text).map .str from rfl,
      runWorkflow_of_search [] 992 (by rw [loadBookmarks_run rfl read, field_bookmarks]) empty]
    decide +kernel
  · exact runWorkflow_file_of_search [] 992 m (by rw [word]; simp)

end Bookmarks
