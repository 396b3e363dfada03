import Bookmarks.Proofs.CoverCache
import Bookmarks.Proofs.Json.Display
/-!
The script filter answer, read back.

The answer for a list of results is one line of printable ASCII that reads back as the object
whose member `items` holds one item per result, in order (`scriptFilter_reads_back`): its
title, a subtitle, its URL as argument, and an icon, the result's `cover_image` when truthy and
otherwise the cover image of its URL, looked up in the world the earlier lookups left
(`ShownInTurn`). This holds of results that are objects of storable values with tags that can
be walked through (`Presentable`), whose URL UTF-8 can carry when its cover is looked up; other
tags stop the answer (`scriptFilter_stops_on_number_tags`). The answer nests two levels deeper
than the list of results.
-/
namespace Bookmarks

open Json

/-! ## Members of a result -/

namespace Json.Value

variable {b v : Value} {key : String}

theorem storable_of_field (storable : b.storable = true) (found : b.field key = .ok v) :
    v.storable = true := by
  obtain ⟨members, rfl, got⟩ := field_eq_ok found
  exact (storable_of_mem_members (by simpa [Value.storable] using storable)
    (Object.mem_of_get? got)).2

theorem nesting_lt_of_field (found : b.field key = .ok v) : v.nesting < b.nesting := by
  obtain ⟨members, rfl, got⟩ := field_eq_ok found
  have := nesting_le_of_mem_members (Object.mem_of_get? got)
  simp only [Value.nesting]
  omega

/-- A member looked up with null as its default is null or the member. -/
theorem fieldOrNull_cases (found : b.fieldOrNull key = .ok v) :
    v = .null ∨ b.field key = .ok v := by
  cases b with
  | object members =>
    simp only [fieldOrNull, Except.ok.injEq] at found
    cases got : Object.get? members (Text.ofString key) with
    | none =>
      simp only [got, Option.getD_none] at found
      exact .inl found.symm
    | some x =>
      simp only [got, Option.getD_some] at found
      subst found
      exact .inr (by simp [field, got])
  | null | bool _ | int _ | float _ | str _ | array _ => simp [fieldOrNull] at found

theorem storable_of_fieldOrNull (storable : b.storable = true)
    (found : b.fieldOrNull key = .ok v) : v.storable = true := by
  rcases fieldOrNull_cases found with rfl | field
  · rfl
  · exact storable_of_field storable field

theorem nesting_lt_of_fieldOrNull (found : b.fieldOrNull key = .ok v) :
    v.nesting < b.nesting := by
  rcases fieldOrNull_cases found with rfl | field
  · cases b <;> simp_all [fieldOrNull, Value.nesting]
  · exact nesting_lt_of_field field

/-- An object looks any member up with null as its default. -/
theorem fieldOrNull_of_field {other : Value} (found : b.field key = .ok other) (key' : String) :
    ∃ v, b.fieldOrNull key' = .ok v := by
  obtain ⟨members, rfl, -⟩ := field_eq_ok found
  exact ⟨_, rfl⟩

end Json.Value

/-! ## The subtitle -/

/-- The subtitle shown for a result: `@` and its collection, a blank, `#` and each tag it walks
through, then `・` and its description, each as it displays. -/
def subtitleOf (collection : Value) (tags : List Value) (description : Value) : Text :=
  Text.ofString "@" ++ collection.display ++ Text.ofString " " ++
    (tags.map fun t => Text.ofString "#" ++ t.display).flatten ++ Text.ofString "・" ++
    description.display

theorem subtitle_eq {b collection tagsValue description : Value} {tags : List Value}
    (hasCollection : b.field "collection" = .ok collection)
    (hasTags : b.field "tags" = .ok tagsValue) (walked : tagsValue.items = .ok tags)
    (hasDescription : b.field "description" = .ok description) :
    subtitle b = .ok (subtitleOf collection tags description) := by
  simp [subtitle, subtitleOf, hasCollection, hasTags, walked, hasDescription, bind,
    Except.bind, pure, Except.pure, List.flatMap_def, Text.ofString]

/-- The tags of a subtitle are storable when the tags are: `#` is plain, and what follows a
tag's display is another `#` or nothing. -/
theorem storableText_tagsText {tags : List Value} (storable : ∀ t ∈ tags, t.storable = true) :
    storableText (tags.map fun t => Text.ofString "#" ++ t.display).flatten = true := by
  induction tags with
  | nil => rfl
  | cons t ts ih =>
    have rest := ih fun t' member => storable t' (.tail t member)
    have joint : ∀ x ∈ t.display.getLast?,
        ∀ y ∈ (ts.map fun t => Text.ofString "#" ++ t.display).flatten.head?,
          (Text.isHighSurrogate x && Text.isLowSurrogate y) = false := by
      intro x _ y head
      cases ts with
      | nil => simp at head
      | cons t' ts' =>
        simp only [List.map_cons, List.flatten_cons, Text.ofString] at head
        simp at head
        subst head
        simp [Text.isLowSurrogate]
    have tag := Value.storableText_display (storable t (.head ts))
    simpa [Text.ofString] using
      storableText_append_plain (a := []) (by decide) rfl (storableText_append tag rest joint)

/-- The subtitle of storable members is storable: `@`, the blank and `・` are plain, so the
subtitle is storable where its parts are. -/
theorem storableText_subtitleOf {collection description : Value} {tags : List Value}
    (collectionStorable : collection.storable = true)
    (tagsStorable : ∀ t ∈ tags, t.storable = true)
    (descriptionStorable : description.storable = true) :
    storableText (subtitleOf collection tags description) = true := by
  have shape : subtitleOf collection tags description =
      [] ++ 0x40 :: (collection.display ++ 0x20 ::
        ((tags.map fun t => Text.ofString "#" ++ t.display).flatten ++
          0x30FB :: description.display)) := by
    simp [subtitleOf, Text.ofString]
  rw [shape]
  exact storableText_append_plain (by decide) rfl
    (storableText_append_plain (by decide) (Value.storableText_display collectionStorable)
      (storableText_append_plain (by decide) (storableText_tagsText tagsStorable)
        (Value.storableText_display descriptionStorable)))

/-! ## Items -/

/-- The item shown for a result: its title, the subtitle, its URL as the argument, and an icon
whose path is the given value. -/
def itemFor (title url : Value) (subtitle : Text) (icon : Value) : Value :=
  .object [(Text.ofString "title", title), (Text.ofString "subtitle", .str subtitle),
    (Text.ofString "arg", url), (Text.ofString "icon", .object [(Text.ofString "path", icon)])]

/-- A result shown with an icon: the item of its title and URL, with the subtitle of its
collection, the tags its `tags` walk through and its description. -/
def ShownAs (b icon item : Value) : Prop :=
  ∃ title url collection tagsValue tags description,
    b.field "title" = .ok title ∧ b.field "url" = .ok url ∧
    b.field "collection" = .ok collection ∧ b.field "tags" = .ok tagsValue ∧
    tagsValue.items = .ok tags ∧ b.field "description" = .ok description ∧
    item = itemFor title url (subtitleOf collection tags description) icon

/-- Results shown in turn from a world, with their items and the world after them. A result
whose `cover_image` is truthy shows it as its icon and leaves the world as it is; any other
shows the cover image of its URL, looked up in the world the results before it left. -/
inductive ShownInTurn (web : Web.Pages) : Machine → List Value → List Value → Machine → Prop
  | nil (m : Machine) : ShownInTurn web m [] [] m
  | given {m m' : Machine} {b cover item : Value} {bs items : List Value}
      (hasCover : b.fieldOrNull "cover_image" = .ok cover) (truthy : cover.truthy = true)
      (shown : ShownAs b cover item) (later : ShownInTurn web m bs items m') :
      ShownInTurn web m (b :: bs) (item :: items) m'
  | looked {m m₁ m' : Machine} {b cover item : Value} {url path : Text} {bs items : List Value}
      (hasCover : b.fieldOrNull "cover_image" = .ok cover) (falsy : cover.truthy = false)
      (hasUrl : b.field "url" = .ok (.str url))
      (lookup : (coverImage web (.str url)).run.run m = (.ok path, m₁))
      (shown : ShownAs b (.str path) item) (later : ShownInTurn web m₁ bs items m') :
      ShownInTurn web m (b :: bs) (item :: items) m'

/-- A result the answer can be made for: an object of storable values, as a file read back
holds them, with a title, a URL, a collection, a description and tags that can be walked
through (a list, an object or a text), whose URL is a text without surrogates, which UTF-8 can
carry, whenever its `cover_image` is missing or not truthy. -/
structure Presentable (b : Value) : Prop where
  storable : b.storable = true
  title : ∃ v, b.field "title" = .ok v
  url : ∃ v, b.field "url" = .ok v
  collection : ∃ v, b.field "collection" = .ok v
  description : ∃ v, b.field "description" = .ok v
  tags : ∃ v ts, b.field "tags" = .ok v ∧ v.items = .ok ts
  cover : ∀ cover, b.fieldOrNull "cover_image" = .ok cover → cover.truthy = false →
    ∃ u, b.field "url" = .ok (.str u) ∧ ∀ c ∈ u, Text.isSurrogate c = false

namespace Presentable

variable {b : Value} (p : Presentable b)
include p

/-- A presentable result is shown with any icon by the item of its title, its URL and its
subtitle. -/
theorem shown (icon : Value) :
    ∃ title url sub, b.field "title" = .ok title ∧ b.field "url" = .ok url ∧
      subtitle b = .ok sub ∧ ShownAs b icon (itemFor title url sub icon) := by
  obtain ⟨title, hasTitle⟩ := p.title
  obtain ⟨url, hasUrl⟩ := p.url
  obtain ⟨collection, hasCollection⟩ := p.collection
  obtain ⟨tagsValue, tags, hasTags, walked⟩ := p.tags
  obtain ⟨description, hasDescription⟩ := p.description
  exact ⟨title, url, _, hasTitle, hasUrl, subtitle_eq hasCollection hasTags walked hasDescription,
    title, url, collection, tagsValue, tags, description, hasTitle, hasUrl, hasCollection, hasTags,
    walked, hasDescription, rfl⟩

theorem hasCover : ∃ cover, b.fieldOrNull "cover_image" = .ok cover := by
  obtain ⟨title, hasTitle⟩ := p.title
  exact Value.fieldOrNull_of_field hasTitle "cover_image"

end Presentable

/-! ## Looking a cover image up -/

/-- A text without surrogates is what UTF-8 carries. -/
theorem utf8_of_no_surrogate {u : Text} (plain : ∀ c ∈ u, Text.isSurrogate c = false) :
    Text.utf8 u = .ok (Text.utf8Passing u) := by
  have none : u.findIdx? Text.isSurrogate = none := by
    rw [List.findIdx?_eq_none_iff]
    exact plain
  simp [Text.utf8, none, Text.utf8Passing]

/-- Looking for the cover image of a URL UTF-8 can carry gives a path: that of its cached file,
or the standard icon. -/
theorem coverImage_path (web : Web.Pages) {url : Text} {bytes : List Nat}
    (utf8 : Text.utf8 url = .ok bytes) (m : Machine) :
    ∃ path m₁, (coverImage web (.str url)).run.run m = (.ok path, m₁) ∧
      (path = coverPath bytes ∨ path = fallbackIcon) := by
  rw [coverImage_eq web utf8 m]
  split
  · exact ⟨_, _, rfl, .inl rfl⟩
  · split
    · exact ⟨_, _, rfl, .inl rfl⟩
    · exact ⟨_, _, rfl, .inr rfl⟩
    · exact ⟨_, _, rfl, .inr rfl⟩

theorem storableText_coverPath (bytes : List Nat) : storableText (coverPath bytes) = true := by
  refine storableText_of_plain fun c member => Text.isPlain_of_ascii ?_
  simp only [coverPath, cacheFileName, Md5.hexDigest, List.mem_append, List.mem_flatMap] at member
  rcases member with (inDirectory | slash) | ⟨w, -, digit⟩ | inExtension
  · revert c
    decide
  · simp at slash
    omega
  · exact (Text.printable_hexPadded 2 w c digit).2
  · revert c
    decide

/-- The path a look for a cover image gives is a storable text. -/
theorem storableText_of_coverImage {web : Web.Pages} {url path : Text} {m m₁ : Machine}
    (lookup : (coverImage web (.str url)).run.run m = (.ok path, m₁)) :
    storableText path = true := by
  cases utf8 : Text.utf8 url with
  | error r =>
    simp only [coverImage, Run.run_bind, Run.run_pure, Run.run_throw, utf8] at lookup
    cases lookup
  | ok bytes =>
    obtain ⟨path', m', found, which⟩ := coverImage_path web utf8 m
    rw [found] at lookup
    cases lookup
    rcases which with rfl | rfl
    · exact storableText_coverPath bytes
    · decide

/-! ## Showing the results in turn -/

section Items

variable (web : Web.Pages) {b cover : Value} (p : Presentable b)
  (hasCover : b.fieldOrNull "cover_image" = .ok cover)
include p hasCover

/-- A result with a truthy `cover_image` shows it, and the world stays as it is. -/
theorem scriptItem_given (truthy : cover.truthy = true) (m : Machine) :
    ∃ item, ShownAs b cover item ∧ (scriptItem web b).run.run m = (.ok item, m) := by
  obtain ⟨title, url, sub, hasTitle, hasUrl, hasSub, shown⟩ := p.shown cover
  refine ⟨_, shown, ?_⟩
  simp only [scriptItem, Run.run_bind, Run.run_ofExcept, hasCover, truthy, if_true, Run.run_pure,
    hasSub, hasTitle, hasUrl, itemFor]

/-- Any other result shows the cover image of its URL, looked up from the world it starts in. -/
theorem scriptItem_looked (falsy : cover.truthy = false) (m : Machine) :
    ∃ url path m₁ item, b.field "url" = .ok (.str url) ∧
      (coverImage web (.str url)).run.run m = (.ok path, m₁) ∧ ShownAs b (.str path) item ∧
      (scriptItem web b).run.run m = (.ok item, m₁) := by
  obtain ⟨url, hasUrl, plain⟩ := p.cover cover hasCover falsy
  obtain ⟨path, m₁, lookup, -⟩ := coverImage_path web (utf8_of_no_surrogate plain) m
  obtain ⟨title, url', sub, hasTitle, hasUrl', hasSub, shown⟩ := p.shown (.str path)
  obtain rfl : url' = .str url := Except.ok.inj (hasUrl'.symm.trans hasUrl)
  refine ⟨url, path, m₁, _, hasUrl, lookup, shown, ?_⟩
  simp only [scriptItem, Run.run_bind, Run.run_ofExcept, hasCover, falsy, Bool.false_eq_true,
    if_false, Run.run_map, hasUrl, lookup, Run.run_pure, hasSub, hasTitle, itemFor]

end Items

/-- Presentable results are shown in turn: the items the answer is made of are theirs, and the
world after them is the one their lookups leave. -/
theorem scriptItems_shown (web : Web.Pages) {results : List Value}
    (presentable : ∀ b ∈ results, Presentable b) (m : Machine) :
    ∃ items m', (results.mapM (scriptItem web)).run.run m = (.ok items, m') ∧
      ShownInTurn web m results items m' := by
  induction results generalizing m with
  | nil => exact ⟨[], m, rfl, .nil m⟩
  | cons b bs ih =>
    have p := presentable b (.head bs)
    have others : ∀ c ∈ bs, Presentable c := fun c member => presentable c (.tail b member)
    obtain ⟨cover, hasCover⟩ := p.hasCover
    cases truthy : cover.truthy with
    | true =>
      -- the cover image is given: the world the next result starts in is this one
      obtain ⟨item, shown, ran⟩ := scriptItem_given web p hasCover truthy m
      obtain ⟨items, m', rest, later⟩ := ih others m
      refine ⟨item :: items, m', ?_, .given hasCover truthy shown later⟩
      simp only [List.mapM_cons, Run.run_bind, ran, rest, Run.run_pure]
    | false =>
      -- the cover image is looked up: the next result starts in the world the lookup left
      obtain ⟨url, path, m₁, item, hasUrl, lookup, shown, ran⟩ :=
        scriptItem_looked web p hasCover truthy m
      obtain ⟨items, m', rest, later⟩ := ih others m₁
      refine ⟨item :: items, m', ?_, .looked hasCover truthy hasUrl lookup shown later⟩
      simp only [List.mapM_cons, Run.run_bind, ran, rest, Run.run_pure]

/-! ## The items read back -/

/-- The item of a presentable result is storable when its icon is, and nests at most one level
deeper than the result when its icon nests less deep than the result. -/
theorem ShownAs.storable_nesting {b icon item : Value} (p : Presentable b)
    (shown : ShownAs b icon item) (iconStorable : icon.storable = true)
    (iconBelow : icon.nesting < b.nesting) :
    item.storable = true ∧ item.nesting ≤ b.nesting + 1 := by
  obtain ⟨title, url, collection, tagsValue, tags, description, hasTitle, hasUrl, hasCollection,
    hasTags, walked, hasDescription, rfl⟩ := shown
  have titleStorable := Value.storable_of_field p.storable hasTitle
  have urlStorable := Value.storable_of_field p.storable hasUrl
  have sub := storableText_subtitleOf (Value.storable_of_field p.storable hasCollection)
    (Value.storable_of_items (Value.storable_of_field p.storable hasTags) walked)
    (Value.storable_of_field p.storable hasDescription)
  have titleBelow := Value.nesting_lt_of_field hasTitle
  have urlBelow := Value.nesting_lt_of_field hasUrl
  constructor
  · simp only [itemFor, Value.storable, storableMembers, List.any_cons, List.any_nil,
      titleStorable, urlStorable, sub, iconStorable, Bool.and_true, Bool.or_false]
    decide +kernel
  · simp only [itemFor, Value.nesting, membersNesting]
    omega

/-- Results shown in turn give storable items, which nest at most one level deeper than the
results. -/
theorem ShownInTurn.storable_nesting {web : Web.Pages} {m m' : Machine}
    {results items : List Value} (shown : ShownInTurn web m results items m')
    (presentable : ∀ b ∈ results, Presentable b) :
    storableItems items = true ∧ itemsNesting items ≤ itemsNesting results + 1 := by
  induction shown with
  | nil => simp [storableItems, itemsNesting]
  | @given _ _ b _ _ bs _ hasCover _ shownItem _ ih =>
    have p := presentable b (.head bs)
    obtain ⟨storable, nested⟩ := ih fun c member => presentable c (.tail b member)
    obtain ⟨itemStorable, itemNested⟩ := shownItem.storable_nesting p
      (Value.storable_of_fieldOrNull p.storable hasCover) (Value.nesting_lt_of_fieldOrNull hasCover)
    simp only [storableItems, itemsNesting, itemStorable, storable, Bool.and_self, true_and]
    omega
  | @looked _ _ _ b _ _ _ path bs _ hasCover _ _ lookup shownItem _ ih =>
    have p := presentable b (.head bs)
    obtain ⟨storable, nested⟩ := ih fun c member => presentable c (.tail b member)
    -- a looked-up icon is a text, below the result, which is an object
    have iconBelow : (Value.str path).nesting < b.nesting := by
      have := Value.nesting_lt_of_fieldOrNull hasCover
      simp only [Value.nesting]
      omega
    obtain ⟨itemStorable, itemNested⟩ := shownItem.storable_nesting p
      (by simpa [Value.storable] using storableText_of_coverImage lookup) iconBelow
    simp only [storableItems, itemsNesting, itemStorable, storable, Bool.and_self, true_and]
    omega

/-- The script filter answer for presentable results is one line of printable ASCII that reads
back as the object whose member `items` lists the results' items, covers looked up in turn. -/
theorem scriptFilter_reads_back (web : Web.Pages) {results : List Value}
    (presentable : ∀ b ∈ results, Presentable b) {room : Nat}
    (fits : (Value.array results).nesting + 2 ≤ room) (m : Machine) :
    ∃ answer items m', (scriptFilter web (.array results)).run.run m = (.ok answer, m') ∧
      ShownInTurn web m results items m' ∧ (∀ c ∈ answer, 0x20 ≤ c ∧ c ≤ 0x7E) ∧
      readWithin room answer = .ok (.object [(Text.ofString "items", .array items)]) := by
  obtain ⟨items, m', ran, shown⟩ := scriptItems_shown web presentable m
  obtain ⟨storable, nested⟩ := shown.storable_nesting presentable
  refine ⟨_, items, m', ?_, shown, printable_write _, readWithin_write ?_ ?_⟩
  · simp only [scriptFilter, Run.run_bind, Run.run_ofExcept, Value.items, ran, Run.run_pure]
  · simp only [Value.storable, storableMembers, List.any_nil, storable, Bool.and_true]
    decide +kernel
  · simp only [Value.nesting, membersNesting] at fits ⊢
    omega

/-- Two results: one with a cover image of its own, and one whose cover image is looked up. -/
def sampleResults : List Value :=
  [.object [(Text.ofString "title", .str (Text.ofString "Lean")),
      (Text.ofString "url", .str (Text.ofString "https://lean-lang.org")),
      (Text.ofString "collection", .str (Text.ofString "Docs")),
      (Text.ofString "tags", .array [.str (Text.ofString "math")]),
      (Text.ofString "description", .str (Text.ofString "A prover")),
      (Text.ofString "cover_image", .str (Text.ofString "lean.png"))],
    .object [(Text.ofString "title", .str (Text.ofString "Home")),
      (Text.ofString "url", .str (Text.ofString "https://example.org")),
      (Text.ofString "collection", .str (Text.ofString "Web")),
      (Text.ofString "tags", .array []),
      (Text.ofString "description", .str (Text.ofString ""))]]

theorem scriptFilter_reads_back_sample :
    (∀ b ∈ sampleResults, Presentable b) ∧ (Value.array sampleResults).nesting + 2 ≤ 6 ∧
      ∃ answer items m',
        (scriptFilter [] (.array sampleResults)).run.run ⟨none, [], [], []⟩ = (.ok answer, m') ∧
        ShownInTurn [] ⟨none, [], [], []⟩ sampleResults items m' ∧
        (∀ c ∈ answer, 0x20 ≤ c ∧ c ≤ 0x7E) ∧
        readWithin 6 answer = .ok (.object [(Text.ofString "items", .array items)]) := by
  have presentable : ∀ b ∈ sampleResults, Presentable b := by
    simp only [sampleResults, List.mem_cons, List.not_mem_nil, or_false]
    rintro b (rfl | rfl)
    · refine ⟨by decide +kernel, ⟨_, rfl⟩, ⟨_, rfl⟩, ⟨_, rfl⟩, ⟨_, rfl⟩, ⟨_, _, rfl, rfl⟩, ?_⟩
      -- its own cover image is truthy, so it is never looked up
      intro cover found falsy
      obtain rfl := (Except.ok.inj found).symm
      cases falsy
    · refine ⟨by decide +kernel, ⟨_, rfl⟩, ⟨_, rfl⟩, ⟨_, rfl⟩, ⟨_, rfl⟩, ⟨_, _, rfl, rfl⟩, ?_⟩
      exact fun _ _ _ => ⟨_, rfl, by decide +kernel⟩
  have fits : (Value.array sampleResults).nesting + 2 ≤ 6 := by decide +kernel
  exact ⟨presentable, fits, scriptFilter_reads_back [] presentable fits _⟩

/-- Tags that are a number cannot be walked through, so the answer stops with a type error. -/
theorem scriptFilter_stops_on_number_tags :
    ((scriptFilter [] (.array [.object [(Text.ofString "title", .str (Text.ofString "t")),
        (Text.ofString "url", .str (Text.ofString "u")),
        (Text.ofString "collection", .str (Text.ofString "c")), (Text.ofString "tags", .int 5),
        (Text.ofString "description", .str (Text.ofString "d")),
        (Text.ofString "cover_image", .str (Text.ofString "x"))]])).run.run
      ⟨none, [], [], []⟩).1 = .error (.notIterable .int) := by
  rfl

end Bookmarks
