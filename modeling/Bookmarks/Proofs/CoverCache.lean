import Bookmarks.Proofs.Workflow
/-!
The cover image cache.

Looking for the cover image of a URL that UTF-8 can carry gives the path of its cached file or
the standard icon; with the icon the cache is as it was, and a new file holds the whole body
of the status-200 answer to the request for the page's `og:image`. So a second look on the
same web gives what the first gave (`coverImage_cache_law`). When the first found no image the
second asks again, after the first's requests were recorded; it gets the same answers because
no fetch reads that record (`Oblivious`), a lemma for each function of the fetch.
-/
namespace Bookmarks

open Json Web Markup

/-! ## Steps that never read their state -/

section Oblivious

variable {ε σ α β : Type}

/-- A step whose outcome does not depend on the state it starts from: it may change the state
but never reads it. -/
def Oblivious (x : ExceptT ε (StateM σ) α) : Prop :=
  ∀ s₁ s₂, (x.run.run s₁).1 = (x.run.run s₂).1

theorem oblivious_pure (a : α) : Oblivious (pure a : ExceptT ε (StateM σ) α) := fun _ _ => rfl

theorem oblivious_throw (e : ε) : Oblivious (throw e : ExceptT ε (StateM σ) α) := fun _ _ => rfl

theorem oblivious_modify (g : σ → σ) : Oblivious (modify g : ExceptT ε (StateM σ) PUnit) :=
  fun _ _ => rfl

/-- Binding keeps a step oblivious: the first part gives the same outcome from either state,
and what follows a success is oblivious again from wherever the first part left it. -/
theorem oblivious_bind {x : ExceptT ε (StateM σ) α} {f : α → ExceptT ε (StateM σ) β}
    (first : Oblivious x) (rest : ∀ a, Oblivious (f a)) : Oblivious (x >>= f) := by
  intro s₁ s₂
  have same := first s₁ s₂
  simp only [ExceptT.run_bind, StateT.run_bind]
  rcases h₁ : x.run.run s₁ with ⟨r₁, t₁⟩
  rcases h₂ : x.run.run s₂ with ⟨r₂, t₂⟩
  rw [h₁, h₂] at same
  cases same
  cases r₁ with
  | error e => rfl
  | ok a => exact rest a t₁ t₂

theorem oblivious_map (g : α → β) {x : ExceptT ε (StateM σ) α} (hx : Oblivious x) :
    Oblivious (g <$> x) := by
  rw [← bind_pure_comp]
  exact oblivious_bind hx fun _ => oblivious_pure _

theorem oblivious_adapt {ε' : Type} (g : ε → ε') {x : ExceptT ε (StateM σ) α}
    (hx : Oblivious x) : Oblivious (ExceptT.adapt g x) :=
  fun s₁ s₂ => congrArg (Except.mapError g) (hx s₁ s₂)

/-- A bound step that succeeds had its first part succeed. -/
theorem ok_of_bind {x : ExceptT ε (StateM σ) α} {f : α → ExceptT ε (StateM σ) β} {s : σ} {b : β}
    (h : ((x >>= f).run.run s).1 = .ok b) :
    ∃ a t, x.run.run s = (.ok a, t) ∧ ((f a).run.run t).1 = .ok b := by
  simp only [ExceptT.run_bind, StateT.run_bind] at h
  rcases found : x.run.run s with ⟨_ | a, t⟩
  · rw [found] at h
    cases h
  · rw [found] at h
    exact ⟨a, t, rfl, h⟩

theorem ok_of_adapt {ε' : Type} {g : ε → ε'} {x : ExceptT ε (StateM σ) α} {s t : σ} {a : α}
    (h : (ExceptT.adapt g x).run.run s = (.ok a, t)) : x.run.run s = (.ok a, t) := by
  change (Except.mapError g (x.run.run s).1, (x.run.run s).2) = (.ok a, t) at h
  rcases found : x.run.run s with ⟨_ | a', t'⟩
  · rw [found] at h
    cases h
  · rw [found] at h
    cases h
    rfl

end Oblivious

/-! ## No fetch reads the record of requests

Each proof below follows the binds and branches of its function; at every leaf stands
`pure`, `throw`, the recording of a request, or a function proved oblivious before. Matching
is reducible only, so that no branch condition is evaluated. -/

namespace Web
open Json

theorem splitUrl_oblivious (url : Text) : Oblivious (splitUrl url) := by
  unfold splitUrl
  split
  · exact oblivious_pure _
  · exact oblivious_throw _

theorem portOf_oblivious (p : Url.Parts) : Oblivious (portOf p) := by
  unfold portOf
  split
  · exact oblivious_pure _
  · exact oblivious_throw _

theorem checkCredentials_oblivious (p : Url.Parts) : Oblivious (checkCredentials p) := by
  unfold checkCredentials
  split
  · exact oblivious_pure _
  · split
    · exact oblivious_pure _
    · dsimp only
      split
      · exact oblivious_pure _
      · -- either credential that Latin-1 cannot carry is refused
        split
        · exact oblivious_throw _
        · exact oblivious_throw _
        · exact oblivious_pure _

theorem send_oblivious (web : Pages) (url : Text) : Oblivious (send web url) := by
  unfold send
  dsimp only
  split
  · exact oblivious_bind (oblivious_throw _) fun _ => oblivious_bind (oblivious_modify _) fun _ => by
      split
      · exact oblivious_pure _
      · exact oblivious_throw _
  · exact oblivious_bind (oblivious_modify _) fun _ => by
      split
      · exact oblivious_pure _
      · exact oblivious_throw _

theorem dropsCredentials_oblivious (old new : Text) : Oblivious (dropsCredentials old new) := by
  unfold dropsCredentials
  repeat' first
    | with_reducible exact oblivious_pure _
    | with_reducible exact splitUrl_oblivious _
    | with_reducible exact portOf_oblivious _
    | with_reducible refine oblivious_bind ?_ fun _ => ?_
    | split
    | dsimp only

theorem redirectTarget_oblivious (r : Response) : Oblivious (redirectTarget r) := by
  unfold redirectTarget
  split
  · exact oblivious_pure _
  · split
    · exact oblivious_throw _
    · split
      · exact oblivious_throw _
      · exact oblivious_pure _

theorem nextUrl_oblivious (r : Response) (location fragment : Text) :
    Oblivious (nextUrl r location fragment) := by
  unfold nextUrl
  repeat' first
    | with_reducible exact oblivious_pure _
    | with_reducible exact oblivious_throw _
    | with_reducible exact splitUrl_oblivious _
    | with_reducible refine oblivious_bind ?_ fun _ => ?_
    | split
    | dsimp only

theorem raiseForStatus_oblivious (r : Response) : Oblivious (raiseForStatus r) := by
  unfold raiseForStatus
  split
  · exact oblivious_throw _
  · exact oblivious_pure _

theorem follow_oblivious (web : Pages) (r : Response) (fragment : Text) (credentials : Bool)
    (hops fuel : Nat) : Oblivious (follow web r fragment credentials hops fuel) := by
  induction fuel generalizing r fragment credentials hops with
  | zero => exact oblivious_pure _
  | succ fuel ih =>
    unfold follow
    repeat' first
      | with_reducible exact oblivious_pure _
      | with_reducible exact oblivious_throw _
      | with_reducible exact redirectTarget_oblivious _
      | with_reducible exact nextUrl_oblivious _ _ _
      | with_reducible exact oblivious_map _ (dropsCredentials_oblivious _ _)
      | with_reducible exact send_oblivious _ _
      | with_reducible exact ih _ _ _ _
      | with_reducible refine oblivious_bind ?_ fun _ => ?_
      | split

theorem fetch_oblivious (web : Pages) (url : Text) : Oblivious (fetch web url) := by
  unfold fetch
  repeat' first
    | with_reducible exact oblivious_pure _
    | with_reducible exact oblivious_throw _
    | with_reducible exact splitUrl_oblivious _
    | with_reducible exact checkCredentials_oblivious _
    | with_reducible exact send_oblivious _ _
    | with_reducible exact follow_oblivious _ _ _ _ _ _
    | with_reducible refine oblivious_bind ?_ fun _ => ?_
    | split

end Web

/-- No download reads the record of requests. -/
theorem download_oblivious (web : Web.Pages) (url : Text) : Oblivious (download web url) := by
  unfold download Download.ofFetch
  repeat' first
    | with_reducible exact oblivious_pure _
    | with_reducible exact oblivious_throw _
    | with_reducible exact oblivious_adapt _ (Web.fetch_oblivious _ _)
    | with_reducible exact oblivious_adapt _ (Web.raiseForStatus_oblivious _)
    | with_reducible refine oblivious_bind ?_ fun _ => ?_
    | split
    | dsimp only


/-! ## The cover image of a URL -/

/-- The path of the cached cover image of a URL with the given UTF-8 bytes. -/
def coverPath (bytes : List Nat) : Text := cacheDirectory ++ [0x2F] ++ cacheFileName bytes

/-- `image` answers the request for the cover image of the page at `url`: that page was
fetched and passed the status check, its markup holds a first `og:image` tag whose `content`
is not empty, and fetching that content gave `image`. -/
def AnswersImageRequest (web : Pages) (url : Text) (image : Response) : Prop :=
  ∃ page text tags tag content,
    ((fetch web url).run.run []).1 = .ok page ∧
    (page.page.status < 400 ∨ 600 ≤ page.page.status) ∧
    decodePage page.page.body = .ok text ∧ startTags text = .ok tags ∧
    imageTag? tags = some tag ∧ attribute? tag "content" = some content ∧ content ≠ [] ∧
    ((fetch web content).run.run []).1 = .ok image

/-- A download that gives an image gives the whole body of the answer, with status 200, to
the request for the page's `og:image`. -/
theorem download_some {web : Pages} {url : Text} {s : List Text} {body : List Nat}
    (h : ((download web url).run.run s).1 = .ok (some body)) :
    ∃ image, AnswersImageRequest web url image ∧ image.page.status = 200 ∧
      image.page.body = body := by
  unfold download Download.ofFetch at h
  obtain ⟨page, t₁, fetched, h⟩ := ok_of_bind h
  obtain ⟨_, t₂, passed, h⟩ := ok_of_bind h
  -- the steps before the image are read off the record-free runs
  have page₀ : ((fetch web url).run.run []).1 = .ok page :=
    (fetch_oblivious web url [] s).trans (congrArg Prod.fst (ok_of_adapt fetched))
  have status : page.page.status < 400 ∨ 600 ≤ page.page.status := by
    have ok := ok_of_adapt passed
    unfold raiseForStatus at ok
    split at ok
    · cases ok
    · rename_i bad
      simp only [Bool.and_eq_true, decide_eq_true_eq] at bad
      omega
  dsimp only at h
  -- each later step either fails, which gives no image, or hands its value on
  split at h
  case h_2 => obtain ⟨_, _, thrown, -⟩ := ok_of_bind h; cases thrown
  rename_i text decoded
  obtain ⟨_, _, handed, h⟩ := ok_of_bind h
  cases handed
  split at h
  case h_2 => obtain ⟨_, _, thrown, -⟩ := ok_of_bind h; cases thrown
  rename_i tags parsed
  obtain ⟨_, _, handed, h⟩ := ok_of_bind h
  cases handed
  split at h
  case h_1 => cases h
  rename_i tag found
  split at h
  case h_1 => cases h
  rename_i content hasContent
  split at h
  case isTrue => cases h
  rename_i nonempty
  obtain ⟨image, _, imaged, h⟩ := ok_of_bind h
  have image₀ : ((fetch web content).run.run []).1 = .ok image :=
    (fetch_oblivious web content [] _).trans (congrArg Prod.fst (ok_of_adapt imaged))
  change Except.ok (if image.page.status = 200 then some image.page.body else none) =
    .ok (some body) at h
  split at h
  case isFalse => cases h
  rename_i two
  cases h
  refine ⟨image, ⟨page, text, tags, tag, content, page₀, status, decoded, parsed, found,
    hasContent, ?_, image₀⟩, two, rfl⟩
  simpa using nonempty

/-- Looking for the cover image of a URL that UTF-8 can carry: a cached file is the answer at
once; otherwise the download decides, and only an image found is written to the cache. -/
theorem coverImage_eq (web : Pages) {url : Text} {bytes : List Nat}
    (utf8 : Text.utf8 url = .ok bytes) (m : Machine) :
    (coverImage web (.str url)).run.run m =
      if m.cache.any (·.1 == cacheFileName bytes) then (.ok (coverPath bytes), m)
      else match (download web url).run.run m.sent with
        | (.ok (some body), sent) =>
          (.ok (coverPath bytes),
            { m with sent := sent
                     cache := m.cache.filter (·.1 != cacheFileName bytes) ++
                       [(cacheFileName bytes, body)] })
        | (.ok none, sent) => (.ok fallbackIcon, { m with sent := sent })
        | (.error snag, sent) =>
          (.ok fallbackIcon, { m with sent := sent, output := m.output ++ snag.note url }) := by
  by_cases hit : m.cache.any (·.1 == cacheFileName bytes) = true
  · simp only [coverImage, Run.run_bind, Run.run_pure, Run.run_get, utf8, hit, if_true, coverPath]
  · rcases down : (download web url).run.run m.sent with ⟨snag | _ | body, sent⟩
    all_goals simp only [coverImage, Run.run_bind, Run.run_pure, Run.run_get, Run.run_set,
      Run.run_print, Run.run_writeCache, utf8, hit, down, Bool.false_eq_true, if_false, coverPath]

/-- Looking for the cover image of a URL that UTF-8 can carry gives the path of its cached
file or the standard icon. With the icon, the cache is as it was. With the path of a file that
was not cached, the cache has gained that one file, holding the whole body of the answer, with
status 200, to the request for the page's `og:image`. And a second look for the same URL on
the same web, from the world the first left, gives what the first gave. -/
theorem coverImage_cache_law (web : Pages) {url : Text} {bytes : List Nat}
    (utf8 : Text.utf8 url = .ok bytes) (m : Machine) :
    let first := (coverImage web (.str url)).run.run m
    ((first.1 = .ok fallbackIcon ∧ first.2.cache = m.cache) ∨
      (first.1 = .ok (coverPath bytes) ∧
        (m.cache.any (·.1 == cacheFileName bytes) = false →
          ∃ image, AnswersImageRequest web url image ∧ image.page.status = 200 ∧
            first.2.cache = m.cache ++ [(cacheFileName bytes, image.page.body)]))) ∧
    ((coverImage web (.str url)).run.run first.2).1 = first.1 := by
  intro first
  by_cases hit : m.cache.any (·.1 == cacheFileName bytes) = true
  · -- a cached file: nothing changes, and the second look finds it again
    have once : first = (.ok (coverPath bytes), m) := by
      simp only [first, coverImage_eq web utf8, hit, if_true]
    rw [once]
    refine ⟨.inr ⟨rfl, fun miss => by simp [hit] at miss⟩, ?_⟩
    simp only [coverImage_eq web utf8, hit, if_true]
  · have miss : m.cache.any (·.1 == cacheFileName bytes) = false := Bool.eq_false_iff.mpr hit
    -- a file not cached is named by no entry, so writing it removes nothing
    have fresh : m.cache.filter (·.1 != cacheFileName bytes) = m.cache := by
      rw [List.filter_eq_self]
      intro entry member
      have other := List.any_eq_false.mp miss entry member
      simpa using other
    rcases down : (download web url).run.run m.sent with ⟨snag | _ | body, sent⟩
    · -- no image could be fetched: the next look downloads again and fails the same way
      have once : first = (.ok fallbackIcon,
          { m with sent := sent, output := m.output ++ snag.note url }) := by
        simp only [first, coverImage_eq web utf8, hit, down, Bool.false_eq_true, if_false]
      have again : ((download web url).run.run sent).1 = .error snag := by
        rw [download_oblivious web url sent m.sent, down]
      rw [once]
      refine ⟨.inl ⟨rfl, rfl⟩, ?_⟩
      rcases down' : (download web url).run.run sent with ⟨snag' | _ | body', sent'⟩
      all_goals rw [down'] at again; cases again
      simp only [coverImage_eq web utf8, miss, down', Bool.false_eq_true, if_false]
    · -- the page names no image: the next look finds none again
      have once : first = (.ok fallbackIcon, { m with sent := sent }) := by
        simp only [first, coverImage_eq web utf8, hit, down, Bool.false_eq_true, if_false]
      have again : ((download web url).run.run sent).1 = .ok none := by
        rw [download_oblivious web url sent m.sent, down]
      rw [once]
      refine ⟨.inl ⟨rfl, rfl⟩, ?_⟩
      rcases down' : (download web url).run.run sent with ⟨snag' | _ | body', sent'⟩
      all_goals rw [down'] at again; cases again
      simp only [coverImage_eq web utf8, miss, down', Bool.false_eq_true, if_false]
    · -- an image: it is cached whole, and the next look finds it
      obtain ⟨image, answers, two, whole⟩ := download_some (congrArg Prod.fst down)
      have once : first = (.ok (coverPath bytes),
          { m with sent := sent
                   cache := m.cache ++ [(cacheFileName bytes, body)] }) := by
        simp only [first, coverImage_eq web utf8, hit, down, Bool.false_eq_true, if_false, fresh]
      rw [once]
      refine ⟨.inr ⟨rfl, fun _ => ⟨image, answers, two, by rw [whole]⟩⟩, ?_⟩
      simp [coverImage_eq web utf8]

/-- The law for an ASCII URL, an empty cache and a web that serves nothing. -/
theorem coverImage_cache_law_sample :
    let m : Machine := ⟨none, [], [], []⟩
    let first := (coverImage [] (.str (Text.ofString "http://a.b"))).run.run m
    Text.utf8 (Text.ofString "http://a.b") = .ok (Text.ofString "http://a.b") ∧
    ((first.1 = .ok fallbackIcon ∧ first.2.cache = m.cache) ∨
      (first.1 = .ok (coverPath (Text.ofString "http://a.b")) ∧
        (m.cache.any (·.1 == cacheFileName (Text.ofString "http://a.b")) = false →
          ∃ image, AnswersImageRequest [] (Text.ofString "http://a.b") image ∧
            image.page.status = 200 ∧
            first.2.cache = m.cache ++ [(cacheFileName (Text.ofString "http://a.b"),
              image.page.body)]))) ∧
    ((coverImage [] (.str (Text.ofString "http://a.b"))).run.run first.2).1 = first.1 := by
  intro m first
  have utf8 : Text.utf8 (Text.ofString "http://a.b") = .ok (Text.ofString "http://a.b") := by
    decide +kernel
  exact ⟨utf8, coverImage_cache_law [] utf8 m⟩

end Bookmarks
