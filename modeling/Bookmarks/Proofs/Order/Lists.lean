import Bookmarks.Proofs.Order.Timsort
import Bookmarks.Proofs.Order.Faults
/-!
The sorts of lists, stated with `List.mergeSort`.

`sortPairs` sorts the positions of its pairs and reads the pairs back in that order. The
positions come out stably sorted by the keys at them, so the pairs come out as
`List.mergeSort` by key puts them (`sortPairs_eq_mergeSort`). `sortDescendingBy` reverses its
list, sorts that ascending by key and reverses the result: that is the stable sort greatest
first (`descendingBy`, `sortDescendingBy_eq`), in which values of one rank keep the order they
had (`pairwise_descendingBy_lex`).
-/
namespace Bookmarks.Order

variable {ε κ α β : Type} [LinearOrder β]

/-! ## Sorting pairs by key -/

/-- The positions of a list, read back, give the list. -/
theorem map_getD_range' (xs : List α) (d : α) :
    (List.range' 0 xs.length).map (xs.getD · d) = xs := by
  apply List.ext_getElem
  · simp
  · intro i _ inside
    simp [List.getD_eq_getElem?_getD, List.getElem?_eq_getElem inside]

section Pairs

variable [Inhabited κ] [Inhabited α] {kr : κ → β} {lt : κ → κ → Except ε Bool}
  {pairs sorted : List (κ × α)}

/-- The keys of the pairs, compared through their positions, are ranked by the keys. -/
theorem ranked_positions
    (ranked : ∀ p ∈ pairs, ∀ q ∈ pairs, lt p.1 q.1 = .ok (decide (kr p.1 < kr q.1))) :
    Ranked (fun i => kr (pairs.getD i default).1)
      (fun i j => match pairs.toArray[i]?, pairs.toArray[j]? with
        | some (a, _), some (b, _) => lt a b
        | _, _ => pure false) pairs.length := by
  intro i j below below'
  have at_i : pairs.toArray[i]? = some (pairs.getD i default) := by
    simp [below, List.getD_eq_getElem?_getD]
  have at_j : pairs.toArray[j]? = some (pairs.getD j default) := by
    simp [below', List.getD_eq_getElem?_getD]
  simp only [at_i, at_j]
  exact ranked _ (by simp [List.getD_eq_getElem?_getD, below]) _
    (by simp [List.getD_eq_getElem?_getD, below'])

/-- Sorting pairs by a comparison that ranks their keys is `mergeSort` by key. -/
theorem sortPairs_eq_mergeSort
    (ranked : ∀ p ∈ pairs, ∀ q ∈ pairs, lt p.1 q.1 = .ok (decide (kr p.1 < kr q.1)))
    (sorts : sortPairs lt pairs = .ok sorted) :
    sorted = pairs.mergeSort fun p q => decide (kr p.1 ≤ kr q.1) := by
  unfold sortPairs at sorts
  obtain ⟨c, cells, back⟩ := bind_eq_ok.mp sorts
  rw [pure_eq_ok] at back
  rw [List.size_toArray] at cells
  have order := sortCells_sorted (ranked_positions ranked) cells
  -- every sorted position holds a pair, so reading them back is a plain map
  have read : ∀ i ∈ c.toList, pairs.toArray[i]? = some (pairs.getD i default) := by
    intro i member
    rw [order, mem_stableSorted] at member
    have inside : i < pairs.length := by omega
    simp [List.getD_eq_getElem?_getD, List.getElem?_eq_getElem inside]
  rw [← back, List.filterMap_congr read, List.filterMap_eq_map', order, stableSorted,
    List.map_mergeSort (r := notAbove _) (s := fun p q => decide (kr p.1 ≤ kr q.1))
      (fun _ _ _ _ => rfl), map_getD_range']

end Pairs

/-! ## Sorting greatest first -/

section Descending

variable {γ : Type} (u : α → β)

/-- The stable sort greatest first: the list reversed, sorted ascending, and reversed back. -/
def descendingBy (xs : List α) : List α :=
  (xs.reverse.mergeSort fun a b => decide (u a ≤ u b)).reverse

variable {u}

theorem descendingBy_perm (xs : List α) : (descendingBy u xs).Perm xs :=
  (List.reverse_perm _).trans ((List.mergeSort_perm _ _).trans (List.reverse_perm _))

theorem descendingBy_of_length_lt_two {xs : List α} (short : xs.length < 2) :
    descendingBy u xs = xs := by
  match xs, short with
  | [], _ => simp [descendingBy]
  | [_], _ => simp [descendingBy]

/-- The ranks fall along the sort. -/
theorem pairwise_descendingBy (xs : List α) :
    (descendingBy u xs).Pairwise (fun a b => u b ≤ u a) := by
  have sorted := @List.pairwise_mergeSort _ (fun a b => decide (u a ≤ u b))
    (fun a b c ab bc => by simp only [decide_eq_true_eq] at *; exact le_trans ab bc)
    (fun a b => by simpa using le_total (u a) (u b)) xs.reverse
  rw [descendingBy, List.pairwise_reverse]
  simpa using sorted

/-- The values of one rank keep the order they had. -/
theorem filter_descendingBy (xs : List α) (v : β) :
    (descendingBy u xs).filter (fun a => decide (u a = v)) = xs.filter (fun a => decide (u a = v)) := by
  let le := fun a b => decide (u a ≤ u b)
  let tied := xs.reverse.filter (fun a => decide (u a = v))
  -- the values of rank `v` are sorted already, so the merge sort keeps them in order, and
  -- its values of rank `v` are no more than they are
  have flat : tied.Pairwise fun a b => le a b := by
    refine List.Pairwise.imp_of_mem (fun {a b} first second _ => ?_)
      (List.pairwise_of_forall (fun _ _ => trivial) : tied.Pairwise fun _ _ => True)
    simp only [tied, List.mem_filter, decide_eq_true_eq] at first second
    simp [le, first.2, second.2]
  have kept : List.Sublist tied ((xs.reverse.mergeSort le).filter fun a => decide (u a = v)) := by
    have inside := @List.sublist_mergeSort _ le _
      (fun a b c ab bc => by simp only [le, decide_eq_true_eq] at *; exact le_trans ab bc)
      (fun a b => by simpa [le] using le_total (u a) (u b)) _ flat List.filter_sublist
    simpa [tied, List.filter_filter] using inside.filter (fun a => decide (u a = v))
  have same := kept.eq_of_length
    (((List.mergeSort_perm _ _).filter (fun a => decide (u a = v))).length_eq).symm
  rw [descendingBy, List.filter_reverse, ← same]
  simp [tied]

/-- Ties keep their order: any order the list had holds within each rank of the sort. -/
theorem pairwise_descendingBy_lex {R : α → α → Prop} {xs : List α} (ordered : xs.Pairwise R) :
    (descendingBy u xs).Pairwise (fun a b => u b < u a ∨ u a = u b ∧ R a b) := by
  apply List.pairwise_of_forall_sublist
  intro a b pair
  rcases ((pairwise_descendingBy xs).forall_sublist pair).lt_or_eq with below | same
  · exact .inl below
  · -- both are of the rank of `a`, and the sort keeps that rank's values in their order
    have tied : List.Sublist [a, b] ((descendingBy u xs).filter fun x => decide (u x = u a)) := by
      simpa [same] using pair.filter (fun x => decide (u x = u a))
    rw [filter_descendingBy] at tied
    exact .inr ⟨same.symm, ordered.forall_sublist (tied.trans List.filter_sublist)⟩

/-- Sorting by the rank of an image and taking images is sorting the images. -/
theorem map_descendingBy (g : α → γ) (u : γ → β) (xs : List α) :
    (descendingBy (u ∘ g) xs).map g = descendingBy u (xs.map g) := by
  rw [descendingBy, descendingBy, List.map_reverse,
    List.map_mergeSort (r := fun a b => decide ((u ∘ g) a ≤ (u ∘ g) b))
      (s := fun a b => decide (u a ≤ u b)) (fun _ _ _ _ => rfl), List.map_reverse]

/-- Sorting by a key that does not fail, with a comparison that ranks the keys, is the stable
sort greatest first. -/
theorem sortDescendingBy_eq [Inhabited κ] [Inhabited α] {key : α → Except ε κ} {k : α → κ}
    {kr : κ → β} {lt : κ → κ → Except ε Bool} {xs ys : List α}
    (keyed : xs.mapM key = .ok (xs.map k))
    (ranked : ∀ x ∈ xs, ∀ y ∈ xs, lt (k x) (k y) = .ok (decide (kr (k x) < kr (k y))))
    (sorts : sortDescendingBy key lt xs = .ok ys) : ys = descendingBy (kr ∘ k) xs := by
  unfold sortDescendingBy at sorts
  rw [keyed] at sorts
  obtain ⟨keys, found, rest⟩ := bind_eq_ok.mp sorts
  cases found
  split at rest
  case isTrue short =>
    rw [pure_eq_ok] at rest
    rw [← rest, descendingBy_of_length_lt_two short]
  case isFalse =>
    obtain ⟨sorted, pairs, back⟩ := bind_eq_ok.mp rest
    rw [pure_eq_ok] at back
    let pair := fun x => (k x, x)
    have zipped : ((xs.map k).zip xs).reverse = xs.reverse.map pair := by
      rw [List.map_reverse]
      simpa using congrArg List.reverse (List.zip_map' (f := k) (g := id) (l := xs))
    rw [zipped] at pairs
    have ranks : ∀ p ∈ xs.reverse.map pair, ∀ q ∈ xs.reverse.map pair,
        lt p.1 q.1 = .ok (decide (kr p.1 < kr q.1)) := by
      simp only [List.mem_map, List.mem_reverse]
      rintro _ ⟨x, member, rfl⟩ _ ⟨y, member', rfl⟩
      exact ranked x member y member'
    rw [sortPairs_eq_mergeSort ranks pairs,
      ← List.map_mergeSort (r := fun a b => decide (kr (k a) ≤ kr (k b))) (fun _ _ _ _ => rfl)]
      at back
    rw [← back, List.map_reverse, List.map_map]
    exact congrArg List.reverse (List.map_id _)

end Descending

end Bookmarks.Order
