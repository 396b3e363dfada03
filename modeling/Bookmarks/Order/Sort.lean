/-!
Stable sorting by keys with a comparison that may fail, comparing pairs in the order an
adaptive merge sort does.

The keys are computed first. A descending sort reverses the list, sorts it ascending and
reverses the result. The sort finds runs that ascend or strictly descend (then turned around),
lengthens short runs by binary insertion, and keeps them on a stack merged by the powers of
their boundaries. A merge skips the cells already in place, copies the shorter run aside and
gallops once one run wins seven times in a row.

Every comparison is asked for in the order described, so a comparison that is not a strict
weak order leads to the same arrangement, and the first one that fails stops the sort.
-/
namespace Bookmarks.Order

variable {ε κ α : Type}

/-- A comparison of positions of the list by their keys, which may fail. -/
abbrev Less (ε : Type) := Nat → Nat → Except ε Bool

/-- The number of wins in a row by one run after which a merge starts galloping. -/
def gallopStart : Nat := 7

/-- The position in a cell, or position 0 past the end of the cells. -/
def cell (a : Array Nat) (i : Nat) : Nat := a.getD i 0

/-- The cells with `k` cells of `src` from index `srcAt` written at index `dstAt`, each read
before any is written. -/
def blit (dst src : Array Nat) (dstAt srcAt : Nat) : Nat → Array Nat
  | 0 => dst
  | k + 1 => blit (dst.setIfInBounds (dstAt + k) (cell src (srcAt + k))) src dstAt srcAt k

/-- The cells with those from `lo` up to but excluding `hi` in the opposite order. -/
def reverseCells (a : Array Nat) (lo hi : Nat) : Array Nat :=
  a.extract 0 lo ++ (a.extract lo hi).reverse ++ a.extract hi a.size

/-- The least run length for a list of `n` positions: `n` itself below 64, otherwise the
first six bits of `n`, plus one when any bit after them is set. -/
def minRunFrom (n : Nat) (rest : Bool) : Nat :=
  if 64 ≤ n then minRunFrom (n / 2) (rest || n % 2 == 1) else n + (if rest then 1 else 0)
termination_by n
decreasing_by omega

/-- The least run length for a list of `n` positions. -/
def minRun (n : Nat) : Nat := minRunFrom n false

/-- The length of the run from cell `i` up to `hi` in which each cell is (when `descending`)
or is not (otherwise) less than the one before it. -/
def runFrom (lt : Less ε) (a : Array Nat) (descending : Bool) (i hi : Nat) : Except ε Nat :=
  if _h : i < hi then do
    if (← lt (cell a i) (cell a (i - 1))) == descending then
      return 1 + (← runFrom lt a descending (i + 1) hi)
    else pure 0
  else pure 0
termination_by hi - i

/-- The run that starts at cell `lo`, before `hi`: its length, and whether it strictly
descends. -/
def countRun (lt : Less ε) (a : Array Nat) (lo hi : Nat) : Except ε (Nat × Bool) :=
  if hi ≤ lo + 1 then pure (1, false)
  else do
    let descending ← lt (cell a (lo + 1)) (cell a lo)
    return (2 + (← runFrom lt a descending (lo + 2) hi), descending)

/-- Where `pivot` goes among the sorted cells from `l` up to but excluding `r`: after every
cell it is not less than. -/
def insertionSlot (lt : Less ε) (a : Array Nat) (pivot l r : Nat) : Except ε Nat :=
  if _h : l < r then do
    let p := l + (r - l) / 2
    if ← lt pivot (cell a p) then insertionSlot lt a pivot l p
    else insertionSlot lt a pivot (p + 1) r
  else pure l
termination_by r - l

/-- Extends the sorted cells from `lo` up to `s` to those up to `hi`, inserting each next
cell by halving. -/
def binarySort (lt : Less ε) (a : Array Nat) (lo hi s : Nat) : Except ε (Array Nat) :=
  if _h : s < hi then do
    let pivot := cell a s
    let l ← insertionSlot lt a pivot lo s
    binarySort lt (a.extract 0 l ++ #[pivot] ++ a.extract l s ++ a.extract (s + 1) a.size)
      lo hi (s + 1)
  else pure a
termination_by hi - s

/-- Doubling steps: from offset `ofs`, while `ofs` is below `maxofs` and `onward ofs` holds,
the last offset passed and the next one tried; the second is at most `maxofs`. -/
def leap (onward : Nat → Except ε Bool) (maxofs lastofs ofs : Nat) : Except ε (Nat × Nat) :=
  if _h : ofs < maxofs then do
    if ← onward ofs then leap onward maxofs ofs (2 * ofs + 1) else pure (lastofs, ofs)
  else pure (lastofs, maxofs)
termination_by maxofs - ofs

/-- Halving between `lo` and `hi`: the first index whose cell does not come `before` the key,
when all before `lo` do and none from `hi` on does. -/
def settle (before : Nat → Except ε Bool) (lo hi : Nat) : Except ε Nat :=
  if _h : lo < hi then do
    let m := lo + (hi - lo) / 2
    if ← before m then settle before (m + 1) hi else settle before lo m
  else pure hi
termination_by hi - lo

/-- Where `key` goes among `n` sorted cells read by `get`, before every cell it is not greater
than, searching outward from index `hint`. -/
def gallopLeft (lt : Less ε) (key : Nat) (get : Nat → Nat) (n hint : Nat) : Except ε Nat := do
  let before := fun i => lt (get i) key
  if ← before hint then
    let (last, ofs) ← leap (fun o => before (hint + o)) (n - hint) 0 1
    settle before (hint + last + 1) (hint + ofs)
  else
    let (last, ofs) ← leap (fun o => do return !(← before (hint - o))) (hint + 1) 0 1
    settle before (hint + 1 - ofs) (hint - last)

/-- Where `key` goes among `n` sorted cells read by `get`, after every cell it is not less
than, searching outward from index `hint`. -/
def gallopRight (lt : Less ε) (key : Nat) (get : Nat → Nat) (n hint : Nat) : Except ε Nat := do
  let after := fun i => lt key (get i)
  let before := fun i => do return !(← after i)
  if ← after hint then
    let (last, ofs) ← leap (fun o => after (hint - o)) (hint + 1) 0 1
    settle before (hint + 1 - ofs) (hint - last)
  else
    let (last, ofs) ← leap (fun o => before (hint + o)) (n - hint) 0 1
    settle before (hint + last + 1) (hint + ofs)

/-- The cells and the gallop count of a merge in progress, with `na` cells of the left run
and `nb` of the right one still to place. -/
structure Merging where
  cells : Array Nat
  na : Nat
  nb : Nat
  /-- The gallop count the merge uses now. -/
  gallop : Nat
  /-- The gallop count kept for the merges after this one. -/
  kept : Nat

/-- A merge from the low end: the left run of `lenA` cells from `base` is copied aside in
`aside`, the right run of `lenB` cells follows it, and `na`, `nb` cells of each are left. -/
structure LowMerge where
  base : Nat
  lenA : Nat
  lenB : Nat
  aside : Array Nat

/-- The index in `aside` of the left run's next cell. -/
def LowMerge.nextA (m : LowMerge) (s : Merging) : Nat := m.lenA - s.na

/-- The index of the right run's next cell. -/
def LowMerge.nextB (m : LowMerge) (s : Merging) : Nat := m.base + m.lenA + m.lenB - s.nb

/-- The index of the next cell written. -/
def LowMerge.dest (m : LowMerge) (s : Merging) : Nat :=
  m.base + (m.lenA - s.na) + (m.lenB - s.nb)

/-- Ends a merge from the low end: the left run's remaining cells fill the rest. -/
def LowMerge.finish (m : LowMerge) (s : Merging) : Array Nat × Nat :=
  (blit s.cells m.aside (m.dest s) (m.nextA s) s.na, s.kept)

/-- Ends a merge from the low end when one cell of the left run is left: it goes after the
right run's remaining cells. -/
def LowMerge.lastA (m : LowMerge) (s : Merging) : Array Nat × Nat :=
  let cells := blit s.cells s.cells (m.dest s) (m.nextB s) s.nb
  (cells.setIfInBounds (m.dest s + s.nb) (cell m.aside (m.nextA s)), s.kept)

/-- Places the right run's next cell. -/
def LowMerge.takeB (m : LowMerge) (s : Merging) : Merging :=
  { s with cells := s.cells.setIfInBounds (m.dest s) (cell s.cells (m.nextB s)), nb := s.nb - 1 }

/-- Places the left run's next cell. -/
def LowMerge.takeA (m : LowMerge) (s : Merging) : Merging :=
  { s with cells := s.cells.setIfInBounds (m.dest s) (cell m.aside (m.nextA s)), na := s.na - 1 }

/-- The steps of a merge from the low end, one cell at a time while `galloping` is off
(`wins` counts the left run's wins in a row, `losses` the right run's), a gallop at a time
while it is on. -/
def LowMerge.steps (lt : Less ε) (m : LowMerge) :
    Nat → Merging → Bool → Nat → Nat → Except ε (Array Nat × Nat)
  | 0, s, _, _, _ => pure (m.finish s)
  | fuel + 1, s, false, wins, losses => do
    if ← lt (cell s.cells (m.nextB s)) (cell m.aside (m.nextA s)) then
      let s := m.takeB s
      if s.nb == 0 then return m.finish s
      if losses + 1 ≥ s.gallop then m.steps lt fuel { s with gallop := s.gallop + 1 } true 0 0
      else m.steps lt fuel s false 0 (losses + 1)
    else
      let s := m.takeA s
      if s.na == 1 then return m.lastA s
      if wins + 1 ≥ s.gallop then m.steps lt fuel { s with gallop := s.gallop + 1 } true 0 0
      else m.steps lt fuel s false (wins + 1) 0
  | fuel + 1, s, true, _, _ => do
    let g := if s.gallop > 1 then s.gallop - 1 else s.gallop
    let s := { s with gallop := g, kept := g }
    let k ← gallopRight lt (cell s.cells (m.nextB s)) (fun i => cell m.aside (m.nextA s + i)) s.na 0
    let s := { s with cells := blit s.cells m.aside (m.dest s) (m.nextA s) k, na := s.na - k }
    if k > 0 && s.na == 1 then return m.lastA s
    if k > 0 && s.na == 0 then return m.finish s
    let s := m.takeB s
    if s.nb == 0 then return m.finish s
    let j ← gallopLeft lt (cell m.aside (m.nextA s)) (fun i => cell s.cells (m.nextB s + i)) s.nb 0
    let s := { s with cells := blit s.cells s.cells (m.dest s) (m.nextB s) j, nb := s.nb - j }
    if j > 0 && s.nb == 0 then return m.finish s
    let s := m.takeA s
    if s.na == 1 then return m.lastA s
    if k ≥ gallopStart || j ≥ gallopStart then m.steps lt fuel s true 0 0
    else m.steps lt fuel { s with gallop := g + 1, kept := g + 1 } false 0 0

/-- Merges the `na` cells from `base` with the `nb` cells after them, from the low end, where
the left run is not longer; the gallop count is `gallop`. -/
def mergeLow (lt : Less ε) (cells : Array Nat) (gallop base na nb : Nat) :
    Except ε (Array Nat × Nat) :=
  let m : LowMerge := ⟨base, na, nb, cells.extract base (base + na)⟩
  let s := m.takeB ⟨cells, na, nb, gallop, gallop⟩
  if s.nb == 0 then pure (m.finish s)
  else if s.na == 1 then pure (m.lastA s)
  else m.steps lt (na + nb + 1) s false 0 0

/-- A merge from the high end: the left run starts at `base`, the right run after it is copied
aside in `aside`, and `na`, `nb` cells of each are left. -/
structure HighMerge where
  base : Nat
  aside : Array Nat

/-- The index of the left run's next cell. -/
def HighMerge.nextA (m : HighMerge) (s : Merging) : Nat := m.base + s.na - 1

/-- The index in `aside` of the right run's next cell. -/
def HighMerge.nextB (_m : HighMerge) (s : Merging) : Nat := s.nb - 1

/-- The index of the next cell written. -/
def HighMerge.dest (m : HighMerge) (s : Merging) : Nat := m.base + s.na + s.nb - 1

/-- Ends a merge from the high end: the right run's remaining cells fill the rest. -/
def HighMerge.finish (m : HighMerge) (s : Merging) : Array Nat × Nat :=
  (blit s.cells m.aside (m.base + s.na) 0 s.nb, s.kept)

/-- Ends a merge from the high end when one cell of the right run is left: it goes before the
left run's remaining cells. -/
def HighMerge.lastB (m : HighMerge) (s : Merging) : Array Nat × Nat :=
  let cells := blit s.cells s.cells (m.base + 1) m.base s.na
  (cells.setIfInBounds m.base (cell m.aside 0), s.kept)

/-- Places the left run's next cell. -/
def HighMerge.takeA (m : HighMerge) (s : Merging) : Merging :=
  { s with cells := s.cells.setIfInBounds (m.dest s) (cell s.cells (m.nextA s)), na := s.na - 1 }

/-- Places the right run's next cell. -/
def HighMerge.takeB (m : HighMerge) (s : Merging) : Merging :=
  { s with cells := s.cells.setIfInBounds (m.dest s) (cell m.aside (m.nextB s)), nb := s.nb - 1 }

/-- The steps of a merge from the high end, as from the low end. -/
def HighMerge.steps (lt : Less ε) (m : HighMerge) :
    Nat → Merging → Bool → Nat → Nat → Except ε (Array Nat × Nat)
  | 0, s, _, _, _ => pure (m.finish s)
  | fuel + 1, s, false, wins, losses => do
    if ← lt (cell m.aside (m.nextB s)) (cell s.cells (m.nextA s)) then
      let s := m.takeA s
      if s.na == 0 then return m.finish s
      if wins + 1 ≥ s.gallop then m.steps lt fuel { s with gallop := s.gallop + 1 } true 0 0
      else m.steps lt fuel s false (wins + 1) 0
    else
      let s := m.takeB s
      if s.nb == 1 then return m.lastB s
      if losses + 1 ≥ s.gallop then m.steps lt fuel { s with gallop := s.gallop + 1 } true 0 0
      else m.steps lt fuel s false 0 (losses + 1)
  | fuel + 1, s, true, _, _ => do
    let g := if s.gallop > 1 then s.gallop - 1 else s.gallop
    let s := { s with gallop := g, kept := g }
    let k ← gallopRight lt (cell m.aside (m.nextB s)) (fun i => cell s.cells (m.base + i))
      s.na (s.na - 1)
    let k := s.na - k
    let s := { s with
      cells := blit s.cells s.cells (m.base + s.na - k + s.nb) (m.base + s.na - k) k,
      na := s.na - k }
    if k > 0 && s.na == 0 then return m.finish s
    let s := m.takeB s
    if s.nb == 1 then return m.lastB s
    let j ← gallopLeft lt (cell s.cells (m.nextA s)) (fun i => cell m.aside i) s.nb (s.nb - 1)
    let j := s.nb - j
    let s := { s with
      cells := blit s.cells m.aside (m.base + s.na + s.nb - j) (s.nb - j) j,
      nb := s.nb - j }
    if j > 0 && s.nb == 1 then return m.lastB s
    if j > 0 && s.nb == 0 then return m.finish s
    let s := m.takeA s
    if s.na == 0 then return m.finish s
    if k ≥ gallopStart || j ≥ gallopStart then m.steps lt fuel s true 0 0
    else m.steps lt fuel { s with gallop := g + 1, kept := g + 1 } false 0 0

/-- Merges the `na` cells from `base` with the `nb` cells after them, from the high end, where
the right run is shorter; the gallop count is `gallop`. -/
def mergeHigh (lt : Less ε) (cells : Array Nat) (gallop base na nb : Nat) :
    Except ε (Array Nat × Nat) :=
  let m : HighMerge := ⟨base, cells.extract (base + na) (base + na + nb)⟩
  let s := m.takeA ⟨cells, na, nb, gallop, gallop⟩
  if s.na == 0 then pure (m.finish s)
  else if s.nb == 1 then pure (m.lastB s)
  else m.steps lt (na + nb + 1) s false 0 0

/-- A sorted run on the stack: where it starts, how long it is, and the power of the boundary
after it. -/
structure Run where
  base : Nat
  len : Nat
  power : Nat

/-- The cells, the stack of runs and the gallop count of a sort in progress. -/
structure Sorting where
  cells : Array Nat
  runs : Array Run
  gallop : Nat

/-- The run at a place on the stack, or an empty one past its top. -/
def Sorting.run (s : Sorting) (i : Nat) : Run := s.runs.getD i ⟨0, 0, 0⟩

/-- Merges the runs at places `i` and `i + 1` of the stack. -/
def Sorting.mergeAt (lt : Less ε) (s : Sorting) (i : Nat) : Except ε Sorting := do
  let ra := s.run i
  let rb := s.run (i + 1)
  let runs := s.runs.setIfInBounds i { ra with len := ra.len + rb.len }
  let runs := if i + 3 == runs.size then runs.setIfInBounds (i + 1) (s.run (i + 2)) else runs
  let s := { s with runs := runs.pop }
  let k ← gallopRight lt (cell s.cells rb.base) (fun j => cell s.cells (ra.base + j)) ra.len 0
  let base := ra.base + k
  let na := ra.len - k
  if na == 0 then return s
  let nb ← gallopLeft lt (cell s.cells (base + na - 1)) (fun j => cell s.cells (rb.base + j))
    rb.len (rb.len - 1)
  if nb == 0 then return s
  let (cells, gallop) ←
    if na ≤ nb then mergeLow lt s.cells s.gallop base na nb
    else mergeHigh lt s.cells s.gallop base na nb
  pure { s with cells := cells, gallop := gallop }

/-- The power of the boundary between a run of `n1` cells from `s1` and one of `n2` cells after
it, in a list of `n`: the first bit in which the binary fractions of their midpoints differ. -/
def powerFrom (n : Nat) : Nat → Nat → Nat → Nat → Nat
  | 0, _, _, result => result
  | fuel + 1, a, b, result =>
    if n ≤ a then powerFrom n fuel (2 * (a - n)) (2 * (b - n)) (result + 1)
    else if n ≤ b then result + 1
    else powerFrom n fuel (2 * a) (2 * b) (result + 1)

/-- The power of the boundary between a run of `n1` cells from `s1` and one of `n2` cells after
it, in a list of `n`. -/
def power (s1 n1 n2 n : Nat) : Nat :=
  powerFrom n (n + 1) (2 * s1 + n1) (2 * s1 + 2 * n1 + n2) 0

/-- Merges the runs below the top while the one under the top has a greater power than
`p`. -/
def Sorting.settleBelow (lt : Less ε) (p : Nat) : Nat → Sorting → Except ε Sorting
  | 0, s => pure s
  | fuel + 1, s =>
    if s.runs.size > 1 && (s.run (s.runs.size - 2)).power > p then do
      settleBelow lt p fuel (← s.mergeAt lt (s.runs.size - 2))
    else pure s

/-- Makes room for a new run of `n2` cells: merges the runs whose boundaries have a greater
power than the new one, and records that power on the top run. -/
def Sorting.foundRun (lt : Less ε) (n : Nat) (s : Sorting) (n2 : Nat) : Except ε Sorting := do
  if s.runs.isEmpty then return s
  let top := s.run (s.runs.size - 1)
  let p := power top.base top.len n2 n
  let s ← s.settleBelow lt p s.runs.size
  let top := s.run (s.runs.size - 1)
  pure { s with runs := s.runs.setIfInBounds (s.runs.size - 1) { top with power := p } }

/-- Merges the whole stack, each time the top two runs, or the two below the top when the one
under them is shorter than the top. -/
def Sorting.collapse (lt : Less ε) : Nat → Sorting → Except ε Sorting
  | 0, s => pure s
  | fuel + 1, s =>
    if s.runs.size > 1 then do
      let i := s.runs.size - 2
      let i := if i > 0 && (s.run (i - 1)).len < (s.run (i + 1)).len then i - 1 else i
      collapse lt fuel (← s.mergeAt lt i)
    else pure s

/-- Finds the runs of the cells from `lo` on, `left` of them, pushing each onto the stack. -/
def Sorting.scan (lt : Less ε) (n minrun : Nat) : Nat → Sorting → Nat → Nat → Except ε Sorting
  | 0, s, _, _ => pure s
  | fuel + 1, s, lo, left => do
    if left == 0 then return s
    let (len, descending) ← countRun lt s.cells lo (lo + left)
    let s := if descending then { s with cells := reverseCells s.cells lo (lo + len) } else s
    let (s, len) ←
      if len < minrun then do
        let force := min left minrun
        pure ({ s with cells := ← binarySort lt s.cells lo (lo + force) (lo + len) }, force)
      else pure (s, len)
    let s ← s.foundRun lt n len
    let s := { s with runs := s.runs.push ⟨lo, len, 0⟩ }
    scan lt n minrun fuel s (lo + len) (left - len)

/-- The `n` cells given, sorted ascending and stably by `lt`. -/
def sortCells (lt : Less ε) (cells : Array Nat) : Except ε (Array Nat) := do
  let n := cells.size
  if n < 2 then return cells
  let s ← Sorting.scan lt n (minRun n) n ⟨cells, #[], gallopStart⟩ 0 n
  let s ← s.collapse lt s.runs.size
  pure s.cells

/-- Sorts pairs by their keys, ascending and stable. -/
def sortPairs (lt : κ → κ → Except ε Bool) (pairs : List (κ × α)) : Except ε (List (κ × α)) := do
  let items := pairs.toArray
  let less : Less ε := fun i j =>
    match items[i]?, items[j]? with
    | some (a, _), some (b, _) => lt a b
    | _, _ => pure false
  let sorted ← sortCells less (Array.range items.size)
  pure (sorted.toList.filterMap fun i => items[i]?)

/-- Sorts values by a key, greatest key first, equal keys in their order. -/
def sortDescendingBy (key : α → Except ε κ) (lt : κ → κ → Except ε Bool) (xs : List α) :
    Except ε (List α) := do
  let keys ← xs.mapM key
  if xs.length < 2 then return xs
  let sorted ← sortPairs lt (keys.zip xs).reverse
  pure (sorted.reverse.map Prod.snd)

/-- Sorts values ascending and stably by a comparison that cannot fail. -/
def sortBy (lt : α → α → Bool) (xs : List α) : List α :=
  match sortPairs (fun a b => (Except.ok (lt a b) : Except Unit Bool)) (xs.map fun x => (x, ())) with
  | .ok sorted => sorted.map Prod.fst
  | .error _ => xs

end Bookmarks.Order
