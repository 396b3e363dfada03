import Bookmarks.Text.Basic
/-!
Matching blocks of two sequences of code points, by the longest-block method: find the
longest common block of the two ranges, then look for more on each side of it.

When the second sequence has 200 code points or more, a code point that occurs too often in it
never starts a block. The blocks come out in order, adjacent ones joined, and an empty block
closes the list.
-/
namespace Bookmarks.Similarity

/-- A common block: `size` code points from position `i` of the first sequence equal those
from position `j` of the second. -/
structure Block where
  i : Nat
  j : Nat
  size : Nat
  deriving DecidableEq, Repr

/-- Two sequences prepared for matching: the second one's positions per code point, in
increasing order, frequent code points of a long second sequence left out. -/
structure Matcher where
  a : Array Nat
  b : Array Nat
  index : List (Nat × List Nat)

namespace Matcher

/-- The positions of each distinct code point of `b`, in order of first occurrence. -/
def positionsOf (b : Array Nat) : List (Nat × List Nat) :=
  let step (acc : List (Nat × List Nat)) (jc : Nat × Nat) : List (Nat × List Nat) :=
    let (j, c) := jc
    if acc.any (·.1 == c) then acc.map fun e => if e.1 == c then (c, e.2 ++ [j]) else e
    else acc ++ [(c, [j])]
  (b.toList.zipIdx.map fun (c, j) => (j, c)).foldl step []

/-- Prepares two sequences: a long second sequence loses its frequent code points from the
index. -/
def make (a b : Text) : Matcher :=
  let bs := b.toArray
  let all := positionsOf bs
  let n := bs.size
  let index := if n ≥ 200 then all.filter fun e => e.2.length ≤ n / 100 + 1 else all
  ⟨a.toArray, bs, index⟩

/-- The indexed positions of a code point in the second sequence. -/
def positions (m : Matcher) (c : Nat) : List Nat :=
  ((m.index.find? (·.1 == c)).map Prod.snd).getD []

/-- The length of the block ending just before position `j` in the previous row. -/
def lengthBefore (row : List (Nat × Nat)) (j : Nat) : Nat :=
  if j = 0 then 0 else ((row.find? (·.1 == j - 1)).map Prod.snd).getD 0

/-- One row of the search: the blocks ending at position `i` of the first sequence and
at each indexed position of its code point inside `blo` to `bhi`, with the best block so
far. -/
def row (m : Matcher) (blo bhi i : Nat) (previous : List (Nat × Nat)) (best : Block) :
    List (Nat × Nat) × Block :=
  let js := ((m.positions (m.a.getD i 0)).filter (blo ≤ ·)).takeWhile (· < bhi)
  js.foldl (fun (current, best) j =>
    let k := lengthBefore previous j + 1
    (current ++ [(j, k)], if k > best.size then ⟨i + 1 - k, j + 1 - k, k⟩ else best))
    ([], best)

/-- Grows a block backwards while the code points before it are equal, within the ranges. -/
def growBack (m : Matcher) (alo blo : Nat) (x : Block) : Nat → Block
  | 0 => x
  | fuel + 1 =>
    if x.i > alo && x.j > blo && m.a.getD (x.i - 1) 0 == m.b.getD (x.j - 1) 0 then
      growBack m alo blo ⟨x.i - 1, x.j - 1, x.size + 1⟩ fuel
    else x

/-- Grows a block forwards while the code points after it are equal, within the ranges. -/
def growForth (m : Matcher) (ahi bhi : Nat) (x : Block) : Nat → Block
  | 0 => x
  | fuel + 1 =>
    if x.i + x.size < ahi && x.j + x.size < bhi &&
        m.a.getD (x.i + x.size) 0 == m.b.getD (x.j + x.size) 0 then
      growForth m ahi bhi ⟨x.i, x.j, x.size + 1⟩ fuel
    else x

/-- The longest common block of `a` from `alo` to `ahi` and `b` from `blo` to `bhi`. -/
def longest (m : Matcher) (alo ahi blo bhi : Nat) : Block :=
  let (_, best) := (List.range' alo (ahi - alo)).foldl
    (fun (previous, best) i => m.row blo bhi i previous best) ([], ⟨alo, blo, 0⟩)
  let grown := m.growBack alo blo best (ahi - alo)
  m.growForth ahi bhi grown (ahi - alo)

/-- The common blocks inside the ranges, in order; the recursion goes at most as deep as
the first range is long. -/
def blocksIn (m : Matcher) (alo ahi blo bhi : Nat) : Nat → List Block
  | 0 => []
  | fuel + 1 =>
    let x := m.longest alo ahi blo bhi
    if x.size = 0 then []
    else
      let before := if alo < x.i && blo < x.j then m.blocksIn alo x.i blo x.j fuel else []
      let after := if x.i + x.size < ahi && x.j + x.size < bhi then
        m.blocksIn (x.i + x.size) ahi (x.j + x.size) bhi fuel else []
      before ++ x :: after

/-- Joins each block to the previous one when it continues it. -/
def joinAdjacent : List Block → List Block
  | x :: y :: rest =>
    if x.i + x.size = y.i && x.j + x.size = y.j then
      joinAdjacent (⟨x.i, x.j, x.size + y.size⟩ :: rest)
    else x :: joinAdjacent (y :: rest)
  | blocks => blocks
termination_by blocks => blocks.length

/-- The matching blocks of the two sequences, closed by the empty block at their ends. -/
def matchingBlocks (m : Matcher) : List Block :=
  joinAdjacent (m.blocksIn 0 m.a.size 0 m.b.size (m.a.size + 1)) ++ [⟨m.a.size, m.b.size, 0⟩]

/-- The number of code points in matching blocks. -/
def matched (m : Matcher) : Nat := (m.matchingBlocks.map Block.size).foldr (· + ·) 0

end Matcher

end Bookmarks.Similarity
