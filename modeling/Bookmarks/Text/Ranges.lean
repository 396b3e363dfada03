import Bookmarks.Text.Basic
/-!
Sorted tables of closed code point ranges, the form in which the Unicode character classes
and properties of this library are written down, and their lookup by halving the table.
-/
namespace Bookmarks.Text

/-- A class of code points as closed ranges `(first, last)`, sorted and disjoint. -/
abbrev RangeTable := Array (Nat × Nat)

namespace RangeTable

/-- Halving search for `c` among the ranges at positions `lo` up to but excluding `hi`. -/
def searchBetween (table : RangeTable) (c lo hi : Nat) : Bool :=
  if lo < hi then
    let mid := (lo + hi) / 2
    let (first, last) := table.getD mid (1, 0)
    if c < first then searchBetween table c lo mid
    else if last < c then searchBetween table c (mid + 1) hi
    else true
  else false
termination_by hi - lo

/-- Whether a code point lies in one of the table's ranges. -/
def contains (table : RangeTable) (c : Nat) : Bool :=
  searchBetween table c 0 table.size

end RangeTable

/-- A property of code points as closed ranges with a value, `(first, last, value)`, sorted
and disjoint. -/
abbrev ValueTable := Array (Nat × Nat × Nat)

namespace ValueTable

/-- Halving search for the value of `c` among the runs at positions `lo` up to but excluding
`hi`. -/
def findBetween (table : ValueTable) (c lo hi : Nat) : Option Nat :=
  if lo < hi then
    let mid := (lo + hi) / 2
    let (first, last, value) := table.getD mid (1, 0, 0)
    if c < first then findBetween table c lo mid
    else if last < c then findBetween table c (mid + 1) hi
    else some value
  else none
termination_by hi - lo

/-- The value of the run that holds a code point, if one does. -/
def find? (table : ValueTable) (c : Nat) : Option Nat :=
  findBetween table c 0 table.size

end ValueTable

end Bookmarks.Text
