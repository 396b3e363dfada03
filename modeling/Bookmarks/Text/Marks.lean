import Bookmarks.Text.Basic
/-!
Canonical ordering of combining marks: every run of code points whose combining class is not
zero is sorted by class, and code points of equal class keep their order, while code points
of class zero stay where they are. The combining class is a parameter, since the normalisers
of this library read it from different tables.
-/
namespace Bookmarks.Text

/-- Inserts a code point into a run ordered by `cls`, after every code point whose class is
not greater than its own. -/
def insertByClass (cls : Nat → Nat) (c : Nat) : List Nat → List Nat
  | [] => [c]
  | d :: rest => if cls c < cls d then c :: d :: rest else d :: insertByClass cls c rest

/-- Puts every run of code points of a class other than zero in order; `run` holds the
current run, already in order. -/
def orderRuns (cls : Nat → Nat) (run : List Nat) : List Nat → List Nat
  | [] => run
  | c :: rest =>
    if cls c = 0 then run ++ c :: orderRuns cls [] rest
    else orderRuns cls (insertByClass cls c run) rest

/-- The canonical order of a text under a combining class. -/
def canonicalOrder (cls : Nat → Nat) (t : Text) : Text := orderRuns cls [] t

end Bookmarks.Text
