import Bookmarks.Text.Basic
/-!
Blank code points, the separators of a query's words, and the trimming and splitting
built on them.

A code point is blank when Unicode gives it the White_Space property or the bidirectional
class of a separator: the ASCII tab to carriage return, the four information separators
U+001C to U+001F, the space, U+0085, the no-break spaces and the spaces of U+2000 to
U+200A, the line and paragraph separators and U+3000. U+200B, the zero-width space, is not
blank.
-/
namespace Bookmarks.Text

/-- The blank code points, as closed ranges. -/
def blankRanges : List (Nat × Nat) :=
  [(0x09, 0x0D), (0x1C, 0x20), (0x85, 0x85), (0xA0, 0xA0), (0x1680, 0x1680),
    (0x2000, 0x200A), (0x2028, 0x2029), (0x202F, 0x202F), (0x205F, 0x205F),
    (0x3000, 0x3000)]

/-- Whether a code point separates words. -/
def isBlank (c : Nat) : Bool := blankRanges.any fun (lo, hi) => lo ≤ c && c ≤ hi

/-- The text without its leading blanks. -/
def trimLeft (t : Text) : Text := t.dropWhile isBlank

/-- The text without its trailing blanks. -/
def trimRight (t : Text) : Text := (t.reverse.dropWhile isBlank).reverse

/-- The text without leading or trailing blanks. -/
def trim (t : Text) : Text := trimRight (trimLeft t)

/-- The words of `t` after a word in progress, kept reversed in `current`. -/
def wordsAfter (current : Text) : Text → List Text
  | [] => if current.isEmpty then [] else [current.reverse]
  | c :: rest =>
    if isBlank c then
      (if current.isEmpty then [] else [current.reverse]) ++ wordsAfter [] rest
    else wordsAfter (c :: current) rest

/-- The words of a text: its maximal runs of non-blank code points, in order. -/
def words (t : Text) : List Text := wordsAfter [] t

end Bookmarks.Text
