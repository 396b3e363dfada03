import Bookmarks.Url.Idna
import Bookmarks.Url.IdnaData
import Bookmarks.Text.Case
import Bookmarks.Text.Marks
/-!
Which host labels may be written in their `xn--` form, and the ASCII form of a host label.

A label beyond ASCII is lowercased and must pass the checks of internationalised domain names
(RFC 5891, 5892, 5893): code points a label may hold, normalisation form C, hyphens, no leading
combining mark, and the bidirectional rule. Its `xn--` form is at most 63 characters long. An
ASCII label is only lowercased.
-/
namespace Bookmarks.Url.Idna

/-- How a label may hold a code point: 0 anywhere, 1 in a joining context, 2 in another
context; `none` when it may not hold it. -/
def kindOf? (c : Nat) : Option Nat := labelClasses.find? c

/-- The bidirectional class code of a code point a label may hold. -/
def bidiOf (c : Nat) : Nat := (bidiClasses.find? c).getD 0

/-- The canonical combining class of a code point a label may hold. -/
def combiningClass (c : Nat) : Nat := (combiningClasses.find? c).getD 0

/-- Whether a code point a label may hold is a combining mark. -/
def isMark (c : Nat) : Bool := combiningMarks.contains c

/-! ## Normalisation form C -/

/-- Whether a code point is a Hangul syllable. -/
def isSyllable (c : Nat) : Bool := 0xAC00 ≤ c && c ≤ 0xD7A3

/-- The two code points a code point decomposes into canonically, if it does: a Hangul
syllable with a final consonant into the syllable without it and that consonant, one without
into its leading consonant and vowel, others as the table says. -/
def decomposition? (c : Nat) : Option (Nat × Nat) :=
  if isSyllable c then
    let s := c - 0xAC00
    if s % 28 == 0 then some (0x1100 + s / 588, 0x1161 + s % 588 / 28)
    else some (c - s % 28, 0x11A7 + s % 28)
  else (compositions.find? fun e => e.2.2 == c).map fun e => (e.1, e.2.1)

/-- The code point two code points compose into canonically, if any: a leading consonant and
a vowel into a Hangul syllable, such a syllable and a final consonant into one with it, others
as the table says. -/
def composition? (a b : Nat) : Option Nat :=
  if 0x1100 ≤ a && a ≤ 0x1112 && 0x1161 ≤ b && b ≤ 0x1175 then
    some (0xAC00 + ((a - 0x1100) * 21 + (b - 0x1161)) * 28)
  else if isSyllable a && (a - 0xAC00) % 28 == 0 && 0x11A8 ≤ b && b ≤ 0x11C2 then
    some (a + (b - 0x11A7))
  else (compositions.find? fun e => e.1 == a && e.2.1 == b).map fun e => e.2.2

/-- The full canonical decomposition of a code point; decompositions nest at most four
deep. -/
def decompose : Nat → Nat → List Nat
  | 0, c => [c]
  | fuel + 1, c =>
    match decomposition? c with
    | some (a, b) => decompose fuel a ++ decompose fuel b
    | none => [c]

/-- Composes canonically: each code point joins the last starter before it when no code
point between them has class zero or a class at least its own. `out` is the result so far,
`starter` the position of its last starter and `last` the class of its last code point. -/
def composeFrom (out : Array Nat) (starter : Option Nat) (last : Nat) : List Nat → Array Nat
  | [] => out
  | c :: rest =>
    let cc := combiningClass c
    let joined := match starter with
      | some s =>
        let blocked := out.size > s + 1 && (last = 0 || last ≥ cc)
        if blocked then none else (composition? (out.getD s 0) c).map fun p => (s, p)
      | none => none
    match joined with
    | some (s, p) => composeFrom (out.set! s p) starter last rest
    | none => composeFrom (out.push c) (if cc = 0 then some out.size else starter) cc rest

/-- The normalisation form C of a text: decomposed canonically, its marks put in canonical
order, then composed canonically. Exact for texts of code points a label may hold and of
Hangul jamo; a text holding other code points is no label in either form. -/
def normalizeC (t : Text) : Text :=
  (composeFrom #[] none 0 (Text.canonicalOrder combiningClass (t.flatMap (decompose 4)))).toList

/-- Whether a label of code points a label may hold is in normalisation form C. -/
def isNormalized (label : Text) : Bool := normalizeC label == label

/-! ## Contextual rules -/

/-- The joining type code of a code point: 0 transparent, 1 left, 2 dual, 3 right, 4 other. -/
def joiningOf (c : Nat) : Nat := (joiningTypes.find? c).getD 4

/-- Whether, skipping transparent code points, the first one met joins towards the joiner:
one of the given joining types. -/
def joinsToward (sides : List Nat) : List Nat → Bool
  | [] => false
  | c :: rest =>
    let j := joiningOf c
    if j = 0 then joinsToward sides rest else sides.contains j

/-- Whether the joiner at position `pos` stands in its context: after a virama, or, for the
non-joiner, between a left or dual joining code point and a right or dual joining one. -/
def joinerFits (label : Array Nat) (pos : Nat) : Bool :=
  let c := label.getD pos 0
  let afterVirama := pos > 0 && combiningClass (label.getD (pos - 1) 0) = 9
  if c = 0x200D then afterVirama
  else if c = 0x200C then
    afterVirama ||
      (joinsToward [1, 2] (label.extract 0 pos).toList.reverse &&
        joinsToward [3, 2] (label.extract (pos + 1) label.size).toList)
  else false

/-- Whether the code point at position `pos` that needs a context stands in it. -/
def contextFits (label : Array Nat) (pos : Nat) : Bool :=
  let c := label.getD pos 0
  let all := label.toList
  if c = 0xB7 then
    0 < pos && pos + 1 < label.size && label.getD (pos - 1) 0 = 0x6C && label.getD (pos + 1) 0 = 0x6C
  else if c = 0x375 then pos + 1 < label.size && greekScript.contains (label.getD (pos + 1) 0)
  else if c = 0x5F3 || c = 0x5F4 then pos > 0 && hebrewScript.contains (label.getD (pos - 1) 0)
  else if c = 0x30FB then
    all.any fun d => d != 0x30FB &&
      (hiraganaScript.contains d || katakanaScript.contains d || hanScript.contains d)
  else if 0x660 ≤ c && c ≤ 0x669 then !all.any fun d => 0x6F0 ≤ d && d ≤ 0x6F9
  else if 0x6F0 ≤ c && c ≤ 0x6F9 then !all.any fun d => 0x660 ≤ d && d ≤ 0x669
  else false

/-- Whether every code point of a label is one a label may hold, in its context. -/
def codePointsFit (label : Text) : Bool :=
  let a := label.toArray
  (List.range a.size).all fun pos =>
    match kindOf? (a.getD pos 0) with
    | some 0 => true
    | some 1 => joinerFits a pos
    | some 2 => contextFits a pos
    | _ => false

/-! ## Bidirectional rule -/

/-- Whether the last class that is not a mark's is one of `ending`. -/
def endsWell (ending : List Nat) (dirs : List Nat) : Bool :=
  match (dirs.filter (· != 10)).getLast? with
  | some d => ending.contains d
  | none => false

/-- The bidirectional rule of RFC 5893 for a label with a right-to-left code point. -/
def bidiFits (label : Text) : Bool :=
  let dirs := label.map bidiOf
  if !dirs.any fun d => d = 1 || d = 2 || d = 3 then true
  else
    match dirs.head? with
    | some 1 | some 2 =>
      dirs.all (fun d => 1 ≤ d && d ≤ 10) && !(dirs.contains 3 && dirs.contains 4) &&
        endsWell [1, 2, 4, 3] dirs
    | some 0 => dirs.all (fun d => d = 0 || (4 ≤ d && d ≤ 10)) && endsWell [0, 4] dirs
    | _ => false

/-! ## Labels -/

/-- Whether hyphens stand where a label may hold them: not first, not last, and not both
third and fourth. -/
def hyphensFit (label : Text) : Bool :=
  (label.drop 2).take 2 != [0x2D, 0x2D] && label.head? != some 0x2D && label.getLast? != some 0x2D

/-- Whether a lowercased label passes every check of internationalised domain names. -/
def labelFits (label : Text) : Bool :=
  !label.isEmpty && codePointsFit label && isNormalized label && hyphensFit label &&
    !(label.head?.map isMark).getD false && bidiFits label

/-- The ASCII form of one label of a host: an ASCII label lowercased; any other label
lowercased, checked and written in its `xn--` form, of at most 63 characters. `none` when
the label cannot be written so. -/
def encodeLabel? (name : Text) : Option Text :=
  if name.all (· < 0x80) then some (Text.lowerAsciiAll name)
  else
    let label := Text.lower name
    if !labelFits label then none
    else
      let encoded := if label.all (· < 0x80) then label else asciiLabel label
      if encoded.length ≤ 63 then some encoded else none

end Bookmarks.Url.Idna
