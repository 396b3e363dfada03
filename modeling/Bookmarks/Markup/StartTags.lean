import Bookmarks.Markup.Unescape
import Bookmarks.Text.Blank
import Bookmarks.Text.Case
import Bookmarks.Text.Quoted
/-!
The start tags of an HTML document, as a tolerant tokenizer finds them.

The tokenizer reads the document as far as it can, stopping at a construct the end cuts off,
and then once more from there, taking such a construct as text up to its next `>` (or `<`).
After `<` comes a start tag, an end tag, a comment, a processing instruction, a declaration,
or else the `<` is text. A start tag must end in `>` or `/>`; names are lowercased, quoted
values lose their quotes and have their references read. After a `script` or `style` start
tag, everything up to its end tag is text. A malformed `&#` stops the pass, and a marked
section `<![...` must name a known keyword, or the document is rejected.
-/
namespace Bookmarks.Markup

/-- A start tag: its lowercased name and its attributes in order, with a value or without
one. -/
structure StartTag where
  /-- The tag name, lowercased. -/
  name : Text
  /-- Attribute names, lowercased, with their values as read. -/
  attrs : List (Text × Option Text)
  deriving DecidableEq, Repr

/-- Why the tokenizer gives up on a document. -/
inductive Rejection where
  /-- A marked section or its keyword that the tokenizer cannot read. -/
  | assertion (message : String)
  /-- A decimal character reference too long to read, with its number of digits. -/
  | digitLimit (digits : Nat)
  deriving DecidableEq, Repr

/-- A document as an array of code points. -/
abbrev Doc := Array Nat

namespace Doc

/-- The end of the run of code points satisfying `p` that starts at `i`. -/
def runEnd (d : Doc) (p : Nat → Bool) (i : Nat) : Nat :=
  if h : i < d.size then if p d[i] then runEnd d p (i + 1) else i else i
termination_by d.size - i

/-- The first position from `i` on whose code point satisfies `p`. -/
def findFrom (d : Doc) (p : Nat → Bool) (i : Nat) : Option Nat :=
  if h : i < d.size then if p d[i] then some i else findFrom d p (i + 1) else none
termination_by d.size - i

/-- Whether the code point at `i` satisfies `p`. -/
def isAt (d : Doc) (i : Nat) (p : Nat → Bool) : Bool :=
  match d[i]? with
  | some c => p c
  | none => false

/-- Whether the text `t` stands at position `i`. -/
def hasAt (d : Doc) (i : Nat) (t : Text) : Bool := (d.extract i (i + t.length)).toList == t

/-- The code points from `a` up to but excluding `b`. -/
def slice (d : Doc) (a b : Nat) : Text := (d.extract a b).toList

/-- The end of the blanks from `i`. -/
def skipBlanks (d : Doc) (i : Nat) : Nat := d.runEnd Text.isBlank i

/-- The end of the blanks and slashes not followed by `>`, from `i`. -/
def skipGaps (d : Doc) (i : Nat) : Nat :=
  if h : i < d.size then
    if Text.isBlank d[i] || (d[i] = 0x2F && d[i + 1]? != some 0x3E) then skipGaps d (i + 1)
    else i
  else i
termination_by d.size - i

end Doc

open Doc

/-! ## Tags and attributes -/

/-- Code points that end a tag name: tab, line feed, carriage return, form feed, space, `/`,
`>` and NUL. -/
def endsTagName (c : Nat) : Bool :=
  c = 0x09 || c = 0x0A || c = 0x0D || c = 0x0C || c = 0x20 || c = 0x2F || c = 0x3E || c = 0

/-- Code points that may start an attribute name. -/
def startsAttrName (c : Nat) : Bool := !(Text.isBlank c || c = 0x2F || c = 0x3E)

/-- Code points that may continue an attribute name. -/
def continuesAttrName (c : Nat) : Bool := startsAttrName c && c ≠ 0x3D

/-- Code points after which an attribute name may start: quotes, blanks and `/`. -/
def beforeAttrName (c : Nat) : Bool := c = 0x22 || c = 0x27 || Text.isBlank c || c = 0x2F

/-- Whether a code point is a quote. -/
def isQuote (c : Nat) : Bool := c = 0x22 || c = 0x27

/-- The end of a value without quotes from `i`: up to `>` or a blank. -/
def bareEnd (d : Doc) (i : Nat) : Nat := d.runEnd (fun c => c ≠ 0x3E && !Text.isBlank c) i

/-- Where the value of an attribute whose name ends at `p` starts and stops: blanks, one or
more `=`, blanks and a value in quotes or without. A quote never closed gives up one blank,
else one `=`; with neither, there is no value. -/
def valueAfter (d : Doc) (p : Nat) : Option (Nat × Nat) :=
  let a := d.skipBlanks p
  let e := d.runEnd (· = 0x3D) a
  if e = a then none
  else
    let w := d.skipBlanks e
    match d[w]? with
    | none => some (w, w)
    | some q =>
      if isQuote q then
        match d.findFrom (· = q) (w + 1) with
        | some close => some (w, close + 1)
        | none =>
          if w > e then some (w - 1, w - 1)
          else if e - a ≥ 2 then some (e - 1, bareEnd d (e - 1))
          else none
      else some (w, bareEnd d w)

/-- An attribute that starts at `k`: where its name ends, where its value starts and stops,
and where the blanks and slashes after it end. -/
def attributeAt (d : Doc) (k : Nat) : Option (Nat × Option (Nat × Nat) × Nat) :=
  if k = 0 then none
  else if d.isAt (k - 1) beforeAttrName && d.isAt k startsAttrName then
    let r := d.runEnd continuesAttrName (k + 1)
    let value := valueAfter d r
    let stop := match value with
      | some (_, ve) => ve
      | none => r
    some (r, value, d.skipGaps stop)
  else none

/-- The end of the tag name of the start tag at `i`. -/
def nameEnd (d : Doc) (i : Nat) : Nat := d.runEnd (fun c => !endsTagName c) (i + 2)

/-- The end of the attributes of a start tag from `q`, as far as the tolerant grammar
reaches; each attribute takes at least one code point. -/
def attributesEnd (d : Doc) (q : Nat) : Nat → Nat
  | 0 => q
  | fuel + 1 =>
    if q > 0 && d.isAt (q - 1) beforeAttrName && d.isAt q startsAttrName then
      let r := d.runEnd continuesAttrName (q + 1)
      let r := match valueAfter d r with
        | some (_, ve) => d.skipBlanks ve
        | none => r
      attributesEnd d (d.skipGaps r) fuel
    else q

/-- How far the tolerant grammar of a start tag reaches from `i`. -/
def startTagReach (d : Doc) (i : Nat) : Nat :=
  let q := d.runEnd (fun c => Text.isBlank c || c = 0x2F) (nameEnd d i)
  d.skipBlanks (attributesEnd d q d.size)

/-- Where the start tag at `i` ends, or `none` when the document may still go on to
complete it. -/
def startTagEnd (d : Doc) (i : Nat) : Option Nat :=
  let j := startTagReach d i
  match d[j]? with
  | none => none
  | some c =>
    if c = 0x3E then some (j + 1)
    else if c = 0x2F then
      if d[j + 1]? == some 0x3E then some (j + 2) else none
    else if Text.isAlphaAscii c || c = 0x3D then none
    else if j > i then some j
    else some (i + 1)

/-- An attribute value as read: without its quotes and with its references read. -/
def readValue (raw : Text) : Except Rejection Text :=
  let quoted := match raw.head?, raw.getLast? with
    | some a, some b => isQuote a && a = b
    | _, _ => false
  let inner := if quoted then (raw.drop 1).dropLast else raw
  if inner.isEmpty then .ok inner
  else match unescape inner with
    | .ok t => .ok t
    | .error digits => .error (.digitLimit digits)

/-- The attributes of a start tag from `k` up to its end `stop`, and where reading them
ended. -/
def attributesUpTo (d : Doc) (stop : Nat) (k : Nat) :
    Nat → Except Rejection (List (Text × Option Text) × Nat)
  | 0 => .ok ([], k)
  | fuel + 1 =>
    if k < stop then
      match attributeAt d k with
      | none => .ok ([], k)
      | some (r, value, next) => do
        let name := Text.lower (d.slice k r)
        let read ← match value with
          | some (vs, ve) => (readValue (d.slice vs ve)).map some
          | none => pure none
        if next ≤ k then .ok ([(name, read)], next)
        else
          let (rest, last) ← attributesUpTo d stop next fuel
          .ok ((name, read) :: rest, last)
    else .ok ([], k)

/-- The start tag at `i`: where reading goes on, and the tag with whether it closes itself,
unless what was found is text; `none` when the document may still go on to complete it. -/
def startTagAt (d : Doc) (i : Nat) : Except Rejection (Option (Nat × Option (StartTag × Bool))) :=
  match startTagEnd d i with
  | none => .ok none
  | some stop => do
    let p := nameEnd d i
    let name := Text.lower (d.slice (i + 1) p)
    let (attrs, k) ← attributesUpTo d stop (d.skipGaps p) d.size
    let tail := Text.trim (d.slice k stop)
    if tail == [0x3E] then .ok (some (stop, some (⟨name, attrs⟩, false)))
    else if tail == [0x2F, 0x3E] then .ok (some (stop, some (⟨name, attrs⟩, true)))
    else .ok (some (stop, none))

/-! ## End tags, comments and declarations -/

/-- The name of a well-formed end tag at `i`: `</`, blanks, a letter and letters, digits,
`-`, `.`, `:` or `_`, blanks and `>`; lowercased. -/
def endTagName (d : Doc) (i : Nat) : Option Text :=
  let a := d.skipBlanks (i + 2)
  if d.isAt a Text.isAlphaAscii then
    let b := d.runEnd (fun c => Text.isAlnumAscii c || c = 0x2D || c = 0x2E || c = 0x3A || c = 0x5F)
      (a + 1)
    if d[d.skipBlanks b]? == some 0x3E then some (Text.lowerAsciiAll (d.slice a b)) else none
  else none

/-- Where `-` `-`, blanks and `>` first end, searching from `i`. -/
def commentCloseFrom (d : Doc) (i : Nat) : Option Nat :=
  if h : i < d.size then
    if d.hasAt i [0x2D, 0x2D] && d[d.skipBlanks (i + 2)]? == some 0x3E then
      some (d.skipBlanks (i + 2) + 1)
    else commentCloseFrom d (i + 1)
  else none
termination_by d.size - i

/-- Where `]`, blanks, then (when `twice`) `]` and blanks, then `>` first end, searching
from `i`. -/
def sectionCloseFrom (d : Doc) (twice : Bool) (i : Nat) : Option Nat :=
  if h : i < d.size then
    let after :=
      if d[i] = 0x5D then
        let j := d.skipBlanks (i + 1)
        if twice then
          if d[j]? == some 0x5D then
            let k := d.skipBlanks (j + 1)
            if d[k]? == some 0x3E then some (k + 1) else none
          else none
        else if d[j]? == some 0x3E then some (j + 1) else none
      else none
    match after with
    | some e => some e
    | none => sectionCloseFrom d twice (i + 1)
  else none
termination_by d.size - i

/-- The literal of a text (`Text.literal`), as the tokenizer's messages quote it. -/
def quoted (t : Text) : String := (Text.literal t).toString

/-- A name at `i` in a declaration that starts at `start`: a letter, then letters, digits,
`-`, `_` and `.`, then blanks; the lowercased name and where it ends, or `none` at the end of
the document. -/
def scanName (d : Doc) (i start : Nat) : Except Rejection (Option (Text × Nat)) :=
  if i = d.size then .ok none
  else if d.isAt i Text.isAlphaAscii then
    let b := d.runEnd (fun c => Text.isAlnumAscii c || c = 0x2D || c = 0x5F || c = 0x2E) (i + 1)
    let e := d.skipBlanks b
    if e = d.size then .ok none
    else .ok (some (Text.lowerAsciiAll (d.slice i b), e))
  else .error (.assertion ("expected name token at " ++ quoted (d.slice start (start + 20))))

/-- Where the marked section at `i` ends; the keyword must be known. -/
def markedSectionEnd (d : Doc) (i : Nat) : Except Rejection (Option Nat) := do
  match ← scanName d (i + 3) i with
  | none => .ok none
  | some (name, j) =>
    let is (s : String) : Bool := name == Text.ofString s
    if is "temp" || is "cdata" || is "ignore" || is "include" || is "rcdata" then
      .ok (sectionCloseFrom d true (i + 3))
    else if is "if" || is "else" || is "endif" then .ok (sectionCloseFrom d false (i + 3))
    else .error (.assertion ("unknown status keyword " ++ quoted (d.slice (i + 3) j) ++
      " in marked section"))

/-- One past the first `>` from `i`. -/
def pastGreater (d : Doc) (i : Nat) : Option Nat := (d.findFrom (· = 0x3E) i).map (· + 1)

/-- Where the declaration at `i` (after `<!`) ends. -/
def declarationEnd (d : Doc) (i : Nat) : Except Rejection (Option Nat) :=
  if d.hasAt i (Text.ofString "<![") then markedSectionEnd d i
  else if Text.lower (d.slice i (i + 9)) == Text.ofString "<!doctype" then .ok (pastGreater d (i + 9))
  else .ok (pastGreater d (i + 2))

/-- Where the end tag at `i` ends, and whether it closes the element whose text is being
read. -/
def endTagEnd (d : Doc) (i : Nat) (cdata : Option Text) : Option (Nat × Option Text) :=
  match pastGreater d (i + 1) with
  | none => none
  | some stop =>
    match cdata, endTagName d i with
    | some open_, some name => some (stop, if name == open_ then none else cdata)
    | some _, none => some (stop, cdata)
    | none, _ => some (stop, none)

/-- The first end tag from `i` that may close the element `name` whose text is being read:
`</`, blanks, the name in any case, blanks and `>`. -/
def closingFrom (d : Doc) (name : Text) (i : Nat) : Option Nat :=
  if h : i < d.size then
    if d[i] = 0x3C && d[i + 1]? == some 0x2F &&
        Text.lowerAsciiAll (d.slice (d.skipBlanks (i + 2)) (d.skipBlanks (i + 2) + name.length)) == name &&
        d[d.skipBlanks (d.skipBlanks (i + 2) + name.length)]? == some 0x3E then some i
    else closingFrom d name (i + 1)
  else none
termination_by d.size - i

/-! ## References in text -/

/-- Where a numeric reference at `i` ends (after the code point that ends its digits), or
`none` when its digits are not ended by a code point that is no hexadecimal digit; with the
number of its decimal digits. -/
def numericEnd (d : Doc) (i : Nat) : Option (Nat × Nat) :=
  match d[i + 2]? with
  | none => none
  | some c =>
    if Text.isDigit c then
      let e := d.runEnd Text.isDigit (i + 2)
      if d.isAt e (fun t => !Text.isHexDigit t) then some (e + 1, e - (i + 2)) else none
    else if c = 0x78 || c = 0x58 then
      let e := d.runEnd Text.isHexDigit (i + 3)
      if e > i + 3 && d.isAt e (fun t => !Text.isHexDigit t) then some (e + 1, 0) else none
    else none

/-- The last position from `a` up to but excluding `b` whose code point satisfies `p`. -/
def lastBetween (d : Doc) (p : Nat → Bool) (a b : Nat) : Option Nat :=
  ((List.range (b - a)).reverse.map (a + ·)).find? fun k => d.isAt k p

/-- Where a named reference at `i` ends (after the code point that ends its name). -/
def namedEnd (d : Doc) (i : Nat) : Option Nat :=
  if d.isAt (i + 1) Text.isAlphaAscii then
    let nameChar (c : Nat) : Bool := Text.isAlnumAscii c || c = 0x2D || c = 0x2E
    let e := d.runEnd nameChar (i + 2)
    if e < d.size then some (e + 1)
    else (lastBetween d (fun c => c = 0x2D || c = 0x2E) (i + 2) e).map (· + 1)
  else none

/-! ## The passes -/

/-- Where a pass stopped, whether it is inside the text of an element, and the start tags
found so far (last first). -/
structure Pass where
  stop : Nat
  cdata : Option Text
  tags : List StartTag
  deriving Repr

/-- Where reading goes on after a construct at `i` that the end of the document cut off:
one past the next `>`, else at the next `<`, else after the `<`. -/
def resumeAfter (d : Doc) (i : Nat) : Nat :=
  match pastGreater d (i + 1) with
  | some k => k
  | none => (d.findFrom (· = 0x3C) (i + 1)).getD (i + 1)

/-- One pass of the tokenizer from `i`; `final` says that nothing follows the document. -/
def pass (d : Doc) (final : Bool) : Nat → Nat → Option Text → List StartTag → Except Rejection Pass
  | 0, i, cdata, tags => .ok ⟨i, cdata, tags⟩
  | fuel + 1, i, cdata, tags =>
    let stopHere (j : Nat) : Except Rejection Pass := .ok ⟨j, cdata, tags⟩
    let cutOff (j : Nat) : Except Rejection Pass :=
      if final then pass d final fuel (resumeAfter d j) cdata tags else stopHere j
    if i ≥ d.size then stopHere i
    else
      let next := match cdata with
        | some name => closingFrom d name i
        | none => some ((d.findFrom (fun c => c = 0x3C || c = 0x26) i).getD d.size)
      match next with
      | none => stopHere i
      | some j =>
        if j ≥ d.size then stopHere j
        else if d.isAt j (· = 0x3C) then
          if d.isAt (j + 1) Text.isAlphaAscii then do
            match ← startTagAt d j with
            | none => cutOff j
            | some (k, none) => pass d final fuel k cdata tags
            | some (k, some (tag, closes)) =>
              let cdata :=
                if !closes && (tag.name == Text.ofString "script" || tag.name == Text.ofString "style")
                then some tag.name else cdata
              pass d final fuel k cdata (tag :: tags)
          else if d.hasAt j [0x3C, 0x2F] then
            match endTagEnd d j cdata with
            | none => cutOff j
            | some (k, cdata) => pass d final fuel k cdata tags
          else if d.hasAt j (Text.ofString "<!--") then
            match commentCloseFrom d (j + 4) with
            | none => cutOff j
            | some k => pass d final fuel k cdata tags
          else if d.hasAt j [0x3C, 0x3F] then
            match pastGreater d (j + 2) with
            | none => cutOff j
            | some k => pass d final fuel k cdata tags
          else if d.hasAt j [0x3C, 0x21] then do
            match ← declarationEnd d j with
            | none => cutOff j
            | some k => pass d final fuel k cdata tags
          else if j + 1 < d.size then pass d final fuel (j + 1) cdata tags
          else stopHere j
        else if d.hasAt j [0x26, 0x23] then
          match numericEnd d j with
          | some (m, digits) =>
            if digits > decimalDigitLimit then .error (.digitLimit digits)
            else pass d final fuel (if d.isAt (m - 1) (· = 0x3B) then m else m - 1) cdata tags
          | none =>
            if (d.findFrom (· = 0x3B) j).isSome then stopHere (j + 2) else stopHere j
        else
          match namedEnd d j with
          | some m => pass d final fuel (if d.isAt (m - 1) (· = 0x3B) then m else m - 1) cdata tags
          | none =>
            if d.isAt (j + 1) (fun c => Text.isAlphaAscii c || c = 0x23) then
              if final && j + 2 = d.size then stopHere (j + 1) else stopHere j
            else if j + 1 < d.size then pass d final fuel (j + 1) cdata tags
            else stopHere j

/-- The start tags of a document, in the order they stand in it. -/
def startTags (text : Text) : Except Rejection (List StartTag) := do
  let d : Doc := text.toArray
  let first ← pass d false (d.size + 1) 0 none []
  let second ← pass d true (d.size + 1) first.stop first.cdata first.tags
  pure second.tags.reverse

end Bookmarks.Markup
