import Bookmarks.Codec.Registry
import Bookmarks.Charset.Detect
import Bookmarks.Text.Case
/-!
Reading the bytes of a fetched page as text, the way the page's character set is guessed.

The encodings tried, each once, are the one a byte order mark names, the one the page
declares, the one guessed from the bytes, UTF-8 and Windows-1252; the first that reads every
byte wins. When none does, the first is read again with U+FFFD for what it cannot read.
-/
namespace Bookmarks.Markup

/-- The character set that a guessed name is read with: the name itself when known, else the
name without hyphens, else with hyphens made underscores. Two names are read as others. -/
def codecFor (name : Text) : Option String :=
  let name :=
    if name == Text.ofString "macintosh" then Text.ofString "mac-roman"
    else if name == Text.ofString "x-sjis" then Text.ofString "shift-jis" else name
  (Codec.lookup? name).orElse fun _ =>
    (Codec.lookup? (name.filter (· != 0x2D))).orElse fun _ =>
      Codec.lookup? (name.map fun c => if c = 0x2D then 0x5F else c)

/-- Whether bytes start with the given ones. -/
def bytesStartWith (bytes pre : List Nat) : Bool := pre.isPrefixOf bytes

/-! ## Guessing -/

/-- The encoding a byte order mark names, and the bytes after the mark. -/
def byteOrderMark (body : List Nat) : Option Text × List Nat :=
  if body.length ≥ 4 && bytesStartWith body [0xFE, 0xFF] then (some (Text.ofString "utf-16be"), body.drop 2)
  else if body.length ≥ 4 && bytesStartWith body [0xFF, 0xFE] then (some (Text.ofString "utf-16le"), body.drop 2)
  else if bytesStartWith body [0xEF, 0xBB, 0xBF] then (some (Text.ofString "utf-8"), body.drop 3)
  else if bytesStartWith body [0, 0, 0xFE, 0xFF] then (some (Text.ofString "utf-32be"), body.drop 4)
  else (none, body)

/-- ASCII blanks as byte patterns read them: space, tab, line feed, vertical tab, form feed
and carriage return. -/
def isByteBlank (b : Nat) : Bool := b = 0x20 || (0x09 ≤ b && b ≤ 0x0D)

/-- Whether the ASCII word `w` stands at position `i`, in any case. -/
def wordAt (d : Array Nat) (i : Nat) (w : String) : Bool :=
  (d.extract i (i + w.length)).toList.map Text.lowerAscii == Text.ofString w

/-- The end of the ASCII blanks from `i`. -/
def skipByteBlanks (d : Array Nat) (i : Nat) : Nat :=
  if h : i < d.size then if isByteBlank d[i] then skipByteBlanks d (i + 1) else i else i
termination_by d.size - i

/-- The encoding named by an XML declaration at the start of the first `limit` bytes:
blanks, `<?`, then on the same line `encoding=` and a quote, the name, a quote, and a later
`?>`; the last such `encoding=` on the line wins. -/
def xmlDeclared (d : Array Nat) : Option (List Nat) :=
  let d := d.extract 0 1024
  let s := skipByteBlanks d 0
  if !(d[s]? == some 0x3C && d[s + 1]? == some 0x3F) then none
  else
    let lineEnd := ((List.range (d.size - (s + 2))).map (· + (s + 2))).find? (fun k => d[k]? == some 0x0A)
    let lineEnd := lineEnd.getD d.size
    let closes := ((List.range (lineEnd - (s + 2))).map (· + (s + 2))).filter fun k =>
      k + 1 < lineEnd && d[k]? == some 0x3F && d[k + 1]? == some 0x3E
    let lastClose := closes.getLast?
    let isQuote (b : Nat) : Bool := b = 0x22 || b = 0x27
    let starts := ((List.range (lineEnd - (s + 2))).map (· + (s + 2))).reverse.filter fun a =>
      wordAt d a "encoding=" && a + 9 < lineEnd && isQuote (d.getD (a + 9) 0)
    starts.findSome? fun a =>
      let quote := ((List.range (lineEnd - (a + 10))).map (· + (a + 10))).find? fun b => isQuote (d.getD b 0)
      match quote, lastClose with
      | some b, some c => if b + 1 ≤ c then some (d.extract (a + 10) b).toList else none
      | _, _ => none

/-- The rest of a `<meta ... charset=` pattern from `q`, where `charset` stands: the name
after `=` and an optional quote, up to a space, `/`, `;`, a quote or `>`. -/
def charsetAt (d : Array Nat) (q : Nat) : Option (List Nat) :=
  if !wordAt d q "charset" then none
  else
    let e := skipByteBlanks d (q + 7)
    if d[e]? != some 0x3D then none
    else
      let w := skipByteBlanks d (e + 1)
      let quoted := d[w]? == some 0x22 || d[w]? == some 0x27
      let g := if quoted then w + 1 else w
      let ends (b : Nat) : Bool := b = 0x20 || b = 0x2F || b = 0x3B || b = 0x27 || b = 0x22 || b = 0x3E
      match ((List.range (d.size - g)).map (· + g)).find? (fun k => ends (d.getD k 0)) with
      | some t => some (d.extract g t).toList
      | none =>
        if quoted || (d.extract (e + 1) w).toList.contains 0x20 then some [] else none

/-- The encoding named by the first `<meta ... charset=...>` within the first `limit` bytes;
of several `charset` in one tag, the last that fits wins. -/
def htmlDeclared (d : Array Nat) (limit : Nat) : Option (List Nat) :=
  let d := d.extract 0 limit
  ((List.range d.size).filter fun s => d[s]? == some 0x3C).findSome? fun s =>
    let t := skipByteBlanks d (s + 1)
    if !wordAt d t "meta" then none
    else
      let m := t + 4
      let stop := (((List.range (d.size - m)).map (· + m)).find? fun k => d[k]? == some 0x3E).getD d.size
      ((List.range (stop - (m + 1))).map (· + (m + 1))).reverse.findSome? fun q => charsetAt d q

/-- The encoding a page declares near its start, lowercased; `none` when it declares none
or an empty one. -/
def declaredCharset (data : List Nat) : Option Text :=
  let d := data.toArray
  let found := match xmlDeclared d with
    | some g => some g
    | none => htmlDeclared d (max 2048 (d.size / 20))
  match found with
  | some g =>
    let name := Text.lower (g.map fun b => if b < 0x80 then b else 0xFFFD)
    if name.isEmpty then none else some name
  | none => none

/-- The names to try, in order, each once in any case. -/
def encodingsToTry (guesses : List (Option Text)) : List Text :=
  guesses.foldl (fun acc g =>
    match g with
    | some n => if acc.any (fun m => Text.lower m == Text.lower n) then acc else acc ++ [n]
    | none => acc) []

/-- The text of a fetched page. The character set guessed from the bytes is only worked out
when neither the mark nor the declaration reads them; when the decoder of a set tried in the
guessing breaks down, the error names that set. -/
def decodePage (body : List Nat) : Except String Text := do
  let (marked, data) := byteOrderMark body
  let declared := declaredCharset data
  let attempt (errors : Codec.Errors) (name : Text) : Option Text :=
    (codecFor name).bind fun codec => Codec.decode codec errors data
  let first := encodingsToTry [marked, declared]
  match first.findSome? (attempt .strict) with
  | some t => pure t
  | none =>
    let guessed ← Charset.guess data
    let names := encodingsToTry [marked, declared, guessed.map Text.ofString,
      some (Text.ofString "utf-8"), some (Text.ofString "windows-1252")]
    match (names.drop first.length).findSome? (attempt .strict) with
    | some t => pure t
    | none => pure (((names.filter (· != Text.ofString "ascii")).findSome? (attempt .replace)).getD [])

end Bookmarks.Markup
