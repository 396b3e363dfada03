import Bookmarks.Charset.Chars
import Bookmarks.Number.Arith
/-!
How messy a decoded text looks. Nine detectors read the text one code point at a time, a line
feed added at the end, and each keeps a ratio; the mess is the sum of the ratios, in a fixed
order, rounded to three places.

The sum is taken every 32 code points (64 from 512 on, 128 beyond 1024) and at the end, and
reading stops as soon as it reaches the threshold.
-/
namespace Bookmarks.Charset

/-- Zero. -/
def zero : Binary64 := Binary64.zero false

/-- The ASCII code points that are common in markup and never count against a text: `<`, `>`,
`=`, `:`, `/`, `&`, `;`, braces, square brackets, `,`, `|`, `"`, `-` and parentheses. -/
def isSafeAscii (c : Nat) : Bool :=
  [0x3C, 0x3E, 0x3D, 0x3A, 0x2F, 0x26, 0x3B, 0x7B, 0x7D, 0x5B, 0x5D, 0x2C, 0x7C, 0x22, 0x2D,
    0x28, 0x29].contains c

/-- The ASCII symbols that may stand inside a word without making it bad: `<`, `>`, `-`, `=`,
`~`, `|` and `_`. -/
def isWordSymbol (c : Nat) : Bool := [0x3C, 0x3E, 0x2D, 0x3D, 0x7E, 0x7C, 0x5F].contains c

/-! ## The detectors -/

/-- Punctuation and symbols among printable code points, each unlike the one before. -/
structure Punctuation where
  count : Nat := 0
  punctuation : Nat := 0
  symbols : Nat := 0
  last : Option Nat := none

/-- Reads one code point. -/
def Punctuation.feed (s : Punctuation) (g : Glyph) : Punctuation :=
  if !g.isPrintable then s
  else
    let counted := some g.code != s.last && !isSafeAscii g.code
    let (p, sym) :=
      if !counted then (s.punctuation, s.symbols)
      else if g.isPunctuation then (s.punctuation + 1, s.symbols)
      else if !g.isDigit && g.isSymbol && !g.isEmoticon then (s.punctuation, s.symbols + 2)
      else (s.punctuation, s.symbols)
    { count := s.count + 1, punctuation := p, symbols := sym, last := some g.code }

/-- The share of punctuation and symbols (a symbol counting twice), when at least 0.3. -/
def Punctuation.ratio (s : Punctuation) : Binary64 :=
  if s.count == 0 then zero
  else
    let r := Binary64.ratio (s.punctuation + s.symbols) s.count
    if Binary64.le (Binary64.decimal 3 1) r then r else zero

/-- Accented letters among letters. -/
structure Accents where
  count : Nat := 0
  accented : Nat := 0

/-- Reads one code point. -/
def Accents.feed (s : Accents) (g : Glyph) : Accents :=
  if !g.isAlpha then s
  else { count := s.count + 1, accented := s.accented + (if g.isAccented then 1 else 0) }

/-- The share of accented letters, from eight letters on, when at least 0.35. -/
def Accents.ratio (s : Accents) : Binary64 :=
  if s.count < 8 then zero
  else
    let r := Binary64.ratio s.accented s.count
    if Binary64.le (Binary64.decimal 35 2) r then r else zero

/-- Unprintable code points. -/
structure Unprintable where
  count : Nat := 0
  unprintable : Nat := 0

/-- Reads one code point. -/
def Unprintable.feed (s : Unprintable) (g : Glyph) : Unprintable :=
  { count := s.count + 1, unprintable := s.unprintable + (if g.isUnprintable then 1 else 0) }

/-- Eight times the share of unprintable code points. -/
def Unprintable.ratio (s : Unprintable) : Binary64 :=
  if s.count == 0 then zero else Binary64.ratio (8 * s.unprintable) s.count

/-- Accented Latin letters next to each other. -/
structure DoubleAccents where
  count : Nat := 0
  successive : Nat := 0
  last : Option Glyph := none

/-- Reads one code point. -/
def DoubleAccents.feed (s : DoubleAccents) (g : Glyph) : DoubleAccents :=
  if !(g.isAlpha && g.isLatin) then s
  else
    let found := match s.last with
      | some l =>
        if g.isAccented && l.isAccented then
          (if g.isUpper && l.isUpper then 1 else 0) + (if g.accentBase == l.accentBase then 1 else 0)
        else 0
      | none => 0
    { count := s.count + 1, successive := s.successive + found, last := some g }

/-- Twice the share of such pairs among Latin letters. -/
def DoubleAccents.ratio (s : DoubleAccents) : Binary64 :=
  if s.count == 0 then zero else Binary64.ratio (2 * s.successive) s.count

/-- Printable code points from blocks that do not go together. -/
structure Ranges where
  count : Nat := 0
  suspicious : Nat := 0
  last : Option Glyph := none

/-- Reads one code point. -/
def Ranges.feed (s : Ranges) (g : Glyph) : Ranges :=
  if !g.isPrintable then s
  else
    let s := { s with count := s.count + 1 }
    if g.isSpace || g.isPunctuation || isSafeAscii g.code then { s with last := none }
    else
      match s.last with
      | none => { s with last := some g }
      | some l =>
        { s with
          suspicious := s.suspicious + (if suspiciousPair l.block g.block then 1 else 0)
          last := some g }

/-- Twice the share of suspicious neighbours, beyond thirteen code points. -/
def Ranges.ratio (s : Ranges) : Binary64 :=
  if s.count ≤ 13 then zero else Binary64.ratio (2 * s.suspicious) s.count

/-- Words that look wrong. The word being read is kept by its length, its last code point,
whether all of it is uppercase, how many of it are and how many are accented. -/
structure Words where
  words : Nat := 0
  badWords : Nat := 0
  foreignLong : Nat := 0
  isBad : Bool := false
  foreignWatch : Bool := false
  chars : Nat := 0
  badChars : Nat := 0
  length : Nat := 0
  last : Option Glyph := none
  allUpper : Bool := true
  uppers : Nat := 0
  accents : Nat := 0

/-- Adds a code point to the word being read. -/
def Words.push (s : Words) (g : Glyph) : Words :=
  { s with
    length := s.length + 1
    last := some g
    allUpper := s.allUpper && g.isUpper
    uppers := s.uppers + (if g.isUpper then 1 else 0) }

/-- Ends the word being read. -/
def Words.close (s : Words) : Words :=
  let len := s.length
  let last := s.last.getD default
  let (isBad, foreign) :=
    if len < 4 then (s.isBad, s.foreignLong)
    else
      let isBad := s.isBad || Binary64.lt (Binary64.decimal 34 2) (Binary64.ratio s.accents len)
      if last.isAccented && last.isUpper && !s.allUpper then (true, s.foreignLong + 1)
      else (isBad, s.foreignLong)
  let camel := s.uppers > 0 && Binary64.le (Binary64.ratio s.uppers len) (Binary64.decimal 3 1)
  let (isBad, foreign) :=
    if len ≥ 24 && s.foreignWatch && !camel then (true, foreign + 1) else (isBad, foreign)
  { s with
    words := s.words + 1
    chars := s.chars + len
    badWords := s.badWords + (if isBad then 1 else 0)
    badChars := s.badChars + (if isBad then len else 0)
    foreignLong := foreign
    isBad := false
    foreignWatch := false
    length := 0
    last := none
    allUpper := true
    uppers := 0
    accents := 0 }

/-- Reads one code point. -/
def Words.feed (s : Words) (g : Glyph) : Words :=
  if g.isAlpha then
    let s := s.push g
    let watch := s.foreignWatch ||
      ((!g.isLatin || g.isAccented) && !g.isCjk && !g.isHangul && !g.isKatakana &&
        !g.isHiragana && !g.isThai)
    { s with
      accents := s.accents + (if g.isAccented then 1 else 0)
      foreignWatch := watch }
  else if s.length == 0 then s
  else if g.isSpace || g.isPunctuation || g.isSeparator then s.close
  else if !isWordSymbol g.code && !g.isDigit && g.isSymbol then
    { s.push g with isBad := true }
  else s

/-- The share of letters in bad words, once there are more than ten words or a long foreign
one. -/
def Words.ratio (s : Words) : Binary64 :=
  if s.words ≤ 10 && s.foreignLong == 0 then zero else Binary64.ratio s.badChars s.chars

/-- The two CJK code points that only a badly cut text holds, U+4E04 and U+4E05. -/
structure CjkStops where
  wrong : Nat := 0
  cjk : Nat := 0

/-- Reads one code point. -/
def CjkStops.feed (s : CjkStops) (g : Glyph) : CjkStops :=
  if g.code == 0x4E05 || g.code == 0x4E04 then { s with wrong := s.wrong + 1 }
  else if g.isCjk then { s with cjk := s.cjk + 1 }
  else s

/-- Their share among CJK code points, from sixteen of these on. -/
def CjkStops.ratio (s : CjkStops) : Binary64 :=
  if s.cjk < 16 then zero else Binary64.ratio s.wrong s.cjk

/-- Case changing back and forth within runs of cased letters. -/
structure Cases where
  buf : Bool := false
  since : Nat := 0
  run : Nat := 0
  final : Nat := 0
  count : Nat := 0
  last : Option Glyph := none
  asciiOnly : Bool := true

/-- Reads one code point. -/
def Cases.feed (s : Cases) (g : Glyph) : Cases :=
  let concerned := g.isAlpha && g.isCaseVariable
  if !concerned && s.since > 0 then
    { buf := false
      since := 0
      run := 0
      final := s.final + (if s.since ≤ 64 && !g.isDigit && !s.asciiOnly then s.run else 0)
      count := s.count + 1
      last := none
      asciiOnly := true }
  else
    let asciiOnly := s.asciiOnly && g.isAscii
    let (buf, run) := match s.last with
      | some l =>
        if (g.isUpper && l.isLower) || (g.isLower && l.isUpper) then
          if s.buf then (false, s.run + 2) else (true, s.run)
        else (false, s.run)
      | none => (s.buf, s.run)
    { buf := buf, since := s.since + 1, run := run, final := s.final, count := s.count + 1,
      last := some g, asciiOnly := asciiOnly }

/-- The share of such changes. -/
def Cases.ratio (s : Cases) : Binary64 :=
  if s.count == 0 then zero else Binary64.ratio s.final s.count

/-- Arabic isolated forms among Arabic code points. -/
structure Isolated where
  count : Nat := 0
  isolated : Nat := 0

/-- Reads one code point. -/
def Isolated.feed (s : Isolated) (g : Glyph) : Isolated :=
  if !g.isArabic then s
  else { count := s.count + 1, isolated := s.isolated + (if g.isArabicIsolated then 1 else 0) }

/-- Their share, from eight Arabic code points on. -/
def Isolated.ratio (s : Isolated) : Binary64 :=
  if s.count < 8 then zero else Binary64.ratio s.isolated s.count

/-! ## The mess -/

/-- The nine detectors. -/
structure Detectors where
  punctuation : Punctuation := {}
  accents : Accents := {}
  unprintable : Unprintable := {}
  doubleAccents : DoubleAccents := {}
  ranges : Ranges := {}
  words : Words := {}
  cjkStops : CjkStops := {}
  cases : Cases := {}
  isolated : Isolated := {}

/-- Every detector reads one code point. -/
def Detectors.feed (d : Detectors) (g : Glyph) : Detectors :=
  { punctuation := d.punctuation.feed g
    accents := d.accents.feed g
    unprintable := d.unprintable.feed g
    doubleAccents := d.doubleAccents.feed g
    ranges := d.ranges.feed g
    words := d.words.feed g
    cjkStops := d.cjkStops.feed g
    cases := d.cases.feed g
    isolated := d.isolated.feed g }

/-- The sum of the detectors' ratios, in their order. -/
def Detectors.total (d : Detectors) : Binary64 :=
  Binary64.sum [d.punctuation.ratio, d.accents.ratio, d.unprintable.ratio,
    d.doubleAccents.ratio, d.ranges.ratio, d.words.ratio, d.cjkStops.ratio, d.cases.ratio,
    d.isolated.ratio]

/-- Reads glyphs from index `i` of a text of `length` code points, taking the sum every
`every` code points and at the last; stops once the sum reaches `threshold`. -/
def messFrom (threshold : Binary64) (length every : Nat) :
    List Glyph → Nat → Detectors → Binary64 → Binary64
  | [], _, _, mean => mean
  | g :: rest, i, d, mean =>
    let d := d.feed g
    if (i > 0 && i % every == 0) || i + 1 == length then
      let mean := d.total
      if Binary64.le threshold mean then mean else messFrom threshold length every rest (i + 1) d mean
    else messFrom threshold length every rest (i + 1) d mean

/-- The mess of a decoded text, rounded to three places. -/
def messRatio (threshold : Binary64) (text : Text) : Binary64 :=
  let length := text.length + 1
  let every := if length < 512 then 32 else if length ≤ 1024 then 64 else 128
  Binary64.roundDigits (messFrom threshold length every ((text ++ [0x0A]).map glyphOf) 0 {} zero) 3

end Bookmarks.Charset
