import Bookmarks.Codec.Basic
import Bookmarks.Codec.CjkSets
/-!
The decoders of the double-byte encodings that keep no state: the EUC encodings of Japan,
China and Korea, Shift JIS and its variants, GBK and GB 18030, Big5 and its variants, the
code pages 932, 949 and 950, and Johab.

A byte below `0x80` stands for itself, and a lead byte takes one or more bytes after it that
name a character of a set. A sequence that names none is refused, mostly with its lead byte
alone, and the reading goes on after it.
-/
namespace Bookmarks.Codec

/-- What one step of a decoder reads. -/
inductive Step where
  /-- Code points, and the number of bytes they take. -/
  | read (points : List Nat) (width : Nat)
  /-- A run of bytes that cannot be read, and its length. -/
  | refuse (width : Nat)
  /-- The bytes end inside a sequence. -/
  | short
  /-- The decoder reached a state it cannot go on from. -/
  | broken

/-- One code point read from `width` bytes, or the lead byte refused. -/
def Step.ofOption (c : Option Nat) (width : Nat) : Step :=
  match c with
  | some c => .read [c] width
  | none => .refuse 1

/-- Reads bytes step by step onto `acc`, most recent first, the decoder's state carried
along. Each step takes at least one byte, so one more step than there are bytes suffices. -/
def runSteps {σ : Type} (step : σ → List Nat → Step × σ) : Nat → σ → List Nat → List Piece → List Piece
  | 0, _, _, acc => acc
  | _ + 1, _, [], acc => acc
  | fuel + 1, s, b :: bytes, acc =>
    match step s (b :: bytes) with
    | (.read cs width, s) => runSteps step fuel s ((b :: bytes).drop (max width 1)) (cs.reverse.map .point ++ acc)
    | (.refuse width, s) => runSteps step fuel s ((b :: bytes).drop (max width 1)) (.bad :: acc)
    | (.short, _) => .bad :: acc
    | (.broken, _) => .broken :: acc

/-- Reads bytes with a decoder that keeps no state. -/
def statelessPieces (step : List Nat → Step) (bytes : List Nat) : List Piece :=
  (runSteps (fun (_ : Unit) b => (step b, ())) (bytes.length + 1) () bytes []).reverse

/-- A step that needs a second byte after the lead byte `c`. -/
def withTrail (rest : List Nat) (f : Nat → Step) : Step :=
  match rest with
  | [] => .short
  | c2 :: _ => f c2

/-! ## China -/

/-- A step of EUC-CN: GB 2312 after ASCII. -/
def gb2312Step : List Nat → Step
  | [] => .short
  | c :: rest =>
    if c < 0x80 then .read [c] 1
    else withTrail rest fun c2 => Step.ofOption (gb2312.at? (c ^^^ 0x80) (c2 ^^^ 0x80)) 2

/-- A two-byte GBK character: three marks read apart, then GB 2312, then the additions. -/
def gbkCharacter (c c2 : Nat) : Option Nat :=
  if c == 0xA1 && c2 == 0xAA then some 0x2014
  else if c == 0xA8 && c2 == 0x44 then some 0x2015
  else if c == 0xA1 && c2 == 0xA4 then some 0xB7
  else (gb2312.at? (c ^^^ 0x80) (c2 ^^^ 0x80)).orElse fun _ => gbkExtension.at? c c2

/-- A step of GBK. -/
def gbkStep : List Nat → Step
  | [] => .short
  | c :: rest =>
    if c < 0x80 then .read [c] 1
    else withTrail rest fun c2 => Step.ofOption (gbkCharacter c c2) 2

/-- A four-byte GB 18030 sequence from its bytes, which fit the ranges of such sequences. -/
def gb18030Four (c c2 c3 c4 : Nat) : Step :=
  let a := c - 0x81
  let tail := (c2 - 0x30) * 1260 + (c3 - 0x81) * 10 + (c4 - 0x30)
  if a < 4 then
    let index := a * 12600 + tail
    if index < 39420 then .read [gb18030Bmp index] 4 else .refuse 1
  else if a ≥ 15 then
    let c := 0x10000 + (a - 15) * 12600 + tail
    if c ≤ 0x10FFFF then .read [c] 4 else .refuse 1
  else .refuse 1

/-- A step of GB 18030: a digit after the lead byte starts a four-byte sequence. -/
def gb18030Step : List Nat → Step
  | [] => .short
  | c :: rest =>
    if c < 0x80 then .read [c] 1
    else match rest with
      | [] => .short
      | c2 :: more =>
        if 0x30 ≤ c2 && c2 ≤ 0x39 then
          match more with
          | c3 :: c4 :: _ =>
            if c < 0x81 || c > 0xFE || c3 < 0x81 || c3 > 0xFE || c4 < 0x30 || c4 > 0x39 then .refuse 1
            else gb18030Four c c2 c3 c4
          | _ => .short
        else Step.ofOption ((gbkCharacter c c2).orElse fun _ => gb18030Extension.at? c c2) 2

/-! ## Taiwan and Hong Kong -/

/-- A step of Big5, or of code page 950 when `cp950`, whose changes come first. -/
def big5Step (cp950 : Bool) : List Nat → Step
  | [] => .short
  | c :: rest =>
    if c < 0x80 then .read [c] 1
    else withTrail rest fun c2 =>
      let changed := if cp950 then cp950Extension.at? c c2 else none
      Step.ofOption (changed.orElse fun _ => big5.at? c c2) 2

/-- A step of Big5-HKSCS: Big5 outside the rows HKSCS takes over, then the additions. -/
def big5hkscsStep : List Nat → Step
  | [] => .short
  | c :: rest =>
    if c < 0x80 then .read [c] 1
    else withTrail rest fun c2 =>
      let fromBig5 :=
        if 0xC6 > c || c > 0xC8 || (c < 0xC7 && c2 < 0xA1) then big5.at? c c2 else none
      match fromBig5 with
      | some u => .read [u] 2
      | none =>
        match withPairs hkscs hkscsPairs c c2 with
        | some cs => .read cs 2
        | none => .refuse 1

/-! ## Korea -/

/-- The bytes of the initial consonants of a make-up sequence, in the order of syllables. -/
def makeUpInitials : List Nat :=
  [0xA1, 0xA2, 0xA4, 0xA7, 0xA8, 0xA9, 0xB1, 0xB2, 0xB3, 0xB5, 0xB6, 0xB7, 0xB8, 0xB9, 0xBA,
    0xBB, 0xBC, 0xBD, 0xBE]

/-- The bytes of the final consonants of a make-up sequence, in the order of syllables from
the first final. -/
def makeUpFinals : List Nat :=
  [0xA1, 0xA2, 0xA3, 0xA4, 0xA5, 0xA6, 0xA7, 0xA9, 0xAA, 0xAB, 0xAC, 0xAD, 0xAE, 0xAF, 0xB0,
    0xB1, 0xB2, 0xB4, 0xB5, 0xB6, 0xB7, 0xB8, 0xBA, 0xBB, 0xBC, 0xBD, 0xBE]

/-- A Hangul syllable written as a make-up sequence of four jamo after `A4 D4`. -/
def makeUpSyllable : List Nat → Step
  | 0xA4 :: initial :: 0xA4 :: medial :: 0xA4 :: final :: _ =>
    let l := makeUpInitials.idxOf? initial
    let v := if 0xBF ≤ medial && medial ≤ 0xD3 then some (medial - 0xBF) else none
    let t := if final == 0xD4 then some 0 else (makeUpFinals.idxOf? final).map (· + 1)
    match l, v, t with
    | some l, some v, some t => .read [0xAC00 + l * 588 + v * 28 + t] 8
    | _, _, _ => .refuse 1
  | _ => .refuse 1

/-- A step of EUC-KR, or of code page 949 when `cp949`, whose additions come after KS X 1001. -/
def eucKrStep (cp949 : Bool) : List Nat → Step
  | [] => .short
  | c :: rest =>
    if c < 0x80 then .read [c] 1
    else match rest with
      | [] => .short
      | c2 :: more =>
        if !cp949 && c == 0xA4 && c2 == 0xD4 then
          if more.length < 6 then .short else makeUpSyllable more
        else
          let extra := if cp949 then cp949Extension.at? c c2 else none
          Step.ofOption ((ksx1001.at? (c ^^^ 0x80) (c2 ^^^ 0x80)).orElse fun _ => extra) 2

/-- A slot of a Johab syllable: not used, left empty, or the index of a jamo. -/
inductive Slot where
  | unused
  | fill
  | jamo (i : Nat)
  deriving DecidableEq

/-- The slot of five bits naming the initial consonant. -/
def johabInitial (k : Nat) : Slot :=
  if k == 1 then .fill else if 2 ≤ k && k ≤ 20 then .jamo (k - 2) else .unused

/-- The slot of five bits naming the vowel. -/
def johabMedial (k : Nat) : Slot :=
  if k == 2 then .fill
  else if 3 ≤ k && k ≤ 7 then .jamo (k - 3)
  else if 10 ≤ k && k ≤ 15 then .jamo (k - 5)
  else if 18 ≤ k && k ≤ 23 then .jamo (k - 7)
  else if 26 ≤ k && k ≤ 29 then .jamo (k - 9)
  else .unused

/-- The slot of five bits naming the final consonant. -/
def johabFinal (k : Nat) : Slot :=
  if k == 1 then .fill
  else if 2 ≤ k && k ≤ 17 then .jamo (k - 1)
  else if 19 ≤ k && k ≤ 29 then .jamo (k - 2)
  else .unused

/-- The compatibility jamo of the initial consonants. -/
def initialJamo : List Nat :=
  [0x3131, 0x3132, 0x3134, 0x3137, 0x3138, 0x3139, 0x3141, 0x3142, 0x3143, 0x3145, 0x3146,
    0x3147, 0x3148, 0x3149, 0x314A, 0x314B, 0x314C, 0x314D, 0x314E]

/-- The compatibility jamo of the final consonants, from the first. -/
def finalJamo : List Nat :=
  [0x3131, 0x3132, 0x3133, 0x3134, 0x3135, 0x3136, 0x3137, 0x3139, 0x313A, 0x313B, 0x313C,
    0x313D, 0x313E, 0x313F, 0x3140, 0x3141, 0x3142, 0x3144, 0x3145, 0x3146, 0x3147, 0x3148,
    0x314A, 0x314B, 0x314C, 0x314D, 0x314E]

/-- A Johab Hangul character from its three slots: a syllable, a lone jamo, or the ideographic
space when all three are empty. -/
def johabHangul (l v t : Slot) : Step :=
  match l, v, t with
  | .unused, _, _ | _, .unused, _ | _, _, .unused => .refuse 1
  | .fill, .fill, .fill => .read [0x3000] 2
  | .fill, .fill, .jamo k => .read [finalJamo.getD (k - 1) 0] 2
  | .fill, .jamo k, .fill => .read [0x314F + k] 2
  | .fill, .jamo _, .jamo _ => .refuse 1
  | .jamo i, .fill, .fill => .read [initialJamo.getD i 0] 2
  | .jamo _, .fill, .jamo _ => .refuse 1
  | .jamo i, .jamo k, .fill => .read [0xAC00 + i * 588 + k * 28] 2
  | .jamo i, .jamo k, .jamo j => .read [0xAC00 + i * 588 + k * 28 + j] 2

/-- A Johab symbol or ideograph: KS X 1001 outside its Hangul, at a row and column
computed from the two bytes. The lead byte `D8` would fall below the first row. -/
def johabSymbol (c c2 : Nat) : Step :=
  if c < 0xD9 || c == 0xDF || c > 0xF9 || c2 < 0x31 || (0x80 ≤ c2 && c2 < 0x91) ||
      c2 % 128 == 0x7F || (c == 0xDA && 0xA1 ≤ c2 && c2 ≤ 0xD3) then .refuse 1
  else
    let t1 := if c < 0xE0 then 2 * (c - 0xD9) else 2 * c - 0x197
    let t2 := if c2 < 0x91 then c2 - 0x31 else c2 - 0x43
    let row := t1 + (if t2 < 0x5E then 0 else 1) + 0x21
    let col := (if t2 < 0x5E then t2 else t2 - 0x5E) + 0x21
    Step.ofOption (ksx1001.at? row col) 2

/-- A step of Johab: below `D8` the two bytes hold three five-bit jamo slots. -/
def johabStep : List Nat → Step
  | [] => .short
  | c :: rest =>
    if c < 0x80 then .read [c] 1
    else withTrail rest fun c2 =>
      if c < 0xD8 then
        johabHangul (johabInitial ((c / 4) % 32)) (johabMedial ((c * 8 + c2 / 32) % 32))
          (johabFinal (c2 % 32))
      else johabSymbol c c2

/-! ## Japan -/

/-- Whether a trail byte of Shift JIS is in range. -/
def shiftTrailFits (c2 : Nat) : Bool := !(c2 < 0x40 || (0x7E < c2 && c2 < 0x80) || c2 > 0xFC)

/-- The row and column of JIS X 0208 that two Shift JIS bytes stand for. -/
def shiftRowCol (c c2 : Nat) : Nat × Nat :=
  let r := if c < 0xE0 then c - 0x81 else c - 0xC1
  let t := if c2 < 0x80 then c2 - 0x40 else c2 - 0x41
  (2 * r + (if t < 0x5E then 0 else 1) + 0x21, (if t < 0x5E then t else t - 0x5E) + 0x21)

/-- A half-width katakana byte. -/
def isHalfWidthKana (c : Nat) : Bool := 0xA1 ≤ c && c ≤ 0xDF

/-- A step of Shift JIS. -/
def shiftJisStep : List Nat → Step
  | [] => .short
  | c :: rest =>
    if c < 0x80 then .read [c] 1
    else if isHalfWidthKana c then .read [0xFEC0 + c] 1
    else if (0x81 ≤ c && c ≤ 0x9F) || (0xE0 ≤ c && c ≤ 0xEA) then
      withTrail rest fun c2 =>
        if !shiftTrailFits c2 then .refuse 1
        else
          let (row, col) := shiftRowCol c c2
          Step.ofOption (jisx0208.at? row col) 2
    else .refuse 1

/-- A step of code page 932: its changes first, then Shift JIS, then a private use area. -/
def cp932Step : List Nat → Step
  | [] => .short
  | c :: rest =>
    if c ≤ 0x80 then .read [c] 1
    else if c == 0xA0 then .read [0xF8F0] 1
    else if isHalfWidthKana c then .read [0xFEC0 + c] 1
    else if c ≥ 0xFD then .read [0xF8F1 - 0xFD + c] 1
    else withTrail rest fun c2 =>
      match cp932Extension.at? c c2 with
      | some u => .read [u] 2
      | none =>
        if (0x81 ≤ c && c ≤ 0x9F) || (0xE0 ≤ c && c ≤ 0xEA) then
          if !shiftTrailFits c2 then .refuse 1
          else
            let (row, col) := shiftRowCol c c2
            Step.ofOption (jisx0208.at? row col) 2
        else if 0xF0 ≤ c && c ≤ 0xF9 then
          if (0x40 ≤ c2 && c2 ≤ 0x7E) || (0x80 ≤ c2 && c2 ≤ 0xFC) then
            .read [0xE000 + 188 * (c - 0xF0) + (if c2 < 0x80 then c2 - 0x40 else c2 - 0x41)] 2
          else .refuse 1
        else .refuse 1

/-- The plane, row and column of JIS X 0213 that two Shift JIS 2004 bytes stand for. -/
def shiftPlane (c c2 : Nat) : Nat × Nat × Nat :=
  let r := if c < 0xE0 then c - 0x81 else c - 0xC1
  let t := if c2 < 0x80 then c2 - 0x40 else c2 - 0x41
  let r := 2 * r + (if t < 0x5E then 0 else 1)
  let col := (if t < 0x5E then t else t - 0x5E) + 0x21
  if r < 0x5E then (1, r + 0x21, col)
  else if r ≥ 0x67 then (2, r + 0x07, col)
  else if r ≥ 0x63 || r == 0x5F then (2, r - 0x37, col)
  else (2, r - 0x3D, col)

/-- A character of JIS X 0213 in an edition, by plane: the ten characters the edition of 2000
lacks are refused with both bytes. -/
def jisx0213Character (edition : Edition) (plane row col : Nat) : Step :=
  if plane == 1 then
    if edition == .y2000 && addedIn2004 row col then .refuse 2
    else match jisx0213PlaneOne row col with
      | some cs => .read cs 2
      | none => .refuse 1
  else Step.ofOption (jisx0213PlaneTwo edition row col) 2

/-- The JIS X 0201 Roman set: ASCII with the yen sign and the overline. -/
def jisRoman (c : Nat) : Nat := if c == 0x5C then 0xA5 else if c == 0x7E then 0x203E else c

/-- A step of Shift JIS 2004, or of its edition of 2000. -/
def shiftJis2004Step (edition : Edition) : List Nat → Step
  | [] => .short
  | c :: rest =>
    if c < 0x80 then .read [jisRoman c] 1
    else if isHalfWidthKana c then .read [0xFEC0 + c] 1
    else if (0x81 ≤ c && c ≤ 0x9F) || (0xE0 ≤ c && c ≤ 0xFC) then
      withTrail rest fun c2 =>
        if !shiftTrailFits c2 then .refuse 1
        else
          let (plane, row, col) := shiftPlane c c2
          jisx0213Character edition plane row col
    else .refuse 1

/-- A step of EUC-JP: half-width katakana after `8E`, JIS X 0212 after `8F`, JIS X 0208
otherwise. -/
def eucJpStep : List Nat → Step
  | [] => .short
  | c :: rest =>
    if c < 0x80 then .read [c] 1
    else if c == 0x8E then
      withTrail rest fun c2 => if isHalfWidthKana c2 then .read [0xFEC0 + c2] 2 else .refuse 1
    else if c == 0x8F then
      match rest with
      | c2 :: c3 :: _ => Step.ofOption (jisx0212.at? (c2 ^^^ 0x80) (c3 ^^^ 0x80)) 3
      | _ => .short
    else withTrail rest fun c2 => Step.ofOption (jisx0208.at? (c ^^^ 0x80) (c2 ^^^ 0x80)) 2

/-- A step of EUC-JIS-2004, or of its edition of 2000: JIS X 0213 plane 2, then JIS X 0212,
after `8F`; plane 1 otherwise, with the full-width reverse solidus and tilde read apart. -/
def eucJis2004Step (edition : Edition) : List Nat → Step
  | [] => .short
  | c :: rest =>
    if c < 0x80 then .read [c] 1
    else if c == 0x8E then
      withTrail rest fun c2 => if isHalfWidthKana c2 then .read [0xFEC0 + c2] 2 else .refuse 1
    else if c == 0x8F then
      match rest with
      | c2 :: c3 :: _ =>
        let row := c2 ^^^ 0x80
        let col := c3 ^^^ 0x80
        Step.ofOption ((jisx0213PlaneTwo edition row col).orElse fun _ => jisx0212.at? row col) 3
      | _ => .short
    else withTrail rest fun c2 =>
      let row := c ^^^ 0x80
      let col := c2 ^^^ 0x80
      if edition == .y2000 && addedIn2004 row col then .refuse 2
      else if row == 0x21 && col == 0x40 then .read [0xFF3C] 2
      else if row == 0x22 && col == 0x32 then .read [0xFF5E] 2
      else jisx0213Character edition 1 row col

end Bookmarks.Codec
