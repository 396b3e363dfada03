import Bookmarks.Codec.DoubleByte
/-!
The decoders that keep a state between bytes: HZ, and the ISO-2022 encodings of Japan and
Korea.

HZ switches between ASCII and GB 2312 with `~{` and `~}`. An ISO-2022 encoding holds up to
three graphic sets, G0 to G2, put in place by escape sequences; an escape sequence the
encoding does not know refuses its bytes, and so does a byte beyond ASCII.
-/
namespace Bookmarks.Codec

/-- A graphic set an ISO-2022 encoding can hold. -/
inductive Graphic where
  | ascii
  | latin1
  | greek
  | jisRoman
  | jisKana
  | jisx0208
  | jisx0208Old
  | jisx0212
  | ksx1001
  | gb2312
  | jisx0213One (edition : Edition)
  | jisx0213Two
  deriving DecidableEq

/-- The final byte that names a set in an escape sequence, with `0x80` added for the sets of
two bytes. -/
def Graphic.mark : Graphic → Nat
  | .ascii => 0x42
  | .latin1 => 0x41
  | .greek => 0x46
  | .jisRoman => 0x4A
  | .jisKana => 0x49
  | .jisx0208 => 0xC2
  | .jisx0208Old => 0xC0
  | .jisx0212 => 0xC4
  | .ksx1001 => 0xC3
  | .gb2312 => 0xC1
  | .jisx0213One .y2000 => 0xCF
  | .jisx0213One .y2004 => 0xD1
  | .jisx0213Two => 0xD0

/-- The number of bytes a character of the set takes. -/
def Graphic.width (g : Graphic) : Nat := if g.mark ≥ 0x80 then 2 else 1

/-- The code points of a character of the set, from its bytes. The Latin-1 and Greek sets
hold no characters in G0 or G1. -/
def Graphic.read (g : Graphic) (first second : Nat) : Option (List Nat) :=
  let one (c : Option Nat) : Option (List Nat) := c.map fun c => [c]
  match g with
  | .ascii => some [first]
  | .latin1 | .greek => none
  | .jisRoman => some [Codec.jisRoman first]
  | .jisKana =>
    let c := first ^^^ 0x80
    if isHalfWidthKana c then some [0xFEC0 + c] else none
  | .jisx0208 | .jisx0208Old =>
    if first == 0x21 && second == 0x40 then some [0xFF3C] else one (Codec.jisx0208.at? first second)
  | .jisx0212 => one (Codec.jisx0212.at? first second)
  | .ksx1001 => one (Codec.ksx1001.at? first second)
  | .gb2312 => one (Codec.gb2312.at? first second)
  | .jisx0213One edition =>
    if edition == .y2000 && addedIn2004 first second then none
    else if first == 0x21 && second == 0x40 then some [0xFF3C]
    else jisx0213PlaneOne first second
  | .jisx0213Two => one (jisx0213PlaneTwo .y2004 first second)

/-- An ISO-2022 encoding: the sets it can hold, whether `SO` and `SI` shift, whether it uses
G2, and whether it reads the `ESC & @` prefix of JIS X 0208:1990. -/
structure Iso2022 where
  sets : List Graphic
  shifts : Bool
  singleShift : Bool
  jisPrefix : Bool

/-- The state of an ISO-2022 decoder: its three sets, whether it is shifted out, and whether
it is writing out the bytes of an escape sequence it does not know. -/
structure IsoState where
  g0 : Graphic := .ascii
  g1 : Graphic := .ascii
  g2 : Graphic := .ascii
  shifted : Bool := false
  passing : Bool := false

/-- A byte that ends an escape sequence: a capital letter or `@`. -/
def isEscapeEnd (c : Nat) : Bool := (0x41 ≤ c && c ≤ 0x5A) || c == 0x40

/-- A byte that may follow `ESC` in an escape sequence: `(`, `)`, `$`, `.` or `&`. -/
def isEscapeStart (c : Nat) : Bool := [0x28, 0x29, 0x24, 0x2E, 0x26].contains c

/-- The length of the escape sequence at the start of `b`, searched for from place `k`:
`some 0` when none ends within 16 bytes, `none` when the bytes end first. -/
def escapeLength (jisPrefix : Bool) (b : Array Nat) : Nat → Nat → Option Nat
  | 0, _ => some 0
  | fuel + 1, k =>
    if k ≥ 16 then some 0
    else if b.size ≤ k then none
    else if isEscapeEnd (b.getD k 0) then some (k + 1)
    else if jisPrefix && k + 1 < b.size && b.getD k 0 == 0x26 && b.getD (k + 1) 0 == 0x40 then
      escapeLength jisPrefix b fuel (k + 3)
    else escapeLength jisPrefix b fuel (k + 1)

/-- Which of G0, G1 and G2 an escape sequence of `length` bytes designates, and the mark of
the set; or the number of bytes refused. -/
def designation (v : Iso2022) (b : Array Nat) (length : Nat) : Except Nat (Nat × Nat) :=
  let byteAt (i : Nat) := b.getD i 0
  match length with
  | 0 => .error 1
  | 3 =>
    if byteAt 1 == 0x24 then .ok (0, byteAt 2 + 0x80)
    else if byteAt 1 == 0x28 then .ok (0, byteAt 2)
    else if byteAt 1 == 0x29 then .ok (1, byteAt 2)
    else if v.singleShift && byteAt 1 == 0x2E then .ok (2, byteAt 2)
    else .error 3
  | 4 =>
    if byteAt 1 != 0x24 then .error 4
    else if byteAt 2 == 0x28 then .ok (0, byteAt 3 + 0x80)
    else if byteAt 2 == 0x29 then .ok (1, byteAt 3 + 0x80)
    else .error 4
  | 6 =>
    if v.jisPrefix && byteAt 3 == 0x1B && byteAt 4 == 0x24 && byteAt 5 == 0x42 then .ok (0, 0xC2)
    else .error 6
  | n => .error n

/-- Reads an escape sequence at the start of the bytes. -/
def escapeStep (v : Iso2022) (st : IsoState) (bytes : List Nat) : Step × IsoState :=
  let b := (bytes.take 20).toArray
  match escapeLength v.jisPrefix b 20 1 with
  | none => (.short, st)
  | some length =>
    match designation v b length with
    | .error n => (.refuse n, st)
    | .ok (slot, mark) =>
      let set := if mark == 0x42 then some .ascii else v.sets.find? (·.mark == mark)
      match set with
      | none => (.refuse length, st)
      | some g =>
        let st := if slot == 0 then { st with g0 := g }
          else if slot == 1 then { st with g1 := g } else { st with g2 := g }
        (.read [] length, st)

/-- The Greek of ISO 8859-7 that a single shift can read, from a byte with its high bit set. -/
def greekCharacter (c : Nat) : Option Nat :=
  if c < 0xA0 then some c
  else if c < 0xC0 && Nat.testBit 0x288F3BC9 (c - 0xA0) then some c
  else if 0xB4 ≤ c && c ≤ 0xFE && (c ≥ 0xD4 || Nat.testBit 0xBFFFFD77 (c - 0xB4)) then some (0x2D0 + c)
  else if c == 0xA1 then some 0x2018
  else if c == 0xA2 then some 0x2019
  else if c == 0xAF then some 0x2015
  else none

/-- Reads the byte after `ESC N` in the set held in G2. A set other than ASCII, Latin-1 and
Greek cannot be read that way, and the decoder breaks down. -/
def singleShiftStep (g2 : Graphic) (c : Nat) : Step :=
  match g2 with
  | .latin1 => if c < 0x80 then .read [c + 0x80] 3 else .refuse 3
  | .greek =>
    match greekCharacter (c ^^^ 0x80) with
    | some u => .read [u] 3
    | none => .refuse 3
  | .ascii => if c ≥ 0x80 then .refuse 3 else .read [c] 3
  | _ => .broken

/-- One step of an ISO-2022 decoder. -/
def isoStep (v : Iso2022) (st : IsoState) : List Nat → Step × IsoState
  | [] => (.short, st)
  | c :: rest =>
    if st.passing then (.read [c] 1, { st with passing := !isEscapeEnd c })
    else if c == 0x1B then
      match rest with
      | [] => (.short, st)
      | c2 :: more =>
        if isEscapeStart c2 then escapeStep v st (c :: rest)
        else if v.singleShift && c2 == 0x4E then
          match more with
          | [] => (.short, st)
          | c3 :: _ => (singleShiftStep st.g2 c3, st)
        else (.read [0x1B] 1, { st with passing := true })
    else if v.shifts && c == 0x0F then (.read [] 1, { st with shifted := false })
    else if v.shifts && c == 0x0E then (.read [] 1, { st with shifted := true })
    else if c == 0x0A then (.read [0x0A] 1, { st with shifted := false })
    else if c < 0x20 then (.read [c] 1, st)
    else if c ≥ 0x80 then (.refuse 1, st)
    else
      let g := if st.shifted then st.g1 else st.g0
      if g == .ascii then (.read [c] 1, st)
      else if g.width == 1 then
        match g.read c 0 with
        | some cs => (.read cs 1, st)
        | none => (.refuse 1, st)
      else
        match rest with
        | [] => (.short, st)
        | c2 :: _ =>
          match g.read c c2 with
          | some cs => (.read cs 2, st)
          | none => (.refuse 2, st)

/-- The ISO-2022 encoding of a name. -/
def iso2022Named? (codec : String) : Option Iso2022 :=
  let jis (sets : List Graphic) : Iso2022 := ⟨sets, false, false, true⟩
  match codec with
  | "iso2022_jp" => some (jis [.jisx0208, .jisx0208Old, .ascii, .jisRoman])
  | "iso2022_jp_1" => some (jis [.jisx0208, .jisx0212, .jisx0208Old, .ascii, .jisRoman])
  | "iso2022_jp_2" =>
    some ⟨[.jisx0208, .jisx0212, .ksx1001, .gb2312, .jisx0208Old, .ascii, .latin1, .greek,
      .jisRoman], false, true, true⟩
  | "iso2022_jp_2004" => some (jis [.jisx0213One .y2004, .jisx0208, .jisx0213Two, .ascii])
  | "iso2022_jp_3" => some (jis [.jisx0213One .y2000, .jisx0208, .jisx0213Two, .ascii])
  | "iso2022_jp_ext" => some (jis [.jisx0208, .jisx0212, .jisx0208Old, .ascii, .jisRoman, .jisKana])
  | "iso2022_kr" => some ⟨[.ksx1001, .ascii], true, false, false⟩
  | _ => none

/-- Reads bytes in an ISO-2022 encoding. -/
def iso2022Pieces (v : Iso2022) (bytes : List Nat) : List Piece :=
  (runSteps (isoStep v) (bytes.length + 1) {} bytes []).reverse

/-! ## HZ -/

/-- One step of HZ, in GB 2312 when `gb`. -/
def hzStep (gb : Bool) : List Nat → Step × Bool
  | [] => (.short, gb)
  | c :: rest =>
    if c == 0x7E then
      match rest with
      | [] => (.short, gb)
      | c2 :: _ =>
        if c2 == 0x7E && !gb then (.read [0x7E] 2, gb)
        else if c2 == 0x7B && !gb then (.read [] 2, true)
        else if c2 == 0x0A && !gb then (.read [] 2, gb)
        else if c2 == 0x7D && gb then (.read [] 2, false)
        else (.refuse 1, gb)
    else if c ≥ 0x80 then (.refuse 1, gb)
    else if !gb then (.read [c] 1, gb)
    else (withTrail rest fun c2 => Step.ofOption (gb2312.at? c c2) 2, gb)

/-- Reads HZ. -/
def hzPieces (bytes : List Nat) : List Piece :=
  (runSteps hzStep (bytes.length + 1) false bytes []).reverse

end Bookmarks.Codec
