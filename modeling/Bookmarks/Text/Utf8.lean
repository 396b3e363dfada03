import Bookmarks.Text.Basic
/-!
UTF-8 and Latin-1, in both directions.

Encoding to UTF-8 refuses a run of surrogates, and Latin-1 a run of code points from 256 on.
Decoding UTF-8 reads the shortest forms only, refusing each broken piece; decoding with
replacement puts U+FFFD for each refused piece and goes on after it.
-/
namespace Bookmarks.Text

/-- A code point as UTF-8 bytes, surrogates written like any other value. -/
def utf8Point (c : Nat) : List Nat :=
  if c < 0x80 then [c]
  else if c < 0x800 then [0xC0 + c / 64, 0x80 + c % 64]
  else if c < 0x10000 then [0xE0 + c / 4096, 0x80 + c / 64 % 64, 0x80 + c % 64]
  else [0xF0 + c / 262144, 0x80 + c / 4096 % 64, 0x80 + c / 64 % 64, 0x80 + c % 64]

/-- A refused piece of an encoding or decoding: where it starts, where it stops, and why. -/
structure Refusal where
  start : Nat
  stop : Nat
  reason : String
  deriving DecidableEq, Repr

/-- The end of the run of code points satisfying `p` that starts at `i`. -/
def runEnd (p : Nat → Bool) (t : Text) (i : Nat) : Nat :=
  i + ((t.drop i).takeWhile p).length

/-- The UTF-8 bytes of a text, or the first run of surrogates. -/
def utf8 (t : Text) : Except Refusal (List Nat) :=
  match t.findIdx? isSurrogate with
  | some i => .error ⟨i, runEnd isSurrogate t i, "surrogates not allowed"⟩
  | none => .ok (t.flatMap utf8Point)

/-- The UTF-8 bytes of a text, surrogates passed through. -/
def utf8Passing (t : Text) : List Nat := t.flatMap utf8Point

/-- The Latin-1 bytes of a text, or the first run of code points from 256 up. -/
def latin1 (t : Text) : Except Refusal (List Nat) :=
  match t.findIdx? (· ≥ 256) with
  | some i => .error ⟨i, runEnd (· ≥ 256) t i, "ordinal not in range(256)"⟩
  | none => .ok t

/-- A continuation byte. -/
def isContinuation (b : Nat) : Bool := 0x80 ≤ b && b ≤ 0xBF

/-- The outcome of decoding one character at the head of some bytes: the code point and
the bytes it took, or a refusal of the given number of bytes. -/
inductive Step where
  | point (c : Nat) (size : Nat)
  | refused (size : Nat) (reason : String)
  deriving DecidableEq, Repr

/-- Whether the second byte of a sequence is allowed after the start byte `s`. -/
def secondAllowed (s b : Nat) : Bool :=
  isContinuation b &&
    (if s = 0xE0 then b ≥ 0xA0 else if s = 0xED then b < 0xA0
     else if s = 0xF0 then b ≥ 0x90 else if s = 0xF4 then b < 0x90 else true)

/-- Decodes the character at the head of the bytes. -/
def utf8Step (bytes : List Nat) : Step :=
  match bytes with
  | [] => .refused 0 "unexpected end of data"
  | s :: rest =>
    if s < 0x80 then .point s 1
    else if s < 0xC2 || s > 0xF4 then .refused 1 "invalid start byte"
    else
      let need := if s < 0xE0 then 1 else if s < 0xF0 then 2 else 3
      let tail := rest.take need
      -- the number of bytes after the start that are still valid
      let valid :=
        match tail with
        | [] => 0
        | b :: more =>
          if !secondAllowed s b then 0 else 1 + (more.takeWhile isContinuation).length
      if valid < tail.length then .refused (valid + 1) "invalid continuation byte"
      else if tail.length < need then .refused (1 + tail.length) "unexpected end of data"
      else
        let value := tail.foldl (fun acc b => acc * 64 + (b - 0x80))
          (if need = 1 then s - 0xC0 else if need = 2 then s - 0xE0 else s - 0xF0)
        .point value (1 + need)

/-- Decodes UTF-8 bytes from position `pos`; with `replace`, a refused piece becomes U+FFFD,
otherwise the first refusal ends decoding. Every step takes at least one byte. -/
def utf8DecodeFrom (replace : Bool) (pos : Nat) (bytes : List Nat) (acc : Text) :
    Except Refusal Text :=
  match bytes with
  | [] => .ok acc.reverse
  | b :: more =>
    match utf8Step (b :: more) with
    | .point c size =>
      utf8DecodeFrom replace (pos + size) ((b :: more).drop (max size 1)) (c :: acc)
    | .refused size reason =>
      if replace then
        utf8DecodeFrom replace (pos + size) ((b :: more).drop (max size 1)) (0xFFFD :: acc)
      else .error ⟨pos, pos + size, reason⟩
termination_by bytes.length
decreasing_by
  all_goals simp only [List.length_drop, List.length_cons]; omega

/-- Decodes UTF-8 bytes, refusing at the first malformed piece. -/
def utf8Decode (bytes : List Nat) : Except Refusal Text := utf8DecodeFrom false 0 bytes []

/-- Decodes UTF-8 bytes, replacing each malformed piece by U+FFFD. -/
def utf8DecodeReplacing (bytes : List Nat) : Text :=
  match utf8DecodeFrom true 0 bytes [] with
  | .ok t => t
  | .error _ => []

end Bookmarks.Text
