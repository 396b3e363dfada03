import Bookmarks.Text.Basic
/-!
What every decoder shares. A decoder reads bytes into code points and runs of bytes it cannot
read; a strict decoding fails on such a run, a replacing one writes U+FFFD, and an ignoring one
leaves it out.
-/
namespace Bookmarks.Codec

/-- What a decoding does with bytes it cannot read. -/
inductive Errors where
  /-- The decoding fails. -/
  | strict
  /-- U+FFFD stands for each run of such bytes. -/
  | replace
  /-- Such bytes are left out. -/
  | ignore
  deriving DecidableEq, Repr

/-- One piece of a reading: a code point, a run of bytes that cannot be read, or the end of
a reading whose decoder broke down. -/
inductive Piece where
  | point (c : Nat)
  | bad
  | broken
  deriving DecidableEq, Repr

/-- How a decoding ends: with a text, failing on bytes it cannot read, or with its decoder
broken down. -/
inductive Decoded where
  | text (t : Text)
  | unreadable
  | broken
  deriving DecidableEq, Repr

/-- How a decoding of the pieces read ends. -/
def Errors.outcome (errors : Errors) (pieces : List Piece) : Decoded :=
  let kept := pieces.takeWhile fun p => !(errors == .strict && p == .bad)
  if kept.contains .broken then .broken
  else
    match errors with
    | .strict => if kept.length < pieces.length then .unreadable else .text (kept.filterMap fun p =>
        match p with
        | .point c => some c
        | _ => none)
    | .replace => .text (pieces.filterMap fun p => match p with
      | .point c => some c
      | .bad => some 0xFFFD
      | .broken => none)
    | .ignore => .text (pieces.filterMap fun p => match p with
      | .point c => some c
      | _ => none)

/-- The text of a decoding, if it ends with one. -/
def Decoded.toOption : Decoded → Option Text
  | .text t => some t
  | _ => none

/-- The text of the pieces read; `none` when the decoding is strict and a piece is bad, or
when the decoder broke down. -/
def Errors.finish (errors : Errors) (pieces : List Piece) : Option Text :=
  (errors.outcome pieces).toOption

/-- The pieces of a text read in full. -/
def points (t : Text) : List Piece := t.map .point

end Bookmarks.Codec
