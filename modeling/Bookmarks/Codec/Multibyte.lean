import Bookmarks.Codec.Iso2022
/-!
The double-byte encodings of Chinese, Japanese and Korean by name, and the decoder each name
stands for.
-/
namespace Bookmarks.Codec

/-- The double-byte encodings. -/
def doubleByteNames : List String :=
  ["big5", "big5hkscs", "cp932", "cp949", "cp950", "euc_jis_2004", "euc_jisx0213", "euc_jp",
    "euc_kr", "gb18030", "gb2312", "gbk", "hz", "iso2022_jp", "iso2022_jp_1", "iso2022_jp_2",
    "iso2022_jp_2004", "iso2022_jp_3", "iso2022_jp_ext", "iso2022_kr", "johab", "shift_jis",
    "shift_jis_2004", "shift_jisx0213"]

/-- Whether an encoding is one of the double-byte ones. -/
def isDoubleByte (codec : String) : Bool := doubleByteNames.contains codec

/-- The decoder of a double-byte encoding that keeps no state. -/
def statelessStep? (codec : String) : Option (List Nat → Step) :=
  match codec with
  | "gb2312" => some gb2312Step
  | "gbk" => some gbkStep
  | "gb18030" => some gb18030Step
  | "big5" => some (big5Step false)
  | "cp950" => some (big5Step true)
  | "big5hkscs" => some big5hkscsStep
  | "euc_kr" => some (eucKrStep false)
  | "cp949" => some (eucKrStep true)
  | "johab" => some johabStep
  | "shift_jis" => some shiftJisStep
  | "cp932" => some cp932Step
  | "shift_jis_2004" => some (shiftJis2004Step .y2004)
  | "shift_jisx0213" => some (shiftJis2004Step .y2000)
  | "euc_jp" => some eucJpStep
  | "euc_jis_2004" => some (eucJis2004Step .y2004)
  | "euc_jisx0213" => some (eucJis2004Step .y2000)
  | _ => none

/-- Reads bytes in a double-byte encoding; `none` when the name is not one. -/
def doubleBytePieces (codec : String) (bytes : List Nat) : Option (List Piece) :=
  match statelessStep? codec with
  | some step => some (statelessPieces step bytes)
  | none =>
    if codec == "hz" then some (hzPieces bytes)
    else (iso2022Named? codec).map fun v => iso2022Pieces v bytes

end Bookmarks.Codec
