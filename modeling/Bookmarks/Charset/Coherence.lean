import Bookmarks.Charset.Mess
import Bookmarks.Charset.Frequencies
import Bookmarks.Codec.Registry
import Bookmarks.Text.Case
/-!
How coherent a decoded text is in the languages the detector knows.

The letters are split into layers by Unicode block. In each layer of more than 32 letters,
the letters ordered by frequency are compared with a language's most frequent letters; the
share of letters whose ranks agree is the coherence in that language. The languages tried
depend on the character set.
-/
namespace Bookmarks.Charset

/-- A stable sort of named ratios, greatest first. -/
def byRatioDescending (xs : List (String × Binary64)) : List (String × Binary64) :=
  xs.mergeSort fun a b => Binary64.le b.2 a.2

/-- A language the detector knows: its name, its most frequent letters, most frequent first,
whether one of them is accented and whether all of them are Latin. -/
structure Language where
  name : String
  letters : List Nat
  accented : Bool
  latinOnly : Bool

/-- The languages, read from their letters. -/
def languages : List Language :=
  frequencies.map fun (name, s) =>
    let letters := s.toList.map Char.toNat
    { name := name
      letters := letters
      accented := letters.any fun c => (glyphOf c).isAccented
      latinOnly := letters.all fun c => (glyphOf c).isLatin }

/-- The language of a name. -/
def languageNamed? (name : String) : Option Language := languages.find? (·.name == name)

/-- The languages whose letters are at least a fifth among `chars`, most covered first; only
Latin ones when `latinOnly`, and only ones with accents when `chars` has an accented letter. -/
def alphabetLanguages (chars : List Nat) (latinOnly : Bool) : List String :=
  let accented := chars.any fun c => (glyphOf c).isAccented
  let found := languages.filterMap fun l =>
    if latinOnly && !l.latinOnly then none
    else if !l.accented && accented then none
    else
      let r := Binary64.ratio (l.letters.countP chars.contains) l.letters.length
      if Binary64.le (Binary64.decimal 2 1) r then some (l.name, r) else none
  (byRatioDescending found).map Prod.fst

/-- Whether the letter at `rank` of the text's order agrees with its rank in the language:
scaled, it lands near, or 0.4 of the letters before or after it agree. -/
def agreesAt (l : Language) (ordered : List Nat) (rank inLanguage : Nat) : Bool :=
  let total := l.letters.length
  let scale := Binary64.ratio total ordered.length
  let projected := Binary64.truncate (Binary64.mul (Binary64.ofNat rank) scale)
  let gap := (projected - inLanguage).natAbs
  let large := total > 26
  if !large && gap > 4 then false
  else if large && 3 * gap < total then true
  else
    let beforeL := l.letters.take inLanguage
    let afterL := l.letters.drop inLanguage
    let beforeT := ordered.take rank
    let afterT := ordered.drop rank
    let matchBefore := beforeT.countP beforeL.contains
    let matchAfter := afterT.countP afterL.contains
    if beforeL.isEmpty && matchBefore ≤ 4 then true
    else if afterL.isEmpty && matchAfter ≤ 4 then true
    else
      Binary64.le (Binary64.decimal 4 1) (Binary64.ratio matchBefore beforeL.length) ||
        Binary64.le (Binary64.decimal 4 1) (Binary64.ratio matchAfter afterL.length)

/-- The share of a text's letters, ordered by frequency, that agree with a language. -/
def popularityAgreement (l : Language) (ordered : List Nat) : Binary64 :=
  let approved := ordered.zipIdx.countP fun (c, rank) =>
    match l.letters.idxOf? c with
    | some inLanguage => agreesAt l ordered rank inLanguage
    | none => false
  Binary64.ratio approved ordered.length

/-- Adds a lowered letter to the first layer whose block goes with `block`, or starts a layer. -/
def addToLayer (layers : Array (Nat × Text)) (block : Nat) (lowered : Text) : Array (Nat × Text) :=
  match layers.findIdx? (fun (b, _) => !suspiciousPair (some b) (some block)) with
  | some i => layers.modify i fun (b, t) => (b, lowered.reverse ++ t)
  | none => layers.push (block, lowered.reverse)

/-- The lowered letters of a text in layers of blocks that go together, in order of first
appearance. -/
def alphaLayers (text : Text) : List Text :=
  let layers := text.foldl (fun layers c =>
    let g := glyphOf c
    if !g.isAlpha then layers
    else match g.block with
      | some b => addToLayer layers b (Text.lower [c])
      | none => layers) #[]
  layers.toList.map fun (_, t) => t.reverse

/-- The distinct code points of a text, most frequent first, ties in order of first
appearance. -/
def byFrequency (text : Text) : List Nat :=
  let counts := text.foldl (fun (acc : Array (Nat × Nat)) c =>
    match acc.findIdx? (·.1 == c) with
    | some i => acc.modify i fun (d, n) => (d, n + 1)
    | none => acc.push (c, 1)) #[]
  (counts.toList.mergeSort fun a b => b.2 ≤ a.2).map Prod.fst

/-- When some language appears under two names, the greatest ratio of each language under its
plain name; otherwise the ratios as they are. -/
def mergeAlternatives (results : List (String × Binary64)) : List (String × Binary64) :=
  let plain (name : String) : String := String.ofList (name.toList.filter (· != '—'))
  let grouped := results.foldl (fun (acc : List (String × List Binary64)) (name, r) =>
    let key := plain name
    if acc.any (·.1 == key) then acc.map fun (k, rs) => if k == key then (k, rs ++ [r]) else (k, rs)
    else acc ++ [(key, [r])]) []
  if grouped.any (·.2.length > 1) then
    grouped.map fun (k, rs) =>
      (k, rs.foldl (fun m r => if Binary64.lt m r then r else m) (rs.headD zero))
  else results

/-- Tries the languages on one layer's letters, adding each ratio of at least 0.1 to `found`;
`sure` counts ratios of at least 0.8, and the trying stops once there are three. -/
def tryLanguages (ordered : List Nat) :
    List String → List (String × Binary64) × Nat → List (String × Binary64) × Nat
  | [], acc => acc
  | name :: rest, (found, sure) =>
    match languageNamed? name with
    | none => tryLanguages ordered rest (found, sure)
    | some l =>
      let r := popularityAgreement l ordered
      if Binary64.lt r (Binary64.decimal 1 1) then tryLanguages ordered rest (found, sure)
      else
        let sure := if Binary64.le (Binary64.decimal 8 1) r then sure + 1 else sure
        let found := found ++ [(name, Binary64.roundDigits r 4)]
        if sure ≥ 3 then (found, sure) else tryLanguages ordered rest (found, sure)

/-- The languages a text is coherent in, with their ratios, greatest first. `offered` names
the languages to try, `Latin Based` standing for all Latin ones; when it names no language,
those found by their letters are tried. -/
def coherence (offered : List String) (text : Text) : List (String × Binary64) :=
  let latinOnly := offered.contains "Latin Based"
  let listed := offered.filter (· != "Latin Based")
  let (found, _) := (alphaLayers text).foldl (fun (acc : List (String × Binary64) × Nat) layer =>
    if layer.length ≤ 32 then acc
    else
      let ordered := byFrequency layer
      let names := if listed.isEmpty then alphabetLanguages ordered latinOnly else listed
      tryLanguages ordered names acc) ([], 0)
  byRatioDescending (mergeAlternatives found)

/-- The mean ratio of each language over several pieces of a text, to four places, greatest
first. -/
def mergeCoherence (results : List (List (String × Binary64))) : List (String × Binary64) :=
  let grouped := results.flatten.foldl (fun (acc : List (String × List Binary64)) (name, r) =>
    if acc.any (·.1 == name) then acc.map fun (k, rs) => if k == name then (k, rs ++ [r]) else (k, rs)
    else acc ++ [(name, [r])]) []
  byRatioDescending (grouped.map fun (k, rs) =>
    (k, Binary64.roundDigits (Binary64.divNat (Binary64.sum rs) rs.length) 4))

/-! ## Languages of a character set -/

/-- The main blocks a single-byte character set writes from bytes `0x40` to `0xFE`: those of
at least 15 % of the bytes that land in a block that is not secondary, by name. -/
def mainBlocks (codec : String) : List String :=
  let counted := (List.range 191).foldl (fun (acc : List (Nat × Nat)) i =>
    match Codec.decode codec .ignore [0x40 + i] with
    | some (c :: _) =>
      match blockOf? c with
      | some b =>
        if (blockAt b).secondary then acc
        else if acc.any (·.1 == b) then acc.map fun (k, n) => if k == b then (k, n + 1) else (k, n)
        else acc ++ [(b, 1)]
      | none => acc
    | _ => acc) []
  let total := (counted.map Prod.snd).foldr (· + ·) 0
  let names := counted.filterMap fun (b, n) =>
    if Binary64.le (Binary64.decimal 15 2) (Binary64.ratio n total) then some (blockAt b).name else none
  names.mergeSort fun a b => decide (a ≤ b)

/-- The languages a single-byte character set offers: those with a letter in its first main
block that is not Latin, or `Latin Based` when all are Latin. -/
def singleByteLanguages (codec : String) : List String :=
  match (mainBlocks codec).find? (fun n => !containsText n.toList "Latin".toList) with
  | none => ["Latin Based"]
  | some primary =>
    (languages.filter fun l => l.letters.any fun c =>
      match blockOf? c with
      | some b => (blockAt b).name == primary
      | none => false).map (·.name)

/-- The language a double-byte character set offers. -/
def multiByteLanguages (codec : String) : List String :=
  if codec.startsWith "shift_" || codec.startsWith "iso2022_jp" || codec.startsWith "euc_j" ||
      codec == "cp932" then ["Japanese"]
  else if codec.startsWith "gb" || ["big5", "cp950", "big5hkscs", "hz"].contains codec then ["Chinese"]
  else if codec.startsWith "iso2022_kr" || ["johab", "cp949", "euc_kr"].contains codec then ["Korean"]
  else []

end Bookmarks.Charset
