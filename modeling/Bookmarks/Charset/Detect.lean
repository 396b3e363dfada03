import Bookmarks.Charset.Coherence
import Bookmarks.Order.Sort
/-!
Guessing the character set of bytes with no trustworthy declaration.

The sets are tried in a fixed order: the one the bytes declare, the one their signature names,
ASCII and UTF-8, then all others. A set that cannot read every byte is dropped, and so is one
whose pieces of text are too messy, with those that read the bytes as it does. The sets left
are ranked by mess, then by coherence in their languages, then by bytes per character. The
search ends early when a preferred set reads the bytes with little mess.
-/
namespace Bookmarks.Charset

/-! ## The character sets tried -/

/-- The character sets tried after the preferred ones, in order. -/
def supportedSets : List String :=
  ["ascii", "big5", "big5hkscs", "cp037", "cp1006", "cp1026", "cp1125", "cp1140", "cp1250",
    "cp1251", "cp1252", "cp1253", "cp1254", "cp1255", "cp1256", "cp1257", "cp1258", "cp273",
    "cp424", "cp437", "cp500", "cp720", "cp737", "cp775", "cp850", "cp852", "cp855", "cp856",
    "cp857", "cp858", "cp860", "cp861", "cp862", "cp863", "cp864", "cp865", "cp866", "cp869",
    "cp874", "cp875", "cp932", "cp949", "cp950", "euc_jis_2004", "euc_jisx0213", "euc_jp",
    "euc_kr", "gb18030", "gb2312", "gbk", "hp_roman8", "hz", "iso2022_jp", "iso2022_jp_1",
    "iso2022_jp_2", "iso2022_jp_2004", "iso2022_jp_3", "iso2022_jp_ext", "iso2022_kr",
    "iso8859_10", "iso8859_11", "iso8859_13", "iso8859_14", "iso8859_15", "iso8859_16",
    "iso8859_2", "iso8859_3", "iso8859_4", "iso8859_5", "iso8859_6", "iso8859_7", "iso8859_8",
    "iso8859_9", "johab", "koi8_r", "koi8_r", "koi8_t", "koi8_u", "kz1048", "latin_1",
    "mac_cyrillic", "mac_greek", "mac_iceland", "mac_latin2", "mac_roman", "mac_turkish",
    "ptcp154", "shift_jis", "shift_jis_2004", "shift_jisx0213", "tis_620", "utf_16",
    "utf_16_be", "utf_16_le", "utf_32", "utf_32_be", "utf_32_le", "utf_7", "utf_8"]

/-- The single-byte character sets that read at least 80 % of the bytes as each one does. -/
def similarSets : List (String × List String) :=
  [("cp037", ["cp1026", "cp1140", "cp273", "cp500"]),
    ("cp1026", ["cp037", "cp1140", "cp273", "cp500"]),
    ("cp1125", ["cp866"]),
    ("cp1140", ["cp037", "cp1026", "cp273", "cp500"]),
    ("cp1250", ["iso8859_2"]),
    ("cp1251", ["kz1048", "ptcp154"]),
    ("cp1252", ["cp1254", "cp1258", "iso8859_15", "iso8859_9", "latin_1"]),
    ("cp1253", ["iso8859_7"]),
    ("cp1254", ["cp1252", "cp1258", "iso8859_15", "iso8859_9", "latin_1"]),
    ("cp1257", ["iso8859_13"]),
    ("cp1258", ["cp1252", "cp1254", "iso8859_9", "latin_1"]),
    ("cp273", ["cp037", "cp1026", "cp1140", "cp500"]),
    ("cp437", ["cp850", "cp858", "cp860", "cp861", "cp862", "cp863", "cp865"]),
    ("cp500", ["cp037", "cp1026", "cp1140", "cp273"]),
    ("cp850", ["cp437", "cp857", "cp858", "cp865"]),
    ("cp857", ["cp850", "cp858", "cp865"]),
    ("cp858", ["cp437", "cp850", "cp857", "cp865"]),
    ("cp860", ["cp437", "cp861", "cp862", "cp863", "cp865"]),
    ("cp861", ["cp437", "cp860", "cp862", "cp863", "cp865"]),
    ("cp862", ["cp437", "cp860", "cp861", "cp863", "cp865"]),
    ("cp863", ["cp437", "cp860", "cp861", "cp862", "cp865"]),
    ("cp865", ["cp437", "cp850", "cp857", "cp858", "cp860", "cp861", "cp862", "cp863"]),
    ("cp866", ["cp1125"]),
    ("iso8859_10", ["iso8859_14", "iso8859_15", "iso8859_4", "iso8859_9", "latin_1"]),
    ("iso8859_11", ["tis_620"]),
    ("iso8859_13", ["cp1257"]),
    ("iso8859_14", ["iso8859_10", "iso8859_15", "iso8859_16", "iso8859_3", "iso8859_9", "latin_1"]),
    ("iso8859_15", ["cp1252", "cp1254", "iso8859_10", "iso8859_14", "iso8859_16", "iso8859_3",
      "iso8859_9", "latin_1"]),
    ("iso8859_16", ["iso8859_14", "iso8859_15", "iso8859_2", "iso8859_3", "iso8859_9", "latin_1"]),
    ("iso8859_2", ["cp1250", "iso8859_16", "iso8859_4"]),
    ("iso8859_3", ["iso8859_14", "iso8859_15", "iso8859_16", "iso8859_9", "latin_1"]),
    ("iso8859_4", ["iso8859_10", "iso8859_2", "iso8859_9", "latin_1"]),
    ("iso8859_7", ["cp1253"]),
    ("iso8859_9", ["cp1252", "cp1254", "cp1258", "iso8859_10", "iso8859_14", "iso8859_15",
      "iso8859_16", "iso8859_3", "iso8859_4", "latin_1"]),
    ("kz1048", ["cp1251", "ptcp154"]),
    ("latin_1", ["cp1252", "cp1254", "cp1258", "iso8859_10", "iso8859_14", "iso8859_15",
      "iso8859_16", "iso8859_3", "iso8859_4", "iso8859_9"]),
    ("mac_iceland", ["mac_roman", "mac_turkish"]),
    ("mac_roman", ["mac_iceland", "mac_turkish"]),
    ("mac_turkish", ["mac_iceland", "mac_roman"]),
    ("ptcp154", ["cp1251", "kz1048"]),
    ("tis_620", ["iso8859_11"])]

/-- Whether two character sets read most bytes alike. -/
def areSimilar (a b : String) : Bool :=
  match similarSets.lookup a with
  | some others => others.contains b
  | none => false

/-- The names the guess is reported by, where they differ from the character set's own. -/
def reportedNames : List (String × String) :=
  [("iso2022_kr", "ISO-2022-KR"), ("iso2022_jp", "ISO-2022-JP"), ("euc_kr", "EUC-KR"),
    ("tis_620", "TIS-620"), ("utf_32", "UTF-32"), ("euc_jp", "EUC-JP"), ("koi8_r", "KOI8-R"),
    ("iso8859_1", "ISO-8859-1"), ("iso8859_2", "ISO-8859-2"), ("iso8859_5", "ISO-8859-5"),
    ("iso8859_6", "ISO-8859-6"), ("iso8859_7", "ISO-8859-7"), ("iso8859_8", "ISO-8859-8"),
    ("utf_16", "UTF-16"), ("cp855", "IBM855"), ("mac_cyrillic", "MacCyrillic"),
    ("gb2312", "GB2312"), ("gb18030", "GB18030"), ("cp932", "CP932"), ("cp866", "IBM866"),
    ("utf_8", "utf-8"), ("utf_8_sig", "UTF-8-SIG"), ("shift_jis", "SHIFT_JIS"),
    ("big5", "Big5"), ("cp1250", "windows-1250"), ("cp1251", "windows-1251"),
    ("cp1252", "Windows-1252"), ("cp1253", "windows-1253"), ("cp1255", "windows-1255"),
    ("cp1256", "windows-1256"), ("cp1254", "Windows-1254"), ("cp949", "CP949")]

/-! ## Signatures and declarations -/

/-- The signatures that name a character set at the start of bytes, in the order they are
looked for. -/
def signatures : List (String × List Nat) :=
  [("utf_8", [0xEF, 0xBB, 0xBF]),
    ("utf_7", [0x2B, 0x2F, 0x76, 0x38]), ("utf_7", [0x2B, 0x2F, 0x76, 0x39]),
    ("utf_7", [0x2B, 0x2F, 0x76, 0x2B]), ("utf_7", [0x2B, 0x2F, 0x76, 0x2F]),
    ("utf_7", [0x2B, 0x2F, 0x76, 0x38, 0x2D]),
    ("gb18030", [0x84, 0x31, 0x95, 0x33]),
    ("utf_32", [0, 0, 0xFE, 0xFF]), ("utf_32", [0xFF, 0xFE, 0, 0]),
    ("utf_16", [0xFE, 0xFF]), ("utf_16", [0xFF, 0xFE])]

/-- The character set a signature at the start of the bytes names, with the signature. -/
def signatureOf? (bytes : List Nat) : Option (String × List Nat) :=
  signatures.find? fun (_, mark) => mark.isPrefixOf bytes

/-- A character that separates a declaration's keyword from its name. -/
def isDeclarationGap (c : Nat) : Bool := c == 0x3A || c == 0x3D || c == 0x20

/-- A character of a declared name. -/
def isDeclaredNameChar (c : Nat) : Bool := Text.isAlnumAscii c || c == 0x2D || c == 0x5F

/-- A quote around a declared name. -/
def isDeclarationQuote (c : Nat) : Bool := c == 0x22 || c == 0x27

/-- The name declared after a keyword, and the text after the declaration: one to ten gaps,
an optional quote, the name and an optional quote. -/
def declaredAfter (rest : Text) : Option (Text × Text) :=
  let gaps := (rest.takeWhile isDeclarationGap).length
  if gaps == 0 || gaps > 10 then none
  else
    let r := rest.drop gaps
    let r := match r with
      | q :: c :: _ => if isDeclarationQuote q && isDeclaredNameChar c then r.drop 1 else r
      | _ => r
    let name := r.takeWhile isDeclaredNameChar
    if name.isEmpty then none
    else
      let after := r.drop name.length
      let after := match after with
        | q :: more => if isDeclarationQuote q then more else after
        | [] => []
      some (name, after)

/-- Whether a text starts with an ASCII word, in any case. -/
def startsWithWord (t : Text) (w : String) : Bool :=
  (Text.ofString w).isPrefixOf ((t.take w.length).map Text.lowerAscii)

/-- The names declared in a text, in order, each declaration read from the end of the one
before it. -/
def declaredNames : Nat → Text → List Text
  | 0, _ => []
  | _ + 1, [] => []
  | fuel + 1, c :: rest =>
    let found := ["encoding", "charset", "coding"].findSome? fun w =>
      if startsWithWord (c :: rest) w then declaredAfter ((c :: rest).drop w.length) else none
    match found with
    | some (name, after) => name :: declaredNames fuel after
    | none => declaredNames fuel rest

/-- The character set a declared name stands for, through the table of other names; `ansi`
and `dbcs` stand for `mbcs`, a set this system cannot load. -/
def standsFor? (name : String) : Option String :=
  match Codec.charsetAliases.lookup name with
  | some target => some target
  | none =>
    if Codec.charsetAliases.any (·.2 == name) then some name
    else if ["ansi", "dbcs", "mbcs"].contains name then some "mbcs"
    else none

/-- The first character set declared in the first 8192 bytes, their ASCII read alone. -/
def declaredSet? (bytes : List Nat) : Option String :=
  let text := (bytes.take 8192).filter (· < 0x80)
  (declaredNames (text.length + 1) text).findSome? fun name =>
    standsFor? (String.ofList (name.map fun c => if c == 0x2D then '_' else Char.ofNat (Text.lowerAscii c)))

/-! ## Candidates -/

/-- A character set that reads the bytes, with what was measured: its mess, its coherence per
language, whether it was read after its own signature, the text it reads, the number of
bytes, and other sets that read the same text with the same mess. -/
structure Candidate where
  encoding : String
  chaos : Binary64
  languages : List (String × Binary64)
  marked : Bool
  text : Text
  size : Nat
  alsoAs : List String

/-- The coherence of the best language, zero when none. -/
def Candidate.coherence (c : Candidate) : Binary64 :=
  match c.languages with
  | (_, r) :: _ => r
  | [] => zero

/-- The share of bytes beyond one per character. -/
def Candidate.multiByteUsage (c : Candidate) : Binary64 :=
  Binary64.sub (Binary64.ofNat 1) (Binary64.ratio c.text.length c.size)

/-- Whether a candidate ranks before another: with mess within 0.01 of each other, by greater
coherence when that differs by more than 0.02, else by greater use of bytes beyond one per
character; otherwise by less mess. -/
def Candidate.before (a b : Candidate) : Bool :=
  let chaosGap := Binary64.abs (Binary64.sub a.chaos b.chaos)
  let coherenceGap := Binary64.abs (Binary64.sub a.coherence b.coherence)
  let close := Binary64.lt chaosGap (Binary64.decimal 1 2)
  if close && Binary64.lt (Binary64.decimal 2 2) coherenceGap then Binary64.lt b.coherence a.coherence
  else if close then
    if a.size ≥ 10000000 then Binary64.lt a.chaos b.chaos
    else Binary64.lt b.multiByteUsage a.multiByteUsage
  else Binary64.lt a.chaos b.chaos

/-- The text of a candidate as it is written out, lone surrogates made `?`. -/
def Candidate.written (c : Candidate) : Text :=
  c.text.map fun x => if Text.isSurrogate x then 0x3F else x

/-- Adds a candidate to ranked ones: to the first that writes the same text with the same mess,
as another set it reads in; else among them, ranked again. -/
def addCandidate (ranked : List Candidate) (c : Candidate) : List Candidate :=
  let same (m : Candidate) : Bool := Binary64.same m.chaos c.chaos && m.written == c.written
  match ranked.findIdx? same with
  | some i =>
    if c.size < 10000000 then ranked.modify i fun m => { m with alsoAs := m.alsoAs ++ [c.encoding] }
    else Order.sortBy Candidate.before (ranked ++ [c])
  | none => Order.sortBy Candidate.before (ranked ++ [c])

/-- The first ranked candidate in a set, by its own name or as another. -/
def candidateIn? (ranked : List Candidate) (enc : String) : Option Candidate :=
  ranked.find? fun m => m.encoding == enc || m.alsoAs.contains enc

/-! ## Pieces and mess -/

/-- The most mess a readable text may have. -/
def messLimit : Binary64 := Binary64.decimal 2 1

/-- What the detector knows of the bytes: the bytes, how many, the size of the pieces it
measures and their offsets, the declared set and the signature. -/
structure Sample where
  bytes : List Nat
  size : Nat
  pieceSize : Nat
  steps : Nat
  declared : Option String
  signature : Option (String × List Nat)

/-- Whether a text stands somewhere in another. -/
def occursIn (needle : Text) : Text → Bool
  | [] => needle.isEmpty
  | c :: rest => needle.isPrefixOf (c :: rest) || occursIn needle rest

/-- The offsets of the pieces: from `start`, every `step` bytes, before `stop`. -/
def pieceOffsets (start stop step : Nat) : List Nat :=
  if step = 0 then []
  else (List.range ((stop - start + step - 1) / step)).map fun k => start + k * step

/-- A piece of a reading to measure: its text, or `none` when the decoder broke down on it. -/
abbrev Chunk := Option Text

/-- The piece of a multi-byte reading at an offset, read again from up to three bytes earlier
when its start is not found in the whole text; `none` skips a piece past the end. -/
def multiBytePiece (s : Sample) (enc : String) (keepMark : List Nat) (whole : Text) (i : Nat) :
    Option Chunk :=
  let stop := i + s.pieceSize
  if stop > s.size + 8 then none
  else
    let readFrom (j : Nat) : Chunk :=
      match Codec.decodeOutcome enc .ignore (keepMark ++ (s.bytes.drop j).take (stop - j)) with
      | .text t => some t
      | .unreadable => some []
      | .broken => none
    let k := min s.pieceSize 16
    match readFrom i with
    | none => some none
    | some piece =>
      if i == 0 || whole.isEmpty || occursIn (piece.take k) whole then some (some piece)
      else
        let rec retry : List Nat → Text → Chunk
          | [], last => some last
          | j :: more, _ =>
            match readFrom j with
            | none => none
            | some p => if occursIn (p.take k) whole then some p else retry more p
        some (retry [i, i - 1, i - 2, i - 3] piece)

/-- The pieces of a reading to measure. -/
def pieces (s : Sample) (enc : String) (multiByte : Bool) (keepMark : List Nat) (start : Nat)
    (whole : Text) : List Chunk :=
  let offsets := pieceOffsets start s.size (s.size / s.steps)
  if !whole.isEmpty && !multiByte then
    ((offsets.map fun i => (whole.drop i).take s.pieceSize).takeWhile (!·.isEmpty)).map some
  else offsets.filterMap (multiBytePiece s enc keepMark whole)

/-- Measures pieces for mess until `allowed` of them are too messy, or after the first when
`once`: the pieces measured with their mess, and how many were too messy; `none` when the
decoder broke down on a piece measured. -/
def measure (allowed : Nat) (once : Bool) :
    List Chunk → List (Text × Binary64) → Nat → Option (List (Text × Binary64) × Nat)
  | [], found, messy => some (found, messy)
  | none :: _, _, _ => none
  | some p :: rest, found, messy =>
    let r := messRatio messLimit p
    let messy := if Binary64.le messLimit r then messy + 1 else messy
    let found := found ++ [(p, r)]
    if messy ≥ allowed || once then some (found, messy) else measure allowed once rest found messy

/-! ## The search -/

/-- Where the search stands: the sets tried, those too messy, the fallbacks kept for ASCII,
UTF-8 and the declared set, the ranked candidates and those that may end the search early. -/
structure Search where
  tried : List String := []
  messy : List String := []
  fallbackDeclared : Option Candidate := none
  fallbackAscii : Option Candidate := none
  fallbackUtf8 : Option Candidate := none
  ranked : List Candidate := []
  early : List Candidate := []

/-- What trying one set leads to. -/
inductive Outcome where
  /-- The search ends with these candidates. -/
  | settled (ranked : List Candidate)
  /-- The search goes on. -/
  | going (search : Search)
  /-- The decoder of this set broke down, and the search with it. -/
  | crashed (codec : String)

/-- Keeps a set whose pieces are too messy as a fallback, when it is ASCII, UTF-8 or the
declared set. -/
def dropMessy (s : Sample) (search : Search) (enc : String) (whole : Text) : Outcome :=
  let fallback : Candidate := ⟨enc, messLimit, [], false, whole, s.size, []⟩
  let search := { search with messy := search.messy ++ [enc] }
  if s.declared == some enc then .going { search with fallbackDeclared := some fallback }
  else if enc == "ascii" then .going { search with fallbackAscii := some fallback }
  else if enc == "utf_8" then .going { search with fallbackUtf8 := some fallback }
  else .going search

/-- Ranks a set that reads the bytes with its pieces' mean mess, and ends the search when the
set is a preferred one with no mess, when the preferred sets are all tried and one had little
mess, or when the set is the one the signature names. -/
def rankSet (s : Sample) (search : Search) (enc : String) (marked : Bool) (whole : Text)
    (chunks : List Text) (mean : Binary64) : Outcome :=
  let offered := if Codec.isMultiByte enc then multiByteLanguages enc else singleByteLanguages enc
  let languages := if enc == "ascii" then [] else mergeCoherence (chunks.map (coherence offered))
  let current : Candidate := ⟨enc, mean, languages, marked, whole, s.size, []⟩
  let search := { search with ranked := addCandidate search.ranked current }
  let kept := (candidateIn? search.ranked enc).getD current
  let calm := (enc == "ascii" || enc == "utf_8" || s.declared == some enc) &&
    Binary64.lt mean (Binary64.decimal 1 1)
  if calm && Binary64.same mean zero then .settled [kept]
  else
    let search := if calm then { search with early := addCandidate search.early kept } else search
    let declaredTried := match s.declared with
      | some d => search.tried.contains d
      | none => true
    let allTried := declaredTried && search.tried.contains "ascii" && search.tried.contains "utf_8"
    match search.early with
    | best :: _ => if allTried then .settled [best] else if marked then .settled [kept] else .going search
    | [] => if marked then .settled [kept] else .going search

/-- Tries one character set. -/
def trySet (s : Sample) (search : Search) (enc : String) : Outcome :=
  if search.tried.contains enc then .going search
  else
    let search := { search with tried := search.tried ++ [enc] }
    let marked := s.signature.map Prod.fst == some enc
    let strip := marked && enc != "utf_16" && enc != "utf_32"
    let mark := match s.signature with
      | some (_, m) => m
      | none => []
    if (enc == "utf_16" || enc == "utf_32" || enc == "utf_7") && !marked then .going search
    else if enc == "mbcs" then .going search
    else
      match Codec.decodeOutcome enc .strict (if strip then s.bytes.drop mark.length else s.bytes) with
      | .unreadable => .going search
      | .broken => .crashed enc
      | .text whole =>
        if search.messy.any (areSimilar enc) then .going search
        else
          let start := if marked then mark.length else 0
          let keepMark := if marked && !strip then mark else []
          let allowed := max ((pieceOffsets start s.size (s.size / s.steps)).length / 4) 2
          let chunks := pieces s enc (Codec.isMultiByte enc) keepMark start whole
          match measure allowed (marked && !strip) chunks [] 0 with
          | none => .crashed enc
          | some (measured, messyCount) =>
            let ratios := measured.map Prod.snd
            let mean :=
              if ratios.isEmpty then zero else Binary64.divNat (Binary64.sum ratios) ratios.length
            if Binary64.le messLimit mean || messyCount ≥ allowed then dropMessy s search enc whole
            else rankSet s search enc marked whole (measured.map Prod.fst) mean

/-- Tries the sets in order until the search settles; an error names the set whose decoder
broke down. -/
def trySets (s : Sample) : List String → Search → Except String (List Candidate)
  | [], search =>
    if !search.ranked.isEmpty then .ok search.ranked
    else match search.fallbackDeclared, search.fallbackUtf8, search.fallbackAscii with
      | some f, _, _ => .ok [f]
      | none, some f, _ => .ok [f]
      | none, none, some f => .ok [f]
      | none, none, none => .ok []
  | enc :: rest, search =>
    match trySet s search enc with
    | .settled ranked => .ok ranked
    | .going search => trySets s rest search
    | .crashed codec => .error codec

/-- The candidates for bytes, best first; an error names the set whose decoder broke down. -/
def candidates (bytes : List Nat) : Except String (List Candidate) :=
  let size := bytes.length
  if size == 0 then .ok [⟨"utf_8", zero, [], false, [], 0, []⟩]
  else
    let (steps, pieceSize) := if size ≤ 2560 then (1, size) else (5, 512)
    let declared := declaredSet? bytes
    let signature := signatureOf? bytes
    let first := declared.toList ++ (signature.map Prod.fst).toList ++ ["ascii"]
    let first := if first.contains "utf_8" then first else first ++ ["utf_8"]
    let sample : Sample := ⟨bytes, size, pieceSize, steps, declared, signature⟩
    trySets sample (first ++ supportedSets) {}

/-- The name of the character set guessed for bytes, as it is reported; `none` when no set
reads them. An error names the set whose decoder broke down. -/
def guess (bytes : List Nat) : Except String (Option String) := do
  let ranked ← candidates bytes
  pure (ranked.head?.map fun best =>
    let name := if best.encoding == "utf_8" && best.marked then "utf_8_sig" else best.encoding
    (reportedNames.lookup name).getD name)

end Bookmarks.Charset
