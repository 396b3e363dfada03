import Bookmarks.Codec.Basic
import Bookmarks.Codec.Tables
/-!
The single-byte decoders: ASCII, Latin-1, and every character set given by a table of the 256
code points its bytes stand for, U+FFFE marking a byte that stands for nothing. Each byte is one
piece.
-/
namespace Bookmarks.Codec

/-- The tables of the single-byte character sets as arrays, read once. -/
def tableArrays : List (String × Array Nat) :=
  byteTables.map fun (name, table) => (name, (table.toList.map Char.toNat).toArray)

/-- The table of a single-byte character set, if it has one. -/
def tableOf? (name : String) : Option (Array Nat) := tableArrays.lookup name

/-- Reads bytes below 128 as themselves; a larger byte cannot be read. -/
def asciiPieces (bytes : List Nat) : List Piece :=
  bytes.map fun b => if b < 0x80 then .point b else .bad

/-- Reads bytes through a table. -/
def tablePieces (table : Array Nat) (bytes : List Nat) : List Piece :=
  bytes.map fun b =>
    let c := table.getD b 0xFFFE
    if c = 0xFFFE then .bad else .point c

end Bookmarks.Codec
