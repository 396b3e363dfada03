import Bookmarks.Text.Basic
/-!
The MD5 digest of a byte sequence (RFC 1321), written as 32 small hexadecimal digits. The
cover cache names a bookmark's image file by the digest of its URL's UTF-8 bytes.

The message is padded with a one bit, zeros up to 56 bytes modulo 64, and its length in bits
as eight little-endian bytes; each 64-byte block then runs 64 rounds over four 32-bit words
whose arithmetic wraps, as the standard defines it.
-/
namespace Bookmarks.Md5

-- Powers are the core library's `instPowNat`, also where Mathlib's monoid power is in scope.
attribute [local instance (high)] instPowNat

/-- The round constants, the integer parts of `2^32 * |sin (i + 1)|`. -/
def constants : Array UInt32 := #[
  0xd76aa478, 0xe8c7b756, 0x242070db, 0xc1bdceee, 0xf57c0faf, 0x4787c62a, 0xa8304613,
  0xfd469501, 0x698098d8, 0x8b44f7af, 0xffff5bb1, 0x895cd7be, 0x6b901122, 0xfd987193,
  0xa679438e, 0x49b40821, 0xf61e2562, 0xc040b340, 0x265e5a51, 0xe9b6c7aa, 0xd62f105d,
  0x02441453, 0xd8a1e681, 0xe7d3fbc8, 0x21e1cde6, 0xc33707d6, 0xf4d50d87, 0x455a14ed,
  0xa9e3e905, 0xfcefa3f8, 0x676f02d9, 0x8d2a4c8a, 0xfffa3942, 0x8771f681, 0x6d9d6122,
  0xfde5380c, 0xa4beea44, 0x4bdecfa9, 0xf6bb4b60, 0xbebfbc70, 0x289b7ec6, 0xeaa127fa,
  0xd4ef3085, 0x04881d05, 0xd9d4d039, 0xe6db99e5, 0x1fa27cf8, 0xc4ac5665, 0xf4292244,
  0x432aff97, 0xab9423a7, 0xfc93a039, 0x655b59c3, 0x8f0ccc92, 0xffeff47d, 0x85845dd1,
  0x6fa87e4f, 0xfe2ce6e0, 0xa3014314, 0x4e0811a1, 0xf7537e82, 0xbd3af235, 0x2ad7d2bb,
  0xeb86d391]

/-- The rotation of each round. -/
def rotations : Array UInt32 := #[
  7, 12, 17, 22, 7, 12, 17, 22, 7, 12, 17, 22, 7, 12, 17, 22,
  5, 9, 14, 20, 5, 9, 14, 20, 5, 9, 14, 20, 5, 9, 14, 20,
  4, 11, 16, 23, 4, 11, 16, 23, 4, 11, 16, 23, 4, 11, 16, 23,
  6, 10, 15, 21, 6, 10, 15, 21, 6, 10, 15, 21, 6, 10, 15, 21]

/-- The four words of the state. -/
structure State where
  a : UInt32
  b : UInt32
  c : UInt32
  d : UInt32

/-- The state before the first block. -/
def initial : State := ⟨0x67452301, 0xefcdab89, 0x98badcfe, 0x10325476⟩

/-- Rotates a word left. -/
def rotateLeft (x s : UInt32) : UInt32 := (x <<< s) ||| (x >>> (32 - s))

/-- The mixing function and message word of round `i`. -/
def mix (i : Nat) (b c d : UInt32) : UInt32 × Nat :=
  if i < 16 then ((b &&& c) ||| (~~~b &&& d), i)
  else if i < 32 then ((d &&& b) ||| (~~~d &&& c), (5 * i + 1) % 16)
  else if i < 48 then (b ^^^ c ^^^ d, (3 * i + 5) % 16)
  else (c ^^^ (b ||| ~~~d), (7 * i) % 16)

/-- Round `i` over the block's sixteen words. -/
def round (words : Array UInt32) (s : State) (i : Nat) : State :=
  let (f, g) := mix i s.b s.c s.d
  let f := f + s.a + constants.getD i 0 + words.getD g 0
  ⟨s.d, s.b + rotateLeft f (rotations.getD i 0), s.b, s.c⟩

/-- The little-endian word of four bytes. -/
def word (bytes : List Nat) : UInt32 :=
  bytes.foldr (fun byte acc => acc * 256 + UInt32.ofNat byte) 0

/-- Runs one 64-byte block. -/
def block (s : State) (bytes : List Nat) : State :=
  let words := ((List.range 16).map fun k => word ((bytes.drop (4 * k)).take 4)).toArray
  let t := (List.range 64).foldl (round words) s
  ⟨s.a + t.a, s.b + t.b, s.c + t.c, s.d + t.d⟩

/-- The message with its padding and length. -/
def padded (bytes : List Nat) : List Nat :=
  let n := bytes.length
  let zeros := (55 + 64 - n % 64) % 64
  let bits := 8 * n
  bytes ++ 0x80 :: List.replicate zeros 0 ++ (List.range 8).map fun k => bits / 256 ^ k % 256

/-- Runs the blocks from the state; `fuel` counts the blocks left. -/
def blocks (s : State) (bytes : List Nat) : Nat → State
  | 0 => s
  | fuel + 1 => blocks (block s (bytes.take 64)) (bytes.drop 64) fuel

/-- The little-endian bytes of a word. -/
def wordBytes (w : UInt32) : List Nat :=
  (List.range 4).map fun k => w.toNat / 256 ^ k % 256

/-- The digest of a byte sequence, as 32 small hexadecimal digits. -/
def hexDigest (bytes : List Nat) : Text :=
  let p := padded bytes
  let s := blocks initial p (p.length / 64)
  ([s.a, s.b, s.c, s.d].flatMap wordBytes).flatMap (Text.hexPadded 2)

end Bookmarks.Md5
