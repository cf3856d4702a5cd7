/-!
# MD5

The MD5 message digest (RFC 1321) of a sequence of bytes, and its lower-case hexadecimal text.
The message is padded with a one bit, zeros and its length in bits to a whole number of
64-byte blocks; each block is mixed into four 32-bit words in 64 steps, four rounds of
sixteen, and the digest is the four words' bytes, least significant first. Words wrap
around, as the standard's arithmetic is modulo 2^32.
-/

namespace Scrobbler

namespace Md5

/-- The additive constants, `⌊2^32 · |sin (i + 1)|⌋`. -/
def constants : Array UInt32 := #[
   0xd76aa478, 0xe8c7b756, 0x242070db, 0xc1bdceee,
   0xf57c0faf, 0x4787c62a, 0xa8304613, 0xfd469501,
   0x698098d8, 0x8b44f7af, 0xffff5bb1, 0x895cd7be,
   0x6b901122, 0xfd987193, 0xa679438e, 0x49b40821,
   0xf61e2562, 0xc040b340, 0x265e5a51, 0xe9b6c7aa,
   0xd62f105d, 0x02441453, 0xd8a1e681, 0xe7d3fbc8,
   0x21e1cde6, 0xc33707d6, 0xf4d50d87, 0x455a14ed,
   0xa9e3e905, 0xfcefa3f8, 0x676f02d9, 0x8d2a4c8a,
   0xfffa3942, 0x8771f681, 0x6d9d6122, 0xfde5380c,
   0xa4beea44, 0x4bdecfa9, 0xf6bb4b60, 0xbebfbc70,
   0x289b7ec6, 0xeaa127fa, 0xd4ef3085, 0x04881d05,
   0xd9d4d039, 0xe6db99e5, 0x1fa27cf8, 0xc4ac5665,
   0xf4292244, 0x432aff97, 0xab9423a7, 0xfc93a039,
   0x655b59c3, 0x8f0ccc92, 0xffeff47d, 0x85845dd1,
   0x6fa87e4f, 0xfe2ce6e0, 0xa3014314, 0x4e0811a1,
   0xf7537e82, 0xbd3af235, 0x2ad7d2bb, 0xeb86d391]

/-- The rotation amounts of the 64 steps. -/
def shifts : Array UInt32 := #[
   7, 12, 17, 22, 7, 12, 17, 22, 7, 12, 17, 22, 7, 12, 17, 22,
   5, 9, 14, 20, 5, 9, 14, 20, 5, 9, 14, 20, 5, 9, 14, 20,
   4, 11, 16, 23, 4, 11, 16, 23, 4, 11, 16, 23, 4, 11, 16, 23,
   6, 10, 15, 21, 6, 10, 15, 21, 6, 10, 15, 21, 6, 10, 15, 21]

/-- The four state words. -/
structure State where
  /-- First word. -/
  a : UInt32
  /-- Second word. -/
  b : UInt32
  /-- Third word. -/
  c : UInt32
  /-- Fourth word. -/
  d : UInt32

/-- The state before the first block. -/
def State.initial : State := ⟨0x67452301, 0xefcdab89, 0x98badcfe, 0x10325476⟩

/-- Rotation of a word to the left. -/
def rotateLeft (x s : UInt32) : UInt32 := (x <<< s) ||| (x >>> (32 - s))

/-- The little-endian word at byte offset `4 * j` of a block. -/
def word (block : Array UInt8) (j : Nat) : UInt32 :=
  (block.getD (4 * j) 0).toUInt32 ||| ((block.getD (4 * j + 1) 0).toUInt32 <<< 8) |||
    ((block.getD (4 * j + 2) 0).toUInt32 <<< 16) ||| ((block.getD (4 * j + 3) 0).toUInt32 <<< 24)

/-- Step `i` of the 64 steps over the block's words `m`. -/
def step (m : Array UInt32) (s : State) (i : Nat) : State :=
  let (f, g) :=
    if i < 16 then ((s.b &&& s.c) ||| (~~~s.b &&& s.d), i)
    else if i < 32 then ((s.d &&& s.b) ||| (~~~s.d &&& s.c), (5 * i + 1) % 16)
    else if i < 48 then (s.b ^^^ s.c ^^^ s.d, (3 * i + 5) % 16)
    else (s.c ^^^ (s.b ||| ~~~s.d), (7 * i) % 16)
  let f := f + s.a + constants.getD i 0 + m.getD g 0
  ⟨s.d, s.b + rotateLeft f (shifts.getD i 0), s.b, s.c⟩

/-- Mixes one 64-byte block into the state. -/
def State.absorb (s : State) (block : Array UInt8) : State :=
  let m := (Array.range 16).map (word block)
  let t := (List.range 64).foldl (step m) s
  ⟨s.a + t.a, s.b + t.b, s.c + t.c, s.d + t.d⟩

/-- The message with its padding: a one bit, zeros up to 56 bytes past a block boundary, and
the bit length as eight little-endian bytes. -/
def pad (msg : List UInt8) : List UInt8 :=
  let bits := 8 * msg.length
  let zeros := (119 - msg.length % 64) % 64
  msg ++ [0x80] ++ List.replicate zeros 0 ++ (List.range 8).map (fun k => (bits / Nat.pow 2 (8 * k)).toUInt8)

/-- Absorbs whole blocks of a padded message. -/
def State.absorbAll (s : State) (bytes : List UInt8) : State :=
  if bytes.length < 64 then s
  else (s.absorb (bytes.take 64).toArray).absorbAll (bytes.drop 64)
termination_by bytes.length
decreasing_by simp_wf; omega

/-- The sixteen bytes of a state, each word least significant byte first. -/
def State.bytes (s : State) : List UInt8 :=
  [s.a, s.b, s.c, s.d].flatMap fun w => (List.range 4).map fun k => (w >>> (8 * k).toUInt32).toUInt8

/-- The digest of a message. -/
def digest (msg : List UInt8) : List UInt8 :=
  (State.initial.absorbAll (pad msg)).bytes

/-- Two lower-case hexadecimal digits of a byte. -/
def hexByte (b : UInt8) : String :=
  let hex := "0123456789abcdef".toList
  String.ofList [hex.getD (b.toNat / 16) '0', hex.getD (b.toNat % 16) '0']

/-- The digest of a text's UTF-8 bytes, in lower-case hexadecimal. -/
def hexDigest (s : String) : String :=
  String.join ((digest s.toUTF8.toList).map hexByte)

end Md5

end Scrobbler
