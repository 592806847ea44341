/-!
# MD5

The MD5 message digest of RFC 1321: four 32-bit chaining words, a compression
function of 64 steps over a block of sixteen little-endian words, and a
padding that ends the message with a one bit, zeros and the 64-bit bit length.

`compress` is the compression function, `hash` the digest of a whole message.
The buffered hashers of `Basis.Digest.Buffered` feed the same `compress`.
-/

namespace Basis.Digest.Md5

/-- The four chaining words. -/
structure Chain where
  /-- The first word. -/
  a : UInt32
  /-- The second word. -/
  b : UInt32
  /-- The third word. -/
  c : UInt32
  /-- The fourth word. -/
  d : UInt32
  deriving DecidableEq, Repr, Inhabited

/-- The chaining words before the first block. -/
def Chain.init : Chain := ⟨0x67452301, 0xefcdab89, 0x98badcfe, 0x10325476⟩

/-- The additive constants of the 64 steps, the integer parts of `2^32 · |sin (i+1)|`. -/
def constants : Array UInt32 := #[
  0xD76AA478, 0xE8C7B756, 0x242070DB, 0xC1BDCEEE, 0xF57C0FAF, 0x4787C62A, 0xA8304613, 0xFD469501,
  0x698098D8, 0x8B44F7AF, 0xFFFF5BB1, 0x895CD7BE, 0x6B901122, 0xFD987193, 0xA679438E, 0x49B40821,
  0xF61E2562, 0xC040B340, 0x265E5A51, 0xE9B6C7AA, 0xD62F105D, 0x02441453, 0xD8A1E681, 0xE7D3FBC8,
  0x21E1CDE6, 0xC33707D6, 0xF4D50D87, 0x455A14ED, 0xA9E3E905, 0xFCEFA3F8, 0x676F02D9, 0x8D2A4C8A,
  0xFFFA3942, 0x8771F681, 0x6D9D6122, 0xFDE5380C, 0xA4BEEA44, 0x4BDECFA9, 0xF6BB4B60, 0xBEBFBC70,
  0x289B7EC6, 0xEAA127FA, 0xD4EF3085, 0x04881D05, 0xD9D4D039, 0xE6DB99E5, 0x1FA27CF8, 0xC4AC5665,
  0xF4292244, 0x432AFF97, 0xAB9423A7, 0xFC93A039, 0x655B59C3, 0x8F0CCC92, 0xFFEFF47D, 0x85845DD1,
  0x6FA87E4F, 0xFE2CE6E0, 0xA3014314, 0x4E0811A1, 0xF7537E82, 0xBD3AF235, 0x2AD7D2BB, 0xEB86D391]

/-- The rotation of each round's four steps. -/
def rotations : Array (Array UInt32) := #[#[7, 12, 17, 22], #[5, 9, 14, 20], #[4, 11, 16, 23], #[6, 10, 15, 21]]

/-- Rotates a word left. -/
def rotl (x : UInt32) (n : UInt32) : UInt32 := (x <<< n) ||| (x >>> (32 - n))

/-- The nonlinear function of a round. -/
def mix (round : Nat) (x y z : UInt32) : UInt32 :=
  match round with
  | 0 => (x &&& y) ||| (~~~x &&& z)
  | 1 => (x &&& z) ||| (y &&& ~~~z)
  | 2 => x ^^^ y ^^^ z
  | _ => y ^^^ (x ||| ~~~z)

/-- The block word that step `i` reads. -/
def wordIndex (i : Nat) : Nat :=
  match i / 16 with
  | 0 => i
  | 1 => (5 * i + 1) % 16
  | 2 => (3 * i + 5) % 16
  | _ => (7 * i) % 16

/-- One step: the chain is rotated by one word, and the new second word takes in
a block word, a constant and the round's function. -/
def step (block : List UInt32) (s : Chain) (i : Nat) : Chain :=
  let r := i / 16
  let f := s.a + mix r s.b s.c s.d + block.getD (wordIndex i) 0 + constants.getD i 0
  let rot := (rotations.getD r #[]).getD (i % 4) 0
  ⟨s.d, s.b + rotl f rot, s.b, s.c⟩

/-- The compression function: the 64 steps over a block of sixteen words, then
the result added word by word to the chain it started from. -/
def compress (s : Chain) (block : List UInt32) : Chain :=
  let t := (List.range 64).foldl (step block) s
  ⟨s.a + t.a, s.b + t.b, s.c + t.c, s.d + t.d⟩

/-- A little-endian word of four bytes. -/
def wordLE (b0 b1 b2 b3 : UInt8) : UInt32 :=
  b0.toUInt32 ||| (b1.toUInt32 <<< 8) ||| (b2.toUInt32 <<< 16) ||| (b3.toUInt32 <<< 24)

/-- The little-endian words of a list of bytes, four bytes to a word. -/
def wordsLE : List UInt8 → List UInt32
  | b0 :: b1 :: b2 :: b3 :: rest => wordLE b0 b1 b2 b3 :: wordsLE rest
  | _ => []

/-- The four bytes of a word, least significant first. -/
def bytesLE (w : UInt32) : List UInt8 :=
  [w.toUInt8, (w >>> 8).toUInt8, (w >>> 16).toUInt8, (w >>> 24).toUInt8]

/-- The digest text of a chain: its words, least significant byte first. -/
def Chain.bytes (s : Chain) : List UInt8 := bytesLE s.a ++ bytesLE s.b ++ bytesLE s.c ++ bytesLE s.d

/-- The padded message: a one bit, zeros up to 56 bytes modulo 64, then the bit
length as eight little-endian bytes. -/
def pad (msg : List UInt8) : List UInt8 :=
  let zeros := (119 - msg.length % 64) % 64
  let bits := msg.length * 8
  msg ++ [(0x80 : UInt8)] ++ List.replicate zeros (0 : UInt8) ++ (List.range 8).map (fun i => (bits >>> (8 * i)).toUInt8)

/-- The 64-byte blocks of a padded message. -/
def blocks (bs : List UInt8) : List (List UInt8) :=
  if _h : bs.length ≤ 64 then [bs] else bs.take 64 :: blocks (bs.drop 64)
termination_by bs.length
decreasing_by simp only [List.length_drop]; omega

/-- The MD5 digest of a message, as RFC 1321 defines it. -/
def hash (msg : List UInt8) : List UInt8 :=
  ((blocks (pad msg)).foldl (fun s blk => compress s (wordsLE blk)) Chain.init).bytes

end Basis.Digest.Md5
