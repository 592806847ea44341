/-!
# SHA-1

The SHA-1 digest of FIPS 180-1: five 32-bit chaining words, a message schedule
of eighty words expanded from a block of sixteen big-endian words, and eighty
steps in four rounds.

The words of a block are taken as natural numbers, since the buffered hashers
of `Basis.Digest.Buffered` may assemble a word from character codes above 255;
the schedule then keeps the high bits that such a word brings into its first
rotations, and every later quantity is a 32-bit word. For sixteen words below
`2^32` this is the standard schedule.
-/

namespace Basis.Digest.Sha1

/-- The five chaining words. -/
structure Chain where
  /-- The first word. -/
  h0 : UInt32
  /-- The second word. -/
  h1 : UInt32
  /-- The third word. -/
  h2 : UInt32
  /-- The fourth word. -/
  h3 : UInt32
  /-- The fifth word. -/
  h4 : UInt32
  deriving DecidableEq, Repr, Inhabited

/-- The chaining words before the first block. -/
def Chain.init : Chain := ⟨0x67452301, 0xEFCDAB89, 0x98BADCFE, 0x10325476, 0xC3D2E1F0⟩

/-- The chaining words as a list. -/
def Chain.words (s : Chain) : List UInt32 := [s.h0, s.h1, s.h2, s.h3, s.h4]

/-- Rotates a word left. -/
def rotl (x : UInt32) (n : UInt32) : UInt32 := (x <<< n) ||| (x >>> (32 - n))

/-- Schedule word `t`: the exclusive or of words `t-3`, `t-8`, `t-14` and `t-16`,
rotated left by one bit; the bits of a wide word above bit 31 are ORed into the
low end. -/
def expand (w : Array Nat) (t : Nat) : Nat :=
  let x := w.getD (t - 3) 0 ^^^ w.getD (t - 8) 0 ^^^ w.getD (t - 14) 0 ^^^ w.getD (t - 16) 0
  ((x <<< 1) ||| (x >>> 31)) % Nat.pow 2 32

/-- The schedule of a block: its words, then the 64 expanded words. A block of
sixteen words gives the standard eighty; a longer one keeps its extra words in
front of the expanded ones, which are still computed for positions 16 to 79. -/
def schedule (block : List Nat) : Array Nat :=
  (List.range' 16 64).foldl (fun w t => w.push (expand w t)) block.toArray

/-- The round function and constant of step `t`. -/
def roundMix (t : Nat) (b c d : UInt32) : UInt32 × UInt32 :=
  match t / 20 with
  | 0 => ((b &&& c) ||| (~~~b &&& d), 0x5A827999)
  | 1 => (b ^^^ c ^^^ d, 0x6ED9EBA1)
  | 2 => ((b &&& c) ||| (b &&& d) ||| (c &&& d), 0x8F1BBCDC)
  | _ => (b ^^^ c ^^^ d, 0xCA62C1D6)

/-- One step of the eighty. -/
def step (w : Array Nat) (s : Chain) (t : Nat) : Chain :=
  let (f, k) := roundMix t s.h1 s.h2 s.h3
  let temp := rotl s.h0 5 + f + s.h4 + UInt32.ofNat (w.getD t 0) + k
  ⟨temp, s.h0, rotl s.h1 30, s.h2, s.h3⟩

/-- The compression function: eighty steps, then the sum with the starting chain. -/
def compress (s : Chain) (block : List Nat) : Chain :=
  let w := schedule block
  let t := (List.range 80).foldl (step w) s
  ⟨s.h0 + t.h0, s.h1 + t.h1, s.h2 + t.h2, s.h3 + t.h3, s.h4 + t.h4⟩

/-- The big-endian words of a list of bytes, four bytes to a word. -/
def wordsBE : List UInt8 → List Nat
  | b0 :: b1 :: b2 :: b3 :: rest =>
    (b0.toNat <<< 24 ||| b1.toNat <<< 16 ||| b2.toNat <<< 8 ||| b3.toNat) :: wordsBE rest
  | _ => []

/-- The four bytes of a word, most significant first. -/
def bytesBE (w : UInt32) : List UInt8 :=
  [(w >>> 24).toUInt8, (w >>> 16).toUInt8, (w >>> 8).toUInt8, w.toUInt8]

/-- The padded message: a one bit, zeros up to 56 bytes modulo 64, then the bit
length as eight big-endian bytes. -/
def pad (msg : List UInt8) : List UInt8 :=
  let zeros := (119 - msg.length % 64) % 64
  let bits := msg.length * 8
  msg ++ [(0x80 : UInt8)] ++ List.replicate zeros (0 : UInt8) ++ (List.range 8).reverse.map (fun i => (bits >>> (8 * i)).toUInt8)

/-- The 64-byte blocks of a padded message. -/
def blocks (bs : List UInt8) : List (List UInt8) :=
  if _h : bs.length ≤ 64 then [bs] else bs.take 64 :: blocks (bs.drop 64)
termination_by bs.length
decreasing_by simp only [List.length_drop]; omega

/-- The SHA-1 digest of a message, as FIPS 180-1 defines it. -/
def hash (msg : List UInt8) : List UInt8 :=
  ((blocks (pad msg)).foldl (fun s blk => compress s (wordsBE blk)) Chain.init).words.flatMap bytesBE

end Basis.Digest.Sha1
