/-!
# SHA-256 and SHA-224

The SHA-256 compression function of FIPS 180-4 over 32-bit words, and the
digests SHA-256 and SHA-224 of whole messages. SHA-224 is SHA-256 from other
initial words, cut to its first 28 bytes.
-/

namespace Basis.Digest.Sha256

/-- The round constants, the first 32 bits of the fractional parts of the cube
roots of the first 64 primes. -/
def constants : Array UInt32 := #[
  0x428a2f98, 0x71374491, 0xb5c0fbcf, 0xe9b5dba5, 0x3956c25b, 0x59f111f1, 0x923f82a4, 0xab1c5ed5,
  0xd807aa98, 0x12835b01, 0x243185be, 0x550c7dc3, 0x72be5d74, 0x80deb1fe, 0x9bdc06a7, 0xc19bf174,
  0xe49b69c1, 0xefbe4786, 0x0fc19dc6, 0x240ca1cc, 0x2de92c6f, 0x4a7484aa, 0x5cb0a9dc, 0x76f988da,
  0x983e5152, 0xa831c66d, 0xb00327c8, 0xbf597fc7, 0xc6e00bf3, 0xd5a79147, 0x06ca6351, 0x14292967,
  0x27b70a85, 0x2e1b2138, 0x4d2c6dfc, 0x53380d13, 0x650a7354, 0x766a0abb, 0x81c2c92e, 0x92722c85,
  0xa2bfe8a1, 0xa81a664b, 0xc24b8b70, 0xc76c51a3, 0xd192e819, 0xd6990624, 0xf40e3585, 0x106aa070,
  0x19a4c116, 0x1e376c08, 0x2748774c, 0x34b0bcb5, 0x391c0cb3, 0x4ed8aa4a, 0x5b9cca4f, 0x682e6ff3,
  0x748f82ee, 0x78a5636f, 0x84c87814, 0x8cc70208, 0x90befffa, 0xa4506ceb, 0xbef9a3f7, 0xc67178f2]

/-- The initial words of SHA-256. -/
def initial256 : List UInt32 :=
  [0x6A09E667, 0xBB67AE85, 0x3C6EF372, 0xA54FF53A, 0x510E527F, 0x9B05688C, 0x1F83D9AB, 0x5BE0CD19]

/-- The initial words of SHA-224. -/
def initial224 : List UInt32 :=
  [0xc1059ed8, 0x367cd507, 0x3070dd17, 0xf70e5939, 0xffc00b31, 0x68581511, 0x64f98fa7, 0xbefa4fa4]

/-- Rotates a word right. -/
def rotr (x : UInt32) (n : UInt32) : UInt32 := (x >>> n) ||| (x <<< (32 - n))

/-- The first function of the message schedule. -/
def gamma0 (x : UInt32) : UInt32 := rotr x 7 ^^^ rotr x 18 ^^^ (x >>> 3)

/-- The second function of the message schedule. -/
def gamma1 (x : UInt32) : UInt32 := rotr x 17 ^^^ rotr x 19 ^^^ (x >>> 10)

/-- The upper-case sigma of the first working word. -/
def sigma0 (x : UInt32) : UInt32 := rotr x 2 ^^^ rotr x 13 ^^^ rotr x 22

/-- The upper-case sigma of the fifth working word. -/
def sigma1 (x : UInt32) : UInt32 := rotr x 6 ^^^ rotr x 11 ^^^ rotr x 25

/-- The choice function: bits of `y` where `x` is set, of `z` elsewhere. -/
def choose (x y z : UInt32) : UInt32 := z ^^^ (x &&& (y ^^^ z))

/-- The majority function. -/
def majority (x y z : UInt32) : UInt32 := ((x ||| y) &&& z) ||| (x &&& y)

/-- The big-endian words of a block of 64 bytes. -/
def blockWords (block : List UInt8) : List UInt32 :=
  (List.range 16).map fun i =>
    (block.getD (4 * i) 0).toUInt32 <<< 24 ||| (block.getD (4 * i + 1) 0).toUInt32 <<< 16 |||
    (block.getD (4 * i + 2) 0).toUInt32 <<< 8 ||| (block.getD (4 * i + 3) 0).toUInt32

/-- The 64 schedule words: the block's sixteen, then each from four earlier ones. -/
def schedule (block : List UInt8) : Array UInt32 :=
  (List.range' 16 48).foldl
    (fun w t => w.push (gamma1 (w.getD (t - 2) 0) + w.getD (t - 7) 0 + gamma0 (w.getD (t - 15) 0) + w.getD (t - 16) 0))
    (blockWords block).toArray

/-- One round on the eight working words. -/
def round (w : Array UInt32) (s : List UInt32) (t : Nat) : List UInt32 :=
  match s with
  | [a, b, c, d, e, f, g, h] =>
    let t0 := h + sigma1 e + choose e f g + constants.getD t 0 + w.getD t 0
    let t1 := sigma0 a + majority a b c
    [t0 + t1, a, b, c, d + t0, e, f, g]
  | _ => s

/-- The compression function: 64 rounds, then the sum with the starting words. -/
def compress (s : List UInt32) (block : List UInt8) : List UInt32 :=
  let w := schedule block
  List.zipWith (· + ·) s ((List.range 64).foldl (round w) s)

/-- The four bytes of a word, most significant first. -/
def bytesBE (w : UInt32) : List UInt8 :=
  [(w >>> 24).toUInt8, (w >>> 16).toUInt8, (w >>> 8).toUInt8, w.toUInt8]

/-- The padded message: a one bit, zeros up to 56 bytes modulo 64, then the bit
length as eight big-endian bytes. -/
def pad (msg : List UInt8) : List UInt8 :=
  let zeros := (119 - msg.length % 64) % 64
  let bits := msg.length * 8
  msg ++ [(0x80 : UInt8)] ++ List.replicate zeros (0 : UInt8) ++ (List.range 8).reverse.map (fun i => (bits >>> (8 * i)).toUInt8)

/-- The 64-byte blocks of a padded message. -/
def blocks (bs : List UInt8) : List (List UInt8) :=
  if _h : bs.length ≤ 64 then [bs] else bs.take 64 :: blocks (bs.drop 64)
termination_by bs.length
decreasing_by simp only [List.length_drop]; omega

/-- The digest of a message from given initial words, before any cut. -/
def hashFrom (init : List UInt32) (msg : List UInt8) : List UInt8 :=
  ((blocks (pad msg)).foldl compress init).flatMap bytesBE

/-- The SHA-256 digest of a message. -/
def hash (msg : List UInt8) : List UInt8 := hashFrom initial256 msg

/-- The SHA-224 digest of a message. -/
def hash224 (msg : List UInt8) : List UInt8 := (hashFrom initial224 msg).take 28

end Basis.Digest.Sha256
