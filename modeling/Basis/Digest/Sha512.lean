/-!
# SHA-512 and SHA-384

The SHA-512 compression function of FIPS 180-4 over 64-bit words, and the
digests SHA-512 and SHA-384 of whole messages. SHA-384 is SHA-512 from other
initial words, cut to its first 48 bytes.
-/

namespace Basis.Digest.Sha512

/-- The round constants, the first 64 bits of the fractional parts of the cube
roots of the first 80 primes. -/
def constants : Array UInt64 := #[
  0x428a2f98d728ae22, 0x7137449123ef65cd, 0xb5c0fbcfec4d3b2f, 0xe9b5dba58189dbbc, 0x3956c25bf348b538,
  0x59f111f1b605d019, 0x923f82a4af194f9b, 0xab1c5ed5da6d8118, 0xd807aa98a3030242, 0x12835b0145706fbe,
  0x243185be4ee4b28c, 0x550c7dc3d5ffb4e2, 0x72be5d74f27b896f, 0x80deb1fe3b1696b1, 0x9bdc06a725c71235,
  0xc19bf174cf692694, 0xe49b69c19ef14ad2, 0xefbe4786384f25e3, 0x0fc19dc68b8cd5b5, 0x240ca1cc77ac9c65,
  0x2de92c6f592b0275, 0x4a7484aa6ea6e483, 0x5cb0a9dcbd41fbd4, 0x76f988da831153b5, 0x983e5152ee66dfab,
  0xa831c66d2db43210, 0xb00327c898fb213f, 0xbf597fc7beef0ee4, 0xc6e00bf33da88fc2, 0xd5a79147930aa725,
  0x06ca6351e003826f, 0x142929670a0e6e70, 0x27b70a8546d22ffc, 0x2e1b21385c26c926, 0x4d2c6dfc5ac42aed,
  0x53380d139d95b3df, 0x650a73548baf63de, 0x766a0abb3c77b2a8, 0x81c2c92e47edaee6, 0x92722c851482353b,
  0xa2bfe8a14cf10364, 0xa81a664bbc423001, 0xc24b8b70d0f89791, 0xc76c51a30654be30, 0xd192e819d6ef5218,
  0xd69906245565a910, 0xf40e35855771202a, 0x106aa07032bbd1b8, 0x19a4c116b8d2d0c8, 0x1e376c085141ab53,
  0x2748774cdf8eeb99, 0x34b0bcb5e19b48a8, 0x391c0cb3c5c95a63, 0x4ed8aa4ae3418acb, 0x5b9cca4f7763e373,
  0x682e6ff3d6b2b8a3, 0x748f82ee5defb2fc, 0x78a5636f43172f60, 0x84c87814a1f0ab72, 0x8cc702081a6439ec,
  0x90befffa23631e28, 0xa4506cebde82bde9, 0xbef9a3f7b2c67915, 0xc67178f2e372532b, 0xca273eceea26619c,
  0xd186b8c721c0c207, 0xeada7dd6cde0eb1e, 0xf57d4f7fee6ed178, 0x06f067aa72176fba, 0x0a637dc5a2c898a6,
  0x113f9804bef90dae, 0x1b710b35131c471b, 0x28db77f523047d84, 0x32caab7b40c72493, 0x3c9ebe0a15c9bebc,
  0x431d67c49c100d4c, 0x4cc5d4becb3e42b6, 0x597f299cfc657e2a, 0x5fcb6fab3ad6faec, 0x6c44198c4a475817]

/-- The initial words of SHA-512. -/
def initial512 : List UInt64 :=
  [0x6a09e667f3bcc908, 0xbb67ae8584caa73b, 0x3c6ef372fe94f82b, 0xa54ff53a5f1d36f1,
   0x510e527fade682d1, 0x9b05688c2b3e6c1f, 0x1f83d9abfb41bd6b, 0x5be0cd19137e2179]

/-- The initial words of SHA-384. -/
def initial384 : List UInt64 :=
  [0xcbbb9d5dc1059ed8, 0x629a292a367cd507, 0x9159015a3070dd17, 0x152fecd8f70e5939,
   0x67332667ffc00b31, 0x8eb44a8768581511, 0xdb0c2e0d64f98fa7, 0x47b5481dbefa4fa4]

/-- Rotates a word right. -/
def rotr (x : UInt64) (n : UInt64) : UInt64 := (x >>> n) ||| (x <<< (64 - n))

/-- The first function of the message schedule. -/
def gamma0 (x : UInt64) : UInt64 := rotr x 1 ^^^ rotr x 8 ^^^ (x >>> 7)

/-- The second function of the message schedule. -/
def gamma1 (x : UInt64) : UInt64 := rotr x 19 ^^^ rotr x 61 ^^^ (x >>> 6)

/-- The upper-case sigma of the first working word. -/
def sigma0 (x : UInt64) : UInt64 := rotr x 28 ^^^ rotr x 34 ^^^ rotr x 39

/-- The upper-case sigma of the fifth working word. -/
def sigma1 (x : UInt64) : UInt64 := rotr x 14 ^^^ rotr x 18 ^^^ rotr x 41

/-- The choice function: bits of `y` where `x` is set, of `z` elsewhere. -/
def choose (x y z : UInt64) : UInt64 := z ^^^ (x &&& (y ^^^ z))

/-- The majority function. -/
def majority (x y z : UInt64) : UInt64 := ((x ||| y) &&& z) ||| (x &&& y)

/-- The big-endian word of eight bytes from position `i`. -/
def wordAt (block : List UInt8) (i : Nat) : UInt64 :=
  (List.range 8).foldl (fun w k => (w <<< 8) ||| (block.getD (i + k) 0).toUInt64) 0

/-- The 80 schedule words: the block's sixteen, then each from four earlier ones. -/
def schedule (block : List UInt8) : Array UInt64 :=
  (List.range' 16 64).foldl
    (fun w t => w.push (gamma1 (w.getD (t - 2) 0) + w.getD (t - 7) 0 + gamma0 (w.getD (t - 15) 0) + w.getD (t - 16) 0))
    ((List.range 16).map fun i => wordAt block (8 * i)).toArray

/-- One round on the eight working words. -/
def round (w : Array UInt64) (s : List UInt64) (t : Nat) : List UInt64 :=
  match s with
  | [a, b, c, d, e, f, g, h] =>
    let t0 := h + sigma1 e + choose e f g + constants.getD t 0 + w.getD t 0
    let t1 := sigma0 a + majority a b c
    [t0 + t1, a, b, c, d + t0, e, f, g]
  | _ => s

/-- The compression function: 80 rounds, then the sum with the starting words. -/
def compress (s : List UInt64) (block : List UInt8) : List UInt64 :=
  let w := schedule block
  List.zipWith (· + ·) s ((List.range 80).foldl (round w) s)

/-- The eight bytes of a word, most significant first. -/
def bytesBE (w : UInt64) : List UInt8 :=
  (List.range 8).reverse.map fun i => (w >>> (8 * i.toUInt64)).toUInt8

/-- The padded message: a one bit, zeros up to 112 bytes modulo 128, then the bit
length as sixteen big-endian bytes. -/
def pad (msg : List UInt8) : List UInt8 :=
  let zeros := (239 - msg.length % 128) % 128
  let bits := msg.length * 8
  msg ++ [(0x80 : UInt8)] ++ List.replicate zeros (0 : UInt8) ++ (List.range 16).reverse.map (fun i => (bits >>> (8 * i)).toUInt8)

/-- The 128-byte blocks of a padded message. -/
def blocks (bs : List UInt8) : List (List UInt8) :=
  if _h : bs.length ≤ 128 then [bs] else bs.take 128 :: blocks (bs.drop 128)
termination_by bs.length
decreasing_by simp only [List.length_drop]; omega

/-- The digest of a message from given initial words, before any cut. -/
def hashFrom (init : List UInt64) (msg : List UInt8) : List UInt8 :=
  ((blocks (pad msg)).foldl compress init).flatMap bytesBE

/-- The SHA-512 digest of a message. -/
def hash (msg : List UInt8) : List UInt8 := hashFrom initial512 msg

/-- The SHA-384 digest of a message. -/
def hash384 (msg : List UInt8) : List UInt8 := (hashFrom initial384 msg).take 48

end Basis.Digest.Sha512
