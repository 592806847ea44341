import Basis.Value.Sequence
import Basis.Digest.Sha256
import Basis.Digest.Sha512

/-!
# SHA-2 hashers

A SHA-2 hasher counts the bits of its message in a 32-bit low count and a high
count, and finishes a digest in a block buffer that it shares with every copy
made from it. The four variants differ in word width, block size, initial words
and digest length (`Variant`).

It takes its message as a text, one byte per character, but a character is no
byte: a non-empty text advances the count and then fails, and anything that is
not a text fails before it is counted. So no byte of a message ever reaches the
block buffer, the chaining words never leave their initial values, and a digest
is that of the bytes left in the shared buffer, up to the count. A digest marks
the end of the message in the shared buffer itself, at the position of the
count, and then completes a private copy of it: so every digest leaves a byte
`0x80` behind for later digests of the family.
-/

namespace Basis.Digest.Sha2

/-- The four SHA-2 digests. -/
inductive Variant where
  /-- SHA-224. -/
  | sha224
  /-- SHA-256. -/
  | sha256
  /-- SHA-384. -/
  | sha384
  /-- SHA-512. -/
  | sha512
  deriving DecidableEq, Repr, Inhabited

namespace Variant

/-- The number of bytes of a block. -/
def blockSize : Variant → Nat
  | sha224 | sha256 => 64
  | sha384 | sha512 => 128

/-- The number of bytes of a digest. -/
def digestSize : Variant → Nat
  | sha224 => 28
  | sha256 => 32
  | sha384 => 48
  | sha512 => 64

/-- The end mark at a position below this leaves room for the length in the
same block. -/
def markLimit : Variant → Nat
  | sha224 | sha256 => 56
  | sha384 | sha512 => 112

/-- The name of the hasher's class. -/
def className : Variant → String
  | sha224 => "sha224"
  | sha256 => "sha256"
  | sha384 => "sha384"
  | sha512 => "sha512"

/-- The bytes of the chaining words after compressing blocks, from the
variant's initial words. -/
def compressAll (v : Variant) (blocks : List (List UInt8)) : List UInt8 :=
  match v with
  | sha224 => (blocks.foldl Sha256.compress Sha256.initial224).flatMap Sha256.bytesBE
  | sha256 => (blocks.foldl Sha256.compress Sha256.initial256).flatMap Sha256.bytesBE
  | sha384 => (blocks.foldl Sha512.compress Sha512.initial384).flatMap Sha512.bytesBE
  | sha512 => (blocks.foldl Sha512.compress Sha512.initial512).flatMap Sha512.bytesBE

end Variant

/-- What one hasher keeps of its own. -/
structure Hasher where
  /-- Which digest it computes. -/
  variant : Variant
  /-- The bit count modulo 2^32. -/
  low : Nat
  /-- The wrap-arounds of the low count, and the updates of 2^29 bytes or more. -/
  high : Nat
  deriving DecidableEq, Repr, Inhabited

namespace Hasher

/-- A hasher that has taken nothing in. -/
def fresh (v : Variant) : Hasher := ⟨v, 0, 0⟩

/-- The block buffer of a new family of hashers: all zeros. -/
def freshBlock (v : Variant) : List UInt8 := List.replicate v.blockSize 0

/-- Counts a text of `n` characters. -/
def count (h : Hasher) (n : Nat) : Hasher :=
  let low := (h.low + n * 8) % Nat.pow 2 32
  let high := (if low < h.low then h.high + 1 else h.high) + n / Nat.pow 2 29
  { h with low, high }

/-- Takes in a message part: a text is counted, and fails unless it is empty;
any other value fails uncounted. -/
def update (h : Hasher) (data : Value) : Hasher × Except Failure Unit :=
  match data with
  | .str s =>
    let h' := h.count s.length
    if s.isEmpty then (h', .ok ()) else (h', .error (.typeError "a bytes-like object is required, not 'str'"))
  | _ => (h, .error (.nameError "name 'buffer' is not defined"))

/-- The eight big-endian bytes of the two counts, high count first, each as a
32-bit word. -/
def lengthBytes (h : Hasher) : List UInt8 :=
  [h.high >>> 24, h.high >>> 16, h.high >>> 8, h.high, h.low >>> 24, h.low >>> 16, h.low >>> 8, h.low].map
    Nat.toUInt8

/-- The digest of the message so far, with the shared block buffer after it.
The end mark goes into the shared buffer at the count's position; a private
copy keeps the buffer up to the mark and zeros after it. If the mark is not
below the variant's limit, that block is compressed and a block of zeros
follows. The last block ends with the eight bytes of the counts. -/
def digest (h : Hasher) (shared : List UInt8) : List UInt8 × List UInt8 :=
  let size := h.variant.blockSize
  let pos := h.low / 8 % size
  let marked := shared.set pos 0x80
  let filled := marked.take (pos + 1) ++ List.replicate (size - (pos + 1)) 0
  let (before, last) :=
    if pos + 1 > h.variant.markLimit then ([filled], List.replicate size 0) else ([], filled)
  (marked, (h.variant.compressAll (before ++ [last.take (size - 8) ++ h.lengthBytes])).take h.variant.digestSize)

end Hasher

end Basis.Digest.Sha2
