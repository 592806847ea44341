import Basis.Value.Sequence
import Basis.Digest.Md5
import Basis.Digest.Sha1

/-!
# Buffered hashers

A buffered hasher takes its message as characters and keeps the characters of
an unfinished block in a buffer. It counts the bits taken in, turns a full
block of 64 characters into sixteen words by the codes of the characters and
feeds them to a compression function. MD5 and SHA-1 are the two designs
(`Design.md5`, `Design.sha1`); they differ in the order of the bytes in a word,
the compression function, the order of the two length words, the spelling of
the padding and the text of the digest.

The codes of the characters are taken only when a block is compressed, so a
buffer may hold anything that can be iterated: a byte string gives integers,
which have no character code, and the failure shows at the next compression.
An update or a digest that fails keeps what it changed before the failure:
the count, the buffer and the chain as they were when it stopped.

The main operations are `Buffered.update`, `Buffered.digest` and
`Buffered.hexdigest`; each returns the state after the call with its outcome.
-/

namespace Basis.Digest

open Basis.Value (slice iterate)

/-- The decisions of one buffered hash function. -/
structure Design (Chain : Type) where
  /-- The chain before the first block. -/
  start : Chain
  /-- The first code of a word is its least significant byte. -/
  littleEndian : Bool
  /-- The compression of a chain and sixteen or more words. -/
  compress : Chain → List Nat → Chain
  /-- The two words that end the last block, from the bit count and the carry count. -/
  lengthWords : Nat → Nat → List Nat
  /-- The item that starts the padding. -/
  mark : Value
  /-- The item that fills the padding. -/
  fill : Value
  /-- The digest of a chain, or why it cannot be written. -/
  render : Chain → Except Failure Value

/-- What a buffered hasher keeps between calls. -/
structure Buffered (Chain : Type) where
  /-- The chaining words. -/
  chain : Chain
  /-- The number of bits taken in. -/
  bits : Nat
  /-- The count of wrap-arounds of the bit count, and of updates of 2^29 bytes or more. -/
  carry : Nat
  /-- The items of the unfinished block. -/
  pending : List Value

namespace Buffered

variable {Chain : Type}

/-- A hasher that has taken nothing in. -/
def fresh (d : Design Chain) : Buffered Chain := ⟨d.start, 0, 0, []⟩

/-- The word of four character codes, in the design's byte order. -/
def word (d : Design Chain) (b0 b1 b2 b3 : Nat) : Nat :=
  if d.littleEndian then b0 ||| b1 <<< 8 ||| b2 <<< 16 ||| b3 <<< 24
  else b0 <<< 24 ||| b1 <<< 16 ||| b2 <<< 8 ||| b3

/-- The code of a buffered item. -/
def code (v : Value) : Except Failure Nat :=
  v.ord?.mapError fun e => .typeError e.message

/-- The words of a list of items, four items to a word; items after the last
full word are ignored. The codes are taken in order, and the first item
without one fails. -/
def words (d : Design Chain) : List Value → Except Failure (List Nat)
  | a :: b :: c :: e :: rest => do
    let b0 ← code a
    let b1 ← code b
    let b2 ← code c
    let b3 ← code e
    let ws ← words d rest
    return word d b0 b1 b2 b3 :: ws
  | _ => .ok []

/-- Compresses a list of words, which must hold at least sixteen. -/
def transform (d : Design Chain) (c : Chain) (ws : List Nat) : Except Failure Chain :=
  if ws.length < 16 then .error .listIndex else .ok (d.compress c ws)

/-- Compresses the items of one block. -/
def transformItems (d : Design Chain) (c : Chain) (items : List Value) : Except Failure Chain := do
  transform d c (← words d items)

/-- Compresses the full blocks that follow the first one: `count` blocks of 64
items of `data`, from position `from`. A failure keeps the chain of the blocks
before it. -/
def transformRun (d : Design Chain) (data : Value) (c : Chain) (start : Nat) :
    Nat → Chain × Except Failure Unit
  | 0 => (c, .ok ())
  | count + 1 =>
    match slice data start (start + 64) >>= iterate >>= transformItems d c with
    | .error e => (c, .error e)
    | .ok c' => transformRun d data c' (start + 64) count

/-- Adds a message part. The count grows first. If the part completes the
block, its first items fill the buffer up to 64, the block and every further
full block are compressed, and the buffer keeps the rest; otherwise the part's
items are appended to the buffer. -/
def update (d : Design Chain) (s : Buffered Chain) (data : Value) :
    Buffered Chain × Except Failure Unit :=
  match data.len with
  | .error e => (s, .error e)
  | .ok n =>
    let index := s.bits / 8 % 64
    let bits := s.bits + n * 8
    let carry := (if bits < n * 8 then s.carry + 1 else s.carry) + n / Nat.pow 2 29
    let s1 := { s with bits, carry }
    let room := 64 - index
    if room ≤ n then
      match slice data 0 room >>= iterate with
      | .error e => (s1, .error e)
      | .ok head =>
        let s2 := { s1 with pending := s1.pending.take index ++ head }
        match transformItems d s2.chain s2.pending with
        | .error e => (s2, .error e)
        | .ok c =>
          let full := (n - room) / 64
          match transformRun d data c room full with
          | (c', .error e) => ({ s2 with chain := c' }, .error e)
          | (c', .ok ()) =>
            let s3 := { s2 with chain := c' }
            match slice data (room + 64 * full) n >>= iterate with
            | .error e => (s3, .error e)
            | .ok rest => ({ s3 with pending := rest }, .ok ())
    else
      match iterate data with
      | .error e => (s1, .error e)
      | .ok items => ({ s1 with pending := s1.pending ++ items }, .ok ())

/-- The number of padding items that brings the buffer to 56 modulo 64. -/
def padLength (bits : Nat) : Nat :=
  let index := bits / 8 % 64
  if index < 56 then 56 - index else 120 - index

/-- The digest of the message so far. The padding is added as an update, the
first 56 buffered items and the two length words of the count before it make
the last block, and the digest is read off the chain; then the hasher is put
back as it was. A failure on the way leaves the hasher where it stopped. -/
def digest (d : Design Chain) (s : Buffered Chain) : Buffered Chain × Except Failure Value :=
  let padding := (d.mark :: List.replicate 63 d.fill).take (padLength s.bits)
  match update d s (.list padding) with
  | (s1, .error e) => (s1, .error e)
  | (s1, .ok ()) =>
    match words d (s1.pending.take 56) >>= fun ws => transform d s1.chain (ws ++ d.lengthWords s.bits s.carry) with
    | .error e => (s1, .error e)
    | .ok c =>
      match d.render c with
      | .error e => ({ s1 with chain := c }, .error e)
      | .ok v => (s, .ok v)

/-- Two lower-case hexadecimal digits of a byte. -/
def hexByte (n : Nat) : String :=
  let ds := Nat.toDigits 16 n
  String.ofList (List.replicate (2 - ds.length) '0' ++ ds)

/-- The digest in hexadecimal: the code of every item of the digest, in two
digits. A digest of bytes has items without codes, so it fails. -/
def hexdigest (d : Design Chain) (s : Buffered Chain) : Buffered Chain × Except Failure Value :=
  match digest d s with
  | (s1, .error e) => (s1, .error e)
  | (s1, .ok v) =>
    (s1, do
      let items ← iterate v
      let codes ← items.mapM code
      return .str (String.join (codes.map hexByte)))

end Buffered

namespace Design

/-- The bytes of a word as a byte string, least significant first. -/
def littleEndianBytes (ws : List UInt32) : Value :=
  .bytes (ByteArray.mk (ws.flatMap Md5.bytesLE).toArray)

/-- MD5: little-endian words, the bit count before its carry, padding of bytes,
and the digest as a byte string of the four chaining words. -/
def md5 : Design Md5.Chain where
  start := Md5.Chain.init
  littleEndian := true
  compress c ws := Md5.compress c (ws.map UInt32.ofNat)
  lengthWords bits carry := [bits, carry]
  mark := .bytes (ByteArray.mk #[0x80])
  fill := .bytes (ByteArray.mk #[0])
  render c := .ok (littleEndianBytes [c.a, c.b, c.c, c.d])

/-- A piece of a digest that is written piece by piece: either a byte string
or a text. -/
inductive Piece where
  /-- Bytes. -/
  | bytes (bs : List UInt8)
  /-- A text of characters. -/
  | text (cs : List Char)

/-- The piece of one SHA-1 chaining word: its four bytes, most significant
first, as a byte string; a zero word is written as a text of four NUL
characters instead. -/
def Piece.ofWord (w : UInt32) : Piece :=
  if w == 0 then .text (List.replicate 4 (Char.ofNat 0)) else .bytes (Sha1.bytesBE w)

/-- Joins two pieces; a text and a byte string cannot be joined. -/
def Piece.join : Piece → Piece → Except Failure Piece
  | .bytes a, .bytes b => .ok (.bytes (a ++ b))
  | .text a, .text b => .ok (.text (a ++ b))
  | .text _, .bytes _ => .error (.typeError "can only concatenate str (not \"bytes\") to str")
  | .bytes _, .text _ => .error (.typeError "can't concat str to bytes")

/-- The value of a piece. -/
def Piece.toValue : Piece → Value
  | .bytes bs => .bytes (ByteArray.mk bs.toArray)
  | .text cs => .str (String.ofList cs)

/-- The SHA-1 digest text of a chain: the pieces of the five words joined from
the left. -/
def sha1Digest (c : Sha1.Chain) : Except Failure Value :=
  match c.words.map Piece.ofWord with
  | first :: rest => Piece.toValue <$> rest.foldlM Piece.join first
  | [] => .ok (.bytes ByteArray.empty)

/-- SHA-1: big-endian words, the carry count before the bit count, padding of
characters, and the digest written word by word. -/
def sha1 : Design Sha1.Chain where
  start := Sha1.Chain.init
  littleEndian := false
  compress := Sha1.compress
  lengthWords bits carry := [carry, bits]
  mark := .str (String.singleton (Char.ofNat 0x80))
  fill := .str (String.singleton (Char.ofNat 0))
  render := sha1Digest

end Design

end Basis.Digest
