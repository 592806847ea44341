import Basis.Proofs.Digest.Buffered
import Basis.Digest.Family
import Basis.Proofs.Marshal.Words
import Basis.Proofs.Except

/-!
# The buffered MD5 and SHA-1 hashers compute the standard digests

`Basis.Digest.Md5.hash` is MD5 as RFC 1321 defines it and
`Basis.Digest.Sha1.hash` SHA-1 as FIPS 180-1 defines it: the message padded
with a one bit, zeros and its length in bits, cut into blocks of 64 bytes and
folded through the compression function. This file shows that the final chain
of a buffered hasher (`Buffered.finalChain`) is that fold, for a message of
fewer than `2^29` bytes, whose bit count fits the low length word.

* `md5_wordsOf`, `sha1_wordsOf`: four codes make the word the standard reads
  from four bytes, least significant first for MD5 (`or_bytesLE`) and most
  significant first for SHA-1.
* `foldl_blocks_eq_absorb`: folding the compression over the 64-byte blocks is
  `Buffered.absorb`, and so the final chain is the standard's fold when the
  standard's padding is the hasher's followed by its two length words
  (`finalChain_eq_foldl`).
* `md5_pad`, `sha1_pad`: the standard padding is the hasher's padding followed
  by eight bytes, which spell the two length words (`lengthWords_md5`,
  `lengthWords_sha1`): `md5_finalChain`, `sha1_finalChain`.
* `md5_digest_holds`, `sha1_digest_holds`: a hasher that holds a message digests
  it to the standard digest and is given back unchanged; for SHA-1 when no word
  of the digest is zero, since a zero word is written as text.
* `sha1_digest_zero_word`: a text and a byte string do not join
  (`sha1Digest_ok_uniform`), so when the digest has a zero word among nonzero
  ones the SHA-1 digest fails, and the hasher keeps the padding it took in.

A family (`Basis.Digest.Family`) takes texts whose characters are below 256 as the
bytes they stand for (`latin1`). `Family.Holds` says its current member holds a
message; a text update extends it (`Family.Holds.step_update`), a run of updates
extends it by every text in turn (`Family.Holds.feed`), and a digest answers the
standard digest and leaves the family as it was (`Family.Holds.step_digest_md5`,
`Family.Holds.step_digest_sha1`). So the digest does not depend on how the message
was cut into a first part and updates (`md5_digest_feed`, `sha1_digest_feed`).

The bounds are those of the hashers' bit count. Past `2^29` bytes the count no
longer fits the low length word: MD5 adds the high word from each update alone,
which misses the carry of a sum, and SHA-1 puts the whole count in the last word
of the final block.
-/

namespace Basis.Digest

open Buffered

/-! ## Words of bytes -/

/-- Four bytes ORed side by side, least significant first, add up as base-256
digits. -/
theorem or_bytesLE {a b c e : Nat} (ha : a < 2 ^ 8) (hb : b < 2 ^ 8) (hc : c < 2 ^ 8) :
    a ||| b <<< 8 ||| c <<< 16 ||| e <<< 24 = a + b * 2 ^ 8 + c * 2 ^ 16 + e * 2 ^ 24 := by
  rw [Marshal.or_shiftLeft_eq_add ha, Marshal.or_shiftLeft_eq_add (a := a + b * 2 ^ 8) (by omega),
    Marshal.or_shiftLeft_eq_add (a := a + b * 2 ^ 8 + c * 2 ^ 16) (by omega)]

/-- Four bytes ORed side by side, most significant first, add up the same way. -/
theorem or_bytesBE {a b c e : Nat} (hb : b < 2 ^ 8) (hc : c < 2 ^ 8) (he : e < 2 ^ 8) :
    a <<< 24 ||| b <<< 16 ||| c <<< 8 ||| e = e + c * 2 ^ 8 + b * 2 ^ 16 + a * 2 ^ 24 := by
  rw [← or_bytesLE he hc hb]
  simp only [Nat.or_assoc, Nat.or_comm]

theorem word_md5 (a b c e : Nat) : word Design.md5 a b c e = a ||| b <<< 8 ||| c <<< 16 ||| e <<< 24 := rfl

theorem word_sha1 (a b c e : Nat) : word Design.sha1 a b c e = a <<< 24 ||| b <<< 16 ||| c <<< 8 ||| e := rfl

theorem toNat_wordLE (b0 b1 b2 b3 : UInt8) :
    (Md5.wordLE b0 b1 b2 b3).toNat = b0.toNat + b1.toNat * 2 ^ 8 + b2.toNat * 2 ^ 16 + b3.toNat * 2 ^ 24 := by
  have h1 := b1.toNat_lt
  have h2 := b2.toNat_lt
  have h3 := b3.toNat_lt
  simp only [Md5.wordLE, UInt32.toNat_or, UInt32.toNat_shiftLeft, UInt8.toNat_toUInt32, UInt32.reduceToNat,
    Nat.reduceMod]
  -- no shifted byte reaches past bit 31
  rw [Nat.mod_eq_of_lt (a := b1.toNat <<< 8) (by rw [Nat.shiftLeft_eq]; omega),
    Nat.mod_eq_of_lt (a := b2.toNat <<< 16) (by rw [Nat.shiftLeft_eq]; omega),
    Nat.mod_eq_of_lt (a := b3.toNat <<< 24) (by rw [Nat.shiftLeft_eq]; omega),
    or_bytesLE b0.toNat_lt h1 h2]

theorem md5_word (b0 b1 b2 b3 : UInt8) :
    UInt32.ofNat (word Design.md5 b0.toNat b1.toNat b2.toNat b3.toNat) = Md5.wordLE b0 b1 b2 b3 := by
  apply UInt32.toNat_inj.1
  have := b0.toNat_lt
  have := b1.toNat_lt
  have := b2.toNat_lt
  have := b3.toNat_lt
  rw [toNat_wordLE, UInt32.toNat_ofNat', word_md5, or_bytesLE b0.toNat_lt b1.toNat_lt b2.toNat_lt]
  omega

/-- A list of bytes that does not start with four bytes makes no word. -/
theorem wordsOf_map_short {Chain : Type} (d : Design Chain) {bs : List UInt8}
    (hnot : ∀ b0 b1 b2 b3 rest, bs = b0 :: b1 :: b2 :: b3 :: rest → False) :
    wordsOf d (bs.map UInt8.toNat) = [] :=
  wordsOf_of_length_lt_four d (by rw [List.length_map]; exact length_lt_four_of_short hnot)

theorem md5_wordsOf (bs : List UInt8) :
    (wordsOf Design.md5 (bs.map UInt8.toNat)).map UInt32.ofNat = Md5.wordsLE bs := by
  fun_induction Md5.wordsLE bs with
  | case1 b0 b1 b2 b3 rest ih => simp only [List.map_cons, wordsOf, md5_word, ih]
  | case2 bs hnot => rw [wordsOf_map_short _ hnot, List.map_nil]

theorem sha1_wordsOf (bs : List UInt8) : wordsOf Design.sha1 (bs.map UInt8.toNat) = Sha1.wordsBE bs := by
  fun_induction Sha1.wordsBE bs with
  | case1 b0 b1 b2 b3 rest ih => simp only [List.map_cons, wordsOf, word_sha1, ih]
  | case2 bs hnot => exact wordsOf_map_short _ hnot

/-! ## Blocks -/

section Blocks

variable {Chain : Type}

/-- Both standards cut the padded message into 64-byte blocks the same way; folding
the compression over them is absorbing the codes of the message. -/
theorem foldl_blocks_eq_absorb (d : Design Chain) (blocks : List UInt8 → List (List UInt8))
    (hblocks : ∀ bs, blocks bs = if bs.length ≤ 64 then [bs] else bs.take 64 :: blocks (bs.drop 64))
    (f : Chain → List UInt8 → Chain)
    (hf : ∀ c blk, f c blk = d.compress c (wordsOf d (blk.map UInt8.toNat)))
    (c : Chain) {bs : List UInt8} (h64 : 64 ∣ bs.length) (hpos : 0 < bs.length) :
    (blocks bs).foldl f c = absorb d c (bs.map UInt8.toNat) := by
  obtain ⟨k, hk⟩ := h64
  induction k generalizing c bs with
  | zero => omega
  | succ k ih =>
    rw [hblocks]
    by_cases hle : bs.length ≤ 64
    · rw [if_pos hle, List.foldl_cons, List.foldl_nil, hf, absorb_one_block d c (by simp; omega)]
    · have hrest : (bs.drop 64).length = 64 * k := by simp; omega
      rw [if_neg hle, List.foldl_cons, hf, ih _ (by omega) hrest, ← List.take_append_drop 64 bs,
        List.map_append, absorb_block d c (by simp; omega), List.take_append_drop]

/-- When a standard pads a message with the hasher's padding and eight bytes that spell
the two length words, the final chain of the hasher is the standard's fold over the
blocks of the padded message. -/
theorem finalChain_eq_foldl (d : Design Chain) (blocks : List UInt8 → List (List UInt8))
    (hblocks : ∀ bs, blocks bs = if bs.length ≤ 64 then [bs] else bs.take 64 :: blocks (bs.drop 64))
    (f : Chain → List UInt8 → Chain)
    (hf : ∀ c blk, f c blk = d.compress c (wordsOf d (blk.map UInt8.toNat)))
    {bs padded' : List UInt8} {lens : List Nat}
    (hpad : padded'.map UInt8.toNat = padded (bs.map UInt8.toNat) ++ lens) (hl : lens.length = 8)
    (hw : wordsOf d lens = d.lengthWords (8 * bs.length) 0) :
    finalChain d (bs.map UInt8.toNat) = (blocks padded').foldl f d.start := by
  have hp := length_padded (bs.map UInt8.toNat)
  have hlen : padded'.length = (padded (bs.map UInt8.toNat)).length + 8 := by
    rw [← List.length_map (f := UInt8.toNat), hpad, List.length_append, hl]
  rw [foldl_blocks_eq_absorb d blocks hblocks f hf _ (by omega) (by omega), hpad,
    finalChain_eq_absorb _ _ hl (by rw [List.length_map]; exact hw)]

end Blocks

/-! ## Padding -/

/-- The eight bytes of a bit count, least significant first. -/
def lengthBytes (n : Nat) : List Nat := (List.range 8).map fun i => n >>> (8 * i) % 2 ^ 8

/-- A bit count below `2^32`, least significant byte first, is the MD5 length words:
the count, then a zero carry. -/
theorem lengthWords_md5 {n : Nat} (h : n < 2 ^ 32) :
    wordsOf Design.md5 (lengthBytes n) = Design.md5.lengthWords n 0 := by
  show [word _ _ _ _ _, word _ _ _ _ _] = [n, 0]
  simp only [word_md5, Nat.shiftRight_eq_div_pow]
  rw [or_bytesLE (by omega) (by omega) (by omega), or_bytesLE (by omega) (by omega) (by omega)]
  simp only [List.cons.injEq, and_true]
  omega

/-- Most significant byte first, it is the SHA-1 length words: the zero carry first. -/
theorem lengthWords_sha1 {n : Nat} (h : n < 2 ^ 32) :
    wordsOf Design.sha1 (lengthBytes n).reverse = Design.sha1.lengthWords n 0 := by
  show [word _ _ _ _ _, word _ _ _ _ _] = [0, n]
  simp only [word_sha1, Nat.shiftRight_eq_div_pow]
  rw [or_bytesBE (by omega) (by omega) (by omega), or_bytesBE (by omega) (by omega) (by omega)]
  simp only [List.cons.injEq, and_true]
  omega

/-- The hasher's padding of the codes of bytes is the codes of the bytes padded with
`0x80` and the zeros that both standards add. -/
theorem padded_map (bs : List UInt8) :
    padded (bs.map UInt8.toNat) = (bs ++ 0x80 :: List.replicate ((119 - bs.length % 64) % 64) 0).map UInt8.toNat := by
  have hz : padLength (8 * bs.length) - 1 = (119 - bs.length % 64) % 64 := by
    simp only [padLength]
    split <;> omega
  simp [padded, hz]

theorem md5_pad (bs : List UInt8) :
    (Md5.pad bs).map UInt8.toNat = padded (bs.map UInt8.toNat) ++ lengthBytes (8 * bs.length) := by
  rw [padded_map]
  simp [Md5.pad, lengthBytes, Nat.mul_comm]

theorem sha1_pad (bs : List UInt8) :
    (Sha1.pad bs).map UInt8.toNat = padded (bs.map UInt8.toNat) ++ (lengthBytes (8 * bs.length)).reverse := by
  rw [padded_map]
  simp [Sha1.pad, lengthBytes, Nat.mul_comm, List.map_reverse]

/-! ## Digests -/

/-- The final chain of the buffered MD5 hasher is the chain of RFC 1321. -/
theorem md5_finalChain (bs : List UInt8) (h : 8 * bs.length < 2 ^ 32) :
    finalChain Design.md5 (bs.map UInt8.toNat) =
      (Md5.blocks (Md5.pad bs)).foldl (fun s blk => Md5.compress s (Md5.wordsLE blk)) Md5.Chain.init :=
  finalChain_eq_foldl Design.md5 Md5.blocks (fun bs => by rw [Md5.blocks]; rfl) _
    (fun c blk => by rw [← md5_wordsOf]; rfl) (md5_pad bs) (by simp [lengthBytes]) (lengthWords_md5 h)

theorem md5_render (c : Md5.Chain) : Design.md5.render c = .ok (.bytes ⟨c.bytes.toArray⟩) := by
  simp [Design.md5, Design.littleEndianBytes, Md5.Chain.bytes]

/-- A buffered MD5 hasher that holds a message digests it to its RFC 1321 digest,
as a byte string, and is given back unchanged. -/
theorem md5_digest_holds {s : Buffered Md5.Chain} {bs : List UInt8} (h : Holds Design.md5 s (bs.map UInt8.toNat))
    (hlen : 8 * bs.length < 2 ^ 32) : digest Design.md5 s = (s, .ok (.bytes ⟨(Md5.hash bs).toArray⟩)) :=
  digest_holds _ h rfl rfl (fun _ _ => rfl) (by rw [md5_render, md5_finalChain bs hlen]; rfl)

/-- The final chain of the buffered SHA-1 hasher is the chain of FIPS 180-1. -/
theorem sha1_finalChain (bs : List UInt8) (h : 8 * bs.length < 2 ^ 32) :
    finalChain Design.sha1 (bs.map UInt8.toNat) =
      (Sha1.blocks (Sha1.pad bs)).foldl (fun s blk => Sha1.compress s (Sha1.wordsBE blk)) Sha1.Chain.init :=
  finalChain_eq_foldl Design.sha1 Sha1.blocks (fun bs => by rw [Sha1.blocks]; rfl) _
    (fun c blk => by rw [← sha1_wordsOf]; rfl) (sha1_pad bs) (by simp [lengthBytes]) (lengthWords_sha1 h)

theorem foldlM_join_bytes (a : List UInt8) (rest : List (List UInt8)) :
    (rest.map Design.Piece.bytes).foldlM Design.Piece.join (.bytes a) = .ok (.bytes (a ++ rest.flatten)) := by
  induction rest generalizing a with
  | nil => simp [pure, Except.pure]
  | cons b rest ih =>
    rw [List.map_cons, List.foldlM_cons]
    show List.foldlM _ (Design.Piece.bytes (a ++ b)) _ = _
    rw [ih, List.flatten_cons, List.append_assoc]

/-- With no zero word, every piece of the SHA-1 digest is a byte string, and they join
into the bytes of the five words. -/
theorem sha1Digest_of_ne_zero (c : Sha1.Chain) (h : ∀ w ∈ c.words, w ≠ 0) :
    Design.sha1Digest c = .ok (.bytes ⟨(c.words.flatMap Sha1.bytesBE).toArray⟩) := by
  have hpieces : c.words.map Design.Piece.ofWord = (c.words.map Sha1.bytesBE).map Design.Piece.bytes := by
    rw [List.map_map]
    exact List.map_congr_left fun w hw => by simp [Design.Piece.ofWord, h w hw]
  rw [Design.sha1Digest, hpieces]
  -- the first word's piece starts the join, the other four are joined to it
  show Design.Piece.toValue <$> ((c.words.tail.map Sha1.bytesBE).map Design.Piece.bytes).foldlM
    Design.Piece.join (.bytes (Sha1.bytesBE c.h0)) = _
  rw [foldlM_join_bytes]
  rfl

theorem sha1_mark : code Design.sha1.mark = .ok 0x80 := by decide

theorem sha1_fill : code Design.sha1.fill = .ok 0 := by
  simp [Design.sha1, code, Value.ord?, Except.mapError]

/-- A buffered SHA-1 hasher that holds a message digests it to its FIPS 180-1 digest
when no word of that digest is zero, and is given back unchanged. -/
theorem sha1_digest_holds {s : Buffered Sha1.Chain} {bs : List UInt8}
    (h : Holds Design.sha1 s (bs.map UInt8.toNat)) (hlen : 8 * bs.length < 2 ^ 32)
    (hne : ∀ w ∈ ((Sha1.blocks (Sha1.pad bs)).foldl (fun s blk => Sha1.compress s (Sha1.wordsBE blk))
      Sha1.Chain.init).words, w ≠ 0) :
    digest Design.sha1 s = (s, .ok (.bytes ⟨(Sha1.hash bs).toArray⟩)) := by
  rw [← sha1_finalChain bs hlen] at hne
  refine digest_holds _ h sha1_mark sha1_fill (fun _ _ => rfl) ?_
  rw [show Design.sha1.render = Design.sha1Digest from rfl, sha1Digest_of_ne_zero _ hne,
    sha1_finalChain bs hlen]
  rfl

/-- Whether a piece of a digest is a text. -/
def Design.Piece.isText : Design.Piece → Bool
  | .bytes _ => false
  | .text _ => true

theorem isText_ofWord (w : UInt32) : (Design.Piece.ofWord w).isText = (w == 0) := by
  unfold Design.Piece.ofWord
  split <;> simp_all [Design.Piece.isText]

/-- Pieces join only with pieces of their own kind: a join that succeeds had only
texts or only byte strings. -/
theorem foldlM_join_isText {acc r : Design.Piece} {ps : List Design.Piece}
    (h : ps.foldlM Design.Piece.join acc = .ok r) : ∀ p ∈ ps, p.isText = acc.isText := by
  induction ps generalizing acc with
  | nil => simp
  | cons p ps ih =>
    rw [List.foldlM_cons] at h
    cases acc <;> cases p
    -- the two joins of mixed kinds fail, and a failure is not undone by the rest
    all_goals simp only [Design.Piece.join] at h
    case bytes.text | text.bytes => exact absurd h (by simp [bind, Except.bind])
    case bytes.bytes a b =>
      have hrest := ih h
      simpa [Design.Piece.isText] using hrest
    case text.text a b =>
      have hrest := ih h
      simpa [Design.Piece.isText] using hrest

/-- A SHA-1 digest is written only when its words are all zero or all nonzero. -/
theorem sha1Digest_ok_uniform {c : Sha1.Chain} {v : Value} (h : Design.sha1Digest c = .ok v) :
    (∀ w ∈ c.words, w = 0) ∨ (∀ w ∈ c.words, w ≠ 0) := by
  -- the first word's piece starts the join of the others
  obtain ⟨r, hr, -⟩ := map_eq_ok (show Design.Piece.toValue <$> (c.words.tail.map Design.Piece.ofWord).foldlM
    Design.Piece.join (Design.Piece.ofWord c.h0) = .ok v from h)
  -- every word is zero exactly when the first one is
  have hkind : ∀ w ∈ c.words, (w == 0) = (c.h0 == 0) := by
    intro w hw
    simp only [Sha1.Chain.words, List.mem_cons, List.not_mem_nil, or_false] at hw
    rcases hw with rfl | hw
    · rfl
    · have hmem : w ∈ c.words.tail := by simpa [Sha1.Chain.words] using hw
      have := foldlM_join_isText hr (Design.Piece.ofWord w) (List.mem_map_of_mem hmem)
      rwa [isText_ofWord, isText_ofWord] at this
  by_cases h0 : c.h0 = 0
  · exact .inl fun w hw => by simpa [h0] using hkind w hw
  · exact .inr fun w hw => by simpa [h0] using hkind w hw

/-- A SHA-1 digest with a zero word among nonzero ones cannot be written. -/
theorem sha1Digest_mixed {c : Sha1.Chain} (hz : ∃ w ∈ c.words, w = 0) (hnz : ∃ w ∈ c.words, w ≠ 0) :
    ∃ e, Design.sha1Digest c = .error e := by
  cases hd : Design.sha1Digest c with
  | error e => exact ⟨e, rfl⟩
  | ok v =>
    obtain ⟨w, hw, hw0⟩ := hz
    obtain ⟨w', hw', hw'0⟩ := hnz
    rcases sha1Digest_ok_uniform hd with hall | hall
    · exact absurd (hall w' hw') hw'0
    · exact absurd hw0 (hall w hw)

/-- When the FIPS 180-1 digest of the message has a zero word among nonzero ones, a
digest of a buffered SHA-1 hasher fails and the hasher is not given back: it has
counted the padding, so a later digest reads a longer message. -/
theorem sha1_digest_zero_word {s : Buffered Sha1.Chain} {bs : List UInt8}
    (h : Holds Design.sha1 s (bs.map UInt8.toNat)) (hlen : 8 * bs.length < 2 ^ 32)
    (hz : ∃ w ∈ ((Sha1.blocks (Sha1.pad bs)).foldl (fun s blk => Sha1.compress s (Sha1.wordsBE blk))
      Sha1.Chain.init).words, w = 0)
    (hnz : ∃ w ∈ ((Sha1.blocks (Sha1.pad bs)).foldl (fun s blk => Sha1.compress s (Sha1.wordsBE blk))
      Sha1.Chain.init).words, w ≠ 0) :
    ∃ e, (digest Design.sha1 s).2 = .error e ∧
      (digest Design.sha1 s).1.bits = 8 * (padded (bs.map UInt8.toNat)).length := by
  rw [← sha1_finalChain bs hlen] at hz hnz
  obtain ⟨e, he⟩ := sha1Digest_mixed hz hnz
  exact ⟨e, digest_render_error _ h sha1_mark sha1_fill (fun _ _ => rfl) he⟩

/-! ## Families of hashers -/

/-- The bytes that a text of characters below 256 stands for. -/
def latin1 (t : String) : List UInt8 := t.toList.map fun c => UInt8.ofNat c.toNat

theorem latin1_codes {t : String} (h : ∀ c ∈ t.toList, c.toNat < 256) :
    (latin1 t).map UInt8.toNat = t.toList.map Char.toNat := by
  simp only [latin1, List.map_map]
  exact List.map_congr_left fun c hc => by simp [Nat.mod_eq_of_lt (h c hc)]

theorem length_latin1 (t : String) : (latin1 t).length = t.length := by
  simp [latin1, String.length_toList]

/-- A text of characters below 256 is taken in as the bytes it stands for. -/
theorem Buffered.update_text_holds {Chain : Type} (d : Design Chain) {s : Buffered Chain} {bs : List UInt8}
    (h : Holds d s (bs.map UInt8.toNat)) {t : String} (hchars : ∀ c ∈ t.toList, c.toNat < 256)
    (hsmall : t.length < 2 ^ 29) :
    (update d s (.str t)).2 = .ok () ∧ Holds d (update d s (.str t)).1 ((bs ++ latin1 t).map UInt8.toNat) := by
  rw [List.map_append, latin1_codes hchars]
  exact update_holds d h (seq_str t) (coded_chars t.toList) (by simpa [String.length_toList] using hsmall)

namespace Hasher

/-- A hasher holds a message of bytes: it is a buffered MD5 or SHA-1 hasher that
holds their codes. -/
def Holds : Hasher → List UInt8 → Prop
  | .md5 s, bs => Buffered.Holds Design.md5 s (bs.map UInt8.toNat)
  | .sha1 s, bs => Buffered.Holds Design.sha1 s (bs.map UInt8.toNat)
  | .sha2 _, _ => False

end Hasher

namespace Family

/-- The current member of a family is a hasher of algorithm `a` that holds the message `bs`. -/
structure Holds (f : Family) (a : Algorithm) (bs : List UInt8) : Prop where
  /-- The current position names a member. -/
  current_lt : f.current < f.members.length
  /-- The current member's algorithm. -/
  algorithm_eq : f.hasher.algorithm = a
  /-- The current member holds the message. -/
  hasher_holds : f.hasher.Holds bs

theorem hasher_setHasher {f : Family} (h : f.current < f.members.length) (x : Hasher) :
    (f.setHasher x).hasher = x := by
  simp [setHasher, hasher, h]

/-- Putting back the current member changes nothing, also when the position is past
the last member. -/
theorem setHasher_hasher (f : Family) : f.setHasher f.hasher = f := by
  obtain ⟨ms, i, blk⟩ := f
  simp only [setHasher, hasher, List.getD_eq_getElem?_getD, Family.mk.injEq, and_true]
  by_cases h : i < ms.length
  · rw [List.getElem?_eq_getElem h, Option.getD_some, List.set_getElem_self]
  · rw [List.set_eq_of_length_le (by omega)]

theorem holds_setHasher {f : Family} (hcur : f.current < f.members.length) {x : Hasher} {a : Algorithm}
    {bs : List UInt8} (hx : x.algorithm = a) (hbs : x.Holds bs) : (f.setHasher x).Holds a bs where
  current_lt := by simpa [setHasher] using hcur
  algorithm_eq := by rw [hasher_setHasher hcur]; exact hx
  hasher_holds := by rw [hasher_setHasher hcur]; exact hbs

theorem holds_fresh {a : Algorithm} (ha : a = .md5 ∨ a = .sha1) : (fresh a).Holds a [] := by
  rcases ha with rfl | rfl
  · exact ⟨by decide, rfl, Buffered.holds_fresh Design.md5⟩
  · exact ⟨by decide, rfl, Buffered.holds_fresh Design.sha1⟩

/-- A text update extends the message that the current member holds by the text's bytes. -/
theorem Holds.update_text {f : Family} {a : Algorithm} {bs : List UInt8} (h : f.Holds a bs) {t : String}
    (hchars : ∀ c ∈ t.toList, c.toNat < 256) (hsmall : 8 * (bs.length + t.length) < 2 ^ 32) :
    (f.update (.str t)).2 = .ok () ∧ (f.update (.str t)).1.Holds a (bs ++ latin1 t) := by
  obtain ⟨hcur, halg, hh⟩ := h
  unfold update
  generalize f.hasher = x at halg hh
  cases x with
  | md5 s =>
    obtain ⟨hr, hs⟩ := update_text_holds Design.md5 hh hchars (by omega)
    exact ⟨hr, holds_setHasher hcur halg hs⟩
  | sha1 s =>
    obtain ⟨hr, hs⟩ := update_text_holds Design.sha1 hh hchars (by omega)
    exact ⟨hr, holds_setHasher hcur halg hs⟩
  | sha2 _ => exact hh.elim

theorem Holds.step_update {f : Family} {a : Algorithm} {bs : List UInt8} (h : f.Holds a bs) {t : String}
    (hchars : ∀ c ∈ t.toList, c.toNat < 256) (hsmall : 8 * (bs.length + t.length) < 2 ^ 32) :
    (f.step (.update (.str t))).2 = .ok .none ∧ (f.step (.update (.str t))).1.Holds a (bs ++ latin1 t) := by
  obtain ⟨hr, hf⟩ := h.update_text hchars hsmall
  simp only [step, hr]
  exact ⟨rfl, hf⟩

/-- A digest of an MD5 member answers the MD5 digest of its message and leaves the family as it was. -/
theorem Holds.step_digest_md5 {f : Family} {bs : List UInt8} (h : f.Holds .md5 bs)
    (hlen : 8 * bs.length < 2 ^ 32) : f.step .digest = (f, .ok (.bytes ⟨(Md5.hash bs).toArray⟩)) := by
  obtain ⟨hcur, halg, hh⟩ := h
  show f.digest = _
  unfold digest
  generalize hx : f.hasher = x at halg hh
  cases x with
  | md5 s =>
    dsimp only
    rw [md5_digest_holds hh hlen, ← hx, setHasher_hasher]
  | sha1 s => cases halg
  | sha2 _ => exact hh.elim

/-- A digest of a SHA-1 member whose digest has no zero word answers the SHA-1 digest of
its message and leaves the family as it was. -/
theorem Holds.step_digest_sha1 {f : Family} {bs : List UInt8} (h : f.Holds .sha1 bs)
    (hlen : 8 * bs.length < 2 ^ 32)
    (hne : ∀ w ∈ ((Sha1.blocks (Sha1.pad bs)).foldl (fun s blk => Sha1.compress s (Sha1.wordsBE blk))
      Sha1.Chain.init).words, w ≠ 0) :
    f.step .digest = (f, .ok (.bytes ⟨(Sha1.hash bs).toArray⟩)) := by
  obtain ⟨hcur, halg, hh⟩ := h
  show f.digest = _
  unfold digest
  generalize hx : f.hasher = x at halg hh
  cases x with
  | md5 s => cases halg
  | sha1 s =>
    dsimp only
    rw [sha1_digest_holds hh hlen hne, ← hx, setHasher_hasher]
  | sha2 _ => exact hh.elim

/-- The family after a run of text updates. -/
def feed (f : Family) (ts : List String) : Family := ts.foldl (fun f t => (f.step (.update (.str t))).1) f

/-- A run of text updates extends the message by the bytes of each text in turn. -/
theorem Holds.feed {f : Family} {a : Algorithm} {bs : List UInt8} (h : f.Holds a bs) (ts : List String)
    (hchars : ∀ t ∈ ts, ∀ c ∈ t.toList, c.toNat < 256)
    (hsmall : 8 * (bs.length + (ts.flatMap latin1).length) < 2 ^ 32) :
    (f.feed ts).Holds a (bs ++ ts.flatMap latin1) := by
  -- the invariant is carried update by update, the message growing on the right
  induction ts generalizing f bs with
  | nil => simpa [Family.feed] using h
  | cons t ts ih =>
    have ht := hchars t List.mem_cons_self
    have hlen : 8 * (bs.length + t.length) < 2 ^ 32 := by
      simp only [List.flatMap_cons, List.length_append, length_latin1] at hsmall
      omega
    have hnext := (h.step_update ht hlen).2
    rw [Family.feed, List.foldl_cons, List.flatMap_cons, ← List.append_assoc]
    exact ih hnext (fun t' ht' => hchars t' (List.mem_cons_of_mem _ ht'))
      (by simpa [length_latin1, Nat.add_assoc] using hsmall)

/-- A family started with a text holds the text's bytes; an empty text starts a fresh one. -/
theorem start_holds {a : Algorithm} (ha : a = .md5 ∨ a = .sha1) {first : String}
    (hchars : ∀ c ∈ first.toList, c.toNat < 256) (hsmall : 8 * first.length < 2 ^ 32) :
    ∃ f, start a (.str first) = .ok f ∧ f.Holds a (latin1 first) := by
  unfold start
  dsimp only
  split
  · obtain ⟨hr, hf⟩ := (holds_fresh ha).update_text hchars (by simpa using hsmall)
    generalize (fresh a).update (.str first) = p at hr hf
    obtain ⟨f', r⟩ := p
    subst hr
    exact ⟨f', rfl, hf⟩
  · rename_i hempty
    have : first = "" := by simpa [Value.truthy] using hempty
    subst this
    exact ⟨_, rfl, holds_fresh ha⟩

end Family

/-- A family started with a first part and given the others by updates holds the
whole message. -/
theorem Family.feed_start_holds {a : Algorithm} (ha : a = .md5 ∨ a = .sha1) (first : String)
    (ts : List String) (hchars : ∀ t ∈ first :: ts, ∀ c ∈ t.toList, c.toNat < 256)
    (hsmall : 8 * ((first :: ts).flatMap latin1).length < 2 ^ 32) :
    ∃ f, Family.start a (.str first) = .ok f ∧ (f.feed ts).Holds a ((first :: ts).flatMap latin1) := by
  rw [List.flatMap_cons] at hsmall ⊢
  have hfirst := hchars first List.mem_cons_self
  obtain ⟨f, hstart, hf⟩ :=
    Family.start_holds ha hfirst (by simp only [List.length_append, length_latin1] at hsmall; omega)
  refine ⟨f, hstart, ?_⟩
  exact hf.feed ts (fun t ht => hchars t (List.mem_cons_of_mem _ ht)) (by simpa using hsmall)

/-- MD5 does not depend on how the message is cut: a family started with the first part
and given the others by updates answers a digest with the MD5 digest of the whole
message, and is left to take more. -/
theorem md5_digest_feed (first : String) (ts : List String)
    (hchars : ∀ t ∈ first :: ts, ∀ c ∈ t.toList, c.toNat < 256)
    (hsmall : 8 * ((first :: ts).flatMap latin1).length < 2 ^ 32) :
    ∃ f, Family.start .md5 (.str first) = .ok f ∧ (f.feed ts).step .digest =
      (f.feed ts, .ok (.bytes ⟨(Md5.hash ((first :: ts).flatMap latin1)).toArray⟩)) := by
  obtain ⟨f, hstart, hf⟩ := Family.feed_start_holds (.inl rfl) first ts hchars hsmall
  exact ⟨f, hstart, hf.step_digest_md5 hsmall⟩

/-- SHA-1 does not depend on how the message is cut, when no word of the digest is zero. -/
theorem sha1_digest_feed (first : String) (ts : List String)
    (hchars : ∀ t ∈ first :: ts, ∀ c ∈ t.toList, c.toNat < 256)
    (hsmall : 8 * ((first :: ts).flatMap latin1).length < 2 ^ 32)
    (hne : ∀ w ∈ ((Sha1.blocks (Sha1.pad ((first :: ts).flatMap latin1))).foldl
      (fun s blk => Sha1.compress s (Sha1.wordsBE blk)) Sha1.Chain.init).words, w ≠ 0) :
    ∃ f, Family.start .sha1 (.str first) = .ok f ∧ (f.feed ts).step .digest =
      (f.feed ts, .ok (.bytes ⟨(Sha1.hash ((first :: ts).flatMap latin1)).toArray⟩)) := by
  obtain ⟨f, hstart, hf⟩ := Family.feed_start_holds (.inr rfl) first ts hchars hsmall
  exact ⟨f, hstart, hf.step_digest_sha1 hsmall hne⟩

end Basis.Digest
