import Mathlib.Algebra.Group.Nat.Defs
import Mathlib.Data.Nat.ModEq
import Basis.Digest.Sha2.Context

/-!
# SHA-2 contexts compute the standard digests

A SHA-2 context (`Basis.Digest.Sha2.Context`) takes its message in parts. This
file shows that however the message is cut, the context ends in the state the
whole message gives (`Context.Holds`), and that the digest it then computes is
the digest of FIPS 180-4.

* `Engine.compressBlocks` compresses the first blocks of a list of bytes, and
  `Engine.chain` all the whole blocks of a message; `chain_append_of_dvd`,
  `chain_append_short` and `chain_complete` split the chain where a message
  grows by a part.
* `Context.Absorbed`: the context holds the chain of the whole blocks of the
  message, and the bytes after them at the front of its buffer. The three phases
  of an update keep it (`Absorbed.absorb`, `Absorbed.fill_short`,
  `Absorbed.fill_block`), and so does an update (`Absorbed.update`).
* `Context.Holds` adds the two bit counts; `Holds.update` and `Holds.feed`
  carry it along a run of updates.
* `Holds.final`: the digest is that of the chain of the message, the mark
  `0x80`, zeros up to the engine's limit modulo a block, and the last bytes of
  the block. `sha256_pad`, `sha512_pad` show these are the standard padding, so
  `sha256_final_feed` and `sha512_final_feed` give the standard digests.
-/

namespace Basis.Digest.Sha2

/-- A part that completes no block leaves the number of whole blocks as it was. -/
theorem div_add_of_mod_add_lt {L b B : Nat} (h : L % B + b < B) : (L + b) / B = L / B := by
  rw [Nat.add_div_eq_of_add_mod_lt (by rwa [Nat.mod_eq_of_lt (a := b) (by omega)]),
    Nat.div_eq_of_lt (a := b) (by omega), Nat.add_zero]

/-- ... and its bytes go after those of the unfinished block. -/
theorem mod_add_of_mod_add_lt {L b B : Nat} (h : L % B + b < B) : (L + b) % B = L % B + b := by
  rw [Nat.add_mod, Nat.mod_eq_of_lt (a := b) (by omega), Nat.mod_eq_of_lt h]

namespace Engine

variable {W : Type} (e : Engine W)

theorem blockSize_eq_pow : e.blockSize = 2 ^ e.blockBits := rfl

theorem blockSize_pos : 0 < e.blockSize := Nat.pos_of_ne_zero (by simp [blockSize_eq_pow])

theorem markLimit_add_le : e.markLimit + 8 ≤ e.blockSize := e.markLimit_le

/-- The chaining words after compressing the first `n` blocks of the bytes. -/
def compressBlocks (w : List W) (bytes : List UInt8) : Nat → List W
  | 0 => w
  | n + 1 => compressBlocks (e.compress w (bytes.take e.blockSize)) (bytes.drop e.blockSize) n

/-- The chaining words after the whole blocks of a message. -/
def chain (w : List W) (msg : List UInt8) : List W := e.compressBlocks w msg (msg.length / e.blockSize)

theorem compressBlocks_add (w : List W) (bytes : List UInt8) (m n : Nat) :
    e.compressBlocks w bytes (m + n) =
      e.compressBlocks (e.compressBlocks w bytes m) (bytes.drop (e.blockSize * m)) n := by
  induction m generalizing w bytes with
  | zero => simp [compressBlocks]
  | succ m ih =>
    rw [Nat.add_right_comm, compressBlocks, compressBlocks, ih, List.drop_drop, Nat.mul_succ,
      Nat.add_comm e.blockSize]

/-- The first `n` blocks read only the first `n` blocks' bytes. -/
theorem compressBlocks_append_left (w : List W) {as : List UInt8} (bs : List UInt8) {n : Nat}
    (h : e.blockSize * n ≤ as.length) : e.compressBlocks w (as ++ bs) n = e.compressBlocks w as n := by
  induction n generalizing w as with
  | zero => rfl
  | succ n ih =>
    rw [Nat.mul_succ] at h
    rw [compressBlocks, compressBlocks, List.take_append_of_le_length (by omega),
      List.drop_append_of_le_length (by omega), ih _ (by simp; omega)]

/-- The number of zeros after the mark: up to the limit modulo a block. -/
def padZeros (n : Nat) : Nat := (e.blockSize + e.markLimit - 1 - n % e.blockSize) % e.blockSize

theorem compressBlocks_one (w : List W) (bytes : List UInt8) :
    e.compressBlocks w bytes 1 = e.compress w (bytes.take e.blockSize) := rfl

/-- Appending to a message of whole blocks: the chain goes on from the message's chain. -/
theorem chain_append_of_dvd (w : List W) {msg : List UInt8} (h : msg.length % e.blockSize = 0)
    (ds : List UInt8) : e.chain w (msg ++ ds) = e.chain (e.chain w msg) ds := by
  have hdvd : e.blockSize ∣ msg.length := Nat.dvd_of_mod_eq_zero h
  have hL : e.blockSize * (msg.length / e.blockSize) = msg.length := Nat.mul_div_cancel' hdvd
  rw [chain, List.length_append, Nat.add_div_of_dvd_right hdvd, compressBlocks_add,
    compressBlocks_append_left _ _ _ (Nat.le_of_eq hL), hL, List.drop_left]
  rfl

/-- A part that completes no block leaves the chain as it was. -/
theorem chain_append_short (w : List W) {msg ds : List UInt8}
    (h : msg.length % e.blockSize + ds.length < e.blockSize) : e.chain w (msg ++ ds) = e.chain w msg := by
  rw [chain, List.length_append, div_add_of_mod_add_lt h, compressBlocks_append_left _ _ _ (Nat.mul_div_le _ _)]
  rfl

/-- The chain of one block is its compression. -/
theorem chain_block (w : List W) {blk : List UInt8} (h : blk.length = e.blockSize) :
    e.chain w blk = e.compress w blk := by
  rw [chain, h, Nat.div_self e.blockSize_pos, compressBlocks_one, List.take_of_length_le (Nat.le_of_eq h)]

/-- The chain of a message and a part goes on from the message's chain with its
unfinished block followed by the part. -/
theorem chain_append (w : List W) (msg ds : List UInt8) :
    e.chain w (msg ++ ds) = e.chain (e.chain w msg) (msg.drop (e.blockSize * (msg.length / e.blockSize)) ++ ds) := by
  set n := e.blockSize * (msg.length / e.blockSize) with hn_def
  have hn : n ≤ msg.length := Nat.mul_div_le _ _
  have hfront : (msg.take n).length % e.blockSize = 0 := by
    rw [List.length_take, Nat.min_eq_left hn, Nat.mul_mod_right]
  have hpend : (msg.drop n).length = msg.length % e.blockSize := by
    have := Nat.div_add_mod msg.length e.blockSize
    rw [List.length_drop]
    omega
  have hlt := Nat.mod_lt msg.length e.blockSize_pos
  calc e.chain w (msg ++ ds) = e.chain w (msg.take n ++ (msg.drop n ++ ds)) := by
        rw [← List.append_assoc, List.take_append_drop]
    _ = e.chain (e.chain w (msg.take n)) (msg.drop n ++ ds) := e.chain_append_of_dvd w hfront _
    _ = e.chain (e.chain w msg) (msg.drop n ++ ds) := by
      -- the unfinished block completes no block after the whole ones
      have hshort : e.chain w (msg.take n ++ msg.drop n) = e.chain w (msg.take n) :=
        e.chain_append_short w (by rw [hfront, hpend]; omega)
      rw [List.take_append_drop] at hshort
      rw [hshort]

/-- A part that completes the started block exactly: that block, the bytes after
the message's whole blocks followed by the part, is compressed onto the chain. -/
theorem chain_complete (w : List W) {msg ds : List UInt8}
    (h : msg.length % e.blockSize + ds.length = e.blockSize) :
    e.chain w (msg ++ ds) =
      e.compress (e.chain w msg) (msg.drop (e.blockSize * (msg.length / e.blockSize)) ++ ds) := by
  have hdm := Nat.div_add_mod msg.length e.blockSize
  have hrest : (msg.drop (e.blockSize * (msg.length / e.blockSize)) ++ ds).length = e.blockSize := by
    simp only [List.length_append, List.length_drop]
    omega
  rw [chain_append, chain_block _ _ hrest]

end Engine

/-- Writing over the buffer keeps its length when the bytes fit. -/
theorem length_overwrite {buffer : List UInt8} {pos : Nat} {bytes : List UInt8}
    (h : pos + bytes.length ≤ buffer.length) : (overwrite buffer pos bytes).length = buffer.length := by
  simp only [overwrite, List.length_append, List.length_take, List.length_drop]
  omega

/-- Bytes written at the front are the front. -/
theorem take_overwrite_zero (buffer bytes : List UInt8) : (overwrite buffer 0 bytes).take bytes.length = bytes := by
  rw [overwrite, List.take_left' (by simp)]
  rfl

/-- The buffer up to the end of what was written: what was there before, then the bytes. -/
theorem take_overwrite {buffer : List UInt8} {pos : Nat} (bytes : List UInt8) (h : pos ≤ buffer.length) :
    (overwrite buffer pos bytes).take (pos + bytes.length) = buffer.take pos ++ bytes := by
  rw [overwrite, List.take_left' (by simp; omega)]

namespace Context

variable {W : Type} {e : Engine W}

/-- Absorbing blocks changes only the chaining words and the buffer. -/
theorem absorbBlocks_eq (c : Context W) (bytes : List UInt8) (n : Nat) :
    absorbBlocks e c bytes n =
      { c with words := e.compressBlocks c.words bytes n, block := (absorbBlocks e c bytes n).block } := by
  induction n generalizing c bytes with
  | zero => rfl
  | succ n ih =>
    rw [absorbBlocks, ih]
    rfl

@[simp] theorem words_absorbBlocks (c : Context W) (bytes : List UInt8) (n : Nat) :
    (absorbBlocks e c bytes n).words = e.compressBlocks c.words bytes n := by
  rw [absorbBlocks_eq]

@[simp] theorem used_absorbBlocks (c : Context W) (bytes : List UInt8) (n : Nat) :
    (absorbBlocks e c bytes n).used = c.used := by
  rw [absorbBlocks_eq]

@[simp] theorem countLo_absorbBlocks (c : Context W) (bytes : List UInt8) (n : Nat) :
    (absorbBlocks e c bytes n).countLo = c.countLo := by
  rw [absorbBlocks_eq]

@[simp] theorem countHi_absorbBlocks (c : Context W) (bytes : List UInt8) (n : Nat) :
    (absorbBlocks e c bytes n).countHi = c.countHi := by
  rw [absorbBlocks_eq]

/-- Each block absorbed becomes the buffer, so the buffer stays a block long. -/
theorem length_block_absorbBlocks {c : Context W} {bytes : List UInt8} {n : Nat}
    (hb : c.block.length = e.blockSize) (hn : e.blockSize * n ≤ bytes.length) :
    (absorbBlocks e c bytes n).block.length = e.blockSize := by
  induction n generalizing c bytes with
  | zero => exact hb
  | succ n ih =>
    rw [Nat.mul_succ] at hn
    exact ih (by simp [transform]; omega) (by simp; omega)

/-- The context holds the chain of the whole blocks of the message, from the
initial words, with the bytes after them at the front of its block buffer. -/
structure Absorbed (e : Engine W) (init : List W) (c : Context W) (msg : List UInt8) : Prop where
  /-- The buffer is a block long. -/
  length_block : c.block.length = e.blockSize
  /-- The unfinished block has the bytes after the whole blocks. -/
  used_eq : c.used = msg.length % e.blockSize
  /-- They are at the front of the buffer. -/
  take_block : c.block.take c.used = msg.drop (e.blockSize * (msg.length / e.blockSize))
  /-- The chaining words are those of the whole blocks. -/
  words_eq : c.words = e.chain init msg

theorem absorbed_start (init : List W) : Absorbed e init (start e init) [] :=
  ⟨List.length_replicate, rfl, by simp [start], by simp [start, Engine.chain, Engine.compressBlocks]⟩

/-- Counting bits touches neither the buffer nor the words. -/
theorem Absorbed.count {init : List W} {c : Context W} {msg : List UInt8} (h : Absorbed e init c msg)
    (n : Nat) : Absorbed e init (c.count n) msg :=
  ⟨h.length_block, h.used_eq, h.take_block, h.words_eq⟩

/-- With no block started, the whole blocks of a part are compressed in turn and
its last bytes go to the front of the buffer. -/
theorem Absorbed.absorb {init : List W} {c : Context W} {msg : List UInt8} (h : Absorbed e init c msg)
    (h0 : c.used = 0) (bytes : List UInt8) : Absorbed e init (absorb e c bytes) (msg ++ bytes) := by
  have hB := e.blockSize_pos
  have hL : msg.length % e.blockSize = 0 := by rw [← h.used_eq, h0]
  have hblocks : e.blockSize * (msg.length / e.blockSize) = msg.length :=
    Nat.mul_div_cancel' (Nat.dvd_of_mod_eq_zero hL)
  have hlen := length_block_absorbBlocks h.length_block (Nat.mul_div_le bytes.length e.blockSize)
  have hdm := Nat.div_add_mod bytes.length e.blockSize
  -- the bytes after the part's whole blocks are fewer than a block
  have htail : (bytes.drop (e.blockSize * (bytes.length / e.blockSize))).length = bytes.length % e.blockSize := by
    simp only [List.length_drop]
    omega
  have hlt := Nat.mod_lt bytes.length hB
  have hmod : (msg ++ bytes).length % e.blockSize = bytes.length % e.blockSize := by
    rw [List.length_append, Nat.add_mod, hL, Nat.zero_add, Nat.mod_mod]
  have hdiv : e.blockSize * ((msg ++ bytes).length / e.blockSize) =
      msg.length + e.blockSize * (bytes.length / e.blockSize) := by
    have := Nat.div_add_mod (msg ++ bytes).length e.blockSize
    rw [hmod] at this
    simp only [List.length_append] at this ⊢
    omega
  dsimp only [Context.absorb]
  refine ⟨?_, ?_, ?_, ?_⟩
  · rw [length_overwrite (by rw [used_absorbBlocks, h0, htail, hlen]; omega), hlen]
  · rw [htail, hmod]
  · rw [used_absorbBlocks, h0, take_overwrite_zero, hdiv, ← List.drop_drop, List.drop_left]
  · rw [words_absorbBlocks, h.words_eq, e.chain_append_of_dvd init hL]
    rfl

/-- A part that does not complete the started block is written after it. -/
theorem Absorbed.fill_short {init : List W} {c : Context W} {msg : List UInt8} (h : Absorbed e init c msg)
    {bytes : List UInt8} (hlt : c.used + bytes.length < e.blockSize) :
    Absorbed e init { c with block := overwrite c.block c.used bytes, used := c.used + bytes.length }
      (msg ++ bytes) := by
  have hshort : msg.length % e.blockSize + bytes.length < e.blockSize := h.used_eq ▸ hlt
  refine ⟨?_, ?_, ?_, ?_⟩
  · exact (length_overwrite (by rw [h.length_block]; omega)).trans h.length_block
  · rw [List.length_append, mod_add_of_mod_add_lt hshort, h.used_eq]
  · show (overwrite c.block c.used bytes).take (c.used + bytes.length) = _
    rw [take_overwrite _ (by rw [h.length_block]; omega), h.take_block, List.length_append,
      div_add_of_mod_add_lt hshort, List.drop_append_of_le_length (Nat.mul_div_le _ _)]
  · exact h.words_eq.trans (e.chain_append_short init hshort).symm

/-- A part that completes the started block: the block is compressed and no block is started. -/
theorem Absorbed.fill_block {init : List W} {c : Context W} {msg : List UInt8} (h : Absorbed e init c msg)
    {bytes : List UInt8} (hfull : c.used + bytes.length = e.blockSize) :
    Absorbed e init { transform e { c with block := overwrite c.block c.used bytes } with used := 0 }
      (msg ++ bytes) := by
  have hB := e.blockSize_pos
  have hcomplete : msg.length % e.blockSize + bytes.length = e.blockSize := h.used_eq ▸ hfull
  have hdm := Nat.div_add_mod msg.length e.blockSize
  -- the message and the part make whole blocks
  have hdiv : e.blockSize * ((msg ++ bytes).length / e.blockSize) = (msg ++ bytes).length := by
    have hsum : (msg ++ bytes).length = e.blockSize * (msg.length / e.blockSize + 1) := by
      rw [List.length_append, Nat.mul_succ]
      omega
    rw [hsum, Nat.mul_div_cancel_left _ hB]
  -- the buffer is the unfinished block followed by the part, with nothing after it
  have hblock : overwrite c.block c.used bytes = msg.drop (e.blockSize * (msg.length / e.blockSize)) ++ bytes := by
    rw [overwrite, ← h.take_block, hfull, List.drop_of_length_le (Nat.le_of_eq h.length_block), List.append_nil]
  refine ⟨?_, ?_, ?_, ?_⟩
  · exact (length_overwrite (by rw [h.length_block]; omega)).trans h.length_block
  · show 0 = _
    rw [← Nat.mod_self e.blockSize, ← hdiv, Nat.mul_mod_right, Nat.mod_self]
  · show List.take 0 _ = _
    rw [hdiv, List.drop_length, List.take_zero]
  · show e.compress c.words (overwrite c.block c.used bytes) = _
    rw [hblock, h.words_eq, e.chain_complete init hcomplete]

/-- An update takes the part in: the context then holds the message and the part. -/
theorem Absorbed.update {init : List W} {c : Context W} {msg : List UInt8} (h : Absorbed e init c msg)
    (bytes : List UInt8) : Absorbed e init (update e c bytes) (msg ++ bytes) := by
  have hc := h.count bytes.length
  unfold Context.update
  generalize c.count bytes.length = c at hc ⊢
  dsimp only
  split
  · exact hc.absorb ‹_› bytes
  · rename_i hused
    have hlt : c.used < e.blockSize := by
      have := Nat.mod_lt msg.length e.blockSize_pos
      rw [hc.used_eq]
      exact this
    split
    · -- the part completes the block: its first bytes fill it, the rest is absorbed
      rename_i hfull
      have hi : min (e.blockSize - c.used) bytes.length = e.blockSize - c.used := by omega
      have hfill := hc.fill_block
        (by simp; omega : c.used + (bytes.take (e.blockSize - c.used)).length = e.blockSize)
      rw [hi, ← List.take_append_drop (e.blockSize - c.used) bytes, ← List.append_assoc,
        List.take_append_drop]
      exact hfill.absorb rfl _
    · -- the part ends inside the block
      rename_i hshort
      have hi : min (e.blockSize - c.used) bytes.length = bytes.length := by omega
      rw [hi, List.take_of_length_le (Nat.le_refl _)]
      exact hc.fill_short (by omega)

/-- The bit count of `L` bytes, as a low count modulo `2^32` and a high count,
counts `L + n` bytes after `n` more: the carry test of the low count catches
the wrap-around. -/
theorem count_counts {c : Context W} {L : Nat} (hlo : c.countLo = 8 * L % 2 ^ 32)
    (hhi : c.countHi = 8 * L / 2 ^ 32) (n : Nat) :
    (c.count n).countLo = 8 * (L + n) % 2 ^ 32 ∧ (c.count n).countHi = 8 * (L + n) / 2 ^ 32 := by
  have h32 : Nat.pow 2 32 = 2 ^ 32 := rfl
  have h29 : Nat.pow 2 29 = 2 ^ 29 := rfl
  simp only [count, h32, h29, hlo, hhi]
  constructor
  · omega
  · split <;> omega

theorem countLo_update (c : Context W) (bytes : List UInt8) :
    (update e c bytes).countLo = (c.count bytes.length).countLo := by
  unfold update absorb
  dsimp only
  split
  · simp
  · split <;> simp [transform]

theorem countHi_update (c : Context W) (bytes : List UInt8) :
    (update e c bytes).countHi = (c.count bytes.length).countHi := by
  unfold update absorb
  dsimp only
  split
  · simp
  · split <;> simp [transform]

/-- The context holds the message: its bits are counted, and it has absorbed it. -/
structure Holds (e : Engine W) (init : List W) (c : Context W) (msg : List UInt8) : Prop
    extends Absorbed e init c msg where
  /-- The low count is the bit count modulo `2^32`. -/
  countLo_eq : c.countLo = 8 * msg.length % 2 ^ 32
  /-- The high count is the rest of the bit count. -/
  countHi_eq : c.countHi = 8 * msg.length / 2 ^ 32

theorem holds_start (init : List W) : Holds e init (start e init) [] :=
  { toAbsorbed := absorbed_start init, countLo_eq := rfl, countHi_eq := rfl }

theorem Holds.update {init : List W} {c : Context W} {msg : List UInt8} (h : Holds e init c msg)
    (bytes : List UInt8) : Holds e init (update e c bytes) (msg ++ bytes) := by
  obtain ⟨hlo, hhi⟩ := count_counts h.countLo_eq h.countHi_eq bytes.length
  refine { toAbsorbed := h.toAbsorbed.update bytes, countLo_eq := ?_, countHi_eq := ?_ }
  · rw [countLo_update, hlo, List.length_append]
  · rw [countHi_update, hhi, List.length_append]

/-- A run of updates takes in every part in turn. -/
theorem Holds.feed {init : List W} {c : Context W} {msg : List UInt8} (h : Holds e init c msg)
    (parts : List (List UInt8)) : Holds e init (parts.foldl (Context.update e) c) (msg ++ parts.flatten) := by
  -- the invariant is carried part by part, the message growing on the right
  induction parts generalizing c msg with
  | nil => simpa using h
  | cons p parts ih =>
    rw [List.foldl_cons, List.flatten_cons, ← List.append_assoc]
    exact ih (h.update p)

/-- The last bytes of the last block: zeros up to the last eight, then the counts. -/
def trailer (e : Engine W) (c : Context W) : List UInt8 :=
  List.replicate (e.blockSize - 8 - e.markLimit) 0 ++ lengthBytes c

theorem length_lengthBytes (c : Context W) : (lengthBytes c).length = 8 := rfl

theorem length_trailer (c : Context W) : (trailer e c).length = e.blockSize - e.markLimit := by
  have := e.markLimit_add_le
  simp only [trailer, List.length_append, List.length_replicate, length_lengthBytes]
  omega

/-- The position of the mark is the count of bytes modulo a block. -/
theorem position_eq {c : Context W} {L : Nat} (h : c.countLo = 8 * L % 2 ^ 32) :
    c.countLo >>> 3 &&& (e.blockSize - 1) = L % e.blockSize := by
  have hdvd : 2 ^ e.blockBits ∣ 2 ^ 29 := Nat.pow_dvd_pow 2 e.blockBits_le
  rw [h, Nat.shiftRight_eq_div_pow, e.blockSize_eq_pow, Nat.and_two_pow_sub_one_eq_mod,
    show 8 * L % 2 ^ 32 / 2 ^ 3 = L % 2 ^ 29 by omega, Nat.mod_mod_of_dvd _ hdvd]

/-- The buffer marked at `P` and cut after the mark, with zeros to a block. -/
theorem marked_eq {block : List UInt8} {P : Nat} (hP : P < block.length) (z : Nat) :
    (block.set P 0x80).take (P + 1) ++ List.replicate z 0 = block.take P ++ 0x80 :: List.replicate z 0 := by
  have hlen : (block.take P).length = P := by simp; omega
  rw [List.set_eq_take_append_cons_drop, if_pos hP, List.take_append, List.take_of_length_le (by omega), hlen,
    Nat.add_sub_cancel_left, List.take_succ_cons, List.take_zero]
  simp

/-- The digest compresses, onto the context's words, the unfinished block of
`P` bytes followed by the mark, zeros up to the limit modulo a block, and the
trailer: one block, or two when the mark is not below the limit. -/
theorem final_eq (c : Context W) {P : Nat} (hpos : c.countLo >>> 3 &&& (e.blockSize - 1) = P)
    (hP : P < e.blockSize) (hb : c.block.length = e.blockSize) :
    final e c = textOf ((e.chain c.words
      (c.block.take P ++ 0x80 :: List.replicate (e.padZeros P) 0 ++ trailer e c)).flatMap e.bytesBE) := by
  have hML := e.markLimit_add_le
  have hpos' := e.markLimit_pos
  have htrailer := length_trailer (e := e) c
  have hpend : (c.block.take P).length = P := by simp; omega
  unfold final
  simp only [hpos, transform, marked_eq (hb ▸ hP)]
  split
  · -- the mark is past the limit: the marked block, then a block of zeros and the trailer
    rename_i hpast
    have hz : e.padZeros P = (e.blockSize - (P + 1)) + e.markLimit := by
      simp only [Engine.padZeros]
      rw [Nat.mod_eq_of_lt hP, Nat.mod_eq_of_lt (by omega)]
      omega
    have hfirst : (c.block.take P ++ 0x80 :: List.replicate (e.blockSize - (P + 1)) 0).length = e.blockSize := by
      simp only [List.length_append, List.length_cons, List.length_replicate, hpend]
      omega
    have hsplit : c.block.take P ++ 0x80 :: List.replicate (e.padZeros P) 0 ++ trailer e c =
        (c.block.take P ++ 0x80 :: List.replicate (e.blockSize - (P + 1)) 0) ++
          (List.replicate e.markLimit 0 ++ trailer e c) := by
      rw [hz, ← List.replicate_append_replicate]
      simp only [List.append_assoc, List.cons_append]
    have hlast : (List.replicate e.markLimit (0 : UInt8) ++ trailer e c).length = e.blockSize := by
      simp only [List.length_append, List.length_replicate, htrailer]
      omega
    rw [hsplit, e.chain_append_of_dvd _ (by rw [hfirst, Nat.mod_self]), e.chain_block _ hfirst,
      e.chain_block _ hlast, List.take_replicate, Nat.min_eq_left (by omega)]
    simp only [trailer, lengthBytes, List.append_assoc]
  · -- the mark is below the limit: one block
    rename_i hwithin
    have hz : e.padZeros P = e.markLimit - (P + 1) := by
      simp only [Engine.padZeros]
      rw [Nat.mod_eq_of_lt hP, show e.blockSize + e.markLimit - 1 - P = e.markLimit - (P + 1) + e.blockSize by omega,
        Nat.add_mod_right, Nat.mod_eq_of_lt (by omega)]
    have htake : (c.block.take P ++ 0x80 :: List.replicate (e.blockSize - (P + 1)) 0).take e.markLimit =
        c.block.take P ++ 0x80 :: List.replicate (e.markLimit - (P + 1)) 0 := by
      rw [List.take_append, List.take_of_length_le (by omega), hpend,
        show e.markLimit - P = (e.markLimit - (P + 1)) + 1 by omega, List.take_succ_cons, List.take_replicate,
        Nat.min_eq_left (by omega)]
    have hlast : (c.block.take P ++ 0x80 :: List.replicate (e.padZeros P) 0 ++ trailer e c).length =
        e.blockSize := by
      simp only [List.length_append, List.length_cons, List.length_replicate, hpend, hz, htrailer]
      omega
    rw [e.chain_block _ hlast, htake, hz]
    simp only [trailer, lengthBytes, List.append_assoc]

/-- A context that holds a message digests the chain of the message followed by
the mark, the zeros up to the limit modulo a block, and the trailer. -/
theorem Holds.final {init : List W} {c : Context W} {msg : List UInt8} (h : Holds e init c msg) :
    final e c = textOf ((e.chain init
      (msg ++ 0x80 :: List.replicate (e.padZeros msg.length) 0 ++ trailer e c)).flatMap e.bytesBE) := by
  have hP := Nat.mod_lt msg.length e.blockSize_pos
  have hpend : c.block.take (msg.length % e.blockSize) = msg.drop (e.blockSize * (msg.length / e.blockSize)) :=
    h.used_eq ▸ h.take_block
  have hzeros : e.padZeros (msg.length % e.blockSize) = e.padZeros msg.length := by
    simp only [Engine.padZeros, Nat.mod_mod]
  rw [final_eq c (position_eq h.countLo_eq) hP h.length_block, hpend, hzeros, h.words_eq]
  simp only [List.append_assoc, List.cons_append]
  rw [e.chain_append init msg]

/-- Two bytes are equal when their codes are equal modulo 256. -/
theorem toUInt8_eq_of_mod {a b : Nat} (h : a % 256 = b % 256) : a.toUInt8 = b.toUInt8 := by
  apply UInt8.toNat_inj.1
  simp only [Nat.toUInt8_eq, UInt8.toNat_ofNat']
  omega

/-- The two counts of a bit count `n` spell its last eight bytes, most
significant first. -/
theorem lengthBytes_eq (c : Context W) {n : Nat} (hlo : c.countLo = n % 2 ^ 32) (hhi : c.countHi = n / 2 ^ 32) :
    lengthBytes c = (List.range 8).reverse.map fun i => (n >>> (8 * i)).toUInt8 := by
  simp only [lengthBytes, hlo, hhi, List.range_succ, List.range_zero, List.map, Nat.shiftRight_eq_div_pow,
    List.nil_append, List.reverse_cons, List.reverse_nil, List.cons_append, List.map_cons, List.cons.injEq,
    and_true]
  -- the fourth byte is read off the high count alike on both sides
  refine ⟨?_, ?_, ?_, trivial, ?_, ?_, ?_, ?_⟩ <;> exact toUInt8_eq_of_mod (by omega)

end Context

/-! ## The standard digests -/

/-- The standards cut a padded message into blocks one after the other; folding
the compression over them is the chain of the message. -/
theorem foldl_blocks_eq_chain {W : Type} (e : Engine W) (blocks : List UInt8 → List (List UInt8))
    (hblocks : ∀ bs, blocks bs =
      if bs.length ≤ e.blockSize then [bs] else bs.take e.blockSize :: blocks (bs.drop e.blockSize))
    (w : List W) {bs : List UInt8} {k : Nat} (hk : bs.length = e.blockSize * (k + 1)) :
    (blocks bs).foldl e.compress w = e.chain w bs := by
  have hB := e.blockSize_pos
  -- one block at a time, from the front
  induction k generalizing w bs with
  | zero =>
    rw [Nat.mul_one] at hk
    rw [hblocks, if_pos (by omega), List.foldl_cons, List.foldl_nil, e.chain_block _ hk]
  | succ k ih =>
    rw [Nat.mul_succ] at hk
    have hfirst : (bs.take e.blockSize).length = e.blockSize := by simp; omega
    rw [hblocks, if_neg (by rw [Nat.mul_succ] at hk; omega), List.foldl_cons,
      ih _ (by simp only [List.length_drop]; omega)]
    conv_rhs => rw [← List.take_append_drop e.blockSize bs]
    rw [e.chain_append_of_dvd _ (by rw [hfirst, Nat.mod_self]), e.chain_block _ hfirst]

/-- The SHA-256 padding is the mark, the zeros and the trailer of a context that
has counted the message. -/
theorem sha256_pad {c : Context UInt32} {msg : List UInt8} (hlo : c.countLo = 8 * msg.length % 2 ^ 32)
    (hhi : c.countHi = 8 * msg.length / 2 ^ 32) :
    Sha256.pad msg = msg ++ 0x80 :: List.replicate (Engine.sha256.padZeros msg.length) 0 ++
      Context.trailer Engine.sha256 c := by
  have hz : Engine.sha256.padZeros msg.length = (119 - msg.length % 64) % 64 := rfl
  have hroom : Engine.sha256.blockSize - 8 - Engine.sha256.markLimit = 0 := rfl
  rw [Sha256.pad, Context.trailer, Context.lengthBytes_eq c hlo hhi, hz, hroom, Nat.mul_comm]
  simp

/-- A SHA-256 context that holds a message digests it to the FIPS 180-4 digest
from its initial words. -/
theorem sha256_final {init : List UInt32} {c : Context UInt32} {msg : List UInt8}
    (h : Context.Holds Engine.sha256 init c msg) :
    Context.final Engine.sha256 c = textOf (Sha256.hashFrom init msg) := by
  have hlen : (Sha256.pad msg).length = 64 * ((msg.length + 8) / 64 + 1) := by
    simp only [Sha256.pad, List.length_append, List.length_cons, List.length_nil, List.length_replicate,
      List.length_map, List.length_reverse, List.length_range]
    omega
  rw [h.final, ← sha256_pad h.countLo_eq h.countHi_eq,
    ← foldl_blocks_eq_chain Engine.sha256 Sha256.blocks (fun bs => by rw [Sha256.blocks]; rfl) init hlen]
  rfl

/-- Below `2^64` bits, the sixteen bytes of a bit count are eight zeros and its last eight. -/
theorem bytes16_eq {n : Nat} (h : n < 2 ^ 64) :
    (List.range 16).reverse.map (fun i => (n >>> (8 * i)).toUInt8) =
      List.replicate 8 (0 : UInt8) ++ (List.range 8).reverse.map fun i => (n >>> (8 * i)).toUInt8 := by
  have hrep : List.replicate 8 (0 : UInt8) = [0, 0, 0, 0, 0, 0, 0, 0] := rfl
  rw [hrep]
  simp only [List.range_succ, List.range_zero, List.map, Nat.shiftRight_eq_div_pow, List.nil_append,
    List.reverse_cons, List.reverse_nil, List.cons_append, List.map_cons, List.cons.injEq, and_true,
    Nat.reduceMul, Nat.reducePow]
  -- the eight leading bytes are past the count
  refine ⟨?_, ?_, ?_, ?_, ?_, ?_, ?_, ?_⟩ <;> exact Context.toUInt8_eq_of_mod (b := 0) (by omega)

/-- The SHA-512 padding is the mark, the zeros and the trailer of a context that
has counted a message of fewer than `2^64` bits: the length takes sixteen bytes,
of which the context writes the high eight as zeros. -/
theorem sha512_pad {c : Context UInt64} {msg : List UInt8} (hlo : c.countLo = 8 * msg.length % 2 ^ 32)
    (hhi : c.countHi = 8 * msg.length / 2 ^ 32) (hlen : 8 * msg.length < 2 ^ 64) :
    Sha512.pad msg = msg ++ 0x80 :: List.replicate (Engine.sha512.padZeros msg.length) 0 ++
      Context.trailer Engine.sha512 c := by
  have hz : Engine.sha512.padZeros msg.length = (239 - msg.length % 128) % 128 := rfl
  have hroom : Engine.sha512.blockSize - 8 - Engine.sha512.markLimit = 8 := rfl
  rw [Sha512.pad, Context.trailer, Context.lengthBytes_eq c hlo hhi, hz, hroom, Nat.mul_comm msg.length 8,
    bytes16_eq hlen]
  simp

/-- A SHA-512 context that holds a message of fewer than `2^64` bits digests it
to the FIPS 180-4 digest from its initial words. -/
theorem sha512_final {init : List UInt64} {c : Context UInt64} {msg : List UInt8}
    (h : Context.Holds Engine.sha512 init c msg) (hlen : 8 * msg.length < 2 ^ 64) :
    Context.final Engine.sha512 c = textOf (Sha512.hashFrom init msg) := by
  have hpad : (Sha512.pad msg).length = 128 * ((msg.length + 16) / 128 + 1) := by
    simp only [Sha512.pad, List.length_append, List.length_cons, List.length_nil, List.length_replicate,
      List.length_map, List.length_reverse, List.length_range]
    omega
  rw [h.final, ← sha512_pad h.countLo_eq h.countHi_eq hlen,
    ← foldl_blocks_eq_chain Engine.sha512 Sha512.blocks (fun bs => by rw [Sha512.blocks]; rfl) init hpad]
  rfl

theorem toList_textOf (bytes : List UInt8) : (textOf bytes).toList = bytes.map fun b => Char.ofNat b.toNat :=
  String.toList_ofList

/-- SHA-256 and SHA-224 do not depend on how the message is cut: contexts fed the
parts in turn digest the whole message to its FIPS 180-4 digest, of which the
SHA-224 digest is the first 28 bytes. -/
theorem sha256_final_feed (parts : List (List UInt8)) :
    Context.final Engine.sha256 (parts.foldl (Context.update Engine.sha256) sha256Start) =
        textOf (Sha256.hash parts.flatten) ∧
      (Context.final Engine.sha256 (parts.foldl (Context.update Engine.sha256) sha224Start)).toList.take 28 =
        (textOf (Sha256.hash224 parts.flatten)).toList := by
  have h256 := (Context.holds_start (e := Engine.sha256) Sha256.initial256).feed parts
  have h224 := (Context.holds_start (e := Engine.sha256) Sha256.initial224).feed parts
  rw [List.nil_append] at h256 h224
  have h224' : Context.final Engine.sha256 (parts.foldl (Context.update Engine.sha256) sha224Start) =
      textOf (Sha256.hashFrom Sha256.initial224 parts.flatten) := sha256_final h224
  refine ⟨sha256_final h256, ?_⟩
  rw [h224', Sha256.hash224, toList_textOf, toList_textOf, List.map_take]

/-- SHA-512 and SHA-384 do not depend on how a message of fewer than `2^61`
bytes is cut: contexts fed the parts in turn digest the whole message to its
FIPS 180-4 digest, of which the SHA-384 digest is the first 48 bytes. -/
theorem sha512_final_feed (parts : List (List UInt8)) (hlen : parts.flatten.length < 2 ^ 61) :
    Context.final Engine.sha512 (parts.foldl (Context.update Engine.sha512) sha512Start) =
        textOf (Sha512.hash parts.flatten) ∧
      (Context.final Engine.sha512 (parts.foldl (Context.update Engine.sha512) sha384Start)).toList.take 48 =
        (textOf (Sha512.hash384 parts.flatten)).toList := by
  have hbits : 8 * parts.flatten.length < 2 ^ 64 := by omega
  have h512 := (Context.holds_start (e := Engine.sha512) Sha512.initial512).feed parts
  have h384 := (Context.holds_start (e := Engine.sha512) Sha512.initial384).feed parts
  rw [List.nil_append] at h512 h384
  have h384' : Context.final Engine.sha512 (parts.foldl (Context.update Engine.sha512) sha384Start) =
      textOf (Sha512.hashFrom Sha512.initial384 parts.flatten) := sha512_final h384 hbits
  refine ⟨sha512_final h512 hbits, ?_⟩
  rw [h384', Sha512.hash384, toList_textOf, toList_textOf, List.map_take]

/-- The message `abc` cut after its first byte. -/
theorem sha512_final_feed_abc : [[0x61], [0x62, 0x63]].flatten.length < 2 ^ 61 ∧
    (Context.final Engine.sha512 ([[0x61], [0x62, 0x63]].foldl (Context.update Engine.sha512) sha512Start) =
        textOf (Sha512.hash [0x61, 0x62, 0x63]) ∧
      (Context.final Engine.sha512 ([[0x61], [0x62, 0x63]].foldl (Context.update Engine.sha512)
        sha384Start)).toList.take 48 = (textOf (Sha512.hash384 [0x61, 0x62, 0x63])).toList) :=
  ⟨by decide, sha512_final_feed _ (by decide)⟩

end Basis.Digest.Sha2
