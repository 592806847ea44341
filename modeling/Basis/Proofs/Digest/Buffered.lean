import Mathlib.Data.List.Forall2
import Mathlib.Algebra.Group.Nat.Defs
import Basis.Digest.Buffered

/-!
# Buffered hashers take in a message however it is split

A buffered hasher (`Basis.Digest.Buffered`) keeps the items of an unfinished
block and compresses each block of 64 as soon as it is full. This file shows,
for every design, that an update leaves the hasher in the state its whole
message so far gives (`Holds`): eight bits counted per code, the codes after
the last full block buffered, and the chain of the full blocks.

* `absorb` is the chain of the full blocks of a list of codes. `absorb_fill`
  splits it where a buffered tail is completed to a block, `absorb_append_short`
  drops a tail that completes none, and `absorb_append` splits it at a block
  boundary.
* `Seq` describes a text or a list by the items an update reads from it
  (`seq_str`, `seq_list`), and `Coded` pairs items with their codes.
* `transformRun_eq`: the loop over the further full blocks of an update
  compresses them in order.
* `update_holds`: an update with fewer than `2^29` items succeeds, and a hasher
  that holds the codes `cs` then holds `cs ++ ds`, where `ds` are the codes of
  the items.
* `digest_eq`: the digest pads the message to 56 codes modulo 64, compresses
  the last block with the two length words (`finalChain`), and renders the
  chain. It gives the hasher back as it was when the rendering succeeds
  (`digest_holds`), and leaves the padding counted when it fails
  (`digest_render_error`).
-/

namespace Basis.Digest.Buffered

open Basis.Value (slice iterate cut)

variable {Chain : Type}

/-! ## Words and blocks of codes -/

/-- The words of a list of codes, four codes to a word; codes after the last
full word are left out. -/
def wordsOf (d : Design Chain) : List Nat → List Nat
  | a :: b :: c :: e :: rest => word d a b c e :: wordsOf d rest
  | _ => []

/-- A list that does not start with four items has fewer than four: the case that
the readers of four items at a time leave to their last pattern. -/
theorem length_lt_four_of_short {α : Type} {xs : List α}
    (h : ∀ a b c e rest, xs = a :: b :: c :: e :: rest → False) : xs.length < 4 := by
  rcases xs with _ | ⟨a, _ | ⟨b, _ | ⟨c, _ | ⟨e, rest⟩⟩⟩⟩
  all_goals first | exact absurd rfl (h _ _ _ _ _) | simp

theorem wordsOf_of_length_lt_four (d : Design Chain) {cs : List Nat} (h : cs.length < 4) :
    wordsOf d cs = [] := by
  rcases cs with _ | ⟨a, _ | ⟨b, _ | ⟨c, _ | ⟨e, rest⟩⟩⟩⟩
  all_goals first | rfl | (simp at h; omega)

theorem length_wordsOf (d : Design Chain) (cs : List Nat) : (wordsOf d cs).length = cs.length / 4 := by
  fun_induction wordsOf d cs with
  | case1 a b c e rest ih =>
    simp only [List.length_cons, ih]
    omega
  | case2 cs h =>
    have hlt := length_lt_four_of_short h
    simp only [List.length_nil]
    omega

theorem wordsOf_append (d : Design Chain) {as : List Nat} (h : 4 ∣ as.length) (bs : List Nat) :
    wordsOf d (as ++ bs) = wordsOf d as ++ wordsOf d bs := by
  fun_induction wordsOf d as with
  | case1 a b c e rest ih =>
    simp only [List.cons_append, wordsOf, List.cons_append, ih (by simp at h; omega)]
  | case2 as hnot =>
    -- fewer than four codes, and a multiple of four: none
    have hlt := length_lt_four_of_short hnot
    obtain rfl : as = [] := List.length_eq_zero_iff.1 (by omega)
    rfl

/-- The chain after the full blocks of 64 codes of a message, from `c`; codes
after the last full block are left out. -/
def absorb (d : Design Chain) (c : Chain) (cs : List Nat) : Chain :=
  if 64 ≤ cs.length then absorb d (d.compress c (wordsOf d (cs.take 64))) (cs.drop 64) else c
termination_by cs.length
decreasing_by simp only [List.length_drop]; omega

variable (d : Design Chain)

theorem absorb_short {c : Chain} {cs : List Nat} (h : cs.length < 64) : absorb d c cs = c := by
  rw [absorb, if_neg (by omega)]

theorem absorb_block (c : Chain) {blk : List Nat} (h : blk.length = 64) (rest : List Nat) :
    absorb d c (blk ++ rest) = absorb d (d.compress c (wordsOf d blk)) rest := by
  rw [absorb, if_pos (by simp; omega), List.take_append_of_le_length (by omega),
    List.take_of_length_le (by omega), List.drop_append_of_le_length (by omega),
    List.drop_of_length_le (by omega), List.nil_append]

theorem absorb_one_block (c : Chain) {blk : List Nat} (h : blk.length = 64) :
    absorb d c blk = d.compress c (wordsOf d blk) := by
  conv_lhs => rw [← List.append_nil blk]
  rw [absorb_block d c h, absorb_short d (by simp)]

/-- The chain of a message with a whole number of blocks in front is the chain
of the rest from the chain of those blocks. -/
theorem absorb_append (c : Chain) {as : List Nat} (h : 64 ∣ as.length) (bs : List Nat) :
    absorb d c (as ++ bs) = absorb d (absorb d c as) bs := by
  obtain ⟨k, hk⟩ := h
  -- one block at a time, from the front
  induction k generalizing c as with
  | zero =>
    obtain rfl : as = [] := List.length_eq_zero_iff.1 (by omega)
    have h0 : absorb d c ([] : List Nat) = c := absorb_short d (by simp)
    rw [List.nil_append, h0]
  | succ k ih =>
    rw [← List.take_append_drop 64 as, List.append_assoc, absorb_block d c (by simp; omega),
      absorb_block d c (by simp; omega), ih _ (by simp; omega)]

/-- Codes after the last full block do not change the chain. -/
theorem absorb_take_blocks (c : Chain) (cs : List Nat) :
    absorb d c cs = absorb d c (cs.take (cs.length / 64 * 64)) := by
  conv_lhs => rw [← List.take_append_drop (cs.length / 64 * 64) cs]
  rw [absorb_append d c (by simp; omega), absorb_short d (by simp; omega)]

/-- A tail that completes no block does not change the chain. -/
theorem absorb_append_short (c : Chain) {cs ds : List Nat} (h : cs.length % 64 + ds.length < 64) :
    absorb d c (cs ++ ds) = absorb d c cs := by
  have hsplit : cs ++ ds = cs.take (cs.length / 64 * 64) ++ (cs.drop (cs.length / 64 * 64) ++ ds) := by
    rw [← List.append_assoc, List.take_append_drop]
  rw [hsplit, absorb_append d c (by simp; omega), absorb_short d (by simp; omega),
    ← absorb_take_blocks]

/-- A message whose buffered tail the next codes complete: the block they make
is compressed after the full blocks before it, then the rest follows. -/
theorem absorb_fill (c : Chain) {cs ds : List Nat} (h : 64 - cs.length % 64 ≤ ds.length) :
    absorb d c (cs ++ ds) =
      absorb d (d.compress (absorb d c cs)
        (wordsOf d (cs.drop (cs.length / 64 * 64) ++ ds.take (64 - cs.length % 64))))
        (ds.drop (64 - cs.length % 64)) := by
  have hsplit : cs ++ ds = cs.take (cs.length / 64 * 64) ++
      ((cs.drop (cs.length / 64 * 64) ++ ds.take (64 - cs.length % 64)) ++
        ds.drop (64 - cs.length % 64)) := by
    simp only [List.append_assoc, List.take_append_drop]
    rw [← List.append_assoc, List.take_append_drop]
  rw [hsplit, absorb_append d c (by simp; omega), absorb_block d _ (by simp; omega),
    ← absorb_take_blocks]

/-! ## Items and their codes -/

/-- The items of a list have the codes of another, item by item. -/
def Coded (xs : List Value) (cs : List Nat) : Prop := List.Forall₂ (fun x c => code x = .ok c) xs cs

theorem Coded.length_eq {xs : List Value} {cs : List Nat} (h : Coded xs cs) : xs.length = cs.length :=
  List.Forall₂.length_eq h

theorem Coded.append {xs ys : List Value} {cs ds : List Nat} (h : Coded xs cs) (h' : Coded ys ds) :
    Coded (xs ++ ys) (cs ++ ds) :=
  List.rel_append h h'

theorem Coded.take {xs : List Value} {cs : List Nat} (h : Coded xs cs) (n : Nat) :
    Coded (xs.take n) (cs.take n) :=
  List.forall₂_take n h

theorem Coded.drop {xs : List Value} {cs : List Nat} (h : Coded xs cs) (n : Nat) :
    Coded (xs.drop n) (cs.drop n) :=
  List.forall₂_drop n h

theorem Coded.cut {xs : List Value} {cs : List Nat} (h : Coded xs cs) (a b : Nat) :
    Coded (cut xs a b) (cut cs a b) :=
  (h.take b).drop a

theorem code_char (c : Char) : code (.str (String.singleton c)) = .ok c.toNat := by
  simp [code, Value.ord?, Except.mapError]

/-- The items of a text are its characters, coded by their code points. -/
theorem coded_chars (cs : List Char) :
    Coded (cs.map fun c => .str (String.singleton c)) (cs.map Char.toNat) := by
  induction cs with
  | nil => exact List.Forall₂.nil
  | cons c cs ih => exact List.Forall₂.cons (code_char c) ih

theorem words_eq {xs : List Value} {cs : List Nat} (h : Coded xs cs) :
    words d xs = .ok (wordsOf d cs) := by
  fun_induction wordsOf d cs generalizing xs with
  | case1 a b c e rest ih =>
    obtain ⟨x1, x2, x3, x4, xr, rfl, h1, h2, h3, h4, hr⟩ : ∃ x1 x2 x3 x4 xr,
        xs = x1 :: x2 :: x3 :: x4 :: xr ∧ code x1 = .ok a ∧ code x2 = .ok b ∧ code x3 = .ok c ∧
          code x4 = .ok e ∧ Coded xr rest := by
      rcases h with _ | ⟨h1, h⟩
      rcases h with _ | ⟨h2, h⟩
      rcases h with _ | ⟨h3, h⟩
      rcases h with _ | ⟨h4, hr⟩
      exact ⟨_, _, _, _, _, rfl, h1, h2, h3, h4, hr⟩
    simp only [words, h1, h2, h3, h4, ih hr]
    rfl
  | case2 cs hnot =>
    -- fewer than four codes, so fewer than four items
    have hlt : xs.length < 4 := by
      rw [h.length_eq]
      exact length_lt_four_of_short hnot
    rcases xs with _ | ⟨x1, _ | ⟨x2, _ | ⟨x3, _ | ⟨x4, xr⟩⟩⟩⟩
    all_goals first | rfl | (simp at hlt; omega)

/-- A block of 64 coded items compresses into the chain. -/
theorem transformItems_eq (c : Chain) {xs : List Value} {cs : List Nat} (h : Coded xs cs)
    (h64 : cs.length = 64) : transformItems d c xs = .ok (d.compress c (wordsOf d cs)) := by
  have hw : ¬(wordsOf d cs).length < 16 := by
    rw [length_wordsOf]
    omega
  simp only [transformItems, words_eq d h, transform, bind, Except.bind, hw, if_false]

/-- What an update reads from a value: its length, its items, and the items of
each slice. -/
structure Seq (data : Value) (xs : List Value) : Prop where
  /-- The length is the number of items. -/
  len_eq : data.len = .ok xs.length
  /-- Iteration gives the items. -/
  iterate_eq : iterate data = .ok xs
  /-- A slice gives the items between its bounds. -/
  slice_eq : ∀ a b, (slice data a b >>= iterate) = .ok (cut xs a b)

theorem seq_str (s : String) : Seq (.str s) (s.toList.map fun c => .str (String.singleton c)) where
  len_eq := by simp [Value.len, Value.length?, String.length_toList]
  iterate_eq := rfl
  slice_eq a b := by
    simp only [slice, bind, Except.bind, iterate, Value.items?, String.toList_ofList, cut,
      List.map_drop, List.map_take]

theorem seq_list (xs : List Value) : Seq (.list xs) xs where
  len_eq := rfl
  iterate_eq := rfl
  slice_eq _ _ := rfl

/-- The further blocks of an update compress in order: `count` blocks of 64 items
from `start` give the chain of their codes. -/
theorem transformRun_eq {data : Value} {xs : List Value} {cs : List Nat} (hseq : Seq data xs)
    (h : Coded xs cs) (c : Chain) (start count : Nat) (hle : start + 64 * count ≤ xs.length) :
    transformRun d data c start count = (absorb d c (cut cs start (start + 64 * count)), .ok ()) := by
  induction count generalizing c start with
  | zero => simp [transformRun, cut, absorb_short]
  | succ count ih =>
    have hlen := h.length_eq
    have hblock : (cut cs start (start + 64)).length = 64 := by
      simp only [cut, List.length_drop, List.length_take]
      omega
    have hsplit : cut cs start (start + 64 * (count + 1)) =
        cut cs start (start + 64) ++ cut cs (start + 64) (start + 64 + 64 * count) := by
      simp only [cut, List.drop_take]
      rw [show start + 64 * (count + 1) - start = 64 + 64 * count by omega,
        show start + 64 - start = 64 by omega, show start + 64 + 64 * count - (start + 64) = 64 * count by omega,
        List.take_add, List.drop_drop, Nat.add_comm start 64]
    rw [transformRun, hseq.slice_eq]
    simp only [bind, Except.bind, transformItems_eq d c (h.cut _ _) hblock]
    rw [ih _ _ (by omega), hsplit, absorb_block d c hblock]

/-! ## The state of a hasher -/

/-- A hasher that has taken in the codes `cs`: eight bits counted for each,
nothing carried, the codes after the last full block buffered, and the chain of
the full blocks. -/
structure Holds (s : Buffered Chain) (cs : List Nat) : Prop where
  /-- Eight bits are counted for each code. -/
  bits_eq : s.bits = 8 * cs.length
  /-- Nothing was carried. -/
  carry_eq : s.carry = 0
  /-- The buffer holds the codes after the last full block. -/
  pending_coded : Coded s.pending (cs.drop (cs.length / 64 * 64))
  /-- The chain is that of the full blocks. -/
  chain_eq : s.chain = absorb d d.start cs

theorem holds_fresh : Holds d (fresh d) [] :=
  ⟨rfl, rfl, List.Forall₂.nil, (absorb_short d (by simp)).symm⟩

theorem update_holds {s : Buffered Chain} {cs : List Nat} (h : Holds d s cs) {data : Value}
    {xs : List Value} {ds : List Nat} (hseq : Seq data xs) (hcoded : Coded xs ds)
    (hsmall : ds.length < 2 ^ 29) :
    (update d s data).2 = .ok () ∧ Holds d (update d s data).1 (cs ++ ds) := by
  have hlen := hcoded.length_eq
  have hpend := h.pending_coded.length_eq
  rw [List.length_drop] at hpend
  -- the position in the block and the carry, read off the count
  have hidx : s.bits / 8 % 64 = cs.length % 64 := by
    rw [h.bits_eq]
    omega
  have hcarry : (if s.bits + xs.length * 8 < xs.length * 8 then s.carry + 1 else s.carry) +
      xs.length / Nat.pow 2 29 = 0 := by
    rw [if_neg (by omega), h.carry_eq, Nat.div_eq_of_lt (by rw [Nat.pow_eq]; omega)]
  have hbits : s.bits + xs.length * 8 = 8 * (cs ++ ds).length := by
    rw [h.bits_eq, List.length_append]
    omega
  have htake : s.pending.take (cs.length % 64) = s.pending := List.take_of_length_le (by omega)
  unfold update
  rw [hseq.len_eq]
  simp only [hidx, hcarry, htake]
  by_cases hroom : 64 - cs.length % 64 ≤ xs.length
  · -- the buffer and the first items make a block; the further full blocks follow
    have hfirst : Coded (s.pending ++ cut xs 0 (64 - cs.length % 64))
        (cs.drop (cs.length / 64 * 64) ++ ds.take (64 - cs.length % 64)) := by
      have := h.pending_coded.append (hcoded.cut 0 (64 - cs.length % 64))
      simpa [cut] using this
    have hfirst64 : (cs.drop (cs.length / 64 * 64) ++ ds.take (64 - cs.length % 64)).length = 64 := by
      simp only [List.length_append, List.length_drop, List.length_take]
      omega
    rw [if_pos hroom, hseq.slice_eq, hseq.slice_eq]
    simp only [transformItems_eq d _ hfirst hfirst64]
    rw [transformRun_eq d hseq hcoded _ _ _ (by omega)]
    refine ⟨rfl, hbits, rfl, ?_, ?_⟩
    · have hk : (cs ++ ds).length / 64 * 64 =
          cs.length + (64 - cs.length % 64 + 64 * ((xs.length - (64 - cs.length % 64)) / 64)) := by
        simp only [List.length_append]
        omega
      have hrest := hcoded.cut (64 - cs.length % 64 + 64 * ((xs.length - (64 - cs.length % 64)) / 64))
        xs.length
      rw [hk]
      simpa [cut, hlen] using hrest
    · -- the loop took the full blocks after the first; what is left completes none
      have hblocks : (ds.drop (64 - cs.length % 64)).length / 64 * 64 =
          64 * ((xs.length - (64 - cs.length % 64)) / 64) := by
        rw [List.length_drop]
        omega
      rw [absorb_fill d _ (by omega), ← h.chain_eq, absorb_take_blocks d _ (ds.drop _), hblocks, cut,
        List.drop_take, Nat.add_sub_cancel_left]
  · rw [if_neg hroom, hseq.iterate_eq]
    refine ⟨rfl, hbits, rfl, ?_, ?_⟩
    · have hk : (cs ++ ds).length / 64 * 64 = cs.length / 64 * 64 := by
        simp only [List.length_append]
        omega
      rw [hk, List.drop_append_of_le_length (by omega)]
      exact h.pending_coded.append hcoded
    · rw [absorb_append_short d _ (by omega), h.chain_eq]

/-! ## The digest -/

theorem coded_replicate {x : Value} {c : Nat} (h : code x = .ok c) (m : Nat) :
    Coded (List.replicate m x) (List.replicate m c) := by
  induction m with
  | zero => exact List.Forall₂.nil
  | succ m ih => exact List.Forall₂.cons h ih

/-- The codes of a message followed by its padding: the code `0x80`, then zeros
up to 56 codes modulo 64. -/
def padded (cs : List Nat) : List Nat := cs ++ 0x80 :: List.replicate (padLength (8 * cs.length) - 1) 0

theorem length_padded (cs : List Nat) : (padded cs).length % 64 = 56 := by
  simp only [padded, padLength, List.length_append, List.length_cons, List.length_replicate]
  split <;> omega

/-- The chain a digest is read off: that of the full blocks of the padded
message, then of its last 56 codes with the two length words. -/
def finalChain (cs : List Nat) : Chain :=
  d.compress (absorb d d.start (padded cs))
    (wordsOf d ((padded cs).drop ((padded cs).length / 64 * 64)) ++ d.lengthWords (8 * cs.length) 0)

/-- The digest of a hasher that holds `cs` renders `finalChain d cs`. When the
rendering succeeds the hasher is given back as it was; when it fails the hasher
keeps the padding it took in, with the final chain. -/
theorem digest_eq {s : Buffered Chain} {cs : List Nat} (h : Holds d s cs)
    (hmark : code d.mark = .ok 0x80) (hfill : code d.fill = .ok 0)
    (hwords : ∀ b c, (d.lengthWords b c).length = 2) :
    ∃ s1, Holds d s1 (padded cs) ∧ digest d s = match d.render (finalChain d cs) with
      | .error e => ({ s1 with chain := finalChain d cs }, .error e)
      | .ok v => (s, .ok v) := by
  -- the padding is an update with the mark and fewer than 64 fills
  have hk : 1 ≤ padLength s.bits ∧ padLength s.bits ≤ 64 := by
    simp only [padLength]
    split <;> omega
  have htake : (d.mark :: List.replicate 63 d.fill).take (padLength s.bits) =
      d.mark :: List.replicate (padLength s.bits - 1) d.fill := by
    obtain ⟨k, hk'⟩ : ∃ k, padLength s.bits = k + 1 := ⟨padLength s.bits - 1, by omega⟩
    rw [hk', List.take_succ_cons, List.take_replicate, Nat.min_eq_left (by omega), Nat.add_sub_cancel]
  have hpad : Coded ((d.mark :: List.replicate 63 d.fill).take (padLength s.bits))
      (0x80 :: List.replicate (padLength (8 * cs.length) - 1) 0) := by
    rw [htake, ← h.bits_eq]
    exact List.Forall₂.cons hmark (coded_replicate hfill _)
  have hk' : padLength (8 * cs.length) ≤ 64 := h.bits_eq ▸ hk.2
  obtain ⟨hok, hs1⟩ := update_holds d h (seq_list _) hpad (by simp; omega)
  refine ⟨_, hs1, ?_⟩
  unfold digest
  dsimp only
  rw [show update d s (.list ((d.mark :: List.replicate 63 d.fill).take (padLength s.bits))) =
    ((update d s (.list ((d.mark :: List.replicate 63 d.fill).take (padLength s.bits)))).1, .ok ()) from
    Prod.ext rfl hok]
  generalize (update d s (.list ((d.mark :: List.replicate 63 d.fill).take (padLength s.bits)))).1 = s1
    at hs1 ⊢
  replace hs1 : Holds d s1 (padded cs) := hs1
  -- after the padding the buffer holds the last 56 codes, which make 14 words
  have hlast := hs1.pending_coded
  have h56 : ((padded cs).drop ((padded cs).length / 64 * 64)).length = 56 := by
    have := length_padded cs
    simp only [List.length_drop]
    omega
  have hpend : s1.pending.take 56 = s1.pending :=
    List.take_of_length_le (Nat.le_of_eq (by rw [hlast.length_eq]; exact h56))
  have hw : ¬(wordsOf d ((padded cs).drop ((padded cs).length / 64 * 64)) ++
      d.lengthWords (8 * cs.length) 0).length < 16 := by
    rw [List.length_append, length_wordsOf, hwords, h56]
    omega
  simp only [hpend, words_eq d hlast, bind, Except.bind, transform, h.bits_eq, h.carry_eq, hw,
    if_false, hs1.chain_eq]
  rfl

/-- The digest of a hasher that holds `cs` is read off `finalChain d cs`, and
the hasher is given back as it was. -/
theorem digest_holds {s : Buffered Chain} {cs : List Nat} (h : Holds d s cs)
    (hmark : code d.mark = .ok 0x80) (hfill : code d.fill = .ok 0)
    (hwords : ∀ b c, (d.lengthWords b c).length = 2) {v : Value}
    (hv : d.render (finalChain d cs) = .ok v) : digest d s = (s, .ok v) := by
  obtain ⟨s1, _, hd⟩ := digest_eq d h hmark hfill hwords
  rw [hd, hv]

/-- A digest whose rendering fails is not undone: the hasher has counted the
padding, so it no longer holds the message. -/
theorem digest_render_error {s : Buffered Chain} {cs : List Nat} (h : Holds d s cs)
    (hmark : code d.mark = .ok 0x80) (hfill : code d.fill = .ok 0)
    (hwords : ∀ b c, (d.lengthWords b c).length = 2) {e : Failure}
    (he : d.render (finalChain d cs) = .error e) :
    (digest d s).2 = .error e ∧ (digest d s).1.bits = 8 * (padded cs).length := by
  obtain ⟨s1, hs1, hd⟩ := digest_eq d h hmark hfill hwords
  rw [hd, he]
  exact ⟨rfl, hs1.bits_eq⟩

/-- When eight codes spell the two length words, the final chain is the chain of
the padded message followed by them: a standard padding. -/
theorem finalChain_eq_absorb (cs : List Nat) {lens : List Nat} (hl : lens.length = 8)
    (hw : wordsOf d lens = d.lengthWords (8 * cs.length) 0) :
    finalChain d cs = absorb d d.start (padded cs ++ lens) := by
  have hp := length_padded cs
  have hsplit : padded cs ++ lens = (padded cs).take ((padded cs).length / 64 * 64) ++
      ((padded cs).drop ((padded cs).length / 64 * 64) ++ lens) := by
    rw [← List.append_assoc, List.take_append_drop]
  rw [hsplit, absorb_append d _ (by simp; omega), absorb_one_block d _ (by simp; omega),
    ← absorb_take_blocks, wordsOf_append d (by simp; omega), hw]
  rfl

end Basis.Digest.Buffered
