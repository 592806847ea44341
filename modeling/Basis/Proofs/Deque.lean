import Mathlib.Data.List.Rotate
import Mathlib.Data.Int.ModEq
import Mathlib.Tactic.Ring
import Mathlib.Tactic.Zify
import Basis.Proofs.Deque.Chain
import Basis.Protocol.Deque

/-!
# Deques refine bounded lists

A deque keeps its items in a chain of blocks of thirty slots. Read as one list
of slots, block after block (`slots`), its items are the slots from its left end
to its right end (`Laid.items_eq`). `Deque.Laid` says the chain is laid out
right: it has a block, and the deque counts as many items as there are slots
between its ends (`Laid.span`); each end lies in its block by its type. So the
count is the number of items (`Laid.length_items`), and the deque is empty
exactly when its one block has its left end just past its right end
(`Laid.items_eq_nil_iff`), which is what the deque's own test checks
(`Laid.isEmpty_iff`). `Deque.Shaped m` adds that the deque tests lengths against
the bound `m` and holds no more items than `m`.

Each operation is read off the slots it touches: a push writes the slot past
an end, in a fresh block past the last slot (`growRight_cases`,
`growLeft_cases`); a pop empties the slot at an end and steps inward, unlinking
an emptied block or recentring (`dropLeft_cases`, `dropRight_cases`); an index
walks the blocks from one end to the slot of the position it names
(`Laid.place?_eq`); and `reverse` swaps the slots from the two ends inward
(`Laid.items_reverse`).

So every operation of the interface (`Deque.Op`) keeps the shape and acts on
the items as its counterpart on lists does (`Deque.Op.onList`): a push past the
bound drops an item at the other end, a pop from an empty deque is an index
error that changes nothing, and a rotation by `n` turns the items by `n` modulo
their number, to the right. `Deque.refines_boundedList` puts it together for
every deque the constructor builds and every sequence of operations after it.
-/

namespace Basis.Collections.Deque

variable {α : Type}

/-! ## The layout of the chain -/

/-- The test a bound makes of a length: over the bound when greater than it. -/
def overLimit : Option Nat → Nat → Bool
  | none, _ => false
  | some m, n => decide (m < n)

/-- One past the position of the rightmost item among the slots of the chain. -/
def stop (d : Deque α) : Nat := 30 * (d.chain.length - 1) + d.rightIndex.val + 1

/-- The chain is laid out right: it has a block, and the deque counts as many
items as there are slots from its left end to its right end. -/
structure Laid (d : Deque α) : Prop where
  blocks_pos : 0 < d.chain.length
  span : d.length + d.leftIndex.val = d.stop

/-- A laid-out deque that tests lengths against the bound `m` and keeps within it. -/
structure Shaped (m : Option Nat) (d : Deque α) : Prop extends Laid d where
  bound : d.overBound = overLimit m
  within : ∀ n, m = some n → d.length ≤ n

variable {d : Deque α} {m : Option Nat}

theorem Laid.stop_le (h : d.Laid) : d.stop ≤ 30 * d.chain.length := by
  have := h.blocks_pos
  unfold stop
  omega

/-- The items are the slots from the left end up to the right end. -/
theorem Laid.items_eq (h : d.Laid) : d.items = ((slots d.chain).take d.stop).drop d.leftIndex :=
  itemsFrom_eq _ _ (by omega) _ (List.ne_nil_of_length_pos h.blocks_pos)

/-- The item at `i` is the slot `i` places on from the left end. -/
theorem Laid.getElem?_items (h : d.Laid) (i : Nat) :
    d.items[i]? = if i < d.length then (slots d.chain)[d.leftIndex.val + i]? else none := by
  have := h.span
  rw [h.items_eq, List.getElem?_drop, List.getElem?_take]
  by_cases hi : i < d.length
  · rw [if_pos (by omega), if_pos hi]
  · rw [if_neg (by omega), if_neg hi]

/-- The deque's count of its items is right. -/
theorem Laid.length_items (h : d.Laid) : d.items.length = d.length := by
  have := h.span
  have := h.stop_le
  rw [h.items_eq, List.length_drop, List.length_take, length_slots]
  omega

theorem Laid.length_pos (h : d.Laid) (hne : d.items ≠ []) : 0 < d.length :=
  h.length_items ▸ List.length_pos_of_ne_nil hne

/-- A position before the right end is a slot of the chain. -/
theorem Laid.lt_length_slots (h : d.Laid) {t : Nat} (ht : t < d.stop) : t < (slots d.chain).length := by
  rw [length_slots]
  exact Nat.lt_of_lt_of_le ht h.stop_le

/-- An empty deque is one block with its left end just past its right end. -/
theorem Laid.items_eq_nil_iff (h : d.Laid) :
    d.items = [] ↔ d.chain.length = 1 ∧ d.leftIndex.val = d.rightIndex.val + 1 := by
  have := h.span
  have := h.blocks_pos
  rw [← List.length_eq_zero_iff, h.length_items]
  unfold stop at *
  omega

/-- The deque's own emptiness test is right. -/
theorem Laid.isEmpty_iff (h : d.Laid) : d.isEmpty = true ↔ d.items = [] := by
  have := h.span
  rw [h.items_eq_nil_iff]
  simp only [isEmpty, Bool.and_eq_true, beq_iff_eq, decide_eq_true_eq]
  unfold stop at *
  omega

/-- The items of a laid-out deque are a list of its length whose every item is
the slot as many places on from the left end. -/
theorem Laid.items_eq_iff (h : d.Laid) {l : List α} :
    d.items = l ↔ l.length = d.length ∧ ∀ i < d.length, (slots d.chain)[d.leftIndex.val + i]? = l[i]? := by
  constructor
  · rintro rfl
    refine ⟨h.length_items, fun i hi => ?_⟩
    rw [h.getElem?_items, if_pos hi]
  · rintro ⟨hlen, hslot⟩
    apply List.ext_getElem?
    intro i
    rw [h.getElem?_items]
    split_ifs with hi
    · exact hslot i hi
    · exact (List.getElem?_eq_none (by omega)).symm

/-! ## Indexing -/

/-- The index that a position names among `len` items, negative positions
counting from the end. -/
def position (len : Nat) (i : Int) : Option Nat :=
  let j := if i < 0 then i + len else i
  if 0 ≤ j ∧ j < len then some j.toNat else none

/-- The items of block `k` lie from its first slot to before its stop slot:
thirty in every block but the rightmost, which stops at the right end, and from
the left end in the leftmost. -/
theorem Laid.slot_bounds (h : d.Laid) (k : Nat) :
    d.firstSlot k ≤ d.stopSlot k ∧ (k + 1 < d.chain.length → d.stopSlot k = 30) ∧
      (k + 1 = d.chain.length → 30 * k + d.stopSlot k = d.stop) ∧ (0 < k → d.firstSlot k = 0) := by
  have hspan := h.span
  unfold stop at hspan ⊢
  simp only [firstSlot, stopSlot]
  refine ⟨?_, ?_, ?_, ?_⟩ <;> split_ifs <;> omega

/-- The walk from the left at block `k`, `m` blocks from the end of the chain,
with `i` items to go from the block's first item, finds the slot at position
`30 k + firstSlot k + i` when that is before the right end, and leaves the chain
otherwise. -/
theorem Laid.refFromLeft_eq (h : d.Laid) (m : Nat) : ∀ k i, k + m = d.chain.length →
    d.refFromLeft i k m =
      if 30 * k + d.firstSlot k + i < d.stop then some (Place.ofFlat (30 * k + d.firstSlot k + i)) else none := by
  induction m with
  | zero =>
    intro k i hk
    have := h.stop_le
    rw [refFromLeft, if_neg (by omega)]
  | succ m ih =>
    intro k i hk
    obtain ⟨hle, hmid, hlast, -⟩ := h.slot_bounds k
    have := stopSlot_le d k
    rw [refFromLeft]
    split
    next hin =>
      -- the item is in this block
      have hbefore : 30 * k + d.firstSlot k + i < d.stop := by
        by_cases hkn : k + 1 = d.chain.length
        · have := hlast hkn; omega
        · have := hmid (by omega); have := h.stop_le; unfold stop at *; omega
      rw [if_pos hbefore]
      exact congrArg some (Place.eq_ofFlat (by simp only [Place.flat]; omega))
    next hout =>
      -- the walk goes on from the next block's first slot, at the same position
      rw [ih (k + 1) _ (by omega)]
      by_cases hkn : k + 1 = d.chain.length
      · have := hlast hkn
        have := h.stop_le
        rw [if_neg (by omega), if_neg (by omega)]
      · have h30 := hmid (by omega)
        have hfirst := (h.slot_bounds (k + 1)).2.2.2 (Nat.succ_pos k)
        have hsame : 30 * (k + 1) + d.firstSlot (k + 1) + (i - (d.stopSlot k - d.firstSlot k)) =
            30 * k + d.firstSlot k + i := by omega
        rw [hsame]

/-- The walk from the right at block `k`, with `j` items to go back from the
block's last item, finds the slot at position `30 k + stopSlot k - 1 - j` when
that is not before the left end, and leaves the chain otherwise. -/
theorem Laid.refFromRight_eq (h : d.Laid) (k : Nat) : k < d.chain.length → ∀ j,
    d.refFromRight j (k + 1) =
      if j + d.leftIndex.val < 30 * k + d.stopSlot k then
        some (Place.ofFlat (30 * k + d.stopSlot k - 1 - j)) else none := by
  induction k with
  | zero =>
    intro hk j
    have hle := (h.slot_bounds 0).1
    have hf0 : d.firstSlot 0 = d.leftIndex.val := rfl
    have := stopSlot_le d 0
    rw [refFromRight]
    split
    next hin =>
      rw [if_pos (by omega)]
      exact congrArg some (Place.eq_ofFlat (by simp only [Place.flat]; omega))
    next hout => rw [refFromRight, if_neg (by omega)]
  | succ k ih =>
    intro hk j
    have hfirst := (h.slot_bounds (k + 1)).2.2.2 (Nat.succ_pos k)
    have h30 := (h.slot_bounds k).2.1 (by omega)
    have := stopSlot_le d (k + 1)
    rw [refFromRight]
    split
    next hin =>
      -- the item is in this block
      rw [if_pos (by omega)]
      exact congrArg some (Place.eq_ofFlat (by simp only [Place.flat]; omega))
    next hout =>
      -- the walk goes on from the previous block's last slot, at the same position
      rw [ih (by omega), h30]
      by_cases hc : j + d.leftIndex.val < 30 * (k + 1) + d.stopSlot (k + 1)
      · have hsame : 30 * k + 30 - 1 - (j - (d.stopSlot (k + 1) - d.firstSlot (k + 1))) =
            30 * (k + 1) + d.stopSlot (k + 1) - 1 - j := by omega
        rw [if_pos (by omega), if_pos hc, hsame]
      · rw [if_neg (by omega), if_neg hc]

/-- An index names the slot as many places on from the left end as the position
it names among the items. -/
theorem Laid.place?_eq (h : d.Laid) (i : Int) :
    d.place? i = (position d.length i).map fun j => Place.ofFlat (d.leftIndex.val + j) := by
  have hspan := h.span
  have hpos := h.blocks_pos
  by_cases hi : 0 ≤ i
  · -- an index from the left: the walk from the left end
    have hposition : position d.length i = if i < d.length then some i.toNat else none := by
      by_cases hin : i < d.length <;> simp [position, hi, hin, not_lt.mpr hi]
    have hf0 : d.firstSlot 0 = d.leftIndex.val := rfl
    rw [place?, if_pos hi, h.refFromLeft_eq d.chain.length 0 i.toNat (by omega), hf0, hposition,
      Nat.mul_zero, Nat.zero_add]
    by_cases hin : i < d.length
    · rw [if_pos (by omega), if_pos hin, Option.map_some]
    · rw [if_neg (by omega), if_neg hin, Option.map_none]
  · -- a negative index: the walk from the right end
    have hposition : position d.length i = if 0 ≤ i + d.length then some (i + d.length).toNat else none := by
      by_cases hin : 0 ≤ i + d.length <;> simp [position, hin, not_le.mp hi]
    obtain ⟨k, hk⟩ : ∃ k, d.chain.length = k + 1 := ⟨d.chain.length - 1, by omega⟩
    have hlast := (h.slot_bounds k).2.2.1 (by omega)
    rw [place?, if_neg hi, hk, h.refFromRight_eq k (by omega), hlast, hposition]
    by_cases hin : 0 ≤ i + d.length
    · have hsame : d.stop - 1 - (-i - 1).toNat = d.leftIndex.val + (i + d.length).toNat := by omega
      rw [if_pos (by omega), if_pos hin, Option.map_some, hsame]
    · rw [if_neg (by omega), if_neg hin, Option.map_none]

variable [Inhabited α]

/-! ## Empty deques -/

theorem laid_empty (overBound : Nat → Bool) : (empty overBound : Deque α).Laid :=
  ⟨by simp [empty], rfl⟩

@[simp] theorem length_empty (overBound : Nat → Bool) : (empty overBound : Deque α).length = 0 := rfl

@[simp] theorem items_empty (overBound : Nat → Bool) : (empty overBound : Deque α).items = [] :=
  (laid_empty overBound).items_eq_nil_iff.mpr ⟨rfl, rfl⟩

/-! ## Pushes -/

@[simp] theorem leftIndex_growRight (d : Deque α) (x : α) : (d.growRight x).leftIndex = d.leftIndex := by
  unfold growRight; split <;> rfl

@[simp] theorem length_growRight (d : Deque α) (x : α) : (d.growRight x).length = d.length + 1 := by
  unfold growRight; split <;> rfl

@[simp] theorem overBound_growRight (d : Deque α) (x : α) : (d.growRight x).overBound = d.overBound := by
  unfold growRight; split <;> rfl

/-- Growing at the right end steps the right end one slot right, onto a fresh
block past the last slot, and writes `x` in the slot there. -/
theorem growRight_cases (d : Deque α) (x : α) :
    (d.rightIndex.val + 1 < 30 ∧ (d.growRight x).chain.length = d.chain.length ∧
        (d.growRight x).rightIndex.val = d.rightIndex.val + 1 ∧
        slots (d.growRight x).chain = (slots d.chain).set d.stop x) ∨
      (d.rightIndex.val = 29 ∧ (d.growRight x).chain.length = d.chain.length + 1 ∧
        (d.growRight x).rightIndex.val = 0 ∧
        slots (d.growRight x).chain = (slots d.chain ++ (freshBlock : Vector α 30).toList).set
          (30 * d.chain.length) x) := by
  unfold growRight
  split
  · refine .inl ⟨by assumption, by simp, rfl, ?_⟩
    simp only [slots_writeAt, rightPlace, Place.flat, stop, Nat.add_assoc]
  · refine .inr ⟨by omega, by simp, rfl, ?_⟩
    simp only [slots_writeAt, rightPlace, Place.flat, slots_append, List.length_append, List.length_singleton,
      slots_cons, slots_nil, List.append_nil, Nat.add_sub_cancel, Fin.val_zero, Nat.add_zero]

theorem Laid.growRight (h : d.Laid) (x : α) : (d.growRight x).Laid := by
  have hspan := h.span
  have hpos := h.blocks_pos
  unfold stop at hspan
  rcases growRight_cases d x with ⟨-, hn, hri, -⟩ | ⟨hr, hn, hri, -⟩ <;>
    refine ⟨by omega, ?_⟩ <;>
    simp only [stop, length_growRight, leftIndex_growRight, hn, hri] <;> omega

theorem Laid.items_growRight (h : d.Laid) (x : α) : (d.growRight x).items = d.items ++ [x] := by
  have hspan := h.span
  have hstop := h.stop_le
  rw [(h.growRight x).items_eq_iff, List.length_append, h.length_items, length_growRight, leftIndex_growRight]
  refine ⟨rfl, fun i hi => ?_⟩
  rw [List.getElem?_append, h.length_items, h.getElem?_items]
  -- the slots before the right end are kept, and the one past it is `x`
  have hpast : i < d.length ↔ d.stop ≠ d.leftIndex.val + i := by omega
  rcases growRight_cases d x with ⟨hr, -, -, hs⟩ | ⟨hr, -, -, hs⟩
  · rw [hs, List.getElem?_set]
    by_cases hlt : i < d.length
    · rw [if_neg (hpast.mp hlt), if_pos hlt, if_pos hlt]
    · have hin : d.stop < (slots d.chain).length := by
        rw [length_slots]
        have := h.blocks_pos
        unfold stop
        omega
      rw [if_pos (not_not.mp (mt hpast.mpr hlt)), if_pos hin, if_neg hlt, show i - d.length = 0 by omega]
      rfl
  · have hin : d.stop < (slots d.chain ++ (freshBlock : Vector α 30).toList).length := by
      rw [List.length_append, length_slots, Vector.length_toList]
      omega
    have hfull : 30 * d.chain.length = d.stop := by
      have := h.blocks_pos
      unfold stop
      omega
    rw [hs, hfull, List.getElem?_set, List.getElem?_append]
    by_cases hlt : i < d.length
    · have hin' := h.lt_length_slots (show d.leftIndex.val + i < d.stop by omega)
      rw [if_neg (hpast.mp hlt), if_pos hin', if_pos hlt, if_pos hlt]
    · rw [if_pos (not_not.mp (mt hpast.mpr hlt)), if_pos hin, if_neg hlt, show i - d.length = 0 by omega]
      rfl

@[simp] theorem rightIndex_growLeft (d : Deque α) (x : α) : (d.growLeft x).rightIndex = d.rightIndex := by
  unfold growLeft; split <;> rfl

@[simp] theorem length_growLeft (d : Deque α) (x : α) : (d.growLeft x).length = d.length + 1 := by
  unfold growLeft; split <;> rfl

@[simp] theorem overBound_growLeft (d : Deque α) (x : α) : (d.growLeft x).overBound = d.overBound := by
  unfold growLeft; split <;> rfl

/-- Growing at the left end steps the left end one slot left, onto a fresh block
before the first slot, and writes `x` in the slot there. -/
theorem growLeft_cases (d : Deque α) (x : α) :
    (0 < d.leftIndex.val ∧ (d.growLeft x).chain.length = d.chain.length ∧
        (d.growLeft x).leftIndex.val = d.leftIndex.val - 1 ∧
        slots (d.growLeft x).chain = (slots d.chain).set (d.leftIndex.val - 1) x) ∨
      (d.leftIndex.val = 0 ∧ (d.growLeft x).chain.length = d.chain.length + 1 ∧
        (d.growLeft x).leftIndex.val = 29 ∧
        slots (d.growLeft x).chain = ((freshBlock : Vector α 30).toList ++ slots d.chain).set 29 x) := by
  unfold growLeft
  split
  · refine .inl ⟨by assumption, by simp, rfl, ?_⟩
    simp only [slots_writeAt, leftPlace, Place.flat, Nat.mul_zero, Nat.zero_add]
  · refine .inr ⟨by omega, by simp, rfl, ?_⟩
    simp only [slots_writeAt, leftPlace, Place.flat, slots_cons, Nat.mul_zero, Nat.zero_add]
    rfl

theorem Laid.growLeft (h : d.Laid) (x : α) : (d.growLeft x).Laid := by
  have hspan := h.span
  have hpos := h.blocks_pos
  unfold stop at hspan
  rcases growLeft_cases d x with ⟨hl, hn, hli, -⟩ | ⟨hl, hn, hli, -⟩ <;>
    refine ⟨by omega, ?_⟩ <;>
    simp only [stop, length_growLeft, rightIndex_growLeft, hn, hli] <;> omega

theorem Laid.items_growLeft (h : d.Laid) (x : α) : (d.growLeft x).items = x :: d.items := by
  have hspan := h.span
  have hstop := h.stop_le
  rw [(h.growLeft x).items_eq_iff, List.length_cons, h.length_items, length_growLeft]
  refine ⟨rfl, fun i hi => ?_⟩
  -- the new first slot holds `x`, and every later one the item before it
  rcases growLeft_cases d x with ⟨hl, -, hli, hs⟩ | ⟨hl, -, hli, hs⟩ <;> rw [hs, hli]
  · have hin := h.lt_length_slots (show d.leftIndex.val - 1 < d.stop by omega)
    cases i with
    | zero => rw [List.getElem?_set, if_pos (by omega), if_pos hin]; rfl
    | succ k =>
      rw [List.getElem?_set, if_neg (by omega), List.getElem?_cons_succ, h.getElem?_items, if_pos (by omega)]
      congr 1
      omega
  · cases i with
    | zero => rw [List.getElem?_set, if_pos rfl, if_pos (by simp; omega)]; rfl
    | succ k =>
      have hfresh : (freshBlock : Vector α 30).toList.length = 30 := Vector.length_toList
      rw [List.getElem?_set, if_neg (by omega), List.getElem?_append_right (by omega), hfresh,
        List.getElem?_cons_succ, h.getElem?_items, if_pos (by omega)]
      congr 1
      omega

/-! ## Pops -/

@[simp] theorem length_dropLeft (d : Deque α) : d.dropLeft.length = d.length - 1 := by
  unfold dropLeft
  dsimp only
  split
  · rfl
  · split <;> rfl

@[simp] theorem overBound_dropLeft (d : Deque α) : d.dropLeft.overBound = d.overBound := by
  unfold dropLeft
  dsimp only
  split
  · rfl
  · split <;> rfl

/-- Dropping the leftmost item empties its slot and steps the left end one slot
right; past the last slot of its block the block is unlinked, or, when it is the
only block, the deque recentres. -/
theorem dropLeft_cases (d : Deque α) :
    (d.leftIndex.val + 1 < 30 ∧ d.dropLeft.chain.length = d.chain.length ∧
        d.dropLeft.leftIndex.val = d.leftIndex.val + 1 ∧ d.dropLeft.rightIndex = d.rightIndex ∧
        slots d.dropLeft.chain = (slots d.chain).set d.leftIndex.val default) ∨
      (d.leftIndex.val = 29 ∧ 1 < d.chain.length ∧ d.dropLeft.chain.length = d.chain.length - 1 ∧
        d.dropLeft.leftIndex.val = 0 ∧ d.dropLeft.rightIndex = d.rightIndex ∧
        slots d.dropLeft.chain = ((slots d.chain).set d.leftIndex.val default).drop 30) ∨
      (d.leftIndex.val = 29 ∧ d.chain.length ≤ 1 ∧ d.dropLeft.chain.length = d.chain.length ∧
        d.dropLeft.leftIndex.val = 16 ∧ d.dropLeft.rightIndex.val = 15) := by
  unfold dropLeft
  dsimp only
  split
  · exact .inl ⟨by assumption, by simp, rfl, rfl, by simp [slots_writeAt, leftPlace, Place.flat]⟩
  · split
    next hnil =>
      -- the block was the only one: the deque recentres
      have hlen := congrArg List.length hnil
      simp only [List.length_tail, length_writeAt, List.length_nil] at hlen
      exact .inr (.inr ⟨by omega, by omega, by simp, rfl, rfl⟩)
    next b bs hcons =>
      -- the block is unlinked and the next one is leftmost
      have hlen := congrArg List.length hcons
      simp only [List.length_tail, length_writeAt, List.length_cons] at hlen
      refine .inr (.inl ⟨by omega, by omega, by simp; omega, rfl, rfl, ?_⟩)
      rw [← hcons, slots_tail, slots_writeAt]
      simp [leftPlace, Place.flat]

theorem Laid.dropLeft (h : d.Laid) (hne : d.items ≠ []) : d.dropLeft.Laid := by
  have hlen := h.length_pos hne
  have hspan := h.span
  have hpos := h.blocks_pos
  unfold stop at hspan
  rcases dropLeft_cases d with ⟨hl, hn, hli, hri, -⟩ | ⟨hl, hn1, hn, hli, hri, -⟩ | ⟨hl, hn1, hn, hli, hri⟩ <;>
    refine ⟨by omega, ?_⟩ <;>
    simp only [stop, length_dropLeft, hn, hli, hri] <;> omega

theorem Laid.items_dropLeft (h : d.Laid) (hne : d.items ≠ []) : d.dropLeft.items = d.items.tail := by
  have hlen := h.length_pos hne
  have hspan := h.span
  have hstop := h.stop_le
  rw [(h.dropLeft hne).items_eq_iff, List.length_tail, h.length_items, length_dropLeft]
  refine ⟨rfl, fun i hi => ?_⟩
  -- the slot after the old left end is the new left end
  rw [List.getElem?_tail, h.getElem?_items, if_pos (by omega)]
  rcases dropLeft_cases d with ⟨hl, -, hli, -, hs⟩ | ⟨hl, -, -, hli, -, hs⟩ | ⟨hl, hn1, -, -, -⟩
  · rw [hs, hli, List.getElem?_set, if_neg (by omega)]
    congr 1
    omega
  · rw [hs, hli, List.getElem?_drop, List.getElem?_set, if_neg (by omega)]
    congr 1
    omega
  · unfold stop at hspan
    omega

@[simp] theorem length_dropRight (d : Deque α) : d.dropRight.length = d.length - 1 := by
  unfold dropRight
  dsimp only
  split
  · rfl
  · split <;> rfl

@[simp] theorem overBound_dropRight (d : Deque α) : d.dropRight.overBound = d.overBound := by
  unfold dropRight
  dsimp only
  split
  · rfl
  · split <;> rfl

/-- Dropping the rightmost item empties its slot and steps the right end one slot
left; before the first slot of its block the block is unlinked, or, when it is
the only block, the deque recentres. -/
theorem dropRight_cases (d : Deque α) :
    (0 < d.rightIndex.val ∧ d.dropRight.chain.length = d.chain.length ∧
        d.dropRight.rightIndex.val = d.rightIndex.val - 1 ∧ d.dropRight.leftIndex = d.leftIndex ∧
        slots d.dropRight.chain = (slots d.chain).set (d.stop - 1) default) ∨
      (d.rightIndex.val = 0 ∧ 1 < d.chain.length ∧ d.dropRight.chain.length = d.chain.length - 1 ∧
        d.dropRight.rightIndex.val = 29 ∧ d.dropRight.leftIndex = d.leftIndex ∧
        slots d.dropRight.chain =
          ((slots d.chain).set (d.stop - 1) default).take (30 * (d.chain.length - 1))) ∨
      (d.rightIndex.val = 0 ∧ d.chain.length ≤ 1 ∧ d.dropRight.chain.length = d.chain.length ∧
        d.dropRight.leftIndex.val = 16 ∧ d.dropRight.rightIndex.val = 15) := by
  have hflat : d.rightPlace.flat = d.stop - 1 := by simp only [rightPlace, Place.flat, stop]; omega
  unfold dropRight
  dsimp only
  split
  · exact .inl ⟨by assumption, by simp, rfl, rfl, by rw [slots_writeAt, ← hflat]; rfl⟩
  · split
    next hnil =>
      -- the block was the only one: the deque recentres
      have hlen := congrArg List.length hnil
      simp only [List.length_dropLast, length_writeAt, List.length_nil] at hlen
      exact .inr (.inr ⟨by omega, by omega, by simp, rfl, rfl⟩)
    next b bs hcons =>
      -- the block is unlinked and the one before it is rightmost
      have hlen := congrArg List.length hcons
      simp only [List.length_dropLast, length_writeAt, List.length_cons] at hlen
      refine .inr (.inl ⟨by omega, by omega, by simp; omega, rfl, rfl, ?_⟩)
      rw [← hcons, slots_dropLast, slots_writeAt, length_writeAt, ← hflat]
      rfl

theorem Laid.dropRight (h : d.Laid) (hne : d.items ≠ []) : d.dropRight.Laid := by
  have hlen := h.length_pos hne
  have hspan := h.span
  have hpos := h.blocks_pos
  unfold stop at hspan
  rcases dropRight_cases d with ⟨hr, hn, hri, hli, -⟩ | ⟨hr, hn1, hn, hri, hli, -⟩ | ⟨hr, hn1, hn, hli, hri⟩ <;>
    refine ⟨by omega, ?_⟩ <;>
    simp only [stop, length_dropRight, hn, hli, hri] <;> omega

theorem Laid.items_dropRight (h : d.Laid) (hne : d.items ≠ []) :
    d.dropRight.items = d.items.dropLast := by
  have hlen := h.length_pos hne
  have hspan := h.span
  have hstop := h.stop_le
  rw [(h.dropRight hne).items_eq_iff, List.length_dropLast, h.length_items, length_dropRight]
  refine ⟨rfl, fun i hi => ?_⟩
  -- every slot before the old right end is kept
  rw [List.getElem?_dropLast, h.length_items, if_pos hi, h.getElem?_items, if_pos (by omega)]
  rcases dropRight_cases d with ⟨-, -, -, hli, hs⟩ | ⟨hr, -, -, -, hli, hs⟩ | ⟨hr, hn1, -, -, -⟩
  · rw [hs, hli, List.getElem?_set, if_neg (by omega)]
  · have hpos := h.blocks_pos
    unfold stop at hspan
    rw [hs, hli, List.getElem?_take, if_pos (by omega), List.getElem?_set, if_neg (by unfold stop; omega)]
  · unfold stop at hspan
    omega

/-- The leftmost item is in the slot of the left end. -/
theorem Laid.head?_items (h : d.Laid) (hne : d.items ≠ []) :
    d.items.head? = some (readAt d.chain d.leftPlace) := by
  have hlen := h.length_pos hne
  have hflat : d.leftPlace.flat = d.leftIndex.val := by simp [leftPlace, Place.flat]
  rw [List.head?_eq_getElem?, h.getElem?_items, if_pos hlen, Nat.add_zero, ← hflat]
  exact getElem?_slots d.chain d.leftPlace h.blocks_pos

/-- The rightmost item is in the slot of the right end. -/
theorem Laid.getLast?_items (h : d.Laid) (hne : d.items ≠ []) :
    d.items.getLast? = some (readAt d.chain d.rightPlace) := by
  have hlen := h.length_pos hne
  have hspan := h.span
  have hflat : d.rightPlace.flat = d.leftIndex.val + (d.length - 1) := by
    simp only [rightPlace, Place.flat]
    unfold stop at hspan
    omega
  rw [List.getLast?_eq_getElem?, h.length_items, h.getElem?_items, if_pos (by omega), ← hflat]
  exact getElem?_slots d.chain d.rightPlace (by simp only [rightPlace]; have := h.blocks_pos; omega)

theorem Laid.popLeft?_of_cons (h : d.Laid) {x : α} {xs : List α} (hx : d.items = x :: xs) :
    d.popLeft? = some (x, d.dropLeft) := by
  have hne : d.items ≠ [] := by simp [hx]
  have hhead := h.head?_items hne
  rw [hx, List.head?_cons, Option.some.injEq] at hhead
  rw [popLeft?, if_neg (by rw [h.isEmpty_iff]; exact hne), hhead]

theorem Laid.popLeft?_of_nil (h : d.Laid) (hx : d.items = []) : d.popLeft? = none := by
  rw [popLeft?, if_pos (h.isEmpty_iff.mpr hx)]

theorem Laid.popRight?_of_ne_nil (h : d.Laid) (hne : d.items ≠ []) :
    d.popRight? = some (d.items.getLast hne, d.dropRight) := by
  have hlast := h.getLast?_items hne
  rw [List.getLast?_eq_some_getLast hne, Option.some.injEq] at hlast
  rw [popRight?, if_neg (by rw [h.isEmpty_iff]; exact hne), hlast]

theorem Laid.popRight?_of_nil (h : d.Laid) (hx : d.items = []) : d.popRight? = none := by
  rw [popRight?, if_pos (h.isEmpty_iff.mpr hx)]

/-! ## Pushes within a bound -/

theorem overLimit_eq_false_iff {k : Nat} : overLimit m k = false ↔ ∀ n, m = some n → k ≤ n := by
  cases m <;> simp [overLimit]

/-- `x` added after the items of `l`, the first item dropped past the bound `m`. -/
def boundedAppend (m : Option Nat) (l : List α) (x : α) : List α :=
  if overLimit m (l.length + 1) then (l ++ [x]).tail else l ++ [x]

/-- `x` added before the items of `l`, the last item dropped past the bound `m`. -/
def boundedPrepend (m : Option Nat) (l : List α) (x : α) : List α :=
  if overLimit m (l.length + 1) then (x :: l).dropLast else x :: l

theorem pushRight_eq (d : Deque α) (x : α) : d.pushRight x =
    if d.overBound (d.length + 1) then (d.growRight x).dropLeft else d.growRight x := by
  simp only [pushRight, overBound_growRight, length_growRight]

theorem pushLeft_eq (d : Deque α) (x : α) : d.pushLeft x =
    if d.overBound (d.length + 1) then (d.growLeft x).dropRight else d.growLeft x := by
  simp only [pushLeft, overBound_growLeft, length_growLeft]

theorem Laid.items_pushRight (h : d.Laid) (hb : d.overBound = overLimit m) (x : α) :
    (d.pushRight x).items = boundedAppend m d.items x := by
  rw [pushRight_eq, boundedAppend, hb, h.length_items, ← h.items_growRight x]
  split_ifs
  · exact (h.growRight x).items_dropLeft (by simp [h.items_growRight x])
  · rfl

theorem Laid.items_pushLeft (h : d.Laid) (hb : d.overBound = overLimit m) (x : α) :
    (d.pushLeft x).items = boundedPrepend m d.items x := by
  rw [pushLeft_eq, boundedPrepend, hb, h.length_items, ← h.items_growLeft x]
  split_ifs
  · exact (h.growLeft x).items_dropRight (by simp [h.items_growLeft x])
  · rfl

theorem Shaped.pushRight (h : d.Shaped m) (x : α) : (d.pushRight x).Shaped m := by
  have hgrown := h.toLaid.growRight x
  rw [pushRight_eq, h.bound]
  split_ifs with hover
  · refine ⟨hgrown.dropLeft (by simp [h.items_growRight x]), by simp [h.bound], fun n hn => ?_⟩
    simpa using h.within n hn
  · refine ⟨hgrown, by simp [h.bound], ?_⟩
    simpa using overLimit_eq_false_iff.mp (Bool.eq_false_iff.mpr hover)

theorem Shaped.pushLeft (h : d.Shaped m) (x : α) : (d.pushLeft x).Shaped m := by
  have hgrown := h.toLaid.growLeft x
  rw [pushLeft_eq, h.bound]
  split_ifs with hover
  · refine ⟨hgrown.dropRight (by simp [h.items_growLeft x]), by simp [h.bound], fun n hn => ?_⟩
    simpa using h.within n hn
  · refine ⟨hgrown, by simp [h.bound], ?_⟩
    simpa using overLimit_eq_false_iff.mp (Bool.eq_false_iff.mpr hover)

theorem Shaped.dropLeft (h : d.Shaped m) (hne : d.items ≠ []) : d.dropLeft.Shaped m :=
  ⟨h.toLaid.dropLeft hne, by simp [h.bound], fun n hn => by
    simpa using (Nat.sub_le _ 1).trans (h.within n hn)⟩

theorem Shaped.dropRight (h : d.Shaped m) (hne : d.items ≠ []) : d.dropRight.Shaped m :=
  ⟨h.toLaid.dropRight hne, by simp [h.bound], fun n hn => by
    simpa using (Nat.sub_le _ 1).trans (h.within n hn)⟩

omit [Inhabited α] in
/-- Within its bound a shaped deque holds no more items than the bound allows. -/
theorem Shaped.fits (h : d.Shaped m) : overLimit m d.items.length = false :=
  overLimit_eq_false_iff.mpr (h.length_items ▸ h.within)

/-! ## Rotations -/

omit [Inhabited α] in
/-- Moving the last item to the front turns a list by its length less one. -/
theorem getLast_cons_dropLast {l : List α} (hne : l ≠ []) :
    l.getLast hne :: l.dropLast = l.rotate (l.length - 1) := by
  conv_rhs => rw [← List.dropLast_concat_getLast hne]
  have := List.rotate_append_length_eq l.dropLast [l.getLast hne]
  simpa using this.symm

/-- Pushing back the item just popped stays within the bound, so nothing is trimmed. -/
theorem Shaped.rotateRight_one (h : d.Shaped m) (hne : d.items ≠ []) :
    (d.dropRight.pushLeft (d.items.getLast hne)).Shaped m ∧
      (d.dropRight.pushLeft (d.items.getLast hne)).items = d.items.rotate (d.items.length - 1) := by
  have hlen : 0 < d.items.length := List.length_pos_of_ne_nil hne
  have h1 := h.dropRight hne
  refine ⟨h1.pushLeft _, ?_⟩
  rw [h1.items_pushLeft h1.bound, h.items_dropRight hne, boundedPrepend, ← getLast_cons_dropLast hne]
  simp [Nat.sub_add_cancel hlen, h.fits]

theorem Shaped.rotateLeft_one (h : d.Shaped m) {x : α} {xs : List α} (hx : d.items = x :: xs) :
    (d.dropLeft.pushRight x).Shaped m ∧ (d.dropLeft.pushRight x).items = d.items.rotate 1 := by
  have hne : d.items ≠ [] := by simp [hx]
  have h1 := h.dropLeft hne
  have hfit := h.fits
  refine ⟨h1.pushRight _, ?_⟩
  rw [h1.items_pushRight h1.bound, h.items_dropLeft hne, boundedAppend]
  simp_all

/-- `k` moves of the last item to the front turn the items by `k` times their
length less one, that is by `k` to the right. -/
theorem Shaped.rotateRight (h : d.Shaped m) (k : Nat) :
    (d.rotateRight k).Shaped m ∧
      (d.rotateRight k).items = d.items.rotate (k * (d.items.length - 1)) := by
  induction k generalizing d with
  | zero => exact ⟨h, by simp [Deque.rotateRight]⟩
  | succ k ih =>
    by_cases hne : d.items = []
    · simp [Deque.rotateRight, h.popRight?_of_nil hne, h, hne]
    · obtain ⟨h1, hitems⟩ := h.rotateRight_one hne
      obtain ⟨hk, hk_items⟩ := ih h1
      refine ⟨by simpa [Deque.rotateRight, h.popRight?_of_ne_nil hne] using hk, ?_⟩
      simp only [Deque.rotateRight, h.popRight?_of_ne_nil hne, hk_items, hitems, List.rotate_rotate,
        List.length_rotate]
      congr 1
      rw [Nat.succ_mul, Nat.add_comm]

/-- `k` moves of the first item to the back turn the items by `k` to the left. -/
theorem Shaped.rotateLeft (h : d.Shaped m) (k : Nat) :
    (d.rotateLeft k).Shaped m ∧ (d.rotateLeft k).items = d.items.rotate k := by
  induction k generalizing d with
  | zero => exact ⟨h, by simp [Deque.rotateLeft]⟩
  | succ k ih =>
    cases hx : d.items with
    | nil => simp [Deque.rotateLeft, h.popLeft?_of_nil hx, h, hx]
    | cons x xs =>
      obtain ⟨h1, hitems⟩ := h.rotateLeft_one hx
      obtain ⟨hk, hk_items⟩ := ih h1
      refine ⟨by simpa [Deque.rotateLeft, h.popLeft?_of_cons hx] using hk, ?_⟩
      simp only [Deque.rotateLeft, h.popLeft?_of_cons hx, hk_items, hitems, hx, List.rotate_rotate]
      rw [Nat.add_comm]

theorem rotationSteps_emod (len : Nat) (n : Int) : rotationSteps len n % len = n % len := by
  simp only [rotationSteps]
  split_ifs <;> simp

/-- `k` turns to the right, `k` congruent to `n`, are `-n` turns to the left. -/
theorem mul_pred_mod_eq_neg_emod {L : Nat} {k n : Int} (hL : 0 < L) (hk : 0 ≤ k)
    (h : k % L = n % L) : (k.toNat * (L - 1)) % L = ((-n) % L).toNat := by
  have hpos : (0 : Int) < L := by exact_mod_cast hL
  have hcong : (k * ((L : Int) - 1)) % L = (-n) % L := by
    have : k * ((L : Int) - 1) = -k + L * k := by ring
    rw [this, Int.add_mul_emod_self_left]
    exact Int.ModEq.neg h
  have hnn : 0 ≤ (-n) % (L : Int) := Int.emod_nonneg _ hpos.ne'
  zify [Nat.one_le_iff_ne_zero.mpr hL.ne']
  rw [Int.toNat_of_nonneg hk, Int.toNat_of_nonneg hnn, hcong]

/-- `-k` turns to the left, `k` congruent to `n`, are `-n` turns to the left. -/
theorem neg_toNat_mod_eq_neg_emod {L : Nat} {k n : Int} (hL : 0 < L) (hk : k < 0)
    (h : k % L = n % L) : (-k).toNat % L = ((-n) % L).toNat := by
  have hpos : (0 : Int) < L := by exact_mod_cast hL
  have hnn : 0 ≤ (-n) % (L : Int) := Int.emod_nonneg _ hpos.ne'
  zify
  rw [Int.toNat_of_nonneg (by omega), Int.toNat_of_nonneg hnn]
  exact Int.ModEq.neg h

omit [Inhabited α] in
theorem rotate_of_length_le_one {l : List α} (hl : l.length ≤ 1) (k : Nat) : l.rotate k = l := by
  match l, hl with
  | [], _ => exact List.rotate_nil k
  | [x], _ => exact List.rotate_singleton x k

/-- A rotation by `n` turns the items by `n` to the right, modulo their number. -/
theorem Shaped.rotate (h : d.Shaped m) (n : Int) :
    (d.rotate n).Shaped m ∧ (d.rotate n).items = d.items.rotate ((-n) % d.items.length).toNat := by
  have hlength := h.length_items
  by_cases hshort : d.items.length ≤ 1
  · have hd : d.rotate n = d := by simp [Deque.rotate, ← hlength, hshort]
    rw [hd]
    exact ⟨h, (rotate_of_length_le_one hshort _).symm⟩
  have hL : 0 < d.items.length := by omega
  by_cases hk : 0 ≤ rotationSteps d.items.length n
  · have hd : d.rotate n = d.rotateRight (rotationSteps d.items.length n).toNat := by
      simp [Deque.rotate, ← hlength, hshort, hk]
    obtain ⟨h', hitems⟩ := h.rotateRight (rotationSteps d.items.length n).toNat
    rw [hd]
    refine ⟨h', ?_⟩
    rw [hitems, ← List.rotate_mod, mul_pred_mod_eq_neg_emod hL hk (rotationSteps_emod _ n)]
  · have hd : d.rotate n = d.rotateLeft (-rotationSteps d.items.length n).toNat := by
      simp [Deque.rotate, ← hlength, hshort, hk]
    obtain ⟨h', hitems⟩ := h.rotateLeft (-rotationSteps d.items.length n).toNat
    rw [hd]
    refine ⟨h', ?_⟩
    rw [hitems, ← List.rotate_mod,
      neg_toNat_mod_eq_neg_emod hL (by omega) (rotationSteps_emod _ n)]

/-! ## Reversing, indexing and clearing -/

theorem Laid.reverse (h : d.Laid) : d.reverse.Laid :=
  ⟨by simpa [Deque.reverse] using h.blocks_pos, by simpa [Deque.reverse, stop] using h.span⟩

/-- The swap loop turns the items around: half the length of swaps from the two
ends inward never lets the places cross, and the middle item of an odd number
stays where it is. -/
theorem Laid.items_reverse (h : d.Laid) : d.reverse.items = d.items.reverse := by
  have hspan := h.span
  have hstop := h.stop_le
  have hleft : d.leftPlace.flat = d.leftIndex.val := by simp [leftPlace, Place.flat]
  have hright : d.rightPlace.flat = d.stop - 1 := by
    simp only [rightPlace, Place.flat, stop]
    have := h.blocks_pos
    omega
  rw [h.reverse.items_eq_iff, List.length_reverse, h.length_items]
  refine ⟨rfl, fun i hi => ?_⟩
  simp only [Deque.reverse] at hi ⊢
  rw [getElem?_slots_swapLoop _ _ _ _ (by rw [hleft, hright]; omega) (by rw [hright]; omega), hleft, hright,
    List.getElem?_reverse (by rw [h.length_items]; exact hi), h.length_items, h.getElem?_items, if_pos (by omega)]
  congr 1
  unfold mirrored
  split_ifs <;> omega

omit [Inhabited α] in
/-- Writing a slot keeps the layout. -/
theorem Laid.writeSlot (h : d.Laid) (p : Place) (x : α) : ({ d with chain := writeAt d.chain p x }).Laid :=
  ⟨by simpa using h.blocks_pos, by simpa [stop] using h.span⟩

omit [Inhabited α] in
/-- Writing the slot of the item at `j` replaces that item. -/
theorem Laid.items_writeAt (h : d.Laid) {j : Nat} (hj : j < d.length) (x : α) :
    ({ d with chain := writeAt d.chain (Place.ofFlat (d.leftIndex.val + j)) x }).items = d.items.set j x := by
  rw [(h.writeSlot _ x).items_eq_iff, List.length_set, h.length_items]
  refine ⟨rfl, fun i hi => ?_⟩
  simp only at hi ⊢
  rw [slots_writeAt, Place.flat_ofFlat, List.getElem?_set, List.getElem?_set, h.length_items,
    h.getElem?_items, if_pos hi]
  by_cases hij : j = i
  · have hin := h.lt_length_slots (show d.leftIndex.val + j < d.stop by have := h.span; omega)
    rw [if_pos (by omega), if_pos hin, if_pos hij, if_pos (by omega)]
  · rw [if_neg (by omega), if_neg hij]

theorem position_lt {len j : Nat} {i : Int} (h : position len i = some j) : j < len := by
  simp only [position] at h
  split_ifs at h with hneg hin hin <;> rw [Option.some.injEq] at h <;> omega

/-- An index reads the item at the position it names. -/
theorem Laid.get?_eq (h : d.Laid) (i : Int) :
    d.get? i = (position d.items.length i).bind (d.items[·]?) := by
  rw [get?, h.place?_eq, h.length_items]
  cases hp : position d.length i with
  | none => rfl
  | some j =>
    have hj := position_lt hp
    have hin : (Place.ofFlat (d.leftIndex.val + j)).block < d.chain.length := by
      rw [Place.block_lt_iff, Place.flat_ofFlat, ← length_slots]
      exact h.lt_length_slots (by have := h.span; omega)
    have hread := getElem?_slots d.chain _ hin
    rw [Place.flat_ofFlat] at hread
    simp only [Option.map_some, Option.bind_some]
    rw [h.getElem?_items, if_pos hj, hread]

/-- The index zero reads the leftmost item. -/
theorem Laid.get?_zero (h : d.Laid) : d.get? 0 = d.items.head? := by
  rw [h.get?_eq]
  cases d.items with
  | nil => rfl
  | cons x xs => simp [position]

omit [Inhabited α] in
theorem Laid.set?_eq (h : d.Laid) (i : Int) (x : α) :
    d.set? i x = (position d.length i).map fun j =>
      { d with chain := writeAt d.chain (Place.ofFlat (d.leftIndex.val + j)) x } := by
  rw [set?, h.place?_eq, Option.map_map]
  rfl

omit [Inhabited α] in
/-- Writing at an index keeps the shape and replaces the item at the position it names. -/
theorem Shaped.set {d' : Deque α} {i : Int} {x : α} (h : d.Shaped m) (hd : d.set? i x = some d') :
    ∃ j, position d.items.length i = some j ∧ d'.Shaped m ∧ d'.items = d.items.set j x := by
  rw [h.set?_eq, Option.map_eq_some_iff] at hd
  obtain ⟨j, hj, rfl⟩ := hd
  refine ⟨j, h.length_items ▸ hj, ⟨h.toLaid.writeSlot _ x, h.bound, h.within⟩, ?_⟩
  exact h.items_writeAt (position_lt hj) x

theorem Shaped.reverse (h : d.Shaped m) : d.reverse.Shaped m :=
  ⟨h.toLaid.reverse, h.bound, h.within⟩

theorem Shaped.clear (h : d.Shaped m) : d.clear.Shaped m :=
  ⟨laid_empty _, h.bound, fun n _ => by simp [Deque.clear]⟩

theorem Shaped.extend (h : d.Shaped m) (xs : List α) :
    (xs.foldl Deque.pushRight d).Shaped m ∧
      (xs.foldl Deque.pushRight d).items = xs.foldl (boundedAppend m) d.items := by
  induction xs generalizing d with
  | nil => exact ⟨h, rfl⟩
  | cons x xs ih =>
    obtain ⟨h', hitems⟩ := ih (h.pushRight x)
    exact ⟨h', by rw [List.foldl_cons, hitems, h.items_pushRight h.bound]; rfl⟩

theorem Shaped.extendLeft (h : d.Shaped m) (xs : List α) :
    (xs.foldl Deque.pushLeft d).Shaped m ∧
      (xs.foldl Deque.pushLeft d).items = xs.foldl (boundedPrepend m) d.items := by
  induction xs generalizing d with
  | nil => exact ⟨h, rfl⟩
  | cons x xs ih =>
    obtain ⟨h', hitems⟩ := ih (h.pushLeft x)
    exact ⟨h', by rw [List.foldl_cons, hitems, h.items_pushLeft h.bound]; rfl⟩

/-! ## Operations on deques and on lists -/

/-- An operation of the deque's interface. -/
inductive Op (α : Type) where
  | append (x : α)
  | appendLeft (x : α)
  | pop
  | popLeft
  | extend (xs : List α)
  | extendLeft (xs : List α)
  | rotate (n : Int)
  | reverse
  | clear
  | get (i : Int)
  | set (i : Int) (x : α)

/-- What an operation answers: nothing, an item, or an index error. -/
inductive Reply (α : Type) where
  | done
  | item (x : α)
  | indexError

/-- An operation on a deque, as its methods perform it. -/
def perform (d : Deque α) : Op α → Deque α × Reply α
  | .append x => (d.pushRight x, .done)
  | .appendLeft x => (d.pushLeft x, .done)
  | .pop =>
    match d.popRight? with
    | some (x, d') => (d', .item x)
    | none => (d, .indexError)
  | .popLeft =>
    match d.popLeft? with
    | some (x, d') => (d', .item x)
    | none => (d, .indexError)
  | .extend xs => (xs.foldl Deque.pushRight d, .done)
  | .extendLeft xs => (xs.foldl Deque.pushLeft d, .done)
  | .rotate n => (d.rotate n, .done)
  | .reverse => (d.reverse, .done)
  | .clear => (d.clear, .done)
  | .get i =>
    match d.get? i with
    | some x => (d, .item x)
    | none => (d, .indexError)
  | .set i x =>
    match d.set? i x with
    | some d' => (d', .done)
    | none => (d, .indexError)

/-- The same operation on a list bounded by `m`. -/
def Op.onList (m : Option Nat) (l : List α) : Op α → List α × Reply α
  | .append x => (boundedAppend m l x, .done)
  | .appendLeft x => (boundedPrepend m l x, .done)
  | .pop =>
    match l.getLast? with
    | some x => (l.dropLast, .item x)
    | none => (l, .indexError)
  | .popLeft =>
    match l with
    | x :: rest => (rest, .item x)
    | [] => (l, .indexError)
  | .extend xs => (xs.foldl (boundedAppend m) l, .done)
  | .extendLeft xs => (xs.foldl (boundedPrepend m) l, .done)
  | .rotate n => (l.rotate ((-n) % l.length).toNat, .done)
  | .reverse => (l.reverse, .done)
  | .clear => ([], .done)
  | .get i =>
    match (position l.length i).bind (l[·]?) with
    | some x => (l, .item x)
    | none => (l, .indexError)
  | .set i x =>
    match position l.length i with
    | some j => (l.set j x, .done)
    | none => (l, .indexError)

/-- One operation from a shaped deque: the deque stays shaped, its items and the
answer are those of the operation on the list of its items, and an index error
leaves the deque as it was. -/
theorem Shaped.perform (h : d.Shaped m) (op : Op α) :
    (d.perform op).1.Shaped m ∧ (d.perform op).1.items = (op.onList m d.items).1 ∧
      (d.perform op).2 = (op.onList m d.items).2 ∧
      ((d.perform op).2 = .indexError → (d.perform op).1 = d) := by
  cases op with
  | append x => exact ⟨h.pushRight x, h.items_pushRight h.bound x, rfl, nofun⟩
  | appendLeft x => exact ⟨h.pushLeft x, h.items_pushLeft h.bound x, rfl, nofun⟩
  | pop =>
    by_cases hne : d.items = []
    · simp [Deque.perform, Op.onList, h.popRight?_of_nil hne, hne, h]
    · simp [Deque.perform, Op.onList, h.popRight?_of_ne_nil hne, List.getLast?_eq_some_getLast hne,
        h.dropRight hne, h.items_dropRight hne]
  | popLeft =>
    cases hx : d.items with
    | nil => simp [Deque.perform, Op.onList, h.popLeft?_of_nil hx, h, hx]
    | cons x xs =>
      have hne : d.items ≠ [] := by simp [hx]
      simp [Deque.perform, Op.onList, h.popLeft?_of_cons hx, h.dropLeft hne, h.items_dropLeft hne, hx]
  | extend xs => exact ⟨(h.extend xs).1, (h.extend xs).2, rfl, nofun⟩
  | extendLeft xs => exact ⟨(h.extendLeft xs).1, (h.extendLeft xs).2, rfl, nofun⟩
  | rotate n => exact ⟨(h.rotate n).1, (h.rotate n).2, rfl, nofun⟩
  | reverse => exact ⟨h.reverse, h.items_reverse, rfl, nofun⟩
  | clear => exact ⟨h.clear, items_empty _, rfl, nofun⟩
  | get i =>
    simp only [Deque.perform, Op.onList, h.get?_eq]
    split <;> simp [h]
  | set i x =>
    simp only [Deque.perform, Op.onList]
    cases hd : d.set? i x with
    | some d' =>
      obtain ⟨j, hj, hs, hitems⟩ := h.set hd
      simp [hj, hs, hitems]
    | none =>
      rw [h.set?_eq, Option.map_eq_none_iff, ← h.length_items] at hd
      simp [hd, h]

/-- Operations performed in order, with their answers. -/
def performAll (d : Deque α) : List (Op α) → Deque α × List (Reply α)
  | [] => (d, [])
  | op :: ops =>
    let next := d.perform op
    let rest := next.1.performAll ops
    (rest.1, next.2 :: rest.2)

/-- Operations on a list bounded by `m`, in order, with their answers. -/
def Op.runList (m : Option Nat) (l : List α) : List (Op α) → List α × List (Reply α)
  | [] => (l, [])
  | op :: ops =>
    let next := op.onList m l
    let rest := Op.runList m next.1 ops
    (rest.1, next.2 :: rest.2)

theorem Shaped.performAll (h : d.Shaped m) (ops : List (Op α)) :
    (d.performAll ops).1.Shaped m ∧ (d.performAll ops).1.items = (Op.runList m d.items ops).1 ∧
      (d.performAll ops).2 = (Op.runList m d.items ops).2 := by
  induction ops generalizing d with
  | nil => exact ⟨h, rfl, rfl⟩
  | cons op ops ih =>
    obtain ⟨h1, hitems, hreply, -⟩ := h.perform op
    obtain ⟨h2, hitems2, hreplies⟩ := ih h1
    refine ⟨h2, ?_, ?_⟩
    · simp only [Deque.performAll, Op.runList, hitems2, hitems]
    · simp only [Deque.performAll, Op.runList, hreplies, hitems, hreply]

/-! ## Deques as the constructor builds them -/

theorem shaped_empty (m : Option Nat) : (empty (overLimit m) : Deque α).Shaped m :=
  ⟨laid_empty _, rfl, fun n _ => by simp⟩

end Basis.Collections.Deque
