import Mathlib.Tactic.SplitIfs
import Basis.Collections.Deque

/-!
# The slots of a chain of blocks

A chain of blocks of thirty slots reads as one list of slots, block after block
(`slots`), and a place in it as one position in that list (`Place.flat`): thirty
slots for every block before it, plus its slot. Writing a slot sets the list at
that position (`slots_writeAt`), reading one reads it (`getElem?_slots`), and the
walk `itemsFrom` that lists a deque's items is a slice of the list
(`itemsFrom_eq`). Stepping a place one slot right or left, across the end of its
block, steps its position by one (`Place.flat_next`, `Place.flat_prev`).

`swapLoop`, the loop that reverses a deque, started at the positions `a` and
`b` and run `n` times without the two places crossing, exchanges the slots
`a + i` and `b - i` for every `i < n` and keeps every other slot
(`getElem?_slots_swapLoop`).
-/

namespace Basis.Collections

variable {α : Type}

/-- The slots of a chain, block after block. -/
def slots (chain : List (Vector α 30)) : List α := chain.flatMap Vector.toList

@[simp] theorem slots_nil : slots ([] : List (Vector α 30)) = [] := rfl

@[simp] theorem slots_cons (b : Vector α 30) (bs : List (Vector α 30)) :
    slots (b :: bs) = b.toList ++ slots bs := List.flatMap_cons

@[simp] theorem slots_append (c₁ c₂ : List (Vector α 30)) : slots (c₁ ++ c₂) = slots c₁ ++ slots c₂ :=
  List.flatMap_append

@[simp] theorem length_slots (chain : List (Vector α 30)) : (slots chain).length = 30 * chain.length := by
  induction chain with
  | nil => rfl
  | cons b bs ih =>
    simp only [slots_cons, List.length_append, Vector.length_toList, ih, List.length_cons]
    omega

theorem slots_tail (chain : List (Vector α 30)) : slots chain.tail = (slots chain).drop 30 := by
  cases chain with
  | nil => rfl
  | cons b bs => simp

theorem slots_dropLast (chain : List (Vector α 30)) :
    slots chain.dropLast = (slots chain).take (30 * (chain.length - 1)) := by
  rcases List.eq_nil_or_concat chain with rfl | ⟨c, b, rfl⟩
  · rfl
  · simp

/-! ## Places as positions -/

namespace Place

/-- The position of a place among the slots of its chain. -/
def flat (p : Place) : Nat := 30 * p.block + p.slot

/-- The place at a position among the slots of a chain. -/
def ofFlat (t : Nat) : Place := ⟨t / 30, ⟨t % 30, Nat.mod_lt _ (by decide)⟩⟩

@[simp] theorem flat_ofFlat (t : Nat) : (ofFlat t).flat = t := by
  simp only [flat, ofFlat]
  omega

/-- A place is its position. -/
theorem ext_flat {p q : Place} (h : p.flat = q.flat) : p = q := by
  obtain ⟨b, s⟩ := p
  obtain ⟨b', s'⟩ := q
  simp only [flat] at h
  have hb : b = b' := by omega
  have hs : s = s' := Fin.ext (by omega)
  rw [hb, hs]

/-- A place is the place at its position. -/
theorem eq_ofFlat {p : Place} {t : Nat} (h : p.flat = t) : p = ofFlat t :=
  ext_flat (by rw [flat_ofFlat, h])

theorem block_lt_iff {p : Place} {n : Nat} : p.block < n ↔ p.flat < 30 * n := by
  simp only [flat]
  omega

theorem flat_next (p : Place) : p.next.flat = p.flat + 1 := by
  unfold next flat
  split <;> simp <;> omega

theorem flat_prev (p : Place) (h : 0 < p.flat) : p.prev.flat = p.flat - 1 := by
  unfold prev flat at *
  split <;> simp <;> omega

end Place

/-! ## Reading and writing slots -/

@[simp] theorem length_writeAt (chain : List (Vector α 30)) (p : Place) (x : α) :
    (writeAt chain p x).length = chain.length := List.length_modify ..

/-- Writing a slot of a chain sets its slots at the slot's position; past the
end of the chain it changes nothing, as setting past the end of a list does. -/
theorem slots_writeAt (chain : List (Vector α 30)) (p : Place) (x : α) :
    slots (writeAt chain p x) = (slots chain).set p.flat x := by
  obtain ⟨k, s⟩ := p
  induction chain generalizing k with
  | nil => simp [writeAt]
  | cons b bs ih =>
    cases k with
    | zero =>
      simp only [writeAt, List.modify_zero_cons, slots_cons, Vector.toList_set, Place.flat]
      rw [List.set_append, if_pos (by simp)]
      simp
    | succ k =>
      have := ih k
      simp only [writeAt, Place.flat] at this ⊢
      rw [List.modify_succ_cons, slots_cons, slots_cons, this, List.set_append, if_neg (by simp; omega)]
      congr 2
      simp only [Vector.length_toList]
      omega

/-- The slot at a place of the chain is the slot at its position. -/
theorem getElem?_slots [Inhabited α] (chain : List (Vector α 30)) (p : Place)
    (h : p.block < chain.length) : (slots chain)[p.flat]? = some (readAt chain p) := by
  obtain ⟨k, s⟩ := p
  induction chain generalizing k with
  | nil => simp at h
  | cons b bs ih =>
    cases k with
    | zero => simp [Place.flat, readAt, List.getElem?_append_left]
    | succ k =>
      have hk : k < bs.length := by simpa using h
      have := ih k hk
      simp only [Place.flat, readAt] at this ⊢
      rw [slots_cons, List.getElem?_append_right (by simp; omega)]
      simpa [Nat.mul_succ, show 30 * k + 30 + s - 30 = 30 * k + s by omega] using this

/-- The items from a block on are a slice of the chain's slots: from the slot
`left` of the first block to the slot `right` of the last. -/
theorem itemsFrom_eq (left right : Nat) (hleft : left ≤ 30) :
    ∀ chain : List (Vector α 30), chain ≠ [] →
      itemsFrom left right chain = ((slots chain).take (30 * (chain.length - 1) + right + 1)).drop left
  | [], hne => absurd rfl hne
  | [b], _ => by simp [itemsFrom]
  | b :: c :: bs, _ => by
    have ih := itemsFrom_eq 0 right (Nat.zero_le _) (c :: bs) (List.cons_ne_nil _ _)
    -- the slice takes the whole first block, then the slice of the blocks after it
    have htake : (slots (b :: c :: bs)).take (30 * ((b :: c :: bs).length - 1) + right + 1) =
        b.toList ++ (slots (c :: bs)).take (30 * ((c :: bs).length - 1) + right + 1) := by
      rw [slots_cons b (c :: bs), List.take_append,
        List.take_of_length_le (by simp only [Vector.length_toList, List.length_cons]; omega),
        Vector.length_toList]
      congr 2
      simp only [List.length_cons]
      omega
    rw [itemsFrom, ih, List.drop_zero, htake, List.drop_append_of_le_length (by simpa using hleft)]

/-! ## The swap loop -/

/-- The position whose slot lands at `j` after `n` swaps inward from the
positions `a` and `b`. -/
def mirrored (a b n j : Nat) : Nat := if (a ≤ j ∧ j < a + n) ∨ (b < j + n ∧ j ≤ b) then a + b - j else j

/-- One swap of the slots at `a` and `b` reads every slot at its mirror. -/
theorem getElem?_swap {l : List α} {a b : Nat} (ha : a < l.length) (hb : b < l.length) (j : Nat) :
    ((l.set b l[a]).set a l[b])[j]? = l[if j = a then b else if j = b then a else j]? := by
  simp only [List.getElem?_set, List.length_set]
  by_cases hja : j = a
  · subst hja
    simp [hb, ha]
  · by_cases hjb : j = b
    · subst hjb
      simp [Ne.symm hja, hja, ha, hb]
    · simp [Ne.symm hja, Ne.symm hjb, hja, hjb]

theorem mirrored_succ {a b n j : Nat} (hcross : a + 2 * (n + 1) ≤ b + 1) :
    (if mirrored (a + 1) (b - 1) n j = a then b else if mirrored (a + 1) (b - 1) n j = b then a
      else mirrored (a + 1) (b - 1) n j) = mirrored a b (n + 1) j := by
  unfold mirrored
  split_ifs <;> omega

@[simp] theorem length_swapLoop [Inhabited α] (n : Nat) :
    ∀ (chain : List (Vector α 30)) (left right : Place), (Deque.swapLoop chain left right n).length = chain.length := by
  induction n with
  | zero => intro chain left right; rfl
  | succ n ih => intro chain left right; simp [Deque.swapLoop, ih]

/-- `n` passes of the reversing loop from the positions `a` and `b` inward, the
places never crossing, exchange the slots `a + i` and `b - i` for `i < n`. -/
theorem getElem?_slots_swapLoop [Inhabited α] (n : Nat) :
    ∀ (chain : List (Vector α 30)) (left right : Place), left.flat + 2 * n ≤ right.flat + 1 →
      right.flat < 30 * chain.length → ∀ j,
        (slots (Deque.swapLoop chain left right n))[j]? = (slots chain)[mirrored left.flat right.flat n j]? := by
  induction n with
  | zero =>
    intro chain left right _ _ j
    rw [Deque.swapLoop, mirrored, if_neg (by omega)]
  | succ n ih =>
    intro chain left right hcross hright j
    -- the first pass swaps the two slots; the rest of the loop runs one step further in
    have hleft : left.flat < 30 * chain.length := by omega
    have hlen_l : left.flat < (slots chain).length := by simpa using hleft
    have hlen_r : right.flat < (slots chain).length := by simpa using hright
    have hr := getElem?_slots chain right (Place.block_lt_iff.mpr hright)
    have hl := getElem?_slots chain left (Place.block_lt_iff.mpr hleft)
    rw [List.getElem?_eq_getElem hlen_r] at hr
    rw [List.getElem?_eq_getElem hlen_l] at hl
    have hswap : slots (writeAt (writeAt chain right (readAt chain left)) left (readAt chain right)) =
        ((slots chain).set right.flat (slots chain)[left.flat]).set left.flat (slots chain)[right.flat] := by
      rw [slots_writeAt, slots_writeAt, Option.some.inj hr, Option.some.inj hl]
    have hnext := Place.flat_next left
    have hprev := Place.flat_prev right (by omega)
    rw [Deque.swapLoop, ih _ left.next right.prev (by omega) (by simp; omega), hswap, hnext, hprev,
      getElem?_swap hlen_l hlen_r, ← mirrored_succ hcross]

end Basis.Collections
