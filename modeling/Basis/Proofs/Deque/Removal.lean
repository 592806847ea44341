import Basis.Proofs.Deque

/-!
# Removing items from a deque

`Deque.remove` looks for an item by moving the items one at a time from the
left end to the right end until the test accepts one, pops that one, and turns
the deque back by the number of items it moved. `Deque.erase?` turns the item
at a position to an end, pops it there and turns the deque back. Both are made
of pushes and pops, so they keep the shape of the chain (`Deque.Shaped`), and
on the items they are exact:

* `Shaped.remove`: the deque loses the first item that the test accepts and
  keeps the others in order; when the test refuses every item, or fails on an
  item before it accepts one, every item is back in its place (`Removed`).
* `Shaped.erase?_eq_some` and `erase?_eq_none`: a position inside the deque,
  negative positions counting from the right, loses exactly its item; a
  position outside is refused.

The turns back come out right because turning a list to the right by the
length of its tail brings the tail to the front (`rotate_append_neg_length`),
and turning it by the length of its head brings the head to the back
(`rotate_append_length_emod`). `remove_delete_exact` reads both operations off
the deque's methods, with the answers they give: `remove` answers `None`, the
`ValueError` of an absent item or the failure of a comparison, and
`__delitem__` answers `None`, or an `IndexError` that leaves the deque as it was.
-/

namespace Basis.Collections.Deque

variable {α ε : Type} {d : Deque α} {m : Option Nat}

/-! ## Removal on lists -/

/-- What removing the first item of `l` that `accepts` takes can leave, and how
it ends: the items before that one are refused and it is taken out; or the test
fails on an item before it accepts one, or refuses them all, and the list stays
as it was. -/
inductive Removed (accepts : α → Except ε Bool) (l : List α) : List α → Search ε → Prop
  /-- The first item accepted is taken out. -/
  | found (pre : List α) (x : α) (post : List α) : l = pre ++ x :: post →
      (∀ y ∈ pre, accepts y = .ok false) → accepts x = .ok true → Removed accepts l (pre ++ post) .found
  /-- The test fails on an item before it accepts one. -/
  | failed (pre : List α) (x : α) (post : List α) (e : ε) : l = pre ++ x :: post →
      (∀ y ∈ pre, accepts y = .ok false) → accepts x = .error e → Removed accepts l l (.failed e)
  /-- The test refuses every item. -/
  | absent : (∀ y ∈ l, accepts y = .ok false) → Removed accepts l l .absent

/-- A list has a first item that the test does not refuse, or the test refuses
all its items. -/
theorem exists_first_unrefused (accepts : α → Except ε Bool) (l : List α) :
    (∃ pre x post, l = pre ++ x :: post ∧ (∀ y ∈ pre, accepts y = .ok false) ∧ accepts x ≠ .ok false) ∨
      ∀ y ∈ l, accepts y = .ok false := by
  induction l with
  | nil => exact .inr (by simp)
  | cons x xs ih =>
    by_cases hx : accepts x = .ok false
    · rcases ih with ⟨pre, z, post, rfl, hpre, hz⟩ | hall
      · exact .inl ⟨x :: pre, z, post, rfl, List.forall_mem_cons.mpr ⟨hx, hpre⟩, hz⟩
      · exact .inr (List.forall_mem_cons.mpr ⟨hx, hall⟩)
    · exact .inl ⟨[], x, xs, rfl, by simp, hx⟩

/-- Turning `l₁ ++ l₂` to the right by the length of `l₂` brings `l₂` to the front. -/
theorem rotate_append_neg_length (l₁ l₂ : List α) {n : Nat} (hn : l₂.length = n) :
    (l₁ ++ l₂).rotate ((-(n : Int)) % ((l₁ ++ l₂).length : Int)).toNat = l₂ ++ l₁ := by
  subst hn
  rcases Nat.eq_zero_or_pos l₂.length with h0 | hpos
  · simp [List.length_eq_zero_iff.mp h0]
  · have hmod : (-(l₂.length : Int)) % ((l₁ ++ l₂).length : Int) = l₁.length := by
      rw [List.length_append, Nat.cast_add,
        show -(l₂.length : Int) = l₁.length + (l₁.length + l₂.length) * (-1) by ring,
        Int.add_mul_emod_self_left]
      exact Int.emod_eq_of_lt (by omega) (by omega)
    rw [hmod, Int.toNat_natCast, List.rotate_append_length_eq]

/-- Turning `l₁ ++ l₂` to the left by the length of `l₁` brings `l₁` to the back. -/
theorem rotate_append_length_emod (l₁ l₂ : List α) {n : Nat} (hn : l₁.length = n) :
    (l₁ ++ l₂).rotate (((n : Int)) % ((l₁ ++ l₂).length : Int)).toNat = l₂ ++ l₁ := by
  rw [← hn, ← Int.natCast_emod, Int.toNat_natCast, List.rotate_mod, List.rotate_append_length_eq]

/-! ## Looking for an item -/

variable [Inhabited α] {accepts : α → Except ε Bool}

/-- Passing over refused items moves each of them from the left end to the
right end, as a turn to the left does. -/
theorem Shaped.searchLeft_pass (h : d.Shaped m) {pre rest : List α} (hd : d.items = pre ++ rest)
    (hpre : ∀ y ∈ pre, accepts y = .ok false) (moved k : Nat) :
    searchLeft accepts d moved (pre.length + k) =
      searchLeft accepts (d.rotateLeft pre.length) (moved + pre.length) k := by
  induction pre generalizing d moved rest with
  | nil => simp only [List.length_nil, Nat.zero_add, Nat.add_zero, Deque.rotateLeft]
  | cons y pre ih =>
    rw [List.cons_append] at hd
    have hy : accepts y = .ok false := hpre y (by simp)
    obtain ⟨h1, hitems⟩ := h.rotateLeft_one hd
    have hd1 : (d.dropLeft.pushRight y).items = pre ++ (rest ++ [y]) := by
      rw [hitems, hd, List.rotate_cons_succ, List.rotate_zero, List.append_assoc]
    have hstep := ih h1 hd1 (fun z hz => hpre z (by simp [hz])) (moved + 1)
    rw [List.length_cons, Nat.add_right_comm, searchLeft]
    simp only [h.get?_zero, hd, List.head?_cons, hy, h.popLeft?_of_cons hd, hstep, Deque.rotateLeft,
      Nat.add_assoc, Nat.add_comm 1]

theorem Laid.searchLeft_accept (h : d.Laid) {x : α} {xs : List α} (hd : d.items = x :: xs)
    (hx : accepts x = .ok true) (moved k : Nat) :
    searchLeft accepts d moved (k + 1) = (d.dropLeft, moved, .found) := by
  simp [searchLeft, h.get?_zero, hd, hx]

theorem Laid.searchLeft_fail (h : d.Laid) {x : α} {xs : List α} {e : ε} (hd : d.items = x :: xs)
    (hx : accepts x = .error e) (moved k : Nat) :
    searchLeft accepts d moved (k + 1) = (d, moved, .failed e) := by
  simp [searchLeft, h.get?_zero, hd, hx]

/-- After passing over the refused items before `x`, the deque holds `x`, the
items after it, then the items passed over. -/
theorem Shaped.passed (h : d.Shaped m) {pre post : List α} {x : α} (hd : d.items = pre ++ x :: post) :
    (d.rotateLeft pre.length).Shaped m ∧ (d.rotateLeft pre.length).items = x :: (post ++ pre) := by
  obtain ⟨h1, hitems⟩ := h.rotateLeft pre.length
  exact ⟨h1, by rw [hitems, hd, List.rotate_append_length_eq, List.cons_append]⟩

/-- Removing the first item that the test accepts: the deque keeps its shape, and
its items are those of `Removed`. -/
theorem Shaped.remove (h : d.Shaped m) (accepts : α → Except ε Bool) :
    (d.remove accepts).1.Shaped m ∧ Removed accepts d.items (d.remove accepts).1.items (d.remove accepts).2 := by
  rcases exists_first_unrefused accepts d.items with ⟨pre, x, post, hd, hpre, hx⟩ | hall
  · obtain ⟨h1, hd1⟩ := h.passed hd
    have hlen : d.length = pre.length + (post.length + 1) := by
      rw [← h.length_items, hd, List.length_append, List.length_cons]
    have hpass := h.searchLeft_pass hd hpre 0 (post.length + 1)
    rw [Nat.zero_add] at hpass
    cases hacc : accepts x with
    | error e =>
      -- the scan stops at `x` with the deque turned by `pre`, and turns back
      have hs : d.remove accepts = ((d.rotateLeft pre.length).rotate pre.length, .failed e) := by
        simp only [Deque.remove, hlen, hpass, h1.searchLeft_fail hd1 hacc]
      obtain ⟨h2, hitems2⟩ := h1.rotate pre.length
      have hback : ((d.rotateLeft pre.length).rotate pre.length).items = d.items := by
        rw [hitems2, hd1, ← List.cons_append, rotate_append_neg_length _ _ rfl, hd]
      rw [hs, hback]
      exact ⟨h2, .failed pre x post e hd hpre hacc⟩
    | ok b =>
      cases b with
      | false => exact absurd hacc hx
      | true =>
        -- `x` is popped, then the items passed over are turned back in front
        have hs : d.remove accepts = ((d.rotateLeft pre.length).dropLeft.rotate pre.length, .found) := by
          simp only [Deque.remove, hlen, hpass, h1.searchLeft_accept hd1 hacc]
        have h2 := h1.dropLeft (by simp [hd1])
        obtain ⟨h3, hitems3⟩ := h2.rotate pre.length
        have hback : ((d.rotateLeft pre.length).dropLeft.rotate pre.length).items = pre ++ post := by
          rw [hitems3, h1.items_dropLeft (by simp [hd1]), hd1, List.tail_cons, rotate_append_neg_length _ _ rfl]
        rw [hs, hback]
        exact ⟨h3, .found pre x post hd hpre hacc⟩
  · -- every item is moved once and the deque is turned back by its whole length
    have hpass := h.searchLeft_pass (List.append_nil d.items).symm hall 0 0
    rw [Nat.add_zero, Nat.zero_add] at hpass
    have hs : d.remove accepts = ((d.rotateLeft d.items.length).rotate d.items.length, .absent) := by
      simp only [Deque.remove, ← h.length_items, hpass]
      rfl
    obtain ⟨h1, hitems1⟩ := h.rotateLeft d.items.length
    obtain ⟨h2, hitems2⟩ := h1.rotate d.items.length
    have hback : ((d.rotateLeft d.items.length).rotate d.items.length).items = d.items := by
      rw [hitems2, hitems1, List.rotate_length]
      simp
    rw [hs, hback]
    exact ⟨h2, .absent hall⟩

/-! ## Deleting at a position -/

/-- A position outside the deque is refused. -/
theorem Laid.erase?_eq_none (h : d.Laid) {i : Int}
    (hi : ¬(-(d.items.length : Int) ≤ i ∧ i < d.items.length)) : d.erase? i = none := by
  have hlen := h.length_items
  simp only [Deque.erase?]
  by_cases h0 : 0 ≤ i
  · rw [if_pos h0, if_pos (by omega)]
  · rw [if_neg h0, if_pos (by omega)]

/-- A position inside the deque, negative positions counting from the right,
loses exactly its item, and the deque keeps its shape. -/
theorem Shaped.erase?_eq_some (h : d.Shaped m) {i : Int}
    (hi : -(d.items.length : Int) ≤ i ∧ i < d.items.length) :
    ∃ d', d.erase? i = some d' ∧ d'.Shaped m ∧
      d'.items = d.items.eraseIdx (if i < 0 then i + d.items.length else i).toNat := by
  have hlen := h.length_items
  by_cases hneg : i < 0
  · -- turn the item to the right end, pop it there, and turn back to the left
    obtain ⟨j, hj⟩ : ∃ j : Nat, (j : Int) = i + d.items.length := ⟨(i + d.items.length).toNat, by omega⟩
    obtain ⟨k, hk⟩ : ∃ k : Nat, (k : Int) = -i - 1 := ⟨(-i - 1).toNat, by omega⟩
    have hjL : j < d.items.length := by omega
    have hsplit : d.items = (d.items.take j ++ [d.items[j]]) ++ d.items.drop (j + 1) := by
      rw [List.take_concat_get', List.take_append_drop]
    have hB : (d.items.drop (j + 1)).length = k := by simp; omega
    obtain ⟨h1, hitems1⟩ := h.rotate (-i - 1)
    have hd1 : (d.rotate (-i - 1)).items = d.items.drop (j + 1) ++ (d.items.take j ++ [d.items[j]]) := by
      have hturn := rotate_append_neg_length (d.items.take j ++ [d.items[j]]) (d.items.drop (j + 1)) hB
      rw [← hsplit] at hturn
      rw [hitems1, ← hk, hturn]
    have hne : (d.rotate (-i - 1)).items ≠ [] := by
      rw [hd1]
      exact List.append_ne_nil_of_right_ne_nil _ (List.append_ne_nil_of_right_ne_nil _ (List.cons_ne_nil _ _))
    have h2 := h1.dropRight hne
    have hd2 : (d.rotate (-i - 1)).dropRight.items = d.items.drop (j + 1) ++ d.items.take j := by
      rw [h1.items_dropRight hne, hd1, ← List.append_assoc, List.dropLast_concat]
    obtain ⟨h3, hitems3⟩ := h2.rotate (-(-i - 1))
    refine ⟨(d.rotate (-i - 1)).dropRight.rotate (-(-i - 1)), ?_, h3, ?_⟩
    · simp only [Deque.erase?, h1.popRight?_of_ne_nil hne, Option.map_some]
      rw [if_neg (by omega), if_neg (by omega)]
    · rw [hitems3, hd2, ← hk, neg_neg, rotate_append_length_emod _ _ hB, if_pos hneg, ← hj,
        Int.toNat_natCast, List.eraseIdx_eq_take_drop_succ]
  · -- turn the item to the left end, pop it there, and turn back to the right
    obtain ⟨j, hj⟩ : ∃ j : Nat, (j : Int) = i := ⟨i.toNat, by omega⟩
    have hjL : j < d.items.length := by omega
    have hA : (d.items.take j).length = j := by simp; omega
    obtain ⟨h1, hitems1⟩ := h.rotate (-i)
    have hd1 : (d.rotate (-i)).items = d.items[j] :: (d.items.drop (j + 1) ++ d.items.take j) := by
      have hturn := rotate_append_length_emod (d.items.take j) (d.items.drop j) hA
      rw [List.take_append_drop, List.drop_eq_getElem_cons hjL, List.cons_append] at hturn
      rw [hitems1, ← hj, neg_neg, hturn]
    have h2 := h1.dropLeft (by simp [hd1])
    obtain ⟨h3, hitems3⟩ := h2.rotate i
    refine ⟨(d.rotate (-i)).dropLeft.rotate i, ?_, h3, ?_⟩
    · simp only [Deque.erase?, h1.popLeft?_of_cons hd1, Option.map_some]
      rw [if_pos (by omega), if_neg (by omega)]
    · rw [hitems3, h1.items_dropLeft (by simp [hd1]), hd1, List.tail_cons, if_neg hneg, ← hj, Int.toNat_natCast,
        rotate_append_neg_length _ _ hA, List.eraseIdx_eq_take_drop_succ]

end Basis.Collections.Deque

namespace Basis.Protocol

open Basis.Collections Basis.Collections.Deque

/-! ## The methods -/

theorem runMethod_remove (s : DequeState) (v : Elem) :
    runMethod s "remove" [v] =
      ({ s with deque := (s.deque.remove (elemEquals · v)).1 },
        match (s.deque.remove (elemEquals · v)).2 with
        | .found => .ok (.elem (.plain .none))
        | .absent => .error (.valueError "deque.remove(x): x not in deque")
        | .failed f => .error f) := by
  simp only [runMethod, List.getD_cons_zero]
  cases (s.deque.remove (elemEquals · v)).2 <;> rfl

theorem runMethod_delitem (s : DequeState) (i : Int) :
    runMethod s "__delitem__" [.plain (.int i)] =
      match s.deque.erase? i with
      | some d' => ({ s with deque := d' }, .ok (.elem (.plain .none)))
      | none => (s, .error (.indexError "deque index out of range")) := rfl

/-- `remove` and `__delitem__` on a deque within any bound. `remove(v)` takes out
the first item equal to `v` and answers `None`; or it answers the `ValueError` of
an absent item, or the failure of a comparison, with the items as they were.
`del d[i]` takes out exactly the item at `i` for `-len ≤ i < len` and answers
`None`; otherwise it answers an `IndexError` and changes nothing. -/
theorem remove_delete_exact {s : DequeState} {m : Option Nat} (h : s.deque.Shaped m) (v : Elem) (i : Int) :
    let removed := runMethod s "remove" [v]
    let deleted := runMethod s "__delitem__" [.plain (.int i)]
    removed.1.deque.Shaped m ∧
      (Removed (elemEquals · v) s.deque.items removed.1.deque.items .found ∧
          removed.2 = .ok (.elem (.plain .none)) ∨
        Removed (elemEquals · v) s.deque.items removed.1.deque.items .absent ∧
          removed.2 = .error (.valueError "deque.remove(x): x not in deque") ∨
        ∃ e, Removed (elemEquals · v) s.deque.items removed.1.deque.items (.failed e) ∧
          removed.2 = .error e) ∧
      deleted.1.deque.Shaped m ∧
      (-(s.deque.items.length : Int) ≤ i ∧ i < s.deque.items.length →
        deleted.1.deque.items = s.deque.items.eraseIdx (if i < 0 then i + s.deque.items.length else i).toNat ∧
          deleted.2 = .ok (.elem (.plain .none))) ∧
      (¬(-(s.deque.items.length : Int) ≤ i ∧ i < s.deque.items.length) →
        deleted = (s, .error (.indexError "deque index out of range"))) := by
  intro removed deleted
  obtain ⟨hshape, hrem⟩ := h.remove (elemEquals · v)
  have hr : removed = _ := runMethod_remove s v
  have hd : deleted = _ := runMethod_delitem s i
  refine ⟨by rw [hr]; exact hshape, ?_, ?_⟩
  · -- the answer follows the outcome of the search
    rw [hr]
    generalize s.deque.remove (elemEquals · v) = r at hshape hrem ⊢
    obtain ⟨d', o⟩ := r
    cases o with
    | found => exact .inl ⟨hrem, rfl⟩
    | absent => exact .inr (.inl ⟨hrem, rfl⟩)
    | failed e => exact .inr (.inr ⟨e, hrem, rfl⟩)
  · by_cases hi : -(s.deque.items.length : Int) ≤ i ∧ i < s.deque.items.length
    · obtain ⟨d', he, hs', hitems⟩ := h.erase?_eq_some hi
      rw [hd, he]
      exact ⟨hs', fun _ => ⟨hitems, rfl⟩, fun hn => absurd hi hn⟩
    · rw [hd, h.erase?_eq_none hi]
      exact ⟨h, fun hn => absurd hn hi, fun _ => rfl⟩

/-- The deque `[1, 2]` with bound 3: removing `2` and deleting at `-1`. -/
theorem remove_delete_exact_pair :
    let s : DequeState :=
      ⟨((empty (overLimit (some 3))).pushRight (.plain (.int 1))).pushRight (.plain (.int 2)), .int 3⟩
    s.deque.Shaped (some 3) ∧
      let removed := runMethod s "remove" [.plain (.int 2)]
      let deleted := runMethod s "__delitem__" [.plain (.int (-1))]
      removed.1.deque.Shaped (some 3) ∧
        (Removed (elemEquals · (.plain (.int 2))) s.deque.items removed.1.deque.items .found ∧
            removed.2 = .ok (.elem (.plain .none)) ∨
          Removed (elemEquals · (.plain (.int 2))) s.deque.items removed.1.deque.items .absent ∧
            removed.2 = .error (.valueError "deque.remove(x): x not in deque") ∨
          ∃ e, Removed (elemEquals · (.plain (.int 2))) s.deque.items removed.1.deque.items (.failed e) ∧
            removed.2 = .error e) ∧
        deleted.1.deque.Shaped (some 3) ∧
        (-(s.deque.items.length : Int) ≤ -1 ∧ (-1 : Int) < s.deque.items.length →
          deleted.1.deque.items =
              s.deque.items.eraseIdx (if (-1 : Int) < 0 then (-1 : Int) + s.deque.items.length else -1).toNat ∧
            deleted.2 = .ok (.elem (.plain .none))) ∧
        (¬(-(s.deque.items.length : Int) ≤ -1 ∧ (-1 : Int) < s.deque.items.length) →
          deleted = (s, .error (.indexError "deque index out of range"))) :=
  have h := ((shaped_empty (some 3)).pushRight (Elem.plain (.int 1))).pushRight (Elem.plain (.int 2))
  ⟨h, remove_delete_exact h (.plain (.int 2)) (-1)⟩

end Basis.Protocol
