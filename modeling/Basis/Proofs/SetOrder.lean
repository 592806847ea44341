import Mathlib.RingTheory.ZMod.UnitsCyclic
import Mathlib.Data.ZMod.Basic
import Mathlib.Data.Fintype.Card
import Basis.Value.Hash

/-!
# Sets keep every member

A set is built by adding its members to an open-addressed table of `2^k` slots
and read back in slot order (`Value.setOrder`). The table loses a member only if
a probe for a free slot gives up, and a probe gives up after the slots' number
plus 64 jumps. This file shows it never does while a slot is free, so a set
built from distinct hashable values holds each of them once
(`Value.setOrder_perm`).

The argument is the full period of the jump. After twelve jumps the
perturbation taken from the hash code is spent, and the probe goes from slot
`x` to slot `5x + 1` modulo `2^k` (`lcgStep`). Writing slot `x` as `4x + 1`
modulo `2^(k+2)`, that jump is multiplication by `5`, whose order there is
`2^k`; so `2^k` jumps from any slot meet every slot
(`exists_iterate_lcgStep_eq`), and `probe_isSome` follows.

A table stays `Roomy`: it has `2^k` slots with `k ≤ 64`, its `fill` counts the
taken slots, and one slot is free. Adding a member equal to none of the table's
fills one free slot, and growing the table moves every member over
(`Slots.add_fresh`, `Slots.resize_spec`).
-/

namespace Basis.Value.Slots

/-! ## The period of the jump -/

/-- One step of the probe once the perturbation is spent. -/
def lcgStep (k x : Nat) : Nat := (5 * x + 1) % 2 ^ k

theorem lcgStep_lt (k x : Nat) : lcgStep k x < 2 ^ k := Nat.mod_lt _ (Nat.two_pow_pos k)

theorem cast_four_mul_lcgStep_add_one (k x : Nat) :
    ((4 * lcgStep k x + 1 : Nat) : ZMod (2 ^ (k + 2))) = 5 * ((4 * x + 1 : Nat) : ZMod (2 ^ (k + 2))) := by
  have hsplit : 4 * (5 * x + 1) + 1 = (4 * lcgStep k x + 1) + 4 * 2 ^ k * ((5 * x + 1) / 2 ^ k) := by
    have := Nat.mod_add_div (5 * x + 1) (2 ^ k)
    unfold lcgStep
    linarith
  have h4 : 2 ^ (k + 2) = 4 * 2 ^ k := by ring
  have : ((4 * lcgStep k x + 1 : Nat) : ZMod (2 ^ (k + 2))) = ((4 * (5 * x + 1) + 1 : Nat) : ZMod (2 ^ (k + 2))) := by
    rw [ZMod.natCast_eq_natCast_iff', hsplit, h4, Nat.add_mul_mod_self_left]
  rw [this]
  push_cast
  ring

theorem cast_four_mul_iterate_add_one (k x t : Nat) :
    ((4 * (lcgStep k)^[t] x + 1 : Nat) : ZMod (2 ^ (k + 2))) = 5 ^ t * ((4 * x + 1 : Nat) : ZMod (2 ^ (k + 2))) := by
  induction t with
  | zero => simp
  | succ t ih => rw [Function.iterate_succ_apply', cast_four_mul_lcgStep_add_one, ih, pow_succ]; ring

theorem iterate_lcgStep_injOn {k x t₁ t₂ : Nat} (h₁ : t₁ < 2 ^ k) (h₂ : t₂ < 2 ^ k)
    (h : (lcgStep k)^[t₁] x = (lcgStep k)^[t₂] x) : t₁ = t₂ := by
  have hcast := congrArg (fun y => ((4 * y + 1 : Nat) : ZMod (2 ^ (k + 2)))) h
  simp only [cast_four_mul_iterate_add_one] at hcast
  have hodd : Nat.Coprime (4 * x + 1) 2 := by
    rw [Nat.coprime_two_right]; exact ⟨2 * x, by ring⟩
  have hu : IsUnit ((4 * x + 1 : Nat) : ZMod (2 ^ (k + 2))) :=
    (ZMod.isUnit_iff_coprime _ _).mpr (Nat.Coprime.pow_right _ hodd)
  have hpow : (5 : ZMod (2 ^ (k + 2))) ^ t₁ = 5 ^ t₂ := hu.mul_left_inj.mp hcast
  exact pow_injOn_Iio_orderOf (by rw [Set.mem_Iio, ZMod.orderOf_five]; exact h₁)
    (by rw [Set.mem_Iio, ZMod.orderOf_five]; exact h₂) hpow

/-- From any slot, `2^k` steps of `x ↦ 5x + 1` modulo `2^k` visit every slot. -/
theorem exists_iterate_lcgStep_eq {k x j : Nat} (hx : x < 2 ^ k) (hj : j < 2 ^ k) :
    ∃ t < 2 ^ k, (lcgStep k)^[t] x = j := by
  have hlt : ∀ t, (lcgStep k)^[t] x < 2 ^ k := by
    intro t
    cases t with
    | zero => exact hx
    | succ t => rw [Function.iterate_succ_apply']; exact lcgStep_lt k _
  let f : Fin (2 ^ k) → Fin (2 ^ k) := fun t => ⟨(lcgStep k)^[t] x, hlt t⟩
  have hinj : Function.Injective f := fun t₁ t₂ h =>
    Fin.ext (iterate_lcgStep_injOn t₁.2 t₂.2 (congrArg Fin.val h))
  obtain ⟨t, ht⟩ := (Finite.injective_iff_surjective.mp hinj) ⟨j, hj⟩
  exact ⟨t, t.2, congrArg Fin.val ht⟩


/-! ## Probes -/

/-- The slot a probe tries after slot `i`, the perturbation `p` not yet shifted. -/
def nextSlot (mask i p : Nat) : Nat := (i * 5 + 1 + p >>> 5) % 2 ^ 64 &&& mask

/-- The slot a probe from slot `i` with perturbation `p` tries at its `n`-th jump. -/
def trail (mask : Nat) : Nat → Nat → Nat → Nat
  | 0, i, _ => i
  | n + 1, i, p => trail mask n (nextSlot mask i p) (p >>> 5)

theorem probe_go_eq (t : Slots) (stop : Nat → Option (Value × UInt64) → Bool) (fuel i p : Nat) :
    probe.go t stop (fuel + 1) i p =
      match (List.range (if i + linearProbes ≤ t.mask then linearProbes + 1 else 1)).find?
          (fun k => stop (i + k) (t.slots.getD (i + k) Option.none)) with
      | some k => some (i + k)
      | Option.none => probe.go t stop fuel (nextSlot t.mask i p) (p >>> 5) := by
  rfl

/-- A probe that finds nothing passes over every slot it tries. -/
theorem stop_trail_of_go_eq_none {t : Slots} {stop : Nat → Option (Value × UInt64) → Bool} :
    ∀ {fuel i p : Nat}, probe.go t stop fuel i p = Option.none →
      ∀ n < fuel, stop (trail t.mask n i p) (t.slots.getD (trail t.mask n i p) Option.none) = false
  | 0, _, _, _, n, hn => absurd hn (Nat.not_lt_zero n)
  | fuel + 1, i, p, h, n, hn => by
    rw [probe_go_eq] at h
    split at h
    · cases h
    · rename_i hfind
      cases n with
      | zero =>
        have := List.find?_eq_none.mp hfind 0 (List.mem_range.mpr (by split <;> omega))
        simpa [trail] using this
      | succ n => exact stop_trail_of_go_eq_none h n (by omega)

theorem trail_succ (mask : Nat) : ∀ (n i p : Nat),
    trail mask (n + 1) i p = nextSlot mask (trail mask n i p) (p >>> (5 * n))
  | 0, i, p => by simp [trail]
  | n + 1, i, p => by
    rw [trail, trail_succ mask n, ← Nat.shiftRight_add, show 5 + 5 * n = 5 * (n + 1) by omega]
    rfl

theorem nextSlot_of_shiftRight_eq_zero {k q : Nat} (hk : k ≤ 64) (hq : q >>> 5 = 0) (i : Nat) :
    nextSlot (2 ^ k - 1) i q = lcgStep k i := by
  have hdvd : 2 ^ k ∣ 2 ^ 64 := Nat.pow_dvd_pow 2 hk
  simp only [nextSlot, hq, Nat.add_zero, Nat.and_two_pow_sub_one_eq_mod, Nat.mod_mod_of_dvd _ hdvd,
    lcgStep, Nat.mul_comm i 5]

/-- After twelve jumps the perturbation is spent, and the probe steps by `5i + 1`. -/
theorem trail_twelve_add {k p : Nat} (hk : k ≤ 64) (hp : p < 2 ^ 64) (i : Nat) :
    ∀ s, trail (2 ^ k - 1) (12 + s) i p = (lcgStep k)^[s] (trail (2 ^ k - 1) 12 i p)
  | 0 => rfl
  | s + 1 => by
    have hq : p >>> (5 * (12 + s)) >>> 5 = 0 := by
      rw [← Nat.shiftRight_add, Nat.shiftRight_eq_div_pow]
      exact Nat.div_eq_of_lt (lt_of_lt_of_le hp (Nat.pow_le_pow_right (by omega) (by omega)))
    rw [← Nat.add_assoc, trail_succ, trail_twelve_add hk hp i s, Function.iterate_succ_apply',
      nextSlot_of_shiftRight_eq_zero hk hq]

theorem trail_succ_le (mask n i p : Nat) : trail mask (n + 1) i p ≤ mask := by
  rw [trail_succ]
  exact Nat.and_le_right

/-- A probe over `2^k` slots, `k ≤ 64`, finds a slot if some slot would stop it. -/
theorem probe_isSome {t : Slots} {stop : Nat → Option (Value × UInt64) → Bool} {k j : Nat}
    (hsize : t.slots.size = 2 ^ k) (hk : k ≤ 64) (hj : j < 2 ^ k)
    (hstop : stop j (t.slots.getD j Option.none) = true) (code : UInt64) :
    (t.probe code stop).isSome := by
  cases h : t.probe code stop with
  | some r => rfl
  | none =>
    have hmask : t.mask = 2 ^ k - 1 := by simp [mask, hsize]
    have hpos : 0 < 2 ^ k := Nat.two_pow_pos k
    have hstart : trail t.mask 12 (code.toNat &&& t.mask) code.toNat < 2 ^ k := by
      have hle : trail t.mask 12 (code.toNat &&& t.mask) code.toNat ≤ 2 ^ k - 1 :=
        hmask ▸ trail_succ_le t.mask 11 _ _
      exact Nat.lt_of_le_of_lt hle (Nat.sub_lt hpos Nat.one_pos)
    obtain ⟨s, hs, hsj⟩ := exists_iterate_lcgStep_eq hstart hj
    have hnone := stop_trail_of_go_eq_none h (12 + s) (by rw [hsize]; omega)
    rw [hmask, trail_twelve_add hk (UInt64.toNat_lt code) _ s, ← hmask, hsj, hstop] at hnone
    cases hnone

theorem probe_go_spec {t : Slots} {stop : Nat → Option (Value × UInt64) → Bool} :
    ∀ {fuel i p r : Nat}, i ≤ t.mask → probe.go t stop fuel i p = some r →
      stop r (t.slots.getD r Option.none) = true ∧ r ≤ t.mask
  | 0, _, _, _, _, h => by cases h
  | fuel + 1, i, p, r, hi, h => by
    rw [probe_go_eq] at h
    split at h
    · rename_i k hfind
      cases h
      have hk := List.mem_range.mp (List.mem_of_find?_eq_some hfind)
      have hstop := List.find?_some hfind
      refine ⟨hstop, ?_⟩
      split at hk <;> omega
    · exact probe_go_spec Nat.and_le_right h

/-- A slot a probe returns is one that stops it. -/
theorem probe_spec {t : Slots} {stop : Nat → Option (Value × UInt64) → Bool} {code : UInt64}
    {r : Nat} (h : t.probe code stop = some r) :
    stop r (t.slots.getD r Option.none) = true ∧ r ≤ t.mask :=
  probe_go_spec Nat.and_le_right h

/-! ## Entries -/

theorem filterMap_set_perm {β : Type} (e : β) :
    ∀ (l : List (Option β)) (r : Nat), l[r]? = some Option.none →
      List.Perm ((l.set r (some e)).filterMap id) (l.filterMap id ++ [e])
  | [], _, h => by simp at h
  | a :: l, 0, h => by
    simp only [List.getElem?_cons_zero, Option.some.injEq] at h
    subst h
    simpa using (List.perm_append_singleton e (l.filterMap id)).symm
  | a :: l, r + 1, h => by
    simp only [List.getElem?_cons_succ] at h
    cases a with
    | none => simpa using filterMap_set_perm e l r h
    | some x => simpa using (filterMap_set_perm e l r h).cons x

theorem exists_none_of_length_filterMap_lt {β : Type} :
    ∀ {l : List (Option β)}, (l.filterMap id).length < l.length → ∃ j : Nat, l[j]? = some Option.none
  | [], h => by simp at h
  | Option.none :: _, _ => ⟨0, rfl⟩
  | some x :: l, h => by
    obtain ⟨j, hj⟩ := exists_none_of_length_filterMap_lt (l := l) (by simpa using h)
    exact ⟨j + 1, hj⟩

/-- Filling a free slot adds one entry. -/
theorem entries_set_perm {t : Slots} {r : Nat} (hfree : t.slots.getD r Option.none = Option.none)
    (hr : r < t.slots.size) (e : Value × UInt64) :
    List.Perm (⟨t.slots.set! r (some e), t.fill + 1⟩ : Slots).entries (t.entries ++ [e]) := by
  have hr' : t.slots.toList[r]? = some Option.none := by
    simp only [Array.getD_eq_getD_getElem?] at hfree
    rw [Array.getElem?_toList, Array.getElem?_eq_getElem hr]
    rw [Array.getElem?_eq_getElem hr] at hfree
    simpa using hfree
  simpa [entries] using filterMap_set_perm e t.slots.toList r hr'

/-- A table with fewer entries than slots has a free slot. -/
theorem exists_free {t : Slots} (h : t.entries.length < t.slots.size) :
    ∃ j < t.slots.size, t.slots.getD j Option.none = Option.none := by
  obtain ⟨j, hj⟩ := exists_none_of_length_filterMap_lt (l := t.slots.toList) (by simpa [entries] using h)
  have hjlt : j < t.slots.size := by
    have := (List.getElem?_eq_some_iff.mp hj).1
    simpa using this
  refine ⟨j, hjlt, ?_⟩
  rw [Array.getElem?_toList] at hj
  simp [Array.getD_eq_getD_getElem?, hj]

/-! ## Adding members -/

/-- A table of `2^k` slots, `k ≤ 64`, that counts its taken slots in `fill`
and has a slot free. -/
structure Roomy (t : Slots) : Prop where
  pow : ∃ k ≤ 64, t.slots.size = 2 ^ k
  fill_eq : t.entries.length = t.fill
  fill_lt : t.fill < t.slots.size

theorem roomy_empty : Roomy empty :=
  ⟨⟨3, by omega, rfl⟩, rfl, by decide⟩

/-- A clean insert into a table with a free slot fills one free slot. -/
theorem insertClean_spec {t : Slots} (hpow : ∃ k ≤ 64, t.slots.size = 2 ^ k)
    (hlt : t.entries.length < t.slots.size) (x : Value) (c : UInt64) :
    (t.insertClean x c).slots.size = t.slots.size ∧ (t.insertClean x c).fill = t.fill + 1 ∧
      List.Perm (t.insertClean x c).entries (t.entries ++ [(x, c)]) := by
  obtain ⟨k, hk, hsize⟩ := hpow
  obtain ⟨j, hj, hfree⟩ := exists_free hlt
  have hsome := @probe_isSome t (fun _ e => e.isNone) k j hsize hk (hsize ▸ hj) (by simp [hfree]) c
  obtain ⟨r, hr⟩ := Option.isSome_iff_exists.mp hsome
  obtain ⟨hstop, hrle⟩ := probe_spec hr
  have hrfree : t.slots.getD r Option.none = Option.none := by simpa using hstop
  have hrlt : r < t.slots.size := by
    have : t.mask = t.slots.size - 1 := rfl
    have : 0 < t.slots.size := hsize ▸ Nat.two_pow_pos k
    omega
  simp only [insertClean, hr]
  exact ⟨by simp, by simp, entries_set_perm hrfree hrlt _⟩

theorem foldl_insertClean (acc : Slots) (E : List (Value × UInt64))
    (hpow : ∃ k ≤ 64, acc.slots.size = 2 ^ k) (hfill : acc.entries.length = acc.fill)
    (hroom : acc.fill + E.length < acc.slots.size) :
    let res := E.foldl (fun acc e => acc.insertClean e.1 e.2) acc
    res.slots.size = acc.slots.size ∧ res.fill = acc.fill + E.length ∧
      res.entries.length = res.fill ∧ List.Perm res.entries (acc.entries ++ E) := by
  induction E generalizing acc with
  | nil => exact ⟨rfl, rfl, hfill, by simp⟩
  | cons e E ih =>
    obtain ⟨hsize, hfill', hperm⟩ := insertClean_spec hpow (by simp at hroom; omega) e.1 e.2
    have hlen : (acc.insertClean e.1 e.2).entries.length = (acc.insertClean e.1 e.2).fill := by
      rw [hperm.length_eq, hfill']; simp [hfill]
    obtain ⟨h1, h2, h3, h4⟩ := ih (acc.insertClean e.1 e.2) (hsize ▸ hpow) hlen
      (by simp at hroom; omega)
    refine ⟨h1.trans hsize, by simp [h2, hfill']; omega, h3, h4.trans ?_⟩
    simpa using hperm.append_right E

theorem foldl_double_of_lt {used : Nat} :
    ∀ (l : List Nat) {n : Nat}, used < n → l.foldl (fun n _ => if n ≤ used then 2 * n else n) n = n
  | [], _, _ => rfl
  | _ :: l, n, h => by
    rw [List.foldl_cons, if_neg (by omega)]
    exact foldl_double_of_lt l h

/-- Doubling while not above `used` gives `n` times a power of two that is above
`used` or spent every step, and at most twice `used`. -/
theorem exists_foldl_double (used : Nat) :
    ∀ (l : List Nat) (n : Nat), ∃ j, l.foldl (fun n _ => if n ≤ used then 2 * n else n) n = n * 2 ^ j ∧
      (used < n * 2 ^ j ∨ j = l.length) ∧ n * 2 ^ j ≤ max n (2 * used)
  | [], n => ⟨0, by simp⟩
  | _ :: l, n => by
    by_cases hn : n ≤ used
    · obtain ⟨j, heq, hbig, hle⟩ := exists_foldl_double used l (2 * n)
      refine ⟨j + 1, ?_, ?_, ?_⟩
      · rw [List.foldl_cons, if_pos hn, heq, Nat.pow_succ]; ring
      · rw [show n * 2 ^ (j + 1) = 2 * n * 2 ^ j by ring]
        simpa using hbig
      · rw [show n * 2 ^ (j + 1) = 2 * n * 2 ^ j by ring]
        omega
    · refine ⟨0, ?_, ?_, ?_⟩
      · rw [List.foldl_cons, if_neg hn, foldl_double_of_lt l (by omega)]; simp
      · left; simp; omega
      · simp

/-- Growing moves every member to a table above `used` slots, of at most `2^64` slots. -/
theorem resize_spec {t : Slots} {used : Nat} (hlen : t.entries.length ≤ used) (hused : used < 2 ^ 63) :
    Roomy (t.resize used) ∧ List.Perm (t.resize used).entries t.entries := by
  obtain ⟨j, heq, hbig, hle⟩ := exists_foldl_double used (List.range 64) 8
  have hsize_lt : used < 8 * 2 ^ j := by
    rcases hbig with h | h
    · exact h
    · rw [h, List.length_range]
      have : 2 ^ 63 ≤ 8 * 2 ^ 64 := by norm_num
      omega
  have hj : j + 3 ≤ 64 := by
    have h2 : 8 * 2 ^ j ≤ 2 ^ 64 := by
      have : max 8 (2 * used) ≤ 2 ^ 64 := by
        have : 2 * used < 2 ^ 64 := by omega
        omega
      omega
    have : 2 ^ (j + 3) ≤ 2 ^ 64 := by rw [Nat.pow_add]; omega
    exact (Nat.pow_le_pow_iff_right (by omega)).mp this
  let fresh : Slots := ⟨Array.replicate (8 * 2 ^ j) Option.none, 0⟩
  have hfresh_entries : fresh.entries = [] := by simp [fresh, entries]
  obtain ⟨h1, h2, h3, h4⟩ := foldl_insertClean fresh t.entries ⟨j + 3, hj, by simp [fresh, Nat.pow_add]; ring⟩
    (by simp [hfresh_entries, fresh]) (by simp [fresh]; omega)
  have hres : t.resize used = t.entries.foldl (fun acc e => acc.insertClean e.1 e.2) fresh := by
    simp only [resize, heq, fresh]
  rw [hres]
  refine ⟨⟨⟨j + 3, hj, by rw [h1]; simp [fresh, Nat.pow_add]; ring⟩, h3, ?_⟩, by simpa [hfresh_entries] using h4⟩
  rw [h2, h1]
  simp [fresh]
  omega

theorem mem_entries_of_getD {t : Slots} {j : Nat} {e : Value × UInt64}
    (h : t.slots.getD j Option.none = some e) : e ∈ t.entries := by
  have hj : j < t.slots.size := by
    by_contra hj
    simp [Array.getD_eq_getD_getElem?, Array.getElem?_eq_none (Nat.le_of_not_lt hj)] at h
  rw [Array.getD_eq_getD_getElem?, Array.getElem?_eq_getElem hj] at h
  simp only [Option.getD_some] at h
  refine List.mem_filterMap.mpr ⟨some e, ?_, rfl⟩
  rw [← h]
  exact Array.getElem_mem_toList hj

/-- Adding a member equal to none of the table's keeps the table roomy and adds
one entry, growing the table when three fifths of it are taken. -/
theorem add_fresh {t : Slots} (ht : Roomy t) {x : Value}
    (hfresh : ∀ e ∈ t.entries, equals e.1 x = false) (hsmall : t.fill < 2 ^ 60) (code : UInt64) :
    Roomy (t.add x code) ∧ List.Perm (t.add x code).entries (t.entries ++ [(x, code)]) := by
  obtain ⟨k, hk, hsize⟩ := ht.pow
  obtain ⟨j, hj, hfree⟩ := exists_free (ht.fill_eq ▸ ht.fill_lt)
  have hpos : 0 < t.slots.size := hsize ▸ Nat.two_pow_pos k
  have hmask : t.mask = t.slots.size - 1 := rfl
  simp only [add]
  split
  · rename_i r hr
    obtain ⟨hrstop, hrle⟩ := probe_spec hr
    have hrlt : r < t.slots.size := by omega
    split
    · -- a taken slot stops the probe only for a member equal to `x`, and there is none
      rename_i e he
      rw [he] at hrstop
      have := hfresh e (mem_entries_of_getD he)
      simp [this] at hrstop
    · rename_i hrfree
      have hperm := entries_set_perm hrfree hrlt (x, code)
      have hlen : (⟨t.slots.set! r (some (x, code)), t.fill + 1⟩ : Slots).entries.length = t.fill + 1 := by
        rw [hperm.length_eq]; simp [ht.fill_eq]
      split_ifs with hroom
      · refine ⟨⟨⟨k, hk, by simp [hsize]⟩, hlen, ?_⟩, hperm⟩
        simp
        omega
      · obtain ⟨hroomy, hperm'⟩ := @resize_spec ⟨t.slots.set! r (some (x, code)), t.fill + 1⟩
          ((t.fill + 1) * 4) (by omega) (by omega)
        exact ⟨hroomy, hperm'.trans hperm⟩
  · rename_i hnone
    exact absurd hnone (Option.ne_none_iff_isSome.mpr
      (probe_isSome hsize hk (hsize ▸ hj) (by simp [hfree]) code))

end Slots

/-! ## Sets of distinct members -/

/-- One member added to the table of a set, as `setOrder` adds it. -/
def addMember (t : Slots) (x : Value) : Except Failure Slots :=
  match hashCode x with
  | .ok h => .ok (t.add x (toWord h))
  | .error name => .error (unhashableFailure name)

theorem setOrder_eq (items : List Value) :
    setOrder items = items.foldlM addMember Slots.empty >>= fun t => pure (t.entries.map (·.1)) :=
  rfl

theorem foldlM_addMember :
    ∀ (l done : List Value) (t : Slots), t.Roomy → List.Perm (t.entries.map (·.1)) done →
      (done ++ l).Pairwise (fun a b => equals a b = false) → (∀ x ∈ l, ∃ h, hashCode x = .ok h) →
      done.length + l.length < 2 ^ 60 →
      ∃ t', l.foldlM addMember t = .ok t' ∧ t'.Roomy ∧ List.Perm (t'.entries.map (·.1)) (done ++ l)
  | [], _, t, ht, hperm, _, _, _ => ⟨t, rfl, ht, by simpa using hperm⟩
  | x :: l, done, t, ht, hperm, hdistinct, hhash, hlen => by
    obtain ⟨h, hx⟩ := hhash x (by simp)
    have hfresh : ∀ e ∈ t.entries, equals e.1 x = false := fun e he =>
      (List.pairwise_append.mp hdistinct).2.2 e.1 (hperm.subset (List.mem_map_of_mem he)) x (by simp)
    have hfill : t.fill < 2 ^ 60 := by
      have := hperm.length_eq
      simp only [List.length_map, ht.fill_eq] at this
      simp at hlen
      omega
    obtain ⟨ht', hperm'⟩ := Slots.add_fresh ht hfresh hfill (toWord h)
    have hstep : addMember t x = .ok (t.add x (toWord h)) := by simp [addMember, hx]
    have hperm_next : List.Perm ((t.add x (toWord h)).entries.map (·.1)) (done ++ [x]) := by
      have := hperm'.map (fun e : Value × UInt64 => e.1)
      rw [List.map_append] at this
      exact this.trans (hperm.append_right [x])
    obtain ⟨t'', hfold, ht'', hperm''⟩ := foldlM_addMember l (done ++ [x]) _ ht' hperm_next
      (by simpa using hdistinct) (fun y hy => hhash y (by simp [hy])) (by simp at hlen ⊢; omega)
    refine ⟨t'', ?_, ht'', by simpa using hperm''⟩
    simp only [List.foldlM_cons, hstep]
    exact hfold

/-- A set built from distinct hashable members holds each of them once: its
members are a permutation of the values added. -/
theorem setOrder_perm {items : List Value} (hhash : ∀ x ∈ items, ∃ h, hashCode x = .ok h)
    (hdistinct : items.Pairwise (fun a b => equals a b = false)) (hlen : items.length < 2 ^ 60) :
    ∃ zs, setOrder items = .ok zs ∧ List.Perm zs items := by
  obtain ⟨t, hfold, -, hperm⟩ := foldlM_addMember items [] Slots.empty Slots.roomy_empty
    (by simp [Slots.empty, Slots.entries]) (by simpa using hdistinct) hhash (by simpa using hlen)
  refine ⟨t.entries.map (·.1), ?_, by simpa using hperm⟩
  rw [setOrder_eq, hfold]
  rfl

end Basis.Value
