import Mathlib.Data.List.Perm.Basic
import Mathlib.Data.List.Nodup
import Basis.Foreign.Extension.TypeTable

/-!
# Types equal as values

A generated module's type table holds one slot per type *as a value*: two
types that differ only in their markers (the spellings they were built with)
or in the qualifiers of a pointer spelled by a type definition's name share a
slot. `CType.sameValue` decides this, and every lookup of the table
(`memberOf`, `TypeTable.slotOf?`) goes through it.

`CType.erase` forgets exactly what `sameValue` ignores, and
`sameValue_eq_true_iff` says two types are the same value when their erasures
are equal. So a lookup is a question about erasures: `memberOf_iff` for the
types collected, `slotOf?_eq_of_mem` for the slots, where the erasures of the
entries are pairwise distinct.
-/

namespace Basis.Foreign

namespace CType

mutual
/-- A type without its markers, and without the qualifiers of a pointer
spelled by a type definition's name. -/
def erase : CType → CType
  | .void => .void
  | .primitive n => .primitive n
  | .unknownInteger n => .unknownInteger n
  | .unknownFloat n => .unknownFloat n
  | .function p args r e abi _ => .function p (eraseList args) (erase r) e abi ""
  | .pointer t q _ => .pointer (erase t) q ""
  | .namedPointer t n _ => .namedPointer (erase t) n 0
  | .array t l _ => .array (erase t) l ""
  | .tagged id => .tagged id

/-- Each type of a list without its markers. -/
def eraseList : List CType → List CType
  | [] => []
  | t :: ts => erase t :: eraseList ts
end

mutual
/-- Two types are the same value exactly when their erasures are equal. -/
theorem sameValue_eq_true_iff : (a b : CType) → a.sameValue b = true ↔ a.erase = b.erase
  | .function p as r e abi _, b => by
    cases b with
    | function q bs s f abi' _ =>
      simp [sameValue, erase, sameList_eq_true_iff as bs, sameValue_eq_true_iff r s, and_assoc]
    | _ => simp [sameValue, erase]
  | .pointer a q _, b => by
    cases b with
    | pointer b r _ => simp [sameValue, erase, sameValue_eq_true_iff a b]
    | _ => simp [sameValue, erase]
  | .namedPointer a n _, b => by
    cases b with
    | namedPointer b m _ => simp [sameValue, erase, sameValue_eq_true_iff a b]
    | _ => simp [sameValue, erase]
  | .array a l _, b => by
    cases b with
    | array b m _ => simp [sameValue, erase, sameValue_eq_true_iff a b]
    | _ => simp [sameValue, erase]
  | .void, b | .primitive _, b | .unknownInteger _, b | .unknownFloat _, b | .tagged _, b => by
    cases b <;> simp [sameValue, erase]

/-- Two lists of types are the same values exactly when their erasures are equal. -/
theorem sameList_eq_true_iff :
    (as bs : List CType) → sameValue.sameList as bs = true ↔ eraseList as = eraseList bs
  | [], [] => by simp [sameValue.sameList, eraseList]
  | a :: as, b :: bs => by
    simp [sameValue.sameList, eraseList, sameValue_eq_true_iff a b, sameList_eq_true_iff as bs]
  | [], _ :: _ | _ :: _, [] => by simp [sameValue.sameList, eraseList]
end

theorem eraseList_eq_map : (ts : List CType) → eraseList ts = ts.map erase
  | [] => rfl
  | t :: ts => by rw [eraseList, eraseList_eq_map ts, List.map_cons]

/-- The arguments of a function type, none for any other type. -/
def runArgs : CType → List CType
  | .function false args .. => args
  | _ => []

@[simp] theorem isRawFunction_erase (t : CType) : t.erase.isRawFunction = t.isRawFunction := by
  cases t with
  | function p args r e abi m => cases p <;> rfl
  | _ => rfl

end CType

/-! ## Lookups -/

section Lookups

variable {t : CType} {ts : List CType}

theorem memberOf_iff : memberOf t ts = true ↔ ∃ x ∈ ts, x.erase = t.erase := by
  simp only [memberOf, List.any_eq_true, CType.sameValue_eq_true_iff]
  exact ⟨fun ⟨x, hx, h⟩ => ⟨x, hx, h.symm⟩, fun ⟨x, hx, h⟩ => ⟨x, hx, h.symm⟩⟩

theorem memberOf_of_mem (h : t ∈ ts) : memberOf t ts = true :=
  memberOf_iff.mpr ⟨t, h, rfl⟩

theorem memberOf_append_of_left {us : List CType} (h : memberOf t ts = true) :
    memberOf t (ts ++ us) = true := by
  obtain ⟨x, hx, he⟩ := memberOf_iff.mp h
  exact memberOf_iff.mpr ⟨x, List.mem_append_left us hx, he⟩

theorem memberOf_perm {us : List CType} (h : ts.Perm us) : memberOf t ts = memberOf t us := by
  rw [Bool.eq_iff_iff, memberOf_iff, memberOf_iff]
  simp only [h.mem_iff]

theorem memberOf_eq_false_iff : memberOf t ts = false ↔ ∀ x ∈ ts, x.erase ≠ t.erase := by
  rw [← Bool.not_eq_true, memberOf_iff]
  simp

end Lookups

/-- Types pairwise different as values. -/
def Apart (ts : List CType) : Prop := ts.Pairwise fun a b => a.erase ≠ b.erase

theorem Apart.perm {ts us : List CType} (h : ts.Perm us) (ha : Apart ts) : Apart us :=
  (List.Perm.pairwise_iff (fun hne heq => hne heq.symm) h).mp ha

/-- Among types apart as values, one value is one type. -/
theorem Apart.eq_of_erase_eq {a b : CType} : ∀ {ts : List CType}, Apart ts → a ∈ ts → b ∈ ts →
    a.erase = b.erase → a = b
  | [], _, ha, _, _ => absurd ha List.not_mem_nil
  | _ :: _, h, ha, hb, he => by
    rw [Apart, List.pairwise_cons] at h
    rcases List.mem_cons.mp ha with rfl | ha' <;> rcases List.mem_cons.mp hb with rfl | hb'
    · rfl
    · exact absurd he (h.1 b hb')
    · exact absurd he.symm (h.1 a ha')
    · exact Apart.eq_of_erase_eq h.2 ha' hb' he

/-- The first slot of a type is the one of the entry holding the same value,
when the entries are pairwise different values. -/
theorem TypeTable.slotOf?_eq_of_mem {tt : TypeTable} {t y : CType} {k : Nat}
    (hnodup : (tt.slots.map fun s => s.1.erase).Nodup) (hmem : (y, k) ∈ tt.slots)
    (he : y.erase = t.erase) : tt.slotOf? t = some k := by
  unfold TypeTable.slotOf?
  have hsome : (tt.slots.find? fun s => CType.sameValue s.1 t).isSome := by
    rw [List.find?_isSome]
    exact ⟨(y, k), hmem, (CType.sameValue_eq_true_iff y t).mpr he⟩
  obtain ⟨s, hs⟩ := Option.isSome_iff_exists.mp hsome
  have hsmem := List.mem_of_find?_eq_some hs
  have hp := List.find?_some hs
  have hseq : s.1.erase = t.erase := (CType.sameValue_eq_true_iff s.1 t).mp hp
  have hs' : s = (y, k) := List.inj_on_of_nodup_map hnodup hsmem hmem (hseq.trans he.symm)
  rw [hs, hs']
  rfl

end Basis.Foreign
