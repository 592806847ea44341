import Basis.Proofs.Except
import Basis.Proofs.Alike
import Basis.Proofs.TypeTable.Layout

/-!
# The opcodes of the type table

`buildTypeTable` fills a table of as many slots as the layout has: each type
writes its opcodes at their slots (`typeWrites`), one type after the other.
A later write to a slot would replace an earlier one, so what the table holds
rests on the writes of different types going to different slots.

They do. A type writes at its own slot; a function type also in its run, at
the slots of the arguments whose own slot is elsewhere, and at the closing
slot; an array with a length also at the slot after it. None of the slots
past a type's own is the own slot of any type (`typeWrites_footprint`), and
two types with writes past their own slots are never nested, since an argument
is not a function type or an array. So a slot is written by one type only
(`eq_of_writes`), and it holds what that type wrote there (`ops_of_write`).
Every slot is written (`exists_write`): the layout has no slot that is not a
type's own, in a run or a length slot.
-/

namespace Basis.Foreign

open CType
open Value (exists_mem_left_of_forall₂ exists_mem_right_of_forall₂)

/-! ## Writes -/

/-- Writes opcodes at their slots, in order. -/
def applyWrites (ops : Array Opcode) (ws : List (Nat × Opcode)) : Array Opcode :=
  ws.foldl (fun ops w => ops.set! w.1 w.2) ops

@[simp] theorem size_applyWrites : ∀ (ops : Array Opcode) (ws : List (Nat × Opcode)),
    (applyWrites ops ws).size = ops.size
  | _, [] => rfl
  | ops, w :: ws => by
    rw [applyWrites, List.foldl_cons, ← applyWrites, size_applyWrites]
    simp

/-- A slot no write goes to keeps its opcode. -/
theorem getElem?_applyWrites_of_forall_ne {k : Nat} :
    ∀ (ops : Array Opcode) (ws : List (Nat × Opcode)), (∀ w ∈ ws, w.1 ≠ k) →
      (applyWrites ops ws)[k]? = ops[k]?
  | _, [], _ => rfl
  | ops, w :: ws, h => by
    rw [applyWrites, List.foldl_cons, ← applyWrites,
      getElem?_applyWrites_of_forall_ne _ ws fun w' hw' => h w' (by simp [hw'])]
    simp only [Array.set!_eq_setIfInBounds]
    exact Array.getElem?_setIfInBounds_ne (h w (by simp))

/-- A slot holds what was written there, when every write to it writes the same. -/
theorem getElem?_applyWrites {k : Nat} {op : Opcode} :
    ∀ (ops : Array Opcode) (ws : List (Nat × Opcode)), k < ops.size → (k, op) ∈ ws →
      (∀ op', (k, op') ∈ ws → op' = op) → (applyWrites ops ws)[k]? = some op
  | _, [], _, hmem, _ => absurd hmem List.not_mem_nil
  | ops, w :: ws, hk, hmem, huniq => by
    rw [applyWrites, List.foldl_cons, ← applyWrites]
    by_cases hlater : (k, op) ∈ ws
    · exact getElem?_applyWrites _ ws (by simpa using hk) hlater
        fun op' h' => huniq op' (List.mem_cons_of_mem _ h')
    · have hw : w = (k, op) := by
        rcases List.mem_cons.mp hmem with h | h
        · exact h.symm
        · exact absurd h hlater
      -- no later write goes to the slot: it would write the same, and that write is not there
      have hne : ∀ w' ∈ ws, w'.1 ≠ k := by
        rintro ⟨k', op'⟩ hw' rfl
        exact hlater (huniq op' (List.mem_cons_of_mem _ hw') ▸ hw')
      rw [getElem?_applyWrites_of_forall_ne _ ws hne, hw]
      simp [Array.set!_eq_setIfInBounds, hk]

theorem emitType_eq_ok {p : Plan} {tt : TypeTable} {init ops : Array Opcode} {t : CType}
    (h : emitType p tt init t = .ok ops) : ∃ ws, typeWrites p tt t = .ok ws ∧ ops = applyWrites init ws := by
  obtain ⟨ws, hws, h⟩ := bind_eq_ok h
  cases h
  exact ⟨ws, hws, rfl⟩

/-- Emitting the types one after the other is making all their writes. -/
theorem foldlM_emitType_eq_ok {p : Plan} {tt : TypeTable} :
    ∀ {T : List CType} {init ops : Array Opcode}, T.foldlM (emitType p tt) init = .ok ops →
      ∃ W, List.Forall₂ (fun t ws => typeWrites p tt t = .ok ws) T W ∧ ops = applyWrites init W.flatten
  | [], _, _, h => by
    cases h
    exact ⟨[], .nil, rfl⟩
  | t :: T, init, ops, h => by
    rw [List.foldlM_cons] at h
    obtain ⟨mid, hmid, h⟩ := bind_eq_ok h
    obtain ⟨ws, hws, rfl⟩ := emitType_eq_ok hmid
    obtain ⟨W, hW, rfl⟩ := foldlM_emitType_eq_ok h
    exact ⟨ws :: W, .cons hws hW, by simp [applyWrites, List.foldl_append]⟩

/-! ## Slots -/

theorem TypeTable.slot_eq_ok_iff {p : Plan} {tt : TypeTable} {t : CType} {i : Nat} :
    tt.slot p t = .ok i ↔ tt.slotOf? t = some i := by
  unfold TypeTable.slot
  split <;> simp_all [pure, Except.pure]

/-- The slot of a type is the one of an entry holding the same value. -/
theorem TypeTable.exists_entry_of_slotOf? {tt : TypeTable} {t : CType} {i : Nat}
    (h : tt.slotOf? t = some i) : ∃ y, (y, i) ∈ tt.slots ∧ y.erase = t.erase := by
  unfold TypeTable.slotOf? at h
  obtain ⟨⟨y, k⟩, hs, rfl⟩ := Option.map_eq_some_iff.mp h
  have hp := List.find?_some hs
  exact ⟨y, List.mem_of_find?_eq_some hs, (CType.sameValue_eq_true_iff y t).mp hp⟩

theorem TypeTable.slotOf?_congr {tt : TypeTable} {a b : CType} (h : a.erase = b.erase) :
    tt.slotOf? a = tt.slotOf? b := by
  unfold TypeTable.slotOf?
  congr 2
  funext s
  rw [Bool.eq_iff_iff, CType.sameValue_eq_true_iff, CType.sameValue_eq_true_iff, h]

/-! ## The writes of one type -/

/-- The opcode a type writes when it writes its own slot only: `void` or a
primitive, by its index or the C expression working it out; a pointer or an
open array, to the slot of what it refers to; a tag, by its position among the
enums or among the structs and unions. -/
inductive WritesOne (p : Plan) (tt : TypeTable) : CType → Opcode → Prop
  | void : WritesOne p tt .void (Opcode.of .primitive 0)
  | primitive {n : String} : WritesOne p tt (.primitive n) (primitiveOp n)
  | unknownInteger {n : String} :
      WritesOne p tt (.unknownInteger n) ⟨some .primitive, .expr (unknownIntegerIndex n)⟩
  | unknownFloat {n : String} :
      WritesOne p tt (.unknownFloat n) ⟨some .primitive, .expr (unknownFloatIndex n)⟩
  | functionPointer {args : List CType} {r : CType} {e : Bool} {abi : Option String} {m : String}
      {j : Nat} : tt.slotOf? (p.rawFunction (.function true args r e abi m)) = some j →
      WritesOne p tt (.function true args r e abi m) (Opcode.of .pointer j)
  | pointer {target : CType} {q : Nat} {m : String} {j : Nat} : tt.slotOf? target = some j →
      WritesOne p tt (.pointer target q m) (Opcode.of .pointer j)
  | namedPointer {target : CType} {n : String} {q : Nat} {j : Nat} : tt.slotOf? target = some j →
      WritesOne p tt (.namedPointer target n q) (Opcode.of .pointer j)
  | openArray {item : CType} {m : String} {j : Nat} : tt.slotOf? item = some j →
      WritesOne p tt (.array item .open m) (Opcode.of .openArray j)
  | enum {id : Nat} : p.isEnum (.tagged id) = true →
      WritesOne p tt (.tagged id) (Opcode.of .enum ((tt.enums.lookup id).getD 0))
  | record {id : Nat} : p.isEnum (.tagged id) = false →
      WritesOne p tt (.tagged id) (Opcode.of .structUnion ((tt.records.lookup id).getD 0))

section Inversion

variable {p : Plan} {tt : TypeTable}

/-- The writes of a run's arguments: each argument has a slot, and an argument
whose slot is not its place in the run gets a write there, its only one. -/
theorem argumentWrites_eq_ok : ∀ {as : List CType} {s : Nat} {aws : List (Nat × Opcode)},
    argumentWrites p tt as s = .ok aws →
      (∀ j (hj : j < as.length), ∃ real, tt.slotOf? as[j] = some real ∧
        (real = s + j ∨ (s + j, argumentOp as[j] real) ∈ aws)) ∧
      (∀ w ∈ aws, ∃ j, ∃ hj : j < as.length, w.1 = s + j ∧ ∃ real, tt.slotOf? as[j] = some real ∧
        real ≠ s + j ∧ w.2 = argumentOp as[j] real) ∧
      (aws.map (·.1)).Nodup
  | [], _, aws, h => by
    cases h
    simp
  | a :: as, s, aws, h => by
    simp only [argumentWrites, bind, Except.bind, pure, Except.pure] at h
    split at h
    · cases h
    rename_i real hreal
    split at h
    · cases h
    rename_i rest hrest
    injection h with h
    subst h
    obtain ⟨hall, hfrom, hnodup⟩ := argumentWrites_eq_ok hrest
    have hreal' := TypeTable.slot_eq_ok_iff.mp hreal
    have hmono : ∀ w ∈ rest, w.1 ≠ s := by
      intro w hw
      obtain ⟨j, -, hj, -⟩ := hfrom w hw
      omega
    refine ⟨fun j hj => ?_, fun w hw => ?_, ?_⟩
    · cases j with
      | zero =>
        refine ⟨real, hreal', ?_⟩
        by_cases hs : s = real
        · exact .inl (by simp [hs])
        · exact .inr (by simp [hs])
      | succ j =>
        obtain ⟨r, hr, hor⟩ := hall j (by simpa using hj)
        refine ⟨r, hr, ?_⟩
        rw [show s + (j + 1) = s + 1 + j by omega]
        rcases hor with hor | hor
        · exact .inl hor
        · exact .inr (by split <;> simp [hor])
    · have hrest' : w ∈ rest → ∃ j, ∃ hj : j < (a :: as).length, w.1 = s + j ∧
          ∃ real, tt.slotOf? (a :: as)[j] = some real ∧ real ≠ s + j ∧ w.2 = argumentOp (a :: as)[j] real := by
        intro hw
        obtain ⟨j, hj, hk, r, hr, hne, hop⟩ := hfrom w hw
        exact ⟨j + 1, by simpa using hj, by omega, r, hr, by omega, hop⟩
      split at hw
      · exact hrest' hw
      next hne =>
        rcases List.mem_cons.mp hw with rfl | hw
        · exact ⟨0, by simp, rfl, real, hreal', fun he => hne (by simp [he]), rfl⟩
        · exact hrest' hw
    · split
      · exact hnodup
      · exact List.nodup_cons.mpr ⟨fun hs => by
          obtain ⟨w, hw, hws⟩ := List.mem_map.mp hs
          exact hmono w hw hws, hnodup⟩

/-- The writes of a function type: the function at its slot, the arguments'
writes, and the closing slot with the flags. -/
theorem typeWrites_function_eq_ok {args : List CType} {r : CType} {e : Bool} {abi : Option String}
    {m : String} {ws : List (Nat × Opcode)} (h : typeWrites p tt (.function false args r e abi m) = .ok ws) :
    ∃ i ri aws flags, tt.slotOf? (.function false args r e abi m) = some i ∧ tt.slotOf? r = some ri ∧
      argumentWrites p tt args (i + 1) = .ok aws ∧ functionFlags e abi = .ok flags ∧
      ws = (i, Opcode.of .function ri) :: aws ++ [(i + 1 + args.length, Opcode.of .functionEnd flags)] := by
  simp only [typeWrites, bind, Except.bind, pure, Except.pure] at h
  split at h
  · cases h
  rename_i i hi
  split at h
  · cases h
  rename_i ri hri
  split at h
  · cases h
  rename_i aws haws
  split at h
  · cases h
  rename_i flags hflags
  injection h with h
  exact ⟨i, ri, aws, flags, TypeTable.slot_eq_ok_iff.mp hi, TypeTable.slot_eq_ok_iff.mp hri, haws,
    hflags, h.symm⟩

/-- The writes of an array: at its slot, and for a length at the slot after it. -/
theorem typeWrites_array_eq_ok {item : CType} {l : ArrayLength} {m : String}
    {ws : List (Nat × Opcode)} (h : typeWrites p tt (.array item l m) = .ok ws) :
    ∃ i si, tt.slotOf? (.array item l m) = some i ∧ tt.slotOf? item = some si ∧ l ≠ .deferred ∧
      ws = if l = .open then [(i, Opcode.of .openArray si)]
        else [(i, Opcode.of .array si), (i + 1, ⟨none, .expr (lengthText l)⟩)] := by
  simp only [typeWrites, bind, Except.bind, pure, Except.pure] at h
  split at h
  · cases h
  rename_i i hi
  split at h
  · cases h
  rename_i si hsi
  refine ⟨i, si, TypeTable.slot_eq_ok_iff.mp hi, TypeTable.slot_eq_ok_iff.mp hsi, ?_⟩
  cases l with
  | «open» => cases h; simp
  | deferred => cases h
  | fixed n => cases h; simp
  | measured e => cases h; simp

/-- The three shapes of a type's writes: a function type writes its run from its
slot up to its closing slot, an array with a length its slot and the length
after it, and every other type one opcode at its slot. -/
theorem typeWrites_cases {t : CType} {ws : List (Nat × Opcode)} (h : typeWrites p tt t = .ok ws) :
    (∃ args r e abi m i ri aws flags, t = .function false args r e abi m ∧ tt.slotOf? t = some i ∧
      tt.slotOf? r = some ri ∧ argumentWrites p tt args (i + 1) = .ok aws ∧
      functionFlags e abi = .ok flags ∧
      ws = (i, Opcode.of .function ri) :: aws ++ [(i + 1 + args.length, Opcode.of .functionEnd flags)]) ∨
    (∃ item l m i si, t = .array item l m ∧ l ≠ .open ∧ tt.slotOf? t = some i ∧
      tt.slotOf? item = some si ∧ ws = [(i, Opcode.of .array si), (i + 1, ⟨none, .expr (lengthText l)⟩)]) ∨
    (∃ i op, tt.slotOf? t = some i ∧ ws = [(i, op)] ∧ WritesOne p tt t op) := by
  obtain ⟨i, hi, hrest⟩ := bind_eq_ok h
  have hi' := TypeTable.slot_eq_ok_iff.mp hi
  -- every kind but a function type and an array with a length ends here
  have hone : ∀ {op : Opcode}, WritesOne p tt t op → ws = [(i, op)] →
      (∃ i op, tt.slotOf? t = some i ∧ ws = [(i, op)] ∧ WritesOne p tt t op) :=
    fun hop hws => ⟨i, _, hi', hws, hop⟩
  cases t with
  | void => cases hrest; exact .inr (.inr (hone .void rfl))
  | primitive n => cases hrest; exact .inr (.inr (hone .primitive rfl))
  | unknownInteger n => cases hrest; exact .inr (.inr (hone .unknownInteger rfl))
  | unknownFloat n => cases hrest; exact .inr (.inr (hone .unknownFloat rfl))
  | function q args r e abi m =>
    cases q with
    | false =>
      obtain ⟨i, ri, aws, flags, hi, hri, haws, hflags, rfl⟩ := typeWrites_function_eq_ok h
      exact .inl ⟨args, r, e, abi, m, i, ri, aws, flags, rfl, hi, hri, haws, hflags, rfl⟩
    | true =>
      obtain ⟨j, hj, hws⟩ := bind_eq_ok hrest
      cases hws
      exact .inr (.inr (hone (.functionPointer (TypeTable.slot_eq_ok_iff.mp hj)) rfl))
  | pointer target q m =>
    obtain ⟨j, hj, hws⟩ := bind_eq_ok hrest
    cases hws
    exact .inr (.inr (hone (.pointer (TypeTable.slot_eq_ok_iff.mp hj)) rfl))
  | namedPointer target n q =>
    obtain ⟨j, hj, hws⟩ := bind_eq_ok hrest
    cases hws
    exact .inr (.inr (hone (.namedPointer (TypeTable.slot_eq_ok_iff.mp hj)) rfl))
  | array item l m =>
    obtain ⟨i, si, hi, hsi, -, rfl⟩ := typeWrites_array_eq_ok h
    by_cases hl : l = .open
    · subst hl
      exact .inr (.inr ⟨i, _, hi, if_pos rfl, .openArray hsi⟩)
    · exact .inr (.inl ⟨item, l, m, i, si, rfl, hl, hi, hsi, if_neg hl⟩)
  | tagged id =>
    dsimp only at hrest
    split at hrest
    · next hen =>
      cases hrest
      exact .inr (.inr (hone (.enum hen) rfl))
    · next hen =>
      cases hrest
      exact .inr (.inr (hone (.record (by simpa using hen)) rfl))

/-- A type with its opcodes has a slot, and writes there. -/
theorem typeWrites_head {t : CType} {ws : List (Nat × Opcode)} (h : typeWrites p tt t = .ok ws) :
    ∃ i op, tt.slotOf? t = some i ∧ (i, op) ∈ ws := by
  rcases typeWrites_cases h with ⟨-, -, -, -, -, i, ri, -, -, -, hi, -, -, -, rfl⟩ |
      ⟨-, -, -, i, si, -, -, hi, -, rfl⟩ | ⟨i, op, hi, rfl, -⟩
  · exact ⟨i, Opcode.of .function ri, hi, by simp⟩
  · exact ⟨i, Opcode.of .array si, hi, by simp⟩
  · exact ⟨i, op, hi, by simp⟩

/-- A type writes each slot at most once. -/
theorem typeWrites_nodup {t : CType} {ws : List (Nat × Opcode)} (h : typeWrites p tt t = .ok ws) :
    (ws.map (·.1)).Nodup := by
  rcases typeWrites_cases h with ⟨args, -, -, -, -, i, -, aws, -, -, -, -, haws, -, rfl⟩ |
      ⟨-, -, -, i, -, -, -, -, -, rfl⟩ | ⟨i, op, -, rfl, -⟩
  · obtain ⟨-, hfrom, hnodup⟩ := argumentWrites_eq_ok haws
    -- the arguments' writes lie strictly between the function's slot and its closing slot
    have hinside : ∀ w ∈ aws, i < w.1 ∧ w.1 < i + 1 + args.length := by
      intro w hw
      obtain ⟨j, hj, hk, -⟩ := hfrom w hw
      omega
    simp only [List.cons_append, List.map_cons, List.map_append, List.map_nil]
    refine List.nodup_cons.mpr ⟨?_, ?_⟩
    · simp only [List.mem_append, List.mem_map, List.mem_singleton, not_or, not_exists, not_and]
      exact ⟨fun w hw hwi => by have := hinside w hw; omega, by omega⟩
    · refine List.nodup_append.mpr ⟨hnodup, List.nodup_singleton _, ?_⟩
      simp only [List.mem_map, List.mem_singleton]
      rintro _ ⟨w, hw, rfl⟩ _ rfl
      have := hinside w hw
      omega
  · simp
  · simp

end Inversion

/-! ## The writes of an accepted table -/

section Accepted

variable {p : Plan} {tt : TypeTable} (h : buildTypeTable p = .ok tt)
include h

theorem slots_eq_layoutCells : tt.slots = (layoutCells tt.types).2 := by
  obtain ⟨-, -, -, -, hslots, -⟩ := buildTypeTable_eq_ok h
  exact hslots

/-- The entries of an accepted table are pairwise different values. -/
theorem slots_nodup : (tt.slots.map fun s => s.1.erase).Nodup := by
  rw [slots_eq_layoutCells h]
  exact (buildTypeTable_laid h).entries.apart

/-- A slot of an accepted table holds a type of the table with the value looked up. -/
theorem cell_of_slotOf? {t : CType} {i : Nat} (hi : tt.slotOf? t = some i) :
    ∃ y, (y, i) ∈ tt.slots ∧ (layoutCells tt.types).1[i]? = some (.type y) ∧ y.erase = t.erase ∧
      ∃ z ∈ tt.types, z.erase = t.erase := by
  obtain ⟨y, hy, he⟩ := TypeTable.exists_entry_of_slotOf? hi
  have laid := buildTypeTable_laid h
  rw [slots_eq_layoutCells h] at hy
  obtain ⟨z, hz, hze⟩ := memberOf_iff.mp (laid.entries.member y i hy)
  exact ⟨y, by rw [slots_eq_layoutCells h]; exact hy, laid.entries.cell y i hy, he, z, hz, hze.trans he⟩

/-- Every value among the types of an accepted table has a slot. -/
theorem exists_slotOf? {t : CType} (ht : memberOf t tt.types = true) : ∃ i, tt.slotOf? t = some i := by
  have laid := buildTypeTable_laid h
  obtain ⟨x, hx, hxe⟩ := memberOf_iff.mp ht
  obtain ⟨y, hy, hye⟩ := memberOf_iff.mp (laid.member x hx)
  obtain ⟨⟨y, i⟩, hyi, rfl⟩ := List.mem_map.mp hy
  refine ⟨i, TypeTable.slotOf?_eq_of_mem (slots_nodup h) ?_ (hye.trans hxe)⟩
  rw [slots_eq_layoutCells h]
  exact hyi

/-- Two types of an accepted table with one slot are one type. -/
theorem eq_of_slotOf? {z₁ z₂ : CType} {i : Nat} (hz₁ : z₁ ∈ tt.types) (hz₂ : z₂ ∈ tt.types)
    (h₁ : tt.slotOf? z₁ = some i) (h₂ : tt.slotOf? z₂ = some i) : z₁ = z₂ := by
  obtain ⟨y₁, -, hc₁, he₁, -⟩ := cell_of_slotOf? h h₁
  obtain ⟨y₂, -, hc₂, he₂, -⟩ := cell_of_slotOf? h h₂
  have hy : y₁ = y₂ := by
    rw [hc₁] at hc₂
    injection hc₂ with hc₂
    injection hc₂
  exact (types_apart h).eq_of_erase_eq hz₁ hz₂ (by rw [← he₁, ← he₂, hy])

/-- The run of a function type of an accepted table starts at its slot. -/
theorem runAt_of_slotOf? {f : CType} {i : Nat} (hf : f ∈ tt.types) (hraw : f.isRawFunction = true)
    (hi : tt.slotOf? f = some i) : RunAt (layoutCells tt.types).1 i f.runArgs := by
  obtain ⟨i', hentry, hrun⟩ := (buildTypeTable_laid h).run f hf hraw
  have hi' : tt.slotOf? f = some i' :=
    TypeTable.slotOf?_eq_of_mem (slots_nodup h) (by rw [slots_eq_layoutCells h]; exact hentry) rfl
  rw [hi] at hi'
  cases hi'
  exact hrun

/-- An array with a length in an accepted table has its length slot after its own. -/
theorem length_of_slotOf? {t : CType} {i : Nat} (hsized : t.isSizedArray = true)
    (hi : tt.slotOf? t = some i) : (layoutCells tt.types).1[i + 1]? = some .length := by
  obtain ⟨y, hy, -, he, -⟩ := cell_of_slotOf? h hi
  rw [slots_eq_layoutCells h] at hy
  exact (buildTypeTable_laid h).length y i hy (by rw [← isSizedArray_erase, he, isSizedArray_erase, hsized])

theorem types_fit : argumentsFit tt.types = true := by
  obtain ⟨-, -, -, hfit, -⟩ := buildTypeTable_eq_ok h
  exact hfit

/-- The table is all the writes of the types, made one after the other. -/
theorem ops_eq_applyWrites : ∃ W, List.Forall₂ (fun t ws => typeWrites p tt t = .ok ws) tt.types W ∧
    tt.ops = applyWrites (Array.replicate (layoutCells tt.types).1.size default) W.flatten := by
  obtain ⟨-, -, -, -, -, -, -, hops⟩ := buildTypeTable_eq_ok h
  exact foldlM_emitType_eq_ok hops

theorem size_ops : tt.ops.size = (layoutCells tt.types).1.size := by
  obtain ⟨W, -, hops⟩ := ops_eq_applyWrites h
  rw [hops, size_applyWrites, Array.size_replicate]

/-- Every type of an accepted table has its writes. -/
theorem typeWrites_ok {z : CType} (hz : z ∈ tt.types) : ∃ ws, typeWrites p tt z = .ok ws := by
  obtain ⟨W, hW, -⟩ := ops_eq_applyWrites h
  obtain ⟨ws, -, hws⟩ := exists_mem_right_of_forall₂ hW hz
  exact ⟨ws, hws⟩

theorem cell_of_entry {y : CType} {k : Nat} (hy : (y, k) ∈ tt.slots) :
    (layoutCells tt.types).1[k]? = some (.type y) := by
  rw [slots_eq_layoutCells h] at hy
  exact (buildTypeTable_laid h).entries.cell y k hy

/-- A slot of a type holds the writes of the type of the table of that value. -/
theorem write_at_slot {t : CType} {k : Nat} (hk : tt.slotOf? t = some k) :
    ∃ z ∈ tt.types, z.erase = t.erase ∧ ∃ ws, typeWrites p tt z = .ok ws ∧ ∃ op, (k, op) ∈ ws := by
  obtain ⟨-, -, -, -, z, hz, hze⟩ := cell_of_slotOf? h hk
  obtain ⟨ws, hws⟩ := typeWrites_ok h hz
  obtain ⟨i, op, hi, hmem⟩ := typeWrites_head hws
  rw [TypeTable.slotOf?_congr hze, hk] at hi
  cases hi
  exact ⟨z, hz, hze, ws, hws, op, hmem⟩

/-- Where a type of an accepted table writes: at its slot, or past it at a slot
that is no type's own, in its run or at its length slot. -/
theorem typeWrites_footprint {z : CType} {ws : List (Nat × Opcode)} {i k : Nat} {op : Opcode}
    (hz : z ∈ tt.types) (hw : typeWrites p tt z = .ok ws) (hi : tt.slotOf? z = some i)
    (hk : (k, op) ∈ ws) :
    k = i ∨ (i < k ∧ (∀ y, (y, k) ∉ tt.slots) ∧
      ((z.isRawFunction = true ∧ k ≤ i + 1 + z.runArgs.length) ∨ (z.isSizedArray = true ∧ k = i + 1))) := by
  -- a slot holding a cell other than a type is no type's own
  have hother : ∀ c, (layoutCells tt.types).1[k]? = some c → (∀ y, c ≠ .type y) → ∀ y, (y, k) ∉ tt.slots :=
    fun c hc hne y hy => hne y (by rw [cell_of_entry h hy] at hc; injection hc with hc; exact hc.symm)
  rcases typeWrites_cases hw with ⟨args, r, e, abi, m, i', ri, aws, flags, rfl, hi', -, haws, -, rfl⟩ |
      ⟨item, l, m, i', si, rfl, hl, hi', -, rfl⟩ | ⟨i', op', hi', rfl, -⟩ <;>
    rw [hi] at hi' <;> cases hi'
  · have hrun := runAt_of_slotOf? h hz rfl hi
    simp only [runArgs] at hrun
    rw [List.cons_append, List.mem_cons, List.mem_append, List.mem_singleton] at hk
    rcases hk with hk | hk | hk
    · exact .inl (Prod.mk.inj hk).1
    · obtain ⟨-, hfrom, -⟩ := argumentWrites_eq_ok haws
      obtain ⟨j, hj, rfl, real, hreal, hne, -⟩ := hfrom _ hk
      refine .inr ⟨by omega, fun y hy => ?_, .inl ⟨rfl, by simp [runArgs]; omega⟩⟩
      -- the run's slot holds the argument, so an entry there is the argument's own slot
      have hcell := hrun.1 j hj
      rw [cell_of_entry h hy] at hcell
      injection hcell with hcell
      injection hcell with hya
      rw [hya] at hy
      have := TypeTable.slotOf?_eq_of_mem (slots_nodup h) hy rfl
      rw [hreal] at this
      injection this with this
      exact hne this
    · obtain rfl := (Prod.mk.inj hk).1
      exact .inr ⟨by omega, hother _ hrun.2 (fun y => by simp), .inl ⟨rfl, by simp [runArgs]⟩⟩
  · have hsized : (CType.array item l m).isSizedArray = true := isSizedArray_array hl
    simp only [List.mem_cons, Prod.mk.injEq, List.not_mem_nil, or_false] at hk
    rcases hk with ⟨rfl, -⟩ | ⟨rfl, -⟩
    · exact .inl rfl
    · exact .inr ⟨by omega, hother _ (length_of_slotOf? h hsized hi) (fun y => by simp), .inr ⟨hsized, rfl⟩⟩
  · exact .inl (Prod.mk.inj (List.mem_singleton.mp hk)).1

/-- A type writing past its slot is not nested in the run of a type before it:
the slots of a run past its own are arguments, neither function types nor arrays. -/
theorem not_past_of_lt {z₁ z₂ : CType} {i₁ i₂ k : Nat} (hz₁ : z₁ ∈ tt.types)
    (hi₁ : tt.slotOf? z₁ = some i₁) (hi₂ : tt.slotOf? z₂ = some i₂) (hlt : i₁ < i₂) (hk : i₂ < k)
    (hpast₁ : (z₁.isRawFunction = true ∧ k ≤ i₁ + 1 + z₁.runArgs.length) ∨
      (z₁.isSizedArray = true ∧ k = i₁ + 1))
    (hpast₂ : z₂.isRawFunction = true ∨ z₂.isSizedArray = true) : False := by
  rcases hpast₁ with ⟨hraw, hk₁⟩ | ⟨-, hk₁⟩
  · obtain ⟨j, rfl⟩ : ∃ j, i₂ = i₁ + 1 + j := ⟨i₂ - (i₁ + 1), by omega⟩
    have hj : j < z₁.runArgs.length := by omega
    have hcell := (runAt_of_slotOf? h hz₁ hraw hi₁).1 j hj
    obtain ⟨y, -, hc, he, -⟩ := cell_of_slotOf? h hi₂
    rw [hc] at hcell
    injection hcell with hcell
    injection hcell with hy
    have harg := isArgument_of_runArgs (types_fit h) hz₁ (List.getElem_mem hj)
    rw [← hy] at harg
    rw [← isRawFunction_erase, ← isSizedArray_erase, ← he, isRawFunction_erase, isSizedArray_erase,
      not_isRawFunction_of_isArgument harg, isSizedArray_eq_false_of_isArgument harg] at hpast₂
    simp at hpast₂
  · omega

/-- A slot is written by one type of an accepted table only. -/
theorem eq_of_writes {z₁ z₂ : CType} {ws₁ ws₂ : List (Nat × Opcode)} {k : Nat} {op₁ op₂ : Opcode}
    (hz₁ : z₁ ∈ tt.types) (hz₂ : z₂ ∈ tt.types) (hw₁ : typeWrites p tt z₁ = .ok ws₁)
    (hw₂ : typeWrites p tt z₂ = .ok ws₂) (hk₁ : (k, op₁) ∈ ws₁) (hk₂ : (k, op₂) ∈ ws₂) : z₁ = z₂ := by
  obtain ⟨i₁, -, hi₁, -⟩ := typeWrites_head hw₁
  obtain ⟨i₂, -, hi₂, -⟩ := typeWrites_head hw₂
  -- a type's own slot is an entry's, which no write past a slot goes to
  have hown : ∀ {t : CType} {i : Nat}, tt.slotOf? t = some i → ∃ y, (y, i) ∈ tt.slots :=
    fun hi => let ⟨y, hy, _⟩ := cell_of_slotOf? h hi; ⟨y, hy⟩
  rcases typeWrites_footprint h hz₁ hw₁ hi₁ hk₁ with rfl | ⟨hlt₁, hnot₁, hp₁⟩ <;>
    rcases typeWrites_footprint h hz₂ hw₂ hi₂ hk₂ with heq | ⟨hlt₂, hnot₂, hp₂⟩
  · exact eq_of_slotOf? h hz₁ hz₂ hi₁ (heq ▸ hi₂)
  · obtain ⟨y, hy⟩ := hown hi₁
    exact absurd hy (hnot₂ y)
  · obtain ⟨y, hy⟩ := hown hi₂
    exact absurd (heq ▸ hy) (hnot₁ y)
  · rcases Nat.lt_trichotomy i₁ i₂ with hlt | rfl | hlt
    · exact (not_past_of_lt h hz₁ hi₁ hi₂ hlt hlt₂ hp₁ (hp₂.imp And.left And.left)).elim
    · exact eq_of_slotOf? h hz₁ hz₂ hi₁ hi₂
    · exact (not_past_of_lt h hz₂ hi₂ hi₁ hlt hlt₁ hp₂ (hp₁.imp And.left And.left)).elim

/-- Every write of a type lands inside the table. -/
theorem lt_size_of_write {z : CType} {ws : List (Nat × Opcode)} {k : Nat} {op : Opcode}
    (hz : z ∈ tt.types) (hw : typeWrites p tt z = .ok ws) (hk : (k, op) ∈ ws) : k < tt.ops.size := by
  obtain ⟨i, -, hi, -⟩ := typeWrites_head hw
  rw [size_ops h]
  rcases typeWrites_footprint h hz hw hi hk with rfl | ⟨-, -, ⟨hraw, hle⟩ | ⟨hsized, rfl⟩⟩
  · obtain ⟨_, _, hcell, -⟩ := cell_of_slotOf? h hi
    exact lt_size_of_getElem? hcell
  · have := lt_size_of_getElem? (runAt_of_slotOf? h hz hraw hi).2
    omega
  · exact lt_size_of_getElem? (length_of_slotOf? h hsized hi)

/-- A slot of an accepted table holds what its type wrote there. -/
theorem ops_of_write {z : CType} {ws : List (Nat × Opcode)} {k : Nat} {op : Opcode}
    (hz : z ∈ tt.types) (hw : typeWrites p tt z = .ok ws) (hk : (k, op) ∈ ws) : tt.ops[k]? = some op := by
  have hsize := lt_size_of_write h hz hw hk
  obtain ⟨W, hW, hops⟩ := ops_eq_applyWrites h
  rw [hops]
  refine getElem?_applyWrites _ _ (by rw [Array.size_replicate, ← size_ops h]; exact hsize) ?_
    fun op' hop' => ?_
  · obtain ⟨ws', hws', hw'⟩ := exists_mem_right_of_forall₂ hW hz
    rw [hw] at hw'
    injection hw' with hw'
    exact List.mem_flatten.mpr ⟨ws', hws', hw' ▸ hk⟩
  · obtain ⟨ws', hws', hk'⟩ := List.mem_flatten.mp hop'
    obtain ⟨z', hz', hw'⟩ := exists_mem_left_of_forall₂ hW hws'
    obtain rfl := eq_of_writes h hz' hz hw' hw hk' hk
    rw [hw] at hw'
    injection hw' with hw'
    subst hw'
    have := List.inj_on_of_nodup_map (typeWrites_nodup hw) hk' hk rfl
    injection this

/-- Every slot of an accepted table is written: it is a type's own slot, in a
function's run, or the length slot of an array. -/
theorem exists_write {k : Nat} (hk : k < tt.ops.size) :
    ∃ z ∈ tt.types, ∃ ws, typeWrites p tt z = .ok ws ∧ ∃ op, (k, op) ∈ ws := by
  have laid := buildTypeTable_laid h
  have hslot : ∀ {y : CType} {i : Nat}, (y, i) ∈ (layoutCells tt.types).2 → tt.slotOf? y = some i :=
    fun hy => TypeTable.slotOf?_eq_of_mem (slots_nodup h) (by rw [slots_eq_layoutCells h]; exact hy) rfl
  rw [size_ops h] at hk
  rcases laid.covered k hk with ⟨y, hy⟩ | ⟨f, hf, hraw, i, hfi, hlt, hle⟩ | ⟨y, i, hy, hsized, rfl⟩
  · obtain ⟨z, hz, -, ws, hws, op, hop⟩ := write_at_slot h (hslot hy)
    exact ⟨z, hz, ws, hws, op, hop⟩
  · -- in a function's run: the closing slot, or an argument's place
    obtain ⟨args, r, e, abi, m, rfl⟩ := exists_eq_function_of_isRawFunction hraw
    obtain ⟨ws, hws⟩ := typeWrites_ok h hf
    obtain ⟨i', ri, aws, flags, hi', -, haws, -, rfl⟩ := typeWrites_function_eq_ok hws
    rw [hslot hfi] at hi'
    cases hi'
    simp only [runArgs] at hle
    by_cases hend : k = i + 1 + args.length
    · exact ⟨_, hf, _, hws, Opcode.of .functionEnd flags, by simp [hend]⟩
    · obtain ⟨j, rfl⟩ : ∃ j, k = i + 1 + j := ⟨k - (i + 1), by omega⟩
      obtain ⟨hall, -, -⟩ := argumentWrites_eq_ok haws
      obtain ⟨real, hreal, hor⟩ := hall j (by omega)
      rcases hor with rfl | hmem
      · -- the argument's own slot is its place in the run
        obtain ⟨z, hz, -, ws', hws', op, hop⟩ := write_at_slot h hreal
        exact ⟨z, hz, ws', hws', op, hop⟩
      · exact ⟨_, hf, _, hws, _, List.mem_cons_of_mem _ (List.mem_append_left _ hmem)⟩
  · -- the length slot after an array
    obtain ⟨x, hx, hxe⟩ := memberOf_iff.mp (laid.entries.member y i hy)
    have hi : tt.slotOf? x = some i := by rw [TypeTable.slotOf?_congr hxe]; exact hslot hy
    have hxs : x.isSizedArray = true := by rw [← isSizedArray_erase, hxe, isSizedArray_erase, hsized]
    obtain ⟨ws, hws⟩ := typeWrites_ok h hx
    obtain ⟨item, l, m, hl, rfl⟩ := exists_eq_array_of_isSizedArray hxs
    obtain ⟨i', si, hi', -, -, rfl⟩ := typeWrites_array_eq_ok hws
    rw [hi] at hi'
    cases hi'
    exact ⟨_, hx, _, hws, ⟨none, .expr (lengthText l)⟩, by simp [hl]⟩

end Accepted

end Basis.Foreign
