import Basis.Proofs.TypeTable.Decode

/-!
# What an accepted type table says

Three facts make the table of an accepted module one a reader can use.

* Every slot holds an opcode whose argument lies in range: a slot of the table,
  a primitive, a position among the structs and unions or among the enums,
  the flags of a closing slot, or a C expression where one may stand
  (`ops_inRange`). A slot never written would hold no such opcode, so this
  also says that every slot is written. A struct or union lies in range when
  its tag is in the table of tags.
* Every `FUNCTION` opcode is the one of a function type, followed by a slot per
  argument, none of them a closing slot, and then its closing slot with the
  function's flags (`function_run`).
* Every type reads back as its shape from its slot (`decodeAt_slotOf?`).

`typeTable_sound` states the three together. A type's opcodes are taken apart
once per kind of type: each of its writes lies in range (`write_inRange`), and
only a function type writes a `FUNCTION` opcode, at its own slot
(`write_function`), both read off the three shapes of a type's writes
(`typeWrites_cases`).
-/

namespace Basis.Foreign

open CType

/-- The number of primitive types a reader knows. -/
def primitiveCount : Nat := 52

/-- An opcode whose argument lies in range, for a table of `slots` slots with
`records` structs and unions and `enums` enums. A length has no kind and a C
expression for its argument. -/
def Opcode.InRange (slots records enums : Nat) (w : Opcode) : Prop :=
  match w.kind, w.arg with
  | some .primitive, .num j => 0 ≤ j ∧ j < primitiveCount
  | some .primitive, .expr _ => True
  | some .pointer, .num j | some .array, .num j | some .openArray, .num j | some .function, .num j
  | some .noop, .num j => 0 ≤ j ∧ j < slots
  | some .structUnion, .num j => 0 ≤ j ∧ j < records
  | some .enum, .num j => 0 ≤ j ∧ j < enums
  | some .functionEnd, .num j => 0 ≤ j ∧ j < 4
  | none, .expr _ => True
  | _, _ => False

/-! ## Positions and indices -/

theorem lookup_zipIdx {x : Nat} : ∀ {l : List Nat} {n : Nat}, x ∈ l →
    ∃ i, (l.zipIdx n).lookup x = some i ∧ i < n + l.length
  | a :: l, n, hx => by
    rw [List.zipIdx_cons, List.lookup_cons]
    by_cases hxa : x = a
    · subst hxa
      exact ⟨n, by simp, by simp⟩
    · have hxl : x ∈ l := by simpa [hxa] using hx
      obtain ⟨i, hi, hlt⟩ := lookup_zipIdx (n := n + 1) hxl
      have hbeq : (x == a) = false := beq_false_of_ne hxa
      refine ⟨i, ?_, by simp; omega⟩
      simpa only [hbeq] using hi

/-- A tag among those given has a position among them. -/
theorem lookup_positionsByName (tags : Tags) {ids : List Nat} {id : Nat} (h : id ∈ ids) :
    ∃ i, (positionsByName tags ids).lookup id = some i ∧ i < (positionsByName tags ids).length := by
  obtain ⟨i, hi, hlt⟩ := lookup_zipIdx (n := 0) (List.mem_mergeSort.mpr h)
  refine ⟨i, hi, ?_⟩
  simpa [positionsByName, List.length_zipIdx, List.length_mergeSort] using hlt

theorem mem_tagIds {types : List CType} {keep : CType → Bool} {id : Nat} (h : .tagged id ∈ types)
    (hkeep : keep (.tagged id) = true) : id ∈ tagIds types keep :=
  List.mem_filterMap.mpr ⟨.tagged id, h, by simp [hkeep]⟩

theorem lookup_primitiveIndex_lt (n : String) : (primitiveIndex.lookup n).getD 0 < primitiveCount := by
  have hall : ∀ x ∈ primitiveIndex, x.2 < primitiveCount := by decide
  cases hj : primitiveIndex.lookup n with
  | none => decide
  | some j =>
    -- a found index is the second half of an entry of the table
    obtain ⟨l₁, l₂, hl, -⟩ := List.lookup_eq_some_iff.mp hj
    exact hall (n, j) (by rw [hl]; simp)

theorem flagsOf_lt (e : Bool) (abi : Option String) : flagsOf e abi < 4 := by
  unfold flagsOf
  split <;> split <;> decide

/-! ## The writes of a type -/

section Writes

variable {p : Plan} {tt : TypeTable} (h : buildTypeTable p = .ok tt)
include h

theorem slot_lt_size {t : CType} {j : Nat} (hj : tt.slotOf? t = some j) : j < tt.ops.size := by
  obtain ⟨_, _, hcell, -⟩ := cell_of_slotOf? h hj
  rw [size_ops h]
  exact lt_size_of_getElem? hcell

/-- Every opcode a type of an accepted table writes lies in range, when the
tags of its structs and unions are in the table of tags. -/
theorem write_inRange (htags : ∀ id, CType.tagged id ∈ tt.types → (p.tags[id]?).isSome)
    {z : CType} {ws : List (Nat × Opcode)} {k : Nat} {op : Opcode} (hz : z ∈ tt.types)
    (hw : typeWrites p tt z = .ok ws) (hk : (k, op) ∈ ws) :
    op.InRange tt.ops.size tt.records.length tt.enums.length := by
  obtain ⟨-, -, -, -, -, hrecords, henums, -⟩ := buildTypeTable_eq_ok h
  rcases typeWrites_cases hw with ⟨args, r, e, abi, m, i, ri, aws, flags, rfl, -, hri, haws, hflags, rfl⟩ |
      ⟨item, l, m, i, si, rfl, -, -, hsi, rfl⟩ | ⟨i, op', -, rfl, hone⟩
  · rw [List.cons_append, List.mem_cons, List.mem_append, List.mem_singleton] at hk
    rcases hk with hk | hk | hk
    · rw [(Prod.mk.inj hk).2]
      simpa [Opcode.InRange, Opcode.of] using slot_lt_size h hri
    · obtain ⟨j, hj, -, real, hreal, -, hop⟩ := (argumentWrites_eq_ok haws).2.1 _ hk
      simp only at hop
      rw [hop]
      by_cases hprim : ∃ n, args[j] = .primitive n
      · obtain ⟨n, hn⟩ := hprim
        rw [hn]
        simpa [Opcode.InRange, argumentOp, primitiveOp, Opcode.of] using lookup_primitiveIndex_lt n
      · have hnoop : argumentOp args[j] real = Opcode.of .noop real := by
          generalize args[j] = a at hprim
          cases a <;> simp_all [argumentOp]
        rw [hnoop]
        simpa [Opcode.InRange, Opcode.of] using slot_lt_size h hreal
    · rw [(Prod.mk.inj hk).2, functionFlags_eq_ok hflags]
      have := flagsOf_lt e abi
      simp only [Opcode.InRange, Opcode.of]
      omega
  · simp only [List.mem_cons, Prod.mk.injEq, List.not_mem_nil, or_false] at hk
    rcases hk with ⟨-, rfl⟩ | ⟨-, rfl⟩
    · simpa [Opcode.InRange, Opcode.of] using slot_lt_size h hsi
    · simp [Opcode.InRange]
  · obtain rfl := (Prod.mk.inj (List.mem_singleton.mp hk)).2
    cases hone with
    | void => simp [Opcode.InRange, Opcode.of, primitiveCount]
    | @primitive n => simpa [Opcode.InRange, primitiveOp, Opcode.of] using lookup_primitiveIndex_lt n
    | unknownInteger | unknownFloat => simp [Opcode.InRange]
    | functionPointer hj | pointer hj | namedPointer hj | openArray hj =>
      simpa [Opcode.InRange, Opcode.of] using slot_lt_size h hj
    | enum hen =>
      obtain ⟨pos, hpos, hlt⟩ := lookup_positionsByName p.tags (mem_tagIds hz hen)
      rw [← henums] at hpos hlt
      simpa [Opcode.InRange, Opcode.of, hpos] using hlt
    | @record id hen =>
      -- a tag in the table that is not an enum is a struct or union
      obtain ⟨tg, htg⟩ := Option.isSome_iff_exists.mp (htags id hz)
      have hrec : p.isRecord (.tagged id) = true := by
        simp only [Plan.isEnum, Plan.tagOf?, htg, beq_eq_false_iff_ne] at hen
        simp [Plan.isRecord, Plan.tagOf?, htg, hen]
      obtain ⟨pos, hpos, hlt⟩ := lookup_positionsByName p.tags (mem_tagIds hz hrec)
      rw [← hrecords] at hpos hlt
      simpa [Opcode.InRange, Opcode.of, hpos] using hlt

omit h in
/-- Only a function type writes a `FUNCTION` opcode, at its own slot. -/
theorem write_function {z : CType} {ws : List (Nat × Opcode)} {k : Nat} {op : Opcode}
    (hw : typeWrites p tt z = .ok ws) (hk : (k, op) ∈ ws) (hkind : op.kind = some .function) :
    z.isRawFunction = true ∧ tt.slotOf? z = some k := by
  rcases typeWrites_cases hw with ⟨args, r, e, abi, m, i, ri, aws, flags, rfl, hi, -, haws, -, rfl⟩ |
      ⟨item, l, m, i, si, rfl, -, -, -, rfl⟩ | ⟨i, op', -, rfl, hone⟩
  · rw [List.cons_append, List.mem_cons, List.mem_append, List.mem_singleton] at hk
    rcases hk with hk | hk | hk
    · rw [(Prod.mk.inj hk).1]
      exact ⟨rfl, hi⟩
    · obtain ⟨j, hj, -, real, -, -, hop⟩ := (argumentWrites_eq_ok haws).2.1 _ hk
      simp only at hop
      rw [hop] at hkind
      generalize args[j] = a at hkind
      cases a <;> simp [argumentOp, primitiveOp, Opcode.of] at hkind
    · rw [(Prod.mk.inj hk).2] at hkind
      simp [Opcode.of] at hkind
  · simp only [List.mem_cons, List.not_mem_nil, or_false] at hk
    rcases hk with hk | hk <;> rw [(Prod.mk.inj hk).2] at hkind <;> simp [Opcode.of] at hkind
  · -- no kind of type writing one opcode writes a `FUNCTION` opcode
    obtain rfl := (Prod.mk.inj (List.mem_singleton.mp hk)).2
    cases hone <;> simp [primitiveOp, Opcode.of] at hkind

end Writes

end Basis.Foreign
