import Basis.Proofs.TypeTable.Emit

/-!
# Reading the type table back

A reader of a generated module rebuilds each type from the table of opcodes:
`PRIMITIVE` names a primitive by its index, `POINTER` and `OPEN_ARRAY` read
the slot they point to, `ARRAY` also takes the length from the next slot,
`NOOP` reads the slot it points to in its place, `STRUCT_UNION` and `ENUM`
name a position in their own tables, and `FUNCTION` reads its result, then its
arguments slot after slot up to `FUNCTION_END`, which carries the flags.
`decodeAt` is that reader, with a budget of links to follow; `decodeRun` reads
a function's arguments.

What it rebuilds is a `TypeShape`: a type without its qualifiers and spellings,
with primitives, structs, unions and enums by their indices. `shapeOf` is the
shape of a type, and `CType.depth` how many links reading it follows.

`decodeAt_slotOf?` is the reading of an accepted table: from the slot of any
value among its types, with a budget of at least its depth, the reader gets
the shape of that type. The proof is by induction on the budget, one case per
kind of type, through the writes of the type of the table holding the value
(`write_at_slot`, `ops_of_write`); an argument of a function reads its own
slot where it lies in the run, and otherwise the `NOOP` or primitive written in
its place.
-/

namespace Basis.Foreign

open CType

/-- What a slot of the type table describes. -/
inductive TypeShape where
  /-- A primitive, by its index or a C expression working it out. -/
  | primitive (index : OpArg)
  /-- A pointer. -/
  | pointer (target : TypeShape)
  /-- An array with its length. -/
  | array (item : TypeShape) (length : OpArg)
  /-- An array without a length. -/
  | openArray (item : TypeShape)
  /-- A function type, with the flags of its closing slot. -/
  | function (args : List TypeShape) (result : TypeShape) (flags : Int)
  /-- A struct or union, by its position among them. -/
  | record (position : Int)
  /-- An enum, by its position among them. -/
  | enum (position : Int)

/-- The arguments of a function from slot `i` up to its closing slot, each read
by `read`, with the flags of the closing slot; at most `bound` slots. -/
def decodeRun (ops : Array Opcode) (read : Nat → Option TypeShape) : Nat → Nat → Option (List TypeShape × Int)
  | 0, _ => none
  | bound + 1, i => do
    let w ← ops[i]?
    match w.kind, w.arg with
    | some .functionEnd, .num flags => pure ([], flags)
    | _, _ => do
      let a ← read i
      let (as, flags) ← decodeRun ops read bound (i + 1)
      pure (a :: as, flags)

/-- Reads the type at slot `i` of a table, following at most `fuel` links. -/
def decodeAt (ops : Array Opcode) : Nat → Nat → Option TypeShape
  | 0, _ => none
  | fuel + 1, i => do
    let w ← ops[i]?
    match w.kind, w.arg with
    | some .primitive, a => pure (.primitive a)
    | some .pointer, .num j => .pointer <$> decodeAt ops fuel j.toNat
    | some .array, .num j => do
      let length ← ops[i + 1]?
      let item ← decodeAt ops fuel j.toNat
      pure (.array item length.arg)
    | some .openArray, .num j => .openArray <$> decodeAt ops fuel j.toNat
    | some .structUnion, .num k => pure (.record k)
    | some .enum, .num k => pure (.enum k)
    | some .noop, .num j => decodeAt ops fuel j.toNat
    | some .function, .num j => do
      let result ← decodeAt ops fuel j.toNat
      let (args, flags) ← decodeRun ops (decodeAt ops fuel) ops.size (i + 1)
      pure (.function args result flags)
    | _, _ => none

/-- The flags of a function: 1 for an ellipsis, 2 for `__stdcall`. -/
def flagsOf (ellipsis : Bool) (abi : Option String) : Nat :=
  (if ellipsis then 1 else 0) + (if abi = some "__stdcall" then 2 else 0)

mutual
/-- The shape of a type in the table `tt`. -/
def shapeOf (p : Plan) (tt : TypeTable) : CType → TypeShape
  | .void => .primitive (.num 0)
  | .primitive n => .primitive (.num ((primitiveIndex.lookup n).getD 0))
  | .unknownInteger n => .primitive (.expr (unknownIntegerIndex n))
  | .unknownFloat n => .primitive (.expr (unknownFloatIndex n))
  | .function false args r e abi _ => .function (shapeOfList p tt args) (shapeOf p tt r) (flagsOf e abi)
  | .function true args r e abi _ =>
    .pointer (.function (shapeOfList p tt args) (shapeOf p tt r) (flagsOf e abi))
  | .pointer t _ _ => .pointer (shapeOf p tt t)
  | .namedPointer t _ _ => .pointer (shapeOf p tt t)
  | .array t .open _ => .openArray (shapeOf p tt t)
  | .array t l _ => .array (shapeOf p tt t) (.expr (lengthText l))
  | .tagged id =>
    if p.isEnum (.tagged id) then .enum ((tt.enums.lookup id).getD 0)
    else .record ((tt.records.lookup id).getD 0)

/-- The shapes of a list of types. -/
def shapeOfList (p : Plan) (tt : TypeTable) : List CType → List TypeShape
  | [] => []
  | t :: ts => shapeOf p tt t :: shapeOfList p tt ts
end

mutual
/-- How many links reading a type follows: an argument of a function may be
read through a `NOOP`, one link more. -/
def CType.depth : CType → Nat
  | .function false args r .. => max r.depth (depthList args + 1) + 1
  | .function true args r .. => max r.depth (depthList args + 1) + 2
  | .pointer t .. | .namedPointer t .. | .array t .. => t.depth + 1
  | _ => 1

/-- The greatest depth of a list of types. -/
def CType.depthList : List CType → Nat
  | [] => 0
  | t :: ts => max t.depth (depthList ts)
end

/-! ## Shapes and depths of values -/

mutual
/-- The shape of a type is the one of its value. -/
theorem shapeOf_erase (p : Plan) (tt : TypeTable) : (t : CType) → shapeOf p tt t.erase = shapeOf p tt t
  | .void | .primitive _ | .unknownInteger _ | .unknownFloat _ | .tagged _ => rfl
  | .function q args r e abi m => by
    cases q <;> simp only [erase, shapeOf, shapeOfList_eraseList p tt args, shapeOf_erase p tt r]
  | .pointer t q m => by simp only [erase, shapeOf, shapeOf_erase p tt t]
  | .namedPointer t n q => by simp only [erase, shapeOf, shapeOf_erase p tt t]
  | .array t l m => by cases l <;> simp only [erase, shapeOf, shapeOf_erase p tt t]

theorem shapeOfList_eraseList (p : Plan) (tt : TypeTable) :
    (ts : List CType) → shapeOfList p tt (eraseList ts) = shapeOfList p tt ts
  | [] => rfl
  | t :: ts => by simp only [eraseList, shapeOfList, shapeOf_erase p tt t, shapeOfList_eraseList p tt ts]
end

mutual
theorem depth_erase : (t : CType) → t.erase.depth = t.depth
  | .void | .primitive _ | .unknownInteger _ | .unknownFloat _ | .tagged _ => rfl
  | .function q args r e abi m => by
    cases q <;> simp only [erase, depth, depthList_eraseList args, depth_erase r]
  | .pointer t q m => by simp only [erase, depth, depth_erase t]
  | .namedPointer t n q => by simp only [erase, depth, depth_erase t]
  | .array t l m => by simp only [erase, depth, depth_erase t]

theorem depthList_eraseList : (ts : List CType) → depthList (eraseList ts) = depthList ts
  | [] => rfl
  | t :: ts => by simp only [eraseList, depthList, depth_erase t, depthList_eraseList ts]
end

theorem shapeOf_congr {p : Plan} {tt : TypeTable} {a b : CType} (h : a.erase = b.erase) :
    shapeOf p tt a = shapeOf p tt b := by
  rw [← shapeOf_erase, h, shapeOf_erase]

theorem depth_congr {a b : CType} (h : a.erase = b.erase) : a.depth = b.depth := by
  rw [← depth_erase, h, depth_erase]

theorem one_le_depth (t : CType) : 1 ≤ t.depth := by
  unfold depth
  split <;> omega

theorem depth_le_depthList {t : CType} : ∀ {ts : List CType}, t ∈ ts → t.depth ≤ depthList ts
  | _ :: _, .head _ => by
    simp only [depthList]
    exact Nat.le_max_left _ _
  | _ :: _, .tail _ ht => by
    simp only [depthList]
    exact Nat.le_trans (depth_le_depthList ht) (Nat.le_max_right _ _)

theorem shapeOfList_eq_map {p : Plan} {tt : TypeTable} : ∀ (ts : List CType),
    shapeOfList p tt ts = ts.map (shapeOf p tt)
  | [] => rfl
  | t :: ts => by rw [shapeOfList, shapeOfList_eq_map ts, List.map_cons]

/-! ## One step of the reader -/

section Steps

variable {ops : Array Opcode} {fuel i : Nat}

-- each lemma of this section unfolds one step of the reader
attribute [local simp] decodeAt decodeRun Opcode.of

theorem decodeAt_primitive {a : OpArg} (h : ops[i]? = some ⟨some .primitive, a⟩) :
    decodeAt ops (fuel + 1) i = some (.primitive a) := by
  simp [decodeAt, h, pure]

theorem decodeAt_pointer {j : Nat} (h : ops[i]? = some (Opcode.of .pointer j)) :
    decodeAt ops (fuel + 1) i = .pointer <$> decodeAt ops fuel j := by
  simp [decodeAt, h, Opcode.of]

theorem decodeAt_openArray {j : Nat} (h : ops[i]? = some (Opcode.of .openArray j)) :
    decodeAt ops (fuel + 1) i = .openArray <$> decodeAt ops fuel j := by
  simp [decodeAt, h, Opcode.of]

theorem decodeAt_array {j : Nat} {w : Opcode} (h : ops[i]? = some (Opcode.of .array j))
    (hw : ops[i + 1]? = some w) :
    decodeAt ops (fuel + 1) i = (fun item => .array item w.arg) <$> decodeAt ops fuel j := by
  simp only [decodeAt, h, Opcode.of, hw, Option.bind_eq_bind, Option.bind_some, Int.toNat_natCast]
  cases decodeAt ops fuel j <;> rfl

theorem decodeAt_structUnion {n : Int} (h : ops[i]? = some (Opcode.of .structUnion n)) :
    decodeAt ops (fuel + 1) i = some (.record n) := by
  simp [decodeAt, h, Opcode.of, pure]

theorem decodeAt_enum {n : Int} (h : ops[i]? = some (Opcode.of .enum n)) :
    decodeAt ops (fuel + 1) i = some (.enum n) := by
  simp [decodeAt, h, Opcode.of, pure]

theorem decodeAt_noop {j : Nat} (h : ops[i]? = some (Opcode.of .noop j)) :
    decodeAt ops (fuel + 1) i = decodeAt ops fuel j := by
  simp [decodeAt, h, Opcode.of]

theorem decodeAt_function {j : Nat} {result : TypeShape} {args : List TypeShape} {flags : Int}
    (h : ops[i]? = some (Opcode.of .function j)) (hr : decodeAt ops fuel j = some result)
    (hrun : decodeRun ops (decodeAt ops fuel) ops.size (i + 1) = some (args, flags)) :
    decodeAt ops (fuel + 1) i = some (.function args result flags) := by
  simp [decodeAt, h, Opcode.of, hr, hrun, pure]

/-- A closing slot reads as no type. -/
theorem kind_ne_functionEnd_of_decodeAt {s : TypeShape} (h : decodeAt ops fuel i = some s) :
    ∃ w, ops[i]? = some w ∧ w.kind ≠ some .functionEnd := by
  cases fuel with
  | zero => cases h
  | succ fuel =>
    cases hw : ops[i]? with
    | none => simp [decodeAt, hw] at h
    | some w =>
      refine ⟨w, rfl, fun hk => ?_⟩
      obtain ⟨kind, arg⟩ := w
      simp only at hk
      subst hk
      simp [decodeAt, hw] at h

/-- The run of a function reads its arguments up to the closing slot. -/
theorem decodeRun_eq {read : Nat → Option TypeShape} {flags : Int} :
    ∀ (ss : List TypeShape) (bound i : Nat), ss.length < bound →
      (∀ j (hj : j < ss.length), read (i + j) = some ss[j] ∧
        ∃ w, ops[i + j]? = some w ∧ w.kind ≠ some .functionEnd) →
      ops[i + ss.length]? = some (Opcode.of .functionEnd flags) →
      decodeRun ops read bound i = some (ss, flags)
  | [], bound + 1, i, _, _, hend => by
    simp only [List.length_nil, Nat.add_zero] at hend
    simp [decodeRun, hend, Opcode.of, pure]
  | s :: ss, bound + 1, i, hlen, hargs, hend => by
    obtain ⟨hs, w, hw, hkind⟩ := hargs 0 (by simp)
    have hnext : ∀ j (hj : j < ss.length), read (i + 1 + j) = some ss[j] ∧
        ∃ w, ops[i + 1 + j]? = some w ∧ w.kind ≠ some .functionEnd := by
      intro j hj
      have := hargs (j + 1) (by simpa using hj)
      rw [List.getElem_cons_succ, ← Nat.add_assoc, Nat.add_right_comm] at this
      exact this
    have hrest := decodeRun_eq ss bound (i + 1) (by simp at hlen; omega) hnext
      (by simpa [Nat.add_assoc, Nat.add_comm 1 ss.length] using hend)
    simp only [Nat.add_zero] at hs hw
    simp only [decodeRun, hw, Option.bind_eq_bind, Option.bind_some]
    split
    · rename_i hk _
      exact absurd hk hkind
    · simp [hs, hrest, pure]

end Steps

theorem functionFlags_eq_ok {e : Bool} {abi : Option String} {n : Nat} (h : functionFlags e abi = .ok n) :
    n = flagsOf e abi := by
  unfold functionFlags at h
  split at h
  · cases h
    simp [flagsOf]
  · cases h
    simp [flagsOf]
  · cases h

/-! ## Reading an accepted table -/

/-- Reading with a budget of `fuel` gets the shape of every value that has a
slot and a depth within the budget. -/
def ReadsWithin (p : Plan) (tt : TypeTable) (fuel : Nat) : Prop :=
  ∀ {t : CType} {k : Nat}, tt.slotOf? t = some k → t.depth ≤ fuel →
    decodeAt tt.ops fuel k = some (shapeOf p tt t)

section Reading

variable {p : Plan} {tt : TypeTable} (h : buildTypeTable p = .ok tt)
include h

/-- The opcode at the slot of a type of the table that writes there only. -/
theorem ops_of_single {z : CType} {k i : Nat} {op : Opcode} (hz : z ∈ tt.types)
    (hk : tt.slotOf? z = some k) (hw : typeWrites p tt z = .ok [(i, op)]) : tt.ops[k]? = some op := by
  obtain ⟨i', op', hi', hmem⟩ := typeWrites_head hw
  rw [hk] at hi'
  cases hi'
  obtain ⟨rfl, rfl⟩ := Prod.mk.inj (List.mem_singleton.mp hmem)
  exact ops_of_write h hz hw (List.mem_singleton_self _)

omit h in
/-- An argument of a function reads from its place in the run: its own slot
when it lies there, else the `NOOP` or primitive written in its place. -/
theorem reads_argument {fuel : Nat} (ih : ∀ m ≤ fuel, ReadsWithin p tt m) {a : CType} {s real : Nat}
    (hreal : tt.slotOf? a = some real) (hdepth : a.depth + 1 ≤ fuel)
    (hplace : real = s ∨ tt.ops[s]? = some (argumentOp a real)) :
    decodeAt tt.ops fuel s = some (shapeOf p tt a) := by
  rcases hplace with rfl | hop
  · exact ih fuel (Nat.le_refl _) hreal (by omega)
  obtain ⟨fuel, rfl⟩ : ∃ m, fuel = m + 1 := ⟨fuel - 1, by omega⟩
  by_cases hprim : ∃ n, a = .primitive n
  · obtain ⟨n, rfl⟩ := hprim
    exact decodeAt_primitive hop
  · have hnoop : argumentOp a real = Opcode.of .noop real := by
      cases a <;> simp_all [argumentOp]
    rw [hnoop] at hop
    rw [decodeAt_noop hop]
    exact ih fuel (Nat.le_succ _) hreal (by omega)

/-- A function type reads back from its slot: its result, then its arguments
up to the closing slot with its flags. -/
theorem reads_function {fuel : Nat} (ih : ∀ m ≤ fuel, ReadsWithin p tt m) {args : List CType}
    {r : CType} {e : Bool} {abi : Option String} {m : String} {k : Nat}
    (hz : .function false args r e abi m ∈ tt.types) (hk : tt.slotOf? (.function false args r e abi m) = some k)
    (hfuel : (CType.function false args r e abi m).depth ≤ fuel + 1) :
    decodeAt tt.ops (fuel + 1) k = some (shapeOf p tt (.function false args r e abi m)) := by
  obtain ⟨ws, hw⟩ := typeWrites_ok h hz
  obtain ⟨i, ri, aws, flags, hi, hri, haws, hflags, hws⟩ := typeWrites_function_eq_ok hw
  rw [hk] at hi
  cases hi
  subst hws
  simp only [depth] at hfuel
  have hendmem : (k + 1 + args.length, Opcode.of .functionEnd flags) ∈
      (k, Opcode.of .function ri) :: aws ++ [(k + 1 + args.length, Opcode.of .functionEnd flags)] := by simp
  have hend := ops_of_write h hz hw hendmem
  -- each argument reads from its place in the run, and that place is not a closing slot
  have hargs : ∀ j (hj : j < args.length), decodeAt tt.ops fuel (k + 1 + j) = some (shapeOf p tt args[j]) := by
    intro j hj
    obtain ⟨real, hreal, hor⟩ := (argumentWrites_eq_ok haws).1 j hj
    have hdepth := depth_le_depthList (List.getElem_mem hj)
    refine reads_argument ih hreal (by omega) (hor.imp id fun hmem => ops_of_write h hz hw ?_)
    exact List.mem_cons_of_mem _ (List.mem_append_left _ hmem)
  have hrun : decodeRun tt.ops (decodeAt tt.ops fuel) tt.ops.size (k + 1) =
      some (shapeOfList p tt args, (flags : Int)) := by
    have hlen := lt_size_of_write h hz hw hendmem
    refine decodeRun_eq _ _ _ (by rw [shapeOfList_eq_map, List.length_map]; omega) (fun j hj => ?_) ?_
    · rw [shapeOfList_eq_map, List.length_map] at hj
      have hread := hargs j hj
      simp only [shapeOfList_eq_map, List.getElem_map]
      exact ⟨hread, kind_ne_functionEnd_of_decodeAt hread⟩
    · rw [shapeOfList_eq_map, List.length_map]
      exact hend
  rw [decodeAt_function (ops_of_write h hz hw (by simp)) (ih fuel (Nat.le_refl _) hri (by omega)) hrun,
    functionFlags_eq_ok hflags]
  rfl

/-- The reader gets the shape of every value among the types of an accepted
table from its slot, given a budget of at least its depth. -/
theorem decodeAt_slotOf? : ∀ fuel, ReadsWithin p tt fuel := by
  intro fuel
  induction fuel using Nat.strongRecOn with
  | ind fuel ih =>
  intro t k hk hfuel
  -- the slot holds the writes of the type of the table with the value of `t`
  obtain ⟨z, hz, hze, ws, hw, -⟩ := write_at_slot h hk
  rw [← TypeTable.slotOf?_congr hze] at hk
  rw [← depth_congr hze] at hfuel
  rw [← shapeOf_congr hze]
  obtain ⟨fuel, rfl⟩ : ∃ m, fuel = m + 1 := ⟨fuel - 1, by have := one_le_depth z; omega⟩
  have ih' : ReadsWithin p tt fuel := ih fuel (Nat.lt_succ_self _)
  rcases typeWrites_cases hw with ⟨args, r, e, abi, m, -, -, -, -, rfl, -⟩ |
      ⟨item, l, m, i, si, rfl, hl, hi, hsi, rfl⟩ | ⟨i, op, -, rfl, hone⟩
  · exact reads_function h (fun m hm => ih m (by omega)) hz hk hfuel
  · rw [hk] at hi
    cases hi
    simp only [depth] at hfuel
    rw [decodeAt_array (ops_of_write h hz hw (List.mem_cons_self ..))
      (ops_of_write h hz hw (List.mem_cons_of_mem _ (List.mem_singleton_self _))), ih' hsi (by omega)]
    cases l <;> first | exact absurd rfl hl | rfl
  · -- one opcode at the slot; a pointer or an open array reads on from the slot it names
    have hop := ops_of_single h hz hk hw
    cases hone with
    | void | primitive | unknownInteger | unknownFloat => exact decodeAt_primitive hop
    | functionPointer hj =>
      simp only [depth] at hfuel
      rw [decodeAt_pointer hop, ih' hj (by simp only [Plan.rawFunction, functionOf, depth]; omega)]
      rfl
    | pointer hj | namedPointer hj =>
      simp only [depth] at hfuel
      rw [decodeAt_pointer hop, ih' hj (by omega)]
      rfl
    | openArray hj =>
      simp only [depth] at hfuel
      rw [decodeAt_openArray hop, ih' hj (by omega)]
      rfl
    | enum hen =>
      rw [decodeAt_enum hop]
      simp [shapeOf, hen]
    | record hen =>
      rw [decodeAt_structUnion hop]
      simp [shapeOf, hen]

end Reading

end Basis.Foreign
