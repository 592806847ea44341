import Basis.Proofs.Foreign.Conversions

/-!
# Initializing arrays of integers

`new` of an array of `n` items of an integer type, given a list of integers
the type holds, allocates a zeroed block for the items and writes the bytes of
each integer at its item's place, first to last; the items past the list keep
their zeros. A list longer than the array raises `IndexError` ("too many
initializers") once the block is allocated and before anything is written.

* `Memory.blockOf?_isSome_eq`: memory holds a run of bytes when one of its
  blocks spans it; `Memory.write_places` says a write moves and resizes no
  block, so what memory held it still holds (`Memory.blockOf?_isSome_write`).
* `Memory.writeAll` makes writes one after the other; `itemWrites` lists those
  of the items, the `k`-th integer at `k` items past the start.
* `fill_items_run`: the loop of the array initializer writes the items in
  order, as long as memory holds each item's place.
* `allocateData_int_array`: the whole of `new` of such an array
  (`ArrayNewHolds`).
-/

namespace Basis.Foreign

/-! ## Writes keep the blocks in place -/

namespace Memory

/-- The place of a block: its address and its size. -/
def Block.place (b : Block) : Nat × Nat := (b.base, b.bytes.size)

/-- Memory holds a run of bytes exactly when one of its blocks spans it. -/
theorem blockOf?_isSome_eq (m : Memory) (addr len : Nat) :
    (m.blockOf? addr len).isSome =
      m.blocks.any (fun b => b.base ≤ addr && addr + len ≤ b.base + b.bytes.size) := by
  rw [← Array.findIdx?_isSome]
  unfold blockOf?
  cases hi : m.blocks.findIdx? (fun b => b.base ≤ addr && addr + len ≤ b.base + b.bytes.size) with
  | none => rfl
  | some i =>
    -- the index found is one of the blocks
    obtain ⟨hlt, -, -⟩ := Array.findIdx?_eq_some_iff_getElem.1 hi
    simp [hlt]

/-- Setting bytes one after the other keeps the size of the byte array. -/
theorem size_foldl_set (bs : List UInt8) (a : ByteArray) (start : Nat) :
    (bs.foldl (fun (acc : ByteArray × Nat) x => (acc.1.set! acc.2 x, acc.2 + 1)) (a, start)).1.size =
      a.size := by
  induction bs generalizing a start with
  | nil => rfl
  | cons x xs ih => rw [List.foldl_cons, ih, ByteArray.size_set!]

/-- A write changes the bytes of a block, never its address or its size. -/
theorem write_places {m m' : Memory} {addr : Nat} {bytes : List UInt8}
    (h : m.write addr bytes = .ok m') : m'.blocks.map Block.place = m.blocks.map Block.place := by
  unfold write at h
  split at h
  · cases h; rfl
  · split at h
    · next i b hb =>
      cases h
      -- the block found is the `i`-th, and it gets back its own place
      have hget : m.blocks[i]? = some b := by
        simp only [blockOf?, Option.bind_eq_bind, Option.bind_eq_some_iff, Option.pure_def,
          Option.some.injEq, Prod.mk.injEq] at hb
        obtain ⟨j, -, c, hc, rfl, rfl⟩ := hb
        exact hc
      obtain ⟨hlt, hb⟩ := Array.getElem?_eq_some_iff.1 hget
      rw [Array.set!_eq_setIfInBounds, Array.map_setIfInBounds]
      apply Array.ext
      · simp
      · intro k hk1 hk2
        rw [Array.getElem_setIfInBounds]
        split
        · next hik =>
          subst hik
          simp [Block.place, size_foldl_set, hb]
        · rfl
    · cases h

/-- What memory held before a write, it holds after. -/
theorem blockOf?_isSome_write {m m' : Memory} {addr : Nat} {bytes : List UInt8}
    (h : m.write addr bytes = .ok m') (a len : Nat) :
    (m'.blockOf? a len).isSome = (m.blockOf? a len).isSome := by
  have hp := congrArg (fun bs => bs.any fun q : Nat × Nat => q.1 ≤ a && a + len ≤ q.1 + q.2)
    (write_places h)
  simp only [Array.any_map] at hp
  rw [blockOf?_isSome_eq, blockOf?_isSome_eq]
  exact hp

/-- Writes made one after the other, failing at the first that fails. -/
def writeAll (m : Memory) : List (Nat × List UInt8) → Except Failure Memory
  | [] => .ok m
  | (addr, bytes) :: ws =>
    match m.write addr bytes with
    | .ok m' => m'.writeAll ws
    | .error e => .error e

/-- A freshly allocated block spans every run of bytes inside it. -/
theorem blockOf?_allocate_within (m : Memory) {size a len : Nat} (h1 : m.next ≤ a)
    (h2 : a + len ≤ m.next + size) : ((m.allocate size).1.blockOf? a len).isSome := by
  apply blockOf?_isSome
  show (m.blocks.push ⟨m.next, ByteArray.mk (Array.replicate size 0)⟩).any
    (fun b => b.base ≤ a && a + len ≤ b.base + b.bytes.size) = true
  rw [Array.any_push, Bool.or_eq_true]
  right
  simp [ByteArray.size, h1, h2]

end Memory

/-! ## The items of an array -/

/-- The writes that put integers in the items of an array of the type `p` at
`addr`, from the item `j` on: each integer's bytes at its item's place. -/
def itemWrites (p : Primitive) (addr : Nat) : Nat → List Int → List (Nat × List UInt8)
  | _, [] => []
  | j, x :: xs => (addr + j * p.size, (Scalar.int x).encode p) :: itemWrites p addr (j + 1) xs

namespace SessionM

variable {name : String} {p : Primitive}

/-- A computation that failed skips the rest. -/
theorem run_bind_of_error {α β : Type} {x : SessionM α} {f : α → SessionM β} {s s' : Session}
    {e : Failure} (h : x.run.run s = (.error e, s')) : (x >>= f).run.run s = (.error e, s') := by
  rw [ExceptT.run_bind, StateT.run_bind, h]
  rfl

/-- The loop of the array initializer over integers the type holds, from the
item `j` on, writes each integer's bytes at its item's place, in order, when
memory holds the places of the items it reaches. -/
theorem fill_items_run (hp : primitiveOf? name = some p) (hint : p.HoldsIntegers) (fuel addr : Nat) :
    ∀ (xs : List Int) (j : Nat) (s : Session), (∀ x ∈ xs, p.InRange x) →
      (∀ k, j ≤ k → k < j + xs.length → (s.memory.blockOf? (addr + k * p.size) p.size).isSome) →
      ∃ mem, s.memory.writeAll (itemWrites p addr j xs) = .ok mem ∧
        (forIn (xs.map Datum.int) j fun v i => do
            fill (fuel + 1) (.primitive name) (addr + i * p.size) v
            pure (ForInStep.yield (i + 1))).run.run s = (.ok (j + xs.length), { s with memory := mem }) := by
  have hsize := primitiveOf?_size_pos hp
  intro xs
  -- induction on the integers left, the item they start at moving on by one
  induction xs with
  | nil => intro j s _ _; exact ⟨s.memory, rfl, rfl⟩
  | cons x xs ih =>
    intro j s hin hblock
    have hfits : p.fits x = true := (Primitive.fits_iff hsize x).2 (hin x List.mem_cons_self)
    -- the first integer goes to the item `j`
    have hplace : (s.memory.blockOf? (addr + j * p.size) ((Scalar.int x).encode p).length).isSome := by
      rw [length_encode_int]
      exact hblock j (Nat.le_refl j) (by simp)
    obtain ⟨mem₁, hmem₁⟩ := Memory.write_ok hplace
    have hfill : (fill (fuel + 1) (.primitive name) (addr + j * p.size) (Datum.int x)).run.run s =
        (.ok (), { s with memory := mem₁ }) := by
      rw [fill, store_int hp hint, if_pos hfits]
      exact writeBytes_run hmem₁
    -- the rest go to the items after it, in memory that still holds their places
    obtain ⟨mem, hall, hrun⟩ := ih (j + 1) { s with memory := mem₁ }
      (fun y hy => hin y (List.mem_cons_of_mem x hy))
      (fun k hk1 hk2 => by
        rw [Memory.blockOf?_isSome_write hmem₁]
        exact hblock k (by omega) (by simp; omega))
    refine ⟨mem, ?_, ?_⟩
    · simp only [itemWrites, Memory.writeAll, hmem₁]
      exact hall
    · rw [List.map_cons, List.forIn_cons, bind_assoc, run_bind_of_ok hfill, pure_bind]
      rw [List.length_cons, show j + (xs.length + 1) = j + 1 + xs.length by omega]
      exact hrun

/-- The array initializer refuses more integers than items, before it writes. -/
theorem fillArray_too_many (fuel : Nat) (c item : CClass) (addr n : Nat) {xs : List Int}
    (h : n < xs.length) (s : Session) :
    (fillArray (fuel + 1) c item addr n (.list (xs.map Datum.int))).run.run s =
      (.error (.indexError "too many initializers"), s) := by
  rw [fillArray]
  · simp only [items, pure_bind, List.length_map, gt_iff_lt, h, if_true]
    rfl
  all_goals intros; contradiction

/-- The array initializer writes integers the type holds at their items' places,
first to last, when there are no more of them than items and memory holds
their places. -/
theorem fillArray_int_list (hp : primitiveOf? name = some p) (hint : p.HoldsIntegers) (fuel : Nat)
    (c : CClass) (addr n : Nat) {xs : List Int} (hin : ∀ x ∈ xs, p.InRange x) (h : xs.length ≤ n)
    (s : Session) (hblock : ∀ k < xs.length, (s.memory.blockOf? (addr + k * p.size) p.size).isSome) :
    ∃ mem, s.memory.writeAll (itemWrites p addr 0 xs) = .ok mem ∧
      (fillArray (fuel + 2) c (.primitive name) addr n (.list (xs.map Datum.int))).run.run s =
        (.ok (), { s with memory := mem }) := by
  obtain ⟨mem, hall, hloop⟩ := fill_items_run hp hint fuel addr xs 0 s hin
    (fun k _ hk => hblock k (by omega))
  refine ⟨mem, hall, ?_⟩
  rw [fillArray]
  · simp only [items, pure_bind, List.length_map, gt_iff_lt, Nat.not_lt.2 h, if_false,
      sizeOfClass_primitive hp]
    rw [run_bind_of_ok hloop]
    rfl
  all_goals intros; contradiction

/-! ## `new` of an array of integers -/

/-- What `new` of the array class `c` of `n` items of the type `p`, from the
integers `xs`, does on the session `s`: a zeroed block for the items is
allocated at the next free address; with no more integers than items, their
bytes are written at their items' places, first to last, and an array owning
the block is made; with more, `IndexError` is raised and nothing is written. -/
def ArrayNewHolds (c : CClass) (p : Primitive) (n : Nat) (xs : List Int) (prog : SessionM CData)
    (s : Session) : Prop :=
  if xs.length ≤ n then
    ∃ mem, (s.memory.allocate (p.size * n)).1.writeAll (itemWrites p s.memory.next 0 xs) = .ok mem ∧
      prog.run.run s = (.ok (.array c s.memory.next n true), { s with memory := mem })
  else
    prog.run.run s =
      (.error (.indexError "too many initializers"), { s with memory := (s.memory.allocate (p.size * n)).1 })

/-- `new` of an array of an integer type from a list of integers the type
holds. -/
theorem allocateData_int_array (hp : primitiveOf? name = some p) (hint : p.HoldsIntegers) (n : Nat)
    (xs : List Int) (hin : ∀ x ∈ xs, p.InRange x) (s : Session) :
    ArrayNewHolds (.array (.primitive name) (some n)) p n xs
      (allocateData (.array (.primitive name) (some n)) (.list (xs.map Datum.int))) s := by
  have hnone : (Datum.list (xs.map Datum.int)).isNone = false := rfl
  have hlen : ¬((n : Int) < 0) := Int.not_lt.2 (Int.natCast_nonneg n)
  unfold ArrayNewHolds allocateData
  simp only [pure_bind, sizeOfClass_primitive hp, hlen, if_false, Int.toNat_natCast, hnone,
    Bool.not_false, if_true]
  rw [run_bind_of_ok (allocate_run _ s), show initFuel = 998 + 1 + 1 from rfl]
  split
  · next h =>
    -- the items' places lie inside the new block
    obtain ⟨mem, hall, hfill⟩ := fillArray_int_list hp hint 998 (.array (.primitive name) (some n))
      s.memory.next n hin h { s with memory := (s.memory.allocate (p.size * n)).1 }
      (fun k hk => by
        have hk1 : (k + 1) * p.size ≤ n * p.size := Nat.mul_le_mul_right p.size (by omega)
        rw [Nat.succ_mul] at hk1
        exact Memory.blockOf?_allocate_within s.memory (Nat.le_add_right _ _)
          (by rw [Nat.mul_comm p.size n]; omega))
    exact ⟨mem, hall, by rw [run_bind_of_ok hfill]; rfl⟩
  · next h =>
    exact run_bind_of_error (fillArray_too_many _ _ _ _ _ (by omega) _)

/-- `new int[3]` from `[7, 8]` in a fresh session: the last item stays zero. -/
theorem new_int_array_of_two :
    primitiveOf? "int" = some ⟨4, .integer, true⟩ ∧ Primitive.HoldsIntegers ⟨4, .integer, true⟩ ∧
      (∀ x ∈ [7, 8], Primitive.InRange ⟨4, .integer, true⟩ x) ∧
      ArrayNewHolds (.array (.primitive "int") (some 3)) ⟨4, .integer, true⟩ 3 [7, 8]
        (allocateData (.array (.primitive "int") (some 3)) (.list ([7, 8].map Datum.int))) {} :=
  ⟨rfl, Or.inl rfl, by decide, allocateData_int_array rfl (Or.inl rfl) 3 [7, 8] (by decide) {}⟩

end SessionM

end Basis.Foreign
