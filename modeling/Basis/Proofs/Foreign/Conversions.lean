import Mathlib
import Basis.Foreign.Operate

/-!
# Integers in C data

An integer type of `w` bits holds the integers of one window of `2^w`
consecutive values: `-2^(w-1)` to `2^(w-1) - 1` when it is signed, `0` to
`2^w - 1` when it is not; `_Bool` holds 0 and 1 (`Primitive.InRange`). This
file follows a Python integer into such a type along each way the ctypes
backend takes one.

* `Primitive.wrap_spec`: the value an integer takes in a type is the one value
  of the window congruent to it modulo `2^w`; `Primitive.fits_iff`: the type
  keeps an integer exactly when it lies in the window.
* `bitfield_back_eq_iff`: the low `b` bits of an integer's bytes, read back
  with the type's sign, give the integer back exactly when it is written in
  `b` bits (`FitsBits`).
* `SessionM.encodeFor_int`: converting an integer to a type's bytes is the
  range check, then the bytes; `new`, an array item and a struct member all
  go through it (`allocateData_int`, `setItem_array_int`, `writeMember_int`),
  and a bit field reads back what it would keep before it writes
  (`writeMember_bitfield`).
* `integer_conversions_follow_c`: for every primitive type of the backend, a
  cast reduces the integer into the type, and a store through `new`, an array
  item, a member or a bit field succeeds exactly when the type (and the
  field's bits) hold the integer, and otherwise raises `OverflowError` with
  the session unchanged. `char` is apart: its stores take one-byte strings,
  so `new` of a `char *` with 65 raises `TypeError` (`char_new_refuses_int`).
-/

namespace Basis.Foreign

/-! ## Residues in a window -/

/-- The residue of `n` modulo `2 * h` taken in `-h` to `h - 1`, the way a
signed type reads it, is `n` moved into that window. -/
theorem balanced_residue (n h : Int) (hh : 0 < h) :
    (if h ≤ n % (2 * h) then n % (2 * h) - 2 * h else n % (2 * h)) = -h + (n + h) % (2 * h) := by
  have hlt := Int.emod_lt_of_pos n (show 0 < 2 * h by omega)
  have hnn := Int.emod_nonneg n (show 2 * h ≠ 0 by omega)
  -- `n + h` modulo `2 * h` is the residue of `n` moved up by `h`, less `2 * h` past the end
  rw [← Int.emod_add_emod n (2 * h) h]
  split
  · next hge =>
    have hwrap : (n % (2 * h) + h) % (2 * h) = n % (2 * h) + h - 2 * h := by
      have e : n % (2 * h) + h = n % (2 * h) + h - 2 * h + 2 * h := by omega
      conv_lhs => rw [e, Int.add_emod_right]
      exact Int.emod_eq_of_lt (by omega) (by omega)
    omega
  · next hlt' =>
    rw [Int.emod_eq_of_lt (a := n % (2 * h) + h) (b := 2 * h) (by omega) (by omega)]
    omega

/-- A window of `2^w` values is two halves of `2^(w-1)`. -/
theorem two_pow_eq_two_mul {w : Nat} (hw : 1 ≤ w) : (2 : Int) ^ w = 2 * 2 ^ (w - 1) := by
  rw [← pow_succ', Nat.sub_add_cancel hw]

/-- A value `least + (n - least) % m` of the window of `m` values from `least`
is `n` exactly when `n` lies in the window. -/
theorem window_eq_self_iff (least m n : Int) (hm : 0 < m) :
    least + (n - least) % m = n ↔ least ≤ n ∧ n < least + m := by
  constructor
  · intro h
    have hlt := Int.emod_lt_of_pos (n - least) hm
    have hnn := Int.emod_nonneg (n - least) (show m ≠ 0 by omega)
    omega
  · rintro ⟨h1, h2⟩
    rw [Int.emod_eq_of_lt (by omega) (by omega)]
    omega

/-- The value of the window of `m` values from `least` congruent to `n`. -/
theorem window_spec (least m n : Int) (hm : 0 < m) :
    least ≤ least + (n - least) % m ∧ least + (n - least) % m < least + m ∧
      least + (n - least) % m ≡ n [ZMOD m] ∧
      ∀ v, least ≤ v → v < least + m → v ≡ n [ZMOD m] → v = least + (n - least) % m := by
  have hlt := Int.emod_lt_of_pos (n - least) hm
  have hnn := Int.emod_nonneg (n - least) (show m ≠ 0 by omega)
  have hmod : least + (n - least) % m ≡ n [ZMOD m] := by
    calc least + (n - least) % m ≡ least + (n - least) [ZMOD m] :=
          Int.ModEq.add_left least (Int.mod_modEq (n - least) m)
      _ = n := by ring
  refine ⟨by omega, by omega, hmod, ?_⟩
  intro v hv1 hv2 hv
  -- two values of one window congruent to `n` have the same offset in it
  have hoff : (v - least) % m = (n - least) % m := Int.ModEq.sub_right least hv
  rw [Int.emod_eq_of_lt (by omega) (by omega)] at hoff
  omega

/-! ## The window of an integer type -/

namespace Primitive

/-- The least value of an integer type: `-2^(w-1)` for a signed type, 0 for
`_Bool` and the unsigned types. -/
def least (p : Primitive) : Int := if p.holding != .truth && p.signed then -2 ^ (p.bits - 1) else 0

/-- The number of values of an integer type: 2 for `_Bool`, `2^w` for the others. -/
def count (p : Primitive) : Int := if p.holding == .truth then 2 else 2 ^ p.bits

/-- The integers a type holds: `count` of them from `least` on. -/
def InRange (p : Primitive) (n : Int) : Prop := p.least ≤ n ∧ n < p.least + p.count

instance (p : Primitive) (n : Int) : Decidable (p.InRange n) :=
  inferInstanceAs (Decidable (_ ∧ _))

variable {p : Primitive}

theorem count_of_ne_truth (ht : p.holding ≠ .truth) : p.count = 2 ^ p.bits := by
  simp [count, ht]

/-- A type other than `_Bool` takes an integer to the value of its window
congruent to it. -/
theorem wrap_eq_window (hsize : 0 < p.size) (ht : p.holding ≠ .truth) (n : Int) :
    p.wrap n = p.least + (n - p.least) % 2 ^ p.bits := by
  have hpow := two_pow_eq_two_mul (show 1 ≤ p.bits by unfold bits; omega)
  have hh : (0 : Int) < 2 ^ (p.bits - 1) := by positivity
  have hnt : (p.holding == .truth) = false := by simpa using ht
  have hbne : (p.holding != .truth) = true := by simpa using ht
  have hpow' : Int.pow 2 p.bits = 2 ^ p.bits := rfl
  unfold wrap least
  rw [hpow', hnt, hbne, hpow]
  dsimp only
  rw [Int.mul_ediv_cancel_left _ (by decide)]
  cases p.signed
  · simp
  · simp only [Bool.false_eq_true, if_false, Bool.true_and, decide_eq_true_eq, if_true, ge_iff_le]
    rw [balanced_residue n _ hh, sub_neg_eq_add]

/-- A type other than `_Bool` gives an integer the one value of its window
congruent to it modulo `2^w`. -/
theorem wrap_spec (hsize : 0 < p.size) (ht : p.holding ≠ .truth) (n : Int) :
    p.InRange (p.wrap n) ∧ p.wrap n ≡ n [ZMOD 2 ^ p.bits] ∧
      ∀ v, p.InRange v → v ≡ n [ZMOD 2 ^ p.bits] → v = p.wrap n := by
  obtain ⟨h1, h2, hmod, huniq⟩ := window_spec p.least (2 ^ p.bits) n (by positivity)
  simp only [wrap_eq_window hsize ht, InRange, count_of_ne_truth ht]
  exact ⟨⟨h1, h2⟩, hmod, fun v ⟨hv1, hv2⟩ hv => huniq v hv1 hv2 hv⟩

/-- An integer is kept by an integer type exactly when the type holds it. -/
theorem fits_iff (hsize : 0 < p.size) (n : Int) : p.fits n = true ↔ p.InRange n := by
  unfold fits
  rw [beq_iff_eq]
  by_cases ht : p.holding = .truth
  · -- `_Bool` keeps 0 and 1, and takes every other integer to one of them
    have hl : p.least = 0 := by simp [least, ht]
    have hc : p.count = 2 := by simp [count, ht]
    unfold wrap
    rw [InRange, hl, hc, if_pos (by simp [ht])]
    by_cases hn : n = 0
    · simp [hn]
    · simp only [hn, bne_iff_ne, ne_eq, not_false_eq_true, if_true]
      omega
  · rw [wrap_eq_window hsize ht, InRange, count_of_ne_truth ht]
    exact window_eq_self_iff _ _ _ (by positivity)

/-- The types that hold integers: all but `char`, which holds one-byte
strings, and the float types. -/
def HoldsIntegers (p : Primitive) : Prop :=
  p.holding = .integer ∨ p.holding = .byte ∨ p.holding = .truth

end Primitive

theorem primitiveOf?_size_pos {name : String} {p : Primitive} (hp : primitiveOf? name = some p) : 0 < p.size := by
  unfold primitiveOf? at hp
  obtain ⟨⟨n, q⟩, hfind, rfl⟩ := Option.map_eq_some_iff.1 hp
  have hall : ∀ e ∈ machinePrimitives, 0 < e.2.size := by decide
  exact hall _ (List.mem_of_find?_eq_some hfind)

/-- `char` is the one type that holds one-byte strings. -/
theorem ne_char_of_holdsIntegers {name : String} {p : Primitive} (hp : primitiveOf? name = some p)
    (hint : p.HoldsIntegers) : name ≠ "char" := by
  rintro rfl
  have hchar : primitiveOf? "char" = some ⟨1, .character, true⟩ := rfl
  rw [hchar, Option.some.injEq] at hp
  subst hp
  rcases hint with h | h | h <;> cases h

/-- The failure of storing an integer a type does not hold: a negative one in
an unsigned type is "negative", any other "out of bounds". -/
def overflowFor (name : String) (p : Primitive) (n : Int) : Failure :=
  if !p.signed && n < 0 then .overflowError (name ++ ": negative integer")
  else .overflowError (name ++ ": integer out of bounds")

/-! ## Bytes of integers -/

theorem length_encodeLE (w n : Nat) : (encodeLE w n).length = w := by
  induction w generalizing n with
  | zero => rfl
  | succ w ih => simp [encodeLE, ih]

theorem length_encode_int (p : Primitive) (x : Int) : ((Scalar.int x).encode p).length = p.size :=
  length_encodeLE _ _

theorem decodeLE_encodeLE (w n : Nat) : decodeLE (encodeLE w n) = n % 2 ^ (8 * w) := by
  induction w generalizing n with
  | zero => simp [encodeLE, decodeLE, Nat.mod_one]
  | succ w ih =>
    -- the low byte, then the rest from the bytes above it
    rw [encodeLE, decodeLE, ih, show 8 * (w + 1) = 8 + 8 * w by ring, pow_add, Nat.mod_mul]
    simp [Nat.toUInt8]

/-- The bytes of an integer in a type read back as its residue modulo `2^w`. -/
theorem decode_encode_int (p : Primitive) (x : Int) :
    (decodeLE ((Scalar.int x).encode p) : Int) = x % 2 ^ p.bits := by
  have hpos : (0 : Int) < 2 ^ p.bits := by positivity
  have hnn := Int.emod_nonneg x hpos.ne'
  have hlt := Int.emod_lt_of_pos x hpos
  show (decodeLE (encodeLE p.size (x % Int.pow 2 (8 * p.size)).toNat) : Int) = _
  have hcast : ((2 ^ (8 * p.size) : Nat) : Int) = 2 ^ p.bits := by
    rw [Nat.cast_pow]
    rfl
  rw [decodeLE_encodeLE, show Int.pow 2 (8 * p.size) = 2 ^ p.bits from rfl,
    Nat.mod_eq_of_lt (by omega)]
  exact Int.toNat_of_nonneg hnn

/-- Whether an integer is written in `width` bits: in two's complement when
`signed`, as a binary number otherwise. -/
def FitsBits (signed : Bool) (width : Nat) (n : Int) : Prop :=
  if signed then -2 ^ (width - 1) ≤ n ∧ n < 2 ^ (width - 1) else 0 ≤ n ∧ n < 2 ^ width

instance (signed : Bool) (width : Nat) (n : Int) : Decidable (FitsBits signed width n) := by
  unfold FitsBits
  exact inferInstance

/-- The low `width` bits of an integer's bytes, read back with the type's sign,
give the integer back exactly when it is written in `width` bits: a bit field
keeps the integers of its own width and no others. -/
theorem bitfield_back_eq_iff (p : Primitive) {width : Nat} (hw1 : 1 ≤ width) (hw2 : width ≤ p.bits)
    (x : Int) :
    (if (p.signed && decide (decodeLE ((Scalar.int x).encode p) % Nat.pow 2 width ≥
        Nat.pow 2 (width - 1))) = true then
      ((decodeLE ((Scalar.int x).encode p) % Nat.pow 2 width : Nat) : Int) - Int.pow 2 width
    else ((decodeLE ((Scalar.int x).encode p) % Nat.pow 2 width : Nat) : Int)) = x ↔
      FitsBits p.signed width x := by
  -- the bits kept are the residue of `x` modulo `2^width`, which divides `2^w`
  have hkept : ((decodeLE ((Scalar.int x).encode p) % Nat.pow 2 width : Nat) : Int) =
      x % 2 ^ width := by
    rw [Nat.pow_eq, Int.natCast_emod, decode_encode_int, Nat.cast_pow, Nat.cast_ofNat,
      Int.emod_emod_of_dvd _ (pow_dvd_pow 2 hw2)]
  have hhalf : ((Nat.pow 2 (width - 1) : Nat) : Int) = 2 ^ (width - 1) := by
    rw [Nat.pow_eq, Nat.cast_pow, Nat.cast_ofNat]
  have hpow := two_pow_eq_two_mul hw1
  have hh : (0 : Int) < 2 ^ (width - 1) := by positivity
  rw [show Int.pow 2 width = 2 ^ width from rfl]
  unfold FitsBits
  cases p.signed
  · simp only [Bool.false_and, Bool.false_eq_true, if_false, hkept]
    have := window_eq_self_iff 0 (2 ^ width) x (by positivity)
    simpa using this
  · simp only [Bool.true_and, decide_eq_true_eq, if_true]
    simp only [ge_iff_le, ← Nat.cast_le (α := Int), hhalf, hkept]
    rw [hpow, balanced_residue x _ hh]
    have := window_eq_self_iff (-2 ^ (width - 1)) (2 * 2 ^ (width - 1)) x (by omega)
    rw [sub_neg_eq_add] at this
    rw [this]
    constructor <;> rintro ⟨h1, h2⟩ <;> exact ⟨h1, by omega⟩

/-! ## Memory that is there -/

namespace Memory

/-- A run of bytes inside one block is found. -/
theorem blockOf?_isSome {m : Memory} {addr len : Nat}
    (h : m.blocks.any (fun b => b.base ≤ addr && addr + len ≤ b.base + b.bytes.size)) :
    (m.blockOf? addr len).isSome := by
  rw [← Array.findIdx?_isSome, Option.isSome_iff_exists] at h
  obtain ⟨i, hi⟩ := h
  obtain ⟨hlt, -, -⟩ := Array.findIdx?_eq_some_iff_getElem.1 hi
  simp [blockOf?, hi, hlt]

/-- The bytes of a freshly allocated block are there. -/
theorem blockOf?_allocate (m : Memory) (size : Nat) :
    ((m.allocate size).1.blockOf? (m.allocate size).2 size).isSome := by
  apply blockOf?_isSome
  show (m.blocks.push ⟨m.next, ByteArray.mk (Array.replicate size 0)⟩).any
    (fun b => b.base ≤ m.next && m.next + size ≤ b.base + b.bytes.size) = true
  rw [Array.any_push, Bool.or_eq_true]
  right
  simp [ByteArray.size]

theorem read_ok {m : Memory} {addr len : Nat} (h : (m.blockOf? addr len).isSome) :
    ∃ bs, m.read addr len = .ok bs := by
  obtain ⟨⟨i, b⟩, hb⟩ := Option.isSome_iff_exists.1 h
  unfold read
  split
  · exact ⟨_, rfl⟩
  · rw [hb]
    exact ⟨_, rfl⟩

theorem write_ok {m : Memory} {addr : Nat} {bytes : List UInt8}
    (h : (m.blockOf? addr bytes.length).isSome) : ∃ m', m.write addr bytes = .ok m' := by
  obtain ⟨⟨i, b⟩, hb⟩ := Option.isSome_iff_exists.1 h
  unfold write
  split
  · exact ⟨_, rfl⟩
  · rw [hb]
    exact ⟨_, rfl⟩

end Memory

namespace SessionM

variable {name : String} {p : Primitive}

/-! ## Running on a session -/

theorem run_get (s : Session) : ((get : SessionM Session).run).run s = (.ok s, s) := rfl

/-- A computation that succeeded hands its result and session to the next. -/
theorem run_bind_of_ok {α β : Type} {x : SessionM α} {f : α → SessionM β} {s s' : Session} {a : α}
    (h : x.run.run s = (.ok a, s')) : (x >>= f).run.run s = (f a).run.run s' := by
  rw [ExceptT.run_bind, StateT.run_bind, h]
  rfl

theorem readBytes_run {s : Session} {addr len : Nat} {bs : List UInt8}
    (h : s.memory.read addr len = .ok bs) : (readBytes addr len).run.run s = (.ok bs, s) := by
  unfold readBytes
  rw [run_bind_of_ok (run_get s), h]
  rfl

theorem writeBytes_run {s : Session} {addr : Nat} {bytes : List UInt8} {mem : Memory}
    (h : s.memory.write addr bytes = .ok mem) :
    (writeBytes addr bytes).run.run s = (.ok (), { s with memory := mem }) := by
  unfold writeBytes
  rw [run_bind_of_ok (run_get s), h]
  rfl

theorem allocate_run (size : Nat) (s : Session) :
    (allocate size).run.run s = (.ok s.memory.next, { s with memory := (s.memory.allocate size).1 }) :=
  rfl

theorem typeName_run (d : Datum) (s : Session) :
    (typeName d).run.run s = (.ok (d.typeName s.nameOf), s) := rfl

/-! ## Integers through the backend -/

theorem primitiveFor_primitive (hp : primitiveOf? name = some p) :
    primitiveFor (.primitive name) = pure (name, p) := by
  simp [primitiveFor, hp]

/-- An integer converts to the bytes of an integer type when the type keeps it,
and raises `OverflowError` otherwise. -/
theorem encodeFor_int (hp : primitiveOf? name = some p) (hint : p.HoldsIntegers) (x : Int) :
    encodeFor (.primitive name) (.int x) =
      if p.fits x then pure ((Scalar.int x).encode p) else throw (overflowFor name p x) := by
  unfold Datum.int
  unfold encodeFor
  rw [primitiveFor_primitive hp]
  rcases hint with h | h | h <;>
  · simp only [pure_bind, h, overflowFor]
    split_ifs <;> simp_all

theorem castSourceInt_int (c : CClass) (x : Int) : castSourceInt c (.int x) = pure x := rfl

/-- A cast to an integer type other than `_Bool` and `char` wraps the integer
around to the type's width. -/
theorem castData_int_wrap (hp : primitiveOf? name = some p)
    (hint : p.holding = .integer ∨ p.holding = .byte) (x : Int) :
    castData (.primitive name) (.int x) = pure (.value (.primitive name) (.int (p.wrap x))) := by
  unfold castData
  rw [primitiveFor_primitive hp]
  rcases hint with h | h <;> simp [h, castSourceInt_int]

/-- A cast to `_Bool` tests the integer for zero. -/
theorem castData_int_truth (hp : primitiveOf? name = some p) (h : p.holding = .truth) (x : Int) :
    castData (.primitive name) (.int x) = pure (.value (.primitive name) (.truth (x != 0))) := by
  unfold castData
  rw [primitiveFor_primitive hp]
  simp [h, Datum.int]

/-- A cast to `char` keeps the low byte of the integer. -/
theorem castData_int_character (hp : primitiveOf? name = some p) (h : p.holding = .character)
    (x : Int) :
    castData (.primitive name) (.int x) =
      pure (.value (.primitive name) (.byte (x % 256).toNat.toUInt8)) := by
  unfold castData
  rw [primitiveFor_primitive hp]
  simp [h, castSourceInt_int]

theorem sizeOfClass_primitive (hp : primitiveOf? name = some p) :
    sizeOfClass (.primitive name) = pure p.size := by
  simp [sizeOfClass, hp]

/-- `new` of a pointer to an integer type, with an integer, allocates one value
of the type holding the integer, or raises `OverflowError` before allocating
when the type does not keep it. -/
theorem allocateData_int (hp : primitiveOf? name = some p) (hint : p.HoldsIntegers) (x : Int) :
    allocateData (.pointer (.primitive name)) (.int x) =
      if p.fits x then do
        let addr ← allocate p.size
        writeBytes addr ((Scalar.int x).encode p)
        pure (.pointer (.pointer (.primitive name)) addr true)
      else throw (overflowFor name p x) := by
  have hchar : (CClass.primitive name == CClass.primitive "char") = false := by
    show CClass.beq _ _ = false
    simpa [CClass.beq] using ne_char_of_holdsIntegers hp hint
  have hnone : (Datum.int x).isNone = false := rfl
  unfold allocateData firstValue
  simp only [hnone, Bool.false_eq_true, if_false, encodeFor_int hp hint, hchar]
  split
  · simp [length_encode_int]
  · simp

/-- Storing an integer as a value of an integer type writes its bytes when the
type keeps it, and raises `OverflowError` otherwise. -/
theorem store_int (hp : primitiveOf? name = some p) (hint : p.HoldsIntegers) (addr : Nat) (x : Int) :
    store (.primitive name) addr (.int x) =
      if p.fits x then writeBytes addr ((Scalar.int x).encode p) else throw (overflowFor name p x) := by
  unfold store
  rw [encodeFor_int hp hint]
  split <;> simp

/-- Assigning an integer to an item of an array of an integer type, at an
index within the array, is a store at the item's place. -/
theorem setItem_array_int (hp : primitiveOf? name = some p)
    (len : Option Nat) (a n : Nat) (owned : Bool) {i : Int} (hi : 0 ≤ i ∧ i < n) (x : Int) :
    setItem (.cdata (.array (.array (.primitive name) len) a n owned)) (.int i) (.int x) =
      store (.primitive name) (a + i.toNat * p.size) (.int x) := by
  have hin : (decide (i < 0) || decide (i ≥ n)) = false := by simp; omega
  unfold setItem
  simp only [indexOf?, Datum.int, hin, Bool.false_eq_true, if_false, sizeOfClass_primitive hp, store]
  simp

/-- Assigning an integer to a member of an integer type that is no bit field is
a store at the member's place. -/
theorem writeMember_int {m : Member}
    (hcls : m.cls = .primitive name) (hbits : m.place.bits = none) (owner : Datum) (base : Nat)
    (x : Int) :
    writeMember owner base m (.int x) = store (.primitive name) (base + m.place.offset) (.int x) := by
  unfold writeMember
  simp [hbits, hcls, CClass.isArray]

/-- `char` holds one-byte strings: an integer is refused with `TypeError`,
before anything changes. -/
theorem encodeFor_int_character (hp : primitiveOf? name = some p) (h : p.holding = .character)
    (x : Int) (s : Session) :
    (encodeFor (.primitive name) (.int x)).run.run s =
      (.error (.typeError "character expected, got int"), s) := by
  unfold encodeFor
  rw [primitiveFor_primitive hp]
  simp only [pure_bind, h, Datum.int]
  rw [run_bind_of_ok (typeName_run _ s)]
  rfl

/-- `new` of a `char *` with an integer raises that `TypeError`. -/
theorem allocateData_int_character (hp : primitiveOf? name = some p) (h : p.holding = .character)
    (x : Int) (s : Session) :
    (allocateData (.pointer (.primitive name)) (.int x)).run.run s =
      (.error (.typeError "character expected, got int"), s) := by
  have hnone : (Datum.int x).isNone = false := rfl
  unfold allocateData firstValue
  simp only [hnone, Bool.false_eq_true, if_false]
  rw [ExceptT.run_bind, StateT.run_bind, encodeFor_int_character hp h x s]
  rfl

/-! ## What a store does -/

/-- What storing the integer `x` as a value of the type `p` named `name` at
`addr` does, run on the session `s`: when the type holds `x`, the bytes of `x`
are written there and nothing else changes; otherwise it raises the type's
`OverflowError` and nothing changes. -/
def StoresAt (name : String) (p : Primitive) (x : Int) (addr : Nat) (prog : SessionM Unit)
    (s : Session) : Prop :=
  if p.InRange x then
    ∃ mem, s.memory.write addr ((Scalar.int x).encode p) = .ok mem ∧
      prog.run.run s = (.ok (), { s with memory := mem })
  else prog.run.run s = (.error (overflowFor name p x), s)

/-- What `new` of a pointer to the type `p` named `name`, with the integer `x`,
does, run on the session `s`: when the type holds `x`, a new block at the next
free address holds the bytes of `x`, and a pointer owning it is made;
otherwise it raises the type's `OverflowError` and nothing changes. -/
def NewHolds (name : String) (p : Primitive) (x : Int) (prog : SessionM CData) (s : Session) : Prop :=
  if p.InRange x then
    ∃ mem, (s.memory.allocate p.size).1.write s.memory.next ((Scalar.int x).encode p) = .ok mem ∧
      prog.run.run s = (.ok (.pointer (.pointer (.primitive name)) s.memory.next true), { s with memory := mem })
  else prog.run.run s = (.error (overflowFor name p x), s)

/-- What assigning the integer `x` to a bit field of `width` bits of the type
`p` named `name` does, run on the session `s`: when the type holds `x` and the
field's bits do too, only the memory changes; otherwise it raises
`OverflowError`, the type's own or the field's, and nothing changes. -/
def AssignsBitfield (name : String) (p : Primitive) (width : Nat) (x : Int) (prog : SessionM Unit)
    (s : Session) : Prop :=
  if p.InRange x then
    if FitsBits p.signed width x then ∃ mem, prog.run.run s = (.ok (), { s with memory := mem })
    else prog.run.run s = (.error (.overflowError "value too large for bitfield"), s)
  else prog.run.run s = (.error (overflowFor name p x), s)

/-- Storing an integer as a value of an integer type, in memory that is there. -/
theorem store_storesAt (hp : primitiveOf? name = some p) (hint : p.HoldsIntegers) (addr : Nat) (x : Int)
    (s : Session) (hblock : (s.memory.blockOf? addr p.size).isSome) :
    StoresAt name p x addr (store (.primitive name) addr (.int x)) s := by
  have hsize := primitiveOf?_size_pos hp
  unfold StoresAt
  rw [store_int hp hint]
  simp only [Primitive.fits_iff hsize]
  split_ifs with hin
  · obtain ⟨mem, hmem⟩ := @Memory.write_ok s.memory addr ((Scalar.int x).encode p)
      (by rw [length_encode_int]; exact hblock)
    exact ⟨mem, hmem, writeBytes_run hmem⟩
  · rfl

/-- `new` of a pointer to an integer type with an integer. -/
theorem allocateData_newHolds (hp : primitiveOf? name = some p) (hint : p.HoldsIntegers) (x : Int)
    (s : Session) : NewHolds name p x (allocateData (.pointer (.primitive name)) (.int x)) s := by
  have hsize := primitiveOf?_size_pos hp
  unfold NewHolds
  rw [allocateData_int hp hint]
  simp only [Primitive.fits_iff hsize]
  split_ifs with hin
  · -- the new block holds the value's bytes
    obtain ⟨mem, hmem⟩ := @Memory.write_ok (s.memory.allocate p.size).1 s.memory.next
      ((Scalar.int x).encode p)
      (by rw [length_encode_int]; exact Memory.blockOf?_allocate s.memory p.size)
    refine ⟨mem, hmem, ?_⟩
    rw [run_bind_of_ok (allocate_run p.size s), run_bind_of_ok (writeBytes_run hmem)]
    rfl
  · rfl

/-- Assigning an integer to a bit field of an integer type, whose width is at
least one bit and at most the type's, in memory that is there. -/
theorem writeMember_bitfield (hp : primitiveOf? name = some p) (hint : p.HoldsIntegers)
    {m : Member} (hcls : m.cls = .primitive name) {first width : Nat}
    (hbits : m.place.bits = some (first, width)) (hw1 : 1 ≤ width) (hw2 : width ≤ p.bits)
    (owner : Datum) (base : Nat) (x : Int) (s : Session)
    (hblock : (s.memory.blockOf? (base + m.place.offset) p.size).isSome) :
    AssignsBitfield name p width x (writeMember owner base m (.int x)) s := by
  have hsize := primitiveOf?_size_pos hp
  unfold AssignsBitfield writeMember
  simp only [hbits, hcls, primitiveFor_primitive hp, pure_bind, encodeFor_int hp hint,
    Primitive.fits_iff hsize]
  by_cases hin : p.InRange x
  · rw [if_pos hin, if_pos hin]
    obtain ⟨bs, hread⟩ := Memory.read_ok hblock
    simp only [pure_bind]
    rw [run_bind_of_ok (readBytes_run hread)]
    -- the field reads back `x` exactly when its bits hold it
    have hback := bitfield_back_eq_iff p hw1 hw2 x
    by_cases hfits : FitsBits p.signed width x
    · rw [if_pos hfits]
      have hsame := hback.2 hfits
      obtain ⟨mem, hmem⟩ := @Memory.write_ok s.memory (base + m.place.offset)
        (encodeLE p.size (decodeLE bs - (decodeLE bs &&& (Nat.pow 2 width - 1) * Nat.pow 2 first) +
          decodeLE ((Scalar.int x).encode p) % Nat.pow 2 width * Nat.pow 2 first))
        (by rw [length_encodeLE]; exact hblock)
      refine ⟨mem, ?_⟩
      simp only [Datum.int, hsame, bne_self_eq_false, Bool.false_eq_true, if_false]
      exact writeBytes_run hmem
    · rw [if_neg hfits]
      have hdiff : ¬ _ := fun h => hfits (hback.1 h)
      simp only [Datum.int, bne_iff_ne, ne_eq, hdiff, not_false_eq_true, if_true]
      rfl
  · rw [if_neg hin, if_neg hin]
    rfl

end SessionM

/-! ## Integer conversions follow C -/

open SessionM

/-- How the integer type `p` named `name` converts Python integers, as C does.
A cast reduces the integer into the type; a store, through `new`, an array
item or a struct member, succeeds exactly when the type holds the integer and
otherwise raises `OverflowError` having changed nothing; a bit field also
needs the integer to be written in its bits. `char` is apart: a cast keeps the
low byte, and a store takes a one-byte string, an integer being refused. -/
structure ConvertsLikeC (name : String) (p : Primitive) : Prop where
  /-- A cast to a type other than `_Bool` and `char` gives the one value of the
  type congruent to the integer modulo `2^w`. -/
  cast_wraps : p.holding = .integer ∨ p.holding = .byte → ∀ x : Int, ∃ v,
    castData (.primitive name) (.int x) = pure (.value (.primitive name) (.int v)) ∧
      p.InRange v ∧ v ≡ x [ZMOD 2 ^ p.bits] ∧ ∀ u, p.InRange u → u ≡ x [ZMOD 2 ^ p.bits] → u = v
  /-- A cast to `_Bool` tests the integer for zero. -/
  cast_truth : p.holding = .truth → ∀ x : Int,
    castData (.primitive name) (.int x) = pure (.value (.primitive name) (.truth (x != 0)))
  /-- A cast to `char` keeps the integer's low byte. -/
  cast_character : p.holding = .character → ∀ x : Int, ∃ b : UInt8,
    castData (.primitive name) (.int x) = pure (.value (.primitive name) (.byte b)) ∧
      (b.toNat : Int) = x % 256
  /-- `new` of a pointer to the type holds the integer, or raises `OverflowError`. -/
  new : p.HoldsIntegers → ∀ (x : Int) (s : Session),
    NewHolds name p x (allocateData (.pointer (.primitive name)) (.int x)) s
  /-- An item of an array of the type, within the array and in memory that is
  there, takes the integer or raises `OverflowError`. -/
  item : p.HoldsIntegers → ∀ (len : Option Nat) (a n : Nat) (owned : Bool) (i x : Int) (s : Session),
    0 ≤ i → i < n → (s.memory.blockOf? (a + i.toNat * p.size) p.size).isSome →
    StoresAt name p x (a + i.toNat * p.size)
      (setItem (.cdata (.array (.array (.primitive name) len) a n owned)) (.int i) (.int x)) s
  /-- A member of the type that is no bit field, in memory that is there, takes
  the integer or raises `OverflowError`. -/
  member : p.HoldsIntegers → ∀ (m : Member) (owner : Datum) (base : Nat) (x : Int) (s : Session),
    m.cls = .primitive name → m.place.bits = none →
    (s.memory.blockOf? (base + m.place.offset) p.size).isSome →
    StoresAt name p x (base + m.place.offset) (writeMember owner base m (.int x)) s
  /-- A bit field of the type, of a width the layout allows, takes the integer
  when the type holds it and it is written in the field's bits; otherwise
  `OverflowError` is raised and nothing changes. -/
  bitfield : p.HoldsIntegers → ∀ (m : Member) (first width : Nat) (owner : Datum) (base : Nat) (x : Int)
    (s : Session), m.cls = .primitive name → m.place.bits = some (first, width) → 1 ≤ width →
    width ≤ p.bits → (s.memory.blockOf? (base + m.place.offset) p.size).isSome →
    AssignsBitfield name p width x (writeMember owner base m (.int x)) s
  /-- `new` of a `char *` with an integer raises `TypeError`. -/
  new_character : p.holding = .character → ∀ (x : Int) (s : Session),
    (allocateData (.pointer (.primitive name)) (.int x)).run.run s =
      (.error (.typeError "character expected, got int"), s)

theorem integer_conversions_follow_c {name : String} {p : Primitive} (hp : primitiveOf? name = some p) :
    ConvertsLikeC name p where
  cast_wraps hint x := by
    have ht : p.holding ≠ .truth := by rcases hint with h | h <;> rw [h] <;> decide
    obtain ⟨hin, hmod, huniq⟩ := Primitive.wrap_spec (primitiveOf?_size_pos hp) ht x
    exact ⟨p.wrap x, castData_int_wrap hp hint x, hin, hmod, huniq⟩
  cast_truth h x := castData_int_truth hp h x
  cast_character h x := by
    refine ⟨_, castData_int_character hp h x, ?_⟩
    have hnn := Int.emod_nonneg x (show (256 : Int) ≠ 0 by decide)
    have hlt := Int.emod_lt_of_pos x (show (0 : Int) < 256 by decide)
    rw [Nat.toUInt8_eq, UInt8.toNat_ofNat']
    omega
  new hint x s := allocateData_newHolds hp hint x s
  item _ len a n owned i x s hi0 hin hblock := by
    rw [setItem_array_int hp len a n owned ⟨hi0, hin⟩ x]
    exact store_storesAt hp ‹_› _ x s hblock
  member hint m owner base x s hcls hbits hblock := by
    rw [writeMember_int hcls hbits owner base x]
    exact store_storesAt hp hint _ x s hblock
  bitfield hint m first width owner base x s hcls hbits hw1 hw2 hblock :=
    writeMember_bitfield hp hint hcls hbits hw1 hw2 owner base x s hblock
  new_character h x s := allocateData_int_character hp h x s

/-- `int`, a signed type of 32 bits, converts integers as C does. -/
theorem int_converts_like_c :
    primitiveOf? "int" = some ⟨4, .integer, true⟩ ∧ ConvertsLikeC "int" ⟨4, .integer, true⟩ :=
  ⟨rfl, integer_conversions_follow_c rfl⟩

/-- `char` holds 65, yet `new` of a `char *` with the integer 65 raises
`TypeError`: a store to `char` takes a one-byte string. -/
theorem char_new_refuses_int :
    primitiveOf? "char" = some ⟨1, .character, true⟩ ∧ (⟨1, .character, true⟩ : Primitive).InRange 65 ∧
      (allocateData (.pointer (.primitive "char")) (.int 65)).run.run {} =
        (.error (.typeError "character expected, got int"), {}) :=
  ⟨rfl, by decide, allocateData_int_character rfl rfl 65 {}⟩

end Basis.Foreign
