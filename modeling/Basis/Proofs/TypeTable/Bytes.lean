import Basis.Proofs.Marshal.Words
import Basis.Foreign.Extension.Opcode

/-!
# Opcodes read back from their bytes

A module for the scripting side carries its type table as a byte string, each
opcode as four bytes written `\xHH`, high byte first (`fourBytes`): a length
as itself, an opcode as its argument shifted left by eight over its kind's
code. The interface reads each group of four back as a big-endian word whose
first byte carries the sign (`readWord`); an opcode's kind is the word's low
byte, and its argument the word shifted right by eight with the sign.

* `readEscapes_fourBytes`: the escapes give back the four bytes of the number
  in two's complement (`bytesOf`), each digit read in the range it was
  written from (`hexDigitValue?_eq`).
* `readWord_fourBytes`: read as a word they give the number wrapped into the
  signed 32-bit range, which is the number itself inside that range, as is
  every index, flag and primitive code of the other tables below `2^31`.
* `Opcode.readWord_bytes`: every opcode that can be written reads back, a
  length as itself, below `2^31`, an opcode as its kind's code in the low
  byte and its argument wrapped into the signed 24-bit range above it
  (`bmod_shiftCode`).
* `Opcode.argument_reads_back_iff`: nothing bounds the argument when it is
  written, and it reads back as itself exactly when it lies in
  `-2^23 … 2^23 - 1`.
-/

namespace Basis.Foreign

/-! ## Reading a byte-string literal -/

/-- The value of a hexadecimal digit, in capitals or not. -/
def hexDigitValue? (c : Char) : Option Nat :=
  if '0' ≤ c ∧ c ≤ '9' then some (c.toNat - 48)
  else if 'A' ≤ c ∧ c ≤ 'F' then some (c.toNat - 55)
  else if 'a' ≤ c ∧ c ≤ 'f' then some (c.toNat - 87)
  else none

/-- The bytes a run of `\xHH` escapes stands for; none for any other text. -/
def readEscapes : List Char → Option (List Nat)
  | [] => some []
  | '\\' :: 'x' :: h :: l :: rest => do
    let hi ← hexDigitValue? h
    let lo ← hexDigitValue? l
    let bs ← readEscapes rest
    pure ((16 * hi + lo) :: bs)
  | _ => none

/-- Four bytes as a word, high first, the first byte carrying the sign. -/
def wordOf : List Nat → Option Int
  | [b0, b1, b2, b3] =>
    some ((if 128 ≤ b0 then (b0 : Int) - 256 else b0) * 16777216 + b1 * 65536 + b2 * 256 + b3)
  | _ => none

/-- The word a text of four escaped bytes stands for, as the interface reads it. -/
def readWord (text : String) : Option Int := readEscapes text.toList >>= wordOf

/-! ## The escapes of a byte -/

/-- The bytes a number is written as: four, high first, in two's complement. -/
def bytesOf (n : Int) : List Nat := [24, 16, 8, 0].map fun (k : Nat) => ((n.fdiv (Int.pow 2 k)).fmod 256).toNat

theorem hexDigitValue?_eq {c : Char} {d : Nat} (hd : d < 16)
    (hc : c.toNat = if d < 10 then 48 + d else 55 + d) : hexDigitValue? c = some d := by
  have h0 : ('0' : Char).toNat = 48 := rfl
  have h9 : ('9' : Char).toNat = 57 := rfl
  have hA : ('A' : Char).toNat = 65 := rfl
  have hF : ('F' : Char).toNat = 70 := rfl
  simp only [hexDigitValue?, Char.le_def, UInt32.le_iff_toNat_le, Char.toNat_val, h0, h9, hA, hF]
  by_cases hd10 : d < 10
  · -- a decimal digit lands in the first range
    rw [if_pos hd10] at hc
    rw [if_pos (by omega)]
    congr 1
    omega
  · -- a capital letter, in the second
    rw [if_neg hd10] at hc
    rw [if_neg (by omega), if_pos (by omega)]
    congr 1
    omega

/-- A digit as `hexByte` writes it reads back as its value. -/
theorem hexDigitValue?_digit {d : Nat} (hd : d < 16) :
    hexDigitValue? (if d < 10 then Char.ofNat (48 + d) else Char.ofNat (55 + d)) = some d := by
  apply hexDigitValue?_eq hd
  split <;> exact Basis.Marshal.toNat_ofNat_of_lt (by omega)

/-- The escape of a byte reads back as the byte, before anything. -/
theorem readEscapes_hexByte {b : Nat} (hb : b < 256) (rest : List Char) :
    readEscapes ('\\' :: 'x' :: ((hexByte b).toList ++ rest)) = (readEscapes rest).map (b :: ·) := by
  have hhi : b / 16 % 16 = b / 16 := Nat.mod_eq_of_lt (by omega)
  simp only [hexByte, String.toList_ofList, List.cons_append, List.nil_append, readEscapes, hhi,
    hexDigitValue?_digit (d := b / 16) (by omega), hexDigitValue?_digit (Nat.mod_lt b (by decide : 16 > 0))]
  cases readEscapes rest <;> simp [Nat.div_add_mod]

theorem toList_fourBytes (n : Int) :
    (fourBytes n).toList = (bytesOf n).flatMap fun b => '\\' :: 'x' :: (hexByte b).toList := by
  simp [fourBytes, bytesOf]

/-- Escaped bytes read back as the bytes. -/
theorem readEscapes_escapes : ∀ bs : List Nat, (∀ b ∈ bs, b < 256) →
    readEscapes (bs.flatMap fun b => '\\' :: 'x' :: (hexByte b).toList) = some bs
  | [], _ => rfl
  | b :: bs, h => by
    rw [List.flatMap_cons, List.cons_append, List.cons_append,
      readEscapes_hexByte (h b List.mem_cons_self), readEscapes_escapes bs fun c hc => h c (List.mem_cons_of_mem b hc)]
    rfl

theorem bytesOf_lt (n : Int) : ∀ b ∈ bytesOf n, b < 256 := by
  simp only [bytesOf, List.mem_map]
  rintro b ⟨k, -, rfl⟩
  rw [Int.fmod_eq_emod_of_nonneg _ (by decide)]
  have h1 := Int.emod_nonneg (n.fdiv (Int.pow 2 k)) (by decide : (256 : Int) ≠ 0)
  have h2 := Int.emod_lt_of_pos (n.fdiv (Int.pow 2 k)) (by decide : (0 : Int) < 256)
  omega

/-- The four escapes of a number read back as its four bytes. -/
theorem readEscapes_fourBytes (n : Int) : readEscapes (fourBytes n).toList = some (bytesOf n) := by
  rw [toList_fourBytes, readEscapes_escapes _ (bytesOf_lt n)]

/-- The four bytes of a number make the number wrapped into the signed 32-bit range. -/
theorem wordOf_bytesOf (n : Int) : wordOf (bytesOf n) = some (n.bmod (2 ^ 32)) := by
  have e24 : Int.pow 2 24 = 16777216 := rfl
  have e16 : Int.pow 2 16 = 65536 := rfl
  have e8 : Int.pow 2 8 = 256 := rfl
  have e0 : Int.pow 2 0 = 1 := rfl
  have hbyte : ∀ x : Int, ((x % 256).toNat : Int) = x % 256 := fun x =>
    Int.toNat_of_nonneg (Int.emod_nonneg x (by decide))
  simp (disch := decide) only [bytesOf, List.map_cons, List.map_nil, e24, e16, e8, e0,
    Int.fdiv_eq_ediv_of_nonneg, Int.fmod_eq_emod_of_nonneg, Int.ediv_one, wordOf, Option.some.injEq, hbyte]
  -- the sign of the first byte is the half of the range the unsigned sum falls in
  have hsum := Marshal.bytes_sum n
  rw [Int.bmod_def]
  split_ifs <;> omega

/-- The four bytes of a number read back as the number wrapped into the signed 32-bit range. -/
theorem readWord_fourBytes (n : Int) : readWord (fourBytes n) = some (n.bmod (2 ^ 32)) := by
  rw [readWord, readEscapes_fourBytes]
  exact wordOf_bytesOf n

/-- A number wrapped into 24 bits is itself exactly when it lies in `-2^23 … 2^23 - 1`. -/
theorem bmod_two_pow_24_eq_self_iff (n : Int) : n.bmod (2 ^ 24) = n ↔ -2 ^ 23 ≤ n ∧ n < 2 ^ 23 := by
  rw [Int.bmod_def]
  split_ifs <;> omega

/-! ## Opcodes -/

theorem OpKind.code_lt (k : OpKind) : k.code < 256 := by
  cases k <;> decide

/-- An argument shifted over a code below 256, wrapped into 32 bits, keeps the
code in its low byte and the argument wrapped into 24 bits above it. -/
theorem bmod_shiftCode {n : Int} {code : Nat} (hc : code < 256) :
    (n * 256 + code).bmod (2 ^ 32) % 256 = code ∧ (n * 256 + code).bmod (2 ^ 32) / 256 = n.bmod (2 ^ 24) := by
  rw [Int.bmod_def, Int.bmod_def]
  constructor <;> split_ifs <;> omega

/-- Every opcode that can be written reads back from its four bytes: a length
as itself, below `2^31`; an opcode with its kind's code as the low byte and its
argument, wrapped into the signed 24-bit range, above it. -/
theorem Opcode.readWord_bytes {op : Opcode} {text : String} (h : op.bytes = .ok text) :
    ∃ w, readWord text = some w ∧
      (∀ s, op.arg = .expr s → w = s.toNat! ∧ w < 2 ^ 31) ∧
      (∀ k n, op.kind = some k → op.arg = .num n → w % 256 = k.code ∧ w / 256 = n.bmod (2 ^ 24)) := by
  obtain ⟨kind, arg⟩ := op
  cases arg with
  | expr s =>
    cases kind with
    | none =>
      -- a length: a run of digits below `2^31`, written as itself
      simp only [Opcode.bytes] at h
      -- the two refusals do not give a text
      split_ifs at h with hdigits hbig
      have hlt : s.toNat! < 2 ^ 31 := by rw [← Nat.pow_eq]; omega
      have htext : text = fourBytes s.toNat! := by cases h; rfl
      refine ⟨s.toNat!, ?_, ?_, by simp⟩
      · rw [htext, readWord_fourBytes, Int.bmod_eq_of_le (by omega) (by omega)]
      · rintro s' ⟨⟩
        exact ⟨rfl, by omega⟩
    | some k => simp [Opcode.bytes] at h
  | num n =>
    cases kind with
    | none =>
      have htext : text = fourBytes n := by simpa [Opcode.bytes] using h.symm
      exact ⟨_, htext ▸ readWord_fourBytes n, by simp, by simp⟩
    | some k =>
      have htext : text = fourBytes (n * 256 + k.code) := by simpa [Opcode.bytes] using h.symm
      refine ⟨_, htext ▸ readWord_fourBytes _, by simp, ?_⟩
      rintro k' n' ⟨⟩ ⟨⟩
      exact_mod_cast bmod_shiftCode (n := n) (OpKind.code_lt k)

/-- Nothing bounds the argument of an opcode when it is written: it reads back
as itself exactly when it lies in `-2^23 … 2^23 - 1`. -/
theorem Opcode.argument_reads_back_iff (k : OpKind) (n : Int) :
    (∃ text w, (Opcode.of k n).bytes = .ok text ∧ readWord text = some w ∧ w / 256 = n) ↔
      -2 ^ 23 ≤ n ∧ n < 2 ^ 23 := by
  have hbytes : (Opcode.of k n).bytes = .ok (fourBytes (n * 256 + k.code)) := rfl
  obtain ⟨w, hw, -, hkind⟩ := Opcode.readWord_bytes hbytes
  have harg : w / 256 = n.bmod (2 ^ 24) := (hkind k n rfl rfl).2
  constructor
  · rintro ⟨text, w', htext, hw', hn⟩
    rw [hbytes, Except.ok.injEq] at htext
    rw [← htext, hw, Option.some.injEq] at hw'
    rw [← bmod_two_pow_24_eq_self_iff, ← harg, hw', hn]
  · intro hn
    exact ⟨_, w, hbytes, hw, harg.trans ((bmod_two_pow_24_eq_self_iff n).2 hn)⟩

end Basis.Foreign
