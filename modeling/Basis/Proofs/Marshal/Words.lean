import Mathlib.Data.Nat.Digits.Defs
import Basis.Marshal.Reader
import Basis.Marshal.Writer

/-!
# Words and digits read back

The serial format writes counts as 32-bit little-endian words (`word`) and the
magnitude of an integer as base-`2^15` digits of two bytes each (`short`), every
byte as one character. This file shows that the reader takes each of them back.

Input is described by `Spells inp p cs`: from position `p` on, the items of the
input are the one-character texts of `cs`. Reads are stated as runs from a
cursor, and `run_bind_of_run` chains them, so that no proof unfolds the monad.

* `signedOf_word`: the four bytes of a word give back every integer in
  `-2^31 … 2^31 - 1`; the sign comes from bit 7 of the last byte
  (`and_two_pow_eq_zero_iff`), the value from bytes that add up where they are
  ORed together (`or_shiftLeft_eq_add`).
* `run_readShort`, `run_readDigits`: a digit below `2^15` reads back with its
  sign bit clear, and the digits ORed in at bit `15 i` add up to
  `Nat.ofDigits (2^15)` of them (`lor_shiftLeft_eq_add`).
* `digits15_eq_digits`: the writer's digits are the standard base-`2^15`
  expansion, so `Nat.ofDigits_digits` gives the magnitude back.
* `run_loadContents_int`: what follows the code `l` of an integer reads back as
  that integer, and the reader stops right after its last digit.
-/

namespace Basis.Marshal

theorem toNat_ofNat_of_lt {n : Nat} (h : n < 256) : (Char.ofNat n).toNat = n := by
  have hv : n.isValidChar := Or.inl (by omega)
  -- a valid code point goes through `Char.ofNatAux`, whose code is the number itself
  show (if h : n.isValidChar then Char.ofNatAux n h else Char.ofNat 0).toNat = n
  rw [dif_pos hv]
  rfl

/-- The power the model writes as `Int.pow` is the power of the integers. -/
theorem int_pow_eq_pow (b : Int) (e : Nat) : Int.pow b e = b ^ e := rfl

/-- Bytes put side by side with `|||` add up as base-256 digits. -/
theorem or_shiftLeft_eq_add {a b k : Nat} (ha : a < 2 ^ k) : a ||| b <<< k = a + b * 2 ^ k := by
  rw [Nat.shiftLeft_eq, Nat.or_comm, Nat.mul_comm, ← Nat.two_pow_add_eq_or_of_lt ha, Nat.add_comm]

theorem and_two_pow_eq_zero_iff {x k : Nat} (h : x < 2 ^ (k + 1)) : x &&& 2 ^ k = 0 ↔ x < 2 ^ k := by
  constructor
  · intro hand
    refine (Nat.lt_or_ge x (2 ^ k)).resolve_right fun hge => ?_
    obtain ⟨r, rfl⟩ : ∃ r, x = 2 ^ k + r := ⟨x - 2 ^ k, by omega⟩
    have hr : r < 2 ^ k := by rw [Nat.pow_succ] at h; omega
    have hbit := congrArg (Nat.testBit · k) hand
    simp [Nat.testBit_two_pow_add_eq, Nat.testBit_lt_two_pow hr] at hbit
  · intro hlt
    apply Nat.eq_of_testBit_eq
    intro j
    rw [Nat.testBit_and, Nat.testBit_two_pow, Nat.zero_testBit]
    by_cases hj : k = j
    · subst hj; simp [Nat.testBit_lt_two_pow hlt]
    · simp [hj]

/-- The characters of a piece; a byte piece has none. -/
def Piece.chars : Piece → List Char
  | .text cs => cs
  | .bytes _ => []

theorem byte_lt (x : Int) (i : Nat) : ((x >>> (8 * i)) % 256).toNat < 256 := by
  have h1 := Int.emod_nonneg (x >>> (8 * i)) (by decide : (256 : Int) ≠ 0)
  have h2 := Int.emod_lt_of_pos (x >>> (8 * i)) (by decide : (0 : Int) < 256)
  omega

theorem word_codes (x : Int) :
    (word x).chars.map Char.toNat = (List.range 4).map fun (i : Nat) => ((x >>> (8 * i)) % 256).toNat := by
  simp [word, Piece.chars, toNat_ofNat_of_lt (byte_lt x _)]

@[simp] theorem length_chars_word (x : Int) : (word x).chars.length = 4 := rfl

/-- The four bytes of a number, high first, add up to it modulo `2^32`. -/
theorem bytes_sum (n : Int) :
    n / 16777216 % 256 * 16777216 + n / 65536 % 256 * 65536 + n / 256 % 256 * 256 + n % 256 = n % 2 ^ 32 := by
  omega

theorem signedOf_word {x : Int} (hlo : -2 ^ 31 ≤ x) (hhi : x < 2 ^ 31) :
    signedOf 4 ((word x).chars.map Char.toNat) = x := by
  rw [word_codes]
  have hr : List.range 4 = [0, 1, 2, 3] := rfl
  simp only [hr, List.map, signedOf, List.length, List.zip, List.zipWith, List.foldl, List.getLastD,
    List.getLast, Int.shiftRight_eq_div_pow, int_pow_eq_pow, Nat.reduceMul, Nat.reducePow,
    Nat.zero_or, Nat.shiftLeft_zero]
  generalize hb0 : (x / 1 % 256).toNat = b0
  generalize hb1 : (x / 256 % 256).toNat = b1
  generalize hb2 : (x / 65536 % 256).toNat = b2
  generalize hb3 : (x / 16777216 % 256).toNat = b3
  have h8 : b0 < 2 ^ 8 := by omega
  rw [or_shiftLeft_eq_add h8]
  have h16 : b0 + b1 * 2 ^ 8 < 2 ^ 16 := by omega
  rw [or_shiftLeft_eq_add h16]
  have h24 : b0 + b1 * 2 ^ 8 + b2 * 2 ^ 16 < 2 ^ 24 := by omega
  rw [or_shiftLeft_eq_add h24]
  have htop : b3 &&& 2 ^ 7 = 0 ↔ b3 < 2 ^ 7 := and_two_pow_eq_zero_iff (by omega)
  -- the bytes add up to `x` modulo `2^32`; both signs read this one sum
  have hsum : (b0 : Int) + b1 * 2 ^ 8 + b2 * 2 ^ 16 + b3 * 2 ^ 24 = x % 2 ^ 32 := by
    have := bytes_sum x
    omega
  by_cases hneg : x < 0
  · have hset : b3 &&& 128 ≠ 0 := fun h => absurd (htop.mp h) (by omega)
    rw [if_pos (by simp [hset]; omega)]
    omega
  · have hclear : b3 &&& 128 = 0 := htop.mpr (by omega)
    simp [hclear]
    omega

/-- The items of the input from position `p` on are the characters `cs`, one
one-character text each. -/
def Spells (inp : Input) (p : Int) (cs : List Char) : Prop :=
  ∀ i (h : i < cs.length), inp.at? (p + i) = some (.str (String.singleton cs[i]))

theorem spells_nil (inp : Input) (p : Int) : Spells inp p [] := fun _ h => absurd h (Nat.not_lt_zero _)

theorem spells_cons {inp : Input} {p : Int} {c : Char} {cs : List Char} :
    Spells inp p (c :: cs) ↔ inp.at? p = some (.str (String.singleton c)) ∧ Spells inp (p + 1) cs := by
  constructor
  · intro h
    have h0 := h 0 (by simp)
    simp only [List.getElem_cons_zero, Int.natCast_zero, Int.add_zero] at h0
    refine ⟨h0, fun i hi => ?_⟩
    have := h (i + 1) (by simp [hi])
    simpa [Int.add_assoc, Int.add_comm 1] using this
  · rintro ⟨h0, hs⟩ i hi
    cases i with
    | zero => simpa using h0
    | succ i =>
      have := hs i (by simpa using hi)
      simpa [Int.add_assoc, Int.add_comm 1] using this

theorem spells_append {inp : Input} {p : Int} {a b : List Char} :
    Spells inp p (a ++ b) ↔ Spells inp p a ∧ Spells inp (p + a.length) b := by
  induction a generalizing p with
  | nil => simp [spells_nil]
  | cons c a ih =>
    have hpos : p + 1 + (a.length : Int) = p + ((a.length + 1 : Nat) : Int) := by omega
    simp only [List.cons_append, spells_cons, ih, List.length_cons, hpos, and_assoc]

theorem run_readItem {inp : Input} {p : Int} {v : Value} (h : inp.at? p = some v) (I : List Value) :
    (readItem inp).run ⟨p, I⟩ = .ok (v, ⟨p + 1, I⟩) := by
  simp [readItem, h]
  rfl

theorem ordOf_char (c : Char) : ordOf (.str (String.singleton c)) = .ok c.toNat := by
  simp [ordOf, Value.ord?, Except.mapError]

theorem run_readLong {inp : Input} {p : Int} {c0 c1 c2 c3 : Char} (h : Spells inp p [c0, c1, c2, c3])
    (I : List Value) :
    (readLong inp).run ⟨p, I⟩ = .ok (signedOf 4 [c0.toNat, c1.toNat, c2.toNat, c3.toNat], ⟨p + 4, I⟩) := by
  have h0 := h 0 (by simp)
  have h1 := h 1 (by simp)
  have h2 := h 2 (by simp)
  have h3 := h 3 (by simp)
  have hr : List.range 4 = [0, 1, 2, 3] := rfl
  simp at h0 h1 h2 h3
  simp [readLong, hr, h0, h1, h2, h3, ordOf_char]
  rfl

/-- A read that succeeds hands its result and cursor to what follows it. -/
theorem run_bind_of_run {α β : Type} {r : Reader α} {f : α → Reader β} {c c' : Cursor} {a : α}
    (h : r.run c = .ok (a, c')) : (r >>= f).run c = (f a).run c' := by
  rw [StateT.run_bind, h]
  rfl

theorem run_readByte {inp : Input} {p : Int} {c : Char}
    (h : inp.at? p = some (.str (String.singleton c))) (I : List Value) :
    (readByte inp).run ⟨p, I⟩ = .ok (c.toNat, ⟨p + 1, I⟩) := by
  rw [readByte, run_bind_of_run (run_readItem h I), ordOf_char]
  rfl

theorem run_readShort {inp : Input} {p : Int} {d : Nat} (hd : d < 2 ^ 15)
    (h : Spells inp p ((short d).flatMap Piece.chars)) (I : List Value) :
    (readShort inp).run ⟨p, I⟩ = .ok (d, ⟨p + 2, I⟩) := by
  have hs : (short d).flatMap Piece.chars = [Char.ofNat (d % 256), Char.ofNat (d / 256 % 256)] := rfl
  rw [hs] at h
  obtain ⟨h0, h1⟩ := spells_cons.mp h
  have h1 := (spells_cons.mp h1).1
  have hlo := toNat_ofNat_of_lt (Nat.mod_lt d (by decide : 256 > 0))
  have hhi := toNat_ofNat_of_lt (Nat.mod_lt (d / 256) (by decide : 256 > 0))
  have hx : d % 256 ||| (d / 256 % 256) <<< 8 = d := by
    rw [or_shiftLeft_eq_add (k := 8) (by omega)]
    omega
  have hclear : d &&& 0x8000 = 0 := (and_two_pow_eq_zero_iff (k := 15) (by omega)).mpr hd
  rw [readShort, run_bind_of_run (run_readByte h0 I), run_bind_of_run (run_readByte h1 I), hlo, hhi, hx]
  simp [hclear, Int.add_assoc]
  rfl

/-- The base-`2^15` digits are the digits of the standard expansion. -/
theorem digits15_eq_digits (n : Nat) : digits15 n = Nat.digits (2 ^ 15) n := by
  induction n using Nat.strong_induction_on with
  | _ n ih =>
    rw [digits15, Nat.pow_eq]
    split_ifs with h
    · simp [h]
    · rw [Nat.digits_def' (by decide) (by omega), ih _ (by omega)]

/-- A digit ORed in above the bits taken so far adds its value there. -/
theorem lor_shiftLeft_eq_add {x d k : Nat} (hx : x < 2 ^ k) :
    Integer.lor (x : Int) ((d : Int) <<< k) = ((x + 2 ^ k * d : Nat) : Int) := by
  have hshift : ((d : Int) <<< k) = ((d <<< k : Nat) : Int) := by
    rw [Int.shiftLeft_eq, Nat.shiftLeft_eq]; simp
  rw [hshift, Integer.lor]
  simp only [Int.natCast_nonneg, decide_true, Int.toNat_natCast]
  rw [or_shiftLeft_eq_add hx, Nat.mul_comm]

theorem run_readDigits {inp : Input} (I : List Value) :
    ∀ (ds : List Nat) (i x : Nat) (p : Int), (∀ d ∈ ds, d < 2 ^ 15) → x < 2 ^ (15 * i) →
      Spells inp p (ds.flatMap fun d => (short d).flatMap Piece.chars) →
      (readDigits inp ds.length i x).run ⟨p, I⟩ =
        .ok (((x + 2 ^ (15 * i) * Nat.ofDigits (2 ^ 15) ds : Nat) : Int), ⟨p + 2 * ds.length, I⟩)
  | [], i, x, p, _, _, _ => by simp [readDigits, Nat.ofDigits]; rfl
  | d :: ds, i, x, p, hds, hx, hs => by
    have hd : d < 2 ^ 15 := hds d (by simp)
    rw [List.flatMap_cons, spells_append] at hs
    have hlen : ((short d).flatMap Piece.chars).length = 2 := rfl
    rw [hlen] at hs
    -- the digit lands above the bits read so far, so the sum stays below the next power
    have hP : 2 ^ (15 * (i + 1)) = 2 ^ 15 * 2 ^ (15 * i) := by
      rw [Nat.mul_add, Nat.mul_one, Nat.pow_add, Nat.mul_comm]
    have hdP : d * 2 ^ (15 * i) ≤ (2 ^ 15 - 1) * 2 ^ (15 * i) := Nat.mul_le_mul_right _ (by omega)
    have hnext : x + 2 ^ (15 * i) * d < 2 ^ (15 * (i + 1)) := by
      rw [hP, Nat.mul_comm (2 ^ (15 * i)) d]; omega
    rw [List.length_cons, readDigits, run_bind_of_run (run_readShort hd hs.1 I),
      show i * 15 = 15 * i from Nat.mul_comm i 15, lor_shiftLeft_eq_add hx,
      run_readDigits I ds (i + 1) _ (p + 2) (fun d' hd' => hds d' (by simp [hd'])) hnext (by simpa using hs.2)]
    have hvalue : x + 2 ^ (15 * i) * d + 2 ^ (15 * (i + 1)) * Nat.ofDigits (2 ^ 15) ds =
        x + 2 ^ (15 * i) * Nat.ofDigits (2 ^ 15) (d :: ds) := by
      rw [Nat.ofDigits_cons, hP]; ring
    have hpos : p + 2 + 2 * (ds.length : Int) = p + 2 * ((ds.length + 1 : Nat) : Int) := by
      push_cast; ring
    rw [hvalue, hpos]

theorem length_digitChars (ds : List Nat) :
    (ds.flatMap fun d => (short d).flatMap Piece.chars).length = 2 * ds.length := by
  induction ds with
  | nil => rfl
  | cons d ds ih =>
    rw [List.flatMap_cons, List.length_append, ih, List.length_cons]
    have : ((short d).flatMap Piece.chars).length = 2 := rfl
    omega

theorem run_readLong_word {inp : Input} {p : Int} {x : Int} (hlo : -2 ^ 31 ≤ x) (hhi : x < 2 ^ 31)
    (h : Spells inp p (word x).chars) (I : List Value) :
    (readLong inp).run ⟨p, I⟩ = .ok (x, ⟨p + 4, I⟩) := by
  rw [run_readLong h I]
  have hcodes := signedOf_word hlo hhi
  exact congrArg (fun y => Except.ok (y, _)) hcodes

theorem loadContents_long (inp : Input) (next : Reader Value) (budget : Nat) :
    loadContents inp next budget 'l' = (do
      let size ← readLong inp
      let x ← readDigits inp size.natAbs 0 0
      pure (.int (if size < 0 then -x else x))) := rfl

/-- The characters that follow the code of an integer read back as that integer. -/
theorem run_loadContents_int {inp : Input} {p : Int} {n : Int} (hn : (digits15 n.natAbs).length < 2 ^ 31)
    (h : Spells inp p ((intPieces n).tail.flatMap Piece.chars)) (next : Reader Value) (budget : Nat)
    (I : List Value) :
    (loadContents inp next budget 'l').run ⟨p, I⟩ =
      .ok (.int n, ⟨p + ((intPieces n).tail.flatMap Piece.chars).length, I⟩) := by
  set ds := digits15 n.natAbs with hds
  set count : Int := if n < 0 then -(ds.length : Int) else ds.length with hcount
  have hchars : (intPieces n).tail.flatMap Piece.chars =
      (word count).chars ++ ds.flatMap fun d => (short d).flatMap Piece.chars := by
    simp [intPieces, hds, hcount, Piece.chars, List.flatMap_assoc]
  rw [hchars, spells_append, length_chars_word] at h
  push_cast at h
  have hdigit : ∀ d ∈ ds, d < 2 ^ 15 := fun d hd =>
    Nat.digits_lt_base (by decide) (by rwa [hds, digits15_eq_digits] at hd)
  have hval : Nat.ofDigits (2 ^ 15) ds = n.natAbs := by rw [hds, digits15_eq_digits, Nat.ofDigits_digits]
  have habs : count.natAbs = ds.length := by rw [hcount]; split_ifs <;> omega
  rw [loadContents_long, run_bind_of_run (run_readLong_word (by rw [hcount]; split_ifs <;> omega)
      (by rw [hcount]; split_ifs <;> omega) h.1 I), habs]
  have hread := run_readDigits I ds 0 0 (p + 4) hdigit (by simp) h.2
  rw [Int.natCast_zero] at hread
  rw [run_bind_of_run hread]
  simp only [hval, pow_zero, Nat.mul_zero, Nat.zero_add, Nat.one_mul]
  -- a nonzero integer has a digit, so the sign of the count is the sign of the integer
  have hpos : n ≠ 0 → 0 < ds.length := fun hn0 => by
    rw [hds, digits15, if_neg (by omega)]
    simp
  have hsign : (if count < 0 then -(n.natAbs : Int) else n.natAbs) = n := by
    rw [hcount]; split_ifs <;> omega
  rw [hsign, hchars, List.length_append, length_chars_word, length_digitChars]
  simp only [StateT.run_pure]
  congr 3
  omega

end Basis.Marshal
