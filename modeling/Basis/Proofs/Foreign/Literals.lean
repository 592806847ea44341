import Mathlib
import Basis.Proofs.Foreign.Constants

/-!
# Constant expressions and their values in C

An array length, a bit width or the value of an enumerator is a constant
expression of C: integer literals, character constants, names of integer
constants, signs, sums and differences. Their values in C are stated here on
their own (`cValue`):

* an integer literal is positional notation in the base its prefix names, `0x`
  sixteen and a leading `0` eight, ten otherwise (`cIntegerDigits`), followed by
  one of the suffixes of C (`cIntegerValue`);
* a character constant is the code of its character, or of what its escape
  sequence stands for: a letter for a control character, up to three octal
  digits, or `x` and hexadecimal digits (`cCharValue`).

Reading an integer literal is positional notation (`readDigits_digitValues`), so
a literal without a suffix reads as C gives it (`parseConstant_integer`). A
character constant reads as the code of the character before its closing quote
(`parseConstant_quoted`), which is C's value for a plain character and for the
escapes `\\`, `\'`, `\"` and `\?`. On these forms, `PlainConstant`, under signs,
sums and differences nested no deeper than the reading goes, the reading gives
every expression its value in C (`plain_constants_take_c_values`).

An integer macro, or a constant initialised with an integer literal, is recorded
from its text (`DeclM.addIntegerConstant`): the case is lowered, the suffix
letters are dropped, octal digits after a `0` are written after `0o`, and the
text is read in the base its prefix names. Every integer literal of C, with a
minus sign or not (`cSignedValue`), is so recorded with its value in C
(`addIntegerConstant_c_value`). The two results together are
`constants_take_c_values`.

Other escapes and the suffixes are read otherwise in an expression: `'\n'` is
the code of `n`, 110, where C gives 10, and `10u` is refused by the integer
reading (`escape_and_suffix_misread`).
-/

namespace Basis.Foreign

open C

/-! ## Values in C -/

theorem char_le_iff {a b : Char} : a ≤ b ↔ a.toNat ≤ b.toNat := by
  rw [Char.le_def, UInt32.le_iff_toNat_le]
  rfl

/-- The value of a hexadecimal digit, in either case. -/
def hexDigitValue (c : Char) : Option Nat :=
  if '0' ≤ c ∧ c ≤ '9' then some (c.toNat - '0'.toNat)
  else if 'a' ≤ c ∧ c ≤ 'f' then some (c.toNat - 'a'.toNat + 10)
  else if 'A' ≤ c ∧ c ≤ 'F' then some (c.toNat - 'A'.toNat + 10)
  else none

/-- The values of the digits of a base, if every character is one. -/
def digitValues (base : Nat) (cs : List Char) : Option (List Nat) :=
  cs.mapM fun c => (hexDigitValue c).filter (· < base)

/-- The number digits write in a base, the most significant first. -/
def positional (base : Nat) (ds : List Nat) : Nat := Nat.ofDigits base ds.reverse

/-- An integer literal of C without a suffix: hexadecimal digits after `0x`,
octal ones after a `0`, or decimal ones that start with another digit. -/
def cIntegerDigits : List Char → Option Nat
  | '0' :: x :: hs =>
    if x = 'x' ∨ x = 'X' then (if hs = [] then none else (digitValues 16 hs).map (positional 16))
    else (digitValues 8 (x :: hs)).map (positional 8)
  | ['0'] => some 0
  | d :: ds => if '1' ≤ d ∧ d ≤ '9' then (digitValues 10 (d :: ds)).map (positional 10) else none
  | [] => none

/-- The escapes of C that are one character, with the codes they stand for. -/
def simpleEscape : Char → Option Nat
  | '\'' => some 39
  | '"' => some 34
  | '?' => some 63
  | '\\' => some 92
  | 'a' => some 7
  | 'b' => some 8
  | 'f' => some 12
  | 'n' => some 10
  | 'r' => some 13
  | 't' => some 9
  | 'v' => some 11
  | _ => none

/-- What follows the backslash of an escape: a simple escape, `x` and
hexadecimal digits, or one to three octal digits, of a code below 128. -/
def cEscapeValue : List Char → Option Nat
  | [e] => (simpleEscape e).orElse fun _ => (digitValues 8 [e]).map (positional 8)
  | 'x' :: hs => if hs = [] then none else ((digitValues 16 hs).map (positional 16)).filter (· < 128)
  | ds => if ds.length ≤ 3 then ((digitValues 8 ds).map (positional 8)).filter (· < 128) else none

/-- A character constant of C: a character other than a quote, a backslash or a
line break between quotes, or an escape. -/
def cCharValue : List Char → Option Nat
  | ['\'', c, '\''] => if c = '\'' ∨ c = '\\' ∨ c = '\n' ∨ 128 ≤ c.toNat then none else some c.toNat
  | '\'' :: '\\' :: rest =>
    if rest.getLast? = some '\'' ∧ rest.length ≥ 2 then cEscapeValue rest.dropLast else none
  | _ => none

/-- The suffixes an integer literal of C may carry: `u` and `l` or `ll`, in
either order and either case. -/
def intSuffixes : List String :=
  ["", "u", "U", "l", "L", "ll", "LL", "ul", "uL", "Ul", "UL", "ull", "uLL", "Ull", "ULL",
    "lu", "lU", "Lu", "LU", "llu", "llU", "LLu", "LLU"]

/-- An integer literal of C: the digits up to the first suffix letter, then a suffix. -/
def cIntegerValue (cs : List Char) : Option Nat :=
  let digits := cs.takeWhile fun c => !(['u', 'U', 'l', 'L'].contains c)
  if String.ofList (cs.drop digits.length) ∈ intSuffixes then cIntegerDigits digits else none

/-- The value of a constant: a character constant if it starts with a quote. -/
def cConstantValue (s : String) : Option Int :=
  match s.toList with
  | '\'' :: _ => (cCharValue s.toList).map Int.ofNat
  | cs => (cIntegerValue cs).map Int.ofNat

/-- The value in C of a constant expression, against the integer constants
declared before it; `none` for an expression that is not one. -/
def cValue (consts : List (String × Int)) : Node → Option Int
  | .constant _ s _ => cConstantValue s
  | .ident x _ => entryOf consts x
  | .unaryOp "+" e _ => cValue consts e
  | .unaryOp "-" e _ => (cValue consts e).map (- ·)
  | .binaryOp "+" l r _ => (cValue consts l).bind fun a => (cValue consts r).map (a + ·)
  | .binaryOp "-" l r _ => (cValue consts l).bind fun a => (cValue consts r).map (a - ·)
  | _ => none
termination_by structural e => e

/-- The value of the text of an integer macro or of a constant's initializer:
an integer literal of C, with a minus sign before it or not. -/
def cSignedValue : List Char → Option Int
  | '-' :: cs => (cIntegerValue cs).map fun n : Nat => -(n : Int)
  | cs => (cIntegerValue cs).map Int.ofNat

/-! ## Digits -/

theorem digitValue_of_hex {c : Char} {d : Nat} (h : hexDigitValue c = some d) :
    Text.digitValue c = some d := by
  unfold hexDigitValue at h
  unfold Text.digitValue
  simp only [char_le_iff, Char.reduceToNat, Bool.and_eq_true, decide_eq_true_eq] at h ⊢
  split_ifs at h ⊢ <;> first | exact h | omega

/-- A hexadecimal digit is a decimal digit or one of the letters `a` to `f`, in
either case. -/
theorem hexDigit_bounds {c : Char} {d : Nat} (h : hexDigitValue c = some d) :
    (48 ≤ c.toNat ∧ c.toNat ≤ 57) ∨ (97 ≤ c.toNat ∧ c.toNat ≤ 102) ∨ (65 ≤ c.toNat ∧ c.toNat ≤ 70) := by
  unfold hexDigitValue at h
  simp only [char_le_iff, Char.reduceToNat] at h
  split_ifs at h with h1 h2 h3 <;> simp_all

/-- A digit of value below ten is a decimal digit. -/
theorem decimal_bounds {c : Char} {d : Nat} (h : hexDigitValue c = some d) (hlt : d < 10) :
    48 ≤ c.toNat ∧ c.toNat ≤ 57 := by
  unfold hexDigitValue at h
  simp only [char_le_iff, Char.reduceToNat] at h
  split_ifs at h <;> cases h <;> omega

theorem digitValues_cons {base : Nat} {c : Char} {cs : List Char} {ds : List Nat}
    (h : digitValues base (c :: cs) = some ds) :
    ∃ d ds', hexDigitValue c = some d ∧ d < base ∧ digitValues base cs = some ds' ∧ ds = d :: ds' := by
  simp only [digitValues, List.mapM_cons, Option.bind_eq_bind, Option.bind_eq_some_iff,
    Option.filter_eq_some_iff] at h
  obtain ⟨d, ⟨hd, hlt⟩, ds', hrest, hds⟩ := h
  cases hds
  exact ⟨d, ds', hd, by simpa using hlt, hrest, rfl⟩

theorem digitValues_length {base : Nat} : ∀ {cs : List Char} {ds : List Nat},
    digitValues base cs = some ds → ds.length = cs.length
  | [], ds, h => by
    cases h
    rfl
  | c :: cs, ds, h => by
    obtain ⟨d, ds', -, -, hrest, rfl⟩ := digitValues_cons h
    simp [digitValues_length hrest]

theorem mem_digitValues {base : Nat} : ∀ {cs : List Char} {ds : List Nat},
    digitValues base cs = some ds → ∀ c ∈ cs, ∃ d, hexDigitValue c = some d ∧ d < base
  | [], _, _ => by simp
  | c :: cs, ds, h => by
    obtain ⟨d, ds', hd, hlt, hrest, -⟩ := digitValues_cons h
    intro x hx
    rcases List.mem_cons.mp hx with rfl | hx
    · exact ⟨d, hd, hlt⟩
    · exact mem_digitValues hrest x hx

theorem not_blank_of_digitValues {base : Nat} {cs : List Char} {ds : List Nat}
    (h : digitValues base cs = some ds) : ∀ c ∈ cs, Text.isBlank c = false := fun c hc => by
  obtain ⟨d, hd, -⟩ := mem_digitValues h c hc
  have hb := hexDigit_bounds hd
  unfold Text.isBlank
  simp only [Bool.or_eq_false_iff, Bool.and_eq_false_iff, decide_eq_false_iff_not, beq_eq_false_iff_ne]
  omega

/-- An octal digit after a `0` names no base. -/
theorem octal_not_prefix {x : Char} {hs : List Char} {ds : List Nat} (h : digitValues 8 (x :: hs) = some ds) :
    ∀ y ∈ ['x', 'X', 'o', 'O', 'b', 'B'], x ≠ y := by
  obtain ⟨d, -, hdig, hlt, -, -⟩ := digitValues_cons h
  have hb := decimal_bounds hdig (by omega)
  intro y hy hxy
  subst hxy
  simp only [List.mem_cons, List.not_mem_nil, or_false] at hy
  rcases hy with rfl | rfl | rfl | rfl | rfl | rfl <;> simp only [Char.reduceToNat] at hb <;> omega

theorem positional_cons (base d : Nat) (ds : List Nat) :
    positional base (d :: ds) = base ^ ds.length * d + positional base ds := by
  simp only [positional, List.reverse_cons, Nat.ofDigits_append, Nat.ofDigits_singleton, List.length_reverse]
  ring

/-- Reading digits is positional notation: each digit read multiplies what was
read before by the base. -/
theorem readDigits_digitValues {base : Nat} : ∀ {cs : List Char} {ds : List Nat} (acc : Nat) (b : Bool),
    digitValues base cs = some ds → cs ≠ [] →
    Text.readDigits base cs acc b = some (acc * base ^ cs.length + positional base ds)
  | c :: cs, ds, acc, b, h, _ => by
    obtain ⟨d, ds', hd, hlt, hrest, rfl⟩ := digitValues_cons h
    have hc : c ≠ '_' := by
      rintro rfl
      simp [hexDigitValue] at hd
    rw [Text.readDigits.eq_4 _ _ _ _ _ hc, digitValue_of_hex hd]
    simp only [hlt, if_true]
    -- the digits after the first are read with the first one's value carried
    cases cs with
    | nil =>
      cases hrest
      simp [Text.readDigits, positional]
    | cons c' cs =>
      rw [readDigits_digitValues _ _ hrest (List.cons_ne_nil c' cs), positional_cons,
        digitValues_length hrest]
      simp only [List.length_cons]
      ring_nf

/-- The four forms of an integer literal without a suffix. -/
theorem cIntegerDigits_cases {cs : List Char} {n : Nat} (h : cIntegerDigits cs = some n) :
    (∃ x hs ds, cs = '0' :: x :: hs ∧ (x = 'x' ∨ x = 'X') ∧ hs ≠ [] ∧ digitValues 16 hs = some ds ∧
      n = positional 16 ds) ∨
    (∃ x hs ds, cs = '0' :: x :: hs ∧ digitValues 8 (x :: hs) = some ds ∧ n = positional 8 ds) ∨
    (cs = ['0'] ∧ n = 0) ∨
    (∃ d rest ds, cs = d :: rest ∧ ('1' ≤ d ∧ d ≤ '9') ∧ digitValues 10 (d :: rest) = some ds ∧
      n = positional 10 ds) := by
  unfold cIntegerDigits at h
  split at h
  · rename_i x hs
    by_cases hx : x = 'x' ∨ x = 'X'
    · rw [if_pos hx] at h
      by_cases hnil : hs = []
      · rw [if_pos hnil] at h
        cases h
      rw [if_neg hnil] at h
      obtain ⟨ds, hds, rfl⟩ := Option.map_eq_some_iff.mp h
      exact .inl ⟨x, hs, ds, rfl, hx, hnil, hds, rfl⟩
    · rw [if_neg hx] at h
      obtain ⟨ds, hds, rfl⟩ := Option.map_eq_some_iff.mp h
      exact .inr (.inl ⟨x, hs, ds, rfl, hds, rfl⟩)
  · cases h
    exact .inr (.inr (.inl ⟨rfl, rfl⟩))
  · rename_i d rest _ _
    split_ifs at h with hd
    obtain ⟨ds, hds, rfl⟩ := Option.map_eq_some_iff.mp h
    exact .inr (.inr (.inr ⟨d, rest, ds, rfl, hd, hds, rfl⟩))
  · cases h

/-- The characters of an integer literal without a suffix are digits and the `x`
of a hexadecimal prefix. -/
theorem cIntegerDigits_chars {cs : List Char} {n : Nat} (h : cIntegerDigits cs = some n) :
    ∀ c ∈ cs, 48 ≤ c.toNat ∧ c.toNat ≤ 57 ∨ 97 ≤ c.toNat ∧ c.toNat ≤ 102 ∨ 65 ≤ c.toNat ∧ c.toNat ≤ 70 ∨
      c = 'x' ∨ c = 'X' := by
  have digit : ∀ {base : Nat} {ds : List Char} {ns : List Nat}, digitValues base ds = some ns → ∀ c ∈ ds,
      48 ≤ c.toNat ∧ c.toNat ≤ 57 ∨ 97 ≤ c.toNat ∧ c.toNat ≤ 102 ∨ 65 ≤ c.toNat ∧ c.toNat ≤ 70 ∨
        c = 'x' ∨ c = 'X' := fun hd c hc => by
    obtain ⟨d, hd, -⟩ := mem_digitValues hd c hc
    rcases hexDigit_bounds hd with h | h | h <;> simp [h]
  have zero : 48 ≤ ('0' : Char).toNat ∧ ('0' : Char).toNat ≤ 57 := by decide
  rcases cIntegerDigits_cases h with ⟨x, hs, ds, rfl, hx, -, hds, -⟩ | ⟨x, hs, ds, rfl, hds, -⟩ | ⟨rfl, -⟩ |
      ⟨d, rest, ds, rfl, -, hds, -⟩
  · intro c hc
    rcases List.mem_cons.mp hc with rfl | hc
    · exact .inl zero
    rcases List.mem_cons.mp hc with rfl | hc
    · exact .inr (.inr (.inr hx))
    · exact digit hds c hc
  · intro c hc
    rcases List.mem_cons.mp hc with rfl | hc
    · exact .inl zero
    · exact digit hds c hc
  · simp
  · exact digit hds

/-! ## Reading integer literals -/

theorem dropWhile_of_all_false {p : Char → Bool} {l : List Char} (h : ∀ c ∈ l, p c = false) :
    l.dropWhile p = l :=
  List.dropWhile_eq_self_iff.mpr fun hl => by
    rw [h _ (List.getElem_mem hl)]
    decide

theorem strip_eq_self {cs : List Char} (h : ∀ c ∈ cs, Text.isBlank c = false) :
    ((cs.dropWhile Text.isBlank).reverse.dropWhile Text.isBlank).reverse = cs := by
  rw [dropWhile_of_all_false h, dropWhile_of_all_false (by simpa using h), List.reverse_reverse]

theorem readIntIn_run {s : String} {base : Nat} {n : Int} (h : Text.readInt s base = some n) (w : Work) :
    (DeclM.readIntIn s base).run.run w = (.ok n, w) := by
  simp only [DeclM.readIntIn, h]
  rfl

/-- A text of no blanks and no sign is read as an unsigned number. -/
theorem readInt_unsigned {s : String} {base : Nat} (hblank : ∀ c ∈ s.toList, Text.isBlank c = false)
    {c : Char} {cs : List Char} (hs : s.toList = c :: cs) (hc : c ≠ '-' ∧ c ≠ '+') :
    Text.readInt s base = (Text.readUnsigned base s.toList).map fun n => (n : Int) := by
  unfold Text.readInt
  rw [strip_eq_self hblank, hs]
  simp only
  split
  · rename_i heq
    cases heq
    exact absurd rfl hc.1
  · rename_i heq
    cases heq
    exact absurd rfl hc.2
  · rfl

theorem basePrefix_of_ne {c : Char} {cs : List Char} (h : c ≠ '0') : Text.basePrefix (c :: cs) = none := by
  unfold Text.basePrefix
  split
  · rename_i heq
    cases heq
    exact absurd rfl h
  · rfl

/-- A decimal literal starts with neither `0` nor a sign. -/
theorem decimal_lead {d : Char} (hd : '1' ≤ d ∧ d ≤ '9') : d ≠ '0' ∧ d ≠ '-' ∧ d ≠ '+' := by
  refine ⟨?_, ?_, ?_⟩ <;> rintro rfl <;> simp [char_le_iff] at hd

theorem readAfterPrefix_digits {base : Nat} {hs : List Char} {ds : List Nat}
    (hd : digitValues base hs = some ds) (hne : hs ≠ []) :
    Text.readAfterPrefix base hs = some (positional base ds) := by
  obtain ⟨h0, hs', rfl⟩ := List.exists_cons_of_ne_nil hne
  obtain ⟨d, -, hdig, -, -, -⟩ := digitValues_cons hd
  have h0u : h0 ≠ '_' := by
    rintro rfl
    simp [hexDigitValue] at hdig
  unfold Text.readAfterPrefix
  split
  · rename_i heq
    cases heq
    exact absurd rfl h0u
  · rw [readDigits_digitValues 0 false hd (List.cons_ne_nil h0 hs')]
    simp

theorem readUnsigned_hex {x : Char} {hs : List Char} {ds : List Nat} (hx : x = 'x' ∨ x = 'X')
    (hd : digitValues 16 hs = some ds) (hne : hs ≠ []) :
    Text.readUnsigned 16 ('0' :: x :: hs) = some (positional 16 ds) := by
  have hprefix : Text.basePrefix ('0' :: x :: hs) = some (16, hs) := by
    rcases hx with rfl | rfl <;> rfl
  simp only [Text.readUnsigned, hprefix, Nat.reduceBEq, Bool.or_true, if_true]
  exact readAfterPrefix_digits hd hne

theorem readUnsigned_octal {x : Char} {hs : List Char} {ds : List Nat}
    (hd : digitValues 8 (x :: hs) = some ds) :
    Text.readUnsigned 8 ('0' :: x :: hs) = some (positional 8 ds) := by
  have hne := octal_not_prefix hd
  have hprefix : Text.basePrefix ('0' :: x :: hs) = none := by
    simp [Text.basePrefix, hne]
  have hzero : digitValues 8 ('0' :: x :: hs) = some (0 :: ds) := by
    unfold digitValues at hd ⊢
    rw [List.mapM_cons, hd]
    rfl
  simp only [Text.readUnsigned, hprefix, Nat.reduceBEq, Bool.false_eq_true, if_false]
  rw [readDigits_digitValues 0 false hzero (List.cons_ne_nil _ _), positional_cons]
  simp

theorem readUnsigned_decimal {d : Char} {cs : List Char} {ds : List Nat} (hd0 : d ≠ '0')
    (h : digitValues 10 (d :: cs) = some ds) :
    Text.readUnsigned 10 (d :: cs) = some (positional 10 ds) := by
  simp only [Text.readUnsigned, basePrefix_of_ne hd0, Nat.reduceBEq, Bool.false_eq_true, if_false]
  rw [readDigits_digitValues 0 false h (List.cons_ne_nil _ _)]
  simp

/-- An integer literal without a suffix reads as the number C gives it. -/
theorem parseConstant_integer {fuel : Nat} {k s : String} {c : Option Coord} {n : Nat}
    (h : cIntegerDigits s.toList = some n) (w : Work) :
    (DeclM.parseConstant (fuel + 1) (.constant k s c)).run.run w = (.ok n, w) := by
  rw [DeclM.parseConstant.eq_def]
  simp only
  rcases cIntegerDigits_cases h with ⟨x, hs, ds, hcs, hx, hne, hds, rfl⟩ | ⟨x, hs, ds, hcs, hds, rfl⟩ |
      ⟨hcs, rfl⟩ | ⟨d, rest, ds, hcs, hd, hds, rfl⟩
  · -- hexadecimal digits after `0x`
    have hblank : ∀ y ∈ s.toList, Text.isBlank y = false := by
      rw [hcs, List.forall_mem_cons, List.forall_mem_cons]
      exact ⟨by decide, by rcases hx with rfl | rfl <;> decide, not_blank_of_digitValues hds⟩
    have hread : Text.readInt s 16 = some (positional 16 ds) := by
      rw [readInt_unsigned hblank hcs (by decide), hcs, readUnsigned_hex hx hds hne]
      rfl
    rw [hcs]
    rcases hx with rfl | rfl <;> exact readIntIn_run hread w
  · -- octal digits after `0`
    have hblank : ∀ y ∈ s.toList, Text.isBlank y = false := by
      rw [hcs, List.forall_mem_cons]
      exact ⟨by decide, not_blank_of_digitValues hds⟩
    have hread : Text.readInt s 8 = some (positional 8 ds) := by
      rw [readInt_unsigned hblank hcs (by decide), hcs, readUnsigned_octal hds]
      rfl
    have hne := octal_not_prefix hds
    rw [hcs]
    simp only
    split
    · rename_i heq
      simp only [List.cons.injEq] at heq
      exact absurd heq.1 (hne 'x' (by simp))
    · rename_i heq
      simp only [List.cons.injEq] at heq
      exact absurd heq.1 (hne 'X' (by simp))
    · exact readIntIn_run hread w
  · -- `0` alone
    have hread : Text.readInt s 8 = some 0 := by
      rw [readInt_unsigned (by simp [hcs]; decide) hcs (by decide), hcs]
      rfl
    rw [hcs]
    exact readIntIn_run hread w
  · -- decimal digits, the first not `0`
    obtain ⟨hd0, hsign⟩ := decimal_lead hd
    have hread : Text.readInt s 10 = some (positional 10 ds) := by
      rw [readInt_unsigned (hcs ▸ not_blank_of_digitValues hds) hcs hsign, hcs,
        readUnsigned_decimal hd0 hds]
      rfl
    rw [hcs]
    split
    · rename_i heq
      cases heq
      exact absurd rfl hd0
    · rename_i heq
      cases heq
      have hd' : ('1' ≤ d && d ≤ '9') = true := by simpa using hd
      rw [if_pos hd']
      exact readIntIn_run hread w
    · rename_i heq
      cases heq

/-! ## Reading character constants -/

/-- A character constant of one character, or of a backslash and one character,
reads as the code of the character before its closing quote. -/
theorem parseConstant_quoted {fuel : Nat} {k s : String} {c : Option Coord} {ch : Char}
    (hs : s.toList = ['\'', ch, '\''] ∨ s.toList = ['\'', '\\', ch, '\'']) (w : Work) :
    (DeclM.parseConstant (fuel + 1) (.constant k s c)).run.run w = (.ok ch.toNat, w) := by
  rw [DeclM.parseConstant.eq_def]
  simp only
  rcases hs with hs | hs <;> rw [hs] <;> rfl

/-! ## Plain constants -/

/-- An integer literal without a suffix has the value of its digits. -/
theorem cConstantValue_digits {s : String} {n : Nat} (h : cIntegerDigits s.toList = some n) :
    cConstantValue s = some n := by
  have hchars := cIntegerDigits_chars h
  have hkeep : s.toList.takeWhile (fun c => !(['u', 'U', 'l', 'L'].contains c)) = s.toList := by
    rw [List.takeWhile_eq_self_iff]
    intro c hc
    -- no suffix letter is a digit, nor the `x` of a hexadecimal literal
    have hne : c ≠ 'u' ∧ c ≠ 'U' ∧ c ≠ 'l' ∧ c ≠ 'L' := by
      refine ⟨?_, ?_, ?_, ?_⟩ <;> rintro rfl <;> simpa using hchars _ hc
    simp [hne.1, hne.2.1, hne.2.2.1, hne.2.2.2]
  unfold cConstantValue
  split
  · rename_i rest heq
    have := hchars '\'' (by simp [heq])
    simp at this
  · unfold cIntegerValue
    simp only [hkeep, List.drop_length]
    rw [if_pos (by decide), h]
    rfl

/-- The literals the reading gives their values in C: integers without a
suffix, a character between quotes, and the escapes that stand for the
character they escape. -/
inductive PlainLiteral : List Char → Prop
  | integer {cs : List Char} {n : Nat} (h : cIntegerDigits cs = some n) : PlainLiteral cs
  | char (c : Char) : PlainLiteral ['\'', c, '\'']
  | escape {e : Char} (h : e ∈ ['\\', '\'', '"', '?']) : PlainLiteral ['\'', '\\', e, '\'']

theorem parseConstant_plainLiteral {fuel : Nat} {k s : String} {c : Option Coord} {v : Int}
    (hp : PlainLiteral s.toList) (hv : cConstantValue s = some v) (w : Work) :
    (DeclM.parseConstant (fuel + 1) (.constant k s c)).run.run w = (.ok v, w) := by
  generalize hcs : s.toList = cs at hp
  cases hp with
  | integer h =>
    rw [← hcs] at h
    rw [cConstantValue_digits h] at hv
    cases hv
    exact parseConstant_integer h w
  | char ch =>
    -- C refuses a quote, a backslash and a line break here, which the reading takes
    have hval : cConstantValue s = if ch = '\'' ∨ ch = '\\' ∨ ch = '\n' ∨ 128 ≤ ch.toNat then none
        else some (ch.toNat : Int) := by
      unfold cConstantValue
      rw [hcs]
      simp only [cCharValue]
      split_ifs <;> rfl
    rw [hval] at hv
    split_ifs at hv
    cases hv
    exact parseConstant_quoted (.inl hcs) w
  | @escape e he =>
    have hval : cConstantValue s = some (e.toNat : Int) := by
      unfold cConstantValue
      rw [hcs]
      simp only [List.mem_cons, List.not_mem_nil, or_false] at he
      rcases he with rfl | rfl | rfl | rfl <;> rfl
    rw [hval] at hv
    cases hv
    exact parseConstant_quoted (.inr hcs) w

/-- Constant expressions over plain literals and names of constants, under
signs, sums and differences; the index bounds their nesting. -/
inductive PlainConstant : Nat → Node → Prop
  | literal {n : Nat} {k s : String} {c : Option Coord} (h : PlainLiteral s.toList) :
      PlainConstant (n + 1) (.constant k s c)
  | name {n : Nat} (x : String) (c : Option Coord) : PlainConstant (n + 1) (.ident x c)
  | pos {n : Nat} {e : Node} (c : Option Coord) (h : PlainConstant n e) :
      PlainConstant (n + 1) (.unaryOp "+" e c)
  | neg {n : Nat} {e : Node} (c : Option Coord) (h : PlainConstant n e) :
      PlainConstant (n + 1) (.unaryOp "-" e c)
  | add {n : Nat} {l r : Node} (c : Option Coord) (hl : PlainConstant n l) (hr : PlainConstant n r) :
      PlainConstant (n + 1) (.binaryOp "+" l r c)
  | sub {n : Nat} {l r : Node} (c : Option Coord) (hl : PlainConstant n l) (hr : PlainConstant n r) :
      PlainConstant (n + 1) (.binaryOp "-" l r c)

/-- A plain constant expression with a value in C reads as that value, with any
fuel at least its nesting. -/
theorem parseConstant_c_value {n : Nat} {e : Node} (hp : PlainConstant n e) :
    ∀ {fuel : Nat}, n ≤ fuel → ∀ (w : Work) {v : Int}, cValue w.book.intConstants e = some v →
      (DeclM.parseConstant fuel e).run.run w = (.ok v, w) := by
  -- each expression is read with one unit of fuel less for its operands
  induction hp <;> intro fuel hn w v hv <;>
    obtain ⟨fuel, rfl⟩ := Nat.exists_eq_add_one.mpr (show 0 < fuel by omega)
  case literal h => exact parseConstant_plainLiteral h hv w
  case name x c =>
    rw [DeclM.parseConstant.eq_def]
    simp only [cValue, entryOf] at hv ⊢
    rw [DeclM.run_bind, DeclM.book_run]
    obtain ⟨p, hp, rfl⟩ := Option.map_eq_some_iff.mp hv
    simp only [hp]
    rfl
  case pos c _ ih =>
    rw [DeclM.parseConstant.eq_def]
    exact ih (by omega) w hv
  case neg c _ ih =>
    obtain ⟨a, ha, rfl⟩ := Option.map_eq_some_iff.mp hv
    rw [DeclM.parseConstant.eq_def]
    simp only
    rw [DeclM.run_bind, ih (by omega) w ha]
    rfl
  case add c _ _ ihl ihr | sub c _ _ ihl ihr =>
    obtain ⟨a, ha, hrest⟩ := Option.bind_eq_some_iff.mp hv
    obtain ⟨b, hb, rfl⟩ := Option.map_eq_some_iff.mp hrest
    rw [DeclM.parseConstant.eq_def]
    simp only
    rw [DeclM.run_bind, ihl (by omega) w ha]
    dsimp only
    rw [DeclM.run_bind, ihr (by omega) w hb]
    rfl

/-- An array length, a bit width or an enumerator's value that is a plain
constant expression, nested no deeper than the reading goes, takes its value in
C against the constants declared before it. -/
theorem plain_constants_take_c_values {n : Nat} {e : Node} (hp : PlainConstant n e) (hn : n ≤ 100000)
    {consts : List (String × Int)} {v : Int} (hv : cValue consts e = some v) :
    constantIn consts e = .ok v := by
  unfold constantIn
  rw [parseConstant_c_value hp hn { book := { intConstants := consts } } hv]

/-! ## Lowered case -/

theorem toLower_toNat (c : Char) :
    c.toLower.toNat = if 65 ≤ c.toNat ∧ c.toNat ≤ 90 then c.toNat + 32 else c.toNat := by
  unfold Char.toLower
  have hA : ('A' : Char).val.toNat = 65 := rfl
  have hZ : ('Z' : Char).val.toNat = 90 := rfl
  split
  · rename_i h
    have h' : 65 ≤ c.toNat ∧ c.toNat ≤ 90 := by
      simp only [ge_iff_le, UInt32.le_iff_toNat_le, hA, hZ] at h
      exact h
    rw [if_pos h']
    show (c.val + ('a'.val - 'A'.val)).toNat = c.toNat + 32
    rw [UInt32.toNat_add]
    show (c.toNat + 32) % 2 ^ 32 = c.toNat + 32
    omega
  · rename_i h
    have h' : ¬ (65 ≤ c.toNat ∧ c.toNat ≤ 90) := by
      simp only [ge_iff_le, UInt32.le_iff_toNat_le, hA, hZ] at h
      exact h
    rw [if_neg h']

/-- Lowering the case of a digit keeps its value. -/
theorem hexDigitValue_toLower (c : Char) : hexDigitValue c.toLower = hexDigitValue c := by
  have hl := toLower_toNat c
  unfold hexDigitValue
  simp only [char_le_iff, Char.reduceToNat]
  split_ifs at hl ⊢ <;> first | rfl | omega | (congr 1; omega)

theorem digitValues_map_toLower (base : Nat) (cs : List Char) :
    digitValues base (cs.map Char.toLower) = digitValues base cs := by
  unfold digitValues
  rw [List.mapM_map]
  congr 1
  funext c
  simp only [Function.comp_apply, hexDigitValue_toLower]

/-- Digits of a base up to ten are unchanged by lowering the case. -/
theorem map_toLower_of_digitValues {base : Nat} {cs : List Char} {ds : List Nat} (hb : base ≤ 10)
    (h : digitValues base cs = some ds) : cs.map Char.toLower = cs := by
  have hkeep : ∀ c ∈ cs, c.toLower = id c := fun c hc => by
    obtain ⟨d, hd, hlt⟩ := mem_digitValues h c hc
    have hc := decimal_bounds hd (by omega)
    apply Char.toNat_inj.mp
    rw [toLower_toNat, if_neg (by omega)]
    rfl
  rw [List.map_congr_left hkeep, List.map_id]

/-! ## Integer macros -/

/-- An integer literal of C is its digits followed by a suffix. -/
theorem cIntegerValue_split {cs : List Char} {n : Nat} (h : cIntegerValue cs = some n) :
    ∃ digits sfx, cs = digits ++ sfx ∧ cIntegerDigits digits = some n ∧ String.ofList sfx ∈ intSuffixes := by
  unfold cIntegerValue at h
  simp only at h
  split_ifs at h with hsfx
  refine ⟨_, _, ?_, h, hsfx⟩
  have hpre := List.prefix_iff_eq_take.mp (List.takeWhile_prefix (l := cs)
    fun c => !(['u', 'U', 'l', 'L'].contains c))
  conv_lhs => rw [← List.take_append_drop (cs.takeWhile fun c => !(['u', 'U', 'l', 'L'].contains c)).length cs]
  rw [← hpre]

theorem cSignedValue_split {cs : List Char} {v : Int} (h : cSignedValue cs = some v) :
    ∃ (minus : Bool) (digits sfx : List Char) (n : Nat),
      cs = (if minus then ['-'] else []) ++ digits ++ sfx ∧ cIntegerDigits digits = some n ∧
        String.ofList sfx ∈ intSuffixes ∧ v = if minus then -(n : Int) else n := by
  unfold cSignedValue at h
  split at h
  · obtain ⟨n, hn, rfl⟩ := Option.map_eq_some_iff.mp h
    obtain ⟨digits, sfx, rfl, hd, hs⟩ := cIntegerValue_split hn
    exact ⟨true, digits, sfx, n, by simp, hd, hs, rfl⟩
  · obtain ⟨n, hn, rfl⟩ := Option.map_eq_some_iff.mp h
    obtain ⟨digits, sfx, rfl, hd, hs⟩ := cIntegerValue_split hn
    exact ⟨false, digits, sfx, n, by simp, hd, hs, rfl⟩

/-- Dropping letters from the end of a text stops at the last character that is
not one of them. -/
theorem strip_suffix {p : Char → Bool} {ds sfx : List Char} (hds : ∀ c ∈ ds, p c = false)
    (hsfx : ∀ c ∈ sfx, p c = true) : ((ds ++ sfx).reverse.dropWhile p).reverse = ds := by
  rw [List.reverse_append, List.dropWhile_append_of_pos (by simpa using hsfx),
    dropWhile_of_all_false (by simpa using hds), List.reverse_reverse]

/-- Every letter of a suffix lowers to `u` or `l`. -/
theorem suffix_lowered {sfx : List Char} (h : String.ofList sfx ∈ intSuffixes) :
    ∀ c ∈ sfx, (c.toLower == 'u' || c.toLower == 'l') = true := by
  have hall : ∀ t ∈ intSuffixes, ∀ c ∈ t.toList, (c.toLower == 'u' || c.toLower == 'l') = true := by
    simp [intSuffixes]
  simpa using hall _ h

/-- No character of the digits of a literal lowers to a sign or a suffix letter. -/
theorem digits_lowered {digits : List Char} {n : Nat} (h : cIntegerDigits digits = some n) :
    ∀ c ∈ digits, c.toLower ≠ '-' ∧ (c.toLower == 'u' || c.toLower == 'l') = false := by
  intro c hc
  have hb : (48 ≤ c.toNat ∧ c.toNat ≤ 57) ∨ (97 ≤ c.toNat ∧ c.toNat ≤ 102) ∨
      (65 ≤ c.toNat ∧ c.toNat ≤ 70) ∨ c.toNat = 120 ∨ c.toNat = 88 := by
    rcases cIntegerDigits_chars h c hc with hb | hb | hb | rfl | rfl
    · exact .inl hb
    · exact .inr (.inl hb)
    · exact .inr (.inr (.inl hb))
    · exact .inr (.inr (.inr (.inl rfl)))
    · exact .inr (.inr (.inr (.inr rfl)))
  have hlow : c.toLower.toNat ≠ 45 ∧ c.toLower.toNat ≠ 117 ∧ c.toLower.toNat ≠ 108 := by
    rw [toLower_toNat]
    split_ifs <;> omega
  refine ⟨fun heq => hlow.1 (by rw [heq]; rfl), ?_⟩
  simp only [Bool.or_eq_false_iff, beq_eq_false_iff_ne]
  exact ⟨fun heq => hlow.2.1 (by rw [heq]; rfl), fun heq => hlow.2.2 (by rw [heq]; rfl)⟩

/-- The text of a literal, once its case is lowered and its sign and suffix are
dropped, and `0o` is put before octal digits, reads in base 0 as the value of
the literal. -/
theorem readInt_base0 {s : String} {digits : List Char} {n : Nat} (h : cIntegerDigits digits = some n)
    (hs : s.toList = digits.map Char.toLower) :
    Text.readInt (if (s.startsWith "0" && s != "0" && !s.startsWith "0x") = true then
      "0o" ++ (s.drop 1).toString else s) 0 = some (n : Int) := by
  rcases cIntegerDigits_cases h with ⟨x, hs', ds, rfl, hx, hnil, hds, rfl⟩ | ⟨x, hs', ds, rfl, hds, rfl⟩ |
      ⟨rfl, rfl⟩ | ⟨d, rest, ds, rfl, hd, hds, rfl⟩
  · -- a hexadecimal literal keeps its prefix `0x`
    have hlow : s.toList = '0' :: 'x' :: hs'.map Char.toLower := by
      rw [hs, List.map_cons, List.map_cons]
      rcases hx with rfl | rfl <;> rfl
    have hhex : s.startsWith "0x" = true := by
      rw [String.startsWith_string_iff, hlow]
      simp
    rw [if_neg (by simp [hhex])]
    have hds' : digitValues 16 (hs'.map Char.toLower) = some ds := by
      rw [digitValues_map_toLower]
      exact hds
    have hblank : ∀ y ∈ s.toList, Text.isBlank y = false := by
      rw [hlow, List.forall_mem_cons, List.forall_mem_cons]
      exact ⟨by decide, by decide, not_blank_of_digitValues hds'⟩
    have hprefix : Text.basePrefix ('0' :: 'x' :: hs'.map Char.toLower) =
        some (16, hs'.map Char.toLower) := rfl
    rw [readInt_unsigned hblank hlow (by decide), hlow]
    simp only [Text.readUnsigned, hprefix, Nat.reduceBEq, Bool.true_or, if_true]
    rw [readAfterPrefix_digits hds' (by simpa using hnil)]
    rfl
  · -- octal digits take the prefix `0o`
    have hne := octal_not_prefix hds
    have hlow : s.toList = '0' :: x :: hs' := by
      rw [hs, List.map_cons, map_toLower_of_digitValues (by norm_num) hds]
      rfl
    have hcond : (s.startsWith "0" && s != "0" && !s.startsWith "0x") = true := by
      have hzero : s ≠ "0" := fun heq => by
        have := congrArg String.toList heq
        simp [hlow] at this
      have hhex : s.startsWith "0x" = false := by
        rw [String.startsWith_string_eq_false_iff, hlow]
        simpa [eq_comm] using hne 'x' (by simp)
      simp [String.startsWith_string_iff, hlow, hzero, hhex]
    rw [if_pos hcond]
    have hnew : ("0o" ++ (s.drop 1).toString).toList = '0' :: 'o' :: x :: hs' := by
      rw [String.toList_append, show (s.drop 1).toString = (s.drop 1).copy from rfl,
        String.toList_copy_drop, hlow]
      rfl
    have hblank : ∀ y ∈ ("0o" ++ (s.drop 1).toString).toList, Text.isBlank y = false := by
      rw [hnew, List.forall_mem_cons, List.forall_mem_cons]
      exact ⟨by decide, by decide, not_blank_of_digitValues hds⟩
    have hprefix : Text.basePrefix ('0' :: 'o' :: x :: hs') = some (8, x :: hs') := rfl
    rw [readInt_unsigned hblank hnew (by decide), hnew]
    simp only [Text.readUnsigned, hprefix, Nat.reduceBEq, Bool.true_or, if_true]
    rw [readAfterPrefix_digits hds (List.cons_ne_nil _ _)]
    rfl
  · -- `0` alone
    have hlow : s.toList = ['0'] := by
      rw [hs]
      rfl
    have hzero : s = "0" := String.toList_injective (by rw [hlow]; simp)
    rw [if_neg (by simp [hzero])]
    rw [readInt_unsigned (by simp [hlow]; decide) hlow (by decide), hlow]
    rfl
  · -- decimal digits, the first not `0`
    obtain ⟨hd0, hsign⟩ := decimal_lead hd
    have hlow : s.toList = d :: rest := by
      rw [hs, map_toLower_of_digitValues (by norm_num) hds]
    have hstart : s.startsWith "0" = false := by
      rw [String.startsWith_string_eq_false_iff, hlow]
      simpa [eq_comm] using hd0
    rw [if_neg (by simp [hstart])]
    rw [readInt_unsigned (hlow ▸ not_blank_of_digitValues hds) hlow hsign, hlow]
    simp only [Text.readUnsigned, basePrefix_of_ne hd0, Nat.reduceBEq, if_true]
    split
    · rename_i heq
      cases heq
      exact absurd rfl hd0
    · rw [readDigits_digitValues 0 false hds (List.cons_ne_nil _ _)]
      simp

/-- Declaring an integer constant from the text of an integer literal of C, with
a minus sign or not, records the value C gives the literal. -/
theorem addIntegerConstant_c_value {literal : String} {v : Int} (h : cSignedValue literal.toList = some v)
    (name : String) :
    DeclM.addIntegerConstant name literal = (do
      DeclM.addConstant name v
      DeclM.declare ("macro " ++ name) (.number v) (← DeclM.numberIdentity v)) := by
  obtain ⟨minus, digits, sfx, n, hlit, hn, hsfx, rfl⟩ := cSignedValue_split h
  have hlow := digits_lowered hn
  unfold DeclM.addIntegerConstant
  extract_lets s₁ s₂ neg s₃ s₄
  -- lowering the case and dropping the suffix letters leave the sign and the digits
  have h₂ : s₂.toList = ((if minus then ['-'] else []) ++ digits).map Char.toLower := by
    simp only [s₂, s₁, String.toList_ofList, hlit, List.map_append]
    rw [strip_suffix]
    · intro c hc
      simp only [List.mem_append, List.mem_map] at hc
      rcases hc with ⟨c', hc', rfl⟩ | ⟨c', hc', rfl⟩
      · cases minus
        · simp at hc'
        · simp only [if_true, List.mem_singleton] at hc'
          subst hc'
          decide
      · exact (hlow c' hc').2
    · intro c hc
      obtain ⟨c', hc', rfl⟩ := List.mem_map.mp hc
      exact suffix_lowered hsfx c' hc'
  obtain ⟨d, rest, hdigits⟩ : ∃ d rest, digits = d :: rest := by
    cases digits with
    | nil => simp [cIntegerDigits] at hn
    | cons d rest => exact ⟨d, rest, rfl⟩
  have hd : d.toLower ≠ '-' := (hlow d (by simp [hdigits])).1
  have hneg : neg = minus := by
    simp only [neg]
    cases minus
    · rw [String.startsWith_string_eq_false_iff, h₂, hdigits]
      simpa [eq_comm] using hd
    · rw [String.startsWith_string_iff, h₂]
      simp
  have h₃ : s₃.toList = digits.map Char.toLower := by
    simp only [s₃, hneg]
    cases minus
    · simpa using h₂
    · rw [if_pos rfl, show (s₂.drop 1).toString = (s₂.drop 1).copy from rfl, String.toList_copy_drop, h₂]
      simp
  have hread : DeclM.readIntIn s₄ 0 = pure (n : Int) := by
    simp only [s₄, DeclM.readIntIn, readInt_base0 hn h₃]
  rw [hread, pure_bind, hneg]

/-! ## Constants and their values in C -/

/-- Constant expressions and integer macros take their values in C: against the
constants `consts` declared before it, a plain constant expression, as an array
length, a bit width or an enumerator's value, reads as its value; and the text
of an integer literal of C, with a minus sign or not, is recorded under `name`
as a constant of its value. -/
theorem constants_take_c_values (consts : List (String × Int)) (name : String) :
    (∀ {n : Nat} {e : Node} {v : Int}, PlainConstant n e → n ≤ 100000 →
      cValue consts e = some v → constantIn consts e = .ok v) ∧
    (∀ {literal : String} {v : Int}, cSignedValue literal.toList = some v →
      DeclM.addIntegerConstant name literal = (do
        DeclM.addConstant name v
        DeclM.declare ("macro " ++ name) (.number v) (← DeclM.numberIdentity v))) :=
  ⟨fun hp hn hv => plain_constants_take_c_values hp hn hv, fun h => addIntegerConstant_c_value h name⟩

/-- `N + -'\\' - 0x10` against `N = 100` is `-8`: a name, an escaped backslash
and a hexadecimal literal; and the macro text `-0X1Fu` records `-31`. -/
theorem backslash_sum_and_hex_macro :
    (PlainConstant 4 (.binaryOp "-" (.binaryOp "+" (.ident "N" none)
        (.unaryOp "-" (.constant "char" "'\\\\'" none) none) none) (.constant "int" "0x10" none) none) ∧
      cValue [("N", 100)] (.binaryOp "-" (.binaryOp "+" (.ident "N" none)
        (.unaryOp "-" (.constant "char" "'\\\\'" none) none) none) (.constant "int" "0x10" none) none) =
        some (-8) ∧
      constantIn [("N", 100)] (.binaryOp "-" (.binaryOp "+" (.ident "N" none)
        (.unaryOp "-" (.constant "char" "'\\\\'" none) none) none) (.constant "int" "0x10" none) none) =
        .ok (-8)) ∧
    (cSignedValue ("-0X1Fu" : String).toList = some (-31) ∧
      DeclM.addIntegerConstant "M" "-0X1Fu" = (do
        DeclM.addConstant "M" (-31)
        DeclM.declare ("macro " ++ "M") (.number (-31)) (← DeclM.numberIdentity (-31)))) := by
  have hslash : ("'\\\\'" : String).toList = ['\'', '\\', '\\', '\''] := by decide
  have hhex : cIntegerDigits ("0x10" : String).toList = some 16 := by decide
  have hp : PlainConstant 4 (.binaryOp "-" (.binaryOp "+" (.ident "N" none)
      (.unaryOp "-" (.constant "char" "'\\\\'" none) none) none) (.constant "int" "0x10" none) none) :=
    .sub none (.add none (.name "N" none) (.neg none (.literal (hslash ▸ .escape (by decide)))))
      (.literal (.integer hhex))
  have hv : cValue [("N", 100)] (.binaryOp "-" (.binaryOp "+" (.ident "N" none)
      (.unaryOp "-" (.constant "char" "'\\\\'" none) none) none) (.constant "int" "0x10" none) none) =
      some (-8) := by
    have hchar : cConstantValue "'\\\\'" = some 92 := by
      unfold cConstantValue
      rw [hslash]
      rfl
    simp only [cValue, hchar, cConstantValue_digits hhex]
    decide
  have hmacro : cSignedValue ("-0X1Fu" : String).toList = some (-31) := by
    have hs : ("-0X1Fu" : String).toList = ['-', '0', 'X', '1', 'F', 'u'] := by simp
    rw [hs]
    decide
  exact ⟨⟨hp, hv, (constants_take_c_values [("N", 100)] "M").1 hp (by decide) hv⟩, hmacro,
    (constants_take_c_values [("N", 100)] "M").2 hmacro⟩

/-- Where the reading departs from C: the escape `'\n'` reads as the code of
`n`, 110, where C gives a line break, 10; and the suffix of `10u` makes the
integer reading fail. -/
theorem escape_and_suffix_misread :
    cValue [] (.constant "char" "'\\n'" none) = some 10 ∧
      constantIn [] (.constant "char" "'\\n'" none) = .ok 110 ∧
    cValue [] (.constant "int" "10u" none) = some 10 ∧
      constantIn [] (.constant "int" "10u" none) =
        .error (.valueError (Text.intLiteralError "10u" 10)) := by
  have hn : ("'\\n'" : String).toList = ['\'', '\\', 'n', '\''] := by decide
  have hu : ("10u" : String).toList = ['1', '0', 'u'] := by decide
  have hread : Text.readInt "10u" 10 = none := by
    unfold Text.readInt
    rw [hu]
    decide
  refine ⟨?_, ?_, ?_, ?_⟩
  · simp only [cValue, cConstantValue, hn]
    decide
  · unfold constantIn
    rw [parseConstant_quoted (.inr hn)]
    rfl
  · simp only [cValue, cConstantValue, hu]
    decide
  · unfold constantIn
    rw [DeclM.parseConstant.eq_def]
    simp only
    rw [hu]
    simp only [DeclM.readIntIn, hread]
    rfl

end Basis.Foreign
