import Mathlib
import Basis.Proofs.Foreign.Constants

/-!
# The words of a primitive type

C names an arithmetic type by a list of specifiers: at most one of `signed` and
`unsigned`, `short` once or `long` up to twice, and a base type `int`, `char` or
`double`, which may be left out for `int`. C reads them in any order (C11
6.7.2): `unsigned long int`, `long unsigned` and `int long unsigned` are one type.
`Specifiers` counts the words of a list, and `Specifiers.canonical` is the name
C gives the type, or `none` for a list C refuses.

The reading of declarators puts the size and sign words in front in one order
and drops `signed` and a redundant `int` (`DeclM.normalizeNames`), but it counts
only the words before the first other one. So:

* a list whose base word is last, or absent, reads as the primitive type of its
  canonical name, whatever the order of the other words
  (`specifiers_read_canonically`);
* a base word before a size word is not put in order: `int long`, C's `long`, is
  refused as an unsupported type, while `long int` reads as `long`
  (`int_long_refused`).
-/

namespace Basis.Foreign

open C

/-! ## Specifiers as C counts them -/

/-- The base types among the specifiers of C's arithmetic types. -/
inductive BaseType where
  | int
  | char
  | double
  deriving DecidableEq, Repr

/-- The keyword of a base type. -/
def BaseType.word : BaseType → String
  | .int => "int"
  | .char => "char"
  | .double => "double"

/-- The words a base type puts at the end of a list of specifiers: none when it
is left out. -/
def BaseType.words : Option BaseType → List String
  | some b => [b.word]
  | none => []

/-- The specifiers that sign or size a base type. -/
def sizeSignWords : List String := ["signed", "unsigned", "short", "long"]

/-- A list of specifiers as C counts it: how often each of `signed`,
`unsigned`, `short` and `long` occurs, and the base type. -/
structure Specifiers where
  signed : Nat
  unsigned : Nat
  short : Nat
  long : Nat
  base : Option BaseType
  deriving DecidableEq, Repr

/-- The counts of a list of size and sign words before a base type. -/
def Specifiers.ofWords (ws : List String) (base : Option BaseType) : Specifiers :=
  ⟨ws.count "signed", ws.count "unsigned", ws.count "short", ws.count "long", base⟩

/-- The canonical name of the type C gives a list of specifiers, `none` where C
refuses the list: `char` takes only a sign, `double` only one `long`, and `int`,
written or not, one `short` or up to two `long`s, with `signed` implied. -/
def Specifiers.canonical (s : Specifiers) : Option String :=
  if 1 < s.signed + s.unsigned then none
  else match s.base with
    | some .char =>
      if s.short = 0 ∧ s.long = 0 then
        some (if s.signed = 1 then "signed char" else if s.unsigned = 1 then "unsigned char" else "char")
      else none
    | some .double =>
      if s.signed + s.unsigned + s.short = 0 ∧ s.long ≤ 1 then
        some (if s.long = 1 then "long double" else "double")
      else none
    | base =>
      if 1 < s.short ∨ 2 < s.long ∨ (0 < s.short ∧ 0 < s.long) then none
      else if base = none ∧ s.signed + s.unsigned + s.short + s.long = 0 then none
      else some ((if s.unsigned = 1 then "unsigned " else "") ++
        (if s.short = 1 then "short" else if s.long = 1 then "long" else if s.long = 2 then "long long" else "int"))

/-- The names C gives its arithmetic types are primitive types. -/
theorem canonical_primitive {s : Specifiers} {name : String} (h : s.canonical = some name) :
    (numericOf? name).isSome ∧ name ≠ "void" ∧ name ≠ "__dotdotdot__" ∧ name ≠ "FILE" ∧ name ≠ "bool" := by
  obtain ⟨sg, u, sh, lg, base⟩ := s
  unfold Specifiers.canonical at h
  -- by the base first, so that only the tests of one branch are split
  rcases base with _ | ⟨_ | _ | _⟩ <;> simp only at h <;> split_ifs at h <;> cases h <;> decide

/-! ## Putting the words in order -/

theorem length_eq_counts : ∀ {ws : List String}, (∀ x ∈ ws, x ∈ sizeSignWords) →
    ws.length = ws.count "signed" + ws.count "unsigned" + ws.count "short" + ws.count "long"
  | [], _ => rfl
  | x :: ws, hws => by
    have hx : x ∈ sizeSignWords := hws x (by simp)
    have ih := length_eq_counts fun y hy => hws y (List.mem_cons_of_mem x hy)
    simp only [sizeSignWords, List.mem_cons, List.not_mem_nil, or_false] at hx
    rcases hx with rfl | rfl | rfl | rfl <;> simp [ih] <;> omega

theorem normalizeNames_sized {ws : List String} (hws : ∀ x ∈ ws, x ∈ sizeSignWords) (base : Option BaseType)
    (hsc : ¬(ws = ["signed"] ∧ base = some .char)) :
    DeclM.normalizeNames (ws ++ BaseType.words base) =
      List.replicate (ws.count "unsigned") "unsigned" ++ List.replicate (ws.count "short") "short" ++
        List.replicate (ws.count "long") "long" ++
        (match base with
          | some .char => ["char"]
          | some .double => ["double"]
          | _ => if 0 < ws.count "short" + ws.count "long" then [] else ["int"]) := by
  have hne : (ws ++ BaseType.words base == ["signed", "char"]) = false := by
    rw [beq_eq_false_iff_ne]
    intro h
    cases base with
    | none =>
      have : "char" ∈ sizeSignWords := hws "char" (by simp [BaseType.words] at h; simp [h])
      simp [sizeSignWords] at this
    | some b =>
      obtain ⟨hw, hb⟩ := List.append_inj' (h.trans (show ["signed", "char"] = ["signed"] ++ ["char"] from rfl)) rfl
      cases b <;> simp [BaseType.words, BaseType.word] at hb
      exact hsc ⟨hw, rfl⟩
  have htake : (ws ++ BaseType.words base).takeWhile
      (fun w => w == "short" || w == "long" || w == "signed" || w == "unsigned") = ws := by
    rw [List.takeWhile_append_of_pos]
    · cases base with
      | none => simp [BaseType.words]
      | some b => cases b <;> simp [BaseType.words, BaseType.word]
    · intro a ha
      have := hws a ha
      simp only [sizeSignWords, List.mem_cons, List.not_mem_nil, or_false] at this
      rcases this with rfl | rfl | rfl | rfl <;> rfl
  unfold DeclM.normalizeNames
  simp only [hne, htake, Bool.false_eq_true, if_false, List.drop_left]
  congr 1
  cases base with
  | none => simp [BaseType.words]
  | some b => cases b <;> simp [BaseType.words, BaseType.word]

theorem eq_signed_of_counts {ws : List String} (hws : ∀ x ∈ ws, x ∈ sizeSignWords) (hs : ws.count "signed" = 1)
    (hrest : ws.count "unsigned" + ws.count "short" + ws.count "long" = 0) : ws = ["signed"] := by
  have hlen := length_eq_counts hws
  obtain ⟨x, rfl⟩ : ∃ x, ws = [x] := List.length_eq_one_iff.mp (by omega)
  have hx : x = "signed" := by simpa [List.count_singleton] using hs
  rw [hx]

theorem intercalate_integer_words {u sh lg : Nat} (hu : u ≤ 1) (hsh : sh ≤ 1) (hlg : lg ≤ 2)
    (hboth : ¬(0 < sh ∧ 0 < lg)) :
    " ".intercalate (List.replicate u "unsigned" ++ List.replicate sh "short" ++ List.replicate lg "long" ++
        (if 0 < sh + lg then [] else ["int"])) =
      (if u = 1 then "unsigned " else "") ++
        (if sh = 1 then "short" else if lg = 1 then "long" else if lg = 2 then "long long" else "int") := by
  interval_cases u <;> interval_cases sh <;> interval_cases lg <;> simp at hboth <;> decide

theorem canonical_words {ws : List String} (hws : ∀ x ∈ ws, x ∈ sizeSignWords) {base : Option BaseType}
    {name : String} (hc : (Specifiers.ofWords ws base).canonical = some name) :
    " ".intercalate (DeclM.normalizeNames (ws ++ BaseType.words base)) = name := by
  by_cases hsc : ws = ["signed"] ∧ base = some .char
  · obtain ⟨rfl, rfl⟩ := hsc
    simp only [Specifiers.ofWords, Specifiers.canonical] at hc
    cases hc
    decide
  rw [normalizeNames_sized hws base hsc]
  unfold Specifiers.canonical Specifiers.ofWords at hc
  cases base with
  | some b =>
    cases b with
    | char =>
      simp only at hc ⊢
      split_ifs at hc with hsign hsl hs1 hu1 <;> cases hc
      · -- `signed char` is the one spelling the words keep as written
        exact absurd ⟨eq_signed_of_counts hws hs1 (by omega), rfl⟩ hsc
      · rw [hu1, hsl.1, hsl.2]
        decide
      · rw [show ws.count "unsigned" = 0 by omega, hsl.1, hsl.2]
        decide
    | double =>
      simp only at hc ⊢
      split_ifs at hc with hsign hd hl <;> cases hc
      · rw [show ws.count "unsigned" = 0 by omega, show ws.count "short" = 0 by omega, hl]
        decide
      · rw [show ws.count "unsigned" = 0 by omega, show ws.count "short" = 0 by omega,
          show ws.count "long" = 0 by omega]
        decide
    | int =>
      simp only [reduceCtorEq, false_and, if_false] at hc ⊢
      have hsign : ¬1 < ws.count "signed" + ws.count "unsigned" := fun h => by
        rw [if_pos h] at hc
        cases hc
      have hbad : ¬(1 < ws.count "short" ∨ 2 < ws.count "long" ∨ 0 < ws.count "short" ∧ 0 < ws.count "long") :=
        fun h => by
          rw [if_neg hsign, if_pos h] at hc
          cases hc
      rw [if_neg hsign, if_neg hbad] at hc
      cases hc
      apply intercalate_integer_words <;> omega
  | none =>
    simp only [true_and] at hc ⊢
    have hsign : ¬1 < ws.count "signed" + ws.count "unsigned" := fun h => by
      rw [if_pos h] at hc
      cases hc
    have hbad : ¬(1 < ws.count "short" ∨ 2 < ws.count "long" ∨ 0 < ws.count "short" ∧ 0 < ws.count "long") :=
      fun h => by
        rw [if_neg hsign, if_pos h] at hc
        cases hc
    have hsome : ¬(ws.count "signed" + ws.count "unsigned" + ws.count "short" + ws.count "long" = 0) :=
      fun h => by
        rw [if_neg hsign, if_neg hbad, if_pos h] at hc
        cases hc
    rw [if_neg hsign, if_neg hbad, if_neg hsome] at hc
    cases hc
    apply intercalate_integer_words <;> omega

/-! ## Reading the words -/

theorem typeAndQuals_words {fuel : Nat} {d : Option String} {qs : List String} {names : List String}
    {ic tc : Option Coord} {n : Option String} {partialOk : Bool} {w : Work}
    (hfree : ∀ word, names = [word] → entryOf w.book.entries ("typedef " ++ word) = none)
    (hvoid : " ".intercalate (DeclM.normalizeNames names) ≠ "void")
    (hdots : " ".intercalate (DeclM.normalizeNames names) ≠ "__dotdotdot__") :
    (DeclM.typeAndQuals (fuel + 1) (some (.typeDecl d (some qs) (some (.identifierType names ic)) tc)) n
      partialOk).run.run w =
      match (DeclM.resolveCommon (" ".intercalate (DeclM.normalizeNames names))).run.run w with
      | (.ok r, w') => (.ok { r with quals := DeclM.qualBits qs ||| r.quals }, w')
      | (.error e, w') => (.error e, w') := by
  rw [DeclM.typeAndQuals.eq_def]
  simp only
  -- a single word is first looked up among the type definitions, where it has none
  split
  on_goal 1 =>
    rename_i word _ _ heq
    simp only [Option.some.injEq, Node.typeDecl.injEq, Node.identifierType.injEq] at heq
    rw [DeclM.run_bind, DeclM.lookup_run, hfree word heq.2.2.1.1]
    dsimp only
  all_goals
    rw [DeclM.run_bind, DeclM.run_pure]
    dsimp only
    rw [DeclM.run_bind]
    simp only [hvoid, hdots, beq_iff_eq, if_false]
    rw [show (DeclM.extractQuals (.typeDecl d (some qs) (some (.identifierType names ic)) tc)).run.run w =
      (.ok (DeclM.qualBits qs), w) from rfl]
    dsimp only
    rw [DeclM.run_bind]
    rcases (DeclM.resolveCommon (" ".intercalate (DeclM.normalizeNames names))).run.run w with ⟨_ | _, _⟩ <;> rfl

theorem resolveCommon_primitive {ident : String} (hfile : ident ≠ "FILE") (hbool : ident ≠ "bool")
    (hk : (numericOf? ident).isSome) (w : Work) :
    (DeclM.resolveCommon ident).run.run w = (.ok ⟨.primitive ident, 0, .common ident⟩, w) := by
  unfold DeclM.resolveCommon
  simp only [beq_iff_eq, hfile, hbool, if_false, hk, if_true]
  rfl

theorem resolveCommon_unsupported {ident : String} (hfile : ident ≠ "FILE") (hbool : ident ≠ "bool")
    (hk : numericOf? ident = none) (w : Work) :
    ∃ rest, (DeclM.resolveCommon ident).run.run w =
      (.error (ffiError ("Unsupported type: " ++ Value.strRepr ident ++ rest)), w) := by
  unfold DeclM.resolveCommon
  simp only [beq_iff_eq, hfile, hbool, if_false, hk, Option.isSome_none, Bool.false_eq_true]
  rw [@String.append_assoc ("Unsupported type: " ++ Value.strRepr ident)]
  exact ⟨_, rfl⟩

/-! ## Specifiers in order read as C names them -/

section Reading

variable {fuel : Nat} {d : Option String} {qs : List String} {ic tc : Option Coord} {n : Option String}
  {partialOk : Bool} {w : Work}

/-- Size and sign words in any order, then the base word or none, read as the
primitive type C names them, with the qualifiers written beside them; a single
word must not be the name of a type definition. -/
theorem specifiers_read_canonically {ws : List String} {base : Option BaseType} {name : String}
    (hws : ∀ x ∈ ws, x ∈ sizeSignWords) (hc : (Specifiers.ofWords ws base).canonical = some name)
    (hfree : ∀ word, ws ++ BaseType.words base = [word] → entryOf w.book.entries ("typedef " ++ word) = none) :
    (DeclM.typeAndQuals (fuel + 1)
      (some (.typeDecl d (some qs) (some (.identifierType (ws ++ BaseType.words base) ic)) tc)) n
      partialOk).run.run w = (.ok ⟨.primitive name, DeclM.qualBits qs, .common name⟩, w) := by
  obtain ⟨hk, hvoid, hdots, hfile, hbool⟩ := canonical_primitive hc
  have hname := canonical_words hws hc
  rw [typeAndQuals_words hfree (hname ▸ hvoid) (hname ▸ hdots), hname, resolveCommon_primitive hfile hbool hk]
  simp

/-- `long unsigned int` reads as `unsigned long`. -/
theorem long_unsigned_int_read :
    (DeclM.typeAndQuals 1
      (some (.typeDecl none (some []) (some (.identifierType ["long", "unsigned", "int"] none)) none)) none
      false).run.run {} = (.ok ⟨.primitive "unsigned long", DeclM.qualBits [], .common "unsigned long"⟩, {}) :=
  @specifiers_read_canonically 0 none [] none none none false {} ["long", "unsigned"] (some .int) "unsigned long"
    (by decide) (by decide) fun _ _ => rfl

/-- `int long` is C's `long`, but its words are not put in order: it is refused as
an unsupported type, where `long int` reads as `long`. -/
theorem int_long_refused :
    (∃ rest, (DeclM.typeAndQuals 1
      (some (.typeDecl none (some []) (some (.identifierType ["int", "long"] none)) none)) none false).run.run ({} : Work) =
        (.error (ffiError ("Unsupported type: " ++ Value.strRepr "int long" ++ rest)), {})) ∧
    (DeclM.typeAndQuals 1
      (some (.typeDecl none (some []) (some (.identifierType ["long", "int"] none)) none)) none false).run.run ({} : Work) =
        (.ok ⟨.primitive "long", DeclM.qualBits [], .common "long"⟩, {}) := by
  have hil : " ".intercalate (DeclM.normalizeNames ["int", "long"]) = "int long" := by decide
  have hli : " ".intercalate (DeclM.normalizeNames ["long", "int"]) = "long" := by decide
  constructor
  · rw [typeAndQuals_words (fun _ h => by simp at h) (by rw [hil]; decide) (by rw [hil]; decide), hil]
    obtain ⟨rest, hrest⟩ := @resolveCommon_unsupported "int long" (by decide) (by decide) (by decide) {}
    rw [hrest]
    exact ⟨rest, rfl⟩
  · rw [typeAndQuals_words (fun _ h => by simp at h) (by rw [hli]; decide) (by rw [hli]; decide), hli,
      resolveCommon_primitive (by decide) (by decide) (by decide)]
    simp

end Reading

end Basis.Foreign
