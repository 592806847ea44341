import Mathlib
import Basis.Proofs.Foreign.Tags

/-!
# Integer constants

A book keeps its integer constants, those that enumerators and integer macros
define, as a list of names with values; a name's value is its first entry
(`entryOf`). Two lists that give every name the same value are `SameValues`.

Reading a constant expression (`DeclM.parseConstant`) changes nothing and reads
nothing of the work but the values of the constants: its run at any work is the
value the expression has against that work's constants, `constantIn`
(`parseConstant_run`), and lists with the same values give the same value
(`constantIn_congr`).

Recording a constant (`DeclM.addConstant`) appends a new name, accepts a name
declared again with the same value, and refuses one declared with another value,
changing nothing (`addConstant_run`).
-/

namespace Basis.Foreign

open C

/-! ## Runs of computations on declarations -/

namespace DeclM

theorem run_bind {α β : Type} (x : DeclM α) (f : α → DeclM β) (w : Work) :
    (x >>= f).run.run w = match x.run.run w with
      | (.ok a, w') => (f a).run.run w'
      | (.error e, w') => (.error e, w') := by
  simp only [ExceptT.run_bind, StateT.run_bind]
  rcases x.run.run w with ⟨_ | _, w'⟩ <;> rfl

theorem run_pure {α : Type} (a : α) (w : Work) : (pure a : DeclM α).run.run w = (.ok a, w) := rfl

theorem book_run (w : Work) : DeclM.book.run.run w = (.ok w.book, w) := rfl

theorem lookup_run (key : String) (w : Work) :
    (DeclM.lookup key).run.run w = (.ok (entryOf w.book.entries key), w) := rfl

end DeclM

/-! ## Values of names -/

theorem entryOf_append {β : Type} (l l' : List (String × β)) (k : String) :
    entryOf (l ++ l') k = (entryOf l k).or (entryOf l' k) := by
  simp [entryOf, List.find?_append, Option.map_or]

/-- Two lists of integer constants that give every name the same value. -/
def SameValues (consts consts' : List (String × Int)) : Prop := ∀ k, entryOf consts k = entryOf consts' k

namespace SameValues

theorem trans {consts₁ consts₂ consts₃ : List (String × Int)} (h₁ : SameValues consts₁ consts₂)
    (h₂ : SameValues consts₂ consts₃) : SameValues consts₁ consts₃ := fun k => (h₁ k).trans (h₂ k)

theorem append {consts consts' : List (String × Int)} (h : SameValues consts consts') (l : List (String × Int)) :
    SameValues (consts ++ l) (consts' ++ l) := by
  intro k
  rw [entryOf_append, entryOf_append, h k]

/-- Recording a name again with the value it has changes no value. -/
theorem append_bound {consts : List (String × Int)} {n : String} {v : Int} (h : entryOf consts n = some v) :
    SameValues consts (consts ++ [(n, v)]) := by
  intro k
  rw [entryOf_append]
  by_cases hk : k = n
  · subst hk
    simp [h]
  · cases entryOf consts k <;> simp [entryOf, Ne.symm hk]

end SameValues

/-! ## Reading constant expressions -/

/-- A constant expression is read against the values of the constants alone, and
the work is left as it was. The statement is over two works, so that the
induction can use it at the work each operand is read from. -/
theorem parseConstant_reads_constants : ∀ (fuel : Nat) (e : Node) (w w' : Work),
    SameValues w.book.intConstants w'.book.intConstants →
    (DeclM.parseConstant fuel e).run.run w = (((DeclM.parseConstant fuel e).run.run w').1, w)
  | 0, _, _, _, _ => rfl
  | fuel + 1, e, w, w', h => by
    have ih := fun e => parseConstant_reads_constants fuel e w w' h
    have ih' := fun e => parseConstant_reads_constants fuel e w' w' fun _ => rfl
    rw [DeclM.parseConstant.eq_def]
    simp only
    split
    case h_1 =>
      -- a literal is read from its text alone
      simp only [DeclM.readIntIn]
      split <;> (try split) <;> (try split) <;> rfl
    case h_2 e _ => exact ih e
    case h_3 e _ =>
      rw [DeclM.run_bind, DeclM.run_bind, ih e]
      rcases (DeclM.parseConstant fuel e).run.run w' with ⟨_ | _, _⟩ <;> rfl
    case h_4 n c =>
      -- a name is looked up in the constants, where both works give it one value
      rw [DeclM.run_bind, DeclM.run_bind, DeclM.book_run, DeclM.book_run]
      dsimp only
      have hn := h n
      unfold entryOf at hn
      cases hf : w.book.intConstants.find? (·.1 == n) <;> cases hf' : w'.book.intConstants.find? (·.1 == n) <;>
        simp only [hf, hf', Option.map_some, Option.map_none, reduceCtorEq, Option.some.injEq] at hn ⊢
      · simp only [DeclM.parseConstant.unsupportedConstant, DeclM.lineOf, C.Node.coord]
        split <;> cases c <;> rfl
      · rw [hn]
        rfl
    case h_5 l r _ | h_6 l r _ =>
      -- the right operand is read from the work the left one leaves, the same work
      rw [DeclM.run_bind, DeclM.run_bind, ih l, ih' l]
      rcases (DeclM.parseConstant fuel l).run.run w' with ⟨_ | _, _⟩
      · rfl
      · dsimp only
        rw [DeclM.run_bind, DeclM.run_bind, ih r, ih' r]
        rcases (DeclM.parseConstant fuel r).run.run w' with ⟨_ | _, _⟩ <;> rfl
    case h_7 =>
      simp only [DeclM.parseConstant.unsupportedConstant, DeclM.lineOf]
      split <;> rfl

/-- The value of a constant expression against integer constants, as an array
length, a bit width or an enumerator's initializer is read. -/
def constantIn (consts : List (String × Int)) (e : Node) : Except Failure Int :=
  ((DeclM.parseConstant 100000 e).run.run { book := { intConstants := consts } }).1

theorem parseConstant_run (e : Node) (w : Work) :
    (DeclM.parseConstant 100000 e).run.run w = (constantIn w.book.intConstants e, w) :=
  parseConstant_reads_constants 100000 e w _ fun _ => rfl

theorem constantIn_congr {consts consts' : List (String × Int)} (h : SameValues consts consts') (e : Node) :
    constantIn consts e = constantIn consts' e := by
  unfold constantIn
  rw [parseConstant_reads_constants 100000 e { book := { intConstants := consts } }
    { book := { intConstants := consts' } } h]

/-! ## Recording constants -/

/-- A new name is appended with its value; a name declared again keeps its entry
if the value is the same, and is refused otherwise, changing nothing. -/
theorem addConstant_run (name : String) (value : Int) (w : Work) :
    (DeclM.addConstant name value).run.run w =
      match entryOf w.book.intConstants name with
      | none => (.ok (), { w with book := { w.book with intConstants := w.book.intConstants ++ [(name, value)] } })
      | some v =>
        if v = value then (.ok (), w)
        else (.error (ffiError ("multiple declarations of constant: " ++ name)), w) := by
  unfold DeclM.addConstant
  rw [DeclM.run_bind, DeclM.book_run]
  dsimp only
  unfold entryOf
  cases hf : w.book.intConstants.find? (·.1 == name) with
  | none => rfl
  | some p =>
    obtain ⟨k, v⟩ := p
    by_cases hv : v = value
    · simp only [hv, Option.map_some, beq_self_eq_true, if_true]
      rfl
    · simp only [Option.map_some, beq_iff_eq, hv, if_false]
      rfl

end Basis.Foreign
