import Basis.Preprocess.Macro

/-!
# Expanding macros without arguments always returns

Expansion replaces the name of a macro by its replacement and expands that in
turn with the name barred, so that a macro never expands inside itself. For
macros with arguments the bar does not hold: an argument is expanded with no
name barred; and the name of a macro with arguments reads past the end of a
token list that it ends, and makes expansion run for ever when anything but
`(` follows it. For macros without arguments nothing else happens, and
expansion always returns.

The measure is the number of macros whose names are not barred
(`unbarred`): each nested expansion bars the name of the macro it expands, a
name that was not barred, so the measure falls by one at each level
(`unbarred_cons_lt`). A table with fewer macros than the levels that
expansion allows (`expansionDepth`) can therefore never reach the last level.

* `Returns x s`: run from the session `s`, `x` returns a value and leaves the
  session as it was.
* `expandLoop_returns`: one level of expansion returns when every nested
  expansion of an unbarred macro's replacement does.
* `expandWithin_returns`: expansion with more levels than unbarred macros
  returns.
* `expand_objectLike_returns`: expanding any token list against a table of
  macros without arguments, fewer than `expansionDepth`, returns and leaves
  the session unchanged.
* `expand_call_name_at_end_fails`: a macro with arguments whose name ends the
  tokens makes expansion fail.
-/

namespace Basis.Preprocess

open Cpp

/-! ## Returning without a change -/

/-- Run from a session, a computation returns a value and leaves the session
as it was. -/
def Returns {α : Type} (x : Cpp α) (s : Session) : Prop := ∃ a, x.run.run s = (.ok a, s)

namespace Cpp

/-- A computation that succeeded hands its result and session to the next. -/
theorem run_bind_of_ok {α β : Type} {x : Cpp α} {f : α → Cpp β} {s s' : Session} {a : α}
    (h : x.run.run s = (.ok a, s')) : (x >>= f).run.run s = (f a).run.run s' := by
  rw [ExceptT.run_bind, StateT.run_bind, h]
  rfl

theorem lookup_run (name : String) (s : Session) :
    (lookup name).run.run s = (.ok (s.macros.find? (·.name == name)), s) := rfl

end Cpp

theorem returns_pure {α : Type} (a : α) (s : Session) : Returns (pure a : Cpp α) s := ⟨a, rfl⟩

/-! ## The measure -/

/-- The number of macros whose names are not barred. -/
def unbarred (s : Session) (seen : List String) : Nat :=
  (s.macros.filter fun m => !seen.contains m.name).length

/-- Barring the name of a macro not barred yet removes at least that macro from
the count. -/
theorem unbarred_cons_lt {s : Session} {seen : List String} {m : Macro} (hm : m ∈ s.macros)
    (hfree : seen.contains m.name = false) : unbarred s (m.name :: seen) < unbarred s seen := by
  unfold unbarred
  -- the macros unbarred after are those unbarred before, less those named `m.name`
  have hsplit : (s.macros.filter fun x => !(m.name :: seen).contains x.name) =
      (s.macros.filter fun x => !seen.contains x.name).filter fun x => x.name != m.name := by
    rw [List.filter_filter]
    congr 1
    funext x
    simp only [List.contains_cons, Bool.not_or, bne]
  rw [hsplit, List.length_filter_lt_length_iff_exists]
  exact ⟨m, List.mem_filter.2 ⟨hm, by simpa using hfree⟩, by simp⟩

/-! ## One level, then all levels -/

section Level

variable {s : Session} {sub : List String → List Token → Cpp (List Token)}
  {subArg : List Token → Cpp (List Token)} {seen : List String}

/-- One level of expansion against macros without arguments returns, given
that expanding the replacement of any macro whose name is not barred returns,
with that name barred. -/
theorem expandLoop_returns (hobj : ∀ m ∈ s.macros, m.takesArguments = false)
    (hsub : ∀ m ∈ s.macros, seen.contains m.name = false →
      ∀ body, Returns (sub (m.name :: seen) body) s) :
    ∀ (ts acc : List Token), Returns (expandLoop sub subArg seen ts acc) s := by
  intro ts
  -- every recursive call is on the tokens after the first: induction on the list
  induction ts with
  | nil => intro acc; rw [expandLoop]; exact returns_pure _ s
  | cons t rest ih =>
    intro acc
    rw [expandLoop]
    split
    · exact ih _
    · next hcond =>
      have hfree : seen.contains t.text = false := by
        simp only [Bool.or_eq_true, not_or, Bool.not_eq_true] at hcond
        exact hcond.2
      unfold Returns
      rw [run_bind_of_ok (lookup_run t.text s)]
      cases hfind : s.macros.find? (·.name == t.text) with
      | none => exact ih _
      | some m =>
        have hm := List.mem_of_find?_eq_some hfind
        have hname : m.name = t.text := by simpa using List.find?_some hfind
        obtain ⟨ex, hex⟩ := hsub m hm (hname ▸ hfree) m.body
        rw [hname] at hex
        simp only [hobj m hm, Bool.not_false, ↓reduceIte]
        rw [run_bind_of_ok hex]
        exact ih _

/-- Expansion returns when it has more levels left than there are macros not
barred. -/
theorem expandWithin_returns (hobj : ∀ m ∈ s.macros, m.takesArguments = false) (fuel : Nat) :
    ∀ (seen : List String) (ts : List Token), unbarred s seen < fuel →
      Returns (expandWithin fuel seen ts) s := by
  -- induction on the levels left; each nested level bars one more macro
  induction fuel with
  | zero => intro seen ts h; omega
  | succ fuel ih =>
    intro seen ts h
    rw [expandWithin]
    refine expandLoop_returns hobj (fun m hm hfree body => ih _ body ?_) ts []
    have := unbarred_cons_lt hm hfree
    omega

end Level

/-- Expanding any token list against a table of macros without arguments,
fewer than the levels expansion allows, returns and leaves the session as it
was: self-reference and mutual reference end at a barred name. -/
theorem expand_objectLike_returns (s : Session)
    (hobj : ∀ m ∈ s.macros, m.takesArguments = false) (hfew : s.macros.length < expansionDepth)
    (ts : List Token) :
    ∃ out, (expand ts).run.run s = (.ok out, s) :=
  expandWithin_returns hobj expansionDepth [] ts
    (Nat.lt_of_le_of_lt (List.length_filter_le _ _) hfew)

/-- Two macros without arguments naming each other: `A` for `B`, `B` for `A`. -/
def mutualPair : Session :=
  { macros := [{ name := "A", body := [⟨.ident, "B", 1⟩] },
      { name := "B", body := [⟨.ident, "A", 2⟩] }] }

theorem expand_mutual_pair_returns :
    (∀ m ∈ mutualPair.macros, m.takesArguments = false) ∧
      mutualPair.macros.length < expansionDepth ∧
      ∃ out,
        (expand [⟨.ident, "A", 3⟩, ⟨.space, " ", 3⟩, ⟨.ident, "B", 3⟩]).run.run mutualPair =
          (.ok out, mutualPair) :=
  ⟨by decide, by decide, expand_objectLike_returns mutualPair (by decide) (by decide) _⟩

/-! ## Macros with arguments -/

/-- A macro `F` taking one argument `x`. -/
def oneParameter : Session :=
  { macros := [{ name := "F", body := [⟨.ident, "x", 1⟩], params := ["x"] }] }

/-- The name of a macro with arguments, with only a line break after it, is
read past the end of the tokens: expansion fails where it should leave the
name as it is. -/
theorem expand_call_name_at_end_fails :
    (expand [⟨.ident, "F", 2⟩, ⟨.space, "\n", 2⟩]).run.run oneParameter =
      (.error .listIndex, oneParameter) := by
  rw [expand, show expansionDepth = 984 + 1 from rfl, expandWithin, expandLoop]
  rfl

end Basis.Preprocess
