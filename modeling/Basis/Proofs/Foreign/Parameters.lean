import Mathlib
import Basis.Proofs.Foreign.Constants

/-!
# Parameters of function types

C adjusts the type of a parameter: an array of `T` is passed as a pointer to
`T`, with the qualifiers of the items, a function as a pointer to the function,
and the qualifiers of the parameter itself are dropped. `Adjusted t q a` states
this for a parameter read as type `t` with qualifiers `q` and passed as `a`;
the spelling that a pointer type carries is left free.

A function declarator's parameters are read in turn (`ReadsAll`), each by the
reading of declarators. A reading of a function type that succeeds
(`functionType_ok`):

* reads its parameters but a last `...` in turn, and passes each as C adjusts it;
* has the ellipsis exactly when its parameters end in `...`, which is then not
  the only one;
* has no arguments when its one parameter is `void`.

A function whose only parameter is `...` is refused (`functionType_only_dots`).

Where an array parameter's qualifiers come from: an array declarator reads its
items, and has their qualifiers (`typeAndQuals_array`); a type definition's name
reads as the very type recorded for it, with the qualifiers recorded and those
written beside the name (`typeAndQuals_typedef`). A chain of type definitions
thus comes to the type the first one recorded.
-/

namespace Basis.Foreign

open C

/-! ## Passing a parameter -/

/-- `Adjusted t quals a`: a parameter read as type `t` with qualifiers `quals` is
passed as `a`, as C adjusts parameters. -/
inductive Adjusted : CType → Nat → CType → Prop
  /-- An array is passed as a pointer to its items, with the items' qualifiers. -/
  | array (item : CType) (length : ArrayLength) (m : String) (quals : Nat) (m' : String) :
      Adjusted (.array item length m) quals (.pointer item quals m')
  /-- A function is passed as a pointer to it. -/
  | function (args : List CType) (result : CType) (ellipsis : Bool) (abi : Option String) (m : String)
      (quals : Nat) (m' : String) :
      Adjusted (.function false args result ellipsis abi m) quals (.function true args result ellipsis abi m')
  /-- Anything else is passed as it is, without its qualifiers. -/
  | other (t : CType) (quals : Nat) (harray : t.isArray = false) (hfun : t.isRawFunction = false) :
      Adjusted t quals t

theorem asFuncArg_adjusts (t : CType) (quals : Nat) (w : Work) :
    ∃ a, (DeclM.asFuncArg t quals).run.run w = (.ok a, w) ∧ Adjusted t quals a := by
  cases t with
  | array item length m => exact ⟨_, rfl, .array ..⟩
  | function pointer args result ellipsis abi m =>
    cases pointer with
    | false => exact ⟨_, rfl, .function ..⟩
    | true => exact ⟨_, rfl, .other _ _ rfl rfl⟩
  | _ => exact ⟨_, rfl, .other _ _ rfl rfl⟩

/-! ## Reading the parameters -/

/-- `ReadsAll fuel ps rs w w'`: reading the declarators of the parameters `ps` in
turn, from work `w`, gives `rs` and leaves `w'`. -/
inductive ReadsAll (fuel : Nat) : List Node → List Resolved → Work → Work → Prop
  | nil (w : Work) : ReadsAll fuel [] [] w w
  | cons {p : Node} {ps : List Node} {r : Resolved} {rs : List Resolved} {w w₁ w' : Work}
      (head : (DeclM.typeAndQuals fuel (DeclM.typeOfMember p) none false).run.run w = (.ok r, w₁))
      (rest : ReadsAll fuel ps rs w₁ w') : ReadsAll fuel (p :: ps) (r :: rs) w w'

/-- A loop that checks each item changes nothing, and fails at the first bad one. -/
theorem forIn_check_run {β : Type} (bad : β → Bool) (msg : β → Failure) (w : Work) : ∀ l : List β,
    (forIn l PUnit.unit fun x _ =>
        if bad x = true then do
          throw (msg x)
          pure (ForInStep.yield PUnit.unit)
        else pure (ForInStep.yield PUnit.unit) : DeclM PUnit).run.run w =
      ((match l.find? bad with
        | some x => .error (msg x)
        | none => .ok PUnit.unit), w)
  | [] => rfl
  | x :: l => by
    rw [List.forIn_cons, List.find?_cons]
    by_cases hx : bad x = true
    · simp only [hx, if_true]
      rfl
    · simp only [hx, Bool.false_eq_true, if_false]
      exact forIn_check_run bad msg w l

/-- The loop over the parameters, by induction on them: each is read from the
work the one before leaves, and passed as C adjusts it. -/
theorem readParams_ok {fuel : Nat} : ∀ {ps : List Node} {acc as : List CType} {w w' : Work},
    (forIn ps acc fun p s => do
        let r ← DeclM.typeAndQuals fuel (DeclM.typeOfMember p) none false
        let a ← DeclM.asFuncArg r.type r.quals
        pure (ForInStep.yield (s ++ [a])) : DeclM (List CType)).run.run w = (.ok as, w') →
    ∃ rs as', ReadsAll fuel ps rs w w' ∧ List.Forall₂ (fun r a => Adjusted r.type r.quals a) rs as' ∧
      as = acc ++ as'
  | [], acc, as, w, w', h => by
    cases h
    exact ⟨[], [], .nil _, .nil, by simp⟩
  | p :: ps, acc, as, w, w', h => by
    rw [List.forIn_cons, DeclM.run_bind, DeclM.run_bind] at h
    rcases hr : (DeclM.typeAndQuals fuel (DeclM.typeOfMember p) none false).run.run w with ⟨_ | r, w₁⟩
    · rw [hr] at h
      cases h
    · rw [hr] at h
      dsimp only at h
      obtain ⟨a, ha, hadj⟩ := asFuncArg_adjusts r.type r.quals w₁
      rw [DeclM.run_bind, ha] at h
      dsimp only at h
      obtain ⟨rs, as', hreads, hall, rfl⟩ := readParams_ok h
      exact ⟨r :: rs, a :: as', .cons hr hreads, .cons hadj hall, by simp⟩

theorem readParams_bind {fuel : Nat} {β : Type} {ps : List Node} {k : List CType → DeclM β} {w w' : Work}
    {b : β}
    (h : ((forIn ps [] fun p s => do
        let r ← DeclM.typeAndQuals fuel (DeclM.typeOfMember p) none false
        let a ← DeclM.asFuncArg r.type r.quals
        pure (ForInStep.yield (s ++ [a]))) >>= k : DeclM β).run.run w = (.ok b, w')) :
    ∃ rs as w₁, ReadsAll fuel ps rs w w₁ ∧ List.Forall₂ (fun r a => Adjusted r.type r.quals a) rs as ∧
      (k as).run.run w₁ = (.ok b, w') := by
  rw [DeclM.run_bind] at h
  split at h
  · rename_i as w₁ hloop
    obtain ⟨rs, as', hreads, hall, has⟩ := readParams_ok hloop
    rw [has, List.nil_append] at h
    exact ⟨rs, as', w₁, hreads, hall, h⟩
  · cases h

/-! ## Reading a function type -/

section Function

variable {fuel : Nat} {args result : Option Node} {c : Option Coord} {name : Option String}

/-- A function type that is read: its parameters but a last `...` are read in
turn and passed as C adjusts them, `...` is only the last of several, a lone
`void` parameter stands for none, and the result is read after the parameters. -/
theorem functionType_ok {w w' : Work} {t : CType}
    (h : (DeclM.functionType (fuel + 1) (.funcDecl args result c) name).run.run w = (.ok t, w')) :
    let ps := DeclM.parametersOf args
    let dots := DeclM.endsInDots ps
    ∃ rs as w₁ res fargs abi m, ReadsAll fuel (if dots then ps.dropLast else ps) rs w w₁ ∧
      List.Forall₂ (fun r a => Adjusted r.type r.quals a) rs as ∧
      (DeclM.typeAndQuals fuel result none false).run.run w₁ = (.ok res, w') ∧
      t = .function false fargs res.type dots abi m ∧
      (dots = true → ps.dropLast ≠ []) ∧
      (dots = false ∧ as = [.void] → fargs = []) ∧ (¬(dots = false ∧ as = [.void]) → fargs = as) := by
  rw [DeclM.functionType.eq_def] at h
  simp only at h
  rw [DeclM.run_bind, forIn_check_run] at h
  -- every parameter has a type, or the reading fails before it reads any
  cases hfind : List.find? (fun x => (DeclM.typeOfMember x.1).isNone) (DeclM.parametersOf args).zipIdx with
  | some x =>
    rw [hfind] at h
    cases h
  | none =>
  rw [hfind] at h
  dsimp only at h
  by_cases honly : (DeclM.endsInDots (DeclM.parametersOf args) &&
      (if DeclM.endsInDots (DeclM.parametersOf args) = true then (DeclM.parametersOf args).dropLast
        else DeclM.parametersOf args).isEmpty) = true
  · rw [if_pos honly, DeclM.run_bind] at h
    cases h
  rw [if_neg honly] at h
  obtain ⟨rs, as, w₁, hreads, hall, h⟩ := readParams_bind h
  rw [DeclM.run_bind] at h
  rcases hres : (DeclM.typeAndQuals fuel result none false).run.run w₁ with ⟨_ | res, w₂⟩
  · rw [hres] at h
    cases h
  rw [hres] at h
  cases h
  intro ps dots
  refine ⟨rs, as, w₁, res, _, _, _, hreads, hall, hres, rfl, ?_, ?_, ?_⟩
  · intro hd
    simpa [dots, ps, hd] using honly
  · rintro ⟨hd, rfl⟩
    simp only [dots, ps] at hd
    rw [hd]
  · intro hne
    split
    · rename_i hd
      exact (hne ⟨hd, rfl⟩).elim
    · rfl

theorem typeOfMember_of_dots {p : Node} (hp : DeclM.isDotsParam p = true) :
    (DeclM.typeOfMember p).isNone = false := by
  unfold DeclM.isDotsParam at hp
  split at hp
  · rename_i heq
    simp [heq]
  · cases hp

/-- A function whose only parameter is `...` is refused, before anything is read. -/
theorem functionType_only_dots {p : Node} (hps : DeclM.parametersOf args = [p]) (hp : DeclM.isDotsParam p = true)
    (w : Work) :
    (DeclM.functionType (fuel + 1) (.funcDecl args result c) name).run.run w =
      (.error (Source.cdefError (DeclM.functionLabel name ++
        ": a function with only '(...)' as argument is not correct C")), w) := by
  rw [DeclM.functionType.eq_def]
  simp only
  rw [DeclM.run_bind, forIn_check_run, hps]
  have hdots : DeclM.endsInDots [p] = true := hp
  simp only [List.zipIdx_cons, List.zipIdx_nil, List.find?_cons, List.find?_nil, typeOfMember_of_dots hp, hdots]
  rfl

end Function

/-! ## Where the qualifiers of a parameter come from -/

/-- The name of a type definition reads as the type recorded for it, the very
object, with the qualifiers recorded and those written beside the name. -/
theorem typeAndQuals_typedef {fuel : Nat} {declname : Option String} {qs : List String} {word : String}
    {ic tc : Option Coord} {name : Option String} {partialOk : Bool} {w : Work} {t : CType} {quals : Nat}
    {identity : Identity}
    (hentry : entryOf w.book.entries ("typedef " ++ word) = some { value := .type t, quals := quals, identity := identity }) :
    (DeclM.typeAndQuals (fuel + 1) (some (.typeDecl declname (some qs) (some (.identifierType [word] ic)) tc))
      name partialOk).run.run w = (.ok ⟨t, quals ||| DeclM.qualBits qs, identity⟩, w) := by
  rw [DeclM.typeAndQuals.eq_def]
  simp only
  rw [DeclM.run_bind, DeclM.lookup_run, hentry]
  rfl

theorem arrayItems_ok {fuel : Nat} {inner : Option Node} {partialOk : Bool} {length : ArrayLength}
    {w w' : Work} {r : Resolved}
    (h : (do
        let item ← DeclM.typeAndQuals fuel inner none partialOk
        let tg ← DeclM.tags
        let id ← DeclM.fresh
        pure ({ type := CType.arrayOf tg item.type length, quals := item.quals, identity := id } : Resolved) :
          DeclM Resolved).run.run w = (.ok r, w')) :
    ∃ item m w₁, (DeclM.typeAndQuals fuel inner none partialOk).run.run w = (.ok item, w₁) ∧
      r.type = .array item.type length m ∧ r.quals = item.quals := by
  rw [DeclM.run_bind] at h
  rcases hitem : (DeclM.typeAndQuals fuel inner none partialOk).run.run w with ⟨_ | item, w₁⟩
  · rw [hitem] at h
    cases h
  rw [hitem] at h
  cases h
  exact ⟨item, _, w₁, rfl, rfl, rfl⟩

/-- An array declarator that is read is an array of the type its items read as,
with the qualifiers of the items. -/
theorem typeAndQuals_array {fuel : Nat} {inner dim : Option Node} {dq : List String} {ac : Option Coord}
    {name : Option String} {partialOk : Bool} {w w' : Work} {r : Resolved}
    (h : (DeclM.typeAndQuals (fuel + 1) (some (.arrayDecl inner dim dq ac)) name partialOk).run.run w =
      (.ok r, w')) :
    ∃ item length m w₀ w₁, (DeclM.typeAndQuals fuel inner none partialOk).run.run w₀ = (.ok item, w₁) ∧
      r.type = .array item.type length m ∧ r.quals = item.quals := by
  rw [DeclM.typeAndQuals.eq_def] at h
  simp only at h
  rw [DeclM.run_bind, DeclM.run_pure] at h
  dsimp only at h
  -- the length is read first, and the items from the work it leaves
  cases dim with
  | none =>
    rw [DeclM.run_bind, DeclM.run_pure] at h
    obtain ⟨item, m, w₁, hitem, htype, hquals⟩ := arrayItems_ok h
    exact ⟨item, _, m, w, w₁, hitem, htype, hquals⟩
  | some d =>
    rw [DeclM.run_bind] at h
    rcases hlen : (DeclM.parseLength d partialOk).run.run w with ⟨_ | length, w₀⟩
    · rw [hlen] at h
      cases h
    rw [hlen] at h
    obtain ⟨item, m, w₁, hitem, htype, hquals⟩ := arrayItems_ok h
    exact ⟨item, length, m, w₀, w₁, hitem, htype, hquals⟩

/-! ## Parameters follow C -/

/-- A function type read passes its parameters as C adjusts them, ends in an
ellipsis exactly when its parameters end in `...`, and has no arguments for a
lone `void`; `(...)` alone is refused. An array parameter has the qualifiers of
its items, and a type definition's name reads as the type recorded for it. -/
theorem function_parameters_adjusted :
    (∀ (fuel : Nat) (args result : Option Node) (c : Option Coord) (name : Option String) (w w' : Work)
      (t : CType), (DeclM.functionType (fuel + 1) (.funcDecl args result c) name).run.run w = (.ok t, w') →
      let ps := DeclM.parametersOf args
      let dots := DeclM.endsInDots ps
      ∃ rs as w₁ res fargs abi m, ReadsAll fuel (if dots then ps.dropLast else ps) rs w w₁ ∧
        List.Forall₂ (fun r a => Adjusted r.type r.quals a) rs as ∧
        (DeclM.typeAndQuals fuel result none false).run.run w₁ = (.ok res, w') ∧
        t = .function false fargs res.type dots abi m ∧
        (dots = true → ps.dropLast ≠ []) ∧
        (dots = false ∧ as = [.void] → fargs = []) ∧ (¬(dots = false ∧ as = [.void]) → fargs = as)) ∧
    (∀ (fuel : Nat) (args result : Option Node) (c : Option Coord) (name : Option String) (p : Node) (w : Work),
      DeclM.parametersOf args = [p] → DeclM.isDotsParam p = true →
      (DeclM.functionType (fuel + 1) (.funcDecl args result c) name).run.run w =
        (.error (Source.cdefError (DeclM.functionLabel name ++
          ": a function with only '(...)' as argument is not correct C")), w)) ∧
    (∀ (fuel : Nat) (inner dim : Option Node) (dq : List String) (ac : Option Coord) (name : Option String)
      (partialOk : Bool) (w w' : Work) (r : Resolved),
      (DeclM.typeAndQuals (fuel + 1) (some (.arrayDecl inner dim dq ac)) name partialOk).run.run w = (.ok r, w') →
      ∃ item length m w₀ w₁, (DeclM.typeAndQuals fuel inner none partialOk).run.run w₀ = (.ok item, w₁) ∧
        r.type = .array item.type length m ∧ r.quals = item.quals) ∧
    (∀ (fuel : Nat) (declname : Option String) (qs : List String) (word : String) (ic tc : Option Coord)
      (name : Option String) (partialOk : Bool) (w : Work) (t : CType) (quals : Nat) (identity : Identity),
      entryOf w.book.entries ("typedef " ++ word) = some { value := .type t, quals := quals, identity := identity } →
      (DeclM.typeAndQuals (fuel + 1) (some (.typeDecl declname (some qs) (some (.identifierType [word] ic)) tc))
        name partialOk).run.run w = (.ok ⟨t, quals ||| DeclM.qualBits qs, identity⟩, w)) :=
  ⟨fun _ _ _ _ _ _ _ _ h => functionType_ok h, fun _ _ _ _ _ _ w hps hp => functionType_only_dots hps hp w,
    fun _ _ _ _ _ _ _ _ _ _ h => typeAndQuals_array h, fun _ _ _ _ _ _ _ _ _ _ _ _ hentry => typeAndQuals_typedef hentry⟩

/-- The parameter list of one parameter of the type named by `word`. -/
def soleParameter (word : String) : Node :=
  .paramList [.typeName none [] (.typeDecl none (some []) (some (.identifierType [word] none)) none) none] none

/-- The declarator `int f`. -/
def intNamedF : Node := .typeDecl (some "f") (some []) (some (.identifierType ["int"] none)) none

/-- `int f(void)` is read as a function, its lone `void` parameter read and
adjusted, and `int f(...)` is refused. -/
theorem void_and_dots_parameters_read :
    (∃ t w', (DeclM.functionType 4 (.funcDecl (some (soleParameter "void")) (some intNamedF) none)
          (some "f")).run.run {} = (.ok t, w') ∧
      let ps := DeclM.parametersOf (some (soleParameter "void"))
      let dots := DeclM.endsInDots ps
      ∃ rs as w₁ res fargs abi m, ReadsAll 3 (if dots then ps.dropLast else ps) rs {} w₁ ∧
        List.Forall₂ (fun r a => Adjusted r.type r.quals a) rs as ∧
        (DeclM.typeAndQuals 3 (some intNamedF) none false).run.run w₁ = (.ok res, w') ∧
        t = .function false fargs res.type dots abi m ∧
        (dots = true → ps.dropLast ≠ []) ∧
        (dots = false ∧ as = [.void] → fargs = []) ∧ (¬(dots = false ∧ as = [.void]) → fargs = as)) ∧
    (DeclM.functionType 1 (.funcDecl (some (soleParameter "__dotdotdot__")) (some intNamedF) none)
        (some "f")).run.run {} = (.error (Source.cdefError (DeclM.functionLabel (some "f") ++
          ": a function with only '(...)' as argument is not correct C")), {}) :=
  ⟨⟨_, _, rfl, function_parameters_adjusted.1 3 _ _ none (some "f") {} _ _ rfl⟩,
    function_parameters_adjusted.2.1 0 _ _ none (some "f") _ {} rfl rfl⟩

end Basis.Foreign
