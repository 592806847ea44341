import Mathlib
import Basis.Foreign.Build
import Basis.Proofs.Foreign.Constants

/-!
# Enumerators and the integer type of an enum

C numbers the enumerators of an enum in order: each takes the value of its
initializer, or else one more than the enumerator before it, and 0 for the
first. `Numbered consts next es vals` states this for enumerators `es` read
against the integer constants `consts`, where every enumerator is a constant for
those after it and a name that is already a constant must keep its value.
Enumerators written `...`, left to a compiler, take no value (`valued`).

Reading the enumerators of an enum (`DeclM.buildEnum`) is a fold of one step per
enumerator (`buildEnum_eq`, `enumStep`). From the step lemmas, a reading of an
enum:

* that succeeds makes an enum whose values number its enumerators as C does, and
  records each enumerator as a constant of its value (`buildEnum_numbers`);
* succeeds on every list of enumerators that C numbers (`buildEnum_accepts`);
* refuses an enumerator whose name is a constant of another value with
  `multiple declarations of constant`, once those before it are numbered
  (`buildEnum_refuses`).

The integer type an enum is stored as (`enumBaseOf`) is `int` or `long` when a
value is negative, else `unsigned int` or `unsigned long`: the first whose range
holds every value (`enumBaseOf_eq`). The code compares the least and the
greatest value with shifted powers of two; `fits_eq_all` turns that into a test
of every value.
-/

namespace Basis.Foreign

open C

/-! ## Reading one enumerator -/

/-- The name and initializer of an enumerator node. -/
def enumeratorOf : Node → String × Option Node
  | .enumerator n v _ => (n, v)
  | _ => ("", none)

/-- One enumerator as `DeclM.buildEnum` reads it, on the partial flag, the names
and values so far, and the counter. -/
def enumStep (acc : Bool × List String × List Int × Int) (p : String × Option Node) :
    DeclM (Bool × List String × List Int × Int) := do
  if DeclM.isEnumDots p.1 then return (true, acc.2)
  let v ← match p.2 with
    | some e => DeclM.parseConstant 100000 e
    | none => pure acc.2.2.2
  DeclM.addConstant p.1 v
  return (acc.1, acc.2.1 ++ [p.1], acc.2.2.1 ++ [v], v + 1)

/-- Reading the enumerators of an enum is a fold of `enumStep` over them. -/
theorem buildEnum_eq (name : String) (items : List Node) (c : Option Coord) :
    DeclM.buildEnum name (some (.enumeratorList items c)) =
      (items.map enumeratorOf).foldlM enumStep (false, [], [], 0) >>= fun s =>
        DeclM.newTag { Tag.fresh .enum name with enumerators := s.2.1, enumvalues := s.2.2.1, isPartial := s.1 } := by
  unfold DeclM.buildEnum
  simp only
  congr 1
  generalize (false, ([] : List String), ([] : List Int), (0 : Int)) = acc
  induction items generalizing acc with
  | nil => rfl
  | cons item items ih =>
    rw [List.forIn_cons, List.map_cons, List.foldlM_cons]
    -- the rest of the loop first, before its body is simplified out of shape
    simp only [ih]
    split
    · rename_i n v _
      by_cases hdots : DeclM.isEnumDots n = true
      · simp [enumStep, enumeratorOf, hdots]
      · cases v <;> simp [enumStep, enumeratorOf, hdots]
    · rename_i hne
      have hof : enumeratorOf item = ("", none) := by
        unfold enumeratorOf
        split
        · exact (hne _ _ _ rfl).elim
        · rfl
      by_cases hdots : DeclM.isEnumDots "" = true <;> simp [enumStep, hof, hdots]

/-- The value an enumerator takes, against integer constants and a counter: its
initializer's value, or the counter. -/
def enumValue (consts : List (String × Int)) (next : Int) : Option Node → Except Failure Int
  | some e => constantIn consts e
  | none => .ok next

theorem enumValue_congr {consts consts' : List (String × Int)} (h : SameValues consts consts') (next : Int)
    (init : Option Node) : enumValue consts next init = enumValue consts' next init := by
  cases init with
  | some e => exact constantIn_congr h e
  | none => rfl

theorem enumStep_run (acc : Bool × List String × List Int × Int) (n : String) (init : Option Node) (w : Work) :
    (enumStep acc (n, init)).run.run w =
      if DeclM.isEnumDots n then (.ok (true, acc.2), w)
      else match enumValue w.book.intConstants acc.2.2.2 init with
        | .error f => (.error f, w)
        | .ok v =>
          match (DeclM.addConstant n v).run.run w with
          | (.ok _, w') => (.ok (acc.1, acc.2.1 ++ [n], acc.2.2.1 ++ [v], v + 1), w')
          | (.error f, w') => (.error f, w') := by
  unfold enumStep
  by_cases hdots : DeclM.isEnumDots n = true
  · simp only [hdots]
    rfl
  · simp only [hdots, Bool.false_eq_true, ↓reduceIte]
    cases init with
    | some e =>
      rw [DeclM.run_bind, parseConstant_run, enumValue]
      cases constantIn w.book.intConstants e with
      | error f => rfl
      | ok v =>
        dsimp only
        rw [DeclM.run_bind]
        rcases (DeclM.addConstant n v).run.run w with ⟨_ | _, _⟩ <;> rfl
    | none =>
      rw [DeclM.run_bind, DeclM.run_pure, enumValue]
      dsimp only
      rw [DeclM.run_bind]
      rcases (DeclM.addConstant n acc.2.2.2).run.run w with ⟨_ | _, _⟩ <;> rfl

section Step

variable {acc : Bool × List String × List Int × Int} {n : String} {init : Option Node} {w : Work}
  {consts : List (String × Int)}

theorem enumStep_dots (hdots : DeclM.isEnumDots n = true) :
    (enumStep acc (n, init)).run.run w = (.ok (true, acc.2), w) := by
  rw [enumStep_run, if_pos hdots]

/-- An enumerator that takes a value its name is free for, or already has, is
recorded; the work's constants then give every name the values of `consts` and
the new one. -/
theorem enumStep_ok (hdots : DeclM.isEnumDots n = false) (hw : SameValues w.book.intConstants consts) {v : Int}
    (hv : enumValue consts acc.2.2.2 init = .ok v) (hfree : entryOf consts n = none ∨ entryOf consts n = some v) :
    ∃ w', (enumStep acc (n, init)).run.run w = (.ok (acc.1, acc.2.1 ++ [n], acc.2.2.1 ++ [v], v + 1), w') ∧
      w'.tags = w.tags ∧ SameValues w'.book.intConstants (consts ++ [(n, v)]) := by
  rw [enumStep_run, if_neg (by simp [hdots]), enumValue_congr hw, hv]
  dsimp only
  rw [addConstant_run, hw n]
  rcases hfree with hnone | hsome
  · rw [hnone]
    exact ⟨_, rfl, rfl, hw.append _⟩
  · rw [hsome]
    exact ⟨w, by simp, rfl, hw.trans (SameValues.append_bound hsome)⟩

theorem enumStep_clash (hdots : DeclM.isEnumDots n = false) (hw : SameValues w.book.intConstants consts)
    {v v' : Int} (hv : enumValue consts acc.2.2.2 init = .ok v) (hbound : entryOf consts n = some v')
    (hne : v' ≠ v) :
    (enumStep acc (n, init)).run.run w = (.error (ffiError ("multiple declarations of constant: " ++ n)), w) := by
  rw [enumStep_run, if_neg (by simp [hdots]), enumValue_congr hw, hv]
  dsimp only
  rw [addConstant_run, hw n, hbound]
  simp [hne]

/-- What a step that succeeded did: the converse of `enumStep_ok`. -/
theorem enumStep_inv (hdots : DeclM.isEnumDots n = false) (hw : SameValues w.book.intConstants consts)
    {acc' : Bool × List String × List Int × Int} {w' : Work}
    (h : (enumStep acc (n, init)).run.run w = (.ok acc', w')) :
    ∃ v, enumValue consts acc.2.2.2 init = .ok v ∧ (entryOf consts n = none ∨ entryOf consts n = some v) ∧
      acc' = (acc.1, acc.2.1 ++ [n], acc.2.2.1 ++ [v], v + 1) ∧ w'.tags = w.tags ∧
      SameValues w'.book.intConstants (consts ++ [(n, v)]) := by
  rw [enumStep_run, if_neg (by simp [hdots]), enumValue_congr hw] at h
  cases hv : enumValue consts acc.2.2.2 init with
  | error f =>
    rw [hv] at h
    cases h
  | ok v =>
    rw [hv] at h
    dsimp only at h
    rw [addConstant_run, hw n] at h
    cases hn : entryOf consts n with
    | none =>
      rw [hn] at h
      cases h
      exact ⟨v, rfl, .inl rfl, rfl, rfl, hw.append _⟩
    | some v' =>
      rw [hn] at h
      by_cases hvv : v' = v
      · subst hvv
        simp only [if_pos] at h
        cases h
        exact ⟨v', rfl, .inr rfl, rfl, rfl, hw.trans (SameValues.append_bound hn)⟩
      · simp only [hvv, if_false] at h
        cases h

end Step

/-! ## Numbering as C does -/

/-- `Numbered consts next es vals`: counted from `next` against the integer
constants `consts`, the enumerators `es` take the values `vals` as C numbers them.
Each takes its initializer's value, or else the counter; a name that is already a
constant must have that value; and each is a constant for those after it, which
count on from its value. -/
inductive Numbered : List (String × Int) → Int → List (String × Option Node) → List Int → Prop
  | nil (consts : List (String × Int)) (next : Int) : Numbered consts next [] []
  | cons {consts : List (String × Int)} {next v : Int} {n : String} {init : Option Node}
      {es : List (String × Option Node)} {vals : List Int}
      (value : enumValue consts next init = .ok v)
      (free : entryOf consts n = none ∨ entryOf consts n = some v)
      (rest : Numbered (consts ++ [(n, v)]) (v + 1) es vals) :
      Numbered consts next ((n, init) :: es) (v :: vals)

/-- Once numbered, every enumerator is a constant with its value. -/
theorem Numbered.recorded {consts : List (String × Int)} {next : Int} {es : List (String × Option Node)}
    {vals : List Int} (hn : Numbered consts next es vals) :
    ∀ p ∈ (es.map (·.1)).zip vals, entryOf (consts ++ (es.map (·.1)).zip vals) p.1 = some p.2 := by
  induction hn with
  | nil => simp
  | cons hv hfree hrest ih =>
    intro p hp
    simp only [List.map_cons, List.zip_cons_cons, List.mem_cons] at hp
    rcases hp with rfl | hp
    · -- the name was free or had this value already
      rw [entryOf_append]
      rcases hfree with h | h <;> rw [h] <;> simp [entryOf]
    · have hrec := ih p hp
      rw [List.append_assoc, List.singleton_append] at hrec
      simpa using hrec

/-- The enumerators that are not `...`: those that take values. -/
def valued (ps : List (String × Option Node)) : List (String × Option Node) :=
  ps.filter fun p => !DeclM.isEnumDots p.1

theorem valued_cons_dots {n : String} {init : Option Node} (ps : List (String × Option Node))
    (hdots : DeclM.isEnumDots n = true) : valued ((n, init) :: ps) = valued ps := by
  simp [valued, hdots]

theorem valued_cons {n : String} {init : Option Node} (ps : List (String × Option Node))
    (hdots : DeclM.isEnumDots n = false) : valued ((n, init) :: ps) = (n, init) :: valued ps := by
  simp [valued, hdots]

/-- The counter after enumerators numbered `vals` from `next`: one more than the
last value, or `next` if there is none. -/
def counterAfter (next : Int) (vals : List Int) : Int := (vals.getLast?.map (· + 1)).getD next

theorem counterAfter_cons (next v : Int) (vals : List Int) :
    counterAfter next (v :: vals) = counterAfter (v + 1) vals := by
  cases vals <;> simp [counterAfter, List.getLast?_cons]

/-! ## Reading all enumerators

Each lemma is an induction on the enumerators, with the work's constants
following `consts` and its extensions (`SameValues`): the work appends only the
names that are new, the specification every name. -/

/-- A reading of enumerators that succeeds numbers those that are not `...` as C
does, and records each as a constant. -/
theorem enumSteps_ok : ∀ {ps : List (String × Option Node)} {consts : List (String × Int)}
    {acc acc' : Bool × List String × List Int × Int} {w w' : Work},
    SameValues w.book.intConstants consts →
    (ps.foldlM enumStep acc).run.run w = (.ok acc', w') →
    ∃ vals, Numbered consts acc.2.2.2 (valued ps) vals ∧
      acc'.2.1 = acc.2.1 ++ (valued ps).map (·.1) ∧ acc'.2.2.1 = acc.2.2.1 ++ vals ∧ w'.tags = w.tags ∧
      SameValues w'.book.intConstants (consts ++ ((valued ps).map (·.1)).zip vals)
  | [], consts, acc, acc', w, w', hw, h => by
    rw [List.foldlM_nil, DeclM.run_pure] at h
    cases h
    exact ⟨[], .nil _ _, by simp [valued], by simp, rfl, by simpa [valued] using hw⟩
  | (n, init) :: ps, consts, acc, acc', w, w', hw, h => by
    rw [List.foldlM_cons, DeclM.run_bind] at h
    by_cases hdots : DeclM.isEnumDots n = true
    · -- `...` takes no value and leaves the counter
      rw [enumStep_dots hdots] at h
      rw [valued_cons_dots ps hdots]
      dsimp only at h
      obtain ⟨vals, hn, h1, h2, ht, hs⟩ := enumSteps_ok hw h
      exact ⟨vals, hn, h1, h2, ht, hs⟩
    · have hd : DeclM.isEnumDots n = false := by simpa using hdots
      rcases hstep : (enumStep acc (n, init)).run.run w with ⟨_ | acc₁, w₁⟩
      · rw [hstep] at h
        cases h
      · rw [hstep] at h
        obtain ⟨v, hv, hfree, rfl, ht₁, hs₁⟩ := enumStep_inv hd hw hstep
        obtain ⟨vals, hn, h1, h2, ht, hs⟩ := enumSteps_ok hs₁ h
        rw [valued_cons ps hd]
        refine ⟨v :: vals, .cons hv hfree hn, by simp [h1], by simp [h2], ht.trans ht₁, ?_⟩
        simpa using hs

/-- Enumerators that C numbers are read without failure. -/
theorem enumSteps_accept : ∀ {ps : List (String × Option Node)} {consts : List (String × Int)}
    {acc : Bool × List String × List Int × Int} {w : Work} {vals : List Int},
    SameValues w.book.intConstants consts → Numbered consts acc.2.2.2 (valued ps) vals →
    ∃ acc' w', (ps.foldlM enumStep acc).run.run w = (.ok acc', w')
  | [], _, acc, w, _, _, _ => ⟨acc, w, rfl⟩
  | (n, init) :: ps, consts, acc, w, vals, hw, hn => by
    rw [List.foldlM_cons, DeclM.run_bind]
    by_cases hdots : DeclM.isEnumDots n = true
    · rw [enumStep_dots hdots]
      rw [valued_cons_dots ps hdots] at hn
      exact enumSteps_accept hw hn
    · have hd : DeclM.isEnumDots n = false := by simpa using hdots
      rw [valued_cons ps hd] at hn
      cases hn with
      | cons hv hfree hrest =>
        obtain ⟨w₁, hstep, -, hs₁⟩ := enumStep_ok hd hw hv hfree
        rw [hstep]
        exact enumSteps_accept hs₁ hrest

/-- An enumerator whose name is a constant of another value is refused, once
those before it are numbered. -/
theorem enumSteps_refuse : ∀ {ps : List (String × Option Node)} {consts : List (String × Int)}
    {acc : Bool × List String × List Int × Int} {w : Work} {pre post : List (String × Option Node)}
    {n : String} {init : Option Node} {vals : List Int} {v v' : Int},
    SameValues w.book.intConstants consts → valued ps = pre ++ (n, init) :: post →
    Numbered consts acc.2.2.2 pre vals →
    enumValue (consts ++ (pre.map (·.1)).zip vals) (counterAfter acc.2.2.2 vals) init = .ok v →
    entryOf (consts ++ (pre.map (·.1)).zip vals) n = some v' → v' ≠ v →
    ∃ w', (ps.foldlM enumStep acc).run.run w = (.error (ffiError ("multiple declarations of constant: " ++ n)), w')
  | [], _, _, _, pre, _, _, _, _, _, _, _, hps, _, _, _, _ => by
    cases pre <;> simp [valued] at hps
  | (m, i) :: ps, consts, acc, w, pre, post, n, init, vals, v, v', hw, hps, hn, hv, hbound, hne => by
    rw [List.foldlM_cons, DeclM.run_bind]
    by_cases hdots : DeclM.isEnumDots m = true
    · rw [enumStep_dots hdots]
      rw [valued_cons_dots ps hdots] at hps
      exact enumSteps_refuse hw hps hn hv hbound hne
    · have hd : DeclM.isEnumDots m = false := by simpa using hdots
      rw [valued_cons ps hd] at hps
      cases pre with
      | nil =>
        -- the refused enumerator is this one
        cases hn
        obtain ⟨⟨rfl, rfl⟩, -⟩ : (m = n ∧ i = init) ∧ valued ps = post := by simpa using hps
        simp only [List.map_nil, List.zip_nil_left, List.append_nil, counterAfter] at hv hbound
        rw [enumStep_clash hd hw hv hbound hne]
        exact ⟨w, rfl⟩
      | cons p pre =>
        obtain ⟨rfl, hrest⟩ : (m, i) = p ∧ valued ps = pre ++ (n, init) :: post := by simpa using hps
        cases hn with
        | cons hv₀ hfree hnum =>
          obtain ⟨w₁, hstep, -, hs₁⟩ := enumStep_ok hd hw hv₀ hfree
          rw [hstep]
          rw [counterAfter_cons] at hv
          simp only [List.map_cons, List.zip_cons_cons] at hv hbound
          rw [← List.singleton_append, ← List.append_assoc] at hv hbound
          exact enumSteps_refuse hs₁ hrest hnum hv hbound hne

/-! ## Reading an enum -/

theorem newTag_run (t : Tag) (w : Work) :
    (DeclM.newTag t).run.run w = (.ok w.tags.size, { w with tags := w.tags.push t }) := rfl

section Build

variable {explicitName : String} {items : List Node} {c : Option Coord} {w : Work}

/-- A reading of an enum that succeeds makes an enum whose values are its
enumerators' as C numbers them, and records each enumerator as a constant. -/
theorem buildEnum_numbers {id : Nat} {w' : Work}
    (h : (DeclM.buildEnum explicitName (some (.enumeratorList items c))).run.run w = (.ok id, w')) :
    ∃ t, w'.tags[id]? = some t ∧ t.kind = .enum ∧ t.enumerators = (valued (items.map enumeratorOf)).map (·.1) ∧
      Numbered w.book.intConstants 0 (valued (items.map enumeratorOf)) t.enumvalues ∧
      ∀ p ∈ ((valued (items.map enumeratorOf)).map (·.1)).zip t.enumvalues,
        entryOf w'.book.intConstants p.1 = some p.2 := by
  rw [buildEnum_eq, DeclM.run_bind] at h
  rcases hfold : ((items.map enumeratorOf).foldlM enumStep (false, [], [], 0)).run.run w with ⟨_ | s, w₁⟩
  · rw [hfold] at h
    cases h
  · rw [hfold] at h
    obtain ⟨vals, hn, hnames, hvals, -, hsame⟩ := enumSteps_ok (fun _ => rfl) hfold
    dsimp only at h
    rw [newTag_run] at h
    cases h
    simp only at hnames hvals
    refine ⟨_, Array.getElem?_push_size, rfl, by simpa using hnames, by simpa [hvals] using hn, ?_⟩
    intro p hp
    rw [hsame p.1]
    simp only [hvals, List.nil_append] at hp ⊢
    exact hn.recorded p hp

/-- Enumerators that C numbers make an enum. -/
theorem buildEnum_accepts {vals : List Int}
    (hn : Numbered w.book.intConstants 0 (valued (items.map enumeratorOf)) vals) :
    ∃ id w', (DeclM.buildEnum explicitName (some (.enumeratorList items c))).run.run w = (.ok id, w') := by
  rw [buildEnum_eq, DeclM.run_bind]
  obtain ⟨s, w₁, hfold⟩ : ∃ s w₁,
      ((items.map enumeratorOf).foldlM enumStep (false, [], [], 0)).run.run w = (.ok s, w₁) :=
    enumSteps_accept (fun _ => rfl) hn
  rw [hfold]
  exact ⟨_, _, rfl⟩

/-- An enumerator whose name is already a constant of another value is refused. -/
theorem buildEnum_refuses {pre post : List (String × Option Node)} {n : String} {init : Option Node}
    {vals : List Int} {v v' : Int} (hes : valued (items.map enumeratorOf) = pre ++ (n, init) :: post)
    (hn : Numbered w.book.intConstants 0 pre vals)
    (hv : enumValue (w.book.intConstants ++ (pre.map (·.1)).zip vals) (counterAfter 0 vals) init = .ok v)
    (hbound : entryOf (w.book.intConstants ++ (pre.map (·.1)).zip vals) n = some v') (hne : v' ≠ v) :
    ∃ w', (DeclM.buildEnum explicitName (some (.enumeratorList items c))).run.run w =
      (.error (ffiError ("multiple declarations of constant: " ++ n)), w') := by
  rw [buildEnum_eq, DeclM.run_bind]
  obtain ⟨w₁, hfold⟩ : ∃ w₁, ((items.map enumeratorOf).foldlM enumStep (false, [], [], 0)).run.run w =
      (.error (ffiError ("multiple declarations of constant: " ++ n)), w₁) :=
    enumSteps_refuse (fun _ => rfl) hes hn hv hbound hne
  rw [hfold]
  exact ⟨_, rfl⟩

end Build

/-! ## The integer type of an enum -/

/-- Whether a value is in the range of an integer type of `size` bytes, signed or
unsigned. -/
def fitsIn (signed : Bool) (size : Nat) (v : Int) : Bool :=
  if signed then -2 ^ (8 * size - 1) ≤ v && v < 2 ^ (8 * size - 1) else 0 ≤ v && v < 2 ^ (8 * size)

theorem le_foldl_min {x : Int} : ∀ {vs : List Int} {a : Int}, x ≤ vs.foldl min a ↔ x ≤ a ∧ ∀ v ∈ vs, x ≤ v
  | [], a => by simp
  | v :: vs, a => by
    rw [List.foldl_cons, le_foldl_min, le_min_iff]
    simp [and_assoc]

theorem foldl_max_lt {x : Int} : ∀ {vs : List Int} {a : Int}, vs.foldl max a < x ↔ a < x ∧ ∀ v ∈ vs, v < x
  | [], a => by simp
  | v :: vs, a => by
    rw [List.foldl_cons, foldl_max_lt, max_lt_iff]
    simp [and_assoc]

/-- The least value, `0` for no values, is at least `x ≤ 0` exactly when every
value is. -/
theorem le_foldl_min_headD {x : Int} (hx : x ≤ 0) (vs : List Int) :
    x ≤ vs.foldl min (vs.headD 0) ↔ ∀ v ∈ vs, x ≤ v := by
  rw [le_foldl_min]
  cases vs with
  | nil => simp [hx]
  | cons v vs => simp

theorem foldl_max_headD_lt {x : Int} (hx : 0 < x) (vs : List Int) :
    vs.foldl max (vs.headD 0) < x ↔ ∀ v ∈ vs, v < x := by
  rw [foldl_max_lt]
  cases vs with
  | nil => simp [hx]
  | cons v vs => simp

theorem any_neg_eq (vs : List Int) : vs.any (· < 0) = decide (vs.foldl min (vs.headD 0) < 0) := by
  rw [Bool.eq_iff_iff]
  simp only [List.any_eq_true, decide_eq_true_eq]
  rw [← not_le, le_foldl_min_headD le_rfl]
  push Not
  rfl

/-- The code's range test, on the least and the greatest value, tests every value. -/
theorem fits_eq_all (vs : List Int) (size : Nat) :
    (decide (vs.foldl min (vs.headD 0) ≥ -Int.pow 2 (8 * size - 1)) &&
      decide (vs.foldl max (vs.headD 0) <
        Int.pow 2 (8 * size - if vs.foldl min (vs.headD 0) < 0 then 1 else 0))) =
      vs.all (fitsIn (vs.any (· < 0)) size) := by
  have hpos : ∀ k : Nat, (0 : Int) < 2 ^ k := fun k => by positivity
  have hpow : ∀ k : Nat, Int.pow 2 k = 2 ^ k := fun _ => rfl
  rw [any_neg_eq, Bool.eq_iff_iff]
  simp only [Bool.and_eq_true, decide_eq_true_eq, ge_iff_le, List.all_eq_true, fitsIn, hpow]
  rw [le_foldl_min_headD (by simp)]
  by_cases hlo : vs.foldl min (vs.headD 0) < 0
  · simp only [hlo, if_true, foldl_max_headD_lt (hpos _), Bool.and_eq_true, decide_eq_true_eq]
    exact ⟨fun ⟨h₁, h₂⟩ v hv => ⟨h₁ v hv, h₂ v hv⟩, fun h => ⟨fun v hv => (h v hv).1, fun v hv => (h v hv).2⟩⟩
  · -- no value is negative, so every value is above the signed bound too
    have hall : ∀ v ∈ vs, 0 ≤ v := (le_foldl_min_headD le_rfl vs).mp (not_lt.mp hlo)
    simp only [hlo, if_false, foldl_max_headD_lt (hpos _), Bool.and_eq_true, decide_eq_true_eq, Nat.sub_zero]
    constructor
    · exact fun ⟨_, h₂⟩ v hv => ⟨hall v hv, h₂ v hv⟩
    · exact fun h => ⟨fun v hv => le_trans (by simp) (hall v hv), fun v hv => (h v hv).2⟩

/-- The integer type of an enum: `int` or `long` when a value is negative, else
`unsigned int` or `unsigned long`, the first whose range holds every value; an
enum whose values fit neither is refused. -/
theorem enumBaseOf_eq (t : Tag) :
    enumBaseOf t =
      if t.enumvalues.all (fitsIn (t.enumvalues.any (· < 0)) 4) then
        .ok (if t.enumvalues.any (· < 0) then "int" else "unsigned int")
      else if t.enumvalues.all (fitsIn (t.enumvalues.any (· < 0)) 8) then
        .ok (if t.enumvalues.any (· < 0) then "long" else "unsigned long")
      else .error (Source.cdefError (t.spelling ++ " values don't all fit into either 'long' or 'unsigned long'")) := by
  unfold enumBaseOf
  simp only [fits_eq_all]
  rw [any_neg_eq]
  by_cases hlo : t.enumvalues.foldl min (t.enumvalues.headD 0) < 0 <;> simp only [hlo, decide_true, decide_false] <;>
    split_ifs <;> rfl

/-! ## Enums follow C -/

/-- An enum numbers its enumerators as C does and records each as an integer
constant; a name declared again with another value is refused, with the same
value accepted; and the enum is stored as the first of `int` and `long`, unsigned
when no value is negative, that holds its values. -/
theorem enum_values_and_base_type (explicitName : String) (items : List Node) (c : Option Coord) (w : Work) :
    let es := valued (items.map enumeratorOf)
    let run := (DeclM.buildEnum explicitName (some (.enumeratorList items c))).run.run w
    (∀ id w', run = (.ok id, w') →
      ∃ t, w'.tags[id]? = some t ∧ t.kind = .enum ∧ t.enumerators = es.map (·.1) ∧
        Numbered w.book.intConstants 0 es t.enumvalues ∧
        ∀ p ∈ (es.map (·.1)).zip t.enumvalues, entryOf w'.book.intConstants p.1 = some p.2) ∧
    (∀ vals, Numbered w.book.intConstants 0 es vals → ∃ id w', run = (.ok id, w')) ∧
    (∀ pre n init post vals v v', es = pre ++ (n, init) :: post → Numbered w.book.intConstants 0 pre vals →
      enumValue (w.book.intConstants ++ (pre.map (·.1)).zip vals) (counterAfter 0 vals) init = .ok v →
      entryOf (w.book.intConstants ++ (pre.map (·.1)).zip vals) n = some v' → v' ≠ v →
      ∃ w', run = (.error (ffiError ("multiple declarations of constant: " ++ n)), w')) ∧
    ∀ t : Tag, enumBaseOf t =
      if t.enumvalues.all (fitsIn (t.enumvalues.any (· < 0)) 4) then
        .ok (if t.enumvalues.any (· < 0) then "int" else "unsigned int")
      else if t.enumvalues.all (fitsIn (t.enumvalues.any (· < 0)) 8) then
        .ok (if t.enumvalues.any (· < 0) then "long" else "unsigned long")
      else .error (Source.cdefError (t.spelling ++ " values don't all fit into either 'long' or 'unsigned long'")) :=
  ⟨fun _ _ h => buildEnum_numbers h, fun _ hn => buildEnum_accepts hn,
    fun _ _ _ _ _ _ _ hes hn hv hbound hne => buildEnum_refuses hes hn hv hbound hne, enumBaseOf_eq⟩

/-- `enum e { A, B = 5, C }` numbers its enumerators 0, 5 and 6, and is read. -/
theorem enum_values_sample :
    Numbered [] 0 [("A", none), ("B", some (.constant "int" "5" none)), ("C", none)] [0, 5, 6] ∧
      ∃ id w', (DeclM.buildEnum "e" (some (.enumeratorList [.enumerator "A" none none,
        .enumerator "B" (some (.constant "int" "5" none)) none, .enumerator "C" none none] none))).run.run {} =
        (.ok id, w') := by
  have hn : Numbered [] 0 [("A", none), ("B", some (.constant "int" "5" none)), ("C", none)] [0, 5, 6] :=
    .cons rfl (.inl rfl) (.cons (by rfl) (.inl rfl) (.cons rfl (.inl rfl) (.nil _ _)))
  exact ⟨hn, (enum_values_and_base_type "e" _ none {}).2.1 [0, 5, 6] hn⟩

end Basis.Foreign
