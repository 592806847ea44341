import Basis.Proofs.TypeTable.Collect

/-!
# The layout of the type table

`layoutCells` lays the types out in two passes. The first gives each function
type a *run*: its own slot, one slot per argument and a closing slot; an
argument that has no slot yet takes the one of the run as its own. The second
gives every other type without a slot its own slot, followed for an array with
a length by a slot for the length.

For the types of an accepted table (apart as values, every argument of a
function among them, no argument an array or a function type) the result is
described by `Laid T T`:

* each entry's slot holds its type, no two entries hold the same value, and
  every entry is one of the types (`Entries`);
* every type has an entry, every function type a run at its entry, every array
  with a length a length slot after its entry;
* every slot is an entry's, inside a function's run, or a length slot.

The first pass keeps `LaidRuns T S` for the function types `S` seen so far
(`laidRuns_foldl_layoutFunction`), the second `Laid T S` for the types `S`
seen so far (`laid_foldl_layoutOther`); both are one lemma per step folded
over the list. `layoutCells_laid` puts them together, and
`buildTypeTable_laid` applies it to an accepted table.
-/

namespace Basis.Foreign

open CType

/-- The slot layout of a table so far: the slots, and the entries giving types
their own slots. -/
abbrev Layout := Array Cell × List (CType × Nat)

/-! ## Slots that only grow -/

/-- Every slot of `cs` is a slot of `cs'` with the same content. -/
def Grown (cs cs' : Array Cell) : Prop := ∀ (k : Nat) (x : Cell), cs[k]? = some x → cs'[k]? = some x

theorem Grown.refl (c : Array Cell) : Grown c c := fun _ _ h => h

theorem Grown.trans {c c' c'' : Array Cell} (h₁ : Grown c c') (h₂ : Grown c' c'') : Grown c c'' :=
  fun k x h => h₂ k x (h₁ k x h)

theorem grown_push (c : Array Cell) (x : Cell) : Grown c (c.push x) := by
  intro k y h
  have hk : k < c.size := (Array.getElem?_eq_some_iff.mp h).1
  rw [Array.getElem?_push, if_neg (by omega), h]

theorem lt_size_of_getElem? {cs : Array Cell} {k : Nat} {x : Cell} (h : cs[k]? = some x) : k < cs.size :=
  (Array.getElem?_eq_some_iff.mp h).1

/-- The run of a function type with arguments `as` at slot `i`: a slot per
argument holding it, then a closing slot. -/
def RunAt (cs : Array Cell) (i : Nat) (as : List CType) : Prop :=
  (∀ j (hj : j < as.length), cs[i + 1 + j]? = some (.type as[j])) ∧ cs[i + 1 + as.length]? = some .stop

theorem RunAt.grown {c c' : Array Cell} {i : Nat} {as : List CType} (h : RunAt c i as) (hg : Grown c c') :
    RunAt c' i as :=
  ⟨fun j hj => hg _ _ (h.1 j hj), hg _ _ h.2⟩

/-! ## Entries -/

/-- The entries of a layout are sound for the types `T`: each entry's slot holds
its type, no two entries hold the same value, and each entry is one of `T`. -/
structure Entries (T : List CType) (st : Layout) : Prop where
  cell : ∀ y k, (y, k) ∈ st.2 → st.1[k]? = some (.type y)
  apart : (st.2.map fun s => s.1.erase).Nodup
  member : ∀ y k, (y, k) ∈ st.2 → memberOf y T = true

namespace Entries

variable {T : List CType} {st : Layout}

theorem push (h : Entries T st) (x : Cell) : Entries T (st.1.push x, st.2) :=
  ⟨fun y k hy => grown_push st.1 x k _ (h.cell y k hy), h.apart, h.member⟩

/-- A new entry for a type not there yet, at a new slot holding it. -/
theorem add {t : CType} (h : Entries T st) (ht : memberOf t T = true)
    (hnew : memberOf t (st.2.map (·.1)) = false) :
    Entries T (st.1.push (.type t), st.2 ++ [(t, st.1.size)]) := by
  have hfresh := memberOf_eq_false_iff.mp hnew
  refine ⟨?_, ?_, ?_⟩
  · intro y k hy
    rcases List.mem_append.mp hy with hy | hy
    · exact grown_push st.1 _ k _ (h.cell y k hy)
    · obtain ⟨rfl, rfl⟩ := Prod.mk.inj (List.mem_singleton.mp hy)
      exact Array.getElem?_push_size
  · rw [List.map_append, List.nodup_append]
    refine ⟨h.apart, List.nodup_singleton _, ?_⟩
    intro a ha b hb hab
    obtain ⟨s, hs, rfl⟩ := List.mem_map.mp ha
    simp only [List.map_cons, List.map_nil, List.mem_singleton] at hb
    exact hfresh s.1 (List.mem_map_of_mem hs) (hab.trans hb)
  · intro y k hy
    rcases List.mem_append.mp hy with hy | hy
    · exact h.member y k hy
    · rw [(Prod.mk.inj (List.mem_singleton.mp hy)).1]
      exact ht

theorem layoutArgument {a : CType} (h : Entries T st) (ha : memberOf a T = true) :
    Entries T (layoutArgument st a) := by
  unfold Foreign.layoutArgument
  by_cases hm : memberOf a (st.2.map (·.1)) = true
  · rw [if_pos hm]
    exact h.push _
  · rw [if_neg hm]
    exact h.add ha (by simpa using hm)

theorem foldl_layoutArgument : ∀ {as : List CType} {st : Layout}, Entries T st →
    (∀ a ∈ as, memberOf a T = true) → Entries T (as.foldl Foreign.layoutArgument st)
  | [], _, h, _ => h
  | a :: _, _, h, has => by
    rw [List.foldl_cons]
    exact foldl_layoutArgument (h.layoutArgument (has a (by simp))) (fun b hb => has b (by simp [hb]))

end Entries

/-! ## The arguments of a run -/

theorem foldl_layoutArgument_size : ∀ (as : List CType) (st : Layout),
    (as.foldl layoutArgument st).1.size = st.1.size + as.length
  | [], _ => rfl
  | a :: as, st => by
    rw [List.foldl_cons, foldl_layoutArgument_size as]
    simp [layoutArgument]
    omega

theorem foldl_layoutArgument_grown : ∀ (as : List CType) (st : Layout),
    Grown st.1 (as.foldl layoutArgument st).1
  | [], st => Grown.refl st.1
  | a :: as, st => (grown_push st.1 _).trans (foldl_layoutArgument_grown as (layoutArgument st a))

/-- The slots of a run hold the arguments in order. -/
theorem foldl_layoutArgument_cell : ∀ (as : List CType) (st : Layout) (j : Nat) (hj : j < as.length),
    (as.foldl layoutArgument st).1[st.1.size + j]? = some (.type as[j])
  | [], _, _, hj => absurd hj (by simp)
  | a :: as, st, 0, _ => by
    rw [List.foldl_cons]
    exact foldl_layoutArgument_grown as _ _ _ (by simp [layoutArgument])
  | a :: as, st, j + 1, hj => by
    rw [List.foldl_cons]
    have h := foldl_layoutArgument_cell as (layoutArgument st a) j (by simpa using hj)
    have hsize : (layoutArgument st a).1.size = st.1.size + 1 := by simp [layoutArgument]
    rw [hsize] at h
    simpa [Nat.add_assoc, Nat.add_comm 1 j] using h

/-- The entries of a run are the ones before it and some of its arguments. -/
theorem foldl_layoutArgument_entries : ∀ (as : List CType) (st : Layout),
    (∀ s ∈ st.2, s ∈ (as.foldl layoutArgument st).2) ∧
      ∀ y k, (y, k) ∈ (as.foldl layoutArgument st).2 → (y, k) ∈ st.2 ∨ y ∈ as
  | [], _ => ⟨fun _ h => h, fun _ _ h => .inl h⟩
  | a :: as, st => by
    obtain ⟨hkeep, hfrom⟩ := foldl_layoutArgument_entries as (layoutArgument st a)
    have hstep : ∀ s ∈ st.2, s ∈ (layoutArgument st a).2 := by
      intro s hs
      unfold layoutArgument
      split <;> simp [hs]
    refine ⟨fun s hs => hkeep s (hstep s hs), fun y k hy => ?_⟩
    rcases hfrom y k hy with hy | hy
    · unfold layoutArgument at hy
      split at hy
      · exact .inl hy
      · rcases List.mem_append.mp hy with hy | hy
        · exact .inl hy
        · exact .inr (by simp [(Prod.mk.inj (List.mem_singleton.mp hy)).1])
    · exact .inr (List.mem_cons_of_mem a hy)

/-! ## The first pass -/

/-- The first pass so far, over the function types among `S`: sound entries,
each of them a function type of `S` or an argument of one, and a run for
every function type of `S`; every slot is an entry's or in a run. -/
structure LaidRuns (T S : List CType) (st : Layout) : Prop where
  entries : Entries T st
  origin : ∀ y k, (y, k) ∈ st.2 →
    (y ∈ S ∧ y.isRawFunction = true) ∨ ∃ f ∈ S, y ∈ f.runArgs
  run : ∀ f ∈ S, f.isRawFunction = true → ∃ i, (f, i) ∈ st.2 ∧ RunAt st.1 i f.runArgs
  covered : ∀ k < st.1.size, (∃ y, (y, k) ∈ st.2) ∨
    ∃ f ∈ S, f.isRawFunction = true ∧ ∃ i, (f, i) ∈ st.2 ∧ i < k ∧ k ≤ i + 1 + f.runArgs.length

section Pass

variable {T : List CType} (hT : Apart T) (hargs : ∀ x ∈ T, ∀ a ∈ x.runArgs, memberOf a T = true)
  (hfit : argumentsFit T = true)

/-- An argument of a function type of the table is neither an array nor a function type. -/
theorem isArgument_of_runArgs (hfit : argumentsFit T = true) {f a : CType} (hf : f ∈ T)
    (ha : a ∈ f.runArgs) : a.isArgument = true := by
  have hall := List.all_eq_true.mp hfit f hf
  cases f with
  | function p args r e abi m =>
    cases p with
    | false => exact List.all_eq_true.mp hall a ha
    | true => simp [runArgs] at ha
  | _ => simp [runArgs] at ha

theorem not_isRawFunction_of_isArgument {a : CType} (h : a.isArgument = true) :
    a.isRawFunction = false := by
  cases a with
  | function p args r e abi m => cases p <;> simp_all [isArgument, isRawFunction]
  | _ => rfl

theorem layoutFunction_of_isRawFunction_eq_false {f : CType} (hf : f.isRawFunction = false)
    (st : Layout) : layoutFunction st f = st := by
  cases f with
  | function p args r e abi m => cases p <;> simp_all [isRawFunction, layoutFunction]
  | _ => rfl

/-- A type that is not a function type leaves the first pass as it was. -/
theorem LaidRuns.skip {S : List CType} {f : CType} {st : Layout} (h : LaidRuns T S st)
    (hf : f.isRawFunction = false) : LaidRuns T (S ++ [f]) st := by
  have hwiden : ∀ {x}, x ∈ S → x ∈ S ++ [f] := fun hx => List.mem_append_left _ hx
  refine ⟨h.entries, fun y k hy => ?_, fun g hg hraw => ?_, fun k hk => ?_⟩
  · rcases h.origin y k hy with ⟨hyS, hraw⟩ | ⟨g, hg, hy⟩
    · exact .inl ⟨hwiden hyS, hraw⟩
    · exact .inr ⟨g, hwiden hg, hy⟩
  · rcases List.mem_append.mp hg with hg | hg
    · exact h.run g hg hraw
    · rw [List.mem_singleton.mp hg, hf] at hraw
      contradiction
  · rcases h.covered k hk with hk | ⟨g, hg, hraw, i, hi⟩
    · exact .inl hk
    · exact .inr ⟨g, hwiden hg, hraw, i, hi⟩

include hT hargs hfit in
/-- One function type laid out in the first pass: its entry is new, since the
entries so far are earlier types of `T` or arguments, which are not function
types. -/
theorem LaidRuns.layoutFunction_function {S R args : List CType} {result : CType} {e : Bool}
    {abi : Option String} {m : String} {st : Layout}
    (hsplit : S ++ CType.function false args result e abi m :: R = T) (h : LaidRuns T S st) :
    LaidRuns T (S ++ [CType.function false args result e abi m])
      (layoutFunction st (CType.function false args result e abi m)) := by
  set f := CType.function false args result e abi m with hfdef
  have hfT : f ∈ T := by rw [← hsplit]; simp
  have hwiden : ∀ {x}, x ∈ S → x ∈ S ++ [f] := fun hx => List.mem_append_left _ hx
  set i := st.1.size
  -- the function's own entry, then its arguments, then the closing slot
  set st₁ : Layout := (st.1.push (.type f), st.2 ++ [(f, i)])
  set st₂ := args.foldl Foreign.layoutArgument st₁
  have hres : Foreign.layoutFunction st f = (st₂.1.push .stop, st₂.2) := rfl
  have hfresh : memberOf f (st.2.map (·.1)) = false := by
    refine memberOf_eq_false_iff.mpr fun y hy => ?_
    obtain ⟨⟨y, k⟩, hyk, rfl⟩ := List.mem_map.mp hy
    rcases h.origin y k hyk with ⟨hyS, -⟩ | ⟨g, hg, hyg⟩
    · rw [← hsplit] at hT
      exact (List.pairwise_append.mp hT).2.2 y hyS f (by simp)
    · intro heq
      have hnot := not_isRawFunction_of_isArgument
        (isArgument_of_runArgs hfit (by rw [← hsplit]; simp [hg]) hyg)
      have hraw := congrArg CType.isRawFunction heq
      rw [isRawFunction_erase, isRawFunction_erase, hnot] at hraw
      exact Bool.false_ne_true hraw
  have hent₂ : Entries T st₂ :=
    (h.entries.add (memberOf_of_mem hfT) hfresh).foldl_layoutArgument (hargs f hfT)
  obtain ⟨hkeep, hfrom⟩ := foldl_layoutArgument_entries args st₁
  have hsize₁ : st₁.1.size = i + 1 := by simp [st₁, i]
  have hsize₂ : st₂.1.size = i + 1 + args.length := by
    rw [foldl_layoutArgument_size, hsize₁]
  have hgrown : Grown st.1 (st₂.1.push .stop) :=
    (grown_push st.1 _).trans ((foldl_layoutArgument_grown args st₁).trans (grown_push _ _))
  have hentry : (f, i) ∈ st₂.2 := hkeep _ (by simp [st₁])
  have hold : ∀ s ∈ st.2, s ∈ st₂.2 := fun s hs => hkeep s (by simp [st₁, hs])
  rw [hres]
  refine ⟨hent₂.push _, fun y k hy => ?_, fun g hg hraw => ?_, fun k hk => ?_⟩
  · rcases hfrom y k hy with hy | hy
    · rcases List.mem_append.mp hy with hy | hy
      · rcases h.origin y k hy with ⟨hyS, hraw⟩ | ⟨g, hg, hyg⟩
        · exact .inl ⟨hwiden hyS, hraw⟩
        · exact .inr ⟨g, hwiden hg, hyg⟩
      · obtain ⟨rfl, -⟩ := Prod.mk.inj (List.mem_singleton.mp hy)
        exact .inl ⟨by simp, rfl⟩
    · exact .inr ⟨f, by simp, hy⟩
  · rcases List.mem_append.mp hg with hg | hg
    · obtain ⟨j, hj, hrun⟩ := h.run g hg hraw
      exact ⟨j, hold _ hj, hrun.grown hgrown⟩
    · rw [List.mem_singleton.mp hg]
      refine ⟨i, hentry, fun j hj => ?_, ?_⟩
      · have hc := foldl_layoutArgument_cell args st₁ j hj
        rw [hsize₁] at hc
        exact grown_push _ _ _ _ hc
      · show (st₂.1.push .stop)[i + 1 + args.length]? = some .stop
        rw [← hsize₂]
        exact Array.getElem?_push_size
  · simp only [Array.size_push, hsize₂] at hk
    by_cases hlt : k < i
    · rcases h.covered k hlt with ⟨y, hy⟩ | ⟨g, hg, hraw, j, hj, hrange⟩
      · exact .inl ⟨y, hold _ hy⟩
      · exact .inr ⟨g, hwiden hg, hraw, j, hold _ hj, hrange⟩
    · by_cases hki : k = i
      · exact .inl ⟨f, hki ▸ hentry⟩
      · exact .inr ⟨f, by simp, rfl, i, hentry, by omega, by simp [f, runArgs]; omega⟩

include hT hargs hfit in
theorem LaidRuns.layoutFunction {S R : List CType} {f : CType} {st : Layout}
    (hsplit : S ++ f :: R = T) (h : LaidRuns T S st) : LaidRuns T (S ++ [f]) (layoutFunction st f) := by
  cases hf : f.isRawFunction with
  | false =>
    rw [layoutFunction_of_isRawFunction_eq_false hf]
    exact h.skip hf
  | true =>
    cases f with
    | function p args result e abi m =>
      cases p with
      | false => exact h.layoutFunction_function hT hargs hfit hsplit
      | true => simp [isRawFunction] at hf
    | _ => simp [isRawFunction] at hf

include hT hargs hfit in
/-- The first pass over the types after `S`. -/
theorem laidRuns_foldl_layoutFunction : ∀ (L S : List CType) (st : Layout), S ++ L = T →
    LaidRuns T S st → LaidRuns T (S ++ L) (L.foldl layoutFunction st)
  | [], S, _, _, h => by simpa using h
  | f :: L, S, st, hsplit, h => by
    have h₁ := h.layoutFunction hT hargs hfit hsplit
    have := laidRuns_foldl_layoutFunction L (S ++ [f]) _ (by simpa using hsplit) h₁
    simpa using this

end Pass

/-! ## The second pass -/

/-- An array with a length, which the second pass follows with a length slot. -/
def CType.isSizedArray : CType → Bool
  | .array _ .open _ => false
  | .array .. => true
  | _ => false

theorem exists_eq_function_of_isRawFunction {t : CType} (h : t.isRawFunction = true) :
    ∃ args r e abi m, t = .function false args r e abi m := by
  cases t with
  | function q args r e abi m =>
    cases q with
    | false => exact ⟨args, r, e, abi, m, rfl⟩
    | true => simp [isRawFunction] at h
  | _ => simp [isRawFunction] at h

theorem exists_eq_array_of_isSizedArray {t : CType} (h : t.isSizedArray = true) :
    ∃ item l m, l ≠ .open ∧ t = .array item l m := by
  cases t with
  | array item l m =>
    refine ⟨item, l, m, ?_, rfl⟩
    rintro rfl
    simp [isSizedArray] at h
  | _ => simp [isSizedArray] at h

theorem isSizedArray_array {item : CType} {l : ArrayLength} {m : String} (hl : l ≠ .open) :
    (CType.array item l m).isSizedArray = true := by
  cases l with
  | «open» => exact absurd rfl hl
  | _ => rfl

@[simp] theorem isSizedArray_erase (t : CType) : t.erase.isSizedArray = t.isSizedArray := by
  cases t with
  | array item l m => cases l <;> rfl
  | _ => rfl

theorem isSizedArray_eq_false_of_isArgument {a : CType} (h : a.isArgument = true) :
    a.isSizedArray = false := by
  cases a with
  | array t l m => simp [isArgument] at h
  | _ => rfl

theorem isSizedArray_eq_false_of_isRawFunction {a : CType} (h : a.isRawFunction = true) :
    a.isSizedArray = false := by
  cases a with
  | array t l m => simp [isRawFunction] at h
  | _ => rfl

/-- The second pass so far, over the types `S`: sound entries, the runs of the
first pass, an entry for every type of `S`, a length slot after every entry
of an array with a length; every slot is an entry's, in a run or a length slot. -/
structure Laid (T S : List CType) (st : Layout) : Prop where
  entries : Entries T st
  run : ∀ f ∈ T, f.isRawFunction = true → ∃ i, (f, i) ∈ st.2 ∧ RunAt st.1 i f.runArgs
  member : ∀ t ∈ S, memberOf t (st.2.map (·.1)) = true
  length : ∀ y i, (y, i) ∈ st.2 → y.isSizedArray = true → st.1[i + 1]? = some .length
  covered : ∀ k < st.1.size, (∃ y, (y, k) ∈ st.2) ∨
    (∃ f ∈ T, f.isRawFunction = true ∧ ∃ i, (f, i) ∈ st.2 ∧ i < k ∧ k ≤ i + 1 + f.runArgs.length) ∨
    ∃ y i, (y, i) ∈ st.2 ∧ y.isSizedArray = true ∧ k = i + 1

/-- The first pass over all the types starts the second: its entries are
function types and arguments, none of them an array. -/
theorem LaidRuns.laid {T : List CType} {st : Layout} (hfit : argumentsFit T = true)
    (h : LaidRuns T T st) : Laid T [] st := by
  refine ⟨h.entries, h.run, by simp, fun y i hy hsized => ?_, fun k hk => ?_⟩
  · rcases h.origin y i hy with ⟨-, hraw⟩ | ⟨f, hf, hyf⟩
    · rw [isSizedArray_eq_false_of_isRawFunction hraw] at hsized
      contradiction
    · rw [isSizedArray_eq_false_of_isArgument (isArgument_of_runArgs hfit hf hyf)] at hsized
      contradiction
  · rcases h.covered k hk with hk | hk
    · exact .inl hk
    · exact .inr (.inl hk)

/-- The second pass's step on a type that is not a function type and has no
entry: a new entry, then a length slot for an array with a length. -/
theorem layoutOther_of_new {t : CType} {st : Layout} (hraw : t.isRawFunction = false)
    (hnew : memberOf t (st.2.map (·.1)) = false) :
    layoutOther st t = if t.isSizedArray then ((st.1.push (.type t)).push .length, st.2 ++ [(t, st.1.size)])
      else (st.1.push (.type t), st.2 ++ [(t, st.1.size)]) := by
  unfold layoutOther
  rw [hraw, hnew]
  cases t with
  | array item l m => cases l <;> rfl
  | _ => rfl

section Pass2

variable {T : List CType}

/-- A type with an entry, or a function type, leaves the second pass as it was. -/
theorem Laid.skip {S : List CType} {t : CType} {st : Layout} (h : Laid T S st) (ht : t ∈ T)
    (hskip : t.isRawFunction = true ∨ memberOf t (st.2.map (·.1)) = true) :
    Laid T (S ++ [t]) st := by
  refine ⟨h.entries, h.run, fun x hx => ?_, h.length, h.covered⟩
  rcases List.mem_append.mp hx with hx | hx
  · exact h.member x hx
  · rw [List.mem_singleton.mp hx]
    rcases hskip with hraw | hmem
    · obtain ⟨i, hi, -⟩ := h.run t ht hraw
      exact memberOf_of_mem (List.mem_map_of_mem hi)
    · exact hmem

/-- A new type gets its entry in the second pass: the slot after the last,
and for an array with a length the slot after that for the length. -/
theorem Laid.add {S : List CType} {t : CType} {st : Layout} (h : Laid T S st) (ht : t ∈ T)
    (hraw : t.isRawFunction = false) (hnew : memberOf t (st.2.map (·.1)) = false) :
    Laid T (S ++ [t]) (layoutOther st t) := by
  set i := st.1.size
  have hent : Entries T (st.1.push (.type t), st.2 ++ [(t, i)]) := h.entries.add (memberOf_of_mem ht) hnew
  have hentry : (t, i) ∈ st.2 ++ [(t, i)] := by simp
  have hold : ∀ s ∈ st.2, s ∈ st.2 ++ [(t, i)] := fun s hs => List.mem_append_left _ hs
  have hmember : ∀ x ∈ S ++ [t], memberOf x ((st.2 ++ [(t, i)]).map (·.1)) = true := by
    intro x hx
    rcases List.mem_append.mp hx with hx | hx
    · rw [List.map_append]
      exact memberOf_append_of_left (h.member x hx)
    · rw [List.mem_singleton.mp hx]
      exact memberOf_of_mem (List.mem_map_of_mem hentry)
  -- the new entry and what every older entry keeps, for the cells `cs` after the step
  have hkeep : ∀ cs : Array Cell, Grown st.1 cs → cs.size ≤ i + 2 → cs[i]? = some (.type t) →
      (t.isSizedArray = true → cs[i + 1]? = some .length) → (cs.size = i + 2 → t.isSizedArray = true) →
      Laid T (S ++ [t]) (cs, st.2 ++ [(t, i)]) := by
    intro cs hg hsize hci hlen hsized
    refine ⟨⟨fun y k hy => ?_, hent.apart, hent.member⟩, fun f hf hraw' => ?_, hmember,
      fun y k hy hs => ?_, fun k hk => ?_⟩
    · rcases List.mem_append.mp hy with hy | hy
      · exact hg _ _ (h.entries.cell y k hy)
      · obtain ⟨rfl, rfl⟩ := Prod.mk.inj (List.mem_singleton.mp hy)
        exact hci
    · obtain ⟨j, hj, hrun⟩ := h.run f hf hraw'
      exact ⟨j, hold _ hj, hrun.grown hg⟩
    · rcases List.mem_append.mp hy with hy | hy
      · exact hg _ _ (h.length y k hy hs)
      · obtain ⟨rfl, rfl⟩ := Prod.mk.inj (List.mem_singleton.mp hy)
        exact hlen hs
    · have hk : k < cs.size := hk
      by_cases hlt : k < i
      · rcases h.covered k hlt with ⟨y, hy⟩ | ⟨f, hf, hraw', j, hj, hrange⟩ | ⟨y, j, hy, hs, rfl⟩
        · exact .inl ⟨y, hold _ hy⟩
        · exact .inr (.inl ⟨f, hf, hraw', j, hold _ hj, hrange⟩)
        · exact .inr (.inr ⟨y, j, hold _ hy, hs, rfl⟩)
      · by_cases hki : k = i
        · exact .inl ⟨t, hki ▸ hentry⟩
        · exact .inr (.inr ⟨t, i, hentry, hsized (by omega), by omega⟩)
  rw [layoutOther_of_new hraw hnew]
  cases hs : t.isSizedArray with
  | false =>
    refine hkeep _ (grown_push _ _) (by simp [i]) Array.getElem?_push_size (by simp [hs]) ?_
    simp [i]
  | true =>
    refine hkeep _ ((grown_push _ _).trans (grown_push _ _)) (by simp [i])
      (grown_push _ _ _ _ Array.getElem?_push_size) (fun _ => ?_) (fun _ => hs)
    have hsize : (st.1.push (.type t)).size = i + 1 := by simp [i]
    rw [← hsize]
    exact Array.getElem?_push_size

theorem Laid.layoutOther {S : List CType} {t : CType} {st : Layout} (h : Laid T S st) (ht : t ∈ T) :
    Laid T (S ++ [t]) (Foreign.layoutOther st t) := by
  by_cases hskip : t.isRawFunction = true ∨ memberOf t (st.2.map (·.1)) = true
  · have hsame : Foreign.layoutOther st t = st := by
      unfold Foreign.layoutOther
      rw [if_pos (by simpa [Bool.or_eq_true] using hskip)]
    rw [hsame]
    exact h.skip ht hskip
  · simp only [not_or, Bool.not_eq_true] at hskip
    exact h.add ht hskip.1 hskip.2

/-- The second pass over the types after `S`. -/
theorem laid_foldl_layoutOther : ∀ (L S : List CType) (st : Layout), (∀ t ∈ L, t ∈ T) →
    Laid T S st → Laid T (S ++ L) (L.foldl layoutOther st)
  | [], S, _, _, h => by simpa using h
  | t :: L, S, st, hL, h => by
    have h₁ := h.layoutOther (hL t (by simp))
    have := laid_foldl_layoutOther L (S ++ [t]) _ (fun x hx => hL x (by simp [hx])) h₁
    simpa using this

end Pass2

/-- The layout of the types of an accepted table: every type has an entry,
every function type its run, every array with a length its length slot, and
every slot is accounted for. -/
theorem layoutCells_laid {T : List CType} (hT : Apart T)
    (hargs : ∀ x ∈ T, ∀ a ∈ x.runArgs, memberOf a T = true) (hfit : argumentsFit T = true) :
    Laid T T (layoutCells T) := by
  have hstart : LaidRuns T [] (#[], []) :=
    ⟨⟨by simp, by simp, by simp⟩, by simp, by simp, by simp⟩
  have h₁ := laidRuns_foldl_layoutFunction hT hargs hfit T [] _ rfl hstart
  simp only [List.nil_append] at h₁
  unfold layoutCells
  simpa using laid_foldl_layoutOther T [] _ (fun _ h => h) (h₁.laid hfit)

/-- The layout of an accepted table. -/
theorem buildTypeTable_laid {p : Plan} {tt : TypeTable} (h : buildTypeTable p = .ok tt) :
    Laid tt.types tt.types (layoutCells tt.types) := by
  obtain ⟨-, -, -, hfit, -⟩ := buildTypeTable_eq_ok h
  exact layoutCells_laid (types_apart h) (runArgs_memberOf_types h) hfit

end Basis.Foreign
