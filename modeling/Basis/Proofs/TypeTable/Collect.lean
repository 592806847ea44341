import Basis.Proofs.TypeTable.SameValue

/-!
# The types a module collects

`Plan.collect` adds a type and then the types it is made of, skipping a type
already there as a value. Two facts about the list it builds carry the layout
of the type table:

* the types are pairwise apart as values (`Apart`), since a type is added only
  when no equal value is there;
* every function type finds each of its arguments among the types, since the
  arguments are collected right after the function.

Both are stated by one relation between the list before and after a step,
`Grows acc acc'`: `acc'` is `acc` followed by new types, apart from each other
and from `acc`, and each new function type has its arguments in `acc'`.
`Grows` is reflexive and transitive, so what one call of `collect` does
(`collect_grows`, by induction on the fuel) composes over the folds of
`collectRecord`, `collectDecl` and `collectAll` (`collectAll_grows`).
`buildTypeTable` sorts the list, which keeps both facts (`types_apart`,
`runArgs_memberOf_types`).
-/

namespace Basis.Foreign

open CType

/-- `acc'` is `acc` followed by types apart from each other and from `acc`,
and every function type among them has its arguments in `acc'`. -/
def Grows (acc acc' : List CType) : Prop :=
  ∃ new, acc' = acc ++ new ∧ Apart new ∧ (∀ x ∈ acc, ∀ y ∈ new, x.erase ≠ y.erase) ∧
    ∀ x ∈ new, ∀ a ∈ x.runArgs, memberOf a acc' = true

namespace Grows

variable {acc acc' acc'' : List CType}

theorem refl (acc : List CType) : Grows acc acc :=
  ⟨[], by simp, List.Pairwise.nil, by simp, by simp⟩

theorem memberOf {a : CType} (h : Grows acc acc') (ha : memberOf a acc = true) :
    Basis.Foreign.memberOf a acc' = true := by
  obtain ⟨new, rfl, -⟩ := h
  exact memberOf_append_of_left ha

theorem trans (h₁ : Grows acc acc') (h₂ : Grows acc' acc'') : Grows acc acc'' := by
  obtain ⟨n₁, rfl, hap₁, hsep₁, hargs₁⟩ := h₁
  obtain ⟨n₂, rfl, hap₂, hsep₂, hargs₂⟩ := h₂
  refine ⟨n₁ ++ n₂, by simp, ?_, ?_, ?_⟩
  · exact List.pairwise_append.mpr ⟨hap₁, hap₂, fun x hx y hy => hsep₂ x (by simp [hx]) y hy⟩
  · intro x hx y hy
    rcases List.mem_append.mp hy with hy | hy
    · exact hsep₁ x hx y hy
    · exact hsep₂ x (by simp [hx]) y hy
  · intro x hx a ha
    rcases List.mem_append.mp hx with hx | hx
    · exact memberOf_append_of_left (hargs₁ x hx a ha)
    · exact hargs₂ x hx a ha

/-- Adding a type that is not there yet, and then types that give it its
arguments, grows the list. -/
theorem snoc {t : CType} (hnew : Basis.Foreign.memberOf t acc = false) (h : Grows (acc ++ [t]) acc')
    (hargs : ∀ a ∈ t.runArgs, Basis.Foreign.memberOf a acc' = true) : Grows acc acc' := by
  obtain ⟨new, rfl, hap, hsep, hargs'⟩ := h
  have hfresh := memberOf_eq_false_iff.mp hnew
  refine ⟨t :: new, by simp, ?_, ?_, ?_⟩
  · exact List.pairwise_cons.mpr ⟨fun y hy heq => hsep t (by simp) y hy heq, hap⟩
  · intro x hx y hy
    rcases List.mem_cons.mp hy with rfl | hy
    · exact hfresh x hx
    · exact hsep x (by simp [hx]) y hy
  · intro x hx a ha
    rcases List.mem_cons.mp hx with rfl | hx
    · exact hargs a ha
    · exact hargs' x hx a ha

theorem apart (h : Grows acc acc') (ha : Apart acc) : Apart acc' := by
  obtain ⟨new, rfl, hap, hsep, -⟩ := h
  exact List.pairwise_append.mpr ⟨ha, hap, hsep⟩

/-- A list grown from nothing is apart and closed under the arguments of its
function types. -/
theorem of_nil (h : Grows [] acc) :
    Apart acc ∧ ∀ x ∈ acc, ∀ a ∈ x.runArgs, Basis.Foreign.memberOf a acc = true := by
  obtain ⟨new, hnew, hap, -, hargs⟩ := h
  rw [List.nil_append] at hnew
  subst hnew
  exact ⟨hap, hargs⟩

end Grows

/-- A fold of steps that each grow the list grows it. -/
theorem foldlM_grows {α : Type} {f : List CType → α → Except Failure (List CType)} :
    ∀ (xs : List α) (acc acc' : List CType),
      (∀ x ∈ xs, ∀ acc acc', f acc x = .ok acc' → Grows acc acc') →
      xs.foldlM f acc = .ok acc' → Grows acc acc'
  | [], acc, acc', _, h => by
    cases h
    exact Grows.refl acc
  | x :: xs, acc, acc', hf, h => by
    rw [List.foldlM_cons] at h
    cases hx : f acc x with
    | error e => rw [hx] at h; cases h
    | ok acc₁ =>
      rw [hx] at h
      exact (hf x (by simp) acc acc₁ hx).trans
        (foldlM_grows xs acc₁ acc' (fun y hy => hf y (by simp [hy])) h)

/-- A fold of steps that each grow the list and collect their type leaves every
type of the fold in the list. -/
theorem foldlM_grows_memberOf {f : List CType → CType → Except Failure (List CType)} :
    ∀ (xs acc acc' : List CType),
      (∀ x ∈ xs, ∀ acc acc', f acc x = .ok acc' → Grows acc acc' ∧ memberOf x acc' = true) →
      xs.foldlM f acc = .ok acc' → ∀ x ∈ xs, memberOf x acc' = true
  | [], _, _, _, _ => by simp
  | x :: xs, acc, acc', hf, h => by
    rw [List.foldlM_cons] at h
    cases hx : f acc x with
    | error e => rw [hx] at h; cases h
    | ok acc₁ =>
      rw [hx] at h
      have hrest := foldlM_grows_memberOf xs acc₁ acc' (fun y hy => hf y (by simp [hy])) h
      have hgrow := foldlM_grows xs acc₁ acc' (fun y hy a b hab => (hf y (by simp [hy]) a b hab).1) h
      intro y hy
      rcases List.mem_cons.mp hy with rfl | hy
      · exact hgrow.memberOf (hf y (by simp) acc acc₁ hx).2
      · exact hrest y hy

namespace Plan

variable (p : Plan)

/-- One call of `collect` grows the list and leaves its type in it. -/
theorem collect_grows :
    ∀ (fuel : Nat) (t : CType) (acc acc' : List CType),
      p.collect fuel t acc = .ok acc' → Grows acc acc' ∧ memberOf t acc' = true
  | 0, _, _, _, h => by cases h
  | fuel + 1, t, acc, acc', h => by
    rw [collect] at h
    by_cases hm : memberOf t acc = true
    · rw [if_pos hm] at h
      cases h
      exact ⟨Grows.refl acc, hm⟩
    rw [if_neg hm] at h
    have hnew : memberOf t acc = false := by simpa using hm
    have hin : memberOf t (acc ++ [t]) = true := memberOf_of_mem (by simp)
    -- every kind of type but a function type grows the list by the collects of its parts
    have hstep : ∀ {acc₁}, Grows (acc ++ [t]) acc₁ → t.runArgs = [] →
        Grows acc acc₁ ∧ memberOf t acc₁ = true := fun hg hnone =>
      ⟨Grows.snoc hnew hg (by simp [hnone]), hg.memberOf hin⟩
    have ih := collect_grows fuel
    cases t with
    | function isPtr args result ellipsis abi marker =>
      cases isPtr with
      | true => exact hstep (ih _ _ _ h).1 rfl
      | false =>
        simp only [bind, Except.bind] at h
        split at h
        · cases h
        rename_i acc₁ hargs
        have hgrow₁ := foldlM_grows args _ _ (fun a _ x y hxy => (ih a x y hxy).1) hargs
        have hmem₁ := foldlM_grows_memberOf args _ _ (fun a _ x y hxy => ih a x y hxy) hargs
        have hgrow₂ := (ih result acc₁ acc' h).1
        refine ⟨Grows.snoc hnew (hgrow₁.trans hgrow₂) fun a ha => hgrow₂.memberOf (hmem₁ a ha), ?_⟩
        exact (hgrow₁.trans hgrow₂).memberOf hin
    | pointer target quals marker => exact hstep (ih _ _ _ h).1 rfl
    | namedPointer target name quals => exact hstep (ih _ _ _ h).1 rfl
    | array item length marker => exact hstep (ih _ _ _ h).1 rfl
    | tagged id =>
      refine hstep ?_ rfl
      dsimp only at h
      split at h
      · split at h
        · cases h; exact Grows.refl _
        · cases h; exact Grows.refl _
        · split at h
          · cases h; exact Grows.refl _
          · simp only [bind, Except.bind] at h
            split at h
            · cases h
            rename_i fields _
            refine foldlM_grows fields _ _ (fun f _ x y hxy => ?_) h
            split at hxy
            · cases hxy
            · exact (ih _ _ _ hxy).1
      · cases h; exact Grows.refl _
    | void => cases h; exact hstep (Grows.refl _) rfl
    | primitive n => cases h; exact hstep (Grows.refl _) rfl
    | unknownInteger n => cases h; exact hstep (Grows.refl _) rfl
    | unknownFloat n => cases h; exact hstep (Grows.refl _) rfl

theorem collectRecord_grows :
    ∀ (fuel : Nat) (t : CType) (acc acc' : List CType),
      p.collectRecord fuel t acc = .ok acc' → Grows acc acc'
  | 0, _, _, _, h => by cases h
  | fuel + 1, t, acc, acc', h => by
    rw [collectRecord] at h
    simp only [bind, Except.bind] at h
    split at h
    · cases h
    rename_i acc₁ h₁
    have hgrow₁ := (p.collect_grows 1000 t acc acc₁ h₁).1
    split at h
    · exact hgrow₁.trans
        (foldlM_grows _ _ _ (fun r _ x y hxy => collectRecord_grows fuel r x y hxy) h)
    · cases h
      exact hgrow₁

theorem collectDecl_grows {acc acc' : List CType} {d : String × Entry}
    (h : p.collectDecl acc d = .ok acc') : Grows acc acc' := by
  obtain ⟨key, e⟩ := d
  simp only [collectDecl] at h
  split at h
  · cases h
  -- a failure under the key of the declaration is still a failure
  have hkey : ∀ {r : Except Failure (List CType)}, underKey key r = .ok acc' → r = .ok acc' := by
    intro r hr
    cases r with
    | error f => cases hr
    | ok a => exact hr
  replace h := hkey h
  have hcollect := fun {t acc acc'} (h : p.collect 1000 t acc = .ok acc') => (p.collect_grows _ t acc acc' h).1
  split at h
  · exact hcollect h
  · simp only [bind, Except.bind] at h
    split at h
    · cases h
    rename_i acc₁ h₁
    refine (hcollect h₁).trans ?_
    split at h
    · split at h
      · exact hcollect h
      · cases h
        exact Grows.refl _
    · cases h
      exact Grows.refl _
  · exact p.collectRecord_grows _ _ _ _ h
  · exact p.collectRecord_grows _ _ _ _ h
  · split_ifs at h
    · exact hcollect h
    · exact p.collectRecord_grows _ _ _ _ h
  · split_ifs at h
    · exact hcollect h
    · cases h
      exact Grows.refl acc
  · exact hcollect h
  · exact hcollect h
  · cases h
    exact Grows.refl acc
  · exact hcollect h

theorem collectAll_grows {acc : List CType} (h : p.collectAll = .ok acc) : Grows [] acc :=
  foldlM_grows p.decls [] acc (fun _ _ _ _ hd => p.collectDecl_grows hd) h

end Plan

/-! ## An accepted table -/

/-- The order in which the types of a table are laid out: by their spelling. -/
def spellingOrder (p : Plan) (a b : CType) : Bool :=
  compare ("<" ++ p.spell a ++ ">") ("<" ++ p.spell b ++ ">") != .gt

/-- The tags of the nominal types of a list that a test keeps. -/
def tagIds (types : List CType) (keep : CType → Bool) : List Nat :=
  types.filterMap fun t =>
    match t with
    | .tagged id => if keep t then some id else none
    | _ => none

theorem argumentWrites_ops (p : Plan) (tt : TypeTable) (o : Array Opcode) :
    argumentWrites p { tt with ops := o } = argumentWrites p tt := by
  funext args i
  induction args generalizing i with
  | nil => rfl
  | cons a as ih => simp only [argumentWrites, ih]; rfl

/-- The opcodes of a type do not depend on the opcodes already in the table. -/
theorem typeWrites_ops (p : Plan) (tt : TypeTable) (o : Array Opcode) :
    typeWrites p { tt with ops := o } = typeWrites p tt := by
  funext t
  simp only [typeWrites, argumentWrites_ops]
  rfl

/-- What an accepted table is made of: the collected types sorted by spelling,
which fit in the runs of the function types, their layout, the positions of
the structs, unions and enums, and the opcodes the types write into a table of
as many slots as the layout has. -/
theorem buildTypeTable_eq_ok {p : Plan} {tt : TypeTable} (h : buildTypeTable p = .ok tt) :
    ∃ collected, p.collectAll = .ok collected ∧ tt.types = collected.mergeSort (spellingOrder p) ∧
      argumentsFit tt.types = true ∧ tt.slots = (layoutCells tt.types).2 ∧
      tt.records = positionsByName p.tags (tagIds tt.types p.isRecord) ∧
      tt.enums = positionsByName p.tags (tagIds tt.types p.isEnum) ∧
      tt.types.foldlM (emitType p tt) (Array.replicate (layoutCells tt.types).1.size default) =
        .ok tt.ops := by
  simp only [buildTypeTable, bind, Except.bind, pure, Except.pure] at h
  split at h
  · cases h
  rename_i collected hcollected
  split at h
  · cases h
  rename_i hfit
  split at h
  · cases h
  rename_i ops hops
  injection h with h
  subst h
  refine ⟨collected, hcollected, rfl, by simpa using hfit, rfl, rfl, rfl, ?_⟩
  -- emission reads the slots and positions of the table, not the opcodes already written
  have hemit : ∀ (tt₀ : TypeTable) (o : Array Opcode), emitType p { tt₀ with ops := o } = emitType p tt₀ := by
    intro tt₀ o
    funext ops t
    simp only [emitType, typeWrites_ops]
  rw [← hemit _ (Array.replicate _ default)]
  exact hops

variable {p : Plan} {tt : TypeTable} (h : buildTypeTable p = .ok tt)
include h

/-- The types of an accepted table are pairwise apart as values. -/
theorem types_apart : Apart tt.types := by
  obtain ⟨collected, hcollected, htypes, -⟩ := buildTypeTable_eq_ok h
  rw [htypes]
  exact ((p.collectAll_grows hcollected).of_nil.1).perm (List.mergeSort_perm _ _).symm

/-- Every argument of a function type of an accepted table is one of its types as a value. -/
theorem runArgs_memberOf_types : ∀ x ∈ tt.types, ∀ a ∈ x.runArgs, memberOf a tt.types = true := by
  obtain ⟨collected, hcollected, htypes, -⟩ := buildTypeTable_eq_ok h
  have hargs := (p.collectAll_grows hcollected).of_nil.2
  have hperm := List.mergeSort_perm collected (spellingOrder p)
  intro x hx a ha
  rw [htypes] at hx ⊢
  rw [memberOf_perm hperm]
  exact hargs x (hperm.mem_iff.mp hx) a ha

end Basis.Foreign
