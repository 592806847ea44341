import Basis.Proofs.Foreign.Tags

/-!
# Reading and including declarations keep struct identity

A book's keys `struct N`, `union N` and `enum N` each name one entry of the table
of tags. Reading a source into a book (`parseDeclarations`), reading one type
(`parseTypeAndQuals`) and including another book's declarations (`includeBook`)
each keep `Stable` from the work they start from, whether they succeed or fail:

* no such key that was bound is bound again, to another entry or at all;
* every tag keeps its kind and its name, and the members it had;
* every such key is bound to the tag of its kind and name.

So members, once a reading has given them, are given once: a later body of the
same struct is refused. Within one reading, a body nested in its own struct
gives it members twice (see `Basis.Foreign.Stable` for why the origin of a
reading is fixed at its start).
-/

open Std.Do

set_option mvcgen.warning false

namespace Basis.Foreign

/-! ## Runs of computations on declarations -/

/-- A finalizer runs after the computation, whether it failed or not; its own
failure is the one that counts. -/
theorem tryFinally_run {α : Type} (x : DeclM α) (f : DeclM Unit) (w : Work) :
    (tryFinally x f : DeclM α).run.run w =
      match x.run.run w with
      | (r, w') =>
        match f.run.run w' with
        | (.ok _, w'') => (r, w'')
        | (.error e, w'') => (.error e, w'') := by
  simp only [tryFinally, MonadFinally.tryFinally', ExceptT.run, StateT.run, ExceptT.mk, bind, StateT.bind,
    Functor.map, pure, ExceptT.map]
  rcases x w with ⟨_ | _, w'⟩ <;> simp only <;> rcases f w' with ⟨_ | _, w''⟩ <;> rfl

theorem discard_run {α : Type} (x : DeclM α) (w : Work) :
    (discard x : DeclM Unit).run.run w =
      match x.run.run w with
      | (.ok _, w') => (.ok (), w')
      | (.error e, w') => (.error e, w') := by
  simp only [Functor.discard, Functor.mapConst, Function.comp, Function.const, ExceptT.map, ExceptT.run,
    StateT.run, ExceptT.mk, bind, StateT.bind, pure]
  rcases x w with ⟨_ | _, w'⟩ <;> rfl

/-- A reading under its own options: they are set for the computation and put
back after it, whether it failed or not. -/
theorem withOptions_run (x : DeclM Unit) (o : Options) (w : Work) :
    (do
      let previous := (← DeclM.book).options
      DeclM.modifyBook fun b => { b with options := o }
      tryFinally x (DeclM.modifyBook fun b => { b with options := previous }) : DeclM Unit).run.run w =
      ((x.run.run { w with book := { w.book with options := o } }).1,
        { (x.run.run { w with book := { w.book with options := o } }).2 with
          book := { (x.run.run { w with book := { w.book with options := o } }).2.book with
            options := w.book.options } }) := by
  show (tryFinally x (DeclM.modifyBook fun b => { b with options := w.book.options })).run.run
    { w with book := { w.book with options := o } } = _
  rw [tryFinally_run]
  rcases x.run.run _ with ⟨r, w₂⟩
  rfl

/-- A triple from what every run does: the converse of `run_of_triple`. -/
theorem triple_of_run {α : Type} {m : DeclM α} {P : Work → Prop} {Q : α → Work → Prop}
    {E : Failure → Work → Prop}
    (h : ∀ w, P w → match m.run.run w with
      | (.ok a, w') => Q a w'
      | (.error e, w') => E e w') :
    ⦃fun w => ⌜P w⌝⦄ m ⦃post⟨fun a w => ⌜Q a w⌝, fun e w => ⌜E e w⌝⟩⦄ := by
  intro w hw
  simp only [WP.wp, PredTrans.apply_pushExcept, PredTrans.apply_pushArg]
  have hrun := h w hw
  revert hrun
  generalize StateT.run (ExceptT.run m) w = r
  rcases r with ⟨_ | _, w'⟩ <;> exact id

/-- What a triple keeping `Stable` says of one run, failed or not. -/
theorem Keeps.run {w₀ w : Work} {α : Type} {m : DeclM α} (h : Keeps w₀ m) (hw : Stable w₀ w) :
    Stable w₀ (m.run.run w).2 := by
  have hrun := run_of_triple h w hw
  revert hrun
  generalize StateT.run (ExceptT.run m) w = r
  rcases r with ⟨_ | _, w'⟩ <;> exact id

/-! ## Reading a source -/

section Reading

variable (w₀ : Work)

/-- Dropping a result keeps what the computation keeps. -/
theorem discard_spec {α : Type} {x : DeclM α} (hx : Keeps w₀ x) : Keeps w₀ (discard x) := by
  apply triple_of_run
  intro w hw
  have hrun := run_of_triple hx w hw
  rw [discard_run]
  revert hrun
  rcases x.run.run w with ⟨_ | _, w'⟩ <;> exact id

theorem parseC_spec (csource : String) : Keeps w₀ (DeclM.parseC csource) := by
  have hwarn := warn_spec w₀
  unfold DeclM.parseC
  mvcgen -trivial [hwarn, DeclM.book]
  all_goals assumption

theorem declareFunction_spec (t : CType) (quals : Nat) (name : Option String) :
    Keeps w₀ (DeclM.declareFunction t quals name) := by
  have hpointer := typePointer_spec w₀
  have hfresh := fresh_spec w₀
  have hdecl := declare_spec w₀
  mvcgen [DeclM.declareFunction, hpointer, hfresh, hdecl, DeclM.book]
  -- every key of a function starts neither as a struct's, a union's nor an enum's
  refine ⟨‹_›, declareOk_append ?_ ?_ _ _ _⟩ <;> simp +zetaDelta only <;> split_ifs <;> decide

theorem declareOther_spec (n : String) (r : Resolved) : Keeps w₀ (DeclM.declareOther n r) := by
  have hdecl := declare_spec w₀
  mvcgen [DeclM.declareOther, hdecl, DeclM.book]
  all_goals exact ⟨‹_›, declareOk_append (by decide) (by decide) _ _ _⟩

theorem declareValue_spec (n : String) (r : Resolved) (init : Option C.Node) :
    Keeps w₀ (DeclM.declareValue n r init) := by
  have hint := @addIntegerConstant_spec w₀
  have hmodify := modifyBook_spec w₀
  have hother := declareOther_spec w₀
  unfold DeclM.declareValue
  -- the match is split by hand: its literal pattern is beyond the generator
  split
  all_goals mvcgen -trivial [hint, hmodify, hother]
  all_goals assumption

theorem parseDecl_spec (name : Option String) (type : C.Node) (init : Option C.Node) :
    Keeps w₀ (DeclM.parseDecl name type init) := by
  have htype := typeAndQuals_spec w₀
  have hstruct := structUnionEnum_spec w₀
  have hfunction := declareFunction_spec w₀
  have hvalue := declareValue_spec w₀
  have hdiscard : ∀ kind node forceName nested,
      Keeps w₀ (discard (DeclM.structUnionEnum 100000 kind node forceName nested)) :=
    fun kind node forceName nested => discard_spec w₀ (hstruct 100000 kind node forceName nested)
  unfold DeclM.parseDecl
  mvcgen -trivial [htype, hdiscard, hfunction, hvalue]
  all_goals assumption

theorem unsupportedDots_spec {α : Type} (coord : Option C.Coord) :
    Keeps w₀ (DeclM.unsupportedDots coord : DeclM α) := by
  mvcgen [DeclM.unsupportedDots]

theorem unknownType_spec (name : String) (names : List String) (coord : Option C.Coord) :
    Keeps w₀ (DeclM.unknownType name names coord) := by
  have hnew := newTag_spec w₀
  have hmodify := modifyBook_spec w₀
  have hfresh := fresh_spec w₀
  have hdots := @unsupportedDots_spec w₀
  mvcgen [DeclM.unknownType, hnew, hmodify, hfresh, hdots]
  exact ‹Stable w₀ _ ∧ _›.1

theorem unknownPointerType_spec (name : String) (names : List String) (coord : Option C.Coord) :
    Keeps w₀ (DeclM.unknownPointerType name names coord) := by
  have hnew := newTag_spec w₀
  have hfresh := fresh_spec w₀
  have hdots := @unsupportedDots_spec w₀
  mvcgen [DeclM.unknownPointerType, hnew, hfresh, hdots]
  exact ‹Stable w₀ _ ∧ _›.1

theorem parseTypedef_spec (name : Option String) (type : C.Node) (coord : Option C.Coord) :
    Keeps w₀ (DeclM.parseTypedef name type coord) := by
  have htype := typeAndQuals_spec w₀
  have hunknown := unknownType_spec w₀
  have hpointer := unknownPointerType_spec w₀
  have hdots := @unsupportedDots_spec w₀
  have hdecl := declare_spec w₀
  unfold DeclM.parseTypedef
  mvcgen -trivial [htype, hunknown, hpointer, hdots, hdecl]
  all_goals first | assumption | exact ⟨‹_›, declareOk_append (by decide) (by decide) _ _ _⟩

theorem readDeclaration_spec (decl : C.Node) : Keeps w₀ (DeclM.readDeclaration decl) := by
  unfold DeclM.readDeclaration
  split
  · exact parseDecl_spec w₀ _ _ _
  · exact parseTypedef_spec w₀ _ _ _
  · mvcgen

theorem readDeclarations_spec (items : List C.Node) : Keeps w₀ (DeclM.readDeclarations items) := by
  have hread := readDeclaration_spec w₀
  unfold DeclM.readDeclarations
  mvcgen -trivial [hread] invariants
  | inv1 => post⟨fun _ w => ⌜Stable w₀ w⌝, fun _ w => ⌜Stable w₀ w⌝⟩
  all_goals assumption

theorem internalParse_spec (csource : String) : Keeps w₀ (DeclM.internalParse csource) := by
  have hparse := @parseC_spec w₀
  have hmacros := processMacros_spec w₀
  have hmodify := modifyBook_spec w₀
  have hread := readDeclarations_spec w₀
  unfold DeclM.internalParse
  mvcgen -trivial [hparse, hmacros, hmodify, hread]
  all_goals assumption

/-- A reading under other options keeps what its start kept, once they are put back. -/
theorem Stable.reading {w w₂ : Work} {o : Options} (h : Stable w₀ w)
    (h₂ : Stable { w with book := { w.book with options := o } } w₂) :
    Stable w₀ { w₂ with book := { w₂.book with options := w.book.options } } where
  tags_agree := Extends.table_trans h.tags_agree h₂.tags_agree
  entries_kept k n e he := h₂.entries_kept k n e (h.entries_kept k n e he)
  entries_bound := h₂.entries_bound
  options_eq := h.options_eq

/-- A computation that keeps `Stable` from wherever it starts keeps it under
options of its own, which are put back after it. -/
theorem withOptions_keeps (x : DeclM Unit) (o : Options) (hx : ∀ w₁, Keeps w₁ x) :
    Keeps w₀ (do
      let previous := (← DeclM.book).options
      DeclM.modifyBook fun b => { b with options := o }
      tryFinally x (DeclM.modifyBook fun b => { b with options := previous })) := by
  apply triple_of_run
  intro w hw
  rw [withOptions_run]
  -- the reading starts from the work with the new options, its own origin
  have hrun := run_of_triple (hx _) _ (Stable.refl (w := { w with book := { w.book with options := o } })
    hw.entries_bound)
  revert hrun
  rcases x.run.run { w with book := { w.book with options := o } } with ⟨_ | _, w₂⟩ <;> exact hw.reading w₀

theorem parseDeclarations_spec (csource : String) (override : Bool) (pack : Int) (dllexport : Bool) :
    Keeps w₀ (parseDeclarations csource override pack dllexport) := by
  -- stated in explicit form: elaborating the triple of a concrete reading would run it
  have h := @withOptions_keeps w₀ (DeclM.internalParse csource) { override, packed := some pack, dllexport }
    fun w₁ => @internalParse_spec w₁ csource
  unfold parseDeclarations
  assumption

theorem parseTypeAndQuals_spec (cdecl : String) : Keeps w₀ (parseTypeAndQuals cdecl) := by
  have hparse := @parseC_spec w₀
  have htype := typeAndQuals_spec w₀
  unfold parseTypeAndQuals
  mvcgen -trivial [hparse, htype]
  all_goals assumption

end Reading

/-! ## Including another book -/

section Including

variable (w₀ : Work)

/-- An entry of a book that binds its keys to their tags may be declared again
where overriding is not allowed. -/
theorem declareOk_of_mem {w : Work} {entries : List (String × Entry)} {x : String × Entry}
    (hb : TagsBound w.tags entries) (hx : x ∈ entries) (hoverride : w₀.book.options.override = false) :
    DeclareOk w₀ w x.1 x.2.value x.2.identity := by
  intro k n hkey
  obtain ⟨id, hv, hi, hd⟩ := hb k n x.2 (by rw [← hkey]; exact hx)
  exact ⟨⟨id, hv, hi, hd⟩, .inl hoverride⟩

/-- Including another book's structs, unions and enums keeps `Stable w₀` if
overriding is not allowed and the other book binds its keys to their tags. -/
theorem includeBook_spec (other : Book) (hoverride : w₀.book.options.override = false)
    (hother : TagsBound w₀.tags other.entries) : Keeps w₀ (includeBook other) := by
  have hdecl := declare_spec w₀
  have hadd := addConstant_spec w₀
  unfold includeBook
  mvcgen -trivial [hdecl, hadd] invariants
  | inv1 => post⟨fun _ w => ⌜Stable w₀ w⌝, fun _ w => ⌜Stable w₀ w⌝⟩
  | inv2 => post⟨fun _ w => ⌜Stable w₀ w⌝, fun _ w => ⌜Stable w₀ w⌝⟩
  -- an entry of the other book, declared with its own object
  case vc2 =>
    rename_i h
    have hbound : TagsBound _ other.entries := hother.mono fun _ _ _ hd => h.denotes hd
    exact ⟨h, declareOk_of_mem w₀ hbound (by rw [‹other.entries = _›]; simp) hoverride⟩
  all_goals first | assumption | exact fun _ h => h

end Including

end Basis.Foreign
