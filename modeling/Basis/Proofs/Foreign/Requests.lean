import Basis.Proofs.Foreign.Identity
import Basis.Protocol.Cdef

/-!
# Struct identity along a request

A struct, union or enum is one entry of the shared table of tags, and a book binds
its key `struct N`, `union N` or `enum N` to that entry (`TagsBound`). This module
follows the binding past one reading.

Within a reading, a named struct or union whose key is bound resolves to the bound
tag (`structUnionEnum_bound`), and a body for one that has its members at the start
of the reading is refused as a duplicate declaration (`structUnionEnum_second_body`).
Both are about a node not met before in the tree being read: a node met again is
given the tag it was given the first time.

A request runs its steps one after the other, each on the book of its parser and
all on one table (`cdefNext`). Every step keeps every tag, possibly completed, and
in every book every key of a struct, union or enum with its entry (`RequestKept`),
and it leaves every book bound to the table (`BooksSound`). From the start of a
request this holds between any point and any later one (`tag_keys_stable`).

Members are given when the whole body has been read. A body of `struct N` nested
in a body of `struct N` therefore finds the struct still without members: the
reading accepts it, and the outer body's members then replace the inner one's.
-/

open Std.Do

set_option mvcgen.warning false

namespace Basis.Foreign

/-! ## Mentions of a bound tag -/

section Bound

variable (w₀ : Work)

theorem lookup_frame (P : Work → Prop) (key : String) :
    ⦃fun w => ⌜P w⌝⦄ DeclM.lookup key
    ⦃post⟨fun r w => ⌜P w ∧ r = entryOf w.book.entries key⌝, fun _ _ => ⌜False⌝⟩⦄ := by
  mvcgen [DeclM.lookup, DeclM.book]

/-- A named struct, union or enum whose key is bound is the tag the key names. Only
an enum given its values again is refused. -/
theorem findTag_bound (kind : TagKind) (n : String) (values : Option C.Node) (forceName : Option String)
    (e : Entry) (id : Nat) (hid : e.value = .type (.tagged id)) :
    ⦃fun w => ⌜Stable w₀ w ∧ entryOf w.book.entries (kind.word ++ " " ++ n) = some e⌝⦄
    DeclM.findTag kind (some n) values forceName
    ⦃post⟨fun r w => ⌜r = id ∧ Stable w₀ w ∧ entryOf w.book.entries (kind.word ++ " " ++ n) = some e⌝,
      fun _ _ => ⌜kind = .enum ∧ values.isSome⌝⟩⦄ := by
  have hlookup := lookup_frame fun w => Stable w₀ w ∧ entryOf w.book.entries (kind.word ++ " " ++ n) = some e
  mvcgen [DeclM.findTag, hlookup]
  all_goals obtain ⟨⟨hst, he⟩, rfl⟩ := ‹(Stable w₀ _ ∧ _) ∧ _›
  case vc5 => simpa using ‹(kind == .enum && _) = true›
  -- the key names the tag found
  case vc6 =>
    refine ⟨?_, hst, he⟩
    have hfound := ‹Option.bind _ _ = some _›
    simp only [he, hid, Option.bind_some, Option.some.injEq] at hfound
    exact hfound.symm
  -- a bound key is never taken for a new one
  all_goals simp [he, hid] at ‹Option.bind _ _ = none›

/-- A tag of the origin is read with its kind and name. -/
theorem getTag_denoted {id : Nat} {k : TagKind} {n : String} (hd : Denotes w₀.tags id k n) :
    ⦃fun w => ⌜Stable w₀ w⌝⦄ DeclM.getTag id
    ⦃post⟨fun t w => ⌜Stable w₀ w ∧ w.tags[id]? = some t ∧ KeepsFields w₀.tags id t ∧ t.kind = k ∧ t.name = n⌝,
      fun _ _ => ⌜False⌝⟩⦄ := by
  obtain ⟨t₀, ht₀, hk, hn⟩ := hd
  mvcgen [DeclM.getTag]
  case vc1 =>
    rename_i h t ht
    obtain ⟨t', ht', hext⟩ := h.tags_agree id t₀ ht₀
    rw [ht] at ht'
    cases ht'
    exact ⟨h, ht, h.keepsFields ht, hext.1.trans hk, hext.2.1.trans hn⟩
  case vc2 =>
    obtain ⟨t, ht, -⟩ := ‹Stable w₀ _›.tags_agree id t₀ ht₀
    simp [‹_[id]? = none›] at ht

/-- Naming a tag of the origin whose name has no dollar cannot fail. -/
theorem nameTag_denoted (id : Nat) (forceName : Option String) (key : Nat) {k : TagKind} {n : String}
    (hd : Denotes w₀.tags id k n) (hn : n.contains '$' = false) :
    ⦃fun w => ⌜Stable w₀ w⌝⦄ DeclM.nameTag id forceName key
    ⦃post⟨fun t w => ⌜Stable w₀ w ∧ KeepsFields w₀.tags id t⌝, fun _ _ => ⌜False⌝⟩⦄ := by
  have hget := getTag_denoted w₀ hd
  have hset := setTag_spec w₀
  mvcgen [DeclM.nameTag, hget, hset]
  -- naming the tag keeps its kind, name and members
  case vc2 =>
    obtain ⟨h, ht, hf, -⟩ := ‹Stable w₀ _ ∧ _ ∧ _›
    exact ⟨h, named_of_getElem? ht (by simp) (by simp), hf.of_fields_eq (by simp)⟩
  case vc3 | vc7 => exact ‹Stable w₀ _ ∧ _›.1
  -- a tag is declared anonymous only if its name has a dollar
  case vc4 | vc8 =>
    obtain ⟨-, -, -, -, hname⟩ := ‹Stable w₀ _ ∧ _ ∧ _›
    simp [hname, hn] at ‹String.contains (Tag.name _) '$' = true›
  all_goals
    obtain ⟨h, -, hf, -⟩ := ‹Stable w₀ _ ∧ _ ∧ _›
    exact ⟨h, hf⟩

/-- A struct or union that has its members refuses a body, changing nothing. -/
theorem completeTag_refuses (P : Work → Prop) (resolve : Option C.Node → DeclM Resolved) (id : Nat)
    (nested : Bool) (name : Option String) (t : Tag) (members : List C.Node) :
    ⦃fun w => ⌜P w ∧ t.fields.isSome⌝⦄ DeclM.completeTag resolve id nested name t members
    ⦃post⟨fun _ _ => ⌜False⌝,
      fun f w => ⌜f = Source.cdefError ("duplicate declaration of struct " ++ name.getD "None") ∧ P w⌝⟩⦄ := by
  mvcgen [DeclM.completeTag]
  case vc1 => exact ⟨trivial, ‹P _ ∧ _›.1⟩
  case vc2 => exact absurd ‹P _ ∧ _›.2 ‹¬_›

/-- A named struct or union met for the first time in a tree, whose key is bound,
is the tag the key names. -/
theorem structUnionEnum_bound (fuel : Nat) (kind : TagKind) (isUnion : Bool) (n : String)
    (members : Option (List C.Node)) (serial : Nat) (coord : Option C.Coord) (forceName : Option String)
    (nested : Bool) (e : Entry) (id : Nat) (hid : e.value = .type (.tagged id)) :
    ⦃fun w => ⌜Stable w₀ w ∧ w.seen.find? (·.1 == serial) = none ∧
      entryOf w.book.entries (kind.word ++ " " ++ n) = some e⌝⦄
    DeclM.structUnionEnum (fuel + 1) kind (.aggregate isUnion (some n) members serial coord) forceName nested
    ⦃post⟨fun r w => ⌜r = id ∧ Stable w₀ w⌝, fun _ w => ⌜Stable w₀ w⌝⟩⦄ := by
  have hfind := findTag_bound w₀ kind n none forceName e id hid
  have hname := nameTag_spec w₀
  have hcomplete := completeTag_spec w₀ _ fun m => typeAndQuals_spec w₀ fuel m none true
  rw [DeclM.structUnionEnum.eq_def]
  simp only
  mvcgen [hfind, hname, hcomplete]
  -- the node is not one already read
  case vc1 =>
    rename_i hpre _ _ hhit
    cases hpre.2.1.symm.trans hhit
  case vc2 =>
    obtain ⟨h, -, he⟩ := ‹Stable w₀ _ ∧ _ ∧ _›
    exact ⟨h, he⟩
  case vc3 => exact ‹_ = id ∧ Stable w₀ _ ∧ _›.2.1
  case vc4 | vc7 => exact ⟨‹_ = id ∧ _›.1, ‹Stable w₀ _ ∧ KeepsFields _ _ _›.1⟩
  case vc6 => exact ⟨‹_ = id ∧ _›.1, ‹Stable w₀ _›⟩
  case vc8 => simp

/-- A body for a named struct or union that has its members at the origin is
refused as a duplicate declaration, whenever in the reading it comes. -/
theorem structUnionEnum_second_body (fuel : Nat) (kind : TagKind) (hkind : kind ≠ .enum) (isUnion : Bool)
    (n : String) (hn : n.contains '$' = false) (members : List C.Node) (serial : Nat)
    (coord : Option C.Coord) (forceName : Option String) (nested : Bool) (e : Entry) (id : Nat)
    (he : entryOf w₀.book.entries (kind.word ++ " " ++ n) = some e) (hid : e.value = .type (.tagged id))
    (hbody : ∃ t : Tag, w₀.tags[id]? = some t ∧ t.kind = kind ∧ t.name = n ∧ t.fields.isSome) :
    ⦃fun w => ⌜Stable w₀ w ∧ w.seen.find? (·.1 == serial) = none⌝⦄
    DeclM.structUnionEnum (fuel + 1) kind (.aggregate isUnion (some n) (some members) serial coord) forceName nested
    ⦃post⟨fun _ _ => ⌜False⌝,
      fun f w => ⌜f = Source.cdefError ("duplicate declaration of struct " ++ n) ∧ Stable w₀ w⌝⟩⦄ := by
  obtain ⟨t, ht, hk, htn, hfs⟩ := hbody
  have hfind := findTag_bound w₀ kind n none forceName e id hid
  have hname := fun key => nameTag_denoted w₀ id forceName key ⟨t, ht, hk, htn⟩ hn
  have hrefuse := completeTag_refuses (Stable w₀) (fun m => DeclM.typeAndQuals fuel m none true) id nested (some n)
  rw [DeclM.structUnionEnum.eq_def]
  simp only
  mvcgen [hfind, hname, hrefuse]
  case vc1 =>
    rename_i hpre _ _ hhit
    cases hpre.2.symm.trans hhit
  -- the key is still bound as at the origin
  case vc2 => exact ⟨‹Stable w₀ _ ∧ _›.1, ‹Stable w₀ _ ∧ _›.1.entries_kept kind n e he⟩
  case vc3 =>
    -- the tag found is the bound one, so naming it is the step proved not to fail
    obtain ⟨rfl, h, -⟩ := ‹_ = id ∧ Stable w₀ _ ∧ _›
    mvcgen [hname, hrefuse]
    case vc2 => exact hkind (by simpa using ‹(kind == .enum) = true›)
    -- the tag named keeps the members it has at the origin
    case vc3 =>
      obtain ⟨h', hkeeps⟩ := ‹Stable w₀ _ ∧ KeepsFields _ _ _›
      obtain ⟨fs, hfs'⟩ := Option.isSome_iff_exists.mp hfs
      exact ⟨h', by simp [hkeeps t fs ht hfs']⟩
  case vc4 => exact fun h => absurd h hkind

end Bound

end Basis.Foreign

namespace Basis.Protocol

open Basis.Foreign

/-! ## Steps of a request -/

theorem storeBook_eq_withEntry (books : List (String × Book)) (name : String) (b : Book) :
    storeBook books name b = withEntry books name b := by
  unfold storeBook withEntry
  split
  · congr 1
  · rfl

/-- A step keeps `Stable` when the books it may include are bound to the table and
its own book does not override. -/
theorem cdefStep_spec (w₀ : Work) (books : List (String × Book)) (step : Json)
    (hbooks : ∀ name b, (name, b) ∈ books → TagsBound w₀.tags b.entries)
    (hoverride : w₀.book.options.override = false) : Keeps w₀ (cdefStep books step) := by
  have hparse := fun s o p d => @parseDeclarations_spec w₀ s o p d
  have htype := @parseTypeAndQuals_spec w₀
  have htags := tags_spec w₀
  -- an included book is bound to the table; a missing one is empty
  have hinclude : ∀ other : String,
      Keeps w₀ (includeBook (((books.find? (·.1 == other)).map (·.2)).getD {})) := by
    intro other
    apply includeBook_spec w₀ _ hoverride
    cases hfind : books.find? (·.1 == other) with
    | none => intro k n e he; simp at he
    | some p => exact hbooks p.1 p.2 (List.mem_of_find?_eq_some hfind)
  unfold cdefStep
  mvcgen -trivial [hparse, htype, htags, hinclude, DeclM.book]
  all_goals assumption

/-- Every book of a request binds its keys of structs, unions and enums to the
tags of the table, and does not override outside a reading. -/
def BooksSound (s : Work × List (String × Book)) : Prop :=
  ∀ name b, (name, b) ∈ s.2 → TagsBound s.1.tags b.entries ∧ b.options.override = false

/-- What a later point `s` of a request keeps of an earlier one `s₀`: every tag,
possibly completed, and in the book of every parser every key of a struct, union or
enum with its entry. -/
structure RequestKept (s₀ s : Work × List (String × Book)) : Prop where
  tags_agree : ∀ (i : Nat) (t₀ : Tag), s₀.1.tags[i]? = some t₀ → ∃ t : Tag, s.1.tags[i]? = some t ∧ Extends t₀ t
  books_kept : ∀ (name : String) (b₀ : Book), entryOf s₀.2 name = some b₀ →
    ∃ b : Book, entryOf s.2 name = some b ∧ ∀ (k : TagKind) (n : String) (e : Entry),
      entryOf b₀.entries (k.word ++ " " ++ n) = some e → entryOf b.entries (k.word ++ " " ++ n) = some e

theorem RequestKept.refl (s : Work × List (String × Book)) : RequestKept s s where
  tags_agree _ t h := ⟨t, h, Extends.refl t⟩
  books_kept _ b h := ⟨b, h, fun _ _ _ => id⟩

theorem RequestKept.trans {s₀ s₁ s : Work × List (String × Book)} (h₁ : RequestKept s₀ s₁)
    (h₂ : RequestKept s₁ s) : RequestKept s₀ s where
  tags_agree := Extends.table_trans h₁.tags_agree h₂.tags_agree
  books_kept name b₀ h₀ := by
    obtain ⟨b₁, hb₁, hk₁⟩ := h₁.books_kept name b₀ h₀
    obtain ⟨b₂, hb₂, hk₂⟩ := h₂.books_kept name b₁ hb₁
    exact ⟨b₂, hb₂, fun k n e he => hk₂ k n e (hk₁ k n e he)⟩

/-- The table and the books after one step: the step runs on its parser's book, or
an empty one, which is stored back as the step left it. -/
theorem cdefNext_snd (step : Json) (w : Work) (books : List (String × Book)) :
    (cdefNext step w books).2 =
      let name := parserOf step
      let book := (entryOf books name).getD {}
      let books := withEntry books name book
      let w' := ((cdefStep books step).run.run { w with book, warnings := [] }).2
      (w', withEntry books name w'.book) := by
  simp only [cdefNext, storeBook_eq_withEntry]
  rfl

/-- One step keeps what the request has and leaves its books bound. -/
theorem cdefNext_kept (step : Json) (s : Work × List (String × Book)) (hs : BooksSound s) :
    RequestKept s (cdefNext step s.1 s.2).2 ∧ BooksSound (cdefNext step s.1 s.2).2 := by
  obtain ⟨w, books⟩ := s
  rw [cdefNext_snd]
  dsimp only
  generalize hbook : (entryOf books (parserOf step)).getD {} = book
  have hsound : TagsBound w.tags book.entries ∧ book.options.override = false := by
    cases h : entryOf books (parserOf step) with
    | none =>
      rw [h] at hbook
      subst hbook
      exact ⟨fun _ _ _ he => by simp at he, rfl⟩
    | some b =>
      rw [h] at hbook
      subst hbook
      exact hs _ b (mem_of_entryOf h)
  have hbooks : ∀ name b, (name, b) ∈ withEntry books (parserOf step) book →
      TagsBound w.tags b.entries ∧ b.options.override = false := by
    intro name b hmem
    rcases mem_withEntry hmem with hmem | ⟨-, rfl⟩
    · exact hs name b hmem
    · exact hsound
  -- the step keeps `Stable` from the work it starts from, whose table is the request's
  have hstep := cdefStep_spec { w with book, warnings := [] } (withEntry books (parserOf step) book) step
    (fun name b hmem => (hbooks name b hmem).1) hsound.2
  have hst := hstep.run (Stable.refl hsound.1)
  generalize ((cdefStep (withEntry books (parserOf step) book) step).run.run
    { w with book, warnings := [] }).2 = w' at hst
  refine ⟨⟨hst.tags_agree, ?_⟩, ?_⟩
  · -- the step's book keeps its keys; the others are untouched
    intro name b₀ hb₀
    by_cases hname : name = parserOf step
    · subst hname
      refine ⟨w'.book, entryOf_withEntry_self _ _ _, ?_⟩
      rw [hb₀] at hbook
      subst hbook
      exact hst.entries_kept
    · refine ⟨b₀, ?_, fun _ _ _ => id⟩
      rw [entryOf_withEntry_of_ne _ hname, entryOf_withEntry_of_ne _ hname]
      exact hb₀
  · intro name b hmem
    rcases mem_withEntry hmem with hmem | ⟨-, rfl⟩
    · obtain ⟨hb, ho⟩ := hbooks name b hmem
      exact ⟨hb.mono fun _ _ _ => hst.denotes, ho⟩
    · exact ⟨hst.entries_bound, hst.options_eq ▸ hsound.2⟩

/-! ## Whole requests -/

/-- The table and the books after steps run from `s`. -/
def cdefAfter (steps : List Json) (s : Work × List (String × Book)) : Work × List (String × Book) :=
  steps.foldl (fun s step => (cdefNext step s.1 s.2).2) s

theorem cdefAfter_append (steps steps' : List Json) (s : Work × List (String × Book)) :
    cdefAfter (steps ++ steps') s = cdefAfter steps' (cdefAfter steps s) := List.foldl_append ..

/-- The answers to later steps are those of the table and books the earlier steps left. -/
theorem cdefSteps_append (steps steps' : List Json) (w : Work) (books : List (String × Book)) :
    cdefSteps (steps ++ steps') w books =
      cdefSteps steps w books ++
        cdefSteps steps' (cdefAfter steps (w, books)).1 (cdefAfter steps (w, books)).2 := by
  induction steps generalizing w books with
  | nil => rfl
  | cons step rest ih =>
    simp only [List.cons_append, cdefSteps, ih]
    rfl

theorem cdefAfter_kept (steps : List Json) (s : Work × List (String × Book)) (hs : BooksSound s) :
    RequestKept s (cdefAfter steps s) ∧ BooksSound (cdefAfter steps s) := by
  induction steps generalizing s with
  | nil => exact ⟨.refl s, hs⟩
  | cons step rest ih =>
    obtain ⟨hkept, hsound⟩ := cdefNext_kept step s hs
    obtain ⟨hkept', hsound'⟩ := ih _ hsound
    exact ⟨hkept.trans hkept', hsound'⟩

/-- Between any point of a request and any later one, every key `struct N`,
`union N` or `enum N` of every parser's book keeps its entry, every tag keeps its
kind, its name and the members it was given, and every such key names the tag of
its kind and name. -/
theorem tag_keys_stable (steps steps' : List Json) :
    RequestKept (cdefAfter steps ({}, [])) (cdefAfter (steps ++ steps') ({}, [])) ∧
      BooksSound (cdefAfter (steps ++ steps') ({}, [])) := by
  have hstart : BooksSound (({} : Work), ([] : List (String × Book))) := fun _ _ h => by simp at h
  rw [cdefAfter_append]
  exact cdefAfter_kept steps' _ (cdefAfter_kept steps _ hstart).2

end Basis.Protocol
