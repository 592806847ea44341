import Mathlib
import Basis.Foreign.Cdef

/-!
# Structs, unions and enums keep their identity

A struct, union or enum is entry `id` of the table of tags that all books share,
and a book binds its key (`struct N`, `union N`, `enum N`) to the type
`tagged id`. This file shows what stays fixed while declarations are read into a
book and books include each other:

* `Stable w₀ w`: every tag of `w₀` is still in the table of `w`, with its kind and
  name, and with its members if it had them (`Extends`); every key of a struct,
  union or enum bound in `w₀` is bound in `w` to the same entry; every such key of
  `w` is bound to the tag of that kind and name (`TagsBound`); and the options of
  the reading are those of `w₀`.
* One triple per computation of declarations, from the table's primitives
  (`getTag_spec`, `setTag_spec`) and `declare_spec` up to reading types. A
  triple keeps `Stable w₀` for an origin `w₀` fixed at the start of a reading,
  also when the computation fails: a failure keeps the changes made before it.

Members are the reason the origin is fixed and not the previous step. A body of
`struct N` is read only if the struct has no members at its start; but a body of
`struct N` nested in it is read before the outer one ends, gives the struct its
members, and the outer body then gives it its own. So members, once a reading
has ended with them, are never changed again, while within one reading they can
be given twice.
-/

open Std.Do

set_option mvcgen.warning false

namespace Basis.Foreign

/-! ## Keys of structs, unions and enums -/

/-- A key names one kind and one tag: the kinds' words start with different letters. -/
theorem tagKey_inj {k k' : TagKind} {n n' : String} (h : k.word ++ " " ++ n = k'.word ++ " " ++ n') :
    k = k' ∧ n = n' := by
  have hhead := congrArg (fun s : String => s.toList.head?) h
  cases k <;> cases k' <;> simp [TagKind.word, String.toList_append] at hhead ⊢ <;>
    simpa [TagKind.word] using h

/-- A key whose first two characters start no kind's word is no key of a struct,
union or enum; this holds of every other kind of key a book has. -/
theorem append_ne_tagKey {p : String} (hp : 2 ≤ p.toList.length)
    (hne : ∀ k ∈ [TagKind.struct, .union, .enum], k.word.toList.take 2 ≠ p.toList.take 2)
    (m : String) (k : TagKind) (n : String) : p ++ m ≠ k.word ++ " " ++ n := by
  intro h
  have htake := congrArg (fun s : String => s.toList.take 2) h
  have hword : 2 ≤ k.word.toList.length := by cases k <;> decide
  simp only [String.toList_append, List.append_assoc] at htake
  rw [List.take_append_of_le_length hp, List.take_append_of_le_length hword] at htake
  exact hne k (by cases k <;> simp) htake.symm

section Keyed

variable {β : Type}

/-- The entry of a key: the first one with that key. -/
def entryOf (entries : List (String × β)) (key : String) : Option β :=
  (entries.find? (·.1 == key)).map (·.2)

/-- The entries after a key is given an entry: in its place if the key has one,
else at the end. -/
def withEntry (entries : List (String × β)) (key : String) (entry : β) : List (String × β) :=
  if (entries.any fun x => x.1 == key) = true then
    entries.map fun x => if (x.1 == key) = true then (x.1, entry) else (x.1, x.2)
  else entries ++ [(key, entry)]

/-- Giving a key an entry in place keeps every key where it was. -/
theorem find?_map_withEntry (entries : List (String × β)) (key k : String) (entry : β) :
    (entries.map fun x => if (x.1 == key) = true then (x.1, entry) else (x.1, x.2)).find? (·.1 == k) =
      (entries.find? (·.1 == k)).map fun x => if (x.1 == key) = true then (x.1, entry) else (x.1, x.2) := by
  have hsame : ((fun x : String × β => x.1 == k) ∘
      fun x : String × β => if (x.1 == key) = true then (x.1, entry) else (x.1, x.2)) =
      fun x : String × β => x.1 == k := by
    funext x
    simp only [Function.comp]
    split <;> rfl
  rw [List.find?_map, hsame]

theorem entryOf_withEntry_of_ne {entries : List (String × β)} {key k : String} (entry : β)
    (hk : k ≠ key) : entryOf (withEntry entries key entry) k = entryOf entries k := by
  unfold withEntry entryOf
  split
  · -- in place: the first entry of `k` is found at the same place, unchanged
    rw [find?_map_withEntry, Option.map_map]
    cases hfind : entries.find? (·.1 == k) with
    | none => rfl
    | some x =>
      have hx : x.1 = k := by simpa using List.find?_some hfind
      simp [hx, hk]
  · -- at the end: the new entry is of another key
    rw [List.find?_append]
    cases entries.find? (·.1 == k) with
    | some x => rfl
    | none => simp [Ne.symm hk]

theorem entryOf_withEntry_self (entries : List (String × β)) (key : String) (entry : β) :
    entryOf (withEntry entries key entry) key = some entry := by
  unfold withEntry entryOf
  split
  · -- in place: the key's first entry is replaced
    rename_i hany
    rw [find?_map_withEntry, Option.map_map]
    cases hfind : entries.find? (·.1 == key) with
    | none =>
      obtain ⟨x, hx, hxk⟩ := List.any_eq_true.mp hany
      exact absurd hxk (List.find?_eq_none.mp hfind x hx)
    | some x =>
      have hx : x.1 = key := by simpa using List.find?_some hfind
      simp [hx]
  · -- at the end: the key had no entry
    rename_i hany
    rw [List.find?_append]
    have hnone : entries.find? (·.1 == key) = none :=
      List.find?_eq_none.mpr fun x hx hxk => hany (List.any_eq_true.mpr ⟨x, hx, hxk⟩)
    simp [hnone]

theorem mem_of_entryOf {entries : List (String × β)} {key : String} {e : β}
    (h : entryOf entries key = some e) : (key, e) ∈ entries := by
  obtain ⟨x, hfind, rfl⟩ := Option.map_eq_some_iff.mp h
  have hx : x.1 = key := by simpa using List.find?_some hfind
  rw [← hx]
  exact List.mem_of_find?_eq_some hfind

theorem mem_withEntry {entries : List (String × β)} {key k : String} {entry e : β}
    (h : (k, e) ∈ withEntry entries key entry) : (k, e) ∈ entries ∨ (k = key ∧ e = entry) := by
  unfold withEntry at h
  split at h
  · obtain ⟨x, hx, heq⟩ := List.mem_map.mp h
    split at heq
    · rename_i hkey
      cases heq
      exact .inr ⟨by simpa using hkey, rfl⟩
    · cases heq
      exact .inl hx
  · rcases List.mem_append.mp h with h | h
    · exact .inl h
    · simp only [List.mem_singleton, Prod.mk.injEq] at h
      exact .inr h

end Keyed

/-! ## Tags and what a reading keeps -/

/-- Entry `id` of a table is a struct, union or enum of kind `k` and name `n`. -/
def Denotes (tags : Tags) (id : Nat) (k : TagKind) (n : String) : Prop :=
  ∃ t : Tag, tags[id]? = some t ∧ t.kind = k ∧ t.name = n

/-- Every key `struct N`, `union N` or `enum N` is bound to the type of the tag of
that kind and name, as that very object. -/
def TagsBound (tags : Tags) (entries : List (String × Entry)) : Prop :=
  ∀ (k : TagKind) (n : String) (e : Entry), (k.word ++ " " ++ n, e) ∈ entries →
    ∃ id, e.value = .type (.tagged id) ∧ e.identity = .tag id ∧ Denotes tags id k n

/-- A tag is `t₀` again, possibly completed: the same kind and name, and the
members of `t₀` if it had them. -/
def Extends (t₀ t : Tag) : Prop :=
  t.kind = t₀.kind ∧ t.name = t₀.name ∧ ∀ fs, t₀.fields = some fs → t.fields = some fs

/-- Entry `id` of a table, if there is one, has the kind and name of `t`. -/
def Named (tags : Tags) (id : Nat) (t : Tag) : Prop :=
  ∀ t', tags[id]? = some t' → t'.kind = t.kind ∧ t'.name = t.name

/-- A tag has the members of entry `id` of a table, if that entry had them. -/
def KeepsFields (tags : Tags) (id : Nat) (t : Tag) : Prop :=
  ∀ t' fs, tags[id]? = some t' → t'.fields = some fs → t.fields = some fs

/-- What a table of tags, declarations and options keep of the origin `w₀`. -/
structure Kept (w₀ : Work) (tags : Tags) (entries : List (String × Entry)) (options : Options) : Prop where
  /-- Every tag of the origin is still there, possibly completed. -/
  tags_agree : ∀ (i : Nat) (t₀ : Tag), w₀.tags[i]? = some t₀ → ∃ t : Tag, tags[i]? = some t ∧ Extends t₀ t
  /-- Every key of a struct, union or enum keeps its entry. -/
  entries_kept : ∀ (k : TagKind) (n : String) (e : Entry),
    entryOf w₀.book.entries (k.word ++ " " ++ n) = some e → entryOf entries (k.word ++ " " ++ n) = some e
  /-- Every key of a struct, union or enum is bound to its tag. -/
  entries_bound : TagsBound tags entries
  /-- The options of the reading are those of the origin. -/
  options_eq : options = w₀.book.options

/-- What a work keeps of its origin `w₀`: it depends on the table, the
declarations and the options only. -/
abbrev Stable (w₀ w : Work) : Prop := Kept w₀ w.tags w.book.entries w.book.options

theorem Extends.refl (t : Tag) : Extends t t := ⟨rfl, rfl, fun _ => id⟩

theorem Extends.trans {t₀ t₁ t₂ : Tag} (h₁ : Extends t₀ t₁) (h₂ : Extends t₁ t₂) : Extends t₀ t₂ :=
  ⟨h₂.1.trans h₁.1, h₂.2.1.trans h₁.2.1, fun fs hfs => h₂.2.2 fs (h₁.2.2 fs hfs)⟩

/-- A table keeping the tags of a first one, possibly completed, and a third
keeping those of the second, keeps those of the first. -/
theorem Extends.table_trans {tags₀ tags₁ tags₂ : Tags}
    (h₁ : ∀ (i : Nat) (t₀ : Tag), tags₀[i]? = some t₀ → ∃ t : Tag, tags₁[i]? = some t ∧ Extends t₀ t)
    (h₂ : ∀ (i : Nat) (t₁ : Tag), tags₁[i]? = some t₁ → ∃ t : Tag, tags₂[i]? = some t ∧ Extends t₁ t) :
    ∀ (i : Nat) (t₀ : Tag), tags₀[i]? = some t₀ → ∃ t : Tag, tags₂[i]? = some t ∧ Extends t₀ t := by
  intro i t₀ h₀
  obtain ⟨t₁, ht₁, ha₁⟩ := h₁ i t₀ h₀
  obtain ⟨t₂, ht₂, ha₂⟩ := h₂ i t₁ ht₁
  exact ⟨t₂, ht₂, ha₁.trans ha₂⟩

/-- A table whose tags keep their kinds and names keeps every key bound. -/
theorem TagsBound.mono {tags tags' : Tags} {entries : List (String × Entry)} (h : TagsBound tags entries)
    (hd : ∀ i k n, Denotes tags i k n → Denotes tags' i k n) : TagsBound tags' entries := by
  intro k n e hmem
  obtain ⟨id, hv, hi, hden⟩ := h k n e hmem
  exact ⟨id, hv, hi, hd id k n hden⟩

theorem Denotes.push {tags : Tags} {i : Nat} {k : TagKind} {n : String} (h : Denotes tags i k n) (t : Tag) :
    Denotes (tags.push t) i k n := by
  obtain ⟨t', ht', hk, hn⟩ := h
  have hi : i < tags.size := (Array.getElem?_eq_some_iff.mp ht').1
  exact ⟨t', by rw [Array.getElem?_push, if_neg (Nat.ne_of_lt hi), ht'], hk, hn⟩

theorem Denotes.set {tags : Tags} {i id : Nat} {k : TagKind} {n : String} {t : Tag} (h : Denotes tags i k n)
    (hn : Named tags id t) : Denotes (tags.set! id t) i k n := by
  obtain ⟨t', ht', hk, hn'⟩ := h
  have hi : i < tags.size := (Array.getElem?_eq_some_iff.mp ht').1
  rw [Array.set!, Denotes, Array.getElem?_setIfInBounds]
  by_cases hid : id = i
  · subst hid
    obtain ⟨hk', hn''⟩ := hn t' ht'
    exact ⟨t, by simp [hi], hk'.symm.trans hk, hn''.symm.trans hn'⟩
  · exact ⟨t', by simp [hid, ht'], hk, hn'⟩

/-- A tag read from the table, changed in neither kind nor name. -/
theorem named_of_getElem? {tags : Tags} {id : Nat} {t t' : Tag} (ht : tags[id]? = some t)
    (hk : t'.kind = t.kind) (hn : t'.name = t.name) : Named tags id t' := by
  intro t'' ht''
  rw [ht] at ht''
  cases ht''
  exact ⟨hk.symm, hn.symm⟩

theorem KeepsFields.of_fields_eq {tags : Tags} {id : Nat} {t t' : Tag} (h : KeepsFields tags id t)
    (hf : t'.fields = t.fields) : KeepsFields tags id t' :=
  fun t₀ fs h₀ hfs => hf ▸ h t₀ fs h₀ hfs

theorem Named.of_kind_name {tags : Tags} {id : Nat} {t t' : Tag} (h : Named tags id t)
    (hk : t'.kind = t.kind) (hn : t'.name = t.name) : Named tags id t' :=
  fun t'' ht'' => ⟨(h t'' ht'').1.trans hk.symm, (h t'' ht'').2.trans hn.symm⟩

/-- A tag without members at the origin may be given any. -/
theorem KeepsFields.of_none {tags : Tags} {id : Nat} {t : Tag} (h : KeepsFields tags id t)
    (hnone : t.fields = none) (t' : Tag) : KeepsFields tags id t' :=
  fun t₀ fs h₀ hfs => absurd (h t₀ fs h₀ hfs) (by simp [hnone])

@[simp] theorem Tag.forceName_kind (t : Tag) (name : Option String) : (t.forceName name).kind = t.kind := by
  simp only [Tag.forceName]
  split <;> rfl

@[simp] theorem Tag.forceName_name (t : Tag) (name : Option String) : (t.forceName name).name = t.name := by
  simp only [Tag.forceName]
  split <;> rfl

@[simp] theorem Tag.forceName_fields (t : Tag) (name : Option String) :
    (t.forceName name).fields = t.fields := by
  simp only [Tag.forceName]
  split <;> rfl

theorem named_set (tags : Tags) (id : Nat) (t : Tag) : Named (tags.set! id t) id t := by
  intro t' ht'
  rw [Array.set!, Array.getElem?_setIfInBounds] at ht'
  split at ht' <;> simp_all

namespace Stable

variable {w₀ w w' : Work}

theorem refl (h : TagsBound w.tags w.book.entries) : Stable w w where
  tags_agree _ t h := ⟨t, h, Extends.refl t⟩
  entries_kept _ _ _ := id
  entries_bound := h
  options_eq := rfl

theorem trans {w₁ : Work} (h₁ : Stable w₀ w₁) (h₂ : Stable w₁ w) : Stable w₀ w where
  tags_agree := Extends.table_trans h₁.tags_agree h₂.tags_agree
  entries_kept k n e he := h₂.entries_kept k n e (h₁.entries_kept k n e he)
  entries_bound := h₂.entries_bound
  options_eq := h₂.options_eq.trans h₁.options_eq

/-- A work with the same table, declarations and options keeps what another one keeps. -/
theorem congr (h : Stable w₀ w) (htags : w'.tags = w.tags) (hentries : w'.book.entries = w.book.entries)
    (hoptions : w'.book.options = w.book.options) : Stable w₀ w' where
  tags_agree := by rw [htags]; exact h.tags_agree
  entries_kept := by rw [hentries]; exact h.entries_kept
  entries_bound := by rw [htags, hentries]; exact h.entries_bound
  options_eq := by rw [hoptions]; exact h.options_eq

/-- A tag of the origin is a tag of the same kind and name later. -/
theorem denotes (h : Stable w₀ w) {i : Nat} {k : TagKind} {n : String} (hd : Denotes w₀.tags i k n) :
    Denotes w.tags i k n := by
  obtain ⟨t₀, h₀, hk, hn⟩ := hd
  obtain ⟨t, ht, htk, htn, -⟩ := h.tags_agree i t₀ h₀
  exact ⟨t, ht, htk.trans hk, htn.trans hn⟩

/-- A tag of the table has the members the origin had there. -/
theorem keepsFields (h : Stable w₀ w) {id : Nat} {t : Tag} (ht : w.tags[id]? = some t) :
    KeepsFields w₀.tags id t := by
  intro t₀ fs h₀ hfs
  obtain ⟨t', ht', -, -, hf⟩ := h.tags_agree id t₀ h₀
  rw [ht] at ht'
  cases ht'
  exact hf fs hfs

/-- A tag added at the end of the table changes none of those before it. -/
theorem push (h : Stable w₀ w) {t : Tag} (htags : w'.tags = w.tags.push t) (hbook : w'.book = w.book) :
    Stable w₀ w' where
  tags_agree i t₀ h₀ := by
    obtain ⟨t', ht', ha⟩ := h.tags_agree i t₀ h₀
    have hi : i < w.tags.size := (Array.getElem?_eq_some_iff.mp ht').1
    exact ⟨t', by rw [htags, Array.getElem?_push, if_neg (Nat.ne_of_lt hi), ht'], ha⟩
  entries_kept := by rw [hbook]; exact h.entries_kept
  entries_bound := by
    rw [htags, hbook]
    exact h.entries_bound.mono fun _ _ _ hd => hd.push t
  options_eq := by rw [hbook]; exact h.options_eq

/-- A tag may be replaced by one of the same kind and name that keeps the
members the origin gave it. -/
theorem set (h : Stable w₀ w) {id : Nat} {t : Tag} (hn : Named w.tags id t) (hf : KeepsFields w₀.tags id t)
    (htags : w'.tags = w.tags.set! id t) (hbook : w'.book = w.book) : Stable w₀ w' where
  tags_agree i t₀ h₀ := by
    obtain ⟨t', ht', ha⟩ := h.tags_agree i t₀ h₀
    have hi : i < w.tags.size := (Array.getElem?_eq_some_iff.mp ht').1
    rw [htags, Array.set!, Array.getElem?_setIfInBounds]
    by_cases hid : id = i
    · subst hid
      obtain ⟨hk, hnm⟩ := hn t' ht'
      exact ⟨t, by simp [hi], hk.symm.trans ha.1, hnm.symm.trans ha.2.1, fun fs hfs => hf t₀ fs h₀ hfs⟩
    · exact ⟨t', by simp [hid, ht'], ha⟩
  entries_kept := by rw [hbook]; exact h.entries_kept
  entries_bound := by
    rw [htags, hbook]
    exact h.entries_bound.mono fun _ _ _ hd => hd.set hn
  options_eq := by rw [hbook]; exact h.options_eq

/-- A key may be given an entry if, being the key of a struct, union or enum, it
gets the tag of that kind and name and was not bound at the origin. -/
theorem declare (h : Stable w₀ w) {key : String} {entry : Entry} (htags : w'.tags = w.tags)
    (hentries : w'.book.entries = withEntry w.book.entries key entry)
    (hoptions : w'.book.options = w.book.options)
    (hok : ∀ k n, key = k.word ++ " " ++ n →
      (∃ id, entry.value = .type (.tagged id) ∧ entry.identity = .tag id ∧ Denotes w.tags id k n) ∧
        entryOf w₀.book.entries key = none) : Stable w₀ w' where
  tags_agree := by rw [htags]; exact h.tags_agree
  entries_kept k n e he := by
    have hne : k.word ++ " " ++ n ≠ key := by
      rintro hkey
      rw [hkey, (hok k n hkey.symm).2] at he
      cases he
    rw [hentries, entryOf_withEntry_of_ne entry hne]
    exact h.entries_kept k n e he
  entries_bound k n e hmem := by
    rw [hentries] at hmem
    rw [htags]
    rcases mem_withEntry hmem with hmem | ⟨hkey, rfl⟩
    · exact h.entries_bound k n e hmem
    · exact (hok k n hkey.symm).1
  options_eq := by rw [hoptions]; exact h.options_eq

/-- A key of a struct, union or enum that is declared is bound to its tag. -/
theorem entryOf_tagged (h : Stable w₀ w) {k : TagKind} {n : String} {e : Entry}
    (he : entryOf w.book.entries (k.word ++ " " ++ n) = some e) :
    ∃ id, e.value = .type (.tagged id) ∧ e.identity = .tag id ∧ Denotes w.tags id k n :=
  h.entries_bound k n e (mem_of_entryOf he)

/-- A key that is not declared was not declared at the origin. -/
theorem entryOf_origin_none (h : Stable w₀ w) {k : TagKind} {n : String}
    (hnone : entryOf w.book.entries (k.word ++ " " ++ n) = none) :
    entryOf w₀.book.entries (k.word ++ " " ++ n) = none := by
  cases h₀ : entryOf w₀.book.entries (k.word ++ " " ++ n) with
  | none => rfl
  | some e => rw [h.entries_kept k n e h₀] at hnone; cases hnone

/-- A key of a struct, union or enum whose entry names no tag is not declared,
and was not at the origin. -/
theorem origin_free (h : Stable w₀ w) {k : TagKind} {n : String}
    (hnone : ((entryOf w.book.entries (k.word ++ " " ++ n)).bind fun e => match e.value with
      | .type (.tagged id) => some id
      | _ => none) = none) :
    entryOf w₀.book.entries (k.word ++ " " ++ n) = none := by
  cases he : entryOf w.book.entries (k.word ++ " " ++ n) with
  | none => exact h.entryOf_origin_none he
  | some e =>
    obtain ⟨id, hv, -, -⟩ := h.entryOf_tagged he
    rw [he] at hnone
    simp [hv] at hnone

end Stable

/-! ## From triples to runs -/

/-- What a triple says of one run: from a work satisfying `P`, the computation ends
with a result and a work satisfying `Q`, or with a failure and a work satisfying `E`. -/
theorem run_of_triple {α : Type} {m : DeclM α} {P : Work → Prop} {Q : α → Work → Prop}
    {E : Failure → Work → Prop}
    (h : ⦃fun w => ⌜P w⌝⦄ m ⦃post⟨fun a w => ⌜Q a w⌝, fun e w => ⌜E e w⌝⟩⦄) (w : Work) (hw : P w) :
    match m.run.run w with
    | (.ok a, w') => Q a w'
    | (.error e, w') => E e w' := by
  have hwp := h w
  simp only [SPred.entails, WP.wp, PredTrans.apply_pushExcept, PredTrans.apply_pushArg] at hwp
  have hrun := hwp hw
  revert hrun
  generalize StateT.run (ExceptT.run m) w = r
  rcases r with ⟨_ | _, w'⟩ <;> exact id

/-! ## The table of tags and the book -/

/-- A declaration of `key` keeps what the origin had: a key of a struct, union or
enum is given the tag of its kind and name, and only if it was not bound at the
origin or declaring it again cannot replace its entry. -/
def DeclareOk (w₀ w : Work) (key : String) (value : Declared) (identity : Identity) : Prop :=
  ∀ k n, key = k.word ++ " " ++ n →
    (∃ id, value = .type (.tagged id) ∧ identity = .tag id ∧ Denotes w.tags id k n) ∧
      (w₀.book.options.override = false ∨ entryOf w₀.book.entries key = none)

/-- The key of a tag may be given that tag, if it was not bound at the origin. -/
theorem declareOk_tag {w₀ w : Work} {k : TagKind} {n : String} {id : Nat} (hd : Denotes w.tags id k n)
    (hfree : entryOf w₀.book.entries (k.word ++ " " ++ n) = none) :
    DeclareOk w₀ w (k.word ++ " " ++ n) (.type (.tagged id)) (.tag id) := by
  intro k' n' hkey
  obtain ⟨rfl, rfl⟩ := tagKey_inj hkey
  exact ⟨⟨id, rfl, rfl, hd⟩, .inr hfree⟩

/-- Every other kind of key may be declared with anything. -/
theorem declareOk_append {w₀ w : Work} {p : String} (hp : 2 ≤ p.toList.length)
    (hne : ∀ k ∈ [TagKind.struct, .union, .enum], k.word.toList.take 2 ≠ p.toList.take 2) (m : String)
    (value : Declared) (identity : Identity) : DeclareOk w₀ w (p ++ m) value identity :=
  fun k n h => absurd h (append_ne_tagKey hp hne m k n)

section Primitives

variable (w₀ : Work)

/-- A computation that keeps `Stable w₀`, whether it succeeds or fails. -/
abbrev Keeps {α : Type} (m : DeclM α) : Prop :=
  ⦃fun w => ⌜Stable w₀ w⌝⦄ m ⦃post⟨fun _ w => ⌜Stable w₀ w⌝, fun _ w => ⌜Stable w₀ w⌝⟩⦄

theorem fresh_spec : Keeps w₀ DeclM.fresh := by
  mvcgen [DeclM.fresh]

theorem warn_spec (message : String) : Keeps w₀ (DeclM.warn message) := by
  mvcgen [DeclM.warn]

theorem tags_spec : Keeps w₀ DeclM.tags := by
  mvcgen [DeclM.tags]

theorem newTag_spec (t : Tag) :
    ⦃fun w => ⌜Stable w₀ w⌝⦄ DeclM.newTag t
    ⦃post⟨fun id w => ⌜Stable w₀ w ∧ w.tags[id]? = some t⌝, fun _ w => ⌜Stable w₀ w⌝⟩⦄ := by
  mvcgen [DeclM.newTag]
  exact ⟨‹Stable w₀ _›.push rfl rfl, by simp⟩

theorem getTag_spec (id : Nat) :
    ⦃fun w => ⌜Stable w₀ w⌝⦄ DeclM.getTag id
    ⦃post⟨fun t w => ⌜Stable w₀ w ∧ w.tags[id]? = some t ∧ KeepsFields w₀.tags id t⌝,
      fun _ w => ⌜Stable w₀ w⌝⟩⦄ := by
  mvcgen [DeclM.getTag]
  rename_i h t ht
  exact ⟨h, ht, h.keepsFields ht⟩

theorem setTag_spec (id : Nat) (t : Tag) :
    ⦃fun w => ⌜Stable w₀ w ∧ Named w.tags id t ∧ KeepsFields w₀.tags id t⌝⦄ DeclM.setTag id t
    ⦃post⟨fun _ w => ⌜Stable w₀ w ∧ Named w.tags id t⌝, fun _ _ => ⌜False⌝⟩⦄ := by
  mvcgen [DeclM.setTag]
  obtain ⟨h, hn, hf⟩ := ‹Stable w₀ _ ∧ _›
  exact ⟨h.set hn hf rfl rfl, named_set _ id t⟩

theorem modifyBook_spec (f : Book → Book) :
    ⦃fun w => ⌜Stable w₀ w ∧ (f w.book).entries = w.book.entries ∧ (f w.book).options = w.book.options⌝⦄
    DeclM.modifyBook f
    ⦃post⟨fun _ w => ⌜Stable w₀ w⌝, fun _ w => ⌜Stable w₀ w⌝⟩⦄ := by
  mvcgen [DeclM.modifyBook]
  obtain ⟨h, he, ho⟩ := ‹Stable w₀ _ ∧ _›
  exact h.congr rfl he ho

theorem lookup_spec (key : String) :
    ⦃fun w => ⌜Stable w₀ w⌝⦄ DeclM.lookup key
    ⦃post⟨fun r w => ⌜Stable w₀ w ∧ r = entryOf w.book.entries key⌝, fun _ w => ⌜Stable w₀ w⌝⟩⦄ := by
  mvcgen [DeclM.lookup, DeclM.book]

theorem declare_spec (key : String) (value : Declared) (identity : Identity) (quals : Nat) (included : Bool) :
    ⦃fun w => ⌜Stable w₀ w ∧ DeclareOk w₀ w key value identity⌝⦄
    DeclM.declare key value identity quals included
    ⦃post⟨fun _ w => ⌜Stable w₀ w⌝, fun _ w => ⌜Stable w₀ w⌝⟩⦄ := by
  mvcgen [DeclM.declare, DeclM.book, DeclM.modifyBook]
  all_goals obtain ⟨h, hok⟩ := ‹Stable w₀ _ ∧ _›
  -- the key is declared with another object while overriding is allowed
  case vc4 =>
    refine h.declare rfl rfl rfl fun k n hk => ⟨(hok k n hk).1, (hok k n hk).2.resolve_left ?_⟩
    rw [← h.options_eq]
    simpa using ‹¬(!_) = true›
  -- the key is not declared yet
  case vc6 =>
    refine h.declare rfl rfl rfl fun k n hk => ⟨(hok k n hk).1, ?_⟩
    subst hk
    exact h.entryOf_origin_none (by rw [entryOf, ‹List.find? _ _ = none›]; rfl)
  all_goals exact h

end Primitives

/-! ## Integer constants and macros -/

section Constants

variable (w₀ : Work)

theorem addConstant_spec (name : String) (value : Int) : Keeps w₀ (DeclM.addConstant name value) := by
  mvcgen [DeclM.addConstant, DeclM.book, DeclM.modifyBook]

theorem readIntIn_spec (s : String) (base : Nat) : Keeps w₀ (DeclM.readIntIn s base) := by
  mvcgen [DeclM.readIntIn]

theorem numberIdentity_spec (n : Int) : Keeps w₀ (DeclM.numberIdentity n) := by
  have hfresh := fresh_spec w₀
  mvcgen [DeclM.numberIdentity, hfresh]

theorem addIntegerConstant_spec (name literal : String) : Keeps w₀ (DeclM.addIntegerConstant name literal) := by
  have hadd := addConstant_spec w₀
  have hdecl := declare_spec w₀
  have hread := readIntIn_spec w₀
  have hnum := numberIdentity_spec w₀
  -- what the literal becomes is text; only its reading is a computation
  have htail : ∀ (s : String) (neg : Bool), Keeps w₀ (do
      let v ← DeclM.readIntIn s 0
      let v := if neg then -v else v
      DeclM.addConstant name v
      DeclM.declare ("macro " ++ name) (.number v) (← DeclM.numberIdentity v)) := by
    intro s neg
    mvcgen [hread, hadd, hnum, hdecl]
    exact ⟨‹_›, declareOk_append (by decide) (by decide) name _ _⟩
  exact htail _ _

theorem processMacros_spec (macros : List (String × String)) : Keeps w₀ (DeclM.processMacros macros) := by
  have hint := @addIntegerConstant_spec w₀
  have hdecl := declare_spec w₀
  have hfresh := fresh_spec w₀
  -- the conditions on the macros' texts are left undecided: deciding them would run the matcher
  unfold DeclM.processMacros
  mvcgen -trivial [hint, hdecl, hfresh] invariants
  | inv1 => post⟨fun _ w => ⌜Stable w₀ w⌝, fun _ w => ⌜Stable w₀ w⌝⟩
  case vc5 => exact ⟨‹_›, declareOk_append (by decide) (by decide) _ _ _⟩
  all_goals assumption

end Constants

/-! ## Reading types -/

section Types

variable (w₀ : Work)

theorem tooDeep_spec {α : Type} : Keeps w₀ (DeclM.tooDeep : DeclM α) := by
  mvcgen [DeclM.tooDeep]

theorem lineOf_spec (n : Option C.Node) : Keeps w₀ (DeclM.lineOf n) := by
  mvcgen [DeclM.lineOf]

theorem extractQuals_spec (n : C.Node) : Keeps w₀ (DeclM.extractQuals n) := by
  mvcgen [DeclM.extractQuals]

theorem resolveCommon_spec (ident : String) : Keeps w₀ (DeclM.resolveCommon ident) := by
  mvcgen [DeclM.resolveCommon]

theorem typePointer_spec (t : CType) (quals : Nat) (declname : Option String) :
    Keeps w₀ (DeclM.typePointer t quals declname) := by
  have htags := tags_spec w₀
  have hget := getTag_spec w₀
  mvcgen [DeclM.typePointer, htags, hget]
  all_goals exact ‹Stable w₀ _ ∧ _›.1

theorem asFuncArg_spec (t : CType) (quals : Nat) : Keeps w₀ (DeclM.asFuncArg t quals) := by
  have htags := tags_spec w₀
  mvcgen [DeclM.asFuncArg, htags]

theorem unsupportedConstant_spec {α : Type} (node : C.Node) :
    Keeps w₀ (DeclM.parseConstant.unsupportedConstant node : DeclM α) := by
  have hline := lineOf_spec w₀
  mvcgen [DeclM.parseConstant.unsupportedConstant, hline]

theorem parseConstant_spec : ∀ (fuel : Nat) (node : C.Node), Keeps w₀ (DeclM.parseConstant fuel node)
  | 0, _ => tooDeep_spec w₀
  | fuel + 1, node => by
    have ih := parseConstant_spec fuel
    have hread := readIntIn_spec w₀
    have hline := lineOf_spec w₀
    have hunsup := @unsupportedConstant_spec w₀
    mvcgen [DeclM.parseConstant, ih, hread, hline, hunsup, DeclM.book]

theorem parseLength_spec (node : C.Node) (partialOk : Bool) : Keeps w₀ (DeclM.parseLength node partialOk) := by
  have hconst := parseConstant_spec w₀
  mvcgen [DeclM.parseLength, hconst, DeclM.book]

/-- An enum is made as the tag of its name, whatever its enumerators give. -/
theorem buildEnum_spec (explicitName : String) (values : Option C.Node) :
    ⦃fun w => ⌜Stable w₀ w⌝⦄ DeclM.buildEnum explicitName values
    ⦃post⟨fun id w => ⌜Stable w₀ w ∧ Denotes w.tags id .enum explicitName⌝, fun _ w => ⌜Stable w₀ w⌝⟩⦄ := by
  have hconst := parseConstant_spec w₀
  have hadd := addConstant_spec w₀
  have hnew := newTag_spec w₀
  mvcgen [DeclM.buildEnum, hconst, hadd, hnew] invariants
  | inv1 => post⟨fun _ w => ⌜Stable w₀ w⌝, fun _ w => ⌜Stable w₀ w⌝⟩
  -- the new tag is an enum of the name, with or without enumerators
  all_goals exact fun h ht => ⟨h, _, ht, rfl, rfl⟩

theorem makePartial_spec (id : Nat) (nested : Bool) : Keeps w₀ (DeclM.makePartial id nested) := by
  have hget := getTag_spec w₀
  have hset := setTag_spec w₀
  mvcgen [DeclM.makePartial, hget, hset]
  case vc4 =>
    obtain ⟨h, ht, hf⟩ := ‹Stable w₀ _ ∧ _›
    exact ⟨h, named_of_getElem? ht rfl rfl, hf.of_fields_eq rfl⟩
  case vc5 => exact fun h _ => h
  all_goals exact ‹Stable w₀ _ ∧ _›.1

theorem unsupportedType_spec {α : Type} (node : Option C.Node) :
    Keeps w₀ (DeclM.unsupportedType node : DeclM α) := by
  have hline := lineOf_spec w₀
  mvcgen [DeclM.unsupportedType, hline]

/-- A tag is found or made without changing the tag of any key. -/
theorem findTag_spec (kind : TagKind) (name : Option String) (values : Option C.Node)
    (forceName : Option String) : Keeps w₀ (DeclM.findTag kind name values forceName) := by
  have hlookup := lookup_spec w₀
  have hmodify := modifyBook_spec w₀
  have henum := buildEnum_spec w₀
  have hnew := newTag_spec w₀
  have hdecl := declare_spec w₀
  cases name with
  | none =>
    -- an anonymous tag is new, and no key is declared
    mvcgen [DeclM.findTag, hmodify, henum, hnew, DeclM.book]
    all_goals exact ‹Stable w₀ _ ∧ _›.1
  | some n =>
    mvcgen [DeclM.findTag, hlookup, henum, hnew, hdecl]
    -- a new enum, or a new struct or union, declared under its key
    case vc4 =>
      obtain ⟨h, hden⟩ := ‹Stable w₀ _ ∧ Denotes _ _ _ _›
      obtain ⟨h₁, rfl⟩ := ‹Stable w₀ _ ∧ _ = entryOf _ _›
      subst kind
      exact ⟨h, declareOk_tag hden (h₁.origin_free ‹_›)⟩
    case vc6 =>
      obtain ⟨h, ht⟩ := ‹Stable w₀ _ ∧ _[_]? = some _›
      obtain ⟨h₁, rfl⟩ := ‹Stable w₀ _ ∧ _ = entryOf _ _›
      subst kind
      exact ⟨h, declareOk_tag ⟨_, ht, rfl, rfl⟩ (h₁.origin_free ‹_›)⟩
    all_goals first | assumption | exact ‹Stable w₀ _ ∧ _›.1

/-- Naming a tag changes neither its kind, its name nor its members; the tag
given back is the one in the table. -/
theorem nameTag_spec (id : Nat) (forceName : Option String) (key : Nat) :
    ⦃fun w => ⌜Stable w₀ w⌝⦄ DeclM.nameTag id forceName key
    ⦃post⟨fun t w => ⌜Stable w₀ w ∧ KeepsFields w₀.tags id t⌝, fun _ w => ⌜Stable w₀ w⌝⟩⦄ := by
  have hget := getTag_spec w₀
  have hset := setTag_spec w₀
  have hdecl := declare_spec w₀
  mvcgen [DeclM.nameTag, hget, hset, hdecl]
  -- naming the tag keeps its kind, name and members
  case vc2 =>
    obtain ⟨h, ht, hf⟩ := ‹Stable w₀ _ ∧ _ ∧ KeepsFields _ _ _›
    exact ⟨h, named_of_getElem? ht (by simp) (by simp), hf.of_fields_eq (by simp)⟩
  case vc4 | vc9 => exact ⟨‹Stable w₀ _ ∧ _›.1, declareOk_append (by decide) (by decide) _ _ _⟩
  -- the tag given back is the one read last, after the work moved on or not
  case vc5 | vc10 => exact ⟨‹_›, ‹Stable w₀ _ ∧ _ ∧ KeepsFields _ _ _›.2.2⟩
  case vc6 | vc7 | vc11 | vc12 =>
    obtain ⟨h, -, hf⟩ := ‹Stable w₀ _ ∧ _ ∧ KeepsFields _ _ _›
    exact ⟨h, hf⟩
  all_goals first | assumption | exact ‹Stable w₀ _ ∧ _›.1

theorem readMembers_spec (resolve : Option C.Node → DeclM Resolved) (hres : ∀ m, Keeps w₀ (resolve m))
    (id : Nat) (nested : Bool) (members : List C.Node) : Keeps w₀ (DeclM.readMembers resolve id nested members) := by
  have hpartial := makePartial_spec w₀
  have hconst := parseConstant_spec w₀
  have hget := getTag_spec w₀
  mvcgen [DeclM.readMembers, hres, hpartial, hconst, hget] invariants
  | inv1 => post⟨fun _ w => ⌜Stable w₀ w⌝, fun _ w => ⌜Stable w₀ w⌝⟩
  all_goals exact ‹Stable w₀ _ ∧ _›.1

/-- Members are given to a tag only if it had none at the origin. -/
theorem completeTag_spec (resolve : Option C.Node → DeclM Resolved) (hres : ∀ m, Keeps w₀ (resolve m))
    (id : Nat) (nested : Bool) (name : Option String) (t : Tag) (members : List C.Node) :
    ⦃fun w => ⌜Stable w₀ w ∧ KeepsFields w₀.tags id t⌝⦄ DeclM.completeTag resolve id nested name t members
    ⦃post⟨fun _ w => ⌜Stable w₀ w⌝, fun _ w => ⌜Stable w₀ w⌝⟩⦄ := by
  have hmembers := readMembers_spec w₀ resolve hres
  have hget := getTag_spec w₀
  have hset := setTag_spec w₀
  mvcgen [DeclM.completeTag, hmembers, hget, hset, DeclM.book]
  -- the tag had no members, so neither had it at the origin
  case vc4 =>
    have hnone : t.fields = none := by simpa using ‹¬t.fields.isSome = true›
    obtain ⟨h, ht, -⟩ := ‹Stable w₀ _ ∧ _ ∧ KeepsFields _ _ _›
    exact ⟨h, named_of_getElem? ht rfl rfl, ‹Stable w₀ _ ∧ KeepsFields w₀.tags id t›.2.of_none hnone _⟩
  case vc6 =>
    have hnone : t.fields = none := by simpa using ‹¬t.fields.isSome = true›
    obtain ⟨h, hn⟩ := ‹Stable w₀ _ ∧ Named _ _ _›
    exact ⟨h, hn.of_kind_name rfl rfl, ‹Stable w₀ _ ∧ KeepsFields w₀.tags id t›.2.of_none hnone _⟩
  case vc7 => exact fun h _ => h
  all_goals first | assumption | exact ‹Stable w₀ _ ∧ _›.1

/-! ### One more level of nesting

Each of the three readings calls the others one level deeper; given that the
deeper ones keep `Stable w₀`, so does each. The conditions on the declarators'
texts are left undecided (`-trivial`): deciding them would run the matcher. -/

theorem typeAndQuals_succ (fuel : Nat)
    (ihT : ∀ node name partialOk, Keeps w₀ (DeclM.typeAndQuals fuel node name partialOk))
    (ihS : ∀ kind node forceName nested, Keeps w₀ (DeclM.structUnionEnum fuel kind node forceName nested))
    (ihF : ∀ node funcname, Keeps w₀ (DeclM.functionType fuel node funcname))
    (node : Option C.Node) (name : Option String) (partialOk : Bool) :
    Keeps w₀ (DeclM.typeAndQuals (fuel + 1) node name partialOk) := by
  have hlookup := lookup_spec w₀
  have hquals := extractQuals_spec w₀
  have hlength := parseLength_spec w₀
  have htags := tags_spec w₀
  have hfresh := fresh_spec w₀
  have hpointer := typePointer_spec w₀
  have hline := lineOf_spec w₀
  have hcommon := resolveCommon_spec w₀
  have hunsup := @unsupportedType_spec w₀
  rw [DeclM.typeAndQuals.eq_def]
  simp only
  mvcgen -trivial [ihT, ihS, ihF, hlookup, hquals, hlength, htags, hfresh, hpointer, hline, hcommon, hunsup]
  all_goals first | assumption | exact ‹Stable w₀ _ ∧ _›.1

theorem structUnionEnum_succ (fuel : Nat)
    (ihT : ∀ node name partialOk, Keeps w₀ (DeclM.typeAndQuals fuel node name partialOk))
    (kind : TagKind) (node : C.Node) (forceName : Option String) (nested : Bool) :
    Keeps w₀ (DeclM.structUnionEnum (fuel + 1) kind node forceName nested) := by
  have hfind := findTag_spec w₀
  have hname := nameTag_spec w₀
  have hcomplete := completeTag_spec w₀ _ fun m => ihT m none true
  rw [DeclM.structUnionEnum.eq_def]
  simp only
  mvcgen [hfind, hname, hcomplete]
  all_goals exact ‹Stable w₀ _ ∧ _›.1

theorem functionType_succ (fuel : Nat)
    (ihT : ∀ node name partialOk, Keeps w₀ (DeclM.typeAndQuals fuel node name partialOk))
    (node : C.Node) (funcname : Option String) :
    Keeps w₀ (DeclM.functionType (fuel + 1) node funcname) := by
  have htags := tags_spec w₀
  have harg := asFuncArg_spec w₀
  rw [DeclM.functionType.eq_def]
  simp only
  mvcgen -trivial [ihT, htags, harg] invariants
  | inv1 => post⟨fun _ w => ⌜Stable w₀ w⌝, fun _ w => ⌜Stable w₀ w⌝⟩
  | inv2 => post⟨fun _ w => ⌜Stable w₀ w⌝, fun _ w => ⌜Stable w₀ w⌝⟩
  all_goals assumption

/-- Reading declarators, structs, unions and enums, and function types keeps
`Stable w₀`, at every nesting depth: by induction on the depth left. -/
theorem reading_spec (fuel : Nat) :
    (∀ node name partialOk, Keeps w₀ (DeclM.typeAndQuals fuel node name partialOk)) ∧
    (∀ kind node forceName nested, Keeps w₀ (DeclM.structUnionEnum fuel kind node forceName nested)) ∧
    (∀ node funcname, Keeps w₀ (DeclM.functionType fuel node funcname)) := by
  induction fuel with
  | zero =>
    refine ⟨fun _ _ _ => ?_, fun _ _ _ _ => ?_, fun _ _ => ?_⟩
    · rw [DeclM.typeAndQuals.eq_1]; exact tooDeep_spec w₀
    · rw [DeclM.structUnionEnum.eq_1]; exact tooDeep_spec w₀
    · rw [DeclM.functionType.eq_1]; exact tooDeep_spec w₀
  | succ fuel ih =>
    obtain ⟨ihT, ihS, ihF⟩ := ih
    exact ⟨typeAndQuals_succ w₀ fuel ihT ihS ihF, structUnionEnum_succ w₀ fuel ihT,
      functionType_succ w₀ fuel ihT⟩

theorem typeAndQuals_spec (fuel : Nat) (node : Option C.Node) (name : Option String) (partialOk : Bool) :
    Keeps w₀ (DeclM.typeAndQuals fuel node name partialOk) :=
  (reading_spec w₀ fuel).1 node name partialOk

theorem structUnionEnum_spec (fuel : Nat) (kind : TagKind) (node : C.Node) (forceName : Option String)
    (nested : Bool) : Keeps w₀ (DeclM.structUnionEnum fuel kind node forceName nested) :=
  (reading_spec w₀ fuel).2.1 kind node forceName nested

end Types

end Basis.Foreign
