import Mathlib.Data.List.Forall2
import Mathlib.Data.List.Perm.Basic
import Basis.Value.Hash

/-!
# Values alike up to the order of set members

A set is kept in the slots of a hash table, so a set read back from its members
may list them in another order than the set that was written. `Value.Alike`
relates two values built alike from nothing, truth values, integers, the
ellipsis, classes, tuples, lists, sets, frozen sets and mappings, where the
members of each set may be permuted: the sense in which a value read back is the
value written.

Alike values cannot be told apart by the program's own equality:

* `Alike.equals_eq`: comparing alike values gives the same answer on both sides,
  by induction on the first pair; containers compare item by item
  (`equals_tuple`, `equals_list`), by members up to order (`equals_members`),
  or entry by entry (`equals_dict`);
* `Alike.equals_true`: alike values are equal;
* `Alike.hashable`: a value alike to a hashable one is hashable, so it has a hash
  code (`Hashable.hashCode_ok`) and is a valid key (`Hashable.unhashable?_eq_none`).

`Hashable` is the class of values with a hash code: atoms, and tuples and frozen
sets of hashable values.
-/

namespace Basis.Value

/-! ## Lists compared item by item -/

section Lists

variable {α β γ δ : Type}

/-- A computation in `Except` over a list succeeds exactly when it succeeds on
each item, with the results in order. -/
theorem mapM_eq_ok_iff {ε : Type} {f : α → Except ε β} {l : List α} {bs : List β} :
    l.mapM f = .ok bs ↔ List.Forall₂ (fun a b => f a = .ok b) l bs := by
  induction l generalizing bs with
  | nil => cases bs <;> simp [pure, Except.pure]
  | cons a l ih =>
    rw [List.mapM_cons]
    cases hfa : f a <;> cases hl : l.mapM f <;> cases bs <;>
      simp [bind, Except.bind, pure, Except.pure, hfa, ← ih, hl]

theorem exists_forall₂ {R : α → β → Prop} :
    ∀ {l : List α}, (∀ a ∈ l, ∃ b, R a b) → ∃ m, List.Forall₂ R l m
  | [], _ => ⟨[], .nil⟩
  | a :: l, h => by
    obtain ⟨b, hb⟩ := h a (by simp)
    obtain ⟨m, hm⟩ := exists_forall₂ (l := l) fun x hx => h x (by simp [hx])
    exact ⟨b :: m, .cons hb hm⟩

theorem exists_mem_left_of_forall₂ {R : α → β → Prop} {b : β} :
    ∀ {l : List α} {m : List β}, List.Forall₂ R l m → b ∈ m → ∃ a ∈ l, R a b
  | _, _, .nil, hb => absurd hb List.not_mem_nil
  | a :: _, _, .cons hab h, hb => by
    rcases List.mem_cons.mp hb with rfl | hb
    · exact ⟨a, by simp, hab⟩
    · obtain ⟨a', ha', h'⟩ := exists_mem_left_of_forall₂ h hb
      exact ⟨a', by simp [ha'], h'⟩

theorem exists_mem_right_of_forall₂ {R : α → β → Prop} {a : α} :
    ∀ {l : List α} {m : List β}, List.Forall₂ R l m → a ∈ l → ∃ b ∈ m, R a b
  | _, _, .nil, ha => absurd ha List.not_mem_nil
  | _, b :: _, .cons hab h, ha => by
    rcases List.mem_cons.mp ha with rfl | ha
    · exact ⟨b, by simp, hab⟩
    · obtain ⟨b', hb', h'⟩ := exists_mem_right_of_forall₂ h ha
      exact ⟨b', by simp [hb'], h'⟩

theorem forall₂_imp_of_mem {R S : α → β → Prop} :
    ∀ {l : List α} {m : List β}, List.Forall₂ R l m → (∀ a ∈ l, ∀ b ∈ m, R a b → S a b) →
      List.Forall₂ S l m
  | _, _, .nil, _ => .nil
  | _, _, .cons hab h, hS => .cons (hS _ (by simp) _ (by simp) hab)
      (forall₂_imp_of_mem h fun a ha b hb => hS a (by simp [ha]) b (by simp [hb]))

theorem any_congr_of_forall₂ {R : α → β → Prop} {p : α → Bool} {q : β → Bool}
    (hpq : ∀ a b, R a b → p a = q b) : ∀ {l : List α} {m : List β}, List.Forall₂ R l m → l.any p = m.any q
  | _, _, .nil => rfl
  | _, _, .cons hab h => by simp [hpq _ _ hab, any_congr_of_forall₂ hpq h]

theorem all_congr_of_forall₂ {R : α → β → Prop} {p : α → Bool} {q : β → Bool}
    (hpq : ∀ a b, R a b → p a = q b) : ∀ {l : List α} {m : List β}, List.Forall₂ R l m → l.all p = m.all q
  | _, _, .nil => rfl
  | _, _, .cons hab h => by simp [hpq _ _ hab, all_congr_of_forall₂ hpq h]

theorem all_zip_congr_of_forall₂ {R : α → β → Prop} {S : γ → δ → Prop} {f : α → γ → Bool}
    {g : β → δ → Bool} (hfg : ∀ a b c d, R a b → S c d → f a c = g b d) :
    ∀ {l : List α} {m : List β} {l' : List γ} {m' : List δ}, List.Forall₂ R l m → List.Forall₂ S l' m' →
      ((l.zip l').all fun p => f p.1 p.2) = ((m.zip m').all fun p => g p.1 p.2)
  | _, _, _, _, .nil, _ => by simp
  | _, _, _, _, .cons _ _, .nil => by simp
  | _, _, _, _, .cons hab h, .cons hcd h' => by
    simp [hfg _ _ _ _ hab hcd, all_zip_congr_of_forall₂ hfg h h']

theorem exists_mem_zip_left {x : α} :
    ∀ {l : List α} {m : List β}, l.length = m.length → x ∈ l → ∃ y, (x, y) ∈ l.zip m
  | [], _, _, hx => absurd hx List.not_mem_nil
  | _ :: _, [], hlen, _ => absurd hlen (by simp)
  | a :: l, b :: m, hlen, hx => by
    rcases List.mem_cons.mp hx with rfl | hx
    · exact ⟨b, by simp⟩
    · obtain ⟨y, hy⟩ := exists_mem_zip_left (m := m) (by simpa using hlen) hx
      exact ⟨y, by simp [hy]⟩

end Lists

/-! ## Equality on containers -/

theorem all_attach_zip {α β : Type} (l : List α) (m : List β) (f : α → β → Bool) :
    ((l.attach.zip m).all fun p => f p.1.1 p.2) = ((l.zip m).all fun p => f p.1 p.2) := by
  conv_rhs => rw [← List.attach_map_subtype_val l, List.zip_map_left, List.all_map]
  rfl

theorem all_attach {α : Type} (l : List α) (f : α → Bool) : (l.attach.all fun p => f p.1) = l.all f := by
  conv_rhs => rw [← List.attach_map_subtype_val l, List.all_map]
  rfl

theorem equals_tuple (xs ys : List Value) :
    equals (.tuple xs) (.tuple ys) =
      (xs.length == ys.length && (xs.zip ys).all fun p => equals p.1 p.2) := by
  rw [equals, all_attach_zip xs ys equals]

theorem equals_list (xs ys : List Value) :
    equals (.list xs) (.list ys) =
      (xs.length == ys.length && (xs.zip ys).all fun p => equals p.1 p.2) := by
  rw [equals, all_attach_zip xs ys equals]

theorem equals_dict (es fs : List (Value × Value)) :
    equals (.dict es) (.dict fs) =
      (es.length == fs.length && es.all fun e => fs.any fun f => equals e.1 f.1 && equals e.2 f.2) := by
  rw [equals, ← all_attach es]

theorem equals_members {a b : Value} {xs ys : List Value}
    (ha : a = .set xs ∨ a = .frozenset xs) (hb : b = .set ys ∨ b = .frozenset ys) :
    equals a b = (xs.length == ys.length && xs.all fun x => ys.any (equals x)) := by
  rcases ha with rfl | rfl <;> rcases hb with rfl | rfl <;> (rw [equals]; simp)

/-! ## Hashable values -/

/-- The values that have a hash code: atoms, and tuples and frozen sets of
hashable values. -/
inductive Hashable : Value → Prop where
  | none : Hashable .none
  | bool (b : Bool) : Hashable (.bool b)
  | int (n : Int) : Hashable (.int n)
  | float (x : Float) : Hashable (.float x)
  | complex (re im : Float) : Hashable (.complex re im)
  | str (s : String) : Hashable (.str s)
  | bytes (b : ByteArray) : Hashable (.bytes b)
  | ellipsis : Hashable .ellipsis
  | cls (name : String) : Hashable (.cls name)
  | tuple {xs : List Value} : (∀ x ∈ xs, Hashable x) → Hashable (.tuple xs)
  | frozenset {xs : List Value} : (∀ x ∈ xs, Hashable x) → Hashable (.frozenset xs)

theorem Hashable.hashCode_ok {v : Value} (h : Hashable v) : ∃ c, hashCode v = .ok c := by
  induction h with
  | @tuple xs _ ih =>
    obtain ⟨cs, hcs⟩ := exists_forall₂ (R := fun (x : {x // x ∈ xs}) c => hashCode x.1 = .ok c)
      (l := xs.attach) fun x _ => ih x.1 x.2
    exact ⟨hashTuple cs, by rw [hashCode, mapM_eq_ok_iff.mpr hcs]; rfl⟩
  | @frozenset xs _ ih =>
    obtain ⟨cs, hcs⟩ := exists_forall₂ (R := fun (x : {x // x ∈ xs}) c => hashCode x.1 = .ok c)
      (l := xs.attach) fun x _ => ih x.1 x.2
    exact ⟨hashFrozen cs, by rw [hashCode, mapM_eq_ok_iff.mpr hcs]; rfl⟩
  | _ => exact ⟨_, by rw [hashCode]⟩

theorem unhashableIn_eq_none {xs : List Value} (h : ∀ x ∈ xs, x.unhashable? = Option.none) :
    unhashable?.unhashableIn xs = Option.none := by
  induction xs with
  | nil => rfl
  | cons x xs ih =>
    simp [unhashable?.unhashableIn, h x (by simp), ih fun y hy => h y (by simp [hy])]

theorem Hashable.unhashable?_eq_none {v : Value} (h : Hashable v) : v.unhashable? = Option.none := by
  induction h with
  | tuple _ ih => exact unhashableIn_eq_none ih
  | _ => rfl

/-! ## Values alike -/

/-- Two values built alike from nothing, truth values, integers, the ellipsis,
classes, tuples, lists, sets, frozen sets and mappings: equal, except that the
members of each set and frozen set may stand in another order. Items are paired
by position, through `List.zip`. -/
inductive Alike : Value → Value → Prop where
  | none : Alike .none .none
  | bool (b : Bool) : Alike (.bool b) (.bool b)
  | int (n : Int) : Alike (.int n) (.int n)
  | ellipsis : Alike .ellipsis .ellipsis
  | cls (name : String) : Alike (.cls name) (.cls name)
  | tuple {xs ys : List Value} : xs.length = ys.length →
      (∀ {a b}, (a, b) ∈ xs.zip ys → Alike a b) → Alike (.tuple xs) (.tuple ys)
  | list {xs ys : List Value} : xs.length = ys.length →
      (∀ {a b}, (a, b) ∈ xs.zip ys → Alike a b) → Alike (.list xs) (.list ys)
  | set {xs zs ys : List Value} : xs.length = zs.length →
      (∀ {a b}, (a, b) ∈ xs.zip zs → Alike a b) → zs.Perm ys → Alike (.set xs) (.set ys)
  | frozenset {xs zs ys : List Value} : xs.length = zs.length →
      (∀ {a b}, (a, b) ∈ xs.zip zs → Alike a b) → zs.Perm ys → Alike (.frozenset xs) (.frozenset ys)
  | dict {es fs : List (Value × Value)} : es.length = fs.length →
      (∀ {e f}, (e, f) ∈ es.zip fs → Alike e.1 f.1) → (∀ {e f}, (e, f) ∈ es.zip fs → Alike e.2 f.2) →
      Alike (.dict es) (.dict fs)

namespace Alike

theorem of_tuple {xs ys : List Value} (h : List.Forall₂ Alike xs ys) : Alike (.tuple xs) (.tuple ys) :=
  .tuple h.length_eq (List.forall₂_iff_zip.mp h).2

theorem of_list {xs ys : List Value} (h : List.Forall₂ Alike xs ys) : Alike (.list xs) (.list ys) :=
  .list h.length_eq (List.forall₂_iff_zip.mp h).2

theorem of_set {xs zs ys : List Value} (h : List.Forall₂ Alike xs zs) (hp : zs.Perm ys) :
    Alike (.set xs) (.set ys) :=
  .set h.length_eq (List.forall₂_iff_zip.mp h).2 hp

theorem of_frozenset {xs zs ys : List Value} (h : List.Forall₂ Alike xs zs) (hp : zs.Perm ys) :
    Alike (.frozenset xs) (.frozenset ys) :=
  .frozenset h.length_eq (List.forall₂_iff_zip.mp h).2 hp

theorem of_dict {es fs : List (Value × Value)}
    (h : List.Forall₂ (fun e f => Alike e.1 f.1 ∧ Alike e.2 f.2) es fs) : Alike (.dict es) (.dict fs) :=
  .dict h.length_eq (fun hef => ((List.forall₂_iff_zip.mp h).2 hef).1)
    (fun hef => ((List.forall₂_iff_zip.mp h).2 hef).2)

/-- A value alike to a hashable one is hashable. -/
theorem hashable {a b : Value} (h : Alike a b) (hb : Hashable b) : Hashable a := by
  induction h with
  | none => exact .none
  | bool b => exact .bool b
  | int n => exact .int n
  | ellipsis => exact .ellipsis
  | cls name => exact .cls name
  | tuple hlen _ ih =>
    cases hb with
    | tuple hys =>
      refine .tuple fun x hx => ?_
      obtain ⟨y, hxy⟩ := exists_mem_zip_left hlen hx
      exact ih hxy (hys y (List.of_mem_zip hxy).2)
  | frozenset hlen _ hp ih =>
    cases hb with
    | frozenset hys =>
      refine .frozenset fun x hx => ?_
      obtain ⟨y, hxy⟩ := exists_mem_zip_left hlen hx
      exact ih hxy (hys y (hp.subset (List.of_mem_zip hxy).2))
  | list | set | dict => cases hb

/-- Comparing two sets or frozen sets looks at their members only, so alike
members on each side give the same answer. -/
theorem equals_eq_of_members {a a' b b' : Value} {xs zs xs' ys ws ys' : List Value}
    (ha : a = .set xs ∨ a = .frozenset xs) (ha' : a' = .set xs' ∨ a' = .frozenset xs')
    (hb : b = .set ys ∨ b = .frozenset ys) (hb' : b' = .set ys' ∨ b' = .frozenset ys')
    (hx : List.Forall₂ (fun x z => ∀ {c c' : Value}, Alike c c' → equals x c = equals z c') xs zs)
    (hpx : zs.Perm xs') (hy : List.Forall₂ Alike ys ws) (hpy : ws.Perm ys') :
    equals a b = equals a' b' := by
  have hinner : ∀ x z, (∀ {c c' : Value}, Alike c c' → equals x c = equals z c') →
      ys.any (equals x) = ys'.any (equals z) := fun x z hxz =>
    (any_congr_of_forall₂ (fun _ _ hyw => hxz hyw) hy).trans hpy.any_eq
  rw [equals_members ha hb, equals_members ha' hb', hx.length_eq, hy.length_eq, hpx.length_eq,
    hpy.length_eq, all_congr_of_forall₂ hinner hx, hpx.all_eq]

/-- Comparing two mappings pairs their entries, so alike entries on each side
give the same answer. -/
theorem equals_eq_of_entries {es es' fs fs' : List (Value × Value)}
    (he : List.Forall₂ (fun e e' => (∀ {c c' : Value}, Alike c c' → equals e.1 c = equals e'.1 c') ∧
      (∀ {c c' : Value}, Alike c c' → equals e.2 c = equals e'.2 c')) es es')
    (hf : List.Forall₂ (fun f f' => Alike f.1 f'.1 ∧ Alike f.2 f'.2) fs fs') :
    equals (.dict es) (.dict fs) = equals (.dict es') (.dict fs') := by
  have hinner : ∀ e e' : Value × Value,
      ((∀ {c c' : Value}, Alike c c' → equals e.1 c = equals e'.1 c') ∧
        (∀ {c c' : Value}, Alike c c' → equals e.2 c = equals e'.2 c')) →
      (fs.any fun f => equals e.1 f.1 && equals e.2 f.2) =
        (fs'.any fun f => equals e'.1 f.1 && equals e'.2 f.2) := fun _ _ hee' =>
    any_congr_of_forall₂ (fun _ _ hff' => by rw [hee'.1 hff'.1, hee'.2 hff'.2]) hf
  rw [equals_dict, equals_dict, he.length_eq, hf.length_eq, all_congr_of_forall₂ hinner he]

/-- Equality cannot tell alike values apart: comparing alike values gives the
same answer on both sides. -/
theorem equals_eq {a a' : Value} (h : Alike a a') : ∀ {b b' : Value}, Alike b b' → equals a b = equals a' b' := by
  induction h with
  | tuple hlen _ ih =>
    intro b b' hb
    cases hb with
    | tuple hlen' hys =>
      rw [equals_tuple, equals_tuple, hlen, hlen',
        all_zip_congr_of_forall₂ (fun _ _ _ _ hr hs => hr hs) (List.forall₂_iff_zip.mpr ⟨hlen, ih⟩)
          (List.forall₂_iff_zip.mpr ⟨hlen', hys⟩)]
    | _ => simp [equals, numeric?]
  | list hlen _ ih =>
    intro b b' hb
    cases hb with
    | list hlen' hys =>
      rw [equals_list, equals_list, hlen, hlen',
        all_zip_congr_of_forall₂ (fun _ _ _ _ hr hs => hr hs) (List.forall₂_iff_zip.mpr ⟨hlen, ih⟩)
          (List.forall₂_iff_zip.mpr ⟨hlen', hys⟩)]
    | _ => simp [equals, numeric?]
  | set hlen _ hp ih =>
    intro b b' hb
    have hx := List.forall₂_iff_zip.mpr ⟨hlen, ih⟩
    cases hb with
    | set hlen' hys hp' =>
      exact equals_eq_of_members (.inl rfl) (.inl rfl) (.inl rfl) (.inl rfl) hx hp
        (List.forall₂_iff_zip.mpr ⟨hlen', hys⟩) hp'
    | frozenset hlen' hys hp' =>
      exact equals_eq_of_members (.inl rfl) (.inl rfl) (.inr rfl) (.inr rfl) hx hp
        (List.forall₂_iff_zip.mpr ⟨hlen', hys⟩) hp'
    | _ => simp [equals, numeric?]
  | frozenset hlen _ hp ih =>
    intro b b' hb
    have hx := List.forall₂_iff_zip.mpr ⟨hlen, ih⟩
    cases hb with
    | set hlen' hys hp' =>
      exact equals_eq_of_members (.inr rfl) (.inr rfl) (.inl rfl) (.inl rfl) hx hp
        (List.forall₂_iff_zip.mpr ⟨hlen', hys⟩) hp'
    | frozenset hlen' hys hp' =>
      exact equals_eq_of_members (.inr rfl) (.inr rfl) (.inr rfl) (.inr rfl) hx hp
        (List.forall₂_iff_zip.mpr ⟨hlen', hys⟩) hp'
    | _ => simp [equals, numeric?]
  | dict hlen _ _ ih₁ ih₂ =>
    intro b b' hb
    cases hb with
    | dict hlen' hks hvs =>
      exact equals_eq_of_entries
        (List.forall₂_iff_zip.mpr ⟨hlen, fun hef => ⟨fun hc => ih₁ hef hc, fun hc => ih₂ hef hc⟩⟩)
        (List.forall₂_iff_zip.mpr ⟨hlen', fun hef => ⟨hks hef, hvs hef⟩⟩)
    | _ => simp [equals, numeric?]
  | _ =>
    intro b b' hb
    cases hb <;> simp [equals, numeric?]

/-- Members paired by alike equal values, up to their order, make equal sets. -/
theorem members_equals_true {xs zs ys : List Value} (hlen : xs.length = zs.length)
    (h : ∀ {a b}, (a, b) ∈ xs.zip zs → equals a b = true) (hp : zs.Perm ys) :
    (xs.length == ys.length && xs.all fun x => ys.any (equals x)) = true := by
  rw [hlen, hp.length_eq, beq_self_eq_true, Bool.true_and, List.all_eq_true]
  intro x hx
  obtain ⟨z, hxz⟩ := exists_mem_zip_left hlen hx
  exact List.any_eq_true.mpr ⟨z, hp.subset (List.of_mem_zip hxz).2, h hxz⟩

theorem zero_beq_zero : ((0.0 : Float) == 0.0) = true := by decide

/-- Alike values are equal. -/
theorem equals_true {a b : Value} (h : Alike a b) : equals a b = true := by
  induction h with
  | tuple hlen _ ih | list hlen _ ih =>
    simp only [equals_tuple, equals_list, hlen, beq_self_eq_true, Bool.true_and, List.all_eq_true]
    exact fun p hp => ih hp
  | set hlen _ hp ih =>
    rw [equals_members (.inl rfl) (.inl rfl)]
    exact members_equals_true hlen ih hp
  | frozenset hlen _ hp ih =>
    rw [equals_members (.inr rfl) (.inr rfl)]
    exact members_equals_true hlen ih hp
  | dict hlen _ _ ih₁ ih₂ =>
    rw [equals_dict, hlen, beq_self_eq_true, Bool.true_and, List.all_eq_true]
    intro e he
    obtain ⟨f, hef⟩ := exists_mem_zip_left hlen he
    exact List.any_eq_true.mpr ⟨f, (List.of_mem_zip hef).2, by rw [ih₁ hef, ih₂ hef]; rfl⟩
  | _ => simp [equals, numeric?, realEq, zero_beq_zero]

/-- Values alike to pairwise unequal values are pairwise unequal. -/
theorem pairwise_unequal {ws xs : List Value} (h : List.Forall₂ Alike ws xs)
    (hxs : xs.Pairwise (fun a b => equals a b = false)) :
    ws.Pairwise (fun a b => equals a b = false) := by
  induction h with
  | nil => exact .nil
  | @cons w x ws xs hwx hrest ih =>
    rw [List.pairwise_cons] at hxs ⊢
    refine ⟨fun w' hw' => ?_, ih hxs.2⟩
    obtain ⟨x', hx', hwx'⟩ := exists_mem_right_of_forall₂ hrest hw'
    rw [equals_eq hwx hwx']
    exact hxs.1 x' hx'

end Alike

end Basis.Value
