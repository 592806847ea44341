import Basis.Proofs.Except
import Basis.Proofs.Alike
import Basis.Proofs.SetOrder
import Basis.Proofs.Marshal.Words

/-!
# Writing and reading back

The writer (`dumps`) and the reader (`loads`) of the serial format are inverse
on the values the format is made for (`Marshalable`): nothing, truth values,
integers of fewer than `2^31` digits, the end-of-iteration class, the ellipsis,
and tuples, lists, sets, frozen sets and mappings of such values, with hashable
and pairwise unequal set members and keys. A set read back lists its members in
the order of its own hash table, so what comes back is a value alike to the one
written (`Value.Alike`): equal, with the same type at every level, up to the
order of set members.

`loads_dumps` is the main statement. Every writable value is written; its text
reads back as a value alike to it and equal to it (`Value.Alike.equals_true`);
and the reader stops exactly at the end of the text, so that two texts written
one after the other read back in turn.

The proof follows the value. `pieces_texts` shows that a writable value is
written as its type code followed by characters only, so the text is the
characters of its pieces (`dumps_eq`). `ReadsBack v` says that from wherever the
input spells these characters, `load` reads exactly them and returns a value
alike to `v`; `Marshalable.readsBack` proves it by induction on the value:

* atoms through `reads_code`, integers through `run_loadContents_int`;
* sequences and sets through `readsBack_counted`: a count, then the items one
  after another (`reads_loadItems`), each with less fuel and room than the
  whole (`reads_items`); a set is then rebuilt by `Value.setOrder_perm`, since
  members alike to distinct hashable members are distinct and hashable;
* mappings through `reads_loadEntries`: each key read is new to the keys read
  before it (`Value.Alike.equals_eq`), so it goes last, and the closing mark
  ends the entries.
-/

namespace Basis.Marshal

open Value (Alike Hashable mapM_eq_ok_iff exists_forall₂ exists_mem_left_of_forall₂
  exists_mem_right_of_forall₂ forall₂_imp_of_mem)

/-! ## Writing -/

/-- Whether a piece is made of characters. -/
def Piece.isText : Piece → Bool
  | .text _ => true
  | .bytes _ => false

/-- Pieces that are all text. -/
def Texts (ps : List Piece) : Prop := ∀ p ∈ ps, p.isText

theorem texts_code_cons {c : Char} {ps : List Piece} (h : Texts ps) : Texts (code c :: ps) := by
  intro p hp
  rcases List.mem_cons.mp hp with rfl | hp
  · rfl
  · exact h p hp

theorem pieces_seq {v : Value} {xs : List Value}
    (hv : v = .tuple xs ∨ v = .list xs ∨ v = .set xs ∨ v = .frozenset xs) :
    pieces v = (fun inner => code (sequenceCode v) :: word xs.length :: inner.flatten) <$> xs.mapM pieces := by
  rcases hv with rfl | rfl | rfl | rfl <;> (rw [pieces]; simp)

/-- The pieces of one entry of a mapping: its key, then its value. -/
def entryPieces (e : Value × Value) : Except Failure (List Piece) := do
  let pk ← pieces e.1
  let px ← pieces e.2
  return pk ++ px

theorem pieces_dict (es : List (Value × Value)) :
    pieces (.dict es) = (fun inner => code '{' :: inner.flatten ++ [code '0']) <$> es.mapM entryPieces := by
  rw [pieces, List.mapM_subtype (g := entryPieces) (fun _ _ => rfl), List.unattach_attach]
  rfl

theorem entryPieces_eq_ok {e : Value × Value} {ps : List Piece} (h : entryPieces e = .ok ps) :
    ∃ pk pv, pieces e.1 = .ok pk ∧ pieces e.2 = .ok pv ∧ ps = pk ++ pv := by
  unfold entryPieces at h
  cases hk : pieces e.1 <;> cases hv : pieces e.2 <;> simp [hk, hv, bind, Except.bind, pure, Except.pure] at h
  exact ⟨_, _, rfl, rfl, h.symm⟩

theorem join_go_text {i : Nat} {acc : List Char} :
    ∀ {ps : List Piece}, (∀ p ∈ ps, p.isText) →
      join.go i acc ps = .ok (String.ofList (acc ++ ps.flatMap Piece.chars))
  | [], _ => by simp [join.go]
  | .text cs :: ps, h => by
    rw [join.go, join_go_text fun p hp => h p (by simp [hp])]
    simp [Piece.chars]
  | .bytes b :: _, h => by simpa [Piece.isText] using h (.bytes b) (by simp)

/-! ## Writable values -/

/-- The values the serial format writes and reads back: nothing, truth values,
integers of fewer than `2^31` digits, the end-of-iteration class, the ellipsis,
and tuples, lists, sets, frozen sets and mappings of such values. A count is
one signed 32-bit word, so a tuple, list or set has fewer than `2^31` items; a
mapping is closed by a mark and has no count. Members of a set and keys of a
mapping are hashable and pairwise unequal, as they are in any set or mapping. -/
inductive Marshalable : Value → Prop where
  | none : Marshalable .none
  | bool (b : Bool) : Marshalable (.bool b)
  | ellipsis : Marshalable .ellipsis
  | stopIteration : Marshalable (.cls "StopIteration")
  | int {n : Int} : (digits15 n.natAbs).length < 2 ^ 31 → Marshalable (.int n)
  | tuple {xs : List Value} : (∀ x ∈ xs, Marshalable x) → xs.length < 2 ^ 31 → Marshalable (.tuple xs)
  | list {xs : List Value} : (∀ x ∈ xs, Marshalable x) → xs.length < 2 ^ 31 → Marshalable (.list xs)
  | set {xs : List Value} : (∀ x ∈ xs, Marshalable x) → (∀ x ∈ xs, Hashable x) →
      xs.Pairwise (fun a b => Value.equals a b = false) → xs.length < 2 ^ 31 → Marshalable (.set xs)
  | frozenset {xs : List Value} : (∀ x ∈ xs, Marshalable x) → (∀ x ∈ xs, Hashable x) →
      xs.Pairwise (fun a b => Value.equals a b = false) → xs.length < 2 ^ 31 → Marshalable (.frozenset xs)
  | dict {es : List (Value × Value)} : (∀ e ∈ es, Marshalable e.1) → (∀ e ∈ es, Marshalable e.2) →
      (∀ e ∈ es, Hashable e.1) → (es.map Prod.fst).Pairwise (fun a b => Value.equals a b = false) →
      Marshalable (.dict es)

/-- The pieces written for a list of values that are each written as text. -/
theorem mapM_pieces_texts {α : Type} {f : α → Except Failure (List Piece)} {xs : List α}
    (h : ∀ x ∈ xs, ∃ ps, f x = .ok ps ∧ Texts ps) :
    ∃ inner, xs.mapM f = .ok inner ∧ Texts inner.flatten := by
  obtain ⟨inner, hinner⟩ := exists_forall₂ h
  refine ⟨inner, mapM_eq_ok_iff.mpr (hinner.imp fun _ _ hx => hx.1), fun p hp => ?_⟩
  obtain ⟨ps, hps, hp⟩ := List.mem_flatten.mp hp
  obtain ⟨x, _, _, htext⟩ := exists_mem_left_of_forall₂ hinner hps
  exact htext p hp

/-- A sequence or set of values written as text is written as text. -/
theorem pieces_seq_texts {v : Value} {xs : List Value}
    (hv : v = .tuple xs ∨ v = .list xs ∨ v = .set xs ∨ v = .frozenset xs)
    (h : ∀ x ∈ xs, ∃ c ps, pieces x = .ok (code c :: ps) ∧ Texts ps) :
    ∃ c ps, pieces v = .ok (code c :: ps) ∧ Texts ps := by
  obtain ⟨inner, hinner, htext⟩ := mapM_pieces_texts (f := pieces) fun x hx =>
    let ⟨c, ps, hx, hps⟩ := h x hx; ⟨code c :: ps, hx, texts_code_cons hps⟩
  refine ⟨sequenceCode v, word xs.length :: inner.flatten, by rw [pieces_seq hv, hinner]; rfl, ?_⟩
  intro p hp
  rcases List.mem_cons.mp hp with rfl | hp
  · rfl
  · exact htext p hp

/-- A writable value is written as its type code followed by characters only. -/
theorem pieces_texts {v : Value} (hv : Marshalable v) :
    ∃ c ps, pieces v = .ok (code c :: ps) ∧ Texts ps := by
  induction hv with
  | none => exact ⟨'N', [], by rw [pieces], by simp [Texts]⟩
  | bool b => exact ⟨if b then 'T' else 'F', [], by rw [pieces], by simp [Texts]⟩
  | ellipsis => exact ⟨'.', [], by rw [pieces], by simp [Texts]⟩
  | stopIteration => exact ⟨'S', [], by rw [pieces]; rfl, by simp [Texts]⟩
  | @int n _ =>
    refine ⟨'l', (intPieces n).tail, by rw [pieces]; rfl, fun p hp => ?_⟩
    simp [intPieces, short, word] at hp
    rcases hp with rfl | ⟨d, _, rfl | rfl⟩ <;> rfl
  | tuple _ _ ih => exact pieces_seq_texts (.inl rfl) ih
  | list _ _ ih => exact pieces_seq_texts (.inr (.inl rfl)) ih
  | set _ _ _ _ ih => exact pieces_seq_texts (.inr (.inr (.inl rfl))) ih
  | frozenset _ _ _ _ ih => exact pieces_seq_texts (.inr (.inr (.inr rfl))) ih
  | @dict es _ _ _ _ ihk ihv =>
    have hentries : ∀ e ∈ es, ∃ ps, entryPieces e = .ok ps ∧ Texts ps := by
      intro e he
      obtain ⟨ck, pk, hk, htk⟩ := ihk e he
      obtain ⟨cv, pv, hv, htv⟩ := ihv e he
      refine ⟨(code ck :: pk) ++ (code cv :: pv), by simp [entryPieces, hk, hv]; rfl, ?_⟩
      intro p hp
      rcases List.mem_append.mp hp with hp | hp
      · exact texts_code_cons htk p hp
      · exact texts_code_cons htv p hp
    obtain ⟨inner, hinner, htext⟩ := mapM_pieces_texts hentries
    refine ⟨'{', inner.flatten ++ [code '0'], by rw [pieces_dict, hinner]; rfl, ?_⟩
    intro p hp
    rcases List.mem_append.mp hp with hp | hp
    · exact htext p hp
    · simp at hp; subst hp; rfl

/-- A writable value is written, and its text is the characters of its pieces. -/
theorem dumps_eq {v : Value} (hv : Marshalable v) :
    ∃ ps, pieces v = .ok ps ∧ dumps v = .ok (String.ofList (ps.flatMap Piece.chars)) := by
  obtain ⟨c, ps, hps, htext⟩ := pieces_texts hv
  refine ⟨code c :: ps, hps, ?_⟩
  rw [dumps, hps]
  exact join_go_text (texts_code_cons htext)

/-! ## The characters of containers -/

theorem flatMap_chars_flatten (inner : List (List Piece)) :
    inner.flatten.flatMap Piece.chars = (inner.map (·.flatMap Piece.chars)).flatten := by
  induction inner <;> simp [*]

/-- The characters of a written sequence or set: its code, its count, then the
characters of its items in turn. -/
theorem seq_chars {v : Value} {xs : List Value}
    (hv : v = .tuple xs ∨ v = .list xs ∨ v = .set xs ∨ v = .frozenset xs) {ps : List Piece}
    (hps : pieces v = .ok ps) :
    ∃ inner, List.Forall₂ (fun x ps => pieces x = .ok ps) xs inner ∧
      ps.flatMap Piece.chars =
        sequenceCode v :: (word xs.length).chars ++ (inner.map (·.flatMap Piece.chars)).flatten := by
  rw [pieces_seq hv] at hps
  obtain ⟨inner, hinner, rfl⟩ := map_eq_ok hps
  refine ⟨inner, mapM_eq_ok_iff.mp hinner, ?_⟩
  simp [code, Piece.chars, flatMap_chars_flatten]

/-- The characters of the entries of a mapping, key and value apart. -/
theorem entries_chars :
    ∀ {es : List (Value × Value)} {inner : List (List Piece)},
      List.Forall₂ (fun e ps => entryPieces e = .ok ps) es inner →
      ∃ ccs : List (List Char × List Char),
        List.Forall₂ (fun e cc => ∃ pk pv, pieces e.1 = .ok pk ∧ pieces e.2 = .ok pv ∧
          cc = (pk.flatMap Piece.chars, pv.flatMap Piece.chars)) es ccs ∧
        inner.map (·.flatMap Piece.chars) = ccs.map fun cc => cc.1 ++ cc.2
  | _, _, .nil => ⟨[], .nil, rfl⟩
  | _, _, .cons he hrest => by
    obtain ⟨pk, pv, hk, hv, rfl⟩ := entryPieces_eq_ok he
    obtain ⟨ccs, hccs, hmap⟩ := entries_chars hrest
    exact ⟨_ :: ccs, .cons ⟨pk, pv, hk, hv, rfl⟩ hccs, by simp [hmap]⟩

/-- The characters of a written mapping: its code, its entries key by value,
then the closing mark. -/
theorem dict_chars {es : List (Value × Value)} {ps : List Piece} (hps : pieces (.dict es) = .ok ps) :
    ∃ ccs : List (List Char × List Char),
      List.Forall₂ (fun e cc => ∃ pk pv, pieces e.1 = .ok pk ∧ pieces e.2 = .ok pv ∧
        cc = (pk.flatMap Piece.chars, pv.flatMap Piece.chars)) es ccs ∧
      ps.flatMap Piece.chars = '{' :: ((ccs.map fun cc => cc.1 ++ cc.2).flatten ++ ['0']) := by
  rw [pieces_dict] at hps
  obtain ⟨inner, hinner, rfl⟩ := map_eq_ok hps
  obtain ⟨ccs, hccs, hmap⟩ := entries_chars (mapM_eq_ok_iff.mp hinner)
  refine ⟨ccs, hccs, ?_⟩
  simp [code, Piece.chars, flatMap_chars_flatten, hmap]

theorem length_le_length_flatten {α : Type} :
    ∀ {L : List (List α)}, (∀ l ∈ L, l ≠ []) → L.length ≤ L.flatten.length
  | [], _ => le_refl 0
  | l :: L, h => by
    have hl : l ≠ [] := h l (by simp)
    have := length_le_length_flatten (L := L) fun l' hl' => h l' (by simp [hl'])
    have : 0 < l.length := List.length_pos_iff.mpr hl
    simp only [List.flatten_cons, List.length_append, List.length_cons]
    omega

/-! ## Reading -/

/-- Wherever the input spells `cs`, the reader `r` reads exactly `cs` and
returns a value with `P`. -/
def Reads (inp : Input) (r : Reader Value) (cs : List Char) (P : Value → Prop) : Prop :=
  ∀ (q : Int) (I : List Value), Spells inp q cs → ∃ w, r.run ⟨q, I⟩ = .ok (w, ⟨q + cs.length, I⟩) ∧ P w

theorem Reads.mono {inp : Input} {r : Reader Value} {cs : List Char} {P Q : Value → Prop}
    (h : Reads inp r cs P) (hPQ : ∀ w, P w → Q w) : Reads inp r cs Q := fun q I hs =>
  let ⟨w, hw, hP⟩ := h q I hs
  ⟨w, hw, hPQ w hP⟩

/-- Whatever the writer makes of `v`, the reader takes back as a value alike to
`v`, from any position, given fuel and room for its characters. -/
def ReadsBack (v : Value) : Prop :=
  ∀ {ps : List Piece}, pieces v = .ok ps → ∀ {inp : Input} {fuel : Nat},
    (ps.flatMap Piece.chars).length < fuel → (ps.flatMap Piece.chars).length ≤ inp.items.size →
    Reads inp (load inp fuel) (ps.flatMap Piece.chars) (Alike · v)

theorem run_map_of_run {α β : Type} {r : Reader α} {f : α → β} {c c' : Cursor} {a : α}
    (h : r.run c = .ok (a, c')) : (f <$> r).run c = .ok (f a, c') := by
  rw [StateT.run_map, h]
  rfl

theorem run_liftM_of_ok {α : Type} {x : Except Failure α} {a : α} (h : x = .ok a) (c : Cursor) :
    (liftM x : Reader α).run c = .ok (a, c) := by
  subst h
  rfl

/-- One level of nesting reads a type code and goes on with its contents. -/
theorem run_load_succ {inp : Input} {fuel : Nat} {q : Int} {I : List Value} {c : Char} {cs : List Char}
    (h : Spells inp q (c :: cs)) :
    (load inp (fuel + 1)).run ⟨q, I⟩ =
      (loadContents inp (load inp fuel) (2 * inp.items.size + 1000) c).run ⟨q + 1, I⟩ := by
  rw [load, run_bind_of_run (run_readItem (spells_cons.mp h).1 I)]
  simp only [String.toList_singleton]

/-- A type code whose contents are empty reads back as its value. -/
theorem reads_code {inp : Input} {fuel : Nat} {c : Char} {w : Value}
    (hc : ∀ next budget, loadContents inp next budget c = pure w) (hfuel : 1 < fuel) :
    Reads inp (load inp fuel) [c] (· = w) := by
  intro q I hs
  obtain ⟨f, rfl⟩ : ∃ f, fuel = f + 1 := ⟨fuel - 1, by omega⟩
  rw [run_load_succ hs, hc]
  exact ⟨w, rfl, rfl⟩

/-- Reading `n` values one after another, each read back by `next`. -/
theorem reads_loadItems {inp : Input} {next : Reader Value} {R : Value → Value → Prop} :
    ∀ {xs : List Value} {css : List (List Char)} {q : Int} {I : List Value},
      List.Forall₂ (fun x cs => Reads inp next cs (R · x)) xs css → Spells inp q css.flatten →
      ∃ ws, (loadItems next xs.length).run ⟨q, I⟩ = .ok (ws, ⟨q + css.flatten.length, I⟩) ∧
        List.Forall₂ R ws xs
  | _, _, q, I, .nil, _ => ⟨[], by simp [loadItems]; rfl, .nil⟩
  | _, cs :: css, q, I, .cons hx hrest, hs => by
    rw [List.flatten_cons, spells_append] at hs
    obtain ⟨w, hw, hR⟩ := hx q I hs.1
    obtain ⟨ws, hws, hRs⟩ := reads_loadItems hrest hs.2
    refine ⟨w :: ws, ?_, .cons hR hRs⟩
    rw [List.length_cons, loadItems, run_bind_of_run hw, run_bind_of_run hws, List.flatten_cons,
      List.length_append]
    simp only [StateT.run_pure]
    congr 3
    push_cast
    omega

/-- Reading a count, then that many items. -/
theorem reads_count_items {inp : Input} {next : Reader Value} {R : Value → Value → Prop}
    {xs : List Value} {css : List (List Char)} (hlen : xs.length < 2 ^ 31)
    (hxs : List.Forall₂ (fun x cs => Reads inp next cs (R · x)) xs css) {q : Int} {I : List Value}
    (hs : Spells inp q ((word xs.length).chars ++ css.flatten)) :
    ∃ ws, (readLong inp >>= fun n => loadItems next n.toNat).run ⟨q, I⟩ =
        .ok (ws, ⟨q + 4 + css.flatten.length, I⟩) ∧ List.Forall₂ R ws xs := by
  rw [spells_append, length_chars_word] at hs
  push_cast at hs
  rw [run_bind_of_run (run_readLong_word (by omega) (by omega) hs.1 I), Int.toNat_natCast]
  exact reads_loadItems hxs hs.2

/-- Items that each read back are read back in turn, with the fuel and room of
all of them. -/
theorem reads_items {xs : List Value} {inner : List (List Piece)} {inp : Input} {fuel : Nat}
    (ih : ∀ x ∈ xs, ReadsBack x) (hF : List.Forall₂ (fun x ps => pieces x = .ok ps) xs inner)
    (hfuel : (inner.map (·.flatMap Piece.chars)).flatten.length < fuel)
    (hroom : (inner.map (·.flatMap Piece.chars)).flatten.length ≤ inp.items.size) :
    List.Forall₂ (fun x cs => Reads inp (load inp fuel) cs (Alike · x)) xs
      (inner.map (·.flatMap Piece.chars)) := by
  refine List.forall₂_map_right_iff.mpr (forall₂_imp_of_mem hF fun x hx ps hps hx' => ?_)
  have hle := (List.sublist_flatten_of_mem (List.mem_map_of_mem (f := (·.flatMap Piece.chars)) hps)).length_le
  exact ih x hx hx' (by omega) (by omega)

/-! ## Sequences and sets -/

/-- A sequence or set of items that read back reads back, when its code reads a
count, that many items, and then `finish` makes of the items read a value alike
to the one written, without reading further. -/
theorem readsBack_counted {v : Value} {xs : List Value} (finish : List Value → Reader Value)
    (hv : v = .tuple xs ∨ v = .list xs ∨ v = .set xs ∨ v = .frozenset xs)
    (hload : ∀ inp next budget, loadContents inp next budget (sequenceCode v) =
      (readLong inp >>= fun n => loadItems next n.toNat) >>= finish)
    (hfinish : ∀ ws c, List.Forall₂ Alike ws xs → ∃ w, (finish ws).run c = .ok (w, c) ∧ Alike w v)
    (hlen : xs.length < 2 ^ 31) (ih : ∀ x ∈ xs, ReadsBack x) :
    ReadsBack v := by
  intro ps hps inp fuel hfuel hroom
  obtain ⟨inner, hF, hchars⟩ := seq_chars hv hps
  rw [hchars] at hfuel hroom ⊢
  simp only [List.length_cons, List.length_append, length_chars_word] at hfuel hroom
  obtain ⟨f, rfl⟩ : ∃ f, fuel = f + 1 := ⟨fuel - 1, by omega⟩
  -- every item has fewer characters than the whole, so the fuel and room left suffice
  have hf : (inner.map (·.flatMap Piece.chars)).flatten.length < f := by omega
  have hsize : (inner.map (·.flatMap Piece.chars)).flatten.length ≤ inp.items.size := by omega
  intro q I hs
  obtain ⟨ws, hrun, hws⟩ := reads_count_items hlen (reads_items ih hF hf hsize) (spells_cons.mp hs).2
  obtain ⟨w, hw, halike⟩ := hfinish ws _ hws
  refine ⟨w, ?_, halike⟩
  rw [run_load_succ hs, hload, run_bind_of_run hrun, hw]
  simp only [List.length_cons, List.length_append, length_chars_word]
  congr 3
  push_cast
  omega

theorem readsBack_tuple {xs : List Value} (hlen : xs.length < 2 ^ 31) (ih : ∀ x ∈ xs, ReadsBack x) :
    ReadsBack (.tuple xs) :=
  readsBack_counted (fun ws => pure (.tuple ws)) (.inl rfl)
    (fun _ _ _ => by simp only [sequenceCode, loadContents, map_eq_pure_bind, bind_assoc]; rfl)
    (fun ws _ hws => ⟨.tuple ws, rfl, Value.Alike.of_tuple hws⟩) hlen ih

theorem readsBack_list {xs : List Value} (hlen : xs.length < 2 ^ 31) (ih : ∀ x ∈ xs, ReadsBack x) :
    ReadsBack (.list xs) :=
  readsBack_counted (fun ws => pure (.list ws)) (.inr (.inl rfl))
    (fun _ _ _ => by simp only [sequenceCode, loadContents, map_eq_pure_bind, bind_assoc]; rfl)
    (fun ws _ hws => ⟨.list ws, rfl, Value.Alike.of_list hws⟩) hlen ih

/-- Members read back alike to distinct hashable members are put in a set
holding each of them once, so the set read back is alike to the one written. -/
theorem setOrder_alike {ws xs : List Value} (h : List.Forall₂ Alike ws xs)
    (hhash : ∀ x ∈ xs, Hashable x) (hxs : xs.Pairwise (fun a b => Value.equals a b = false))
    (hlen : xs.length < 2 ^ 31) :
    ∃ zs, Value.setOrder ws = .ok zs ∧ ∃ ys, List.Forall₂ Alike zs ys ∧ ys.Perm xs := by
  have hhashw : ∀ w ∈ ws, ∃ c, Value.hashCode w = .ok c := fun w hw =>
    let ⟨x, hx, hwx⟩ := exists_mem_right_of_forall₂ h hw
    (hwx.hashable (hhash x hx)).hashCode_ok
  obtain ⟨zs, hset, hperm⟩ :=
    Value.setOrder_perm hhashw (Value.Alike.pairwise_unequal h hxs) (by rw [h.length_eq]; omega)
  exact ⟨zs, hset, List.perm_comp_forall₂ hperm h⟩

theorem readsBack_set {xs : List Value} (hhash : ∀ x ∈ xs, Hashable x)
    (hxs : xs.Pairwise (fun a b => Value.equals a b = false)) (hlen : xs.length < 2 ^ 31)
    (ih : ∀ x ∈ xs, ReadsBack x) : ReadsBack (.set xs) :=
  readsBack_counted (fun ws => (.set <$> Value.setOrder ws : Reader Value)) (.inr (.inr (.inl rfl)))
    (fun _ _ _ => by simp only [sequenceCode, loadContents, bind_assoc]; rfl)
    (fun ws _ hws => by
      obtain ⟨zs, hset, ys, hzs, hperm⟩ := setOrder_alike hws hhash hxs hlen
      exact ⟨.set zs, by simp [hset], Value.Alike.of_set hzs hperm⟩) hlen ih

theorem readsBack_frozenset {xs : List Value} (hhash : ∀ x ∈ xs, Hashable x)
    (hxs : xs.Pairwise (fun a b => Value.equals a b = false)) (hlen : xs.length < 2 ^ 31)
    (ih : ∀ x ∈ xs, ReadsBack x) : ReadsBack (.frozenset xs) :=
  readsBack_counted (fun ws => (.frozenset <$> Value.setOrder ws : Reader Value))
    (.inr (.inr (.inr rfl)))
    (fun _ _ _ => by simp only [sequenceCode, loadContents, bind_assoc]; rfl)
    (fun ws _ hws => by
      obtain ⟨zs, hset, ys, hzs, hperm⟩ := setOrder_alike hws hhash hxs hlen
      exact ⟨.frozenset zs, by simp [hset], Value.Alike.of_frozenset hzs hperm⟩) hlen ih

/-! ## Mappings -/

theorem cls_of_marshalable {v : Value} (hv : Marshalable v) {s : String} (h : v = .cls s) :
    s = "StopIteration" := by
  cases hv <;> simp_all

/-- A key read back alike to a writable key is never the mark that closes a mapping. -/
theorem ne_nullMark_of_alike {w k : Value} (hw : Alike w k) (hk : Marshalable k) : w ≠ nullMark := by
  rintro rfl
  cases hw with
  | cls name => exact absurd (cls_of_marshalable hk rfl) (by decide)

/-- A hashable key unequal to every key so far goes last. -/
theorem putEntry_fresh {acc : List (Value × Value)} {k v : Value} (hk : k.unhashable? = Option.none)
    (hfresh : ∀ a ∈ acc, Value.equals a.1 k = false) : Value.putEntry acc k v = .ok (acc ++ [(k, v)]) := by
  have hany : acc.any (fun e => Value.equals e.1 k) = false := by
    rw [List.any_eq_false]
    intro a ha
    simp [hfresh a ha]
  simp [Value.putEntry, hk, hany]

theorem run_loadEntries_cons {next : Reader Value} {steps : Nat}
    {acc acc' : List (Value × Value)} {q q' q'' : Int} {I : List Value} {wk wv : Value}
    (hk : next.run ⟨q, I⟩ = .ok (wk, ⟨q', I⟩)) (hnull : wk ≠ nullMark)
    (hv : next.run ⟨q', I⟩ = .ok (wv, ⟨q'', I⟩)) (hput : Value.putEntry acc wk wv = .ok acc') :
    (loadEntries next (steps + 1) acc).run ⟨q, I⟩ = (loadEntries next steps acc').run ⟨q'', I⟩ := by
  rw [loadEntries, run_bind_of_run hk]
  split
  · exact absurd rfl hnull
  · rw [run_bind_of_run hv, run_bind_of_run (run_liftM_of_ok hput _)]

/-- Entries alike, key by key and value by value. -/
def EntriesAlike (ws es : List (Value × Value)) : Prop :=
  List.Forall₂ (fun w e => Alike w.1 e.1 ∧ Alike w.2 e.2) ws es

/-- Reading the entries of a mapping up to its closing mark: each key and each
value reads back, and the keys read are new to the entries read before them. -/
theorem reads_loadEntries {inp : Input} {next : Reader Value} (hnull : Reads inp next ['0'] (· = nullMark)) :
    ∀ {es : List (Value × Value)} {ccs : List (List Char × List Char)} {acc done : List (Value × Value)}
      {steps : Nat} {q : Int} {I : List Value},
      List.Forall₂ (fun e cc => Reads inp next cc.1 (Alike · e.1) ∧ Reads inp next cc.2 (Alike · e.2)) es ccs →
      (∀ e ∈ es, Marshalable e.1 ∧ Hashable e.1) → EntriesAlike acc done →
      ((done ++ es).map Prod.fst).Pairwise (fun a b => Value.equals a b = false) → es.length < steps →
      Spells inp q ((ccs.map fun cc => cc.1 ++ cc.2).flatten ++ ['0']) →
      ∃ ws, (loadEntries next steps acc).run ⟨q, I⟩ =
          .ok (acc ++ ws, ⟨q + ((ccs.map fun cc => cc.1 ++ cc.2).flatten ++ ['0']).length, I⟩) ∧
        EntriesAlike ws es
  | [], [], acc, done, steps, q, I, .nil, _, _, _, hsteps, hs => by
    obtain ⟨s, rfl⟩ : ∃ s, steps = s + 1 := ⟨steps - 1, by omega⟩
    obtain ⟨w, hw, rfl⟩ := hnull q I (by simpa using hs)
    refine ⟨[], ?_, .nil⟩
    rw [loadEntries, run_bind_of_run hw]
    simp [nullMark]
    rfl
  | e :: es, cc :: ccs, acc, done, steps, q, I, .cons ⟨hk, hv⟩ hrest, hkeys, hacc, hdistinct, hsteps, hs => by
    obtain ⟨s, rfl⟩ : ∃ s, steps = s + 1 := ⟨steps - 1, by omega⟩
    simp only [List.map_cons, List.flatten_cons, List.append_assoc] at hs
    rw [spells_append, spells_append] at hs
    obtain ⟨wk, hwk, hak⟩ := hk q I hs.1
    obtain ⟨wv, hwv, hav⟩ := hv _ I hs.2.1
    have hkey := hkeys e (by simp)
    -- the key read is new: every key before it is alike to an earlier key written
    have hfresh : ∀ a ∈ acc, Value.equals a.1 wk = false := by
      intro a ha
      obtain ⟨d, hd, had⟩ := exists_mem_right_of_forall₂ hacc ha
      rw [Value.Alike.equals_eq had.1 hak]
      rw [List.map_append, List.pairwise_append] at hdistinct
      exact hdistinct.2.2 d.1 (List.mem_map_of_mem hd) e.1 (by simp)
    have hput := putEntry_fresh (v := wv) ((hak.hashable hkey.2).unhashable?_eq_none) hfresh
    obtain ⟨ws, hws, hall⟩ := reads_loadEntries hnull hrest (fun e' he' => hkeys e' (by simp [he']))
      (List.rel_append hacc (.cons (a := (wk, wv)) (b := e) ⟨hak, hav⟩ .nil)) (by simpa using hdistinct)
      (by simp at hsteps; omega) hs.2.2
    refine ⟨(wk, wv) :: ws, ?_, .cons ⟨hak, hav⟩ hall⟩
    rw [run_loadEntries_cons hwk (ne_nullMark_of_alike hak hkey.1) hwv hput, hws]
    simp only [List.append_assoc, List.singleton_append, List.map_cons, List.flatten_cons,
      List.length_append, List.length_cons]
    congr 3
    push_cast
    omega

theorem loadContents_dict (inp : Input) (next : Reader Value) (budget : Nat) :
    loadContents inp next budget '{' = .dict <$> loadEntries next budget [] := rfl

/-- A mapping whose keys and values read back reads back. -/
theorem readsBack_dict {es : List (Value × Value)} (hkeys : ∀ e ∈ es, Marshalable e.1)
    (hhash : ∀ e ∈ es, Hashable e.1)
    (hdistinct : (es.map Prod.fst).Pairwise (fun a b => Value.equals a b = false))
    (ihk : ∀ e ∈ es, ReadsBack e.1) (ihv : ∀ e ∈ es, ReadsBack e.2) : ReadsBack (.dict es) := by
  intro ps hps inp fuel hfuel hroom
  obtain ⟨ccs, hF, hchars⟩ := dict_chars hps
  rw [hchars] at hfuel hroom ⊢
  set L := (ccs.map fun cc => cc.1 ++ cc.2).flatten with hL
  simp only [List.length_cons, List.length_append, List.length_nil] at hfuel hroom
  obtain ⟨f, rfl⟩ : ∃ f, fuel = f + 1 := ⟨fuel - 1, by omega⟩
  -- each key and value has fewer characters than the whole, and each key has some
  have hpart : ∀ cc ∈ ccs, (cc.1 ++ cc.2).length ≤ L.length := fun cc hcc =>
    (List.sublist_flatten_of_mem (List.mem_map_of_mem (f := fun cc => cc.1 ++ cc.2) hcc)).length_le
  have hchildren : List.Forall₂ (fun e cc => Reads inp (load inp f) cc.1 (Alike · e.1) ∧
      Reads inp (load inp f) cc.2 (Alike · e.2)) es ccs := by
    refine forall₂_imp_of_mem hF fun e he cc hcc ⟨pk, pv, hk, hv, hcc'⟩ => ?_
    have hle := hpart cc hcc
    subst hcc'
    simp only [List.length_append] at hle
    exact ⟨ihk e he hk (by omega) (by omega), ihv e he hv (by omega) (by omega)⟩
  have hcount : es.length ≤ L.length := by
    have hne : ∀ l ∈ ccs.map (fun cc => cc.1 ++ cc.2), l ≠ [] := by
      intro l hl
      obtain ⟨cc, hcc, rfl⟩ := List.mem_map.mp hl
      obtain ⟨e, he, pk, pv, hk, _, rfl⟩ := exists_mem_left_of_forall₂ hF hcc
      obtain ⟨c, ps', hk', _⟩ := pieces_texts (hkeys e he)
      rw [hk'] at hk
      cases hk
      simp [code, Piece.chars]
    have := length_le_length_flatten hne
    rw [List.length_map, ← hF.length_eq] at this
    exact this
  have hsteps : es.length < 2 * inp.items.size + 1000 := by omega
  intro q I hs
  obtain ⟨ws, hws, hall⟩ := reads_loadEntries (reads_code (fun _ _ => rfl) (by omega)) hchildren
    (fun e he => ⟨hkeys e he, hhash e he⟩) .nil (by simpa using hdistinct) hsteps (spells_cons.mp hs).2
  refine ⟨.dict ws, ?_, Value.Alike.of_dict hall⟩
  rw [run_load_succ hs, loadContents_dict, run_map_of_run hws]
  simp only [List.nil_append, List.length_cons, List.length_append, List.length_nil, ← hL]
  congr 3
  push_cast
  omega

/-! ## Every writable value -/

/-- A value written as its type code alone reads back. -/
theorem readsBack_code {v : Value} {c : Char} (hp : pieces v = .ok [code c])
    (hc : ∀ inp next budget, loadContents inp next budget c = pure v) (halike : Alike v v) :
    ReadsBack v := by
  intro ps hps inp fuel hfuel _
  rw [hp] at hps
  cases hps
  exact (reads_code (hc inp) hfuel).mono fun w hw => hw ▸ halike

theorem readsBack_int {n : Int} (hn : (digits15 n.natAbs).length < 2 ^ 31) : ReadsBack (.int n) := by
  intro ps hps inp fuel hfuel _
  rw [pieces] at hps
  cases hps
  have hchars : (intPieces n).flatMap Piece.chars = 'l' :: (intPieces n).tail.flatMap Piece.chars := rfl
  rw [hchars] at hfuel ⊢
  obtain ⟨f, rfl⟩ : ∃ f, fuel = f + 1 := ⟨fuel - 1, by simp at hfuel; omega⟩
  intro q I hs
  refine ⟨.int n, ?_, .int n⟩
  rw [run_load_succ hs, run_loadContents_int hn (spells_cons.mp hs).2]
  simp only [List.length_cons]
  congr 3
  push_cast
  omega

/-- Every writable value reads back, alike to itself, from whatever the writer
makes of it. -/
theorem Marshalable.readsBack {v : Value} (hv : Marshalable v) : ReadsBack v := by
  induction hv with
  | none => exact readsBack_code (by rw [pieces]) (fun _ _ _ => rfl) .none
  | bool b => exact readsBack_code (by rw [pieces]) (fun _ _ _ => by cases b <;> rfl) (.bool b)
  | ellipsis => exact readsBack_code (by rw [pieces]) (fun _ _ _ => rfl) .ellipsis
  | stopIteration => exact readsBack_code (by rw [pieces]; rfl) (fun _ _ _ => rfl) (.cls _)
  | int hn => exact readsBack_int hn
  | tuple _ hlen ih => exact readsBack_tuple hlen ih
  | list _ hlen ih => exact readsBack_list hlen ih
  | set _ hhash hxs hlen ih => exact readsBack_set hhash hxs hlen ih
  | frozenset _ hhash hxs hlen ih => exact readsBack_frozenset hhash hxs hlen ih
  | dict hkeys _ hhash hdistinct ihk ihv => exact readsBack_dict hkeys hhash hdistinct ihk ihv

/-! ## Round trip -/

/-- The items read from a text spell it from position 0. -/
theorem spells_toList (s : String) :
    Spells ⟨(s.toList.map fun c => Value.str (String.singleton c)).toArray, .str s⟩ 0 s.toList := by
  intro i hi
  have hres : resolve s.toList.length (i : Int) = some i := by
    have hneg : ¬ (i : Int) < 0 := by omega
    simp only [resolve, hneg, if_false]
    rw [if_pos ⟨by omega, by omega⟩]
    simp
  simp [Input.at?, hres]

/-- The input read from a text. -/
theorem inputOf_str (s : String) :
    inputOf (.str s) = .ok ⟨(s.toList.map fun c => Value.str (String.singleton c)).toArray, .str s⟩ := rfl

/-- A writable value read back from wherever its text stands. -/
theorem load_dumps {v : Value} (hv : Marshalable v) {s : String} (hs : dumps v = .ok s) {inp : Input}
    (fuel : Nat) (hfuel : s.length < fuel) (hroom : s.length ≤ inp.items.size) {p : Int} {I : List Value}
    (hspells : Spells inp p s.toList) :
    ∃ w, (load inp fuel).run ⟨p, I⟩ = .ok (w, ⟨p + s.length, I⟩) ∧ Alike w v := by
  obtain ⟨ps, hps, hdumps⟩ := dumps_eq hv
  rw [hdumps] at hs
  cases hs
  simp only [String.length_ofList, String.toList_ofList] at hfuel hroom hspells ⊢
  exact hv.readsBack hps hfuel hroom p I hspells

/-- Writing and reading back: every writable value is written; its text reads
back as a value alike to it and equal to it; and reading consumes exactly its
text, so that two texts written one after the other read back in turn, the
second from the position where the first ends. -/
theorem loads_dumps {v₁ v₂ : Value} (h₁ : Marshalable v₁) (h₂ : Marshalable v₂) :
    ∃ s₁ s₂, dumps v₁ = .ok s₁ ∧ dumps v₂ = .ok s₂ ∧
      (∃ w, loads (.str s₁) = .ok w ∧ Alike w v₁ ∧ Value.equals w v₁ = true) ∧
      ∃ inp, inputOf (.str (s₁ ++ s₂)) = .ok inp ∧ ∃ w₁ w₂,
        (load inp (2 * inp.items.size + 1000)).run ⟨0, []⟩ = .ok (w₁, ⟨s₁.length, []⟩) ∧
        Alike w₁ v₁ ∧
        (load inp (2 * inp.items.size + 1000)).run ⟨s₁.length, []⟩ =
          .ok (w₂, ⟨s₁.length + s₂.length, []⟩) ∧ Alike w₂ v₂ := by
  obtain ⟨ps₁, -, hs₁⟩ := dumps_eq h₁
  obtain ⟨ps₂, -, hs₂⟩ := dumps_eq h₂
  set s₁ := String.ofList (ps₁.flatMap Piece.chars)
  set s₂ := String.ofList (ps₂.flatMap Piece.chars)
  refine ⟨s₁, s₂, hs₁, hs₂, ?_, _, inputOf_str _, ?_⟩
  · -- the text of the first value alone
    obtain ⟨w, hw, halike⟩ := load_dumps (I := []) h₁ hs₁ (2 * s₁.length + 1000) (by omega)
      (by simp [String.length_toList]) (spells_toList s₁)
    refine ⟨w, ?_, halike, halike.equals_true⟩
    have hloads : loads (.str s₁) = (fun p => p.1) <$> (load ⟨(s₁.toList.map fun c => Value.str
        (String.singleton c)).toArray, .str s₁⟩ (2 * s₁.length + 1000)).run ⟨0, []⟩ := by
      simp [loads, inputOf_str, bind, Except.bind, StateT.run', String.length_toList]
      rfl
    rw [hloads, hw]
    rfl
  · -- the two texts one after the other
    have hspells := spells_toList (s₁ ++ s₂)
    rw [String.toList_append, spells_append] at hspells
    obtain ⟨w₁, hw₁, ha₁⟩ := load_dumps (I := []) h₁ hs₁ (2 * (s₁ ++ s₂).length + 1000) (by simp; omega)
      (by simp [String.length_toList]) hspells.1
    obtain ⟨w₂, hw₂, ha₂⟩ := load_dumps (I := []) h₂ hs₂ (2 * (s₁ ++ s₂).length + 1000) (by simp; omega)
      (by simp [String.length_toList]) hspells.2
    refine ⟨w₁, w₂, by simpa [String.length_toList] using hw₁, ha₁, ?_, ha₂⟩
    simpa [String.length_toList] using hw₂

/-- A tuple holding a three-digit integer and a frozen set, then a mapping from
the ellipsis to a list, read back one after the other. -/
theorem loads_dumps_tuple_dict :
    Marshalable (.tuple [.int 70000, .frozenset [.none, .bool true]]) ∧
    Marshalable (.dict [(.ellipsis, .list [.none])]) ∧
    ∃ s₁ s₂, dumps (.tuple [.int 70000, .frozenset [.none, .bool true]]) = .ok s₁ ∧
      dumps (.dict [(.ellipsis, .list [.none])]) = .ok s₂ ∧
      (∃ w, loads (.str s₁) = .ok w ∧ Alike w (.tuple [.int 70000, .frozenset [.none, .bool true]]) ∧
        Value.equals w (.tuple [.int 70000, .frozenset [.none, .bool true]]) = true) ∧
      ∃ inp, inputOf (.str (s₁ ++ s₂)) = .ok inp ∧ ∃ w₁ w₂,
        (load inp (2 * inp.items.size + 1000)).run ⟨0, []⟩ = .ok (w₁, ⟨s₁.length, []⟩) ∧
        Alike w₁ (.tuple [.int 70000, .frozenset [.none, .bool true]]) ∧
        (load inp (2 * inp.items.size + 1000)).run ⟨s₁.length, []⟩ =
          .ok (w₂, ⟨s₁.length + s₂.length, []⟩) ∧ Alike w₂ (.dict [(.ellipsis, .list [.none])]) := by
  have hatoms : ∀ y ∈ [Value.none, .bool true], Marshalable y ∧ Hashable y := by
    intro y hy
    simp only [List.mem_cons, List.not_mem_nil, or_false] at hy
    rcases hy with rfl | rfl
    · exact ⟨.none, .none⟩
    · exact ⟨.bool true, .bool true⟩
  have h₁ : Marshalable (.tuple [.int 70000, .frozenset [.none, .bool true]]) := by
    refine .tuple (fun x hx => ?_) (by decide)
    simp only [List.mem_cons, List.not_mem_nil, or_false] at hx
    rcases hx with rfl | rfl
    · exact .int (by rw [digits15_eq_digits]; norm_num)
    · exact .frozenset (fun y hy => (hatoms y hy).1) (fun y hy => (hatoms y hy).2)
        (by simp [Value.equals, Value.numeric?]) (by decide)
  have h₂ : Marshalable (.dict [(.ellipsis, .list [.none])]) := by
    refine .dict (fun e he => ?_) (fun e he => ?_) (fun e he => ?_) (by simp)
    all_goals
      simp only [List.mem_cons, List.not_mem_nil, or_false] at he
      subst he
    · exact .ellipsis
    · exact .list (fun y hy => by simp at hy; subst hy; exact .none) (by decide)
    · exact .ellipsis
  exact ⟨h₁, h₂, loads_dumps h₁ h₂⟩

end Basis.Marshal
