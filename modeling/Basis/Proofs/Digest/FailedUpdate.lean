import Basis.Proofs.Digest.Copies

/-!
# Failed updates

An update counts its part before it reads the part's items, and nothing is put
back when a later step fails. So a failed update leaves a hasher as it was only
when it fails before counting (`Hasher.refuses`). The two kinds of hasher fail
for different reasons.

A buffered hasher (MD5, SHA-1) takes a text: it refuses a part without a length
before counting, and a part with a length whose items are not characters is
counted, eight bits per item, before taking the codes of its items fails. Both
are how it is meant to take its message.

A SHA-2 hasher is meant to take a text too, and its digests are those of
texts, but it reads each character as a byte, which a character is not: a
non-empty text is counted and only then fails. That is a slip, not a design,
and it is the one way a SHA-2 update fails after changing the hasher: the
hasher is left counted, and its later digests are those of a message of that
many bytes (`text_update_counted_then_fails`). Anything that is not a text it
refuses before counting.

Every failed update that is not refused has counted a part of at least one
item, and such a count is never the one before: a buffered count only grows
(`Buffered.bits_update`), and a SHA-2 count of a non-empty text always changes
its two words (`Sha2.Hasher.count_ne`), wrap-around included. A part without
items is taken in without a failure (`Buffered.update_of_len_zero`).

`failed_update_unchanged_iff_refused` states it for the current member of a
family in any state: a failed update leaves the family as it was exactly when
the member refuses the part, and it never touches another member.
-/

namespace Basis.Digest

/-- The hasher fails on the part of an update before counting it: a buffered
hasher on a part without a length, a SHA-2 hasher on anything but a text. -/
def Hasher.refuses : Hasher → Value → Bool
  | .md5 _, x | .sha1 _, x => x.length?.isNone
  | .sha2 _, .str _ => false
  | .sha2 _, _ => true

/-! ## Buffered hashers -/

namespace Buffered

variable {Chain : Type} (d : Design Chain)

theorem len_eq_error {x : Value} (hx : x.length? = none) :
    x.len = .error (.typeError s!"object of type '{x.typeName}' has no len()") := by
  simp [Value.len, hx]

/-- A part with a length can be iterated. -/
theorem iterate_of_len {x : Value} {n : Nat} (hx : x.len = .ok n) : ∃ xs, x.iterate = .ok xs := by
  cases x <;> simp_all [Value.len, Value.length?, Value.iterate, Value.items?]

/-- An update of a part of `n` items adds `8 n` bits to the count, whether it
succeeds or fails. -/
theorem bits_update (s : Buffered Chain) {x : Value} {n : Nat} (hx : x.len = .ok n) :
    (update d s x).1.bits = s.bits + n * 8 := by
  simp only [update, hx]
  -- every branch builds its state from the counted one and keeps its count
  split_ifs <;> repeat' split
  all_goals rfl

/-- A part without items completes no block, so it is taken in. -/
theorem update_of_len_zero (s : Buffered Chain) {x : Value} (hx : x.len = .ok 0) :
    (update d s x).2 = .ok () := by
  obtain ⟨xs, hxs⟩ := iterate_of_len hx
  have hroom : ¬64 - s.bits / 8 % 64 ≤ 0 := by omega
  simp only [update, hx, if_neg hroom, hxs]

/-- A failed update leaves the hasher as it was exactly when the part has no
length. -/
theorem update_failed_eq_self_iff (s : Buffered Chain) {x : Value} {e : Failure}
    (hf : (update d s x).2 = .error e) : (update d s x).1 = s ↔ x.length? = none := by
  cases hl : x.length? with
  | none => simp [update, len_eq_error hl]
  | some n =>
    have hx : x.len = .ok n := by simp [Value.len, hl]
    -- a failure means a part of at least one item, and its bits are counted
    have hn : n ≠ 0 := by
      rintro rfl
      rw [update_of_len_zero d s hx] at hf
      cases hf
    have hbits := bits_update d s hx
    simp only [reduceCtorEq, iff_false]
    intro heq
    rw [heq] at hbits
    omega

end Buffered

/-! ## SHA-2 hashers -/

namespace Sha2.Hasher

/-- Counting a part of at least one byte changes the two count words: the low
word alone comes back only after `2^29` bytes, and those carry into the high
word. -/
theorem count_ne (h : Hasher) {n : Nat} (hn : 0 < n) : h.count n ≠ h := by
  intro heq
  have hlow := congrArg Hasher.low heq
  have hhigh := congrArg Hasher.high heq
  simp only [count, Nat.pow_eq, Nat.reducePow] at hlow hhigh
  rw [hlow] at hhigh
  simp only [Nat.lt_irrefl, if_false] at hhigh
  have hlt : (h.low + n * 8) % 4294967296 < 4294967296 := Nat.mod_lt _ (by norm_num)
  omega

/-- A failed update leaves the hasher as it was exactly when the part is not a
text; a text is counted before it fails. -/
theorem update_failed_eq_self_iff (h : Hasher) {x : Value} {e : Failure}
    (hf : (h.update x).2 = .error e) : (h.update x).1 = h ↔ ∀ t, x ≠ .str t := by
  cases x with
  | str t =>
    by_cases ht : t.isEmpty
    · simp [update, ht] at hf
    · have hpos : 0 < t.length := by
        rw [String.isEmpty_iff] at ht
        exact Nat.pos_of_ne_zero fun h0 => ht (String.length_eq_zero_iff.mp h0)
      simp only [update, if_neg ht]
      exact ⟨fun heq => absurd heq (count_ne h hpos), fun hall => absurd rfl (hall t)⟩
  | _ => simp [update]

end Sha2.Hasher

/-! ## Families -/

namespace Family

/-- Putting a hasher in the current position, which names a member, leaves the
family as it was exactly when it is the current member. -/
theorem setHasher_eq_self_iff {f : Family} (hcur : f.current < f.members.length) (x : Hasher) :
    f.setHasher x = f ↔ x = f.hasher := by
  constructor
  · intro heq
    rw [← hasher_setHasher hcur x, heq]
  · rintro rfl
    exact setHasher_hasher f

theorem refuses_sha2 (h : Sha2.Hasher) (x : Value) :
    (Hasher.sha2 h).refuses x = true ↔ ∀ t, x ≠ .str t := by
  cases x <;> simp [Hasher.refuses]

/-- A failed update leaves the family as it was exactly when the current member
refuses the part. -/
theorem update_failed_eq_self_iff {f : Family} (hcur : f.current < f.members.length) {x : Value}
    {e : Failure} (hf : (f.update x).2 = .error e) : (f.update x).1 = f ↔ f.hasher.refuses x = true := by
  unfold update at hf ⊢
  generalize hh : f.hasher = h at hf ⊢
  cases h with
  | md5 s =>
    dsimp only at hf ⊢
    rw [setHasher_eq_self_iff hcur, hh, Hasher.md5.injEq]
    simpa [Hasher.refuses] using Buffered.update_failed_eq_self_iff Design.md5 s hf
  | sha1 s =>
    dsimp only at hf ⊢
    rw [setHasher_eq_self_iff hcur, hh, Hasher.sha1.injEq]
    simpa [Hasher.refuses] using Buffered.update_failed_eq_self_iff Design.sha1 s hf
  | sha2 h =>
    dsimp only at hf ⊢
    rw [setHasher_eq_self_iff hcur, hh, Hasher.sha2.injEq, refuses_sha2]
    exact Sha2.Hasher.update_failed_eq_self_iff h hf

/-- A failed update of the current member of a family leaves the family as it
was exactly when the member refuses the part before counting it, and it never
changes another member. -/
theorem failed_update_unchanged_iff_refused {f : Family} (hcur : f.current < f.members.length)
    {x : Value} {e : Failure} (hf : (f.step (.update x)).2 = .error e) :
    ((f.step (.update x)).1 = f ↔ f.hasher.refuses x = true) ∧
      ∀ j, j ≠ f.current → (f.step (.update x)).1.members[j]? = f.members[j]? := by
  have hstep : f.step (.update x) = ((f.update x).1, (f.update x).2.map fun () => .none) := rfl
  have hfail : (f.update x).2 = .error e := by
    rw [hstep] at hf
    cases hr : (f.update x).2 with
    | ok u => rw [hr] at hf; cases hf
    | error e' => rw [hr] at hf; cases hf; rfl
  refine ⟨by rw [hstep]; exact update_failed_eq_self_iff hcur hfail, fun j hj => ?_⟩
  rw [step_update_fst hcur]
  simp [setHasher, List.getElem?_set_ne (Ne.symm hj)]

/-- The SHA-256 hasher of a fresh family, updated with a text: the update counts
the text's eight bits and then fails on reading its character as a byte, so the
family is not as it was, and its next digest is that of one byte. -/
theorem text_update_counted_then_fails :
    (fresh (.sha2 .sha256)).step (.update (.str "a")) =
        (⟨[.sha2 ⟨.sha256, 8, 0⟩], 0, Sha2.Hasher.freshBlock .sha256⟩,
          .error (.typeError "a bytes-like object is required, not 'str'")) ∧
      ((fresh (.sha2 .sha256)).step (.update (.str "a"))).1 ≠ fresh (.sha2 .sha256) := by
  have hstep : (fresh (.sha2 .sha256)).step (.update (.str "a")) =
      (⟨[.sha2 ⟨.sha256, 8, 0⟩], 0, Sha2.Hasher.freshBlock .sha256⟩,
        .error (.typeError "a bytes-like object is required, not 'str'")) := rfl
  refine ⟨hstep, fun heq => ?_⟩
  rw [hstep] at heq
  have hmembers := congrArg Family.members heq
  simp [fresh, Hasher.fresh, Sha2.Hasher.fresh] at hmembers

/-- The same update, read through `failed_update_unchanged_iff_refused`: the member does
not refuse a text, so the family changes. -/
theorem failed_update_unchanged_iff_refused_text :
    (fresh (.sha2 .sha256)).current < (fresh (.sha2 .sha256)).members.length ∧
      ((fresh (.sha2 .sha256)).step (.update (.str "a"))).2 =
        .error (.typeError "a bytes-like object is required, not 'str'") ∧
      ((((fresh (.sha2 .sha256)).step (.update (.str "a"))).1 = fresh (.sha2 .sha256) ↔
          (fresh (.sha2 .sha256)).hasher.refuses (.str "a") = true) ∧
        ∀ j, j ≠ (fresh (.sha2 .sha256)).current →
          ((fresh (.sha2 .sha256)).step (.update (.str "a"))).1.members[j]? =
            (fresh (.sha2 .sha256)).members[j]?) :=
  ⟨by decide, rfl, failed_update_unchanged_iff_refused (by decide) rfl⟩

end Family

end Basis.Digest
