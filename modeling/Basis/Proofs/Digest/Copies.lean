import Basis.Proofs.Digest.Standard

/-!
# Copies of hashers

A family (`Basis.Digest.Family`) is a hasher and the copies made from it. Its
MD5 and SHA-1 members share nothing: this file shows that a family of them
answers every run of requests as independent copies would (`Copies`), each
member keeping its own message, a copy starting from the message of the member
it copies, and a digest answering the digest of the current member's message.

* `Family.Tracks` relates a family to the copies it stands for; every request
  keeps it (`Tracks.step`), so the answers to a whole run are those of the copies
  (`Tracks.answers`).
* `md5_copies_independent`, `sha1_copies_independent`: from a fresh family, for
  messages of fewer than `2^29` bytes in all, and for SHA-1 when no digest taken
  has a zero word.

The SHA-2 members are not independent: they share the family's block buffer,
and a digest leaves its end mark there for the digests of the other members
(`sha256_digest_after_copy_digest`).
-/

namespace Basis.Digest

/-- A request on a family: an update with a text, a digest, a copy or a selection. -/
inductive Request where
  /-- Take in a text. -/
  | update (t : String)
  /-- The digest of the current member. -/
  | digest
  /-- Copy the current member and make the copy current. -/
  | copy
  /-- Make an earlier member current. -/
  | select (i : Int)

namespace Request

/-- The call a request makes on a family. -/
def call : Request → Call
  | update t => .update (.str t)
  | digest => .digest
  | copy => .copy
  | select i => .select i

/-- The text a request hands on, empty but for an update. -/
def text : Request → String
  | update t => t
  | _ => ""

end Request

/-- The number of characters a run of requests hands on. -/
def textLength : List Request → Nat
  | [] => 0
  | r :: rs => r.text.length + textLength rs

/-- The position a selection makes current among `n` members, if there is one;
negative positions count from the end. -/
def selected (n : Nat) (i : Int) : Option Nat :=
  let j := if i < 0 then i + n else i
  if 0 ≤ j ∧ j < n then some j.toNat else none

/-- Independent copies: the message of every member, and the current member. -/
structure Copies where
  /-- The messages, in the order in which the members were made. -/
  messages : List (List UInt8)
  /-- The position of the current member. -/
  current : Nat

namespace Copies

/-- The message of the current member. -/
def message (s : Copies) : List UInt8 := s.messages.getD s.current []

/-- The copies after a request. An update extends the current message, a copy
adds a member with the current message and makes it current, and a selection
makes an earlier member current. -/
def next (s : Copies) : Request → Copies
  | .update t => { s with messages := s.messages.set s.current (s.message ++ latin1 t) }
  | .digest => s
  | .copy => ⟨s.messages ++ [s.message], s.messages.length⟩
  | .select i =>
    match selected s.messages.length i with
    | some j => { s with current := j }
    | none => s

/-- The answer to a request; a digest is `hash` of the current message. -/
def answer (hash : List UInt8 → Value) (s : Copies) : Request → Except Failure Value
  | .update _ => .ok .none
  | .digest => .ok (hash s.message)
  | .copy => .ok (.int s.messages.length)
  | .select i => if (selected s.messages.length i).isSome then .ok (.int i) else .error .listIndex

/-- The answers to a run of requests. -/
def answers (hash : List UInt8 → Value) : Copies → List Request → List (Except Failure Value)
  | _, [] => []
  | s, r :: rs => s.answer hash r :: answers hash (s.next r) rs

/-- Every message, with `n` more characters, has a bit count below `2^32`. -/
def Fits (s : Copies) (n : Nat) : Prop := ∀ m ∈ s.messages, 8 * (m.length + n) < 2 ^ 32

theorem message_mem {s : Copies} (h : s.current < s.messages.length) : s.message ∈ s.messages := by
  simp [message, List.getD_eq_getElem?_getD, List.getElem?_eq_getElem h]

/-- A request keeps the bound for the characters that come after it. -/
theorem Fits.next {s : Copies} {r : Request} {n : Nat} (h : s.Fits (r.text.length + n))
    (hcur : s.current < s.messages.length) : (s.next r).Fits n := by
  have hmsg := h _ (message_mem hcur)
  cases r with
  | update t =>
    intro m hm
    rcases List.mem_or_eq_of_mem_set hm with hm | rfl
    · have := h m hm
      omega
    · simp only [Request.text, List.length_append, length_latin1] at hmsg ⊢
      omega
  | copy =>
    intro m hm
    rcases List.mem_append.mp hm with hm | hm
    · exact Nat.lt_of_le_of_lt (by simp [Request.text]) (h m hm)
    · rw [List.mem_singleton.mp hm]
      exact Nat.lt_of_le_of_lt (by simp [Request.text]) hmsg
  | digest => exact fun m hm => Nat.lt_of_le_of_lt (by simp [Request.text]) (h m hm)
  | select i =>
    simp only [Copies.next]
    split <;> exact fun m hm => Nat.lt_of_le_of_lt (by simp [Request.text]) (h m hm)

/-- Every message that a run of requests digests is `good`. -/
def DigestsAll (good : List UInt8 → Prop) : Copies → List Request → Prop
  | _, [] => True
  | s, r :: rs => (r = .digest → good s.message) ∧ DigestsAll good (s.next r) rs

theorem digestsAll_true (s : Copies) (rs : List Request) : s.DigestsAll (fun _ => True) rs := by
  induction rs generalizing s with
  | nil => trivial
  | cons r rs ih => exact ⟨fun _ => trivial, ih _⟩

end Copies

namespace Family

/-- The family after a run of calls. -/
def run (f : Family) (cs : List Call) : Family := cs.foldl (fun f c => (f.step c).1) f

/-- The answers of a family to a run of calls. -/
def answers (f : Family) : List Call → List (Except Failure Value)
  | [] => []
  | c :: cs => (f.step c).2 :: (f.step c).1.answers cs

/-- A family of hashers of algorithm `a` stands for the copies `s`: it has as many
members and the same current one, and every member holds its message. -/
structure Tracks (f : Family) (a : Algorithm) (s : Copies) : Prop where
  /-- One member for each message. -/
  length_eq : f.members.length = s.messages.length
  /-- The same current member. -/
  current_eq : f.current = s.current
  /-- The current position names a member. -/
  current_lt : s.current < s.messages.length
  /-- Every member is of the algorithm and holds its message. -/
  member_holds : ∀ i (x : Hasher), f.members[i]? = some x → x.algorithm = a ∧ x.Holds (s.messages.getD i [])

/-- A selection makes current the member that `selected` names. -/
theorem step_select (f : Family) (i : Int) :
    f.step (.select i) = match selected f.members.length i with
      | some j => ({ f with current := j }, .ok (.int i))
      | none => (f, .error .listIndex) := by
  simp only [step, selected]
  split <;> split <;> rfl

/-- An update replaces the current member, and nothing else. -/
theorem step_update_fst {f : Family} (hcur : f.current < f.members.length) (data : Value) :
    (f.step (.update data)).1 = f.setHasher (f.step (.update data)).1.hasher := by
  simp only [step, update]
  split <;> rw [hasher_setHasher hcur]

namespace Tracks

variable {f : Family} {a : Algorithm} {s : Copies}

theorem current_lt_length (h : f.Tracks a s) : f.current < f.members.length := by
  rw [h.length_eq, h.current_eq]
  exact h.current_lt

theorem getElem?_current (h : f.Tracks a s) : f.members[s.current]? = some f.hasher := by
  have hlt := h.current_lt_length
  rw [h.current_eq] at hlt
  simp [hasher, List.getD_eq_getElem?_getD, List.getElem?_eq_getElem hlt, h.current_eq]

/-- The current member holds the current message. -/
theorem holds (h : f.Tracks a s) : f.Holds a s.message where
  current_lt := h.current_lt_length
  algorithm_eq := (h.member_holds _ _ h.getElem?_current).1
  hasher_holds := (h.member_holds _ _ h.getElem?_current).2

/-- Replacing the current member by one holding `bs` replaces the current message. -/
theorem setHasher (h : f.Tracks a s) {x : Hasher} {bs : List UInt8} (hx : x.algorithm = a)
    (hbs : x.Holds bs) :
    (f.setHasher x).Tracks a { s with messages := s.messages.set s.current bs } where
  length_eq := by simp [Family.setHasher, h.length_eq]
  current_eq := h.current_eq
  current_lt := by simpa using h.current_lt
  member_holds := by
    intro i y hy
    simp only [Family.setHasher, List.getElem?_set, h.current_eq] at hy
    simp only [List.getD_eq_getElem?_getD, List.getElem?_set]
    by_cases hcur : s.current = i
    · -- the replaced member
      subst hcur
      have hlt := h.current_lt
      simp only [if_true, h.length_eq, hlt, Option.some.injEq] at hy
      subst hy
      simp [hlt, hx, hbs]
    · simp only [hcur, if_false] at hy ⊢
      simpa [List.getD_eq_getElem?_getD] using h.member_holds i y hy

/-- A copy of the current member joins the family with the current message. -/
theorem copy (h : f.Tracks a s) :
    (f.step .copy).1.Tracks a (s.next .copy) where
  length_eq := by simp [step, Copies.next, h.length_eq]
  current_eq := by simp [step, Copies.next, h.length_eq]
  current_lt := by simp [Copies.next]
  member_holds := by
    intro i y hy
    simp only [step, List.getElem?_append] at hy
    simp only [Copies.next, List.getD_eq_getElem?_getD, List.getElem?_append, ← h.length_eq]
    by_cases hold : i < f.members.length
    · simp only [hold, if_true] at hy ⊢
      simpa [List.getD_eq_getElem?_getD] using h.member_holds i y hy
    · -- the new member, a copy of the current one
      simp only [hold, if_false] at hy ⊢
      have hi : i - f.members.length = 0 := by
        by_contra hne
        simp [List.getElem?_eq_none (by simp; omega : [f.hasher].length ≤ i - f.members.length)] at hy
      simp only [hi, List.getElem?_cons_zero, Option.some.injEq] at hy ⊢
      subst hy
      exact ⟨h.holds.algorithm_eq, h.holds.hasher_holds⟩

/-- A selection moves the current member as it moves the current message. -/
theorem select (h : f.Tracks a s) (hash : List UInt8 → Value) (i : Int) :
    (f.step (.select i)).2 = s.answer hash (.select i) ∧
      (f.step (.select i)).1.Tracks a (s.next (.select i)) := by
  rw [step_select, h.length_eq]
  simp only [Copies.answer, Copies.next]
  cases hj : selected s.messages.length i with
  | none => exact ⟨rfl, h⟩
  | some j =>
    have hlt : j < s.messages.length := by
      simp only [selected] at hj
      split at hj <;> simp_all <;> omega
    exact ⟨rfl, { h with current_eq := rfl, current_lt := hlt }⟩

/-- An update with a text extends the current message by the text's bytes. -/
theorem update (h : f.Tracks a s) {t : String} (hchars : ∀ c ∈ t.toList, c.toNat < 256)
    (hsmall : 8 * (s.message.length + t.length) < 2 ^ 32) :
    (f.step (.update (.str t))).2 = .ok .none ∧
      (f.step (.update (.str t))).1.Tracks a (s.next (.update t)) := by
  obtain ⟨hr, hnew⟩ := h.holds.step_update hchars hsmall
  refine ⟨hr, ?_⟩
  have hcur := h.current_lt_length
  rw [step_update_fst hcur] at hnew ⊢
  have halg := hnew.algorithm_eq
  have hbs := hnew.hasher_holds
  rw [hasher_setHasher hcur] at halg hbs
  exact h.setHasher halg hbs

/-- One request on the family answers as on the copies, and the family goes on
standing for them. A digest answers `hash` of the current message when `good` holds of it. -/
theorem step {hash : List UInt8 → Value} {good : List UInt8 → Prop}
    (hdigest : ∀ (g : Family) (bs : List UInt8), g.Holds a bs → 8 * bs.length < 2 ^ 32 → good bs →
      g.step .digest = (g, .ok (hash bs)))
    (h : f.Tracks a s) (r : Request) {n : Nat} (hchars : ∀ c ∈ r.text.toList, c.toNat < 256)
    (hfits : s.Fits (r.text.length + n)) (hgood : r = .digest → good s.message) :
    (f.step r.call).2 = s.answer hash r ∧ (f.step r.call).1.Tracks a (s.next r) := by
  have hmsg := hfits _ (Copies.message_mem h.current_lt)
  cases r with
  | update t => exact h.update hchars (by simp only [Request.text] at hmsg; omega)
  | digest =>
    rw [Request.call, hdigest f s.message h.holds (by simp only [Request.text] at hmsg; omega) (hgood rfl)]
    exact ⟨rfl, h⟩
  | copy => exact ⟨by simp [Request.call, Family.step, Copies.answer, h.length_eq], h.copy⟩
  | select i => exact h.select hash i

/-- The answers of the family to a whole run are those of the copies. -/
theorem answers {hash : List UInt8 → Value} {good : List UInt8 → Prop}
    (hdigest : ∀ (g : Family) (bs : List UInt8), g.Holds a bs → 8 * bs.length < 2 ^ 32 → good bs →
      g.step .digest = (g, .ok (hash bs)))
    (h : f.Tracks a s) (rs : List Request) (hchars : ∀ r ∈ rs, ∀ c ∈ r.text.toList, c.toNat < 256)
    (hfits : s.Fits (textLength rs)) (hgood : s.DigestsAll good rs) :
    f.answers (rs.map Request.call) = s.answers hash rs := by
  -- the relation is carried request by request
  induction rs generalizing f s with
  | nil => rfl
  | cons r rs ih =>
    obtain ⟨hans, hnext⟩ := h.step hdigest r (hchars r List.mem_cons_self) hfits hgood.1
    rw [List.map_cons, Family.answers, Copies.answers, hans]
    exact congrArg _ (ih hnext (fun r' hr' => hchars r' (List.mem_cons_of_mem _ hr'))
      (hfits.next h.current_lt) hgood.2)

end Tracks

/-- A fresh MD5 or SHA-1 family stands for one empty message. -/
theorem tracks_fresh {a : Algorithm} (ha : a = .md5 ∨ a = .sha1) : (fresh a).Tracks a ⟨[[]], 0⟩ where
  length_eq := rfl
  current_eq := rfl
  current_lt := Nat.zero_lt_one
  member_holds := by
    intro i x hx
    have hholds := holds_fresh ha
    cases i with
    | zero =>
      cases hx
      exact ⟨hholds.algorithm_eq, hholds.hasher_holds⟩
    | succ i => simp [fresh] at hx

theorem fits_fresh {n : Nat} (h : 8 * n < 2 ^ 32) : Copies.Fits ⟨[[]], 0⟩ n := by
  simpa [Copies.Fits] using h

end Family

/-- Copies of an MD5 hasher are independent: however updates, copies, selections
and digests interleave, every digest is the MD5 digest of the current member's
own message, for messages of fewer than `2^29` bytes in all. -/
theorem md5_copies_independent (rs : List Request)
    (hchars : ∀ r ∈ rs, ∀ c ∈ r.text.toList, c.toNat < 256) (hsmall : 8 * textLength rs < 2 ^ 32) :
    (Family.fresh .md5).answers (rs.map Request.call) =
      Copies.answers (fun bs => .bytes ⟨(Md5.hash bs).toArray⟩) ⟨[[]], 0⟩ rs :=
  (Family.tracks_fresh (.inl rfl)).answers
    (fun _ _ hg hlen (_ : True) => hg.step_digest_md5 hlen) rs hchars (Family.fits_fresh hsmall)
    (Copies.digestsAll_true _ rs)

example : (Family.fresh .md5).answers
      ([.update "ab", .copy, .update "c", .select 0, .digest].map Request.call) =
    Copies.answers (fun bs => .bytes ⟨(Md5.hash bs).toArray⟩) ⟨[[]], 0⟩
      [.update "ab", .copy, .update "c", .select 0, .digest] :=
  md5_copies_independent _ (by simp [Request.text]) (by decide)

/-- Copies of a SHA-1 hasher are independent, as long as no digest taken has a zero word. -/
theorem sha1_copies_independent (rs : List Request)
    (hchars : ∀ r ∈ rs, ∀ c ∈ r.text.toList, c.toNat < 256) (hsmall : 8 * textLength rs < 2 ^ 32)
    (hne : Copies.DigestsAll (fun bs => ∀ w ∈ ((Sha1.blocks (Sha1.pad bs)).foldl
      (fun s blk => Sha1.compress s (Sha1.wordsBE blk)) Sha1.Chain.init).words, w ≠ 0) ⟨[[]], 0⟩ rs) :
    (Family.fresh .sha1).answers (rs.map Request.call) =
      Copies.answers (fun bs => .bytes ⟨(Sha1.hash bs).toArray⟩) ⟨[[]], 0⟩ rs :=
  (Family.tracks_fresh (.inr rfl)).answers
    (fun _ _ hg hlen hgood => hg.step_digest_sha1 hlen hgood) rs hchars (Family.fits_fresh hsmall) hne

/-- SHA-256 copies are not independent. A copy that has counted one byte leaves
the end mark of its digest in the block buffer it shares with the original, and
the original, having counted two bytes, then digests the bytes `00 80`: the same
hasher with the buffer it would have without the copy's digest, `00 00`, gives
another digest. -/
theorem sha256_digest_after_copy_digest :
    let f := Family.fresh (.sha2 .sha256)
    let marked := f.run [.copy, .update (.str "a"), .digest, .select 0, .update (.str "ab")]
    let unmarked := f.run [.copy, .update (.str "a"), .select 0, .update (.str "ab")]
    marked.hasher = .sha2 ⟨.sha256, 16, 0⟩ ∧ unmarked.hasher = .sha2 ⟨.sha256, 16, 0⟩ ∧
      marked.block.take 2 = [0, 0x80] ∧ unmarked.block.take 2 = [0, 0] ∧
      (Sha2.Hasher.digest ⟨.sha256, 16, 0⟩ marked.block).2 ≠
        (Sha2.Hasher.digest ⟨.sha256, 16, 0⟩ unmarked.block).2 :=
  ⟨rfl, rfl, by decide +kernel, by decide +kernel, by decide +kernel⟩

end Basis.Digest
