/-!
# Computations that succeeded

The library's functions compute in `Except`: a result, or the failure a
program raises. Most proofs about them start from a call that succeeded and
take it apart: a bind that succeeded ran its first computation to a result
(`bind_eq_ok`), and a map that succeeded mapped one (`map_eq_ok`).

A fold of steps that each keep a property of the accumulator keeps it over the
whole fold, whatever the failures it could have met (`foldlM_invariant`).
-/

namespace Basis

theorem bind_eq_ok {ε α β : Type} {x : Except ε α} {f : α → Except ε β} {b : β}
    (h : x >>= f = .ok b) : ∃ a, x = .ok a ∧ f a = .ok b := by
  cases x with
  | error e => cases h
  | ok a => exact ⟨a, rfl, h⟩

theorem map_eq_ok {α β ε : Type} {f : α → β} {m : Except ε α} {b : β} (h : f <$> m = .ok b) :
    ∃ a, m = .ok a ∧ b = f a := by
  cases m with
  | error e => cases h
  | ok a => exact ⟨a, rfl, (Except.ok.inj h).symm⟩

/-- A fold whose every step keeps a property of the accumulator, for the items
the fold meets, ends with the property when it starts with it. -/
theorem foldlM_invariant {ε α β : Type} {f : β → α → Except ε β} (Inv : β → Prop) :
    ∀ {xs : List α} {s s' : β}, (∀ x ∈ xs, ∀ t t', Inv t → f t x = .ok t' → Inv t') →
      Inv s → xs.foldlM f s = .ok s' → Inv s'
  | [], s, s', _, hs, h => by
    cases h
    exact hs
  | x :: xs, s, s', hf, hs, h => by
    rw [List.foldlM_cons] at h
    obtain ⟨t, ht, h⟩ := bind_eq_ok h
    exact foldlM_invariant Inv (fun y hy => hf y (List.mem_cons_of_mem x hy))
      (hf x List.mem_cons_self s t hs ht) h

end Basis
