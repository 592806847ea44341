import Basis.Proofs.Marshal.Readers

/-!
# Negative counts move the reader back

A string record is the code `s` and a count, a signed 32-bit word, followed by
that many characters. The reader checks only that the end of the string does
not lie past the end of the text. A negative count passes that check: the
record reads as the empty string, and the reader's position moves back by the
count (`run_readSlice_back`, `load_string_back`). So the position does not grow
with every value read, and a reading can come back to where it was.

A mapping whose key and value are both a record that points back to its own
start never reaches its closing mark. Every entry leaves the reader where the
entry began and the mapping as it was, so the reading goes on until its budget
is spent, however large the budget (`loadEntries_back_loop`), and `loads`
answers the out-of-budget failure (`loads_dict_back`). Read from the front of a
text, a record of count `-1` is the empty string (`loads_string_minus_one`).
-/

namespace Basis.Marshal

/-- A slice bound inside the text is kept as it is. -/
theorem clampBound_of_le {n : Nat} {i : Int} (h0 : 0 ≤ i) (h : i ≤ n) : clampBound n i = i.toNat := by
  have hneg : ¬i < 0 := by omega
  simp only [clampBound, hneg, if_false]
  omega

/-- A read of a negative count `n` that stays inside the text gives the empty
string and moves the reader back by `-n`. -/
theorem run_readSlice_back (text : List Char) {q n : Int} (hq : q ≤ text.length) (hn : n < 0)
    (hback : 0 ≤ q + n) (I : List Value) :
    (readSlice (textInput text) n).run ⟨q, I⟩ = .ok (.str "", ⟨q + n, I⟩) := by
  have hstart : clampBound text.length q = q.toNat := clampBound_of_le (by omega) hq
  have hstop : clampBound text.length (q + n) = (q + n).toNat := clampBound_of_le hback (by omega)
  have hmax : max q.toNat (q + n).toNat = q.toNat := Nat.max_eq_left (by omega)
  have hslice : (textInput text).slice q (q + n) = .ok (.str "") := by
    simp only [Input.slice, textInput, List.size_toArray, List.length_map, hstart, hstop, hmax,
      Value.slice, String.toList_ofList, Value.cut]
    simp
  have hfit : ¬((text.length : Int) < q + n) := by omega
  simp [readSlice, hfit, hslice]

/-- The items of a text spell, from any position, the characters from there on. -/
theorem spells_drop (text : List Char) (p : Nat) : Spells (textInput text) p (text.drop p) := by
  by_cases hle : p ≤ text.length
  · have h : Spells (textInput text) 0 (text.take p ++ text.drop p) := by
      rw [List.take_append_drop]
      exact spells_textInput text
    have hp : (0 : Int) + ((text.take p).length : Nat) = p := by simp [hle]
    rw [spells_append, hp] at h
    exact h.2
  · rw [List.drop_eq_nil_of_le (by omega)]
    exact spells_nil _ _

/-- `loads` of a text runs the reader on its characters from the front, with a
budget of twice the text's length and a thousand more. -/
theorem loads_ofList (text : List Char) :
    loads (.str (String.ofList text)) = (load (textInput text) (2 * text.length + 1000)).run' ⟨0, []⟩ := by
  rw [loads, inputOf_ofList]
  simp only [bind, Except.bind, size_textInput]

/-- A string record of negative count `n` at position `p`, whose count points
back inside the text, reads as the empty string and leaves the reader at
`p + 5 + n`, before the end of the record. -/
theorem load_string_back (text : List Char) {p : Nat} {n : Int} (hlo : -2 ^ 31 ≤ n) (hn : n < 0)
    (hrec : (text.drop p).take 5 = 's' :: (word n).chars) (hback : 0 ≤ (p : Int) + 5 + n)
    (fuel : Nat) (I : List Value) :
    (load (textInput text) (fuel + 1)).run ⟨p, I⟩ = .ok (.str "", ⟨p + 5 + n, I⟩) := by
  have hsp : Spells (textInput text) p ('s' :: (word n).chars) := by
    have h := spells_drop text p
    rw [← List.take_append_drop 5 (text.drop p), spells_append, hrec] at h
    exact h.1
  have hlen : p + 5 ≤ text.length := by
    have h := congrArg List.length hrec
    simp at h
    omega
  have hcount : Spells (textInput text) (p + 1) (word n).chars := (spells_cons.mp hsp).2
  rw [run_load_succ hsp, loadContents_string,
    run_bind_of_run (run_readLong_word hlo (by omega) hcount I),
    run_readSlice_back text (by omega) hn (by omega) I, show (p : Int) + 1 + 4 = p + 5 by ring]

/-! ## A mapping that never closes -/

/-- A mapping whose key is a string record of count `-5`, which points back to
the record's own code. -/
def backLoop : List Char := '{' :: 's' :: (word (-5)).chars

/-- The record at position 1 of `backLoop` reads as the empty string and leaves
the reader at position 1 again. -/
theorem load_backLoop_record (fuel : Nat) (I : List Value) :
    (load (textInput backLoop) (fuel + 1)).run ⟨1, I⟩ = .ok (.str "", ⟨1, I⟩) := by
  have h := load_string_back backLoop (p := 1) (n := -5) (by norm_num) (by norm_num) rfl (by norm_num)
    fuel I
  norm_num at h
  exact h

/-- Every entry of `backLoop` reads the empty string as its key and as its
value, and leaves the reader at position 1 with the one entry `"" : ""`: so the
reading of its entries ends by running out of budget, whatever the budget. -/
theorem loadEntries_back_loop (fuel budget : Nat) (I : List Value) {acc : List (Value × Value)}
    (hacc : acc = [] ∨ acc = [(.str "", .str "")]) :
    (loadEntries (load (textInput backLoop) (fuel + 1)) budget acc).run ⟨1, I⟩ = .error tooDeep := by
  induction budget generalizing acc with
  | zero => rfl
  | succ budget ih =>
    have hput : Value.putEntry acc (.str "") (.str "") = .ok [(.str "", .str "")] := by
      rcases hacc with rfl | rfl
      · exact putEntry_fresh rfl (by simp)
      · simp [Value.putEntry, Value.equals, Value.unhashable?]
    rw [run_loadEntries_cons (load_backLoop_record fuel I) (by simp [nullMark])
      (load_backLoop_record fuel I) hput]
    exact ih (.inr rfl)

/-- Read from the front, `backLoop` ends with the failure of a spent budget:
its mapping never reaches a closing mark. -/
theorem loads_dict_back : loads (.str (String.ofList backLoop)) = .error tooDeep := by
  have hsp : Spells (textInput backLoop) 0 backLoop := spells_textInput backLoop
  have hfuel : 2 * backLoop.length + 1000 = 1011 + 1 := rfl
  rw [loads_ofList, hfuel, StateT.run'_eq, run_load_succ hsp, loadContents_dict, StateT.run_map,
    Int.zero_add, loadEntries_back_loop 1010 _ [] (.inl rfl)]
  rfl

/-- Read from the front of a text, a string record of count `-1` is the empty
string: the negative count is not refused. -/
theorem loads_string_minus_one : loads (.str (String.ofList ('s' :: (word (-1)).chars))) = .ok (.str "") := by
  have hrun := load_string_back ('s' :: (word (-1)).chars) (p := 0) (n := -1) (by norm_num) (by norm_num)
    rfl (by norm_num) 1009 []
  have hfuel : 2 * ('s' :: (word (-1)).chars).length + 1000 = 1009 + 1 := rfl
  rw [Nat.cast_zero] at hrun
  rw [loads_ofList, hfuel, StateT.run'_eq, hrun]
  rfl

end Basis.Marshal
