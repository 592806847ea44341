import Basis.Marshal.Chunked
import Basis.Proofs.Marshal.RoundTrip

/-!
# The buffered reader and the direct reader

`Basis.Marshal.loads` reads a text directly and fails with `EOFError` as soon
as a read reaches past the end; `Chunked.loads` reads it through a buffer
whose reads are cut short at the end and never fail. On every read that stays
inside the text the two take the same characters, and they part ways on the
reads that run past it:

* `Chunked.run_read`: a buffered read from a position inside the text gives
  the characters that are there, as many as asked or fewer.
* `Chunked.run_readLong_word`: four characters that spell a 32-bit word read
  back as its integer, as they do for the direct reader
  (`Basis.Marshal.run_readLong_word`).
* `run_readSlice_text`: the direct read of `n` characters gives them when the
  text has them and fails with `EOFError` otherwise.

`stringRecord_readers` puts them together on a string record, the code `s`,
a count `n` and the characters after it. The buffered reader returns the
first `n` of those characters, however few there are, and moves past all `n`;
the direct reader returns the same string when all `n` are there and fails
with `EOFError` when they are not. The two agree exactly on complete records.
-/

namespace Basis.Marshal

/-- The input the direct reader makes of a text: a one-character text for each
character. -/
def textInput (text : List Char) : Input :=
  ⟨(text.map fun c => Value.str (String.singleton c)).toArray, .str (String.ofList text)⟩

theorem inputOf_ofList (text : List Char) : inputOf (.str (String.ofList text)) = .ok (textInput text) := by
  rw [inputOf_str, String.toList_ofList]
  rfl

theorem spells_textInput (text : List Char) : Spells (textInput text) 0 text := by
  have h := spells_toList (String.ofList text)
  rw [String.toList_ofList] at h
  exact h

@[simp] theorem size_textInput (text : List Char) : (textInput text).items.size = text.length := by
  simp [textInput]

/-- Cutting a text between a position and `n` characters further on, bounds
clamped to the text, keeps the `n` characters from the position that there are. -/
theorem cut_clampBound (text : List Char) (p n : Nat) :
    Value.cut text (clampBound text.length p)
      (max (clampBound text.length p) (clampBound text.length ((p + n : Nat) : Int))) =
      (text.drop p).take n := by
  have hc : ∀ i : Nat, clampBound text.length i = min i text.length := by
    intro i
    have hi : ¬ (i : Int) < 0 := by omega
    simp [clampBound, hi]
  rw [hc, hc, Nat.max_eq_right (by omega), Value.cut, List.drop_take]
  by_cases hp : p ≤ text.length
  · rw [Nat.min_eq_left hp, List.take_eq_take_iff]
    simp only [List.length_drop]
    omega
  · rw [Nat.min_eq_right (by omega), List.drop_eq_nil_of_le (by omega),
      List.drop_eq_nil_of_le (by omega)]
    simp

/-- The direct read of `n` characters from inside a text: those characters
when the text has them all, else `EOFError`. -/
theorem run_readSlice_text (text : List Char) (p n : Nat) (I : List Value) :
    (readSlice (textInput text) n).run ⟨p, I⟩ =
      if text.length < p + n then .error eof
      else .ok (.str (String.ofList ((text.drop p).take n)), ⟨p + n, I⟩) := by
  by_cases hlt : text.length < p + n
  · have hi : ((text.length : Nat) : Int) < (p : Int) + (n : Int) := by omega
    rw [if_pos hlt]
    simp [readSlice, textInput, hi]
    rfl
  · have hi : ¬ ((text.length : Nat) : Int) < (p : Int) + (n : Int) := by omega
    have hslice : (textInput text).slice p (p + n) = .ok (.str (String.ofList ((text.drop p).take n))) := by
      have hcut := cut_clampBound text p n
      simp only [Input.slice, textInput, List.size_toArray, List.length_map, Value.slice,
        String.toList_ofList]
      rw [← Int.natCast_add, hcut]
    rw [if_neg hlt]
    simp [readSlice, hi, hslice]

theorem loadContents_string (inp : Input) (next : Reader Value) (budget : Nat) :
    loadContents inp next budget 's' = (do readSlice inp (← readLong inp)) := rfl

namespace Chunked

/-- A buffered read from a position inside the text gives the next `n`
characters there are and moves past all `n`. -/
theorem run_read (text : List Char) (p n : Nat) (I : List Value) :
    (read text n).run ⟨p, I⟩ = .ok ((text.drop p).take n, ⟨((p + n : Nat) : Int), I⟩) := by
  have hcut := cut_clampBound text p n
  simp [read]
  rw [← Int.natCast_add, hcut]
  rfl

theorem loadContents_string (text : List Char) (next : Reader Value) (budget : Nat) :
    loadContents text next budget 's' = (do
      let s ← read text (← readLong text)
      pure (.str (String.ofList s))) := rfl

/-- Four characters that spell a 32-bit word read back as its integer. -/
theorem run_readLong_word {text : List Char} {p : Nat} {x : Int} (hlo : -2 ^ 31 ≤ x) (hhi : x < 2 ^ 31)
    (h : (text.drop p).take 4 = (word x).chars) (I : List Value) :
    (readLong text).run ⟨p, I⟩ = .ok (x, ⟨((p + 4 : Nat) : Int), I⟩) := by
  have hcodes : ((List.range 4).mapM fun k => Char.toNat <$> charAt (word x).chars k) =
      .ok ((word x).chars.map Char.toNat) := by
    simp [word, Piece.chars, charAt, List.range_succ]
    rfl
  have hread := run_read text p 4 I
  rw [Nat.cast_ofNat] at hread
  rw [readLong, run_bind_of_run hread, h, run_bind_of_run (run_liftM_of_ok hcodes _),
    signedOf_word hlo hhi]
  rfl

end Chunked

/-! ## String records -/

/-- A string record: the code `s`, a count as a 32-bit word, then the
characters that follow. -/
def stringRecord (n : Nat) (rest : List Char) : List Char := 's' :: (word n).chars ++ rest

theorem length_stringRecord (n : Nat) (rest : List Char) :
    (stringRecord n rest).length = 5 + rest.length := by
  simp [stringRecord]
  omega

theorem drop_stringRecord (n : Nat) (rest : List Char) : (stringRecord n rest).drop 5 = rest := by
  show ((word n).chars ++ rest).drop 4 = rest
  exact List.drop_left' (length_chars_word n)

/-- On a string record the buffered reader returns the first `n` characters
after the count, however few there are, and moves past all `n`; the direct
reader returns the same string when the record holds all `n` and fails with
`EOFError` when it does not. -/
theorem stringRecord_readers (n : Nat) (hn : n < 2 ^ 31) (rest : List Char) (fuel : Nat)
    (I : List Value) :
    (Chunked.load (stringRecord n rest) (fuel + 1)).run ⟨0, I⟩ =
        .ok (.str (String.ofList (rest.take n)), ⟨5 + n, I⟩) ∧
      (load (textInput (stringRecord n rest)) (fuel + 1)).run ⟨0, I⟩ =
        if n ≤ rest.length then .ok (.str (String.ofList (rest.take n)), ⟨5 + n, I⟩) else .error eof := by
  have hword : ((stringRecord n rest).drop 1).take 4 = (word n).chars :=
    List.take_left' (length_chars_word _)
  have hlo : -2 ^ 31 ≤ (n : Int) := by omega
  have hhi : (n : Int) < 2 ^ 31 := by omega
  constructor
  · -- the buffered reader: its code, its count, then a chunk cut at the end of the text
    have hcode := Chunked.run_read (stringRecord n rest) 0 1 I
    have hcount := Chunked.run_readLong_word hlo hhi hword I
    have hchunk := Chunked.run_read (stringRecord n rest) 5 n I
    rw [drop_stringRecord] at hchunk
    simp only [Nat.cast_zero, Nat.cast_one, Nat.zero_add, Nat.reduceAdd, Nat.cast_ofNat,
      Nat.cast_add] at hcode hcount hchunk
    rw [Chunked.load, run_bind_of_run hcode]
    show (Chunked.loadContents _ _ _ 's').run ⟨1, I⟩ = _
    rw [Chunked.loadContents_string, run_bind_of_run hcount, run_bind_of_run hchunk]
    rfl
  · -- the direct reader: the same code and count, then a slice that must fit the text
    have hsp := spells_textInput (stringRecord n rest)
    have hcount : Spells (textInput (stringRecord n rest)) (0 + 1) (word n).chars :=
      (spells_append.mp (spells_cons.mp hsp).2).1
    have h5 : (0 : Int) + 1 + 4 = ((5 : Nat) : Int) := rfl
    rw [run_load_succ hsp, loadContents_string, run_bind_of_run (run_readLong_word hlo hhi hcount I), h5,
      run_readSlice_text, length_stringRecord, drop_stringRecord]
    by_cases hle : n ≤ rest.length
    · rw [if_neg (by omega), if_pos hle]
      push_cast
      rfl
    · rw [if_pos (by omega), if_neg hle]

/-- Read from the front of a text, a string record gives the buffered reader
the characters there are and the direct reader the same string or `EOFError`. -/
theorem loads_stringRecord (n : Nat) (hn : n < 2 ^ 31) (rest : List Char) :
    Chunked.loads (String.ofList (stringRecord n rest)) = .ok (.str (String.ofList (rest.take n))) ∧
      loads (.str (String.ofList (stringRecord n rest))) =
        if n ≤ rest.length then .ok (.str (String.ofList (rest.take n))) else .error eof := by
  have hfuel : 2 * (stringRecord n rest).length + 1000 = (2 * (stringRecord n rest).length + 999) + 1 := rfl
  obtain ⟨hbuffered, hdirect⟩ := stringRecord_readers n hn rest (2 * (stringRecord n rest).length + 999) []
  constructor
  · rw [Chunked.loads, String.toList_ofList, String.length_ofList, hfuel, StateT.run'_eq, hbuffered]
    rfl
  · rw [loads, inputOf_ofList]
    simp only [bind, Except.bind, size_textInput, hfuel, StateT.run'_eq, hdirect]
    split <;> rfl

example : Chunked.loads (String.ofList (stringRecord 5 ['a', 'b'])) = .ok (.str "ab") ∧
    loads (.str (String.ofList (stringRecord 5 ['a', 'b']))) = .error eof := by
  obtain ⟨hbuffered, hdirect⟩ := loads_stringRecord 5 (by decide) ['a', 'b']
  exact ⟨hbuffered, by rw [hdirect]; rfl⟩

end Basis.Marshal
