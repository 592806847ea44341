import Basis.Proofs.Calendar.Arithmetic

/-!
# A format keeps its directives

`strftime` hands the C library a format in which `%f`, `%z` and `%Z` are
already replaced: by the microsecond, the zone's offset and the zone's name.
The name is text the zone chooses and may hold `%`; each one is doubled, so
that the name is written as it is and no directive comes out of it.

A format is read a piece at a time, from the left (`scanFormat`): a `%` with
the character after it is one directive, `%%` standing for a `%` of the text;
a `%` that ends the format stands alone; any other character is itself.

* `scanFormat_append`: a text whose every `%` is paired is read the same in
  front of anything; the texts put in place of `%f`, `%z` and `%Z` are such
  texts, the name because its `%`s are doubled (`scanFormat_escapePercent`).
* `expandFormat_of_clock`: when the zone answers with a name and an offset,
  the format handed on is the original with each `%f`, `%z` and `%Z` replaced
  and every other piece written back as it was.
* `scanFormat_expand`: read again, it gives back the pieces of the original,
  the three directives turned into plain characters and escaped `%`s, so
  `directives_expand`: it asks for the directives of the original but those
  three.

`strftime_keeps_directives` states it for the times of day and the moments
whose zone answers.
-/

namespace Basis.Calendar

/-! ## Reading a format -/

/-- A piece of a format. -/
inductive FormatPiece where
  /-- A character other than `%`, written as it is. -/
  | literal (c : Char)
  /-- A `%` and the character after it. -/
  | pair (c : Char)
  /-- A `%` that ends the format. -/
  | trailing
  deriving DecidableEq, Repr

namespace FormatPiece

/-- The conversion a piece asks for: the character of a pair, but for `%%`,
which writes a `%`. -/
def directive? : FormatPiece → Option Char
  | literal _ => none
  | pair c => if c = '%' then none else some c
  | trailing => none

/-- What a piece becomes when `%f`, `%z` and `%Z` are replaced by given texts. -/
def expand (micro offset name : List Char) : FormatPiece → List Char
  | literal c => [c]
  | pair c => if c = 'f' then micro else if c = 'z' then offset else if c = 'Z' then name else ['%', c]
  | trailing => ['%']

end FormatPiece

/-- The pieces of a format, read from the left. -/
def scanFormat : List Char → List FormatPiece
  | [] => []
  | c :: rest =>
    if c = '%' then
      match rest with
      | [] => [.trailing]
      | d :: rest => .pair d :: scanFormat rest
    else .literal c :: scanFormat rest

/-- The directives of a format, in order. -/
def directives (f : List Char) : List Char := (scanFormat f).filterMap FormatPiece.directive?

/-- A text with each `%` doubled. -/
def escapePercent (s : List Char) : List Char := s.flatMap fun c => if c = '%' then ['%', '%'] else [c]

theorem scanFormat_cons_of_ne {c : Char} (h : c ≠ '%') (rest : List Char) :
    scanFormat (c :: rest) = .literal c :: scanFormat rest := by
  cases rest <;> simp [scanFormat, h]

/-- A text whose last `%` is paired is read the same in front of anything. -/
theorem scanFormat_append {a : List Char} (h : .trailing ∉ scanFormat a) (b : List Char) :
    scanFormat (a ++ b) = scanFormat a ++ scanFormat b := by
  fun_induction scanFormat a with
  | case1 => rfl
  | case2 => simp at h
  | case3 d rest ih =>
    simp only [List.mem_cons, reduceCtorEq, false_or] at h
    simp [scanFormat, ih h]
  | case4 c rest hc ih =>
    simp only [List.mem_cons, reduceCtorEq, false_or] at h
    rw [List.cons_append, scanFormat_cons_of_ne hc, ih h, List.cons_append]

/-- A text without `%` is read as its characters. -/
theorem scanFormat_of_not_mem {a : List Char} (h : '%' ∉ a) : scanFormat a = a.map .literal := by
  induction a with
  | nil => rfl
  | cons c rest ih =>
    rw [List.mem_cons, not_or] at h
    rw [scanFormat_cons_of_ne (Ne.symm h.1), ih h.2, List.map_cons]

/-- A text with its `%`s doubled is read as its characters, each `%` as `%%`. -/
theorem scanFormat_escapePercent (s : List Char) :
    scanFormat (escapePercent s) = s.map fun c => if c = '%' then .pair '%' else .literal c := by
  induction s with
  | nil => rfl
  | cons c rest ih =>
    have hcons : escapePercent (c :: rest) = (if c = '%' then ['%', '%'] else [c]) ++ escapePercent rest :=
      List.flatMap_cons
    by_cases hc : c = '%'
    · rw [hcons, if_pos hc, hc]
      simp [scanFormat, ih]
    · rw [hcons, if_neg hc, List.singleton_append, scanFormat_cons_of_ne hc, ih, List.map_cons, if_neg hc]

example : scanFormat (escapePercent ['5', '%', 'Z']) = [.literal '5', .pair '%', .literal 'Z'] := by decide

/-! ## The format handed on -/

theorem calc_map {α β : Type} (g : α → β) (x : Calc α) (zs : Zones) : (g <$> x) zs = (x zs).map g := rfl

theorem expandFormat_pair (o : Object) (d : Char) (rest : List Char) :
    expandFormat o ('%' :: d :: rest) =
      directiveText o d >>= fun text => expandFormat o rest >>= fun t => pure (text ++ t) := rfl

theorem expandFormat_cons_of_ne (o : Object) {c : Char} (h : c ≠ '%') (rest : List Char) :
    expandFormat o (c :: rest) = expandFormat o rest >>= fun t => pure (c :: t) := by
  simp [expandFormat, h]

section Clock

variable {zs : Zones} {o : Object} {c : Clock} {zone : Option Nat}

theorem microsecond_of_clock (ho : o = .time c zone ∨ ∃ d, o = .moment d c zone) :
    o.microsecond = c.micro := by
  rcases ho with rfl | ⟨d, rfl⟩ <;> rfl

theorem zoneOffsetText_of_clock (ho : o = .time c zone ∨ ∃ d, o = .moment d c zone) {off : Option Int}
    (hoff : zoneMinutes zone "utcoffset" zs = .ok off) : zoneOffsetText o zs = .ok (offsetText "" off) := by
  rcases ho with rfl | ⟨d, rfl⟩ <;> simp [zoneOffsetText, calc_bind, hoff, Except.bind, calc_pure]

theorem zoneNameText_of_clock (ho : o = .time c zone ∨ ∃ d, o = .moment d c zone) {s : String}
    (hname : zoneLabel zone zs = .ok (some s)) :
    zoneNameText o zs = .ok (String.ofList (escapePercent s.toList)) := by
  rcases ho with rfl | ⟨d, rfl⟩ <;> simp [zoneNameText, calc_bind, hname, Except.bind, calc_pure, escapePercent]

theorem directiveText_of_clock (ho : o = .time c zone ∨ ∃ d, o = .moment d c zone) {s : String}
    {off : Option Int} (hname : zoneLabel zone zs = .ok (some s))
    (hoff : zoneMinutes zone "utcoffset" zs = .ok off) (d : Char) :
    directiveText o d zs = .ok ((FormatPiece.pair d).expand (zeroPadded 6 c.micro).toList
      (offsetText "" off).toList (escapePercent s.toList)) := by
  unfold directiveText
  split
  · simp [FormatPiece.expand, microsecond_of_clock ho, calc_pure]
  · simp [FormatPiece.expand, calc_bind, zoneOffsetText_of_clock ho hoff, Except.bind, calc_pure]
  · simp [FormatPiece.expand, calc_bind, zoneNameText_of_clock ho hname, Except.bind, calc_pure]
  · next hf hz hZ => rw [FormatPiece.expand, if_neg hf, if_neg hz, if_neg hZ]; rfl

theorem expandFormat_of_clock (ho : o = .time c zone ∨ ∃ d, o = .moment d c zone) {s : String}
    {off : Option Int} (hname : zoneLabel zone zs = .ok (some s))
    (hoff : zoneMinutes zone "utcoffset" zs = .ok off) (f : List Char) :
    expandFormat o f zs = .ok ((scanFormat f).flatMap (FormatPiece.expand (zeroPadded 6 c.micro).toList
      (offsetText "" off).toList (escapePercent s.toList))) := by
  fun_induction scanFormat f with
  | case1 => rfl
  | case2 => rfl
  | case3 d rest ih =>
    rw [expandFormat_pair, calc_bind, directiveText_of_clock ho hname hoff d]
    rw [Except.bind, calc_bind, ih]
    simp [Except.bind, calc_pure]
  | case4 d rest hd ih =>
    rw [expandFormat_cons_of_ne o hd, calc_bind, ih]
    simp [Except.bind, calc_pure, FormatPiece.expand]

end Clock

/-! ## Reading the format handed on -/

section Texts

variable {micro offset : List Char}

/-- A replaced directive leaves no `%` standing alone. -/
theorem trailing_not_mem_expand_pair (hm : '%' ∉ micro) (hz : '%' ∉ offset) (s : List Char) (d : Char) :
    .trailing ∉ scanFormat ((FormatPiece.pair d).expand micro offset (escapePercent s)) := by
  simp only [FormatPiece.expand]
  split_ifs
  · simp [scanFormat_of_not_mem hm]
  · simp [scanFormat_of_not_mem hz]
  · simp only [scanFormat_escapePercent, List.mem_map, not_exists, not_and]
    intro c _
    split <;> simp
  · simp [scanFormat]

/-- Read again, the format handed on gives the pieces of the original, each
replaced directive read as the pieces of its text. -/
theorem scanFormat_expand (hm : '%' ∉ micro) (hz : '%' ∉ offset) (s f : List Char) :
    scanFormat ((scanFormat f).flatMap (FormatPiece.expand micro offset (escapePercent s))) =
      (scanFormat f).flatMap fun p => scanFormat (p.expand micro offset (escapePercent s)) := by
  fun_induction scanFormat f with
  | case1 => rfl
  | case2 => rfl
  | case3 d rest ih =>
    rw [List.flatMap_cons, scanFormat_append (trailing_not_mem_expand_pair hm hz s d), ih, List.flatMap_cons]
  | case4 d rest hd ih =>
    rw [List.flatMap_cons, List.flatMap_cons, FormatPiece.expand, List.singleton_append,
      scanFormat_cons_of_ne hd, ih, scanFormat_cons_of_ne hd]
    rfl

/-- Once replaced, `%f`, `%z` and `%Z` ask for nothing, and any other piece
for what it asked for. -/
theorem directives_expand_piece (hm : '%' ∉ micro) (hz : '%' ∉ offset) (s : List Char) (p : FormatPiece) :
    directives (p.expand micro offset (escapePercent s)) =
      ([p].filterMap FormatPiece.directive?).filter fun d => d ∉ ['f', 'z', 'Z'] := by
  cases p with
  | literal c =>
    by_cases hc : c = '%'
    · subst hc; rfl
    · rw [FormatPiece.expand, directives, scanFormat_cons_of_ne hc]
      rfl
  | pair c =>
    simp only [FormatPiece.expand]
    split_ifs with hcf hcz hcZ
    · simp [directives, scanFormat_of_not_mem hm, FormatPiece.directive?, hcf]
    · simp [directives, scanFormat_of_not_mem hz, FormatPiece.directive?, hcz]
    · -- the name: each `%` doubled reads as `%%`, which asks for nothing
      subst hcZ
      have hnone : ∀ x ∈ s, (FormatPiece.directive? ∘ fun c =>
          if c = '%' then FormatPiece.pair '%' else .literal c) x = none := by
        intro x _
        by_cases hx : x = '%' <;> simp [hx, FormatPiece.directive?]
      simp only [directives, scanFormat_escapePercent, List.filterMap_map]
      rw [List.filterMap_eq_nil_iff.2 hnone]
      rfl
    · have hkept : ∀ d ∈ [FormatPiece.pair c].filterMap FormatPiece.directive?, d ∉ ['f', 'z', 'Z'] := by
        by_cases hc : c = '%' <;> simp [FormatPiece.directive?, hc, hcf, hcz, hcZ]
      rw [List.filter_eq_self.2 (by simpa using hkept)]
      rfl
  | trailing => rfl

/-- The directives of the format handed on are those of the original but `%f`,
`%z` and `%Z`, in their order. -/
theorem directives_expand (hm : '%' ∉ micro) (hz : '%' ∉ offset) (s f : List Char) :
    directives ((scanFormat f).flatMap (FormatPiece.expand micro offset (escapePercent s))) =
      (directives f).filter fun d => d ∉ ['f', 'z', 'Z'] := by
  calc directives ((scanFormat f).flatMap (FormatPiece.expand micro offset (escapePercent s)))
      _ = (scanFormat f).flatMap fun p => directives (p.expand micro offset (escapePercent s)) := by
        rw [directives, scanFormat_expand hm hz, List.filterMap_flatMap]
        rfl
      _ = (scanFormat f).flatMap fun p =>
          ([p].filterMap FormatPiece.directive?).filter fun d => d ∉ ['f', 'z', 'Z'] := by
        simp only [directives_expand_piece hm hz]
      _ = (directives f).filter fun d => d ∉ ['f', 'z', 'Z'] := by
        rw [directives, ← List.filter_flatMap, ← List.filterMap_flatMap, List.flatMap_singleton']

end Texts

/-- A number written to a width holds no `%`. -/
theorem percent_not_mem_zeroPadded (w : Nat) (n : Int) : '%' ∉ (zeroPadded w n).toList := by
  intro h
  simp only [zeroPadded, String.toList_append, String.toList_ofList, List.mem_append,
    List.mem_replicate] at h
  rcases h with (h | h) | h
  · split at h <;> simp at h
  · exact absurd h.2 (by decide)
  · have hd := Nat.isDigit_of_mem_toDigits (b := 10) (by decide) (by decide) (by simpa using h)
    revert hd
    decide

/-- Nor does an offset written as `+HHMM`. -/
theorem percent_not_mem_offsetText (off : Option Int) : '%' ∉ (offsetText "" off).toList := by
  cases off with
  | none => simp [offsetText]
  | some m =>
    simp only [offsetText, String.toList_append, List.mem_append, not_or]
    refine ⟨⟨⟨?_, percent_not_mem_zeroPadded 2 _⟩, by simp⟩, percent_not_mem_zeroPadded 2 _⟩
    split <;> simp

/-! ## The format `strftime` hands on -/

/-- For a time of day or a moment whose zone answers with a name `s` and an
offset, `strftime` hands on the format with each `%f`, `%z` and `%Z` replaced by
the microsecond, the offset and the name with its `%`s doubled, every other
piece as it was; the directives it asks for are those of the format but the
three replaced. -/
theorem strftime_keeps_directives {zs : Zones} {o : Object} {c : Clock} {zone : Option Nat}
    (ho : o = .time c zone ∨ ∃ d, o = .moment d c zone) {s : String} {off : Option Int}
    (hname : zoneLabel zone zs = .ok (some s)) (hoff : zoneMinutes zone "utcoffset" zs = .ok off)
    (f : String) {t : TimeFields} (hyear : 1900 ≤ t.year) :
    let F := (scanFormat f.toList).flatMap
      (FormatPiece.expand (zeroPadded 6 c.micro).toList (offsetText "" off).toList (escapePercent s.toList))
    strftime o (.plain (.str f)) t zs = .ok (t.format (String.ofList F)) ∧
      directives F = (directives f.toList).filter fun d => d ∉ ['f', 'z', 'Z'] := by
  intro F
  have hfmt : expandFormat o f.toList zs = .ok F := expandFormat_of_clock ho hname hoff f.toList
  refine ⟨?_, directives_expand (percent_not_mem_zeroPadded 6 c.micro) (percent_not_mem_offsetText off)
    s.toList f.toList⟩
  simp [strftime, not_lt.2 hyear, calc_map, hfmt, Except.map]

/-- A zone named `a%Z`, ninety minutes east of universal time, and a format
with every kind of piece: the three replaced directives, a kept one, `%%` and a
`%` at the end. -/
theorem strftime_keeps_directives_percent_name :
    let zs : Zones :=
      #[{ answers := true, utcoffset := some (.delta ⟨0, 5400, 0⟩), name := some (.plain (.str "a%Z")) }]
    -- 1900-01-01 01:02:03, a Monday, the first day of the year, saving unknown
    let t : TimeFields := ⟨1900, 1, 1, 1, 2, 3, 0, 1, -1⟩
    let F := (scanFormat "%Z %H%%%z.%f%".toList).flatMap (FormatPiece.expand (zeroPadded 6 45).toList
      (offsetText "" (some 90)).toList (escapePercent "a%Z".toList))
    zoneLabel (some 0) zs = .ok (some "a%Z") ∧ zoneMinutes (some 0) "utcoffset" zs = .ok (some 90) ∧
      1900 ≤ t.year ∧
      strftime (.time ⟨1, 2, 3, 45⟩ (some 0)) (.plain (.str "%Z %H%%%z.%f%")) t zs =
        .ok (t.format (String.ofList F)) ∧
      directives F = (directives "%Z %H%%%z.%f%".toList).filter fun d => d ∉ ['f', 'z', 'Z'] :=
  ⟨rfl, rfl, by decide, strftime_keeps_directives (Or.inl rfl) rfl rfl "%Z %H%%%z.%f%" (by decide)⟩

end Basis.Calendar
