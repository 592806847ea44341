import Basis.Preprocess.Run

/-!
# Conditional inclusion

The reader of a file's lines keeps a flag saying whether output is enabled,
one saying whether a branch of the innermost conditional was taken, and a
stack of the two for the conditionals around it; a conditional inside a
disabled branch pushes flags that no test has set. This file shows that on
conditionals nested as C writes them the flags select the lines C selects.

Lines whose conditionals nest are a list of blocks (`Block`): a plain line,
or a conditional made of the line opening it with the blocks of its first
branch, its later branches, each an `#elif` or `#else` line with the blocks it
guards, and the `#endif` line closing it. `readBlocks` reads blocks by the
rule of C: of a conditional, the tests of the branches are made in order
(`branchHolds`) and the first branch whose test holds is read, nothing else of
the conditional (`Block.read_cond`); a plain line is read as the reader reads
it with output enabled.

* `advance_blocks_disabled`: where output is disabled, the lines of
  well-formed blocks change nothing: no test is made, no macro defined,
  nothing printed.
* `advance_blocks_within`: where output is enabled, reading the lines of
  well-formed blocks is reading the blocks by the rule of C.
* `conditional_inclusion`: hence preprocessing a file whose lines are
  well-formed blocks defines the macro naming the file and reads its blocks
  by the rule of C. A text line is passed on, and a `#define`, `#undef` or
  `#include` line takes effect, exactly when C selects it.
-/

namespace Basis.Preprocess

open Cpp

/-! ## Directive lines -/

/-- The name token and the arguments of a directive line: its first token
after blanks is `#`, and a name follows. -/
def directiveOf (line : List Token) : Option (Token × List Token) :=
  match line.dropWhile Token.isSpace with
  | t :: rest =>
    if t.text == "#" then
      match strip rest with
      | d :: more => some (d, strip more)
      | [] => none
    else none
  | [] => none

/-- The conditional directives. -/
def conditionalNames : List String := ["if", "ifdef", "ifndef", "elif", "else", "endif"]

/-- The conditional directive a line is, if it is one. -/
def conditionalOf (line : List Token) : Option String :=
  match directiveOf line with
  | some (d, _) => if d.text ∈ conditionalNames then some d.text else none
  | none => none

/-- The directives that open a conditional. -/
def openingNames : List String := ["if", "ifdef", "ifndef"]

/-- Whether a line opens a conditional. -/
def opensConditional (line : List Token) : Bool :=
  match conditionalOf line with
  | some n => openingNames.contains n
  | none => false

/-- Whether the test of a branch holds, its directive named `name` with
arguments `args`: `#ifdef NAME` when `NAME` is a macro, `#ifndef NAME` when it
is not, `#if` and `#elif` when their condition holds, `#else` always. -/
def testHolds (name : String) (args : List Token) : Cpp Bool :=
  if name == "ifdef" || name == "ifndef" then
    match args with
    | a :: _ => return (← lookup a.text).isSome == (name == "ifdef")
    | [] => throw .listIndex
  else if name == "if" || name == "elif" then conditionHolds args
  else return true

/-- Whether the test of a branch's directive line holds. -/
def branchHolds (line : List Token) : Cpp Bool :=
  match directiveOf line with
  | some (d, args) => testHolds d.text args
  | none => return true

theorem directiveOf_of_conditionalOf {l : List Token} {n : String} (h : conditionalOf l = some n) :
    ∃ d args, directiveOf l = some (d, args) ∧ d.text = n := by
  unfold conditionalOf at h
  split at h
  · next d args hd =>
    split at h
    · cases h
      exact ⟨d, args, hd, rfl⟩
    · cases h
  · cases h

theorem directiveOf_of_later {l : List Token}
    (hl : conditionalOf l = some "elif" ∨ conditionalOf l = some "else") :
    ∃ d args, directiveOf l = some (d, args) ∧ (d.text = "elif" ∨ d.text = "else") := by
  rcases hl with h | h
  · obtain ⟨d, args, hd, hn⟩ := directiveOf_of_conditionalOf h
    exact ⟨d, args, hd, .inl hn⟩
  · obtain ⟨d, args, hd, hn⟩ := directiveOf_of_conditionalOf h
    exact ⟨d, args, hd, .inr hn⟩

/-- A line names a directive when its first non-blank token is `#` and a name
follows it; the arguments are what follows the name. -/
theorem directiveOf_eq_some {l : List Token} {d : Token} {args : List Token}
    (h : directiveOf l = some (d, args)) :
    ∃ t rest more, l.dropWhile Token.isSpace = t :: rest ∧ (t.text == "#") = true ∧
      strip rest = d :: more ∧ strip more = args := by
  unfold directiveOf at h
  split at h
  · next t rest hfirst =>
    split at h
    · next ht =>
      split at h
      · next d' more hname =>
        cases h
        exact ⟨t, rest, more, hfirst, ht, hname, rfl⟩
      · cases h
    · cases h
  · cases h

theorem branchHolds_of_directiveOf {l : List Token} {d : Token} {args : List Token}
    (h : directiveOf l = some (d, args)) : branchHolds l = testHolds d.text args := by
  simp [branchHolds, h]

/-! ## Blocks -/

/-- Lines grouped by the conditionals they nest in. -/
inductive Block where
  /-- A line that is not a conditional directive. -/
  | plain (line : List Token)
  /-- A conditional: the line opening it and the blocks of its first branch,
  its later branches, each a directive line with the blocks it guards, and
  the line closing it. -/
  | cond (opening : List Token) (body : List Block) (later : List (List Token × List Block))
      (close : List Token)

mutual
/-- The lines of a block, in order. -/
def Block.lines : Block → List (List Token)
  | .plain l => [l]
  | .cond opening body later close =>
    opening :: (linesOfBlocks body ++ (branchLines later ++ [close]))
/-- The lines of blocks, in order. -/
def linesOfBlocks : List Block → List (List Token)
  | [] => []
  | b :: bs => b.lines ++ linesOfBlocks bs
/-- The lines of a conditional's later branches, in order. -/
def branchLines : List (List Token × List Block) → List (List Token)
  | [] => []
  | (h, body) :: rest => h :: (linesOfBlocks body ++ branchLines rest)
end

mutual
/-- Whether a block's conditionals are written as C has them: opened by
`#if`, `#ifdef` or `#ifndef`, then any number of `#elif` branches and at most
one `#else` branch, the last, closed by `#endif`; the blocks inside well
formed too. -/
def Block.wellFormed : Block → Bool
  | .plain l => (conditionalOf l).isNone
  | .cond opening body later close =>
    opensConditional opening && wellFormedBlocks body && laterWellFormed later &&
      conditionalOf close == some "endif"
/-- Whether blocks are all well formed. -/
def wellFormedBlocks : List Block → Bool
  | [] => true
  | b :: bs => b.wellFormed && wellFormedBlocks bs
/-- Whether a conditional's later branches are `#elif` branches and at most
one `#else` branch, the last, each guarding well-formed blocks. -/
def laterWellFormed : List (List Token × List Block) → Bool
  | [] => true
  | (h, body) :: rest =>
    wellFormedBlocks body && match conditionalOf h with
      | some "elif" => laterWellFormed rest
      | some "else" => rest.isEmpty
      | _ => false
end

theorem laterWellFormed_cons {h : List Token} {body : List Block}
    {rest : List (List Token × List Block)} (hw : laterWellFormed ((h, body) :: rest) = true) :
    wellFormedBlocks body = true ∧ (conditionalOf h = some "elif" ∨ conditionalOf h = some "else") ∧
      laterWellFormed rest = true := by
  simp only [laterWellFormed, Bool.and_eq_true] at hw
  obtain ⟨hb, hh⟩ := hw
  refine ⟨hb, ?_⟩
  split at hh
  · next heq => exact ⟨.inl heq, hh⟩
  · next heq =>
    simp only [List.isEmpty_iff] at hh
    subst hh
    exact ⟨.inr heq, rfl⟩
  · cases hh

theorem Block.wellFormed_plain {l : List Token} :
    (Block.plain l).wellFormed = true ↔ conditionalOf l = none := by
  simp [Block.wellFormed]

theorem Block.wellFormed_cond {opening : List Token} {body : List Block}
    {later : List (List Token × List Block)} {close : List Token} :
    (Block.cond opening body later close).wellFormed = true ↔
      opensConditional opening = true ∧ wellFormedBlocks body = true ∧
        laterWellFormed later = true ∧ conditionalOf close = some "endif" := by
  simp [Block.wellFormed, and_assoc]

theorem wellFormedBlocks_cons {b : Block} {bs : List Block} :
    wellFormedBlocks (b :: bs) = true ↔ b.wellFormed = true ∧ wellFormedBlocks bs = true := by
  simp [wellFormedBlocks]

/-! ## The rule of C -/

/-- Where reading has got to: still reading, or stopped with the output full. -/
inductive Progress where
  /-- Still reading, in this state. -/
  | reading (r : Reading)
  /-- Stopped with this output. -/
  | full (output : Array String)

/-- Goes on reading with `k` unless the output is full. -/
def Progress.andThen (p : Progress) (k : Reading → Cpp Progress) : Cpp Progress :=
  match p with
  | .reading r => k r
  | .full out => return .full out

/-- The output once reading stops: what waits passed on, or the output that
filled up. -/
def Progress.finish : Progress → Cpp (Array String)
  | .reading r => return (← r.flush).1.output
  | .full out => return out

/-- A reading with output enabled, inside conditionals whose innermost has
taken a branch when `taken` says so, `outer` the states around it. -/
def Reading.within (r : Reading) (taken : Bool) (outer : List (Bool × Bool)) : Reading :=
  { r with enabled := true, taken, outer }

/-- Progress with its reading put inside conditionals, as `Reading.within`. -/
def Progress.within (taken : Bool) (outer : List (Bool × Bool)) : Progress → Progress
  | .reading r => .reading (r.within taken outer)
  | .full out => .full out

mutual
/-- Reads a block by the rule of C: a plain line as the reader reads it with
output enabled; of a conditional, the first branch whose test holds. -/
def Block.read : Block → Reading → Cpp Progress
  | .plain l, r => do
    let (r, full) ← { r with enabled := true }.line l
    return if full then .full r.output else .reading r
  | .cond opening body later _, r => do
    if ← branchHolds opening then readBlocks body r else readBranches later r
/-- Reads blocks in order by the rule of C, until the output is full. -/
def readBlocks : List Block → Reading → Cpp Progress
  | [], r => return .reading r
  | b :: bs, r => b.read r >>= (·.andThen (readBlocks bs))
/-- Reads the first of a conditional's later branches whose test holds. -/
def readBranches : List (List Token × List Block) → Reading → Cpp Progress
  | [], r => return .reading r
  | (h, body) :: rest, r => do
    if ← branchHolds h then readBlocks body r else readBranches rest r
end

theorem readBranches_eq_findM (later : List (List Token × List Block)) (r : Reading) :
    readBranches later r = do
      match ← later.findM? (fun b => branchHolds b.1) with
      | some b => readBlocks b.2 r
      | none => return .reading r := by
  induction later with
  | nil => simp [readBranches, List.findM?]
  | cons b rest ih =>
    obtain ⟨h, body⟩ := b
    simp only [readBranches, List.findM?, bind_assoc, ih]
    apply bind_congr
    intro c
    cases c <;> simp

/-- Of a conditional, the branch read is the first whose test holds, the tests
made in order and no further; none is read when no test holds. -/
theorem Block.read_cond (opening : List Token) (body : List Block)
    (later : List (List Token × List Block)) (close : List Token) (r : Reading) :
    (Block.cond opening body later close).read r = do
      match ← ((opening, body) :: later).findM? (fun b => branchHolds b.1) with
      | some b => readBlocks b.2 r
      | none => return .reading r := by
  rw [← readBranches_eq_findM]
  rfl

/-! ## Reading line by line -/

/-- Reads lines until the output is full, passing nothing on at the end. -/
def Reading.advance (r : Reading) : List (List Token) → Cpp Progress
  | [] => return .reading r
  | l :: ls => do
    let (r, full) ← r.line l
    if full then return .full r.output else r.advance ls

theorem Reading.advance_append (r : Reading) (ls ms : List (List Token)) :
    r.advance (ls ++ ms) = r.advance ls >>= (·.andThen (·.advance ms)) := by
  induction ls generalizing r with
  | nil => simp [Reading.advance, Progress.andThen]
  | cons l ls ih =>
    simp only [List.cons_append, Reading.advance, bind_assoc]
    apply bind_congr
    intro p
    split
    · simp [Progress.andThen]
    · exact ih _

/-- Reading a file's lines is advancing through them, then passing on what waits. -/
theorem Reading.lines_output (r : Reading) (ls : List (List Token)) :
    (·.output) <$> r.lines ls = r.advance ls >>= Progress.finish := by
  induction ls generalizing r with
  | nil => simp [Reading.lines, Reading.advance, Progress.finish]
  | cons l ls ih =>
    simp only [Reading.lines, Reading.advance, map_bind, bind_assoc]
    apply bind_congr
    intro p
    split
    · simp [Progress.finish]
    · exact ih _

/-! ## What each line does to the flags -/

theorem Reading.line_of_directiveOf {r : Reading} {l : List Token} {d : Token} {args : List Token}
    (h : directiveOf l = some (d, args)) : r.line l = r.directive d.line d.text args := by
  obtain ⟨t, rest, more, hfirst, ht, hname, rfl⟩ := directiveOf_eq_some h
  unfold Reading.line
  simp only [hfirst, ht, if_true, hname]

/-- A line that names no directive only adds its tokens to what waits, where
output is enabled; a lone `#` adds none. -/
theorem Reading.line_text {l : List Token} (h : directiveOf l = none) :
    ∃ w : Array Token, ∀ r : Reading,
      r.line l = pure (if r.enabled then { r with waiting := r.waiting ++ w } else r, false) := by
  unfold directiveOf at h
  split at h
  · next t rest heq =>
    split at h
    · next ht =>
      split at h
      · cases h
      · next hs =>
        refine ⟨#[], fun r => ?_⟩
        unfold Reading.line
        cases r
        simp [heq, ht, hs]
    · next ht =>
      refine ⟨l.toArray, fun r => ?_⟩
      unfold Reading.line
      simp only [heq, ht, Bool.false_eq_true, ↓reduceIte]
      split <;> rfl
  · next heq =>
    refine ⟨l.toArray, fun r => ?_⟩
    unfold Reading.line
    simp only [heq]
    split <;> rfl

theorem Reading.flush_within (r : Reading) (t : Bool) (o : List (Bool × Bool)) :
    (r.within t o).flush = (fun p => (p.1.within t o, p.2)) <$> r.flush := by
  simp only [Reading.flush, Reading.within, map_bind]
  congr 1
  funext ts
  by_cases h : (r.output ++ (ts.map (·.text)).toArray).size ≥ outputCap
  · simp only [h, ↓reduceIte, map_pure]
  · simp only [h, ↓reduceIte, map_pure]

theorem Reading.line_plain_disabled {r : Reading} {l : List Token} (hl : conditionalOf l = none)
    (he : r.enabled = false) : r.line l = pure (r, false) := by
  cases hd : directiveOf l with
  | some p =>
    obtain ⟨d, args⟩ := p
    rw [Reading.line_of_directiveOf hd]
    simp only [conditionalOf, hd, conditionalNames] at hl
    unfold Reading.directive
    split <;> simp_all
  | none =>
    obtain ⟨w, hw⟩ := Reading.line_text hd
    simp [hw, he]

/-- A line that is no conditional directive reads alike inside any
conditionals where output is enabled. -/
theorem Reading.line_plain_within {r : Reading} {l : List Token} (hl : conditionalOf l = none)
    (t : Bool) (o : List (Bool × Bool)) :
    (r.within t o).line l = (fun p => (p.1.within t o, p.2)) <$> { r with enabled := true }.line l := by
  cases hd : directiveOf l with
  | some p =>
    obtain ⟨d, args⟩ := p
    rw [Reading.line_of_directiveOf hd, Reading.line_of_directiveOf hd]
    simp only [conditionalOf, hd, conditionalNames] at hl
    unfold Reading.directive
    split
    case h_1 | h_2 | h_3 =>
      -- `#define`, `#include` and `#undef` first pass on what waits
      rename_i hname
      rw [show r.within t o = ({ r with enabled := true }).within t o from rfl, Reading.flush_within]
      simp only [Reading.within, Bool.not_true, Bool.false_eq_true, ↓reduceIte, map_bind, bind_map_left]
      congr 1
      funext q
      split
      · simp
      · simp [hname, map_bind, apply_ite]
    all_goals simp_all [Reading.within]
  | none =>
    obtain ⟨w, hw⟩ := Reading.line_text hd
    simp [hw, Reading.within]

theorem Reading.line_opening {r : Reading} {l : List Token} (h : opensConditional l = true) :
    r.line l = (·, false) <$> r.openIf (branchHolds l) := by
  unfold opensConditional at h
  split at h
  · next n hn =>
    obtain ⟨d, args, hd, rfl⟩ := directiveOf_of_conditionalOf hn
    rw [Reading.line_of_directiveOf hd, branchHolds_of_directiveOf hd]
    simp only [openingNames, List.contains_cons, List.contains_nil, Bool.or_false,
      Bool.or_eq_true, beq_iff_eq] at h
    rcases h with h | h | h <;> (rw [h]; rfl)
  · cases h

theorem Reading.openIf_disabled {r : Reading} (he : r.enabled = false) (c : Cpp Bool) :
    r.openIf c = pure { r with outer := (false, r.taken) :: r.outer } := by
  simp [Reading.openIf, he]

theorem Reading.openIf_within (r : Reading) (t : Bool) (o : List (Bool × Bool)) (c : Cpp Bool) :
    (r.within t o).openIf c = (fun b => if b then r.within true ((true, t) :: o)
      else { r with enabled := false, taken := false, outer := (true, t) :: o }) <$> c := by
  rw [map_eq_pure_bind]
  simp only [Reading.openIf, Reading.within, Bool.not_true, Bool.false_eq_true, ↓reduceIte]
  apply bind_congr
  intro b
  cases b <;> rfl

/-- An `#elif` or `#else` line changes nothing inside a disabled conditional,
or once a branch of its own conditional was taken. -/
theorem Reading.line_later_passive {r : Reading} {l : List Token} {e t : Bool}
    {o : List (Bool × Bool)} (hl : conditionalOf l = some "elif" ∨ conditionalOf l = some "else")
    (ho : r.outer = (e, t) :: o) (he : r.enabled = false) (hp : e = false ∨ r.taken = true) :
    r.line l = pure (r, false) := by
  obtain ⟨d, args, hd, hname⟩ := directiveOf_of_later hl
  rw [Reading.line_of_directiveOf hd]
  rcases hname with h | h
  all_goals
    rw [h]
    unfold Reading.directive
    rcases hp with hp | hp <;> simp [ho, he, hp]

/-- An `#elif` or `#else` line ends the branch being read. -/
theorem Reading.line_later_taken {r : Reading} {l : List Token} {t : Bool} {o : List (Bool × Bool)}
    (hl : conditionalOf l = some "elif" ∨ conditionalOf l = some "else")
    (ho : r.outer = (true, t) :: o) (he : r.enabled = true) :
    r.line l = pure ({ r with enabled := false }, false) := by
  obtain ⟨d, args, hd, hname⟩ := directiveOf_of_later hl
  rw [Reading.line_of_directiveOf hd]
  rcases hname with h | h
  all_goals
    rw [h]
    unfold Reading.directive
    simp [ho, he]

/-- An `#elif` or `#else` line of an enabled conditional none of whose branches
was taken makes its test, and its branch is read when the test holds. -/
theorem Reading.line_later_looking {r : Reading} {l : List Token} {t : Bool}
    {o : List (Bool × Bool)} (hl : conditionalOf l = some "elif" ∨ conditionalOf l = some "else")
    (ho : r.outer = (true, t) :: o) (he : r.enabled = false) (ht : r.taken = false) :
    r.line l =
      (fun b => (if b then { r with enabled := true, taken := true } else r, false)) <$> branchHolds l := by
  obtain ⟨d, args, hd, hname⟩ := directiveOf_of_later hl
  rw [Reading.line_of_directiveOf hd, branchHolds_of_directiveOf hd]
  rcases hname with h | h
  · rw [h, map_eq_pure_bind]
    unfold Reading.directive
    simp only [ho, he, ht, Bool.not_true, Bool.false_eq_true, ↓reduceIte]
    rw [show testHolds "elif" args = conditionHolds args from rfl]
    apply bind_congr
    intro b
    cases b <;> rfl
  · rw [h]
    unfold Reading.directive
    simp only [ho, he, ht, Bool.not_true, Bool.false_eq_true, ↓reduceIte]
    rw [show testHolds "else" args = pure true from rfl, map_pure]
    rfl

/-- An `#endif` line takes the flags of the enclosing conditional back. -/
theorem Reading.line_endif {r : Reading} {l : List Token} {e t : Bool} {o : List (Bool × Bool)}
    (hl : conditionalOf l = some "endif") (ho : r.outer = (e, t) :: o) :
    r.line l = pure ({ r with enabled := e, taken := t, outer := o }, false) := by
  obtain ⟨d, args, hd, hn⟩ := directiveOf_of_conditionalOf hl
  rw [Reading.line_of_directiveOf hd, hn]
  unfold Reading.directive
  simp only [ho]

theorem Reading.advance_close {r : Reading} {close : List Token} {e t : Bool}
    {o : List (Bool × Bool)} (hclose : conditionalOf close = some "endif") (ho : r.outer = (e, t) :: o) :
    r.advance [close] = pure (.reading { r with enabled := e, taken := t, outer := o }) := by
  simp [Reading.advance, Reading.line_endif hclose ho]

theorem Reading.advance_cons_of_line {r r' : Reading} {l : List Token} {ls : List (List Token)}
    (h : r.line l = pure (r', false)) : r.advance (l :: ls) = r'.advance ls := by
  rw [Reading.advance, h, pure_bind]
  rfl

/-! ## Disabled lines change nothing -/

mutual
/-- Where output is disabled, the lines of a well-formed block change
nothing. -/
theorem Block.advance_disabled : ∀ (b : Block) {r : Reading}, b.wellFormed = true →
    r.enabled = false → r.advance b.lines = pure (.reading r)
  | .plain l, r, hw, he => by
    have hline := Reading.line_plain_disabled (Block.wellFormed_plain.mp hw) he
    rw [Block.lines, Reading.advance_cons_of_line hline]
    rfl
  | .cond opening body later close, r, hw, he => by
    obtain ⟨hopen, hbody, hlater, hclose⟩ := Block.wellFormed_cond.mp hw
    -- the conditional's flags go on the stack untested, and come off at its end
    let r₁ : Reading := { r with outer := (false, r.taken) :: r.outer }
    have hopening : r.line opening = pure (r₁, false) := by
      rw [Reading.line_opening hopen, Reading.openIf_disabled he, map_pure]
    have hclosing : r₁.advance [close] = pure (.reading r) := by
      have hr : { r₁ with enabled := false, taken := r.taken, outer := r.outer } = r := by
        cases r
        simp_all [r₁]
      rw [Reading.advance_close (r := r₁) hclose rfl, hr]
    rw [Block.lines, Reading.advance_cons_of_line hopening, Reading.advance_append,
      advance_blocks_disabled body (r := r₁) hbody he, pure_bind,
      Progress.andThen, Reading.advance_append,
      advance_later_passive later (r := r₁) hlater he rfl (.inl rfl), pure_bind, Progress.andThen,
      hclosing]
/-- Where output is disabled, the lines of well-formed blocks change nothing:
no test is made, no macro defined, nothing printed or passed on. -/
theorem advance_blocks_disabled : ∀ (bs : List Block) {r : Reading}, wellFormedBlocks bs = true →
    r.enabled = false → r.advance (linesOfBlocks bs) = pure (.reading r)
  | [], r, _, _ => rfl
  | b :: bs, r, hw, he => by
    obtain ⟨hb, hbs⟩ := wellFormedBlocks_cons.mp hw
    rw [linesOfBlocks, Reading.advance_append, Block.advance_disabled b hb he, pure_bind,
      Progress.andThen, advance_blocks_disabled bs hbs he]
/-- Inside a disabled conditional, or once a branch of its own was taken, the
lines of a conditional's later branches change nothing. -/
theorem advance_later_passive : ∀ (later : List (List Token × List Block)) {r : Reading} {e t : Bool}
    {o : List (Bool × Bool)}, laterWellFormed later = true → r.enabled = false →
    r.outer = (e, t) :: o → (e = false ∨ r.taken = true) →
    r.advance (branchLines later) = pure (.reading r)
  | [], r, _, _, _, _, _, _, _ => rfl
  | (h, body) :: rest, r, e, t, o, hw, he, ho, hp => by
    obtain ⟨hbody, hh, hrest⟩ := laterWellFormed_cons hw
    rw [branchLines, Reading.advance_cons_of_line (Reading.line_later_passive hh ho he hp),
      Reading.advance_append, advance_blocks_disabled body hbody he, pure_bind, Progress.andThen,
      advance_later_passive rest hrest he ho hp]
end

/-- The lines of a branch passed over leave the reading as it was. -/
theorem Reading.advance_skip {r : Reading} {body : List Block} (hw : wellFormedBlocks body = true)
    (he : r.enabled = false) (ls : List (List Token)) :
    r.advance (linesOfBlocks body ++ ls) = r.advance ls := by
  rw [Reading.advance_append, advance_blocks_disabled body hw he, pure_bind, Progress.andThen]

/-! ## Enabled lines follow the rule of C -/

/-- Once a branch was read, the later branches are passed over and the
conditional's end gives back the flags from before it. -/
theorem advance_later_taken {later : List (List Token × List Block)} {close : List Token}
    (hw : laterWellFormed later = true) (hclose : conditionalOf close = some "endif")
    (r : Reading) (t : Bool) (o : List (Bool × Bool)) :
    (r.within true ((true, t) :: o)).advance (branchLines later ++ [close]) =
      pure (.reading (r.within t o)) := by
  cases later with
  | nil => exact Reading.advance_close hclose rfl
  | cons b rest =>
    obtain ⟨h, body⟩ := b
    obtain ⟨hbody, hh, hrest⟩ := laterWellFormed_cons hw
    -- the next branch's line ends the branch read; what follows is passed over
    let r₁ : Reading := { r.within true ((true, t) :: o) with enabled := false }
    rw [branchLines, List.cons_append,
      Reading.advance_cons_of_line (Reading.line_later_taken hh rfl rfl), List.append_assoc,
      Reading.advance_skip (r := r₁) hbody rfl, Reading.advance_append,
      advance_later_passive rest (r := r₁) hrest rfl rfl (.inr rfl), pure_bind, Progress.andThen,
      Reading.advance_close (r := r₁) hclose rfl]
    rfl

mutual
/-- Where output is enabled, reading the lines of a well-formed block is
reading the block by the rule of C. -/
theorem Block.advance_within : ∀ (b : Block) (r : Reading) (t : Bool) (o : List (Bool × Bool)),
    b.wellFormed = true → (r.within t o).advance b.lines = Progress.within t o <$> b.read r
  | .plain l, r, t, o, hw => by
    simp only [Block.lines, Block.read, Reading.advance,
      Reading.line_plain_within (Block.wellFormed_plain.mp hw), bind_map_left, map_bind]
    apply bind_congr
    intro p
    cases p.2 <;> rfl
  | .cond opening body later close, r, t, o, hw => by
    obtain ⟨hopen, hbody, hlater, hclose⟩ := Block.wellFormed_cond.mp hw
    rw [Block.lines, Reading.advance, Reading.line_opening hopen, Reading.openIf_within, Block.read,
      map_bind]
    simp only [Functor.map_map, bind_map_left]
    apply bind_congr
    intro b
    cases b
    · -- the first test fails: the first branch is passed over, the later ones tested
      simp only [Bool.false_eq_true, ↓reduceIte]
      rw [Reading.advance_skip hbody rfl]
      exact advance_later_looking later r t o hlater hclose
    · -- the first test holds: the first branch is read, the later ones passed over
      simp only [Bool.false_eq_true, ↓reduceIte]
      rw [Reading.advance_append, advance_blocks_within body r true ((true, t) :: o) hbody,
        bind_map_left, map_eq_pure_bind]
      apply bind_congr
      intro p
      cases p with
      | reading r' => exact advance_later_taken hlater hclose r' t o
      | full out => rfl
/-- Where output is enabled, reading the lines of well-formed blocks is
reading the blocks by the rule of C. -/
theorem advance_blocks_within : ∀ (bs : List Block) (r : Reading) (t : Bool) (o : List (Bool × Bool)),
    wellFormedBlocks bs = true →
    (r.within t o).advance (linesOfBlocks bs) = Progress.within t o <$> readBlocks bs r
  | [], r, t, o, _ => rfl
  | b :: bs, r, t, o, hw => by
    obtain ⟨hb, hbs⟩ := wellFormedBlocks_cons.mp hw
    rw [linesOfBlocks, Reading.advance_append, Block.advance_within b r t o hb, readBlocks, map_bind,
      bind_map_left]
    apply bind_congr
    intro p
    cases p with
    | reading r' => exact advance_blocks_within bs r' t o hbs
    | full out => rfl
/-- While no branch of an enabled conditional was taken, its later branches
are tested in order and the first whose test holds is read. -/
theorem advance_later_looking : ∀ (later : List (List Token × List Block)) (r : Reading) (t : Bool)
    (o : List (Bool × Bool)) {close : List Token}, laterWellFormed later = true →
    conditionalOf close = some "endif" →
    ({ r with enabled := false, taken := false, outer := (true, t) :: o } : Reading).advance
      (branchLines later ++ [close]) = Progress.within t o <$> readBranches later r
  | [], r, t, o, close, _, hclose => by
    rw [branchLines, List.nil_append, Reading.advance_close hclose rfl]
    rfl
  | (h, body) :: rest, r, t, o, close, hw, hclose => by
    obtain ⟨hbody, hh, hrest⟩ := laterWellFormed_cons hw
    rw [branchLines, List.cons_append, Reading.advance, Reading.line_later_looking hh rfl rfl rfl,
      readBranches, map_bind, bind_map_left]
    apply bind_congr
    intro b
    cases b
    · -- this test fails too: its branch is passed over
      simp only [Bool.false_eq_true, ↓reduceIte]
      rw [List.append_assoc, Reading.advance_skip hbody rfl]
      exact advance_later_looking rest r t o hrest hclose
    · -- this test holds: its branch is read, the later ones passed over
      simp only [Bool.false_eq_true, ↓reduceIte]
      rw [List.append_assoc, Reading.advance_append,
        show ({ r with enabled := true, taken := true, outer := (true, t) :: o } : Reading) =
          r.within true ((true, t) :: o) from rfl,
        advance_blocks_within body r true ((true, t) :: o) hbody, bind_map_left, map_eq_pure_bind]
      apply bind_congr
      intro p
      cases p with
      | reading r' => exact advance_later_taken hrest hclose r' t o
      | full out => rfl
end

theorem Progress.finish_within (p : Progress) (t : Bool) (o : List (Bool × Bool)) :
    (p.within t o).finish = p.finish := by
  cases p with
  | reading r =>
    simp only [Progress.within, Progress.finish]
    rw [Reading.flush_within, bind_map_left]
    rfl
  | full out => rfl

/-- Preprocessing a file whose lines are well-formed blocks defines the macro
naming the file, then reads the blocks by the rule of C. -/
theorem preprocess_reads_blocks {input file : String} {bs : List Block}
    (hw : wellFormedBlocks bs = true) (hl : groupLines (fileTokens input) = linesOfBlocks bs) :
    preprocess input file = (do
      defineText ("__FILE__ \"" ++ file ++ "\"")
      modify fun s => { s with source := some file }
      (← readBlocks bs {}).finish) := by
  unfold preprocess
  rw [hl]
  apply bind_congr
  intro _
  apply bind_congr
  intro _
  -- the reader starts enabled, outside every conditional
  rw [bind_pure_comp, Reading.lines_output,
    show ({} : Reading).advance (linesOfBlocks bs) = _ from advance_blocks_within bs {} false [] hw,
    bind_map_left]
  apply bind_congr
  intro p
  exact Progress.finish_within p false []

/-! ## Conditional inclusion -/

/-- Conditional inclusion as C has it, on conditionals written as C has them. -/
structure ConditionalInclusion : Prop where
  /-- Of a conditional, the branch read is the first whose test holds. -/
  first_branch : ∀ (opening : List Token) (body : List Block) (later : List (List Token × List Block))
    (close : List Token) (r : Reading),
    (Block.cond opening body later close).read r = do
      match ← ((opening, body) :: later).findM? (fun b => branchHolds b.1) with
      | some b => readBlocks b.2 r
      | none => return .reading r
  /-- Where output is disabled, the lines of well-formed blocks change
  nothing: no test is made, no macro defined or removed, no file included,
  nothing printed or passed on. -/
  skipped : ∀ (bs : List Block) (r : Reading), wellFormedBlocks bs = true → r.enabled = false →
    r.advance (linesOfBlocks bs) = pure (.reading r)
  /-- Where output is enabled, inside any conditionals, reading the lines of
  well-formed blocks is reading the blocks by the rule of C. -/
  selected : ∀ (bs : List Block) (r : Reading) (taken : Bool) (outer : List (Bool × Bool)),
    wellFormedBlocks bs = true →
    (r.within taken outer).advance (linesOfBlocks bs) = Progress.within taken outer <$> readBlocks bs r
  /-- Preprocessing a file whose lines are well-formed blocks defines the
  macro naming the file, then reads the blocks by the rule of C. -/
  whole_file : ∀ (input file : String) (bs : List Block), wellFormedBlocks bs = true →
    groupLines (fileTokens input) = linesOfBlocks bs →
    preprocess input file = (do
      defineText ("__FILE__ \"" ++ file ++ "\"")
      modify fun s => { s with source := some file }
      (← readBlocks bs {}).finish)

theorem conditional_inclusion : ConditionalInclusion where
  first_branch := Block.read_cond
  skipped bs _ hw he := advance_blocks_disabled bs hw he
  selected := fun bs r t o hw => advance_blocks_within bs r t o hw
  whole_file _ _ _ hw hl := preprocess_reads_blocks hw hl

/-- A directive line: `#`, the name, the arguments, a line break. -/
def directiveLine (n : Nat) (name : String) (args : List String) : List Token :=
  ⟨.pound, "#", n⟩ :: ⟨.ident, name, n⟩ :: (args.map fun a => ⟨.ident, a, n⟩) ++ [⟨.space, "\n", n⟩]

/-- A text line of one word. -/
def textLine (n : Nat) (word : String) : List Token := [⟨.ident, word, n⟩, ⟨.space, "\n", n⟩]

/-- An `#ifdef` whose `#elif` branch holds a conditional of its own, with an
`#else` branch last. -/
def nestedConditionals : List Block :=
  [.cond (directiveLine 1 "ifdef" ["A"]) [.plain (textLine 2 "x")]
    [(directiveLine 3 "elif" ["B"],
        [.cond (directiveLine 4 "if" ["C"]) [.plain (textLine 5 "y")] [] (directiveLine 6 "endif" [])]),
      (directiveLine 7 "else" [], [.plain (textLine 8 "z")])]
    (directiveLine 9 "endif" [])]

/-- A file of an `#ifdef` with an `#else` branch. -/
def ifdefElseText : String := "#ifdef A\nx\n#else\ny\n#endif\n"

/-- The blocks of `ifdefElseText`: its first line keeps the blank between the
directive and the name it tests, and its last line has no line break. -/
def ifdefElseBlocks : List Block :=
  [.cond [⟨.pound, "#", 1⟩, ⟨.ident, "ifdef", 1⟩, ⟨.space, " ", 1⟩, ⟨.ident, "A", 1⟩, ⟨.space, "\n", 1⟩]
    [.plain (textLine 2 "x")] [(directiveLine 3 "else" [], [.plain (textLine 4 "y")])]
    [⟨.pound, "#", 5⟩, ⟨.ident, "endif", 5⟩]]

/-- The nested conditionals are read by the rule of C at the top of a file, and
the file `ifdefElseText` is preprocessed by reading its blocks. -/
theorem conditionals_read_by_rule :
    (wellFormedBlocks nestedConditionals = true ∧
      ({} : Reading).advance (linesOfBlocks nestedConditionals) =
        Progress.within false [] <$> readBlocks nestedConditionals {}) ∧
    (wellFormedBlocks ifdefElseBlocks = true ∧
      groupLines (fileTokens ifdefElseText) = linesOfBlocks ifdefElseBlocks ∧
      preprocess ifdefElseText "f.c" = (do
        defineText ("__FILE__ \"" ++ "f.c" ++ "\"")
        modify fun s => { s with source := some "f.c" }
        (← readBlocks ifdefElseBlocks {}).finish)) := by
  -- the file's tokens, then its lines, cut after each line break
  have htokens : fileTokens ifdefElseText =
      [⟨.pound, "#", 1⟩, ⟨.ident, "ifdef", 1⟩, ⟨.space, " ", 1⟩, ⟨.ident, "A", 1⟩, ⟨.space, "\n", 1⟩,
        ⟨.ident, "x", 2⟩, ⟨.space, "\n", 2⟩, ⟨.pound, "#", 3⟩, ⟨.ident, "else", 3⟩, ⟨.space, "\n", 3⟩,
        ⟨.ident, "y", 4⟩, ⟨.space, "\n", 4⟩, ⟨.pound, "#", 5⟩, ⟨.ident, "endif", 5⟩] := by
    decide +kernel
  have hlines : groupLines (fileTokens ifdefElseText) = linesOfBlocks ifdefElseBlocks := by
    rw [htokens]
    simp [groupLines, groupFrom, Token.endsLine, ifdefElseBlocks, linesOfBlocks, Block.lines, branchLines,
      textLine, directiveLine]
  have hwell : wellFormedBlocks ifdefElseBlocks = true := by decide
  exact ⟨⟨by decide, conditional_inclusion.selected nestedConditionals {} false [] (by decide)⟩,
    hwell, hlines, conditional_inclusion.whole_file ifdefElseText "f.c" ifdefElseBlocks hwell hlines⟩

end Basis.Preprocess
