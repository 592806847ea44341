import Basis.Pattern.Basic

/-!
# Matching patterns by backtracking

A pattern is matched against an array of characters by a small machine. Its
state is a list of tasks still to do, the position reached, the spans of the
groups recorded so far, and a stack of choices: the states to go back to when
the current way fails. An alternative pushes its second branch as a choice and
goes on with the first; a greedy repetition pushes "stop here" and goes on with
one more round, a lazy one the other way round. When no task is left the match
is found, unless it ends before the least end asked for, in which case the
machine goes back to the latest choice as for any failure.

The machine takes one step per unit of fuel; `budget` gives more than the
patterns of this library need on any text they are used on. Repetitions stop
when a round matches the empty text, so they cannot loop.
-/

namespace Basis.Pattern

/-- The spans recorded for groups, latest first: the index, the start and the end. -/
abbrev Spans := List (Nat × Nat × Nat)

/-- The last span recorded for a group. -/
def spanOf? (spans : Spans) (i : Nat) : Option (Nat × Nat) :=
  (spans.find? (·.1 == i)).map (·.2)

/-- A task of the matching machine. -/
inductive Task where
  /-- Match a pattern. -/
  | run (p : Pattern)
  /-- Record the span of a group from `start` to the current position. -/
  | close (index start : Nat)
  /-- After a round of a repetition that started at `entry`: offer another
  round unless this one matched the empty text. -/
  | again (body : Pattern) (greedy : Bool) (entry : Nat)
  deriving Inhabited

/-- A state to go back to. -/
structure Choice where
  /-- The tasks left. -/
  tasks : List Task
  /-- The position. -/
  pos : Nat
  /-- The spans recorded. -/
  spans : Spans

/-- The outcome of one step of the machine. -/
inductive Step where
  /-- All tasks done, at a position, with the spans recorded. -/
  | finished (pos : Nat) (spans : Spans)
  /-- No way is left. -/
  | failed
  /-- The next state. -/
  | next (tasks : List Task) (pos : Nat) (spans : Spans) (choices : List Choice)
  /-- A look ahead must be decided before going on with `rest`. -/
  | probe (body : Pattern) (negated : Bool) (rest : List Task) (pos : Nat) (spans : Spans)
      (choices : List Choice)

/-- Goes back to the latest choice. -/
def backtrack : List Choice → Step
  | [] => .failed
  | c :: cs => .next c.tasks c.pos c.spans cs

/-- Whether a position of the text is of the kind an anchor asks for. -/
def Anchor.holds (input : Array Char) (pos : Nat) : Anchor → Bool
  | .textStart => pos == 0
  | .textEnd => pos == input.size
  | .finalEnd => pos == input.size || (pos + 1 == input.size && input[pos]? == some '\n')
  | .lineStart => pos == 0 || (pos ≤ input.size && input[pos - 1]? == some '\n')
  | .lineEnd => pos == input.size || input[pos]? == some '\n'
  | .wordBoundary => wordBefore input pos != wordAfter input pos
  | .notWordBoundary => input.size != 0 && wordBefore input pos == wordAfter input pos
where
  /-- Whether a word character stands just before the position. -/
  wordBefore (input : Array Char) (pos : Nat) : Bool :=
    pos != 0 && ((input[pos - 1]?).map Text.isWordChar).getD false
  /-- Whether a word character stands at the position. -/
  wordAfter (input : Array Char) (pos : Nat) : Bool :=
    ((input[pos]?).map Text.isWordChar).getD false

/-- Whether the text at `pos` repeats the text from `start` to `stop`. -/
def repeats (input : Array Char) (start stop pos : Nat) : Bool :=
  (List.range (stop - start)).all fun k => input[start + k]? == input[pos + k]? && pos + k < input.size

/-- One round of a repetition, or stopping it, in the order its greed says. -/
def repeatStep (body : Pattern) (greedy : Bool) (rest : List Task) (pos : Nat) (spans : Spans)
    (choices : List Choice) : Step :=
  let more := Task.run body :: Task.again body greedy pos :: rest
  if greedy then .next more pos spans (⟨rest, pos, spans⟩ :: choices)
  else .next rest pos spans (⟨more, pos, spans⟩ :: choices)

/-- One step of the machine. -/
def advance (input : Array Char) (atLeast : Nat) :
    List Task → Nat → Spans → List Choice → Step
  | [], pos, spans, choices =>
    if pos ≥ atLeast then .finished pos spans else backtrack choices
  | .close i start :: rest, pos, spans, choices => .next rest pos ((i, start, pos) :: spans) choices
  | .again body greedy entry :: rest, pos, spans, choices =>
    if pos == entry then .next rest pos spans choices
    else repeatStep body greedy rest pos spans choices
  | .run p :: rest, pos, spans, choices =>
    match p with
    | .empty => .next rest pos spans choices
    | .char test =>
      match input[pos]? with
      | some c => if test c then .next rest (pos + 1) spans choices else backtrack choices
      | none => backtrack choices
    | .seq a b => .next (.run a :: .run b :: rest) pos spans choices
    | .alt a b => .next (.run a :: rest) pos spans (⟨.run b :: rest, pos, spans⟩ :: choices)
    | .star body greedy => repeatStep body greedy rest pos spans choices
    | .group i body => .next (.run body :: .close i pos :: rest) pos spans choices
    | .anchor a => if Anchor.holds input pos a then .next rest pos spans choices else backtrack choices
    | .ahead body negated => .probe body negated rest pos spans choices
    | .backref i =>
      match spanOf? spans i with
      | some (start, stop) =>
        if repeats input start stop pos then .next rest (pos + (stop - start)) spans choices
        else backtrack choices
      | none => backtrack choices

/-- Runs the machine for at most `fuel` steps: the end and spans of the first
match found, or `none`. -/
def exec (input : Array Char) (atLeast : Nat) :
    Nat → List Task → Nat → Spans → List Choice → Option (Nat × Spans)
  | 0, _, _, _, _ => none
  | fuel + 1, tasks, pos, spans, choices =>
    match advance input atLeast tasks pos spans choices with
    | .finished pos spans => some (pos, spans)
    | .failed => none
    | .next tasks pos spans choices => exec input atLeast fuel tasks pos spans choices
    | .probe body negated rest pos spans choices =>
      match exec input pos fuel [.run body] pos spans [], negated with
      | some (_, spans'), false => exec input atLeast fuel rest pos spans' choices
      | none, true => exec input atLeast fuel rest pos spans choices
      | _, _ =>
        match backtrack choices with
        | .next tasks pos spans choices => exec input atLeast fuel tasks pos spans choices
        | _ => none

/-- The number of steps allowed for matching against a text. -/
def budget (input : Array Char) : Nat := 200000 + 400 * input.size

/-- A match of a pattern: where it starts and ends, and the spans of its groups. -/
structure Match where
  /-- Where the match starts. -/
  start : Nat
  /-- Where the match ends. -/
  stop : Nat
  /-- The spans of the groups, latest first. -/
  spans : Spans

namespace Match

/-- The span of a group; group 0 is the whole match. -/
def span? (m : Match) (i : Nat) : Option (Nat × Nat) :=
  if i == 0 then some (m.start, m.stop) else spanOf? m.spans i

/-- The text of a group, if it took part in the match. -/
def group? (m : Match) (input : Array Char) (i : Nat) : Option String :=
  (m.span? i).map fun (a, b) => String.ofList ((input.extract a b).toList)

/-- The text of a group, empty if it took no part in the match. -/
def group (m : Match) (input : Array Char) (i : Nat) : String :=
  (m.group? input i).getD ""

/-- The length of the match. -/
def length (m : Match) : Nat := m.stop - m.start

end Match

/-- Matches a pattern at a position, the match ending at `atLeast` or later. -/
def matchFrom (p : Pattern) (input : Array Char) (pos : Nat) (atLeast : Nat := 0) : Option Match :=
  (exec input atLeast (budget input) [.run p] pos [] []).map fun (stop, spans) => ⟨pos, stop, spans⟩

/-- Matches a pattern at a position. -/
def matchAt (p : Pattern) (input : Array Char) (pos : Nat) : Option Match :=
  matchFrom p input pos

/-- Matches a pattern against the whole text. -/
def fullMatch (p : Pattern) (input : Array Char) : Option Match :=
  (matchFrom p input 0 input.size).filter (·.stop == input.size)

/-- The first match at a position from `pos` on; with `advancing`, a match may not
be empty at `pos` itself. -/
def searchFrom (p : Pattern) (input : Array Char) (pos : Nat) (advancing : Bool := false) :
    Option Match :=
  go pos (input.size + 1 - pos)
where
  /-- Tries the positions from `here` on, `left` of them. -/
  go (here : Nat) : Nat → Option Match
    | 0 => none
    | left + 1 =>
      let least := if advancing && here == pos then here + 1 else 0
      match matchFrom p input here least with
      | some m => some m
      | none => go (here + 1) left

/-- The first match anywhere in the text. -/
def search (p : Pattern) (input : Array Char) : Option Match := searchFrom p input 0

/-- The matches that do not overlap, from left to right. After an empty match the
next one may not be empty at the same place. Every match but an empty one moves
on, and no two empty matches follow each other at one place, so there are at
most two matches per position. -/
def findAll (p : Pattern) (input : Array Char) : List Match :=
  go 0 false (2 * input.size + 2) []
where
  /-- Collects the matches from `pos` on, at most `fuel` more of them. -/
  go (pos : Nat) (advancing : Bool) : Nat → List Match → List Match
    | 0, acc => acc.reverse
    | fuel + 1, acc =>
      if pos > input.size then acc.reverse
      else
        match searchFrom p input pos advancing with
        | none => acc.reverse
        | some m => go m.stop (m.stop == m.start) fuel (m :: acc)

/-- The text with every match, as `findAll` finds them, replaced by `replacement`. -/
def replaceAll (p : Pattern) (input : String) (replacement : String) : String :=
  let cs := input.toList.toArray
  let (out, last) := (findAll p cs).foldl
    (fun (acc : String × Nat) m =>
      (acc.1 ++ String.ofList (cs.extract acc.2 m.start).toList ++ replacement, m.stop))
    ("", 0)
  out ++ String.ofList (cs.extract last cs.size).toList

end Basis.Pattern
