import Basis.Failure

/-!
# Binding arguments to parameters

A `Signature` lists the parameters of a function: positional-or-keyword
parameters, the last ones with defaults, then keyword-only ones, and whether
extra positional or keyword arguments are collected. `Signature.bind` matches
a call's positional and keyword arguments against it, in the order of checks
that calls follow: keywords first (an unknown name, then a name already bound),
then too many positional arguments, then missing positional arguments, then
missing keyword-only ones. Each failure is a `TypeError` whose text names the
function by its qualified name.
-/

namespace Basis

/-- The parameters of a function. -/
structure Signature where
  /-- The qualified name, as failures print it. -/
  name : String
  /-- The positional-or-keyword parameters, a bound receiver first if there is one. -/
  params : List String
  /-- How many of the last positional parameters have defaults. -/
  defaults : Nat := 0
  /-- The keyword-only parameters, with whether each has a default. -/
  keywordOnly : List (String × Bool) := []
  /-- Extra positional arguments are collected. -/
  varArgs : Bool := false
  /-- Extra keyword arguments are collected. -/
  varKeywords : Bool := false
  deriving Inhabited

/-- The arguments bound to a signature: for each positional-or-keyword and each
keyword-only parameter its argument if one was given, and the extra ones. -/
structure Bound (α : Type) where
  /-- The argument of each positional-or-keyword parameter, in order. -/
  positional : List (Option α)
  /-- The argument of each keyword-only parameter, in order. -/
  keywordOnly : List (Option α)
  /-- The positional arguments beyond the parameters. -/
  extraArgs : List α
  /-- The keyword arguments without a parameter. -/
  extraKeywords : List (String × α)

namespace Signature

/-- Names quoted and joined as in `'a'`, `'a' and 'b'`, `'a', 'b', and 'c'`. -/
def joinNames (names : List String) : String :=
  let q := names.map fun n => "'" ++ n ++ "'"
  match q with
  | [] => ""
  | [a] => a
  | [a, b] => a ++ " and " ++ b
  | _ => ", ".intercalate q.dropLast ++ ", and " ++ q.getLastD ""

/-- The failure of missing arguments of a kind. -/
def missing (sig : Signature) (kind : String) (names : List String) : Failure :=
  let plural := if names.length == 1 then "" else "s"
  .typeError s!"{sig.name}() missing {names.length} required {kind} argument{plural}: {joinNames names}"

/-- The failure of too many positional arguments; `given` counts all of them and
`keywordOnlyGiven` the keyword-only arguments that were given. -/
def tooMany (sig : Signature) (given keywordOnlyGiven : Nat) : Failure :=
  let count := sig.params.length
  let (accepted, plural) :=
    if sig.defaults > 0 then (s!"from {count - sig.defaults} to {count}", true)
    else (toString count, count != 1)
  let ending (k : Nat) : String := if k != 1 then "s" else ""
  let givenEnding := ending given
  let kwEnding := ending keywordOnlyGiven
  let kwText :=
    if keywordOnlyGiven > 0 then
      s!" positional argument{givenEnding} (and {keywordOnlyGiven} keyword-only argument{kwEnding})"
    else ""
  let verb := if given == 1 && keywordOnlyGiven == 0 then "was" else "were"
  let acceptedEnding := if plural then "s" else ""
  .typeError s!"{sig.name}() takes {accepted} positional argument{acceptedEnding} but {given}{kwText} {verb} given"

/-- Binds a call's arguments to the signature. -/
def bind {α : Type} (sig : Signature) (args : List α) (kwargs : List (String × α)) : Except Failure (Bound α) := do
  let n := sig.params.length
  let pos0 : List (Option α) := (List.range n).map fun i => args[i]?
  let kwo0 : List (Option α) := sig.keywordOnly.map fun _ => none
  -- keywords, in the order given
  let start : List (Option α) × List (Option α) × List (String × α) := (pos0, kwo0, [])
  let (pos, kwo, extra) ← kwargs.foldlM (fun (pos, kwo, extra) (k, v) =>
      match sig.params.idxOf? k with
      | some i =>
        if (pos.getD i none).isSome then .error (.typeError s!"{sig.name}() got multiple values for argument '{k}'")
        else .ok (pos.set i (some v), kwo, extra)
      | none =>
        match (sig.keywordOnly.map (·.1)).idxOf? k with
        | some i =>
          if (kwo.getD i none).isSome then .error (.typeError s!"{sig.name}() got multiple values for argument '{k}'")
          else .ok (pos, kwo.set i (some v), extra)
        | none =>
          if sig.varKeywords then .ok (pos, kwo, extra ++ [(k, v)])
          else .error (.typeError s!"{sig.name}() got an unexpected keyword argument '{k}'")) start
  if args.length > n && !sig.varArgs then
    throw (sig.tooMany args.length (kwo.filter Option.isSome).length)
  let required := n - sig.defaults
  let missingPos := ((sig.params.zip pos).take required).filterMap fun (p, a) => if a.isNone then some p else none
  if !missingPos.isEmpty then throw (sig.missing "positional" missingPos)
  let missingKw := (sig.keywordOnly.zip kwo).filterMap fun ((p, hasDefault), a) =>
    if a.isNone && !hasDefault then some p else none
  if !missingKw.isEmpty then throw (sig.missing "keyword-only" missingKw)
  return ⟨pos, kwo, args.drop n, extra⟩

end Signature

end Basis
