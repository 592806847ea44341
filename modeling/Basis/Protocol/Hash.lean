import Basis.Digest.Family
import Basis.Protocol.Encoding

/-!
# Requests on hashers

A hash request names an algorithm, an optional first message part and a list of
calls on one family of hashers (`Basis.Digest.Family`). The answer reports the
start and then every call in order; a failed call does not stop the ones after
it.
-/

namespace Basis.Protocol

open Basis.Digest

/-- The answer to a call: its value, or its failure. -/
def outcome (r : Except Failure Json) : Json :=
  match r with
  | .ok j => .single "value" j
  | .error f => .obj [("error", .str f.kind), ("message", .str f.message)]

/-- The call that a step of a hash request asks for. -/
def hashCall (step : Json) : Except Failure Call :=
  match step.get? "call" with
  | some (.str "update") =>
    match step.get? "data" with
    | some d => Call.update <$> decode d
    | none => .error (refused "bad step")
  | some (.str "digest") => .ok .digest
  | some (.str "hexdigest") => .ok .hexdigest
  | some (.str "copy") => .ok .copy
  | some (.str "select") =>
    match step.get? "index" with
    | some (.int i) => .ok (.select i)
    | _ => .error (refused "bad step")
  | some (.str name) =>
    if name == "digest_size" || name == "block_size" || name == "digestsize" || name == "name" then
      .ok (.read name)
    else .error (refused "bad step")
  | _ => .error (refused "bad step")

/-- The document of a call's value: a digest text as `$latin1`. -/
def encodeCallValue (c : Call) (v : Value) : Json :=
  match c, v with
  | .digest, .str s => encodeLatin1 s
  | _, v => encode v

/-- Runs the steps of a hash request on a family, answering each. -/
def runHashSteps (f : Family) : List Json → List Json
  | [] => []
  | step :: rest =>
    match hashCall step with
    | .error e => outcome (.error e) :: runHashSteps f rest
    | .ok c =>
      let (f', r) := f.step c
      outcome (r.map (encodeCallValue c)) :: runHashSteps f' rest

/-- The answer to a hash request. -/
def answerHash (req : Json) : Except Failure Json := do
  let some algo := (req.get? "algo").bind Json.getStr? >>= Algorithm.ofName? | throw badRequest
  let some steps := (req.get? "steps").bind Json.getArr? | throw badRequest
  let first ← match req.get? "init" with
    | some j => decode j
    | none => pure .none
  match Family.start algo first with
  | .error e => return .single "init" (outcome (.error e))
  | .ok f => return .obj [("init", outcome (.ok .null)), ("steps", .arr (runHashSteps f steps))]

end Basis.Protocol
