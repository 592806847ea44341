import Basis.Marshal.Writer
import Basis.Marshal.Reader
import Basis.Protocol.Hash

/-!
# Requests on the serial format

A request either writes a value, answering with the written text and with what
reading it back gives, or reads a value from a given text. The written text is
answered in `$latin1`, one byte per character.
-/

namespace Basis.Protocol

/-- The answer to a failure or a value, as the `loads` member of an answer to a write. -/
def readBack (r : Except Failure Value) : Json :=
  match r with
  | .ok v => encode v
  | .error f => .obj [("error", .str f.kind), ("message", .str f.message)]

/-- The answer to a request on the serial format. -/
def answerMarshal (req : Json) : Except Failure Json :=
  match req.get? "dumps", req.get? "loads" with
  | some d, _ => do
    let v ← decode d
    let text ← Marshal.dumps v
    return .obj [("data", encodeLatin1 text), ("loads", readBack (Marshal.loads (.str text)))]
  | none, some l => do
    let v ← decode l
    return outcome (encode <$> Marshal.loads v)
  | none, none => .error badRequest

end Basis.Protocol
