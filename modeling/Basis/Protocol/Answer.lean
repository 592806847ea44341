import Basis.Json.Reader
import Basis.Protocol.Hash
import Basis.Protocol.Marshal
import Basis.Protocol.Deque
import Basis.Protocol.DefaultDict
import Basis.Protocol.CLex
import Basis.Protocol.CParse
import Basis.Protocol.Cdef
import Basis.Protocol.Ffi
import Basis.Protocol.Datetime
import Basis.Protocol.Cpp

/-!
# Answering a request

`answer` reads one request line and writes the one answer line. A line that is
no JSON document, a document that is not an object or names no known
operation, and a request of the wrong shape are answered with a `BadInput`
failure; every other request is handed to its operation.
-/

namespace Basis.Protocol

/-- The document of a failure. -/
def failureJson (f : Failure) : Json := .obj [("error", .str f.kind), ("message", .str f.message)]

/-- The answer to a request document. -/
def answerJson (req : Json) : Json :=
  let unknown := failureJson ⟨"BadInput", "unknown op"⟩
  match req with
  | .obj _ =>
    let run := fun (r : Except Failure Json) => match r with
      | .ok j => j
      | .error f => failureJson f
    match req.get? "op" with
    | some (.str "hash") => run (answerHash req)
    | some (.str "marshal") => run (answerMarshal req)
    | some (.str "deque") => run (answerDeque req)
    | some (.str "defaultdict") => run (answerDefaultDict req)
    | some (.str "c_lex") => run (answerCLex req)
    | some (.str "c_parse") => run (answerCParse req)
    | some (.str "cdef") => run (answerCdef req)
    | some (.str "ffi") => run (answerFfi req)
    | some (.str "datetime") => run (answerDatetime req)
    | some (.str "cpp") => run (answerCpp req)
    | _ => unknown
  | _ => unknown

/-- The answer line to a request line. -/
def answer (line : String) : String :=
  match Json.parse? line with
  | none => (failureJson ⟨"BadInput", "invalid JSON"⟩).render
  | some req => (answerJson req).render

end Basis.Protocol
