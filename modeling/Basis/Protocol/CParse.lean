import Basis.C.Parser
import Basis.C.Syntax.Show
import Basis.C.Syntax.Printer
import Basis.Protocol.Encoding

/-!
# Requests to parse C

A request gives a source and the name of its file (`<input>` if none). The
answer shows the syntax tree and the C written back from it; asked to
`reparse`, it also parses the written C again, as the file `<regen>`, and
writes it back once more. The second parse reads on with the lexer in the mode
the first one left it in: after a pragma on the last line, the lexer still
skips the rest of that pragma's line at the start of the second source.
-/

namespace Basis.Protocol

open Basis.C

/-- The answer to a request to parse C. -/
def answerCParse (req : Json) : Except Failure Json := do
  let source ← match req.get? "source" with
    | some (.str s) => pure s
    | some _ => throw badRequest
    | none => throw (.keyError "'source'")
  let filename := ((req.get? "filename").bind Json.getStr?).getD "<input>"
  let reparse := ((req.get? "reparse").bind Json.getBool?).getD false
  let (outcome, mode) := parseSource source filename
  let tree ← outcome
  let generated := tree.toC
  let fields := [("ast", Json.str tree.show), ("generated", .str generated)]
  if reparse then
    let again ← (parseSource generated "<regen>" mode).1
    return .obj (fields ++ [("regenerated", .str again.toC)])
  else return .obj fields

end Basis.Protocol
