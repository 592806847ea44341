import Basis.C.Lexer
import Basis.Protocol.Encoding

/-!
# Requests to split C source into tokens

A request gives a source and the names declared as types. The answer lists the
tokens, each as its terminal name, text, line and offset, the problems the
lexer reported, each as its message, line and column, and the file named by
the last line marker. At most 20001 tokens are read.
-/

namespace Basis.Protocol

open Basis.C

/-- The most tokens a request reads. -/
def tokenLimit : Nat := 20001

/-- The document of a token. -/
def tokenJson (t : Token) : Json :=
  .arr [.str t.kind.name, .str t.text, .int t.line, .int t.offset]

/-- The answer to a request to split C source into tokens. -/
def answerCLex (req : Json) : Except Failure Json := do
  let some source := (req.get? "source").bind Json.getStr? | throw badRequest
  let typeNames ← match req.get? "typedefs" with
    | none | some .null => pure []
    | some (.arr items) => items.mapM fun j => match j with
      | .str s => pure s
      | _ => throw badRequest
    | some _ => throw badRequest
  let (tokens, problems, lx) ← Lexer.tokenize source (fun n => typeNames.contains n) tokenLimit
  return .obj [("tokens", .arr (tokens.map tokenJson)),
    ("errors", .arr (problems.map fun p => .arr [.str p.message, .int p.line, .int p.column])),
    ("filename", .str lx.filename)]

end Basis.Protocol
