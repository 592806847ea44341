import Basis.Preprocess.Run
import Basis.Protocol.Encoding

/-!
# Requests to preprocess C source

A request gives a source, the name of its file (`in.c` when absent) and
macros to define first, each as a text `NAME replacement`. The answer is the
text of the tokens passed on, at most `outputCap` of them, with the sorted
names of the macros defined at the end; or the failure that stopped the
preprocessor. Either carries the diagnostics printed, one per line, when
there are any.
-/

namespace Basis.Protocol

open Basis.Preprocess

/-- The diagnostics of a session as one text, each line ended. -/
def printedText (s : Session) : String := String.join (s.printed.toList.map (· ++ "\n"))

/-- An answer with the diagnostics added, when there are any. -/
def withPrinted (s : Session) (fields : List (String × Json)) : Json :=
  if s.printed.isEmpty then .obj fields else .obj (fields ++ [("printed", .str (printedText s))])

/-- The answer to a request to preprocess C source. -/
def answerCpp (req : Json) : Except Failure Json := do
  let some source := (req.get? "source").bind Json.getStr? | throw badRequest
  let file ← match req.get? "filename" with
    | none => pure "in.c"
    | some .null => pure ""
    | some (.str f) => pure f
    | some _ => throw badRequest
  let defines ← match req.get? "defines" with
    | none | some .null => pure []
    | some (.arr items) => items.mapM fun j => match j with
      | .str s => pure s
      | _ => throw badRequest
    | some _ => throw badRequest
  let run : Cpp (Array String) := do
    defines.forM defineText
    preprocess source file
  let (outcome, s) := (run.run).run {}
  match outcome with
  | .ok texts =>
    let names := (s.macros.map (·.name)).mergeSort (fun a b => compare a b != .gt)
    return withPrinted s [("output", .str (String.join texts.toList)),
      ("macros", .arr (names.map Json.str))]
  | .error fault =>
    let f := fault.toFailure
    return withPrinted s [("error", .str f.kind), ("message", .str f.message)]

end Basis.Protocol
