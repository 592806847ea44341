import Basis.Foreign.Extension.PySource
import Basis.Foreign.Extension.Verify

/-!
# Generating modules from an interface

An interface's declarations become the source of a module: for the scripting
side alone, in C, or in the older verified form. Generation works on the
declarations sorted by key; its warnings join the session's, also when it
fails. A module includes the modules of the interfaces its interface
included, which must have been given a module name, and be of the same kind.

The answer is a record of named texts. Of a module in C, the text before the
user's source (the header, with the startup code of an embedded module) is
given apart from the rest.
-/

namespace Basis.Foreign

/-- A record of named texts. -/
abbrev TextRecord := List (String × String)

namespace SessionM

/-- The plan of a module made from an interface's declarations. -/
def planFor (ffi : String) (target : Target) (moduleName : String) : SessionM Plan := do
  let iface ← interface ffi
  let decls := iface.book.entries.mergeSort fun a b => compare a.1 b.1 != .gt
  return { target, moduleName, tags := ← tags, decls, included := iface.book.included }

/-- Runs a generation, passing its warnings on to the session, and answers
the lines it wrote. -/
def runEmit (act : EmitM Unit) : SessionM (Array String) := do
  let (outcome, st) := (act.run).run {}
  modify fun s => { s with work := { s.work with warnings := st.warnings ++ s.work.warnings } }
  match outcome with
  | .ok () => return st.lines
  | .error f => throw f

/-- The representation of an interface object. -/
def interfaceRepr : String := "<cffi.api.FFI object at 0x7f6a1c2e5d30>"

/-- The module names of the interfaces an interface included, each of which
must have been given one, with a source exactly when `inC`. -/
def includedModules (ffi : String) (inC : Bool) : SessionM (Except Failure (List String)) := do
  let iface ← interface ffi
  let s ← get
  return iface.includes.mapM fun other =>
    match (s.interfaces.lookup other).bind (·.assigned) with
    | none =>
      .error (verificationError ("ffi object " ++ interfaceRepr ++ " includes " ++ interfaceRepr ++
        ", but the latter has not been prepared with set_source()"))
    | some (m, source) =>
      if source.isSome == inC then .ok m
      else if inC then
        .error (verificationError "not implemented yet: ffi.include() of a Python-based ffi inside a C-based ffi")
      else
        .error (verificationError "not implemented yet: ffi.include() of a C-based ffi inside a Python-based ffi")

/-- The text of lines, each ended by a line break. -/
def linesText (lines : List String) : String := String.join (lines.map (· ++ "\n"))

/-- Generates the module of an interface: for the scripting side its source,
for C its header and its source apart. -/
def emitModule (ffi : String) (target : Target) (moduleName preamble : String) : SessionM TextRecord := do
  let p ← planFor ffi target moduleName
  let includes ← includedModules ffi (target == .c)
  let embedding := (← interface ffi).embedding
  let lines ← runEmit do
    let tt ← EmitM.lift (buildTypeTable p)
    let tabs ← buildTables p tt
    match target with
    | .python => writePySource p tt tabs includes
    | .c =>
      writeCPrefix p embedding
      writeCBody p tt tabs preamble includes
  match target with
  | .python => return [("py_source", linesText lines.toList)]
  | .c =>
    let (header, body) := lines.toList.span (· != separatorLine)
    return [("prefix", linesText header), ("c_source", linesText body)]

/-- Generates the verified module of an interface, named `modulename` or by a
digest of its sources, the tag and the build options. -/
def verifySource (ffi preamble : String) (modulename tag : Option String) (kwds : Keyword) :
    SessionM TextRecord := do
  let iface ← interface ffi
  if let some feature := iface.book.usesNewFeature then
    throw (verificationError ("feature not supported with ffi.verify(), but only with ffi.set_source(): " ++ feature))
  let modulename := modulename.filter (!·.isEmpty)
  let tag := tag.getD ""
  let flat ← match modulename with
    | some _ => pure ""
    | none =>
      match flattenKeyword 1000 kwds with
      | .ok s => pure s
      | .error f => throw f
  if modulename.isSome && !tag.isEmpty then throw (.typeError "can't specify both 'modulename' and 'tag'")
  let name := modulename.getD (hashedModuleName tag preamble flat iface.sources)
  let p ← planFor ffi .c name
  let lines ← runEmit (writeVerifiedSource p preamble)
  return [("module_name", loadedModuleName name), ("c_source", linesText lines.toList)]

end SessionM

end Basis.Foreign
