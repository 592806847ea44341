import Basis.Foreign.State
import Basis.Foreign.Datum
import Basis.Foreign.Memory
import Basis.Foreign.Layout

/-!
# Foreign-function sessions

A `Session` is the state that operations on foreign functions share:

* the declaration state (`Work`): the table of structs, unions and enums, which
  all interfaces share, and the lexer state;
* the interfaces by name (`Interface`): each with its own book of declarations,
  its caches of classes by declared type and by text, and its settings;
* what the run time knows of each struct, union and enum class it has built
  (`RecordClass`, `EnumClass`), by entry in the table; a struct's class is
  built once for all interfaces, and completing it lays out its members;
* the memory, the code at function addresses (`Code`), and the libraries opened.

`SessionM` is a computation on a session that may fail; like the operations it
models, a failure keeps the changes made before it.
-/

namespace Basis.Foreign

/-- A member of a struct or union class. -/
structure Member where
  /-- The name, empty for an anonymous member. -/
  name : String
  /-- The class. -/
  cls : CClass
  /-- Where it lies. -/
  place : Place
  deriving Inhabited

/-- What the run time knows of a struct or union class. -/
structure RecordClass where
  /-- The name the class is spelled with. -/
  name : String
  /-- Whether the class is a union. -/
  union : Bool
  /-- The completion of the declared type: 0 not started, 1 under way or
  broken off, 2 done. -/
  completion : Nat := 0
  /-- The members with their places, once laid out. -/
  members : Option (List Member) := none
  /-- The size and alignment, once laid out. -/
  shape : Option Shape := none
  /-- The class of each member by name, `none` for a bit field. -/
  memberClasses : List (String × Option CClass) := []
  /-- Whether values of the class can be made: once it is laid out. -/
  instantiable : Bool := false
  /-- The members that values of the class read and write by name. -/
  properties : List String := []
  /-- The members that pointers to the class read and write by name. -/
  pointerProperties : List String := []
  deriving Inhabited

/-- What the run time knows of an enum class. -/
structure EnumClass where
  /-- The name the class is spelled with. -/
  name : String
  /-- The primitive integer class the values have. -/
  base : String
  /-- The enumerator of each value; the first declared wins. -/
  names : List (Int × String)
  deriving Inhabited

/-- The code at a function address. -/
inductive Code where
  /-- A callback: it calls a function of the scripting side, converting its
  arguments and result by the class, and returns the encoded `error` result
  when the function fails. -/
  | callback (cls : CClass) (fn : String) (error : List UInt8)
  /-- A function of the C library, by name. -/
  | symbol (name : String)
  deriving Inhabited

/-- An interface to foreign functions: its declarations and caches. -/
structure Interface where
  /-- The declarations. -/
  book : Book := {}
  /-- The classes of type texts already read, and whether each was a function type. -/
  parsed : List (String × CClass × Bool) := []
  /-- The classes built for declared types. -/
  cached : List (CType × CClass) := []
  /-- The setting of the Windows character types, once made. -/
  unicode : Option Bool := none
  /-- The code run when a program embeds the interface, once given. -/
  embedding : Option String := none
  /-- The results of functions run once, by tag. -/
  initOnce : List (String × Datum) := []
  /-- The module name and source given for compiled code, once given. -/
  assigned : Option (String × Option String) := none
  /-- The declaration sources read, with `[` and `]` around those of included interfaces. -/
  sources : List String := []
  /-- The interfaces included, by name, in order. -/
  includes : List String := []
  /-- The structs and unions whose members were declared after their classes
  were completed, to complete again once the declarations are read. -/
  recomplete : List Nat := []
  deriving Inhabited

/-- A library opened by an interface. -/
structure Library where
  /-- The interface that opened it. -/
  ffi : String
  /-- The attributes read so far and kept. -/
  loaded : List (String × Datum) := []
  deriving Inhabited

/-- The state of a session. -/
structure Session where
  /-- The shared declaration state. -/
  work : Work := {}
  /-- The interfaces by name. -/
  interfaces : List (String × Interface) := [("main", {})]
  /-- The struct and union classes built, by entry. -/
  records : List (Nat × RecordClass) := []
  /-- The enum classes built, by entry. -/
  enums : List (Nat × EnumClass) := []
  /-- The memory. -/
  memory : Memory := {}
  /-- The code at function addresses. -/
  codes : List (Nat × Code) := []
  /-- The libraries opened. -/
  libraries : Array Library := #[]
  /-- The types whose classes still have to be completed. -/
  pending : List CType := []
  deriving Inhabited

/-- Computations on a session; a failure keeps the changes made before it. -/
abbrev SessionM := ExceptT Failure (StateM Session)

namespace Session

/-- The name of a struct, union or enum class: the one it was built with, or the
declared type's own. -/
def nameOf (s : Session) (id : Nat) : String :=
  match s.records.find? (·.1 == id), s.enums.find? (·.1 == id) with
  | some (_, r), _ => r.name
  | _, some (_, e) => e.name
  | none, none => (s.work.tags[id]?.map Tag.officialName).getD "?"

end Session

namespace SessionM

/-- The namer of struct, union and enum classes. -/
def namer : SessionM (Nat → String) := return (← get).nameOf

/-- The plain spelling of a class. -/
def cName (c : CClass) (replaceWith : String := "") : SessionM String :=
  return c.cName (← namer) replaceWith

/-- The name of a class as messages write it. -/
def className (c : CClass) : SessionM String := return c.className (← namer)

/-- The representation of a class. -/
def classRepr (c : CClass) : SessionM String := return c.classRepr (← namer)

/-- The name of the type of a datum. -/
def typeName (d : Datum) : SessionM String := return d.typeName (← namer)

/-- An interface by name. -/
def interface (name : String) : SessionM Interface := do
  match (← get).interfaces.find? (·.1 == name) with
  | some (_, i) => pure i
  | none => throw (.keyError ("'" ++ name ++ "'"))

/-- Changes an interface. -/
def modifyInterface (name : String) (f : Interface → Interface) : SessionM Unit :=
  modify fun s => { s with interfaces := s.interfaces.map fun (n, i) => if n == name then (n, f i) else (n, i) }

/-- Runs a computation on declarations with the book of an interface. -/
def declaring {α : Type} (name : String) (act : DeclM α) : SessionM α := do
  let i ← interface name
  let s ← get
  let (outcome, work) := (act.run).run { s.work with book := i.book }
  set { s with work }
  modifyInterface name fun i => { i with book := work.book }
  match outcome with
  | .ok a => pure a
  | .error f => throw f

/-- The table of nominal types. -/
def tags : SessionM Tags := return (← get).work.tags

/-- A nominal type of the table. -/
def tag (id : Nat) : SessionM Tag := do
  match (← tags)[id]? with
  | some t => pure t
  | none => throw (.assertionError "")

/-- Issues a warning. -/
def warn (message : String) : SessionM Unit :=
  modify fun s => { s with work := { s.work with warnings := message :: s.work.warnings } }

/-- The struct or union class of an entry, if built. -/
def record? (id : Nat) : SessionM (Option RecordClass) :=
  return ((← get).records.find? (·.1 == id)).map (·.2)

/-- Records what is known of a struct or union class. -/
def setRecord (id : Nat) (r : RecordClass) : SessionM Unit :=
  modify fun s =>
    if s.records.any (·.1 == id) then
      { s with records := s.records.map fun (k, x) => if k == id then (k, r) else (k, x) }
    else { s with records := s.records ++ [(id, r)] }

/-- The enum class of an entry, if built. -/
def enum? (id : Nat) : SessionM (Option EnumClass) :=
  return ((← get).enums.find? (·.1 == id)).map (·.2)

/-- Allocates a zeroed block of memory. -/
def allocate (size : Nat) : SessionM Nat := do
  let s ← get
  let (memory, base) := s.memory.allocate size
  set { s with memory }
  return base

/-- Reads bytes of memory. -/
def readBytes (addr len : Nat) : SessionM (List UInt8) := do
  match (← get).memory.read addr len with
  | .ok bs => pure bs
  | .error f => throw f

/-- Stores bytes in memory. -/
def writeBytes (addr : Nat) (bytes : List UInt8) : SessionM Unit := do
  let s ← get
  match s.memory.write addr bytes with
  | .ok memory => set { s with memory }
  | .error f => throw f

/-- Places code at a new function address. -/
def addCode (code : Code) : SessionM Nat := do
  let addr ← allocate 16
  modify fun s => { s with codes := s.codes ++ [(addr, code)] }
  return addr

/-- The code at a function address. -/
def codeAt? (addr : Nat) : SessionM (Option Code) :=
  return ((← get).codes.find? (·.1 == addr)).map (·.2)

end SessionM

end Basis.Foreign
