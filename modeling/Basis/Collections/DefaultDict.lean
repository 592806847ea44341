import Basis.Value.Hash
import Basis.Value.Repr

/-!
# Mappings with a default factory

A `DefaultDict` is a mapping in insertion order together with a factory: a
lookup of a missing key calls the factory, stores what it makes under the key
and returns it. Without a factory a missing key fails with a `KeyError` whose
text is the key's representation.

A value of the mapping may be the mapping itself (`Slot.itself`), so that its
representation and its documents must stop at the repetition.
-/

namespace Basis.Collections

/-- A value stored in a default mapping. -/
inductive Slot where
  /-- A plain value. -/
  | plain (v : Value)
  /-- The mapping itself. -/
  | itself
  deriving Inhabited

/-- A mapping with a default factory. -/
structure DefaultDict where
  /-- The factory: `None`, or a class that makes the default value. -/
  factory : Value
  /-- The entries, in insertion order. -/
  entries : List (Value × Slot)
  deriving Inhabited

namespace DefaultDict

/-- The value that a factory class makes when called without arguments. -/
def make (factory : Value) : Except Failure Value :=
  match factory with
  | .cls "list" => .ok (.list [])
  | .cls "int" => .ok (.int 0)
  | .cls "str" => .ok (.str "")
  | .cls "dict" => .ok (.dict [])
  | .cls "float" => .ok (.float 0.0)
  | .cls "tuple" => .ok (.tuple [])
  | .cls "bool" => .ok (.bool false)
  | v => .error (.typeError s!"'{v.typeName}' object is not callable")

/-- Whether a value can serve as a factory: `None` or a class. -/
def isFactory : Value → Bool
  | .none | .cls _ => true
  | _ => false

/-- The failure of a missing key. -/
def missingKey (k : Value) : Failure := .keyError k.repr

/-- Checks that a key can be hashed. -/
def checkKey (k : Value) : Except Failure Unit :=
  match k.unhashable? with
  | some t => .error (Value.unhashableFailure t)
  | none => .ok ()

/-- The stored value of a key. -/
def find? (d : DefaultDict) (k : Value) : Option Slot :=
  (d.entries.find? fun e => Value.equals e.1 k).map (·.2)

/-- Stores a value under a key, in place if the key is there. -/
def insert (d : DefaultDict) (k : Value) (v : Slot) : Except Failure DefaultDict := do
  checkKey k
  if d.entries.any (fun e => Value.equals e.1 k) then
    return { d with entries := d.entries.map fun e => if Value.equals e.1 k then (e.1, v) else e }
  else return { d with entries := d.entries ++ [(k, v)] }

/-- The value for a missing key: made by the factory and stored. -/
def missing (d : DefaultDict) (k : Value) : Except Failure (DefaultDict × Slot) :=
  match d.factory with
  | .none => .error (missingKey k)
  | f => do
    let v ← make f
    let d' ← d.insert k (.plain v)
    return (d', .plain v)

/-- Looks a key up, filling it from the factory if it is missing. -/
def getItem (d : DefaultDict) (k : Value) : Except Failure (DefaultDict × Slot) := do
  checkKey k
  match d.find? k with
  | some v => return (d, v)
  | none => d.missing k

/-- Removes a key. -/
def erase (d : DefaultDict) (k : Value) : Except Failure DefaultDict := do
  checkKey k
  match d.find? k with
  | some _ => return { d with entries := d.entries.filter fun e => !Value.equals e.1 k }
  | none => throw (missingKey k)

/-- Whether a key is present. -/
def contains (d : DefaultDict) (k : Value) : Except Failure Bool := do
  checkKey k
  return (d.find? k).isSome

/-- Whether the mapping holds itself as a value. -/
def selfReferent (d : DefaultDict) : Bool :=
  d.entries.any fun e => match e.2 with
    | .itself => true
    | .plain _ => false

/-- The representation: the factory's and that of the entries; the mapping
inside itself is written `defaultdict(...)`. -/
def repr (d : DefaultDict) : String :=
  let slotRepr : Slot → String := fun
    | .plain v => v.repr
    | .itself => "defaultdict(...)"
  let body := ", ".intercalate (d.entries.map fun (k, v) => k.repr ++ ": " ++ slotRepr v)
  "defaultdict(" ++ d.factory.repr ++ ", \x7b" ++ body ++ "\x7d)"

end DefaultDict

end Basis.Collections
