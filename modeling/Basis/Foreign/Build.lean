import Basis.Foreign.Session
import Basis.Foreign.Cdef

/-!
# Classes from declared types

`SessionM.classOf` gives the class of a declared type for an interface, the
way the interface caches it:

* the class of `void`, of a primitive type the machine has, and of pointers,
  arrays and function pointers built from classes; qualifiers are dropped;
* a struct or union gets one class for all interfaces, named by the spelling it
  has when the class is first built; the class is *completed* after it is
  built: its members are given classes, laid out (`Shape.ofSlots`), and made
  readable by name on values and on pointers; a pointer member's target is
  completed later, so that two structs may point to each other;
* an enum gets one class, whose values are those of the smallest of `int` and
  `long` (or their unsigned forms when no value is negative) that holds them.

Failures follow the declared type: primitive types the machine lacks, types a
compiler has to complete, function types that are no pointers, arrays of
unknown length, and partial structs, unions and enums all fail; a struct with
an anonymous member is refused part way through its completion, which leaves
its layout in place and its completion broken off.

`SessionM.typeOf` reads a type text and caches its class by text.
-/

namespace Basis.Foreign

/-- The warning that an enum without values is taken as `unsigned int`. -/
def emptyEnumWarning (t : Tag) : String :=
  "'" ++ t.spelling ++ "' has no values explicitly defined; " ++
    "guessing that it is equivalent to 'unsigned int'"

/-- The integer type an enum is stored as: `int` or `long` when a value is
negative, else their unsigned forms, the first whose range holds every value. -/
def enumBaseOf (t : Tag) : Except Failure String := do
  let values := t.enumvalues
  let lo := values.foldl min (values.headD 0)
  let hi := values.foldl max (values.headD 0)
  let signed := lo < 0
  let (c1, c2) := if signed then ("int", "long") else ("unsigned int", "unsigned long")
  let sign : Nat := if signed then 1 else 0
  let fits := fun (size : Nat) => lo ≥ -Int.pow 2 (8 * size - 1) && hi < Int.pow 2 (8 * size - sign)
  if fits 4 then return c1
  if fits 8 then return c2
  throw (Source.cdefError (t.spelling ++ " values don't all fit into either 'long' or 'unsigned long'"))

namespace SessionM

/-- The failure of a class without a C type behind it. -/
def noCType (cls : String) : Failure :=
  .attributeError ("type object '" ++ cls ++ "' has no attribute '_ctype'")

/-- The size of values of a class. -/
def sizeOfClass : CClass → SessionM Nat
  | .void => do throw (noCType (← className .void))
  | .primitive n => pure ((primitiveOf? n).map (·.size) |>.getD 0)
  | .enum id => do
    match ← enum? id with
    | some e => pure ((primitiveOf? e.base).map (·.size) |>.getD 0)
    | none => pure 0
  | .pointer _ | .function .. => pure pointerSize
  | .array item (some n) => return (← sizeOfClass item) * n
  | .array _ none => throw (.typeError "this type has no size")
  | .record id => do
    match ← record? id with
    | some { shape := some sh, .. } => pure sh.size
    | _ => pure 0

/-- The alignment of values of a class. -/
def alignOfClass : CClass → SessionM Nat
  | .void => do throw (noCType (← className .void))
  | .primitive n => pure ((primitiveOf? n).map (·.size) |>.getD 0)
  | .enum id => do
    match ← enum? id with
    | some e => pure ((primitiveOf? e.base).map (·.size) |>.getD 0)
    | none => pure 0
  | .pointer _ | .function .. => pure pointerSize
  | .array item (some _) => alignOfClass item
  | .array _ none => throw (.typeError "no alignment info")
  | .record id => do
    match ← record? id with
    | some { shape := some sh, .. } => pure sh.align
    | _ => pure 0

/-- The class a declared type has in an interface's cache. -/
def cached? (ffi : String) (t : CType) : SessionM (Option CClass) :=
  return ((← interface ffi).cached.find? (fun e => CType.sameValue e.1 t)).map (·.2)

/-- The names a struct or union class has of its own, which no member may take. -/
def recordAttributes : List String :=
  ["kind", "mro", "_blob", "_ctype", "_kind", "_reftypename", "_bfield_types", "_offsetof",
   "_create_ctype_obj", "_get_own_repr", "_convert_to_address", "_from_ctypes", "_to_ctypes",
   "_newp", "_arg_to_ctypes", "_get_c_name", "_fix_class", "_addr_repr", "_get_size",
   "_get_size_of_instance", "_cast_from", "_cast_to_integer", "_alignment", "_make_cmp",
   "_to_string", "__weakref__", "__slots__", "__name__", "__module__", "__doc__", "__dict__",
   "__init__", "__repr__", "__eq__", "__ne__", "__lt__", "__le__", "__gt__", "__ge__",
   "__hash__", "__iter__", "__class__", "__metaclass__", "__qualname__", "__mro__",
   "__bases__", "__base__"]

/-- The names a pointer class has of its own, which no member may take. -/
def pointerAttributes : List String :=
  ["kind", "mro", "_address", "_as_ctype_ptr", "_own", "_automatic_casts", "_BItem", "_ctype",
   "_bitem_size", "_reftypename", "_newp", "_cast_from", "_new_pointer_at", "_get_own_repr",
   "_cast_to_integer", "_to_ctypes", "_from_ctypes", "_initialize", "_convert_to_address",
   "_arg_to_ctypes", "_get_c_name", "_fix_class", "_addr_repr", "_get_size",
   "_get_size_of_instance", "_alignment", "_make_cmp", "_to_string", "__weakref__",
   "__slots__", "__name__", "__module__", "__doc__", "__dict__", "__init__", "__repr__",
   "__add__", "__sub__", "__getitem__", "__setitem__", "__nonzero__", "__bool__", "__eq__",
   "__ne__", "__lt__", "__le__", "__gt__", "__ge__", "__hash__", "__iter__", "__class__",
   "__metaclass__", "__qualname__", "__mro__", "__bases__", "__base__"]

/-- The name the run time gives the C type of a class in messages. -/
def ctypesName : CClass → String
  | .primitive "char" => "c_char"
  | .primitive "double" => "c_double"
  | .primitive "float" => "c_float"
  | .pointer _ => "LP_c_void_p"
  | _ => "c_void_p"

/-- Whether a bit field may have a member of this class. -/
def bitFieldAllowed : CClass → Bool
  | .primitive n => match primitiveOf? n with
    | some p => p.holding != .character && p.holding != .floating
    | none => false
  | .enum _ => true
  | _ => false

/-- The base class of an enum: the first of two candidates that holds every value. -/
def enumBase (t : Tag) : SessionM String := do
  if t.enumvalues.isEmpty then warn (emptyEnumWarning t)
  match enumBaseOf t with
  | .ok base => return base
  | .error f => throw f

mutual

/-- The class of a declared type in an interface, built and cached when the
interface has none yet; a struct or union is completed unless `canDelay`. -/
def classFor (fuel : Nat) (ffi : String) (t : CType) (canDelay : Bool) : SessionM CClass := do
  match fuel with
  | 0 => throw ⟨"RecursionError", "maximum recursion depth exceeded"⟩
  | fuel + 1 =>
    let c ← match ← cached? ffi t with
      | some c => pure c
      | none =>
        let c ← buildClass fuel ffi t
        if (← cached? ffi t).isNone then
          modifyInterface ffi fun i => { i with cached := i.cached ++ [(t, c)] }
        pure ((← cached? ffi t).getD c)
    match t with
    | .tagged id =>
      let tg ← tag id
      if tg.kind != .enum && !canDelay then finishRecord fuel ffi t id
    | _ => pure ()
    return c

/-- Builds the class of a declared type. -/
def buildClass (fuel : Nat) (ffi : String) (t : CType) : SessionM CClass := do
  match fuel with
  | 0 => throw ⟨"RecursionError", "maximum recursion depth exceeded"⟩
  | fuel + 1 =>
  let tbl ← tags
  match t with
  | .void => pure .void
  | .primitive n =>
    if n == "wchar_t" then throw (.notImplemented "new_primitive_type: <wchar_t>: wchar_t")
    match primitiveOf? n with
    | some _ => pure (.primitive n)
    | none => throw (.keyError ("'" ++ n ++ "'"))
  | .unknownInteger n =>
    throw (.notImplemented ("integer type '" ++ n ++ "' can only be used after compilation"))
  | .unknownFloat n =>
    throw (.notImplemented ("float type '" ++ n ++ "' can only be used after compilation"))
  | .function false .. =>
    throw (Source.cdefError ("cannot render the type <" ++ t.spelling tbl ++
      ">: it is a function type, not a pointer-to-function type"))
  | .function true args result ellipsis _ _ =>
    let r ← classFor fuel ffi result false
    let as ← args.mapM fun a => classFor fuel ffi a false
    pure (.function as r ellipsis)
  | .pointer target _ _ | .namedPointer target _ _ =>
    let item ← classFor fuel ffi target true
    match item with
    | .array _ none => throw (.typeError "must be a ctypes type")
    | _ => pure (.pointer item)
  | .array item length _ =>
    match length with
    | .deferred =>
      throw (Source.cdefError ("cannot render the type <" ++ t.spelling tbl ++ ">: unknown length"))
    | _ =>
      let _ ← classFor fuel ffi item false
      let ptr ← classFor fuel ffi (CType.pointerTo tbl item 0) false
      let itemCls := match ptr with
        | .pointer i => i
        | other => other
      match length with
      | .fixed n =>
        if itemCls matches .void then throw (noCType (← className .void))
        if n < 0 then throw (.valueError ("Array length must be >= 0, not " ++ toString n))
        pure (.array itemCls (some n.toNat))
      | _ => pure (.array itemCls none)
  | .tagged id =>
    let tg ← tag id
    if tg.kind == .enum then
      if tg.isPartial then throw ⟨"VerificationMissing", tg.spelling⟩
      let base ← enumBase tg
      if (← enum? id).isNone then
        let names := (tg.enumvalues.zip tg.enumerators).foldl (fun acc (v, n) =>
          if acc.any (·.1 == v) then acc else acc ++ [(v, n)]) []
        modify fun s => { s with enums := s.enums ++ [(id, { name := tg.officialName, base, names })] }
      pure (.enum id)
    else
      if tg.isPartial then throw ⟨"VerificationMissing", tg.spelling⟩
      modify fun s => { s with pending := s.pending ++ [t] }
      if (← record? id).isNone then
        setRecord id { name := tg.officialName, union := tg.kind == .union }
      pure (.record id)

/-- Completes the class of a struct or union: gives its members classes and
lays them out, unless it is done or has no members yet. -/
def finishRecord (fuel : Nat) (ffi : String) (t : CType) (id : Nat) : SessionM Unit := do
  match fuel with
  | 0 => throw ⟨"RecursionError", "maximum recursion depth exceeded"⟩
  | fuel + 1 =>
  let tg ← tag id
  let some r ← record? id | throw (.assertionError "")
  if r.completion != 0 then
    if r.completion != 2 then
      throw (.notImplemented ("recursive structure declaration for '" ++ tg.name ++ "'"))
    return
  if (← cached? ffi t).isNone then
    throw (.keyError ("<" ++ t.spelling (← tags) ++ ">"))
  setRecord id { r with completion := 1 }
  match tg.fields with
  | none => pure ()
  | some fields =>
    let classes ← fields.mapM fun f => classFor fuel ffi f.type false
    let pack : Nat := match tg.packed with
      | some p => p.toNat
      | none => 0
    completeRecord fuel ffi t id (fields.zip classes) pack
  let some r ← record? id | throw (.assertionError "")
  setRecord id { r with completion := 2 }

/-- Lays out the members of a struct or union class and makes them readable by
name, on its values and then on pointers to it. -/
def completeRecord (fuel : Nat) (ffi : String) (t : CType) (id : Nat)
    (members : List (Field × CClass)) (pack : Nat) : SessionM Unit := do
  match fuel with
  | 0 => throw ⟨"RecursionError", "maximum recursion depth exceeded"⟩
  | fuel + 1 =>
  let some r ← record? id | throw (.assertionError "")
  for (_, c) in members do
    if c matches .void then throw (noCType (← className .void))
  if r.members.isSome then throw (.attributeError "_fields_ is final")
  let mut slots : List Slot := []
  let mut index := 0
  for (f, c) in members do
    if c matches .array _ none then
      throw (.typeError ("second item in _fields_ tuple (index " ++ toString index ++
        ") must be a C type"))
    let size ← sizeOfClass c
    let align ← alignOfClass c
    let width ← if f.bitsize < 0 then pure none else do
      if !bitFieldAllowed c then
        throw (.typeError ("bit fields not allowed for type " ++ ctypesName c))
      if f.bitsize ≤ 0 || f.bitsize > (8 * size : Nat) then
        throw (.valueError "number of bits invalid for bit field")
      pure (some f.bitsize.toNat)
    slots := slots ++ [({ size := size, align := align, width := width } : Slot)]
    index := index + 1
  let shape := Shape.ofSlots r.union pack slots
  let placed := (members.zip shape.places).map fun ((f, c), p) => ({ name := f.name, cls := c, place := p } : Member)
  let memberClasses := members.map fun (f, c) => (f.name, if f.bitsize < 0 then some c else none)
  let r := { r with members := some placed, shape := some shape, memberClasses, instantiable := true }
  setRecord id r
  for (f, _) in members do
    if f.name == "" then throw (.notImplemented "nested anonymous structs/unions")
    let some r ← record? id | throw (.assertionError "")
    if recordAttributes.contains f.name || r.properties.contains f.name then
      throw (.valueError ("the field name '" ++ f.name ++ "' conflicts in the ctypes backend"))
    setRecord id { r with properties := r.properties ++ [f.name] }
  let _ ← cachedClassFor fuel ffi (CType.pointerTo (← tags) t 0)
  for (f, _) in members do
    let some r ← record? id | throw (.assertionError "")
    if pointerAttributes.contains f.name || r.pointerProperties.contains f.name then
      throw (.valueError ("the field name '" ++ f.name ++ "' conflicts in the ctypes backend"))
    setRecord id { r with pointerProperties := r.pointerProperties ++ [f.name] }

/-- The class of a declared type in an interface, as the interface's users
ask for it: built, then every struct and union met on the way completed. -/
def cachedClassFor (fuel : Nat) (ffi : String) (t : CType) : SessionM CClass := do
  match fuel with
  | 0 => throw ⟨"RecursionError", "maximum recursion depth exceeded"⟩
  | fuel + 1 =>
  match ← cached? ffi t with
  | some c => pure c
  | none =>
    let saved := (← get).pending
    modify fun s => { s with pending := [] }
    tryFinally (do
        let c ← classFor fuel ffi t false
        finishPending fuel ffi
        pure c)
      (modify fun s => { s with pending := saved })

/-- Completes the structs and unions met while building, in the order met,
including those met while completing them. -/
def finishPending (fuel : Nat) (ffi : String) : SessionM Unit := do
  match fuel with
  | 0 => throw ⟨"RecursionError", "maximum recursion depth exceeded"⟩
  | fuel + 1 =>
  match (← get).pending with
  | [] => pure ()
  | t :: rest =>
    modify fun s => { s with pending := rest }
    match t with
    | .tagged id => finishRecord fuel ffi t id
    | _ => pure ()
    finishPending fuel ffi

end

/-- The depth of classes built within classes allowed before giving up. -/
def classFuel : Nat := 1000

/-- The class of a declared type, as an interface's users ask for it. -/
def cachedClass (ffi : String) (t : CType) : SessionM CClass := cachedClassFor classFuel ffi t

/-- The class of a type text in an interface, and whether the text names a
function type (whose class is that of a pointer to it); cached by text. -/
def typeOfText (ffi : String) (cdecl : String) : SessionM (CClass × Bool) := do
  match (← interface ffi).parsed.find? (·.1 == cdecl) with
  | some (_, c, really) => pure (c, really)
  | none =>
    let (t, _) ← declaring ffi (parseTypeAndQuals cdecl)
    let really := t.isRawFunction
    let tbl ← tags
    let t := if really then t.asFunctionPointer tbl else t
    let c ← cachedClass ffi t
    modifyInterface ffi fun i => { i with parsed := i.parsed ++ [(cdecl, c, really)] }
    pure (c, really)

/-- The class of a type text; a function type fails unless `asPointer`. -/
def typeOf (ffi : String) (cdecl : String) (asPointer : Bool := false) : SessionM CClass := do
  let (c, really) ← typeOfText ffi cdecl
  if really && !asPointer then
    throw (Source.cdefError ("the type '" ++ cdecl ++
      "' is a function type, not a pointer-to-function type"))
  pure c

end SessionM

end Basis.Foreign
