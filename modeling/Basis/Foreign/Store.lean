import Basis.Foreign.Repr
import Basis.Decimal.Integral

/-!
# Reading and writing C data

A value of a class is stored as bytes: a number as its primitive type's bytes
(little-endian two's complement, a float in binary32 or binary64, a `_Bool` as
0 or 1), a pointer as the eight bytes of its address, a struct or union as its
bytes. `SessionM.decodeAt` turns bytes back into a datum: numbers become plain
values (an integer, a one-byte string for `char`, a truth value, a float), the
rest C data at their address.

`SessionM.encodeFor` converts a datum to the bytes of a class, checking it the
way assignment does:

* an integer type takes integers (truth values count as integers) and C
  numbers, within its range: a negative value for an unsigned type is
  "negative", any other misfit "out of bounds";
* `char` takes a one-byte string or a `char`; a float type takes numbers;
* a pointer class takes C data that convert to it: pointers of the same class,
  any pointer to or from `void *` and `char *`, an array as a pointer to its
  items, a struct or union as a pointer to it;
* a struct or union takes a struct or union of the same class, whose bytes are
  copied.

`SessionM.fill` is the looser conversion of initializers: arrays take
sequences of initializers, item by item, and byte strings byte by byte; a
pointer takes a false value as `NULL`.
-/

namespace Basis.Foreign

/-- The bytes of a number of a primitive type. -/
def Scalar.encode (p : Primitive) : Scalar → List UInt8
  | .byte b => encodeLE p.size b.toNat
  | .truth b => encodeLE p.size (if b then 1 else 0)
  | .int n => encodeIntLE p.size n
  | .float x =>
    if p.size == 4 then encodeLE 4 x.toFloat32.toBits.toNat else encodeLE 8 x.toBits.toNat

/-- The number a primitive type reads from its bytes. -/
def Scalar.decode (p : Primitive) (bs : List UInt8) : Scalar :=
  let n := decodeLE bs
  match p.holding with
  | .character => .byte (n % 256).toUInt8
  | .truth => .truth (n != 0)
  | .floating =>
    if p.size == 4 then .float (Float32.ofBits n.toUInt32).toFloat else .float (Float.ofBits n.toUInt64)
  | .integer | .byte => .int (p.wrap n)

namespace SessionM

/-- The primitive type behind a primitive or enum class, with its name. -/
def primitiveFor : CClass → SessionM (String × Primitive)
  | .primitive n => match primitiveOf? n with
    | some p => pure (n, p)
    | none => throw (.keyError ("'" ++ n ++ "'"))
  | .enum id => do
    match ← enum? id with
    | some e => match primitiveOf? e.base with
      | some p => pure (e.base, p)
      | none => throw (.assertionError "")
    | none => throw (.assertionError "")
  | _ => throw (.assertionError "")

/-- The failure of an attribute a class lacks. -/
def noClassAttribute (c : CClass) (attr : String) : SessionM Failure :=
  return .attributeError ("type object '" ++ (← className c) ++ "' has no attribute '" ++ attr ++ "'")

/-- The failure of an attribute a datum lacks. -/
def noAttribute (d : Datum) (attr : String) : SessionM Failure :=
  return Failure.noAttribute (← typeName d) attr

/-- The datum that bytes of a class stand for, placed at an address when it has
one: numbers as plain values, pointers and functions by the address the bytes
hold, arrays, structs and unions at the given address. -/
def decodeAt (c : CClass) (addr : Nat) (bs : List UInt8) : SessionM Datum := do
  match c with
  | .void => pure .none
  | .primitive _ | .enum _ =>
    let (_, p) ← primitiveFor c
    pure ((Scalar.decode p bs).toDatum)
  | .pointer _ => pure (.cdata (.pointer c (decodeLE bs) false))
  | .function .. => pure (.cdata (.function c (decodeLE bs) none none))
  | .array _ length => pure (.cdata (.array c addr (length.getD 0) false))
  | .record _ => pure (.cdata (.record c addr))

/-- Reads a datum of a class at an address. -/
def load (c : CClass) (addr : Nat) : SessionM Datum := do
  match c with
  | .array .. | .record _ => decodeAt c addr []
  | .void => pure .none
  | _ => decodeAt c addr (← readBytes addr (← sizeOfClass c))

/-- The address a datum gives a pointer class (`none`: any address), or the
failure to convert it. -/
def addressFor (d : CData) (target : Option CClass) : SessionM Int := do
  let refuse : SessionM Int := do
    match target with
    | none => throw (.typeError ("cannot convert '" ++ (← cName d.cls) ++ "' to an address"))
    | some t => throw (.typeError ("cannot convert '" ++ (← cName d.cls) ++ "' to '" ++ (← cName t) ++ "'"))
  match d with
  | .value .. => refuse
  | .pointer c a _ | .function c a _ _ =>
    match target with
    | none => pure a
    | some t => if t == c || t.castsFreely || c.castsFreely then pure a else refuse
  | .array c a _ _ =>
    let item := match c with
      | .array i _ => i
      | other => other
    match target with
    | none => pure a
    | some t => if t == .pointer item || t.castsFreely then pure a else refuse
  | .record c a =>
    match target with
    | some t => if t == .pointer c then pure a else refuse
    | none => refuse

/-- The integer `int()` gives a datum, for conversions to integer classes. -/
def intOf (d : Datum) : SessionM Int := do
  match d with
  | .plain (.int n) => pure n
  | .plain (.bool b) => pure (if b then 1 else 0)
  | .cdata (.value _ v) =>
    match v with
    | .float x =>
      match Decimal.integralPart? x with
      | some n => pure n
      | none =>
        if x.isNaN then throw (.valueError "cannot convert float NaN to integer")
        else throw (.overflowError "cannot convert float infinity to integer")
    | .truth b =>
      warn ("__int__ returned non-int (type bool).  The ability to return an instance of a strict " ++
        "subclass of int is deprecated, and may be removed in a future version of Python.")
      pure (if b then 1 else 0)
    | other => pure ((other.int?).getD 0)
  | other =>
    throw (.typeError ("int() argument must be a string, a bytes-like object or a real number, not '" ++
      (← typeName other) ++ "'"))

/-- A float as a float type stores it, from a number. -/
def floatFor (p : Primitive) (d : Datum) : SessionM Float := do
  match d with
  | .plain (.float x) => pure (p.roundFloat x)
  | .plain (.int n) =>
    let x := Float.ofInt n
    if x.isInf then throw (.overflowError "int too large to convert to float")
    pure (p.roundFloat x)
  | .plain (.bool b) => pure (if b then 1.0 else 0.0)
  | .cdata (.value _ (.float x)) => pure (p.roundFloat x)
  | .cdata _ => throw (.typeError ("must be real number, not " ++ (← typeName d)))
  | other => throw (.typeError ("float expected, got " ++ (← typeName other)))

/-- The bytes of a datum as a value of a class, checked as an assignment checks it. -/
def encodeFor (c : CClass) (d : Datum) : SessionM (List UInt8) := do
  match c with
  | .primitive _ | .enum _ =>
    let (name, p) ← primitiveFor c
    match p.holding with
    | .character =>
      match d with
      | .plain (.bytes b) =>
        if b.size == 1 then pure (b.toList.take 1) else throw (.typeError "character expected, got bytes")
      | .cdata (.value (.primitive "char") (.byte b)) => pure [b]
      | other => throw (.typeError ("character expected, got " ++ (← typeName other)))
    | .floating =>
      match d with
      | .plain (.int _) | .plain (.float _) | .plain (.bool _) | .cdata _ =>
        pure ((Scalar.float (← floatFor p d)).encode p)
      | other => throw (.typeError ("float expected, got " ++ (← typeName other)))
    | _ =>
      let n ← match d with
        | .plain (.int n) => pure n
        | .plain (.bool b) => pure (if b then 1 else 0)
        | .cdata _ => intOf d
        | other => throw (.typeError ("integer expected, got " ++ (← typeName other)))
      if !p.fits n then
        if !p.signed && n < 0 then throw (.overflowError (name ++ ": negative integer"))
        else throw (.overflowError (name ++ ": integer out of bounds"))
      pure ((Scalar.int n).encode p)
  | .pointer _ | .function .. =>
    match d with
    | .cdata x => pure (encodeIntLE pointerSize (← addressFor x (some c)))
    | other => throw (.typeError ("unexpected " ++ (← typeName other) ++ " object"))
  | .record _ =>
    match d with
    | .cdata (.record c' a) =>
      if c' == c then readBytes a (← sizeOfClass c)
      else throw (.typeError "incompatible types")
    | .cdata (.array ..) => throw (.typeError "incompatible types")
    | other => throw (← noAttribute other "_blob")
  | .array .. => throw (.typeError "")
  | .void =>
    match d with
    | .plain .none => pure []
    | other => throw (.typeError ("None expected, got " ++ (← typeName other) ++ " object"))

/-- Stores a datum as a value of a class at an address. -/
def store (c : CClass) (addr : Nat) (d : Datum) : SessionM Unit := do
  writeBytes addr (← encodeFor c d)

/-- The truth of a datum. -/
def truthy (d : Datum) : SessionM Bool := do
  match d with
  | .plain v => pure v.truthy
  | .list xs | .tuple xs => pure !xs.isEmpty
  | .dict es => pure !es.isEmpty
  | .cdata (.value _ v) =>
    match v with
    | .byte b => pure (b != 0)
    | .truth b => pure b
    | .int n => pure (n != 0)
    | .float x => pure (x != 0.0)
  | .cdata (.pointer _ a _) | .cdata (.function _ a _ _) => pure (a != 0)
  | .cdata (.array _ _ n _) => pure (n != 0)
  | _ => pure true

/-- The items of a C array, read one by one. -/
def arrayItems (c : CClass) (addr length : Nat) : SessionM (List Datum) := do
  let item := match c with
    | .array i _ => i
    | other => other
  let size ← sizeOfClass item
  (List.range length).mapM fun i => load item (addr + i * size)

/-- The items iteration gives of a datum. -/
def items (d : Datum) : SessionM (List Datum) := do
  match d with
  | .list xs | .tuple xs => pure xs
  | .dict es => pure (es.map (·.1))
  | .plain v =>
    match v.items? with
    | some xs => pure (xs.map Datum.plain)
    | none => throw (.typeError ("'" ++ v.typeName ++ "' object is not iterable"))
  | .cdata (.array c a n _) => arrayItems c a n
  | .cdata x => throw (.typeError ("cdata '" ++ (← cName x.cls) ++ "' does not support iteration"))
  | other => throw (.typeError ("'" ++ (← typeName other) ++ "' object is not iterable"))

/-- The length `len()` gives a datum. -/
def lengthOf (d : Datum) : SessionM Nat := do
  match d with
  | .list xs | .tuple xs => pure xs.length
  | .dict es => pure es.length
  | .plain v =>
    match v.length? with
    | some n => pure n
    | none => throw (.typeError ("object of type '" ++ v.typeName ++ "' has no len()"))
  | .cdata (.array _ _ n _) => pure n
  | other => throw (.typeError ("object of type '" ++ (← typeName other) ++ "' has no len()"))

/-- The members of a struct or union class, laid out. -/
def membersOf (id : Nat) : SessionM (List Member) := do
  match ← record? id with
  | some { members := some ms, .. } => pure ms
  | _ => pure []

/-- The last member of a name. -/
def member? (id : Nat) (name : String) : SessionM (Option Member) :=
  return (← membersOf id).reverse.find? (·.name == name)

/-- The key of a mapping entry as messages quote it. -/
def keyRepr (k : Datum) : SessionM String := datumRepr k

mutual

/-- Initializes the value of a class at an address from an initializer. -/
def fill (fuel : Nat) (c : CClass) (addr : Nat) (init : Datum) : SessionM Unit := do
  match fuel with
  | 0 => throw ⟨"RecursionError", "maximum recursion depth exceeded"⟩
  | fuel + 1 =>
  match c with
  | .primitive _ | .enum _ => store c addr init
  | .pointer item =>
    if ← truthy init then
      let bytes ← encodeFor c init
      if item matches .void then throw (.attributeError "'c_void_p' object has no attribute 'contents'")
      writeBytes addr bytes
  | .function .. =>
    if ← truthy init then
      throw (.notImplemented "ctypes backend: not supported: initializers for function pointers")
  | .array item length => fillArray fuel c item addr (length.getD 0) init
  | _ => throw (← noClassAttribute c "_initialize")

/-- Initializes an array of `length` items at an address from an initializer:
a byte string byte by byte, an array of the same class item by item, any other
sequence item by item; more initializers than items fail. -/
def fillArray (fuel : Nat) (c item : CClass) (addr length : Nat) (init : Datum) :
    SessionM Unit := do
  match fuel with
  | 0 => throw ⟨"RecursionError", "maximum recursion depth exceeded"⟩
  | fuel + 1 =>
  let values ← match init with
    | .plain (.bytes b) => pure (b.toList.map fun x => Datum.bytes [x])
    | .cdata (.array c' a n _) =>
      if n != length || !(c' == c) then
        throw (.typeError ("length/type mismatch: " ++ (← datumRepr init)))
      arrayItems c' a n
    | other => items other
  if values.length > length then throw (.indexError "too many initializers")
  let size ← sizeOfClass item
  let mut i := 0
  for v in values do
    fill fuel item (addr + i * size) v
    i := i + 1

end

/-- The depth of nested initializers allowed. -/
def initFuel : Nat := 1000

/-- Initializes a struct or union at an address: from a mapping of members to
initializers, or from a sequence of initializers for the members in order; a
union takes at most one. -/
def fillRecord (c : CClass) (id : Nat) (addr : Nat) (init : Datum) : SessionM Unit := do
  let some r ← record? id | throw (.assertionError "")
  if r.union then
    let n ← lengthOf init
    if n > 1 then
      throw (.valueError ("union initializer: " ++ toString n ++
        " items given, but only one supported (use a dict if needed)"))
  let names := r.memberClasses.map (·.1)
  let entries ← match init with
    | .dict es => pure es
    | .plain (.bytes _) | .plain (.str _) => throw (.typeError "union initializer: got a str")
    | other => do
      let vs ← items other
      if vs.length > names.length then
        throw (.valueError ("too many values for " ++ (← cName c) ++ " initializer"))
      let pairs := (names.zip vs).map fun (n, v) => (Datum.str n, v)
      pure (pairs.foldl (fun acc (k, v) =>
        match k with
        | .plain (.str s) =>
          if acc.any (fun e => match e.1 with
            | .plain (.str t) => t == s
            | _ => false) then
            acc.map fun e => match e.1 with
              | .plain (.str t) => if t == s then (e.1, v) else e
              | _ => e
          else acc ++ [(k, v)]
        | _ => acc ++ [(k, v)]) [])
  for (k, v) in entries do
    let name ← match k with
      | .plain (.str s) => pure s
      | other => throw (.keyError (← keyRepr other))
    let some (_, cls) := r.memberClasses.reverse.find? (·.1 == name)
      | throw (.keyError (← keyRepr k))
    let some fc := cls | throw (.assertionError "not implemented: initializer with bit fields")
    let some m ← member? id name | throw (.keyError (← keyRepr k))
    fill initFuel fc (addr + m.place.offset) v

end SessionM

end Basis.Foreign
