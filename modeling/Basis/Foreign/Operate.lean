import Basis.Foreign.Make
import Basis.Foreign.Libc
import Basis.Text.IntLiteral
import Basis.Value.Signature
import Basis.Value.Compare

/-!
# Operating on foreign data

The operations a session applies to data:

* indexing: a pointer reads the item at an offset (an allocated pointer only
  its first), an array checks the index against its length;
* members: a struct or union reads and writes its members by name, and so does
  a pointer to one; an array member cannot be assigned; a bit field is read
  from the bits of its storage and refuses a value it cannot hold;
* arithmetic: a pointer or array plus or minus an integer moves by items, two
  pointers of one class subtract to a number of items; numbers compare by
  value, pointers and arrays by address;
* calls: a C function converts its arguments by its parameters' classes, takes
  C data for the arguments after `...`, and runs the code at its address, a
  function of the C library or a callback;
* callbacks: made from a function of the scripting side; when the function
  fails or returns what the result class refuses, the callback returns its
  error value instead;
* libraries: a library answers its functions, variables, constants and
  enumerators by name.
-/

namespace Basis.Foreign

/-- What a name of a library stands for. -/
inductive Accessor where
  /-- A function, of a declared type. -/
  | function (t : CType)
  /-- A global variable, of a declared type. -/
  | variable (t : CType)
  /-- A constant that is not an integer. -/
  | constant
  /-- An integer constant. -/
  | intConstant (v : Int)
  /-- An enumerator of an enum. -/
  | enumerator (id : Nat) (v : Int)
  deriving Inhabited

namespace SessionM

/-- The failure of an operator applied to data of the wrong types. -/
def unsupported (opr : String) (x y : Datum) : SessionM Failure :=
  return .typeError ("unsupported operand type(s) for " ++ opr ++ ": '" ++ (← typeName x) ++ "' and '" ++
    (← typeName y) ++ "'")

/-- The integer of an index, where the datum is one. -/
def indexOf? : Datum → Option Int
  | .plain (.int n) => some n
  | .plain (.bool b) => some (if b then 1 else 0)
  | _ => none

/-- Python's quotient rounded down. -/
def floorDiv (a b : Int) : Int := Int.fdiv a b

/-- Applies a function of the scripting side to arguments. -/
def applyFunction (name : String) (args : List Datum) : SessionM Datum := do
  let arity := fun (k : Nat) => do
    if args.length != k then
      let plural := if k == 1 then "" else "s"
      let verb := if args.length == 1 then "was" else "were"
      if args.length > k then
        throw (.typeError ("py_" ++ name ++ "() takes " ++ toString k ++ " positional argument" ++ plural ++
          " but " ++ toString args.length ++ " " ++ verb ++ " given"))
      else
        let missing := ["a", "b"].drop args.length |>.take (k - args.length)
        throw (.typeError ("py_" ++ name ++ "() missing " ++ toString missing.length ++
          " required positional argument" ++ (if missing.length == 1 then "" else "s") ++ ": " ++
          Signature.joinNames missing))
  match name with
  | "add" =>
    arity 2
    match args with
    | [a, b] => addData a b
    | _ => pure .none
  | "neg" =>
    arity 1
    match args with
    | [.plain (.int n)] => pure (.int (-n))
    | [.plain (.bool b)] => pure (.int (if b then -1 else 0))
    | [.plain (.float x)] => pure (.float (-x))
    | [other] => throw (.typeError ("bad operand type for unary -: '" ++ (← typeName other) ++ "'"))
    | _ => pure .none
  | "ident" =>
    arity 1
    pure (args.headD .none)
  | "raise" => throw (.valueError "raised by callback")
  | "const42" => pure (.int 42)
  | _ => pure .none
where
  /-- The sum of two data. -/
  addData (a b : Datum) : SessionM Datum := do
    match a, b with
    | .plain (.int x), .plain (.int y) => pure (.int (x + y))
    | .plain (.float x), .plain (.float y) => pure (.float (x + y))
    | .plain (.int x), .plain (.float y) => pure (.float (Float.ofInt x + y))
    | .plain (.float x), .plain (.int y) => pure (.float (x + Float.ofInt y))
    | .plain (.str x), .plain (.str y) => pure (.str (x ++ y))
    | .plain (.bytes x), .plain (.bytes y) => pure (.plain (.bytes (x ++ y)))
    | .list x, .list y => pure (.list (x ++ y))
    | _, _ => throw (← unsupported "+" a b)

/-- The value of an integer-like datum for arithmetic. -/
def arith? : Datum → Option Int
  | .plain (.int n) => some n
  | .plain (.bool b) => some (if b then 1 else 0)
  | _ => none

/-- A pointer of a class moved by items. -/
def movePointer (c : CClass) (a : Int) (by_ : Int) : SessionM Datum := do
  match c with
  | .pointer item =>
    if item matches .void then
      throw (.attributeError ("'" ++ (← className c) ++ "' object has no attribute '_bitem_size'"))
    pure (.cdata (.pointer c (a + by_ * (← sizeOfClass item)) false))
  | _ => pure .none

/-- `x + y`. -/
def plus (x y : Datum) : SessionM Datum := do
  match x, arith? y with
  | .cdata (.pointer c a _), some n => movePointer c a n
  | .cdata (.array c a _ _), some n =>
    let item := match c with
      | .array i _ => i
      | other => other
    pure (.cdata (.pointer (.pointer item) (a + n * (← sizeOfClass item)) false))
  | .plain _, _ | .list _, _ => applyFunction.addData x y
  | _, _ => throw (← unsupported "+" x y)

/-- `x - y`. -/
def minus (x y : Datum) : SessionM Datum := do
  match x, y with
  | .cdata (.pointer c a _), _ =>
    match arith? y with
    | some n => movePointer c a (-n)
    | none =>
      match y with
      | .cdata (.pointer c' b _) =>
        if c == c' then
          match c with
          | .pointer item =>
            if item matches .void then
              throw (.attributeError ("'" ++ (← className c) ++ "' object has no attribute '_bitem_size'"))
            pure (.int (floorDiv (a - b) (← sizeOfClass item)))
          | _ => throw (← unsupported "-" x y)
        else throw (← unsupported "-" x y)
      | _ => throw (← unsupported "-" x y)
  | .plain (.int a), .plain (.int b) => pure (.int (a - b))
  | .plain (.float a), .plain (.float b) => pure (.float (a - b))
  | .plain (.int a), .plain (.float b) => pure (.float (Float.ofInt a - b))
  | .plain (.float a), .plain (.int b) => pure (.float (a - Float.ofInt b))
  | _, _ => throw (← unsupported "-" x y)

/-- A plain value compared by Python's rules: `none` when the types do not compare. -/
def comparePlain (a b : Value) : Option Ordering :=
  let num : Value → Option Float := fun
    | .int n => some (Float.ofInt n)
    | .bool b => some (if b then 1.0 else 0.0)
    | .float x => some x
    | _ => none
  match a, b with
  | .int x, .int y => some (compare x y)
  | .int x, .bool y => some (compare x (if y then 1 else 0))
  | .bool x, .int y => some (compare (if x then (1 : Int) else 0) y)
  | .bool x, .bool y => some (compare (if x then (1 : Int) else 0) (if y then 1 else 0))
  | .str x, .str y => some (compare x y)
  | .bytes x, .bytes y => some (compare x.toList y.toList)
  | _, _ =>
    match num a, num b with
    | some x, some y => some (if x < y then .lt else if x == y then .eq else .gt)
    | _, _ => none

/-- Whether an ordering satisfies a comparison operator. -/
def holds (opr : String) (o : Ordering) : Bool :=
  match opr with
  | "==" => o == .eq
  | "!=" => o != .eq
  | "<" => o == .lt
  | "<=" => o != .gt
  | ">" => o == .gt
  | _ => o != .lt

/-- The failure of an ordering between values that have none. -/
def notOrderable (opr : String) (a b : String) : Failure :=
  .typeError ("'" ++ opr ++ "' not supported between instances of '" ++ a ++ "' and '" ++ b ++ "'")

/-- The operator with its operands swapped. -/
def swapped (opr : String) : String :=
  match opr with
  | "<" => ">"
  | ">" => "<"
  | "<=" => ">="
  | ">=" => "<="
  | other => other

/-- The plain value of C data of a primitive class. -/
def primitiveValue? : Datum → Option Value
  | .cdata (.value _ v) =>
    match v.toDatum with
    | .plain p => some p
    | _ => none
  | _ => none

/-- Whether a datum is C data that compares by address: anything but a primitive value. -/
def comparesByAddress : Datum → Bool
  | .cdata (.value ..) => false
  | .cdata _ => true
  | _ => false

/-- Compares two plain values: equality never fails, an ordering between
values that have none does. -/
def comparePlainBy (opr : String) (a b : Value) : Except Failure Bool :=
  if opr == "==" then .ok (Value.equals a b)
  else if opr == "!=" then .ok (!Value.equals a b)
  else
    match comparePlain a b with
    | some o => .ok (holds opr o)
    | none => .error (notOrderable opr a.typeName b.typeName)

/-- The comparison C data makes with another datum: by address between two
pointers or arrays, by value between primitives and plain values, and `none`
(not implemented) between a pointer and anything else. -/
def compareFromCData (opr : String) (x : CData) (y : Datum) : SessionM (Option Bool) := do
  let vPtr := comparesByAddress (.cdata x)
  let wPtr := comparesByAddress y
  if vPtr && wPtr then
    match y with
    | .cdata b => return some (holds opr (compare (← addressFor x none) (← addressFor b none)))
    | _ => return none
  if vPtr || wPtr then return none
  let some a := primitiveValue? (.cdata x) | return none
  let b? := match y with
    | .plain p => some p
    | other => primitiveValue? other
  match b? with
  | some b =>
    match comparePlainBy opr a b with
    | .ok r => return some r
    | .error f => throw f
  | none =>
    if opr == "==" then return some false
    if opr == "!=" then return some true
    throw (notOrderable opr a.typeName (← typeName y))

/-- Compares two data with a comparison operator: the left operand's
comparison first, then the right one's reflected, then identity for equality. -/
def compareData (opr : String) (x y : Datum) : SessionM Bool := do
  let first ← match x, y with
    | .cdata a, _ => compareFromCData opr a y
    | .plain a, .plain b =>
      match comparePlainBy opr a b with
      | .ok r => pure (some r)
      | .error f => throw f
    | _, _ => pure none
  if let some r := first then return r
  let second ← match y with
    | .cdata b => compareFromCData (swapped opr) b x
    | _ => pure none
  if let some r := second then return r
  if opr == "==" then return false
  if opr == "!=" then return true
  throw (notOrderable opr (← typeName x) (← typeName y))

/-- The value of a member of a struct or union at an address. -/
def readMember (base : Nat) (m : Member) : SessionM Datum := do
  let addr := base + m.place.offset
  match m.place.bits with
  | none =>
    match m.cls with
    | .array item (some 0) => pure (.cdata (.pointer (.pointer item) addr false))
    | c => load c addr
  | some (first, width) =>
    let (_, p) ← primitiveFor m.cls
    let raw := decodeLE (← readBytes addr p.size)
    let v := (raw / Nat.pow 2 first) % Nat.pow 2 width
    let v : Int := if p.signed && v ≥ Nat.pow 2 (width - 1) then (v : Int) - Int.pow 2 width else v
    pure (.int v)

/-- Stores a value into a member of a struct or union at an address; `owner`
names the struct or union in failures. -/
def writeMember (owner : Datum) (base : Nat) (m : Member) (value : Datum) : SessionM Unit := do
  let addr := base + m.place.offset
  match m.place.bits with
  | none =>
    if m.cls.isArray then
      throw (.attributeError ("property of '" ++ (← typeName owner) ++ "' object has no setter"))
    store m.cls addr value
  | some (first, width) =>
    let (_, p) ← primitiveFor m.cls
    let n := decodeLE (← encodeFor m.cls value)
    let raw := decodeLE (← readBytes addr p.size)
    let mask := (Nat.pow 2 width - 1) * Nat.pow 2 first
    let cleared := raw - (raw &&& mask)
    let updated := cleared + (n % Nat.pow 2 width) * Nat.pow 2 first
    let stored := (n % Nat.pow 2 width)
    let back : Int := if p.signed && stored ≥ Nat.pow 2 (width - 1) then (stored : Int) - Int.pow 2 width else stored
    let given : Int := match value with
      | .plain (.int k) => k
      | .plain (.bool b) => if b then 1 else 0
      | _ => p.wrap n
    if back != given then throw (.overflowError "value too large for bitfield")
    writeBytes addr (encodeLE p.size updated)

/-- The class of what a datum points to, for reading members through it. -/
def pointee? : Datum → Option (CClass × Nat)
  | .cdata (.pointer (.pointer item) a _) => some (item, (a % Int.pow 2 64).toNat)
  | _ => none

/-- The item a pointer or array gives at an index. -/
def getItem (x : Datum) (index : Datum) : SessionM Datum := do
  match x with
  | .cdata (.pointer c a owned) =>
    let some i := indexOf? index | throw (.typeError "Pointer indices must be integer")
    if owned && i != 0 then throw (.indexError "")
    let item := match c with
      | .pointer it => it
      | other => other
    if item matches .void then throw (.typeError "'c_void_p' object is not subscriptable")
    if a == 0 then throw (.valueError "NULL pointer access")
    let size ← sizeOfClass item
    load item ((a + i * size) % Int.pow 2 64).toNat
  | .cdata (.array c a n _) =>
    let some i := indexOf? index | throw (.typeError "indices must be integers")
    if i < 0 || i ≥ n then throw (.indexError "")
    let item := match c with
      | .array it _ => it
      | other => other
    load item (a + i.toNat * (← sizeOfClass item))
  | .list xs | .tuple xs =>
    let kind := match x with
      | .list _ => "list"
      | _ => "tuple"
    let some i := indexOf? index |
      throw (.typeError (kind ++ " indices must be integers or slices, not " ++ (← typeName index)))
    let j := if i < 0 then i + xs.length else i
    match (if j < 0 then none else xs[j.toNat]?) with
    | some v => pure v
    | none => throw (.indexError (kind ++ " index out of range"))
  | other => throw (.typeError ("'" ++ (← typeName other) ++ "' object is not subscriptable"))

/-- Stores a value at an index of a pointer or array. -/
def setItem (x : Datum) (index : Datum) (value : Datum) : SessionM Unit := do
  match x with
  | .cdata (.pointer c a _) =>
    let item := match c with
      | .pointer it => it
      | other => other
    let some i := indexOf? index | throw (.typeError "Pointer indices must be integer")
    let bytes ← encodeFor item value
    if item matches .void then throw (.typeError "'c_void_p' object does not support item assignment")
    if a == 0 then throw (.valueError "NULL pointer access")
    let size ← sizeOfClass item
    writeBytes ((a + i * size) % Int.pow 2 64).toNat bytes
  | .cdata (.array c a n _) =>
    let some i := indexOf? index | throw (.typeError "indices must be integers")
    if i < 0 || i ≥ n then throw (.indexError "")
    let item := match c with
      | .array it _ => it
      | other => other
    let bytes ← encodeFor item value
    writeBytes (a + i.toNat * (← sizeOfClass item)) bytes
  | other => throw (.typeError ("'" ++ (← typeName other) ++ "' object does not support item assignment"))

/-- The value of an attribute of C data. -/
def getCDataAttr (x : Datum) (name : String) : SessionM Datum := do
  match x with
  | .cdata (.record (.record id) a) =>
    let some r ← record? id | throw (← noAttribute x name)
    if r.properties.contains name then
      let some m ← member? id name | throw (← noAttribute x name)
      return ← readMember a m
    if name == "kind" then return .str (if r.union then "union" else "struct")
    throw (← noAttribute x name)
  | .cdata (.pointer (.pointer (.record id)) a owned) =>
    let some r ← record? id | throw (← noAttribute x name)
    if r.pointerProperties.contains name then
      let target ← getItem (.cdata (.pointer (.pointer (.record id)) a owned)) (.int 0)
      match target with
      | .cdata (.record _ addr) =>
        let some m ← member? id name | throw (← noAttribute x name)
        return ← readMember addr m
      | _ => throw (← noAttribute x name)
    if name == "kind" then return .str "pointer"
    throw (← noAttribute x name)
  | .cdata (.pointer ..) | .cdata (.function ..) =>
    if name == "kind" then return .str "pointer"
    throw (← noAttribute x name)
  | .cdata (.value c _) =>
    if name == "kind" then
      let (n, p) ← primitiveFor c
      return .str (match p.holding with
        | .character => "char"
        | .byte => "byte"
        | .truth => "bool"
        | .floating => "float"
        | .integer => if n == "" then "int" else "int")
    throw (← noAttribute x name)
  | other => throw (← noAttribute other name)

/-- Stores a value into an attribute of C data. -/
def setCDataAttr (x : Datum) (name : String) (value : Datum) : SessionM Unit := do
  match x with
  | .cdata (.record (.record id) a) =>
    let some r ← record? id | throw (← noAttribute x name)
    if r.properties.contains name then
      let some m ← member? id name | throw (← noAttribute x name)
      return ← writeMember x a m value
    throw (← noAttribute x name)
  | .cdata (.pointer (.pointer (.record id)) a owned) =>
    let some r ← record? id | throw (← noAttribute x name)
    if r.pointerProperties.contains name then
      let target ← getItem (.cdata (.pointer (.pointer (.record id)) a owned)) (.int 0)
      match target with
      | .cdata (.record _ addr) =>
        let some m ← member? id name | throw (← noAttribute x name)
        return ← writeMember target addr m value
      | _ => throw (← noAttribute x name)
    throw (← noAttribute x name)
  | other => throw (← noAttribute other name)

/-- The word a value of a class passes to a function, from its bytes. -/
def wordOf (c : CClass) (bytes : List UInt8) : SessionM Word := do
  match c with
  | .primitive _ | .enum _ =>
    let (_, p) ← primitiveFor c
    match Scalar.decode p bytes with
    | .float x => pure (.float x)
    | .int n => pure (.int n)
    | .byte b => pure (.int b.toNat)
    | .truth b => pure (.int (if b then 1 else 0))
  | _ => pure (.int (decodeLE bytes))

/-- The datum a function's result word stands for, by the result class. -/
def resultOf (c : CClass) (w : Word) : SessionM Datum := do
  match c, w with
  | .void, _ => pure .none
  | .primitive _, .float x | .enum _, .float x =>
    let (_, p) ← primitiveFor c
    if p.holding == .floating then pure (.float (p.roundFloat x)) else pure (.int 0)
  | _, .int n =>
    match c with
    | .primitive _ | .enum _ =>
      let (_, p) ← primitiveFor c
      if p.holding == .floating then pure (.float 0.0)
      else decodeAt c 0 (encodeIntLE p.size n)
    | _ => decodeAt c 0 (encodeIntLE pointerSize n)
  | _, _ => pure .none

/-- The bytes an argument gives a parameter of a class; a byte string for a
`char *` or `void *` parameter is copied into fresh memory. -/
def argumentBytes (c : CClass) (arg : Datum) : SessionM (List UInt8) := do
  match c, arg with
  | .pointer item, .plain (.bytes b) =>
    if item == .void || item == .primitive "char" then
      let addr ← allocate (b.size + 1)
      writeBytes addr (b.toList ++ [0])
      pure (encodeLE pointerSize addr)
    else encodeFor c arg
  | _, _ => encodeFor c arg

/-- The words of a call's arguments after `...`: C data by their own class,
`None` as a null pointer. -/
def extraWords (fixed : Nat) (args : List Datum) : SessionM (List Word) := do
  let mut out := []
  let mut k := fixed + 1
  for a in args do
    match a with
    | .plain .none => out := out ++ [Word.int 0]
    | .cdata d =>
      let c := match d with
        | .array (.array item _) _ _ _ => CClass.pointer item
        | other => other.cls
      out := out ++ [← wordOf c (← argumentBytes c a)]
    | other =>
      throw (.typeError ("argument " ++ toString k ++
        " passed in the variadic part needs to be a cdata object (got " ++ (← typeName other) ++ ")"))
    k := k + 1
  return out

/-- Calls the C function at an address with argument words. -/
def runCode (addr : Int) (words : List Word) : SessionM Word := do
  if addr == 0 then throw (.valueError "NULL pointer access")
  match ← codeAt? (addr % Int.pow 2 64).toNat with
  | some (.symbol name) => callLibc name words
  | some (.callback (.function argClasses result _) fn error) =>
    let args ← (words.zip argClasses).mapM fun (w, c) => do
      match w with
      | .float x => resultOf c (.float x)
      | .int n => resultOf c (.int n)
    let outcome ← tryCatch (do
        let r ← applyFunction fn args
        let bytes ← encodeFor result r
        pure (some bytes))
      (fun _ => pure none)
    let bytes := outcome.getD error
    if result matches .void then return .int 0
    wordOf result bytes
  | _ => throw segmentationFault

/-- Calls a C function datum with arguments. -/
def callCData (d : CData) (args : List Datum) : SessionM Datum := do
  match d with
  | .function (.function params result varargs) addr _ _ =>
    if varargs then
      if args.length < params.length then throw (.assertionError "")
    else if args.length != params.length then throw (.assertionError "")
    let mut words := []
    for (c, a) in params.zip args do
      words := words ++ [← wordOf c (← argumentBytes c a)]
    let extra ← if varargs then extraWords params.length (args.drop params.length) else pure []
    let w ← runCode addr (words ++ extra)
    resultOf result w
  | other => throw (.typeError ("'" ++ (← className other.cls) ++ "' object is not callable"))

/-- Whether a datum can be called. -/
def isCallable : Datum → Bool
  | .function _ | .decorator .. | .ctype _ | .cdata (.function ..) => true
  | _ => false

/-- The name a function of the scripting side is known by, for callbacks. -/
def functionName : Datum → String
  | .function n => n
  | _ => "callable"

/-- Makes a callback of a class calling a function; `error` is what it returns
when the function fails. -/
def makeCallback (c : CClass) (fn : Datum) (error : Datum) (onerror : Datum) : SessionM CData := do
  if !isCallable fn then throw (.typeError "the 'python_callable' argument is not callable")
  if !onerror.isNone then throw (.assertionError "")
  match c with
  | .function _ result varargs =>
    if varargs then throw (.assertionError "varargs not supported for callbacks")
    let errorBytes ← match result with
      | .void => pure []
      | .record id =>
        let some r ← record? id | throw (.assertionError "")
        if !r.instantiable then
          throw (.typeError ("cannot instantiate opaque type " ++ (← classRepr result)))
        if error.isNone then pure (List.replicate (← sizeOfClass result) 0) else encodeFor result error
      | _ => if error.isNone then pure (List.replicate (← sizeOfClass result) 0) else encodeFor result error
    let addr ← addCode (.callback c (functionName fn) errorBytes)
    pure (.function c addr none (some (functionName fn)))
  | .primitive _ | .enum _ =>
    throw (.typeError ("CTypesBackend.new_primitive_type.<locals>.CTypesPrimitive.__init__() " ++
      "takes 2 positional arguments but 3 were given"))
  | .pointer _ =>
    throw (.typeError ("CTypesBackend.new_pointer_type.<locals>.CTypesPtr.__init__() " ++
      "takes 2 positional arguments but 3 were given"))
  | .array .. =>
    throw (.typeError ("CTypesBackend.new_array_type.<locals>.CTypesArray.__init__() " ++
      "takes 2 positional arguments but 3 were given"))
  | _ => throw (.typeError ("cannot instantiate " ++ (← classRepr c)))

/-- What the names of an interface's libraries stand for. -/
def accessors (ffi : String) : SessionM (List (String × Accessor)) := do
  let b := (← interface ffi).book
  let tbl ← tags
  let put := fun (acc : List (String × Accessor)) (name : String) (a : Accessor) =>
    if acc.any (·.1 == name) then acc.map fun (n, x) => if n == name then (n, a) else (n, x)
    else acc ++ [(name, a)]
  let mut acc : List (String × Accessor) := []
  for (key, e) in b.entries do
    match e.value with
    | .type (.tagged id) =>
      match tbl[id]? with
      | some t =>
        if t.kind == .enum then
          for (n, v) in t.enumerators.zip t.enumvalues do
            acc := put acc n (.enumerator id v)
      | none => pure ()
    | .type t =>
      let word := (key.splitOn " ").headD ""
      let name := (key.drop (word.length + 1)).toString
      match word with
      | "function" => acc := put acc name (.function t)
      | "variable" => acc := put acc name (.variable t)
      | "constant" => acc := put acc name .constant
      | _ => pure ()
    | _ => pure ()
  for (n, v) in b.intConstants do
    if !acc.any (·.1 == n) then acc := acc ++ [(n, .intConstant v)]
  return acc

/-- A library. -/
def library (lib : Nat) : SessionM Library := do
  match (← get).libraries[lib]? with
  | some l => pure l
  | none => throw (.assertionError "")

/-- The code address of a function of the C library, made once per name. -/
def symbolAddress (name : String) : SessionM Nat := do
  match (← get).codes.find? (fun (_, c) => match c with
      | .symbol n => n == name
      | _ => false) with
  | some (a, _) => pure a
  | none => addCode (.symbol name)

/-- The value of a name of a library. -/
def libraryGet (lib : Nat) (name : String) : SessionM Datum := do
  let l ← library lib
  match l.loaded.find? (·.1 == name) with
  | some (_, v) => pure v
  | none =>
    let remember := fun (v : Datum) => do
      modify fun s => { s with libraries := s.libraries.modify lib fun l => { l with loaded := l.loaded ++ [(name, v)] } }
      pure v
    match (← accessors l.ffi).find? (·.1 == name) with
    | none => throw (.attributeError name)
    | some (_, .function t) =>
      let c ← cachedClass l.ffi t
      if !(libcFunctions.any (·.1 == name)) then
        throw (.attributeError ("python3: undefined symbol: " ++ name))
      let addr ← symbolAddress name
      remember (.cdata (.function c addr (some name) none))
    | some (_, .variable t) =>
      let c ← cachedClass l.ffi t
      match libcVariables.find? (·.1 == name) with
      | some (_, v) => resultOf c (.int v)
      | none => throw (.valueError ("python3: undefined symbol: " ++ name))
    | some (_, .constant) =>
      throw (.notImplemented ("non-integer constant '" ++ name ++ "' cannot be accessed from a dlopen() library"))
    | some (_, .intConstant v) => remember (.int v)
    | some (_, .enumerator id v) =>
      let t ← tag id
      if t.isPartial then throw ⟨"VerificationMissing", t.spelling⟩
      remember (.int v)

/-- Assigns a name of a library. -/
def librarySet (lib : Nat) (name : String) (value : Datum) : SessionM Unit := do
  let l ← library lib
  match (← accessors l.ffi).find? (·.1 == name) with
  | none => throw (.attributeError name)
  | some (_, .variable t) =>
    let c ← cachedClass l.ffi t
    let _ ← encodeFor c value
    if !(libcVariables.any (·.1 == name)) then
      throw (.valueError ("python3: undefined symbol: " ++ name))
    -- a number converts to a plain value, which has no address to copy the new value from
    match c with
    | .primitive _ | .enum _ => throw (.typeError "invalid type")
    | _ => pure ()
  | some (_, .constant) =>
    throw (.notImplemented ("non-integer constant '" ++ name ++ "' cannot be accessed from a dlopen() library"))
  | some (_, .function t) =>
    let _ ← cachedClass l.ffi t
    if !(libcFunctions.any (·.1 == name)) then
      throw (.attributeError ("python3: undefined symbol: " ++ name))
    throw ⟨"RecursionError", "maximum recursion depth exceeded"⟩
  | some (_, .enumerator id _) =>
    let t ← tag id
    if t.isPartial then throw ⟨"VerificationMissing", t.spelling⟩
    throw ⟨"RecursionError", "maximum recursion depth exceeded"⟩
  | some _ => throw ⟨"RecursionError", "maximum recursion depth exceeded"⟩

/-- The value of an attribute of a datum. -/
def getAttr (x : Datum) (name : String) : SessionM Datum := do
  match x with
  | .library lib => libraryGet lib name
  | .cdata _ => getCDataAttr x name
  | other => throw (← noAttribute other name)

/-- Assigns an attribute of a datum. -/
def setAttr (x : Datum) (name : String) (value : Datum) : SessionM Unit := do
  match x with
  | .library lib => librarySet lib name value
  | .cdata _ => setCDataAttr x name value
  | other => throw (← noAttribute other name)

/-- Calls a datum with arguments and keyword arguments. -/
def callDatum (f : Datum) (args : List Datum) (kwargs : List (String × Datum)) : SessionM Datum := do
  match f with
  | .cdata d =>
    match kwargs.head? with
    | some (k, _) =>
      throw (.typeError ("CTypesBackend.new_function_type.<locals>.CTypesFunctionPtr.__call__() " ++
        "got an unexpected keyword argument '" ++ k ++ "'"))
    | none => callCData d args
  | .decorator c error onerror =>
    match args, kwargs with
    | [fn], [] => return .cdata (← makeCallback c fn error onerror)
    | _, _ =>
      throw (.typeError ("FFI.callback.<locals>.callback_decorator_wrap() takes 1 positional argument but " ++
        toString args.length ++ " were given"))
  | .function name => applyFunction name args
  | other => throw (.typeError ("'" ++ (← typeName other) ++ "' object is not callable"))

/-- The integer `int()` makes of a datum. -/
def toInt (d : Datum) : SessionM Int := do
  match d with
  | .plain (.float x) => intOf (.cdata (.value (.primitive "double") (.float x)))
  | .plain (.str s) =>
    match Text.readInt s 10 with
    | some n => pure n
    | none => throw (.valueError (Text.intLiteralError s 10))
  | _ => intOf d

/-- The float `float()` makes of a datum. -/
def toFloat (d : Datum) : SessionM Float := do
  match d with
  | .plain (.float x) => pure x
  | .plain (.int n) => pure (Float.ofInt n)
  | .plain (.bool b) => pure (if b then 1.0 else 0.0)
  | .cdata (.value _ (.float x)) => pure x
  | other =>
    throw (.typeError ("float() argument must be a string or a real number, not '" ++ (← typeName other) ++ "'"))

end SessionM

end Basis.Foreign
