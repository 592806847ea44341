import Basis.Foreign.Store

/-!
# Making C data

`SessionM.allocateData` makes new C data of a pointer or array class, with
memory they own, initialized from an optional initializer:

* a pointer class allocates one value of what it points to; a `char *` holds
  the character and a terminating zero;
* an array class of a length allocates that many items; an array class of open
  length takes its length from an integer initializer (which gives no values),
  from a byte string for `char` (one more for the terminating zero) or from the
  number of initializers.

`SessionM.castData` converts a datum to a class the way a C cast does:
integers wrap around to the class's width, a float class rounds, a `char`
keeps the low byte, `_Bool` tests for zero, a pointer class takes any address;
arrays, structs, unions and `void` cannot be cast to.
-/

namespace Basis.Foreign

namespace SessionM

/-- The item class of a pointer or array class. -/
def itemOf : CClass → CClass
  | .pointer i | .array i _ => i
  | c => c

/-- The bytes one value of an item class starts with, from an initializer. -/
def firstValue (item : CClass) (init : Datum) : SessionM (List UInt8) := do
  match item with
  | .void => throw (.typeError ("cannot create an instance of " ++ (← classRepr item)))
  | .array .. =>
    if init.isNone then
      throw (.typeError ("CTypesBackend.new_array_type.<locals>.CTypesArray._arg_to_ctypes() " ++
        "missing 1 required positional argument: 'value'"))
    encodeFor (.pointer (itemOf item)) init
  | _ =>
    if init.isNone then return List.replicate (← sizeOfClass item) 0
    encodeFor item init

/-- Allocates new data of a pointer or array class, initialized. -/
def allocateData (c : CClass) (init : Datum) : SessionM CData := do
  match c with
  | .pointer item =>
    match item with
    | .record id =>
      let some r ← record? id | throw (.assertionError "")
      if !r.instantiable then
        throw (.typeError ("cannot instantiate opaque type " ++ (← classRepr item)))
      let addr ← allocate (← sizeOfClass item)
      if !init.isNone then fillRecord item id addr init
      pure (.pointer c addr true)
    | _ =>
      let bytes ← firstValue item init
      let bytes := if item == .primitive "char" then bytes ++ [0] else bytes
      let addr ← allocate bytes.length
      writeBytes addr bytes
      pure (.pointer c addr true)
  | .array item length =>
    let (n, init) ← match length with
      | some n => pure ((n : Int), init)
      | none =>
        match init with
        | .plain (.int k) => pure (k, Datum.none)
        | .plain (.bool b) => pure ((if b then 1 else 0 : Int), Datum.none)
        | .plain (.bytes b) =>
          if item == .primitive "char" then pure ((b.size + 1 : Int), init)
          else do
            let vs ← items init
            pure ((vs.length : Int), Datum.tuple vs)
        | _ => do
          let vs ← items init
          pure ((vs.length : Int), Datum.tuple vs)
    if n < 0 then throw (.valueError ("Array length must be >= 0, not " ++ toString n))
    let n := n.toNat
    let addr ← allocate ((← sizeOfClass item) * n)
    if !init.isNone then fillArray initFuel c item addr n init
    pure (.array c addr n true)
  | _ => throw (.typeError ("expected a pointer or array ctype, got '" ++ (← cName c) ++ "'"))

/-- The integer a datum casts to for an integer class; `target` names the class
in the failure. -/
def castSourceInt (target : CClass) (d : Datum) : SessionM Int := do
  match d with
  | .plain (.int n) => pure n
  | .plain (.bool b) => pure (if b then 1 else 0)
  | .plain (.float x) => intOf (.cdata (.value (.primitive "double") (.float x)))
  | .plain (.bytes b) =>
    if b.size = 1 then pure b[0]!.toNat
    else throw (.typeError ("ord() expected a character, but string of length " ++ toString b.size ++ " found"))
  | .plain .none => pure 0
  | .cdata (.value _ v) =>
    match v with
    | .float x => intOf (.cdata (.value (.primitive "double") (.float x)))
    | other => pure ((other.int?).getD 0)
  | .cdata x => addressFor x none
  | other =>
    throw (.typeError ("bad type for cast to " ++ (← classRepr target) ++ ": '" ++ (← typeName other) ++ "'"))

/-- Casts a datum to a class. -/
def castData (c : CClass) (d : Datum) : SessionM CData := do
  match c with
  | .primitive _ | .enum _ =>
    let (name, p) ← primitiveFor c
    let base := CClass.primitive name
    match p.holding with
    | .character =>
      let n ← castSourceInt base d
      pure (.value c (.byte (n % 256).toNat.toUInt8))
    | .truth =>
      let b ← match d with
        | .plain (.int n) => pure (n != 0)
        | .plain (.bool b) => pure b
        | .plain (.float x) => pure (x != 0.0)
        | _ => return .value c (.truth ((← castSourceInt base d) != 0))
      pure (.value c (.truth b))
    | .floating =>
      let x ← match d with
        | .plain (.float x) => pure x
        | .cdata (.value _ (.float x)) => pure x
        | .cdata (.value ..) => pure (Float.ofInt (← intOf d))
        | _ =>
          let n ← castSourceInt base d
          let x := Float.ofInt n
          if x.isInf then throw (.overflowError "int too large to convert to float")
          pure x
      pure (.value c (.float (p.roundFloat x)))
    | _ => pure (.value c (.int (p.wrap (← castSourceInt base d))))
  | .pointer _ | .function .. =>
    let a ← match d with
      | .plain .none => pure 0
      | .cdata _ => castSourceInt c d
      | .plain (.int n) => pure n
      | .plain (.bool b) => pure (if b then 1 else 0)
      | other =>
        throw (.typeError ("bad type for cast to " ++ (← classRepr c) ++ ": '" ++ (← typeName other) ++ "'"))
    match c with
    | .function .. => pure (.function c a none none)
    | _ => pure (.pointer c a false)
  | .array .. => throw (.notImplemented ("casting to '" ++ (← cName c) ++ "'"))
  | _ => throw (.typeError ("cannot cast to '" ++ (← cName c) ++ "'"))

end SessionM

end Basis.Foreign
