import Basis.Foreign.Build
import Basis.Value.Repr

/-!
# Representations of foreign data

A C datum prints as `<cdata 'C' X>`, where `C` is the spelling of its class
(for a struct or union with the mark ` &`, as it stands for the object itself,
and for a function looked up in a library with the function's name as the
declarator) and `X` is:

* for a number, the representation of its value (`b','` for a `char`, `True`
  for a `_Bool`); for an enum, the value and its enumerator, `5: EB`, or the
  value alone when no enumerator has it;
* for an allocated pointer or array, `owning N bytes`, the size of what it owns;
* for a callback, `calling` and the function it calls;
* otherwise the address in hexadecimal, or `NULL` for 0; a negative address
  counts from 2^64.

Other data print as the scripting side prints them: plain values by
`Value.repr`, classes as `<class 'ffi.CData<int>'>`, functions as
`<function NAME at 0x...>`.
-/

namespace Basis.Foreign

/-- The address of a pointer as it prints: `NULL` for 0, otherwise `0x` and the
hexadecimal digits, a negative address counted from 2^64. -/
def addressRepr (a : Int) : String :=
  if a == 0 then "NULL"
  else
    let n := if a < 0 then a + Int.pow 2 64 else a
    "0x" ++ String.ofList (Nat.toDigits 16 n.toNat)

/-- The plain value a number held by value stands for. -/
def Scalar.toDatum : Scalar → Datum
  | .byte b => .bytes [b]
  | .truth b => .bool b
  | .int n => .int n
  | .float x => .float x

/-- The representation of the value of a number held by value. -/
def Scalar.repr : Scalar → String
  | .byte b => Value.bytesRepr (ByteArray.mk #[b])
  | .truth b => if b then "True" else "False"
  | .int n => toString n
  | .float x => Value.floatRepr x

/-- The integer of a number held by value, where it has one. -/
def Scalar.int? : Scalar → Option Int
  | .int n => some n
  | .truth b => some (if b then 1 else 0)
  | .byte b => some b.toNat
  | .float _ => none

/-- The address a function of the scripting side prints with. -/
def functionAddress : String := "0x7f6a1c2e5d30"

/-- The representation of a function of the scripting side, by name. -/
def functionRepr (name : String) : String := "<function py_" ++ name ++ " at " ++ functionAddress ++ ">"

/-- The representation of the function that makes callbacks. -/
def decoratorRepr : String :=
  "<function FFI.callback.<locals>.callback_decorator_wrap at " ++ functionAddress ++ ">"

namespace SessionM

/-- The enumerator of a value of an enum class, if one has it. -/
def enumerator? (id : Nat) (n : Int) : SessionM (Option String) := do
  match ← enum? id with
  | some e => pure ((e.names.find? (·.1 == n)).map (·.2))
  | none => pure none

/-- The representation of a C datum. -/
def cdataRepr (d : CData) : SessionM String := do
  let quoted := fun (name : String) (own : String) => "<cdata '" ++ name ++ "' " ++ own ++ ">"
  match d with
  | .value cls v =>
    let own ← match cls, v with
      | .enum id, .int n => do
        match ← enumerator? id n with
        | some e => pure (toString n ++ ": " ++ e)
        | none => pure (toString n)
      | _, _ => pure v.repr
    return quoted (← cName cls) own
  | .pointer cls a owned =>
    let own ← if owned then
        match cls with
        | .pointer item => pure ("owning " ++ toString (← sizeOfClass item) ++ " bytes")
        | _ => pure (addressRepr a)
      else pure (addressRepr a)
    return quoted (← cName cls) own
  | .array cls a length owned =>
    let own ← if owned then
        match cls with
        | .array item _ => pure ("owning " ++ toString ((← sizeOfClass item) * length) ++ " bytes")
        | _ => pure (addressRepr a)
      else pure (addressRepr a)
    return quoted (← cName cls) own
  | .record cls a => return quoted (← cName cls " &") (addressRepr a)
  | .function cls a name calling =>
    let ref := cls.reference (← namer)
    let spelled := match name with
      | some n =>
        let before := (ref.splitOn "(* &)").headD ""
        let n := match before.toList.getLast? with
          | some c => if " )*".toList.contains c then n else " " ++ n
          | none => " " ++ n
        ref.replace "(* &)" n
      | none => ref.replace " &" ""
    let own := match calling with
      | some f => "calling " ++ functionRepr f
      | none => addressRepr a
    return quoted spelled own

mutual

/-- The representation of a datum. -/
def datumRepr : Datum → SessionM String
  | .plain v => pure v.repr
  | .list items => return "[" ++ Value.joinItems (← datumReprs items) ++ "]"
  | .tuple items => do
    match ← datumReprs items with
    | [one] => pure ("(" ++ one ++ ",)")
    | texts => pure ("(" ++ Value.joinItems texts ++ ")")
  | .dict entries => return "\x7b" ++ Value.joinItems (← entryReprs entries) ++ "\x7d"
  | .cdata c => cdataRepr c
  | .ctype c => classRepr c
  | .ffi _ => pure ("<cffi.api.FFI object at " ++ functionAddress ++ ">")
  | .library _ => pure ("<cffi.api.FFILibrary object at " ++ functionAddress ++ ">")
  | .function name => pure (functionRepr name)
  | .decorator .. => pure decoratorRepr

/-- The representations of a list of data. -/
def datumReprs : List Datum → SessionM (List String)
  | [] => pure []
  | d :: rest => return (← datumRepr d) :: (← datumReprs rest)

/-- The representations of the entries of a mapping. -/
def entryReprs : List (Datum × Datum) → SessionM (List String)
  | [] => pure []
  | (k, v) :: rest => return ((← datumRepr k) ++ ": " ++ (← datumRepr v)) :: (← entryReprs rest)

end

end SessionM

end Basis.Foreign
