import Basis.Failure
import Basis.Value.Repr

/-!
# Opcodes of the type table

A generated extension module describes its types as a table of words. Each word
is an opcode: a kind (`PRIMITIVE`, `POINTER`, `FUNCTION`, …) and an argument,
usually the index of another word or of a primitive type. A word of no kind
holds a number for the length of the array before it.

A word is written for C as `_CFFI_OP(_CFFI_OP_KIND, arg)` (the argument may be
a C expression that a compiler works out), and for the scripting side as four
bytes, the argument shifted left by eight over the kind's code, high byte
first, each as `\xHH`. A word whose argument only a compiler knows cannot be
written as bytes.
-/

namespace Basis.Foreign

/-- The kinds of opcodes, with their codes. -/
inductive OpKind where
  | primitive | pointer | array | openArray | structUnion | enum | function | functionEnd | noop
  | bitfield | typename | builtinVarargs | builtinNoArgs | builtinOneArg | constant | constantInt
  | globalVar | dlopenFunc | dlopenConst | globalVarF | externPython
  deriving DecidableEq, Repr, Inhabited

namespace OpKind

/-- The code of a kind. -/
def code : OpKind → Nat
  | primitive => 1 | pointer => 3 | array => 5 | openArray => 7 | structUnion => 9 | enum => 11
  | function => 13 | functionEnd => 15 | noop => 17 | bitfield => 19 | typename => 21
  | builtinVarargs => 23 | builtinNoArgs => 25 | builtinOneArg => 27 | constant => 29
  | constantInt => 31 | globalVar => 33 | dlopenFunc => 35 | dlopenConst => 37 | globalVarF => 39
  | externPython => 41

/-- The name of a kind in C. -/
def cName : OpKind → String
  | primitive => "PRIMITIVE" | pointer => "POINTER" | array => "ARRAY" | openArray => "OPEN_ARRAY"
  | structUnion => "STRUCT_UNION" | enum => "ENUM" | function => "FUNCTION"
  | functionEnd => "FUNCTION_END" | noop => "NOOP" | bitfield => "BITFIELD" | typename => "TYPENAME"
  | builtinVarargs => "CPYTHON_BLTN_V" | builtinNoArgs => "CPYTHON_BLTN_N"
  | builtinOneArg => "CPYTHON_BLTN_O" | constant => "CONSTANT" | constantInt => "CONSTANT_INT"
  | globalVar => "GLOBAL_VAR" | dlopenFunc => "DLOPEN_FUNC" | dlopenConst => "DLOPEN_CONST"
  | globalVarF => "GLOBAL_VAR_F" | externPython => "EXTERN_PYTHON"

end OpKind

/-- The argument of an opcode: a number, or a C expression. -/
inductive OpArg where
  /-- A number. -/
  | num (n : Int)
  /-- A C expression. -/
  | expr (text : String)
  deriving Repr, Inhabited

/-- The text of an argument in C. -/
def OpArg.text : OpArg → String
  | .num n => toString n
  | .expr s => s

/-- A word of the type table: an opcode, or a bare length (no kind). -/
structure Opcode where
  /-- The kind, none for a length. -/
  kind : Option OpKind
  /-- The argument. -/
  arg : OpArg
  deriving Repr, Inhabited

/-- An opcode of a kind and a number. -/
def Opcode.of (k : OpKind) (n : Int) : Opcode := ⟨some k, .num n⟩

/-- The two hexadecimal digits of a byte, in capitals. -/
def hexByte (n : Nat) : String :=
  let digit := fun (d : Nat) => if d < 10 then Char.ofNat (48 + d) else Char.ofNat (55 + d)
  String.ofList [digit (n / 16 % 16), digit (n % 16)]

/-- The four bytes of a number, high first, as `\xHH` escapes; a negative
number is taken in two's complement. -/
def fourBytes (n : Int) : String :=
  String.join ([24, 16, 8, 0].map fun (k : Nat) => "\\x" ++ hexByte ((n.fdiv (Int.pow 2 k)).fmod 256).toNat)

/-- The failure of generating what the configuration does not support. -/
def verificationError (message : String) : Failure := ⟨"VerificationError", message⟩

namespace Opcode

/-- The opcode in C. -/
def cExpr (op : Opcode) : String :=
  match op.kind with
  | none => "(_cffi_opcode_t)(" ++ op.arg.text ++ ")"
  | some k => "_CFFI_OP(_CFFI_OP_" ++ k.cName ++ ", " ++ op.arg.text ++ ")"

/-- The opcode as four escaped bytes, when its argument is known. -/
def bytes (op : Opcode) : Except Failure String :=
  match op.kind, op.arg with
  | none, .expr s =>
    if !s.isEmpty && s.all Char.isDigit then
      let n := s.toNat!
      if n ≥ Nat.pow 2 31 then .error (.overflowError ("cannot emit " ++ Value.strRepr s ++ ": limited to 2**31-1"))
      else .ok (fourBytes n)
    else .error (verificationError ("cannot emit to Python: " ++ Value.strRepr s))
  | _, .expr s => .error (verificationError ("cannot emit to Python: " ++ Value.strRepr s))
  | some k, .num n => .ok (fourBytes (n * 256 + k.code))
  | none, .num n => .ok (fourBytes n)

end Opcode

/-- The index of each primitive type in the table of primitives. -/
def primitiveIndex : List (String × Nat) :=
  [("char", 2), ("short", 5), ("int", 7), ("long", 9), ("long long", 11), ("signed char", 3),
    ("unsigned char", 4), ("unsigned short", 6), ("unsigned int", 8), ("unsigned long", 10),
    ("unsigned long long", 12), ("float", 13), ("double", 14), ("long double", 15),
    ("float _Complex", 48), ("double _Complex", 49), ("_Bool", 1), ("wchar_t", 16), ("char16_t", 50),
    ("char32_t", 51), ("int8_t", 17), ("uint8_t", 18), ("int16_t", 19), ("uint16_t", 20), ("int32_t", 21),
    ("uint32_t", 22), ("int64_t", 23), ("uint64_t", 24), ("intptr_t", 25), ("uintptr_t", 26),
    ("ptrdiff_t", 27), ("size_t", 28), ("ssize_t", 29), ("int_least8_t", 30), ("uint_least8_t", 31),
    ("int_least16_t", 32), ("uint_least16_t", 33), ("int_least32_t", 34), ("uint_least32_t", 35),
    ("int_least64_t", 36), ("uint_least64_t", 37), ("int_fast8_t", 38), ("uint_fast8_t", 39),
    ("int_fast16_t", 40), ("uint_fast16_t", 41), ("int_fast32_t", 42), ("uint_fast32_t", 43),
    ("int_fast64_t", 44), ("uint_fast64_t", 45), ("intmax_t", 46), ("uintmax_t", 47)]

/-- The flags of struct entries, by name. -/
def structFlagValue : String → Nat
  | "_CFFI_F_UNION" => 1
  | "_CFFI_F_CHECK_FIELDS" => 2
  | "_CFFI_F_PACKED" => 4
  | "_CFFI_F_EXTERNAL" => 8
  | "_CFFI_F_OPAQUE" => 16
  | _ => 0

end Basis.Foreign
