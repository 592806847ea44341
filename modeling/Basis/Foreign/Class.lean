import Basis.Foreign.Machine

/-!
# Classes of C data

Every C value at run time belongs to a class (`CClass`), built from a declared
type: `void`, a primitive type by name, a pointer to a class, an array of a
class with a length or an open length, a struct or union or an enum by its
entry in the table of nominal types, and a pointer to a function by the classes
of its arguments and result and whether it takes more arguments (`...`).
Qualifiers play no part, and two classes are the same when they are built
alike, so `int32_t` and `int` are different classes of the same size.

A class is spelled by `CClass.reference`, a text with the mark ` &` where a
declarator goes: `int &`, `int * &`, `int &[3]`, `int(* &)[3]` for a pointer
to an array, `int(* &)(int, ...)` for a function pointer. `CClass.cName`
replaces the mark, by nothing for the plain spelling. A struct, union or enum
is spelled by the name it had when its class was built, which the caller
supplies.
-/

namespace Basis.Foreign

/-- The class of a C value at run time. -/
inductive CClass where
  /-- `void`, which no value has. -/
  | void
  /-- A primitive type, by name. -/
  | primitive (name : String)
  /-- A pointer to values of a class. -/
  | pointer (item : CClass)
  /-- An array of a class, of a length or of an open length. -/
  | array (item : CClass) (length : Option Nat)
  /-- A struct or union, by its entry in the table of nominal types. -/
  | record (id : Nat)
  /-- An enum, by its entry in the table of nominal types. -/
  | enum (id : Nat)
  /-- A pointer to a function. -/
  | function (args : List CClass) (result : CClass) (varargs : Bool)
  deriving Inhabited, Repr

namespace CClass

mutual

/-- Whether two classes are built alike. -/
def beq : CClass → CClass → Bool
  | .void, .void => true
  | .primitive a, .primitive b => a == b
  | .pointer a, .pointer b => beq a b
  | .array a n, .array b m => beq a b && n == m
  | .record i, .record j => i == j
  | .enum i, .enum j => i == j
  | .function as r v, .function bs s w => beqList as bs && beq r s && v == w
  | _, _ => false

/-- Whether two lists of classes are built alike, item by item. -/
def beqList : List CClass → List CClass → Bool
  | [], [] => true
  | a :: as, b :: bs => beq a b && beqList as bs
  | _, _ => false

end

instance : BEq CClass := ⟨beq⟩

/-- Whether the class is an array class. -/
def isArray : CClass → Bool
  | .array .. => true
  | _ => false

/-- Whether values of the class are addresses: pointers and function pointers. -/
def isPointerLike : CClass → Bool
  | .pointer _ | .function .. => true
  | _ => false

/-- Whether values of the class are numbers held by value: primitives and enums. -/
def isPrimitiveLike : CClass → Bool
  | .primitive _ | .enum _ => true
  | _ => false

/-- The spelling with the mark ` &` where a declarator goes; `nameOf` gives the
names of structs, unions and enums. -/
def reference (nameOf : Nat → String) : CClass → String
  | .void => "void &"
  | .primitive n => n ++ " &"
  | .pointer item =>
    (reference nameOf item).replace " &" (if item.isArray then "(* &)" else " * &")
  | .array item length =>
    let brackets := match length with
      | some n => " &[" ++ toString n ++ "]"
      | none => " &[]"
    (reference nameOf item).replace " &" brackets
  | .record id | .enum id => nameOf id ++ " &"
  | .function args result varargs =>
    let names := args.attach.map fun ⟨a, _⟩ => (reference nameOf a).replace " &" ""
    let names := if varargs then names ++ ["..."] else names
    (reference nameOf result).replace " &" ("(* &)(" ++ ", ".intercalate names ++ ")")
termination_by c => sizeOf c
decreasing_by
  all_goals first
    | (simp only [CClass.pointer.sizeOf_spec, CClass.array.sizeOf_spec,
        CClass.function.sizeOf_spec]; omega)
    | (have h := List.sizeOf_lt_of_mem ‹_ ∈ _›
       simp only [CClass.function.sizeOf_spec]
       omega)

/-- The spelling with the mark replaced. -/
def cName (nameOf : Nat → String) (c : CClass) (replaceWith : String := "") : String :=
  (c.reference nameOf).replace " &" replaceWith

/-- The name of the class as messages write it: `CData<int *>`. -/
def className (nameOf : Nat → String) (c : CClass) : String := "CData<" ++ c.cName nameOf ++ ">"

/-- The representation of the class: `<class 'ffi.CData<int *>'>`. -/
def classRepr (nameOf : Nat → String) (c : CClass) : String :=
  "<class 'ffi." ++ c.className nameOf ++ "'>"

/-- Whether a pointer class converts from and to every other pointer class
without complaint: pointers to `void` and to `char`. -/
def castsFreely : CClass → Bool
  | .pointer .void | .pointer (.primitive "char") => true
  | _ => false

/-- Whether an item class reads as bytes for strings: `char` and the byte types. -/
def isByteItem : CClass → Bool
  | .primitive "char" | .primitive "signed char" | .primitive "unsigned char" => true
  | _ => false

end CClass

end Basis.Foreign
