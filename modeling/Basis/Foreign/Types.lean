import Basis.Failure
import Basis.Text.Blank

/-!
# Types of C as foreign declarations know them

A `CType` is a type of C named in declarations: `void`, the primitive types,
integer and floating types whose size is known only to a compiler, functions,
pointers, arrays, and structs, unions and enums. A struct, union or enum is
nominal: `tagged i` refers to entry `i` of a table of `Tag`s, because such a
type is declared once and completed later, and every declaration that names it
sees its latest state.

The C spelling of a type is kept as a *marker*: the spelling with one `&` where
the name of a declared thing goes, so that `int *&[3]` becomes `int *x[3]` by
putting `x` in place of the `&`. A compound type keeps the marker it was built
with: renaming a struct later changes the struct's own spelling, and not that of
a pointer made before. A spelling with `$` in it names an anonymous type, which
C cannot name: `cName` refuses it.
-/

namespace Basis.Foreign

/-- The bit of `const` in a set of qualifiers. -/
def qConst : Nat := 1

/-- The bit of `restrict` in a set of qualifiers. -/
def qRestrict : Nat := 2

/-- The bit of `volatile` in a set of qualifiers. -/
def qVolatile : Nat := 4

/-- Whether a set of qualifiers has a bit. -/
def hasQual (quals bit : Nat) : Bool := quals &&& bit != 0

/-- A text without the blanks at its start. -/
def trimStart (s : String) : String := String.ofList (s.toList.dropWhile Text.isBlank)

/-- A text without the blanks at its ends. -/
def trimBoth (s : String) : String :=
  String.ofList ((s.toList.dropWhile Text.isBlank).reverse.dropWhile Text.isBlank).reverse

/-- Puts the words of qualifiers in front of a declarator: `const`, then
`volatile`, then `__restrict` outermost. -/
def qualify (quals : Nat) (declarator : String) : String :=
  let d := if hasQual quals qConst then " const " ++ trimStart declarator else declarator
  let d := if hasQual quals qVolatile then " volatile " ++ trimStart d else d
  if hasQual quals qRestrict then " __restrict " ++ trimStart d else d

/-- The kinds of primitive types. -/
inductive Numeric where
  /-- A character type. -/
  | character
  /-- An integer type. -/
  | integer
  /-- A floating type. -/
  | floating
  /-- A complex type. -/
  | complex
  deriving DecidableEq, Repr, Inhabited

/-- The primitive types, with their kinds: the types of C, the types of
characters, and the integer types of the standard headers. -/
def primitiveTypes : List (String × Numeric) :=
  [("char", .character), ("short", .integer), ("int", .integer), ("long", .integer),
   ("long long", .integer), ("signed char", .integer), ("unsigned char", .integer),
   ("unsigned short", .integer), ("unsigned int", .integer), ("unsigned long", .integer),
   ("unsigned long long", .integer), ("float", .floating), ("double", .floating),
   ("long double", .floating), ("float _Complex", .complex), ("double _Complex", .complex),
   ("_Bool", .integer), ("wchar_t", .character), ("char16_t", .character),
   ("char32_t", .character), ("int8_t", .integer), ("uint8_t", .integer),
   ("int16_t", .integer), ("uint16_t", .integer), ("int32_t", .integer),
   ("uint32_t", .integer), ("int64_t", .integer), ("uint64_t", .integer),
   ("int_least8_t", .integer), ("uint_least8_t", .integer), ("int_least16_t", .integer),
   ("uint_least16_t", .integer), ("int_least32_t", .integer), ("uint_least32_t", .integer),
   ("int_least64_t", .integer), ("uint_least64_t", .integer), ("int_fast8_t", .integer),
   ("uint_fast8_t", .integer), ("int_fast16_t", .integer), ("uint_fast16_t", .integer),
   ("int_fast32_t", .integer), ("uint_fast32_t", .integer), ("int_fast64_t", .integer),
   ("uint_fast64_t", .integer), ("intptr_t", .integer), ("uintptr_t", .integer),
   ("intmax_t", .integer), ("uintmax_t", .integer), ("ptrdiff_t", .integer),
   ("size_t", .integer), ("ssize_t", .integer)]

/-- The kind of a primitive type, `none` for a name that is not one. -/
def numericOf? (name : String) : Option Numeric := (primitiveTypes.find? (·.1 == name)).map (·.2)

/-- The length of an array type. -/
inductive ArrayLength where
  /-- No length, as in `int[]`. -/
  | open
  /-- A length that only a compiler knows, written `[...]`. -/
  | deferred
  /-- A length. -/
  | fixed (n : Int)
  /-- A length that a compiler works out from a C expression, as generated
  code spells a `[...]` length once it knows what the array belongs to. -/
  | measured (expr : String)
  deriving DecidableEq, Repr, Inhabited

/-- A type of C. Compound types keep the marker they were built with. -/
inductive CType where
  /-- `void`. -/
  | void
  /-- A primitive type, by its name. -/
  | primitive (name : String)
  /-- An integer type of unknown size, by its name. -/
  | unknownInteger (name : String)
  /-- A floating type of unknown size, by its name. -/
  | unknownFloat (name : String)
  /-- A function type (`pointer` false) or a pointer to a function. -/
  | function (pointer : Bool) (args : List CType) (result : CType) (ellipsis : Bool)
      (abi : Option String) (marker : String)
  /-- A pointer with the qualifiers of what it points to. -/
  | pointer (target : CType) (quals : Nat) (marker : String)
  /-- A pointer to an anonymous struct, spelled by the name of its type definition. -/
  | namedPointer (target : CType) (name : String) (quals : Nat)
  /-- An array. -/
  | array (item : CType) (length : ArrayLength) (marker : String)
  /-- A struct, union or enum, by its entry in the table of tags. -/
  | tagged (id : Nat)
  deriving Repr, Inhabited

/-- The three kinds of nominal types. -/
inductive TagKind where
  /-- A struct. -/
  | struct
  /-- A union. -/
  | union
  /-- An enum. -/
  | enum
  deriving DecidableEq, Repr, Inhabited

/-- The keyword of a kind of nominal types. -/
def TagKind.word : TagKind → String
  | .struct => "struct"
  | .union => "union"
  | .enum => "enum"

/-- A member of a struct or union. -/
structure Field where
  /-- The name, empty for an anonymous member. -/
  name : String
  /-- The type. -/
  type : CType
  /-- The width of a bit field, `-1` for a member that is not one. -/
  bitsize : Int
  /-- The qualifiers. -/
  quals : Nat
  deriving Repr, Inhabited

/-- A struct, union or enum: its name, the name a type definition forced on it,
its marker, and its members or enumerators once they are declared. -/
structure Tag where
  /-- The kind. -/
  kind : TagKind
  /-- The name: the tag, or a made-up name starting with `$` for an anonymous type. -/
  name : String
  /-- The name the type is spelled with instead of its tag. -/
  forcename : Option String := none
  /-- The spelling, with `&` for the declared name. -/
  marker : String
  /-- The members, `none` until declared. -/
  fields : Option (List Field) := none
  /-- Whether some members are left to a compiler (`...;`). -/
  isPartial : Bool := false
  /-- The packing: 0 for the natural layout, else the largest alignment; `none`
  for a struct completed outside a reading of declarations. -/
  packed : Option Int := some 0
  /-- The enumerators. -/
  enumerators : List String := []
  /-- The values of the enumerators. -/
  enumvalues : List Int := []
  /-- Whether the struct only stands for a type definition `typedef ... T;`,
  whose layout is left to a compiler. -/
  placeholder : Bool := false
  deriving Repr, Inhabited

namespace Tag

/-- A new struct, union or enum of a name, spelled by its kind and name. -/
def fresh (kind : TagKind) (name : String) : Tag :=
  { kind, name, marker := kind.word ++ " " ++ name ++ "&" }

/-- The spelling of a tag without the marker. -/
def spelling (t : Tag) : String := t.marker.replace "&" ""

/-- Whether C can name the type. -/
def hasCName (t : Tag) : Bool := !t.spelling.contains '$'

/-- Forces a name on the type. An enum left without one gets a made-up name of
its spelling, which is not used to spell it. -/
def forceName (t : Tag) (name : Option String) : Tag :=
  let marker := (name.getD (t.kind.word ++ " " ++ t.name)) ++ "&"
  let t := { t with forcename := name, marker }
  if t.kind == .enum && name.isNone then
    { t with forcename := some ("$" ++ (t.marker.dropEnd 1).toString.replace " " "_") }
  else t

/-- The official name: the spelling. -/
def officialName (t : Tag) : String := (t.marker.dropEnd 1).toString

end Tag

/-- The table of nominal types. -/
abbrev Tags := Array Tag

namespace CType

/-- The marker of a type. -/
def marker (tags : Tags) : CType → String
  | .void => "void&"
  | .primitive n | .unknownInteger n | .unknownFloat n => n ++ "&"
  | .function _ _ _ _ _ m | .pointer _ _ m | .array _ _ m => m
  | .namedPointer _ n _ => n ++ "&"
  | .tagged i => (tags[i]?.map (·.marker)).getD "?&"

/-- The spelling of a type without the marker. -/
def spelling (tags : Tags) (t : CType) : String := (t.marker tags).replace "&" ""

/-- Whether a type is an array type. -/
def isArray : CType → Bool
  | .array .. => true
  | _ => false

/-- Whether a type is a function type, not a pointer to one. -/
def isRawFunction : CType → Bool
  | .function false .. => true
  | _ => false

/-- Whether a type is an integer type. -/
def isInteger : CType → Bool
  | .primitive n => numericOf? n == some .integer
  | .unknownInteger _ => true
  | _ => false

/-- The pointer to a type, with the qualifiers of what it points to. -/
def pointerTo (tags : Tags) (target : CType) (quals : Nat) : CType :=
  let extra := qualify quals " *&"
  let extra := if target.isArray then "(" ++ trimStart extra ++ ")" else extra
  .pointer target quals ((target.marker tags).replace "&" extra)

/-- The array of a type. -/
def arrayOf (tags : Tags) (item : CType) (length : ArrayLength) : CType :=
  let brackets := match length with
    | .open => "&[]"
    | .deferred => "&[/*...*/]"
    | .fixed n => "&[" ++ toString n ++ "]"
    | .measured e => "&[" ++ e ++ "]"
  .array item length ((item.marker tags).replace "&" brackets)

/-- The function type, or pointer to a function, of arguments and a result. -/
def functionOf (tags : Tags) (pointer : Bool) (args : List CType) (result : CType)
    (ellipsis : Bool) (abi : Option String) : CType :=
  let reprargs := args.map (spelling tags) ++ (if ellipsis then ["..."] else [])
  let reprargs := if reprargs.isEmpty then ["void"] else reprargs
  let inner := if pointer then "*&" else "&"
  let replacement := "(" ++ inner ++ ")(" ++ ", ".intercalate reprargs ++ ")"
  let replacement := match abi with
    | some a => "(" ++ a ++ " " ++ (replacement.drop 1).toString
    | none => replacement
  .function pointer args result ellipsis abi ((result.marker tags).replace "&" replacement)

/-- A function type as a pointer to a function. -/
def asFunctionPointer (tags : Tags) : CType → CType
  | .function _ args result ellipsis abi _ => functionOf tags true args result ellipsis abi
  | t => t

/-- The spelling of a type declaring `declarator` with qualifiers, for use in
`context`; a type that C cannot name fails. -/
def cName (tags : Tags) (t : CType) (declarator : String := "") (context : String := "a C file")
    (quals : Nat := 0) : Except Failure String := do
  let result := t.marker tags
  if (result.splitOn "&").length != 2 then throw (.assertionError "")
  let d := trimBoth declarator
  let d :=
    if d.isEmpty then d
    else if d.startsWith "*" && (result.splitOn "&[").length > 1 then "(" ++ d ++ ")"
    else if d.startsWith "[" || d.startsWith "(" then d
    else " " ++ d
  let result := result.replace "&" (qualify quals d)
  if result.contains '$' then
    throw ⟨"VerificationError",
      "cannot generate '" ++ t.spelling tags ++ "' in " ++ context ++ ": unknown type name"⟩
  return result

/-- Whether two types are equal as values: pointers, arrays and functions by
their parts, nominal types by identity. A pointer spelled by a type definition's
name compares its target and name only. -/
def sameValue : CType → CType → Bool
  | .void, .void => true
  | .primitive a, .primitive b => a == b
  | .unknownInteger a, .unknownInteger b => a == b
  | .unknownFloat a, .unknownFloat b => a == b
  | .function p as r e abi _, .function q bs s f abi' _ =>
    p == q && sameList as bs && sameValue r s && e == f && abi == abi'
  | .pointer a q _, .pointer b r _ => sameValue a b && q == r
  | .namedPointer a n _, .namedPointer b m _ => sameValue a b && n == m
  | .array a l _, .array b m _ => sameValue a b && l == m
  | .tagged i, .tagged j => i == j
  | _, _ => false
where
  /-- Whether two lists of types are equal as values. -/
  sameList : List CType → List CType → Bool
    | [], [] => true
    | a :: as, b :: bs => sameValue a b && sameList as bs
    | _, _ => false

end CType

/-- The members of a struct or union with its anonymous struct and union members
flattened, at most `fuel` levels deep. -/
def flatFields (tags : Tags) : Nat → List Field → Except Failure (List Field)
  | 0, _ => .error ⟨"RecursionError", "maximum recursion depth exceeded"⟩
  | fuel + 1, fields =>
    fields.flatMapM fun f =>
      match f.name, f.type with
      | "", .tagged id =>
        match tags[id]? with
        | some t =>
          if t.kind == .enum then pure [f]
          else match t.fields with
            | some inner => flatFields tags fuel inner
            | none => .error (.typeError "object of type 'NoneType' has no len()")
        | none => pure [f]
      | _, _ => pure [f]

end Basis.Foreign
