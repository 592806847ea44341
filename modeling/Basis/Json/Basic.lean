/-!
# JSON documents

`Json` is a JSON document as RFC 8259 describes it, with two refinements that
the requests of this library need: a number is an integer exactly when it is
written without a fraction or an exponent, so `1` and `1.0` stay apart, and an
object keeps its members in the order in which they were written.
-/

namespace Basis

/-- A JSON document. -/
inductive Json where
  /-- The literal `null`. -/
  | null
  /-- `true` or `false`. -/
  | bool (b : Bool)
  /-- A number written without fraction or exponent. -/
  | int (n : Int)
  /-- A number written with a fraction or an exponent. -/
  | float (x : Float)
  /-- A string. -/
  | str (s : String)
  /-- An array. -/
  | arr (items : List Json)
  /-- An object, its members in written order. -/
  | obj (members : List (String × Json))
  deriving Inhabited

namespace Json

/-- The value of a member of an object, the first one of that name. -/
def get? : Json → String → Option Json
  | obj members, k => (members.find? (·.1 == k)).map (·.2)
  | _, _ => none

/-- Whether the document is an object with a member of that name. -/
def has (j : Json) (k : String) : Bool := (j.get? k).isSome

/-- The text of a string document. -/
def getStr? : Json → Option String
  | str s => some s
  | _ => none

/-- The integer of an integer document. -/
def getInt? : Json → Option Int
  | int n => some n
  | _ => none

/-- The items of an array document. -/
def getArr? : Json → Option (List Json)
  | arr items => some items
  | _ => none

/-- The members of an object document. -/
def getObj? : Json → Option (List (String × Json))
  | obj members => some members
  | _ => none

/-- The truth value of a boolean document. -/
def getBool? : Json → Option Bool
  | bool b => some b
  | _ => none

/-- Whether the document is `null`. -/
def isNull : Json → Bool
  | null => true
  | _ => false

/-- A one-member object. -/
def single (k : String) (v : Json) : Json := obj [(k, v)]

end Json

end Basis
