/-!
# Failures

A request that cannot be answered fails with a `Failure`: the class of the
failure, as answers name it, and its text. Each part of the library keeps its
own type of causes and turns a cause into a failure in one place; the
constructors below name the classes that several parts share.
-/

namespace Basis

/-- A failed operation: the class of the failure and its text. -/
structure Failure where
  /-- The class of the failure, such as `TypeError`. -/
  kind : String
  /-- The text of the failure. -/
  message : String
  deriving DecidableEq, Repr, Inhabited

namespace Failure

/-- An operation applied to a value of the wrong type. -/
def typeError (message : String) : Failure := ⟨"TypeError", message⟩

/-- An argument of the right type and a wrong value. -/
def valueError (message : String) : Failure := ⟨"ValueError", message⟩

/-- A position outside a sequence. -/
def indexError (message : String) : Failure := ⟨"IndexError", message⟩

/-- A key that a mapping lacks; the text is the key's representation. -/
def keyError (message : String) : Failure := ⟨"KeyError", message⟩

/-- An attribute that an object lacks. -/
def attributeError (message : String) : Failure := ⟨"AttributeError", message⟩

/-- A name that is bound nowhere. -/
def nameError (message : String) : Failure := ⟨"NameError", message⟩

/-- A number outside the range of its destination. -/
def overflowError (message : String) : Failure := ⟨"OverflowError", message⟩

/-- The end of the input, reached while more was expected. -/
def eofError (message : String) : Failure := ⟨"EOFError", message⟩

/-- An operation that the object does not provide. -/
def notImplemented (message : String) : Failure := ⟨"NotImplementedError", message⟩

/-- A broken internal expectation. -/
def assertionError (message : String) : Failure := ⟨"AssertionError", message⟩

/-- The failure of reading past the end of a list. -/
def listIndex : Failure := indexError "list index out of range"

/-- The failure of an attribute read on an object of class `cls`. -/
def noAttribute (cls attr : String) : Failure :=
  attributeError s!"'{cls}' object has no attribute '{attr}'"

end Failure

end Basis
