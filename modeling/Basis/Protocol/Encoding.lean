import Basis.Json.Writer
import Basis.Value.Repr
import Basis.Value.Hash
import Basis.Decimal.Reading

/-!
# Values in requests and answers

Requests carry values as JSON documents and answers return them the same way.
Plain JSON stands for itself: `null`, truth values, integers, texts, arrays as
lists and objects as mappings with text keys; a number with a fraction or an
exponent is a float. Everything else is an object whose single member is named
with a `$`: `$bytes` and `$latin1` in hexadecimal, `$float` and `$int` as text,
`$tuple`, `$dict`, `$set`, `$frozenset`, `$complex`, `$ellipsis` and
`$stopiteration`.

`decode` reads a value of a request; `encode` writes a value of an answer,
where floats are always `$float` texts, sets list their members in the order of
their JSON text, and nesting deeper than fifty levels is cut off.
-/

namespace Basis.Protocol

/-- A request that the library refuses to run. -/
def refused (message : String) : Failure := ⟨"Refused", message⟩

/-- The failure of a request of the wrong shape. -/
def badRequest : Failure := ⟨"BadInput", "bad request"⟩

/-- The value of a hexadecimal digit. -/
def hexDigit? (c : Char) : Option Nat :=
  if '0' ≤ c ∧ c ≤ '9' then some (c.toNat - '0'.toNat)
  else if 'a' ≤ c ∧ c ≤ 'f' then some (c.toNat - 'a'.toNat + 10)
  else if 'A' ≤ c ∧ c ≤ 'F' then some (c.toNat - 'A'.toNat + 10)
  else none

/-- The bytes of a hexadecimal text, two digits to a byte, blanks allowed between bytes. -/
def hexBytes? : List Char → Option (List UInt8)
  | [] => some []
  | ' ' :: rest => hexBytes? rest
  | a :: b :: rest => do
    let hi ← hexDigit? a
    let lo ← hexDigit? b
    let tail ← hexBytes? rest
    return (hi * 16 + lo).toUInt8 :: tail
  | [_] => none

/-- Two lower-case hexadecimal digits per byte. -/
def hexText (bs : List UInt8) : String :=
  String.join (bs.map fun b =>
    let ds := Nat.toDigits 16 b.toNat
    String.ofList (List.replicate (2 - ds.length) '0' ++ ds))

/-- The natural number of a non-empty list of decimal digits. -/
def digitsNat? (ds : List Char) : Option Nat :=
  if ds.isEmpty || !ds.all Char.isDigit then none else some (Decimal.digitsValue ds)

/-- The integer of a decimal text with an optional sign. -/
def intOfText? (s : String) : Option Int :=
  match s.trimAscii.toString.toList with
  | '-' :: ds => (digitsNat? ds).map fun n => -(n : Int)
  | '+' :: ds => (digitsNat? ds).map fun n => (n : Int)
  | ds => (digitsNat? ds).map fun n => (n : Int)

/-- The failure of a `$` name that no value has. -/
def unknownSpec (name : String) : Failure := refused s!"unknown spec {name}"

mutual

/-- The value of a document of a request. -/
def decode : Json → Except Failure Value
  | .null => .ok .none
  | .bool b => .ok (.bool b)
  | .int n => .ok (.int n)
  | .float x => .ok (.float x)
  | .str s => .ok (.str s)
  | .arr items => .list <$> decodeList items
  | .obj [] => .ok (.dict [])
  | .obj ((k, v) :: rest) =>
    if k.startsWith "$" then decodeSpec k v
    else do
      let entries ← decodeMembers ((k, v) :: rest)
      .dict <$> entries.foldlM (fun acc (key, val) => Value.putEntry acc (.str key) val) []

/-- The values of the items of an array. -/
def decodeList : List Json → Except Failure (List Value)
  | [] => .ok []
  | j :: rest => do
    let v ← decode j
    let vs ← decodeList rest
    return v :: vs

/-- The values of the members of an object. -/
def decodeMembers : List (String × Json) → Except Failure (List (String × Value))
  | [] => .ok []
  | (k, j) :: rest => do
    let v ← decode j
    let vs ← decodeMembers rest
    return (k, v) :: vs

/-- The pairs of a `$dict` document. -/
def decodePairs : List Json → Except Failure (List (Value × Value))
  | [] => .ok []
  | .arr [k, v] :: rest => do
    let kv ← decode k
    let vv ← decode v
    let tail ← decodePairs rest
    return (kv, vv) :: tail
  | _ :: _ => .error (unknownSpec "$dict")

/-- The value of a one-member object named with a `$`. -/
def decodeSpec (name : String) : Json → Except Failure Value
  | .str s =>
    match name with
    | "$bytes" =>
      match hexBytes? s.toList with
      | some bs => .ok (.bytes (ByteArray.mk bs.toArray))
      | none => .error (unknownSpec name)
    | "$latin1" =>
      match hexBytes? s.toList with
      | some bs => .ok (.str (String.ofList (bs.map fun b => Char.ofNat b.toNat)))
      | none => .error (unknownSpec name)
    | "$float" =>
      match Decimal.readFloat? s with
      | some x => .ok (.float x)
      | none => .error (unknownSpec name)
    | "$int" =>
      match intOfText? s with
      | some n => .ok (.int n)
      | none => .error (unknownSpec name)
    | _ => .error (unknownSpec name)
  | .arr items =>
    match name with
    | "$tuple" => .tuple <$> decodeList items
    | "$set" => do
      let vs ← decodeList items
      .set <$> Value.setOrder vs
    | "$frozenset" => do
      let vs ← decodeList items
      .frozenset <$> Value.setOrder vs
    | "$dict" => do
      let pairs ← decodePairs items
      .dict <$> pairs.foldlM (fun acc (k, v) => Value.putEntry acc k v) []
    | "$complex" => do
      match ← decodeList items with
      | [re, im] => .ok (.complex (toFloat re) (toFloat im))
      | _ => .error (unknownSpec name)
    | _ => .error (unknownSpec name)
  | _ =>
    match name with
    | "$ellipsis" => .ok .ellipsis
    | "$stopiteration" => .ok (.cls "StopIteration")
    | _ => .error (unknownSpec name)

/-- A number as a float. -/
def toFloat : Value → Float
  | .float x => x
  | .int n => Float.ofInt n
  | .bool b => if b then 1.0 else 0.0
  | _ => 0.0

end

/-- A float of an answer. -/
def encodeFloat (x : Float) : Json := .single "$float" (.str (Value.floatRepr x))

/-- The JSON text that orders the members of a set in an answer. -/
def orderKey (j : Json) : String := j.sortKeys.render

/-- The members of a set in an answer, ordered by their JSON text. -/
def sortByText (items : List Json) : Json :=
  .arr (items.mergeSort fun a b => decide (orderKey a ≤ orderKey b))

/-- The document of a value of an answer, `depth` levels below the top. -/
def encodeAt (depth : Nat) (v : Value) : Json :=
  if depth > 50 then .single "$deep" (.bool true)
  else
    match v with
    | .none => .null
    | .bool b => .bool b
    | .int n => .int n
    | .float x => encodeFloat x
    | .str s => .str s
    | .bytes b => .single "$bytes" (.str (hexText b.toList))
    | .list items | .tuple items => .arr (items.attach.map fun ⟨x, _⟩ => encodeAt (depth + 1) x)
    | .dict entries =>
      .single "$dict" (.arr (entries.attach.map fun ⟨(k, x), _⟩ =>
        .arr [encodeAt (depth + 1) k, encodeAt (depth + 1) x]))
    | .set items => .single "$set" (sortByText (items.attach.map fun ⟨x, _⟩ => encodeAt (depth + 1) x))
    | .frozenset items =>
      .single "$frozenset" (sortByText (items.attach.map fun ⟨x, _⟩ => encodeAt (depth + 1) x))
    | .complex re im => .single "$complex" (.arr [encodeFloat re, encodeFloat im])
    | .ellipsis => .single "$ellipsis" (.bool true)
    | .cls name => .single "$class" (.str name)
termination_by sizeOf v
decreasing_by
  all_goals
    have := List.sizeOf_lt_of_mem ‹_ ∈ _›
    simp only [Value.list.sizeOf_spec, Value.tuple.sizeOf_spec, Value.dict.sizeOf_spec,
      Value.set.sizeOf_spec, Value.frozenset.sizeOf_spec, Prod.mk.sizeOf_spec] at *
    omega

/-- The document of a value of an answer. -/
def encode (v : Value) : Json := encodeAt 0 v

/-- A text of a digest, one byte per character, as `$latin1`. -/
def encodeLatin1 (s : String) : Json :=
  .single "$latin1" (.str (hexText (s.toList.map fun c => c.toNat.toUInt8)))

end Basis.Protocol
