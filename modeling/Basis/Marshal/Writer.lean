import Basis.Failure
import Basis.Value.Repr

/-!
# Writing the serial format

A value is written as a type code followed by its contents:

* `N`, `T`, `F`, `.` and `S` for nothing, the truth values, the ellipsis and
  the end-of-iteration class;
* `l` for every integer: the signed count of its base-`2^15` digits as a
  32-bit little-endian word, then the digits of its magnitude, least
  significant first, two bytes each;
* `f` for a float: the length of its representation in one byte, then the
  representation; `x` for a complex number, its two parts so;
* `(`, `[`, `<`, `>` for tuples, lists, sets and frozen sets: the number of
  items as a word, then the items; `{` for a mapping: keys and values in turn,
  closed by `0`;
* `u` for a text and `s` for a byte string: the length, then the bytes.

The writer produces a list of pieces and joins them into one text. The bytes of
a text or of a byte string are a byte piece, which cannot be joined to text
pieces: writing any value that holds one fails at the join, naming the position
of the first byte piece. A class other than the end-of-iteration class cannot be
written at all.
-/

namespace Basis.Marshal

/-- A piece of the written text. -/
inductive Piece where
  /-- Characters. -/
  | text (cs : List Char)
  /-- Raw bytes, which do not join with characters. -/
  | bytes (bs : List UInt8)

/-- A one-character piece. -/
def code (c : Char) : Piece := .text [c]

/-- The four little-endian bytes of the low 32 bits of an integer, as characters. -/
def word (x : Int) : Piece :=
  .text ((List.range 4).map fun (i : Nat) => Char.ofNat ((x >>> (8 * i)) % 256).toNat)

/-- The two little-endian bytes of a 16-bit digit, as two pieces. -/
def short (d : Nat) : List Piece := [.text [Char.ofNat (d % 256)], .text [Char.ofNat (d / 256 % 256)]]

/-- The base-`2^15` digits of a natural number, least significant first. -/
def digits15 (n : Nat) : List Nat :=
  if n = 0 then [] else n % Nat.pow 2 15 :: digits15 (n / Nat.pow 2 15)
termination_by n
decreasing_by exact Nat.div_lt_self (Nat.pos_of_ne_zero ‹_›) (by decide)

/-- The pieces of an integer. -/
def intPieces (n : Int) : List Piece :=
  let ds := digits15 n.natAbs
  let count : Int := if n < 0 then -(ds.length : Int) else ds.length
  code 'l' :: word count :: ds.flatMap short

/-- The length-prefixed representation of a float. -/
def floatText (x : Float) : List Piece :=
  let s := Value.floatRepr x
  [.text [Char.ofNat s.length], .text s.toList]

/-- The failure of writing a value the format has no code for. -/
def unwritable : Failure := .valueError "unmarshallable object"

/-- The code of a sequence or set. -/
def sequenceCode : Value → Char
  | .tuple _ => '('
  | .list _ => '['
  | .set _ => '<'
  | _ => '>'

/-- The pieces of a value. -/
def pieces (v : Value) : Except Failure (List Piece) :=
  match v with
  | .none => .ok [code 'N']
  | .bool b => .ok [code (if b then 'T' else 'F')]
  | .ellipsis => .ok [code '.']
  | .cls name => if name == "StopIteration" then .ok [code 'S'] else .error unwritable
  | .int n => .ok (intPieces n)
  | .float x => .ok (code 'f' :: floatText x)
  | .complex re im => .ok (code 'x' :: floatText re ++ floatText im)
  | .str s => .ok [code 'u', word s.utf8ByteSize, .bytes s.toUTF8.toList]
  | .bytes b => .ok [code 's', word b.size, .bytes b.toList]
  | .tuple items | .list items | .set items | .frozenset items => do
    let inner ← items.attach.mapM fun ⟨x, _⟩ => pieces x
    return code (sequenceCode v) :: word items.length :: inner.flatten
  | .dict entries => do
    let inner ← entries.attach.mapM fun ⟨(k, x), _⟩ => do
      let pk ← pieces k
      let px ← pieces x
      return pk ++ px
    return code '{' :: inner.flatten ++ [code '0']
termination_by sizeOf v
decreasing_by
  all_goals
    have := List.sizeOf_lt_of_mem ‹_ ∈ _›
    simp only [Value.dict.sizeOf_spec, Prod.mk.sizeOf_spec, Value.tuple.sizeOf_spec,
      Value.list.sizeOf_spec, Value.set.sizeOf_spec, Value.frozenset.sizeOf_spec] at *
    omega

/-- Joins pieces into one text; fails at the first byte piece, by its position. -/
def join (ps : List Piece) : Except Failure String :=
  go 0 [] ps
where
  /-- The join from position `i`, with the characters so far. -/
  go (i : Nat) (acc : List Char) : List Piece → Except Failure String
    | [] => .ok (String.ofList acc)
    | .text cs :: rest => go (i + 1) (acc ++ cs) rest
    | .bytes _ :: _ => .error (.typeError s!"sequence item {i}: expected str instance, bytes found")

/-- The serial text of a value. -/
def dumps (v : Value) : Except Failure String := pieces v >>= join

end Basis.Marshal
