import Basis.Value.Sequence
import Basis.Value.Hash
import Basis.Value.Repr
import Basis.Decimal.Reading
import Basis.Integer.Bitwise

/-!
# Reading the serial format

`loads` reads one value from the front of a text: the inverse of
`Basis.Marshal.dumps` on what that writes, and besides it the codes `i` and `I`
for 32- and 64-bit integers, `s` for a byte string read as a text, `t` and `R`
for texts kept in a table and referred to by position, and `c` for code.

The input is read item by item, where an item is a character of a text, a byte
of a byte string or an element of a list. Every position is an integer, and a
negative one counts from the end: a negative length read moves the reader
backwards. Running past the end fails with `EOFError`. An item that is no type
code fails with a `ValueError` that names it, a text read for `u` fails because
a text has no `decode`, and code cannot be rebuilt from the fourteen fields the
format stores. A mapping is read up to the item `0`, which is read as the class
`_NULL` everywhere else.
-/

namespace Basis.Marshal

/-- The input of a reader: its items and the whole value, which gives slices
their type. -/
structure Input where
  /-- The items, in order. -/
  items : Array Value
  /-- The value the items come from. -/
  whole : Value

/-- Where a reader stands, and the texts it has interned. -/
structure Cursor where
  /-- The position of the next item. -/
  pos : Int
  /-- The interned texts, in order. -/
  interned : List Value

/-- A computation of a reader: it moves the cursor and may fail. -/
abbrev Reader := StateT Cursor (Except Failure)

/-- The failure of reading past the end. -/
def eof : Failure := .eofError ""

/-- The class that ends a mapping. -/
def nullMark : Value := .cls "_NULL"

/-- A position of a sequence of `n` items as an index from the start, negative
positions counting from the end. -/
def resolve (n : Nat) (i : Int) : Option Nat :=
  let j := if i < 0 then i + n else i
  if 0 ≤ j ∧ j < n then some j.toNat else none

/-- A slice bound clamped to `0 … n`, negative bounds counting from the end. -/
def clampBound (n : Nat) (i : Int) : Nat :=
  let j := if i < 0 then i + n else i
  if j < 0 then 0 else min j.toNat n

/-- The item at a position. -/
def Input.at? (inp : Input) (i : Int) : Option Value :=
  (resolve inp.items.size i).bind fun j => inp.items[j]?

/-- The slice between two positions, of the type of the input. -/
def Input.slice (inp : Input) (start stop : Int) : Except Failure Value :=
  let n := inp.items.size
  inp.whole.slice (clampBound n start) (max (clampBound n start) (clampBound n stop))

/-- The code of an item. -/
def ordOf (v : Value) : Except Failure Nat := v.ord?.mapError fun e => .typeError e.message

/-- Reads one item. -/
def readItem (inp : Input) : Reader Value := do
  let c ← get
  match inp.at? c.pos with
  | some v => set { c with pos := c.pos + 1 }; pure v
  | none => throw eof

/-- Reads the code of one item. -/
def readByte (inp : Input) : Reader Nat := do ordOf (← readItem inp)

/-- Reads `n` items as a slice; fails if they reach past the end. -/
def readSlice (inp : Input) (n : Int) : Reader Value := do
  let c ← get
  let stop := c.pos + n
  if stop > inp.items.size then throw eof
  let s ← inp.slice c.pos stop
  set { c with pos := stop }
  pure s

/-- The signed value of `width` little-endian bytes given as codes. -/
def signedOf (width : Nat) (codes : List Nat) : Int :=
  let x := (codes.zip (List.range codes.length)).foldl (fun acc (b, i) => acc ||| b <<< (8 * i)) (0 : Nat)
  let top := codes.getLastD 0
  if top &&& 0x80 != 0 && x > 0 then (x : Int) - Int.pow 2 (8 * width) else x

/-- Reads a signed 32-bit little-endian integer. -/
def readLong (inp : Input) : Reader Int := do
  let c ← get
  let codes ← (List.range 4).mapM fun (k : Nat) =>
    match inp.at? (c.pos + (k : Int)) with
    | some v => ordOf v
    | none => throw eof
  set { c with pos := c.pos + 4 }
  pure (signedOf 4 codes)

/-- Reads a signed 64-bit little-endian integer. -/
def readLong64 (inp : Input) : Reader Int := do
  let codes ← (List.range 8).mapM fun _ => readByte inp
  pure (signedOf 8 codes)

/-- Reads a signed 16-bit little-endian digit. -/
def readShort (inp : Input) : Reader Int := do
  let lo ← readByte inp
  let hi ← readByte inp
  let x := lo ||| hi <<< 8
  pure (if x &&& 0x8000 != 0 then (x : Int) - 0x10000 else x)

/-- Reads the digits of a long integer, ORing digit `i` in at bit `15 i`. -/
def readDigits (inp : Input) : Nat → Nat → Int → Reader Int
  | 0, _, x => pure x
  | k + 1, i, x => do
    let d ← readShort inp
    readDigits inp k (i + 1) (Integer.lor x (d <<< (i * 15)))

/-- The float written by a slice of the input. -/
def floatOf (s : Value) : Except Failure Float :=
  let bad := Failure.valueError s!"could not convert string to float: {s.repr}"
  match s with
  | .str t => (Decimal.readFloat? t).elim (.error bad) .ok
  | .bytes b =>
    (Decimal.readFloat? (String.ofList (b.toList.map fun x => Char.ofNat x.toNat))).elim (.error bad) .ok
  | v => .error (.typeError s!"float() argument must be a string or a real number, not '{v.typeName}'")

/-- Reads a length byte and that many items, and reads them as a float. -/
def readFloat (inp : Input) : Reader Float := do
  let n ← readByte inp
  let s ← readSlice inp n
  floatOf s

/-- The failure of an item that is no type code. -/
def badCode (c : Value) : Failure :=
  match c.unhashable? with
  | some t => Value.unhashableFailure t
  | none =>
    match c with
    | .str s =>
      match s.toList with
      | [ch] => .valueError s!"bad marshal code: {s} ({ch.toNat})"
      | _ => .typeError "%c requires int or char"
    | .int n =>
      if 0 ≤ n ∧ n < 0x110000 then .typeError "ord() expected string of length 1, but int found"
      else .overflowError "%c arg not in range(0x110000)"
    | .bool _ => .typeError "ord() expected string of length 1, but bool found"
    | _ => .typeError "%c requires int or char"

/-- The failure of a reader that nests too deep. -/
def tooDeep : Failure := ⟨"RecursionError", "maximum recursion depth exceeded"⟩

/-- Reads `count` values with `next`. -/
def loadItems (next : Reader Value) : Nat → Reader (List Value)
  | 0 => pure []
  | count + 1 => do
    let x ← next
    let rest ← loadItems next count
    pure (x :: rest)

/-- Reads keys and values with `next` up to the closing mark, with `steps`
entries at most. -/
def loadEntries (next : Reader Value) : Nat → List (Value × Value) → Reader (List (Value × Value))
  | 0, _ => throw tooDeep
  | steps + 1, acc => do
    let key ← next
    match key with
    | .cls "_NULL" => pure acc
    | _ =>
      let value ← next
      let acc ← Value.putEntry acc key value
      loadEntries next steps acc

/-- Reads the fourteen fields of code, which cannot be rebuilt from them. -/
def loadCodeObject (inp : Input) (next : Reader Value) : Reader Value := do
  for _ in [0:4] do
    discard (readLong inp)
  discard (loadItems next 8)
  discard (readLong inp)
  discard next
  throw (.typeError "code expected at least 16 arguments, got 14")

/-- Reads the contents of a value after its type code; `next` reads a nested value. -/
def loadContents (inp : Input) (next : Reader Value) (budget : Nat) (ch : Char) : Reader Value :=
  if ch == '0' then pure nullMark
  else if ch == 'N' then pure .none
  else if ch == 'T' then pure (.bool true)
  else if ch == 'F' then pure (.bool false)
  else if ch == 'S' then pure (.cls "StopIteration")
  else if ch == '.' then pure .ellipsis
  else if ch == 'i' then .int <$> readLong inp
  else if ch == 'I' then .int <$> readLong64 inp
  else if ch == 'l' then do
    let size ← readLong inp
    let x ← readDigits inp size.natAbs 0 0
    pure (.int (if size < 0 then -x else x))
  else if ch == 'f' then .float <$> readFloat inp
  else if ch == 'x' then do
    let re ← readFloat inp
    let im ← readFloat inp
    pure (.complex re im)
  else if ch == 's' then do readSlice inp (← readLong inp)
  else if ch == 't' then do
    let s ← readSlice inp (← readLong inp)
    match s with
    | .str _ => modify (fun c => { c with interned := c.interned ++ [s] }); pure s
    | v => throw (.typeError s!"intern() argument 1 must be str, not {v.typeName}")
  else if ch == 'R' then do
    let n ← readLong inp
    let c ← get
    match (resolve c.interned.length n).bind fun j => c.interned[j]? with
    | some v => pure v
    | none => throw eof
  else if ch == 'u' then do
    let s ← readSlice inp (← readLong inp)
    throw (.noAttribute s.typeName "decode")
  else if ch == '(' then do .tuple <$> loadItems next (← readLong inp).toNat
  else if ch == '[' then do .list <$> loadItems next (← readLong inp).toNat
  else if ch == '<' then do
    let xs ← loadItems next (← readLong inp).toNat
    .set <$> Value.setOrder xs
  else if ch == '>' then do
    let xs ← loadItems next (← readLong inp).toNat
    .frozenset <$> Value.setOrder xs
  else if ch == '{' then .dict <$> loadEntries next budget []
  else if ch == 'c' then loadCodeObject inp next
  else throw (.valueError s!"bad marshal code: {ch} ({ch.toNat})")

/-- Reads one value, nesting at most `fuel` levels deep. -/
def load (inp : Input) : Nat → Reader Value
  | 0 => throw tooDeep
  | fuel + 1 => do
    let c ← readItem inp
    match c with
    | .str s =>
      match s.toList with
      | [ch] => loadContents inp (load inp fuel) (2 * inp.items.size + 1000) ch
      | _ => throw (badCode c)
    | _ => throw (badCode c)

/-- The items of a value that is read from. -/
def inputOf (v : Value) : Except Failure Input :=
  match v with
  | .str s => .ok ⟨(s.toList.map fun c => Value.str (String.singleton c)).toArray, v⟩
  | .bytes b => .ok ⟨(b.toList.map fun x => Value.int x.toNat).toArray, v⟩
  | .list xs | .tuple xs => .ok ⟨xs.toArray, v⟩
  | .dict _ => .error (.valueError "bad marshal code: ? (63)")
  | v => .error (.typeError s!"'{v.typeName}' object is not subscriptable")

/-- Reads one value from the front of the input. -/
def loads (v : Value) : Except Failure Value := do
  let inp ← inputOf v
  let fuel := 2 * inp.items.size + 1000
  (load inp fuel).run' ⟨0, []⟩

end Basis.Marshal
