import Basis.Marshal.Reader

/-!
# Reading the serial format through a buffer

The reader a file object drives asks its buffer for chunks: `read n` gives the
characters from the position to `n` further on, as many as the text still
has, and moves the position by `n` whatever it gave. It reads the same codes
as `Basis.Marshal.loads`, one method per code, but no read of its own fails:
what runs short fails later, or not at all.

* A type code read at the end is an empty chunk, which fails with `EOFError`.
* A byte read at the end is an empty chunk, whose code fails with the
  `TypeError` of `ord`.
* A 32-bit integer read near the end is a short chunk, whose first missing
  character fails with an `IndexError`.
* A string read near the end is the rest of the text, shorter than its count.
* A reference to an interned string that is not there fails with the
  `IndexError` of the table.

The buffer holds a text, so every chunk is a text.
-/

namespace Basis.Marshal.Chunked

/-- Reads `n` characters: the slice of the text from the position to `n`
further on, and moves the position by `n`. -/
def read (text : List Char) (n : Int) : Reader (List Char) := do
  let c ← get
  let start := clampBound text.length c.pos
  set { c with pos := c.pos + n }
  pure (Value.cut text start (max start (clampBound text.length (c.pos + n))))

/-- The code of a chunk, as `ord` takes it: a chunk of one character. -/
def codeOf : List Char → Except Failure Nat
  | [ch] => .ok ch.toNat
  | cs => .error (.typeError (Value.OrdError.wrongLength cs.length).message)

/-- The character at an index of a chunk. -/
def charAt (s : List Char) (k : Nat) : Except Failure Char :=
  match s[k]? with
  | some ch => .ok ch
  | none => .error (.indexError "string index out of range")

/-- Reads one character and takes its code. -/
def readByte (text : List Char) : Reader Nat := do codeOf (← read text 1)

/-- Reads a chunk of four characters and takes it as a signed 32-bit
little-endian integer, its characters in order. -/
def readLong (text : List Char) : Reader Int := do
  let s ← read text 4
  let codes ← ((List.range 4).mapM fun k => Char.toNat <$> charAt s k : Except Failure (List Nat))
  pure (signedOf 4 codes)

/-- Reads a signed 64-bit little-endian integer, a character at a time. -/
def readLong64 (text : List Char) : Reader Int := do
  let codes ← (List.range 8).mapM fun _ => readByte text
  pure (signedOf 8 codes)

/-- Reads a signed 16-bit little-endian digit. -/
def readShort (text : List Char) : Reader Int := do
  let lo ← readByte text
  let hi ← readByte text
  let x := lo ||| hi <<< 8
  pure (if x &&& 0x8000 != 0 then (x : Int) - 0x10000 else x)

/-- Reads the digits of a long integer, ORing digit `i` in at bit `15 i`. -/
def readDigits (text : List Char) : Nat → Nat → Int → Reader Int
  | 0, _, x => pure x
  | k + 1, i, x => do
    let d ← readShort text
    readDigits text k (i + 1) (Integer.lor x (d <<< (i * 15)))

/-- Reads a length byte and a chunk of that length, and reads it as a float. -/
def readFloat (text : List Char) : Reader Float := do
  let n ← readByte text
  let s ← read text n
  floatOf (.str (String.ofList s))

/-- Reads the fourteen fields of code, which cannot be rebuilt from them. -/
def loadCodeObject (text : List Char) (next : Reader Value) : Reader Value := do
  for _ in [0:4] do
    discard (readLong text)
  discard (loadItems next 8)
  discard (readLong text)
  discard next
  throw (.typeError "code expected at least 16 arguments, got 14")

/-- Reads the contents of a value after its type code; `next` reads a nested value. -/
def loadContents (text : List Char) (next : Reader Value) (budget : Nat) (ch : Char) :
    Reader Value :=
  if ch == '0' then pure nullMark
  else if ch == 'N' then pure .none
  else if ch == 'T' then pure (.bool true)
  else if ch == 'F' then pure (.bool false)
  else if ch == 'S' then pure (.cls "StopIteration")
  else if ch == '.' then pure .ellipsis
  else if ch == 'i' then .int <$> readLong text
  else if ch == 'I' then .int <$> readLong64 text
  else if ch == 'l' then do
    let size ← readLong text
    let x ← readDigits text size.natAbs 0 0
    pure (.int (if size < 0 then -x else x))
  else if ch == 'f' then .float <$> readFloat text
  else if ch == 'x' then do
    let re ← readFloat text
    let im ← readFloat text
    pure (.complex re im)
  else if ch == 's' then do
    let s ← read text (← readLong text)
    pure (.str (String.ofList s))
  else if ch == 't' then do
    let s ← read text (← readLong text)
    modify (fun c => { c with interned := c.interned ++ [.str (String.ofList s)] })
    pure (.str (String.ofList s))
  else if ch == 'R' then do
    let n ← readLong text
    let c ← get
    match (resolve c.interned.length n).bind fun j => c.interned[j]? with
    | some v => pure v
    | none => throw Failure.listIndex
  else if ch == 'u' then do
    discard (read text (← readLong text))
    throw (.noAttribute "str" "decode")
  else if ch == '(' then do .tuple <$> loadItems next (← readLong text).toNat
  else if ch == '[' then do .list <$> loadItems next (← readLong text).toNat
  else if ch == '<' then do
    let xs ← loadItems next (← readLong text).toNat
    .set <$> Value.setOrder xs
  else if ch == '>' then do
    let xs ← loadItems next (← readLong text).toNat
    .frozenset <$> Value.setOrder xs
  else if ch == '{' then .dict <$> loadEntries next budget []
  else if ch == 'c' then loadCodeObject text next
  else throw (.valueError s!"bad marshal code: {ch} ({ch.toNat})")

/-- Reads one value, nesting at most `fuel` levels deep: a chunk of one
character is its type code, an empty one the end of the input. -/
def load (text : List Char) : Nat → Reader Value
  | 0 => throw tooDeep
  | fuel + 1 => do
    match ← read text 1 with
    | [] => throw eof
    | [ch] => loadContents text (load text fuel) (2 * text.length + 1000) ch
    | cs => throw (badCode (.str (String.ofList cs)))

/-- Reads one value from the front of a text through a buffer. -/
def loads (s : String) : Except Failure Value :=
  (load s.toList (2 * s.length + 1000)).run' ⟨0, []⟩

end Basis.Marshal.Chunked
