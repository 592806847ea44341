import Basis.Foreign.Session
import Basis.Foreign.Format

/-!
# Functions of the C library

A library opened without a name is the running process, whose symbols include
the C library's. `libcFunctions` lists the functions a session can look up in
it and call, with the kinds of their parameters and result; `callLibc` runs one
on its arguments, as the C library computes it: string functions read and write
the session's memory, the character classes answer with the bits of the C
library's character table (`isdigit('7')` is 2048), comparisons answer with the
difference of the first differing bytes.

`libcVariables` lists the variables of the process that can be read.
-/

namespace Basis.Foreign

/-- The kind of a parameter or result of a function of the C library. -/
inductive WordKind where
  /-- A 32-bit `int`. -/
  | int
  /-- A 64-bit `long` or `long long`. -/
  | long
  /-- A `size_t`. -/
  | size
  /-- An address. -/
  | address
  /-- A `double`. -/
  | double
  /-- No result. -/
  | none
  deriving DecidableEq, Inhabited

/-- A function of the C library: its parameters, whether more arguments may
follow them, and its result. -/
structure LibcFunction where
  /-- The kinds of the parameters. -/
  params : List WordKind
  /-- Whether more arguments may follow. -/
  varargs : Bool := false
  /-- The kind of the result. -/
  result : WordKind

/-- The functions of the C library a session can call, by name. -/
def libcFunctions : List (String × LibcFunction) :=
  let ctype := [.int]
  [("abs", ⟨[.int], false, .int⟩), ("labs", ⟨[.long], false, .long⟩),
   ("llabs", ⟨[.long], false, .long⟩),
   ("strlen", ⟨[.address], false, .size⟩), ("strnlen", ⟨[.address, .size], false, .size⟩),
   ("strcmp", ⟨[.address, .address], false, .int⟩),
   ("strncmp", ⟨[.address, .address, .size], false, .int⟩),
   ("memcmp", ⟨[.address, .address, .size], false, .int⟩),
   ("memset", ⟨[.address, .int, .size], false, .address⟩),
   ("memcpy", ⟨[.address, .address, .size], false, .address⟩),
   ("memmove", ⟨[.address, .address, .size], false, .address⟩),
   ("strcpy", ⟨[.address, .address], false, .address⟩),
   ("strncpy", ⟨[.address, .address, .size], false, .address⟩),
   ("strcat", ⟨[.address, .address], false, .address⟩),
   ("strchr", ⟨[.address, .int], false, .address⟩),
   ("strrchr", ⟨[.address, .int], false, .address⟩),
   ("strstr", ⟨[.address, .address], false, .address⟩),
   ("atoi", ⟨[.address], false, .int⟩), ("atol", ⟨[.address], false, .long⟩),
   ("atoll", ⟨[.address], false, .long⟩),
   ("toupper", ⟨ctype, false, .int⟩), ("tolower", ⟨ctype, false, .int⟩),
   ("isdigit", ⟨ctype, false, .int⟩), ("isalpha", ⟨ctype, false, .int⟩),
   ("isalnum", ⟨ctype, false, .int⟩), ("isspace", ⟨ctype, false, .int⟩),
   ("isupper", ⟨ctype, false, .int⟩), ("islower", ⟨ctype, false, .int⟩),
   ("isxdigit", ⟨ctype, false, .int⟩), ("ispunct", ⟨ctype, false, .int⟩),
   ("isprint", ⟨ctype, false, .int⟩), ("isgraph", ⟨ctype, false, .int⟩),
   ("iscntrl", ⟨ctype, false, .int⟩), ("isblank", ⟨ctype, false, .int⟩),
   ("sprintf", ⟨[.address, .address], true, .int⟩),
   ("snprintf", ⟨[.address, .size, .address], true, .int⟩),
   ("fabs", ⟨[.double], false, .double⟩), ("sqrt", ⟨[.double], false, .double⟩),
   ("floor", ⟨[.double], false, .double⟩), ("ceil", ⟨[.double], false, .double⟩),
   ("round", ⟨[.double], false, .double⟩), ("trunc", ⟨[.double], false, .double⟩),
   ("pow", ⟨[.double, .double], false, .double⟩), ("fmod", ⟨[.double, .double], false, .double⟩),
   ("exp", ⟨[.double], false, .double⟩), ("log", ⟨[.double], false, .double⟩),
   ("sin", ⟨[.double], false, .double⟩), ("cos", ⟨[.double], false, .double⟩),
   ("tan", ⟨[.double], false, .double⟩), ("atan", ⟨[.double], false, .double⟩)]

/-- The variables of the process that can be read, with their values. -/
def libcVariables : List (String × Int) :=
  [("optind", 1), ("opterr", 1), ("optopt", 63), ("daylight", 0), ("timezone", 0)]

/-- The bits the C library's character table gives a byte: upper 256, lower
512, alpha 1024, digit 2048, xdigit 4096, space 8192, print 16384, graph 32768,
blank 1, cntrl 2, punct 4, alnum 8. -/
def ctypeBits (c : Int) : Nat :=
  if c < 0 || c > 127 then 0 else
  let n := c.toNat
  let upper := 65 ≤ n && n ≤ 90
  let lower := 97 ≤ n && n ≤ 122
  let digit := 48 ≤ n && n ≤ 57
  let alpha := upper || lower
  let xdigit := digit || (65 ≤ n && n ≤ 70) || (97 ≤ n && n ≤ 102)
  let space := n == 32 || (9 ≤ n && n ≤ 13)
  let print := 32 ≤ n && n ≤ 126
  let graph := 33 ≤ n && n ≤ 126
  let blank := n == 32 || n == 9
  let cntrl := n < 32 || n == 127
  let punct := graph && !alpha && !digit
  let bit := fun (b : Bool) (v : Nat) => if b then v else 0
  bit upper 256 + bit lower 512 + bit alpha 1024 + bit digit 2048 + bit xdigit 4096 +
    bit space 8192 + bit print 16384 + bit graph 32768 + bit blank 1 + bit cntrl 2 +
    bit punct 4 + bit (alpha || digit) 8

/-- The integer at the front of a string as `strtol` reads it in base 10:
blanks, a sign, digits; clamped to 64 bits. -/
def leadingInt (bs : List UInt8) : Int :=
  let bs := bs.dropWhile fun b => b == 32 || (9 ≤ b && b ≤ 13)
  let (neg, bs) := match bs with
    | 45 :: r => (true, r)
    | 43 :: r => (false, r)
    | r => (false, r)
  let ds := bs.takeWhile fun b => 48 ≤ b && b ≤ 57
  let n : Int := ds.foldl (fun acc d => acc * 10 + (d.toNat - 48 : Nat)) 0
  let n := if neg then -n else n
  max (-(Int.pow 2 63)) (min (Int.pow 2 63 - 1) n)

/-- The value of a 64-bit word as a 32-bit signed `int`. -/
def asInt32 (n : Int) : Int :=
  let r := n % Int.pow 2 32
  if r ≥ Int.pow 2 31 then r - Int.pow 2 32 else r

/-- The value of a word as a 64-bit signed integer. -/
def asInt64 (n : Int) : Int :=
  let r := n % Int.pow 2 64
  if r ≥ Int.pow 2 63 then r - Int.pow 2 64 else r

/-- The value of a word as an unsigned 64-bit number or address. -/
def asWord (n : Int) : Nat := (n % Int.pow 2 64).toNat

namespace SessionM

/-- The string at an address, up to its terminating zero or `limit` bytes. -/
def cString (addr : Nat) (limit : Option Nat := none) : SessionM (List UInt8) := do
  match (← get).memory.readString addr (limit.getD (Nat.pow 2 62)) with
  | .ok bs => pure bs
  | .error f => throw f

/-- The difference of the first differing bytes of two runs, or 0. -/
def byteDifference : List UInt8 → List UInt8 → Int
  | a :: as, b :: bs => if a == b then byteDifference as bs else (a.toNat : Int) - b.toNat
  | [], b :: _ => -(b.toNat : Int)
  | a :: _, [] => a.toNat
  | [], [] => 0

/-- The first position of a run of bytes inside another. -/
def findRun (hay needle : List UInt8) : Option Nat :=
  (List.range (hay.length + 1)).find? fun i => (hay.drop i).take needle.length == needle

/-- Calls a function of the C library with its arguments. -/
def callLibc (name : String) (args : List Word) : SessionM Word := do
  let ints := args.filterMap fun | .int n => some n | _ => none
  let floats := args.filterMap fun | .float x => some x | _ => none
  let i := fun (k : Nat) => ints.getD k 0
  let f := fun (k : Nat) => floats.getD k 0.0
  let ptr := fun (k : Nat) => asWord (i k)
  let formatted := fun (fmtAt : Nat) (rest : List Word) => do
    let fmt ← cString (ptr fmtAt)
    let memory := (← get).memory
    match Format.render fmt rest (fun a limit => memory.readString a (limit.getD (Nat.pow 2 62))) with
    | .ok bs => pure bs
    | .error e => throw e
  match name with
  | "abs" => pure (.int (asInt32 (asInt32 (i 0)).natAbs))
  | "labs" | "llabs" => pure (.int (asInt64 (asInt64 (i 0)).natAbs))
  | "strlen" => return .int (← cString (ptr 0)).length
  | "strnlen" => return .int (← cString (ptr 0) (some (asWord (i 1)))).length
  | "strcmp" => return .int (byteDifference (← cString (ptr 0)) (← cString (ptr 1)))
  | "strncmp" =>
    let n := asWord (i 2)
    return .int (byteDifference (← cString (ptr 0) (some n)) (← cString (ptr 1) (some n)))
  | "memcmp" =>
    let n := asWord (i 2)
    return .int (byteDifference (← readBytes (ptr 0) n) (← readBytes (ptr 1) n))
  | "memset" =>
    writeBytes (ptr 0) (List.replicate (asWord (i 2)) (i 1 % 256).toNat.toUInt8)
    pure (.int (i 0))
  | "memcpy" | "memmove" =>
    writeBytes (ptr 0) (← readBytes (ptr 1) (asWord (i 2)))
    pure (.int (i 0))
  | "strcpy" =>
    writeBytes (ptr 0) ((← cString (ptr 1)) ++ [0])
    pure (.int (i 0))
  | "strncpy" =>
    let n := asWord (i 2)
    let s ← cString (ptr 1) (some n)
    writeBytes (ptr 0) (s ++ List.replicate (n - s.length) 0)
    pure (.int (i 0))
  | "strcat" =>
    let d ← cString (ptr 0)
    writeBytes (ptr 0 + d.length) ((← cString (ptr 1)) ++ [0])
    pure (.int (i 0))
  | "strchr" | "strrchr" =>
    let s ← cString (ptr 0)
    let c := (i 1 % 256).toNat.toUInt8
    let s := s ++ [0]
    let idx := if name == "strchr" then s.findIdx? (· == c)
      else (s.reverse.findIdx? (· == c)).map fun k => s.length - 1 - k
    pure (.int ((idx.map fun k => ptr 0 + k).getD 0))
  | "strstr" =>
    let found := findRun (← cString (ptr 0)) (← cString (ptr 1))
    pure (.int ((found.map fun k => ptr 0 + k).getD 0))
  | "atoi" => return .int (asInt32 (leadingInt (← cString (ptr 0))))
  | "atol" | "atoll" => return .int (leadingInt (← cString (ptr 0)))
  | "toupper" | "tolower" =>
    let c := asInt32 (i 0)
    if name == "toupper" && 97 ≤ c && c ≤ 122 then pure (.int (c - 32))
    else if name == "tolower" && 65 ≤ c && c ≤ 90 then pure (.int (c + 32))
    else pure (.int c)
  | "isdigit" => pure (.int ((ctypeBits (asInt32 (i 0)) &&& 2048 : Nat) : Int))
  | "isalpha" => pure (.int ((ctypeBits (asInt32 (i 0)) &&& 1024 : Nat) : Int))
  | "isalnum" => pure (.int ((ctypeBits (asInt32 (i 0)) &&& 8 : Nat) : Int))
  | "isspace" => pure (.int ((ctypeBits (asInt32 (i 0)) &&& 8192 : Nat) : Int))
  | "isupper" => pure (.int ((ctypeBits (asInt32 (i 0)) &&& 256 : Nat) : Int))
  | "islower" => pure (.int ((ctypeBits (asInt32 (i 0)) &&& 512 : Nat) : Int))
  | "isxdigit" => pure (.int ((ctypeBits (asInt32 (i 0)) &&& 4096 : Nat) : Int))
  | "ispunct" => pure (.int ((ctypeBits (asInt32 (i 0)) &&& 4 : Nat) : Int))
  | "isprint" => pure (.int ((ctypeBits (asInt32 (i 0)) &&& 16384 : Nat) : Int))
  | "isgraph" => pure (.int ((ctypeBits (asInt32 (i 0)) &&& 32768 : Nat) : Int))
  | "iscntrl" => pure (.int ((ctypeBits (asInt32 (i 0)) &&& 2 : Nat) : Int))
  | "isblank" => pure (.int ((ctypeBits (asInt32 (i 0)) &&& 1 : Nat) : Int))
  | "sprintf" =>
    let text ← formatted 1 (args.drop 2)
    writeBytes (ptr 0) (text ++ [0])
    pure (.int text.length)
  | "snprintf" =>
    let text ← formatted 2 (args.drop 3)
    let n := asWord (i 1)
    if n > 0 then writeBytes (ptr 0) (text.take (n - 1) ++ [0])
    pure (.int text.length)
  | "fabs" => pure (.float (f 0).abs)
  | "sqrt" => pure (.float (f 0).sqrt)
  | "floor" => pure (.float (f 0).floor)
  | "ceil" => pure (.float (f 0).ceil)
  | "round" => pure (.float (f 0).round)
  | "trunc" =>
    let x := f 0
    pure (.float (if x < 0 then x.ceil else x.floor))
  | "pow" => pure (.float ((f 0).pow (f 1)))
  | "fmod" => pure (.float (Float.ofScientific 0 false 0 + (f 0) - (f 1) *
      (let q := (f 0) / (f 1); if q < 0 then q.ceil else q.floor)))
  | "exp" => pure (.float (f 0).exp)
  | "log" => pure (.float (f 0).log)
  | "sin" => pure (.float (f 0).sin)
  | "cos" => pure (.float (f 0).cos)
  | "tan" => pure (.float (f 0).tan)
  | "atan" => pure (.float (f 0).atan)
  | _ => throw (.notImplemented ("calling '" ++ name ++ "'"))

end SessionM

end Basis.Foreign
