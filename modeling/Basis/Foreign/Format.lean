import Basis.Failure
import Basis.Decimal.Fixed

/-!
# Format strings of the C library

`Format.render` writes a format string with its arguments the way the C
library's `printf` family does. A conversion is `%`, flags (`-+ #0`), a width,
a precision, a length (`hh h l ll j z t L q`) and a letter:

* `d i` signed and `u o x X` unsigned integers, of 32 bits unless a length
  says otherwise; the precision is the least number of digits;
* `c` a byte, `s` a string read from memory (`(null)` for address 0), `p` an
  address in hexadecimal (`(nil)` for 0), `%` itself;
* `f F e E g G` floats: positional with six places by default, with an
  exponent of at least two digits, or the shorter of the two with trailing
  zeros removed; the digits are the exact value rounded half to even.

Integer arguments and float arguments are taken in order, each kind from its
own list, as the machine's calling convention passes them.
-/

namespace Basis.Foreign

/-- An argument as a function receives it: an integer (or address) or a float. -/
inductive Word where
  /-- An integer or an address. -/
  | int (n : Int)
  /-- A float. -/
  | float (x : Float)
  deriving Inhabited, Repr

namespace Format

/-- The bytes of a text of ASCII characters. -/
def ascii (s : String) : List UInt8 := s.toList.map fun c => c.toNat.toUInt8

/-- A conversion: its flags, width, precision, length and letter. -/
structure Spec where
  /-- Flags, as characters. -/
  flags : List Char := []
  /-- The least width. -/
  width : Nat := 0
  /-- The precision, if given. -/
  precision : Option Nat := none
  /-- The length modifier. -/
  length : String := ""
  /-- The conversion letter. -/
  letter : Char := 'd'

/-- Pads a field to the spec's width: on the right with `-`, else on the left
with blanks (or zeros after the sign when `zeros` holds). -/
def pad (sp : Spec) (sign : List UInt8) (body : List UInt8) (zeros : Bool) : List UInt8 :=
  let len := sign.length + body.length
  if len ≥ sp.width then sign ++ body
  else
    let fill := sp.width - len
    if sp.flags.contains '-' then sign ++ body ++ List.replicate fill 32
    else if zeros then sign ++ List.replicate fill 48 ++ body
    else List.replicate fill 32 ++ sign ++ body

/-- The digits of a natural number in a base, lower or upper case. -/
def digitsIn (base : Nat) (upper : Bool) (n : Nat) : List UInt8 :=
  (Nat.toDigits base n).map fun c => (if upper then c.toUpper else c).toNat.toUInt8

/-- The value of an integer argument under a length: the bits it keeps, read signed or not. -/
def sized (length : String) (signed : Bool) (n : Int) : Int :=
  let bits : Nat := match length with
    | "hh" => 8
    | "h" => 16
    | "l" | "ll" | "j" | "z" | "t" | "q" | "L" => 64
    | _ => 32
  let m : Int := Int.pow 2 bits
  let r := n % m
  if signed && r ≥ m / 2 then r - m else r

/-- Writes an integer conversion. -/
def integer (sp : Spec) (n : Int) : List UInt8 :=
  let signed := sp.letter == 'd' || sp.letter == 'i'
  let v := sized sp.length signed n
  let base := match sp.letter with
    | 'o' => 8
    | 'x' | 'X' => 16
    | _ => 10
  let digits := digitsIn base (sp.letter == 'X') v.natAbs
  let digits := match sp.precision with
    | some 0 => if v == 0 then [] else digits
    | some p => List.replicate (p - digits.length) 48 ++ digits
    | none => digits
  let digits :=
    if sp.flags.contains '#' && sp.letter == 'o' && digits.head? != some 48 then 48 :: digits else digits
  let sign :=
    if v < 0 then ascii "-"
    else if signed && sp.flags.contains '+' then ascii "+"
    else if signed && sp.flags.contains ' ' then ascii " "
    else if sp.flags.contains '#' && v != 0 && sp.letter == 'x' then ascii "0x"
    else if sp.flags.contains '#' && v != 0 && sp.letter == 'X' then ascii "0X"
    else []
  pad sp sign digits (sp.flags.contains '0' && sp.precision.isNone && !sp.flags.contains '-')

/-- Digits of a natural number with a point before the last `places` of them. -/
def withPoint (n : Nat) (places : Nat) (keepPoint : Bool) : List UInt8 :=
  let ds := digitsIn 10 false n
  let ds := List.replicate (places + 1 - ds.length) 48 ++ ds
  let whole := ds.take (ds.length - places)
  let frac := ds.drop (ds.length - places)
  if places == 0 then (if keepPoint then whole ++ [46] else whole) else whole ++ [46] ++ frac

/-- The exponent part of a float text: `e`, a sign and at least two digits. -/
def exponentText (upper : Bool) (e : Int) : List UInt8 :=
  let ds := digitsIn 10 false e.natAbs
  let ds := if ds.length < 2 then 48 :: ds else ds
  ascii (if upper then "E" else "e") ++ ascii (if e < 0 then "-" else "+") ++ ds

/-- Drops trailing zeros after a point, and the point if nothing follows it. -/
def trimZeros (body : List UInt8) : List UInt8 :=
  if !body.contains 46 then body
  else
    let r := (body.reverse.dropWhile (· == 48))
    (if r.head? == some 46 then r.drop 1 else r).reverse

/-- The body of a finite non-negative float in fixed notation. -/
def fixedBody (x : Decimal.Binary) (places : Nat) (keepPoint : Bool) : List UInt8 :=
  withPoint (x.scaledRound places) places keepPoint

/-- The body of a finite non-negative float in exponent notation. -/
def exponentBody (x : Decimal.Binary) (zero : Bool) (places : Nat) (keepPoint : Bool) (upper : Bool) :
    List UInt8 :=
  let (e, n) := if zero then (0, 0) else x.leadExponent places
  withPoint n places keepPoint ++ exponentText upper e

/-- Writes a float conversion. -/
def floating (sp : Spec) (x : Float) : List UInt8 :=
  let negative := x.toBits >>> 63 == 1
  let upper := sp.letter.isUpper
  let sign :=
    if negative then ascii "-"
    else if sp.flags.contains '+' then ascii "+"
    else if sp.flags.contains ' ' then ascii " "
    else []
  if x.isNaN || x.isInf then
    let t := if x.isNaN then "nan" else "inf"
    pad sp sign (ascii (if upper then t.toUpper else t)) false
  else
    let b := Decimal.Binary.ofBits x.toBits
    let zero := b.m == 0
    let prec := sp.precision.getD 6
    let keep := sp.flags.contains '#'
    let body := match sp.letter.toLower with
      | 'f' => fixedBody b prec keep
      | 'e' => exponentBody b zero prec keep upper
      | _ =>
        let p := if prec == 0 then 1 else prec
        let e := if zero then 0 else (b.leadExponent (p - 1)).1
        let text :=
          if e < p && e ≥ -4 then fixedBody b (((p : Int) - 1 - e).toNat) keep
          else exponentBody b zero (p - 1) keep upper
        if keep then text
        else
          match text.findIdx? (· == (if upper then 69 else 101)) with
          | some i => trimZeros (text.take i) ++ text.drop i
          | none => trimZeros text
    pad sp sign body (sp.flags.contains '0' && !sp.flags.contains '-')

/-- Reads the digits at the front of a format, as a number. -/
def readNumber (cs : List UInt8) : Option Nat × List UInt8 :=
  let ds := cs.takeWhile fun c => 48 ≤ c && c ≤ 57
  if ds.isEmpty then (none, cs) else (some (ds.foldl (fun n d => n * 10 + (d.toNat - 48)) 0), cs.drop ds.length)

/-- The arguments not taken yet: integers and floats. -/
structure Pending where
  /-- The integer arguments left. -/
  ints : List Int
  /-- The float arguments left. -/
  floats : List Float

/-- Takes the next integer argument (0 when none is left). -/
def Pending.int (p : Pending) : Int × Pending :=
  match p.ints with
  | n :: rest => (n, { p with ints := rest })
  | [] => (0, p)

/-- Takes the next float argument (0 when none is left). -/
def Pending.float (p : Pending) : Float × Pending :=
  match p.floats with
  | x :: rest => (x, { p with floats := rest })
  | [] => (0.0, p)

/-- Writes a format string with arguments; `string` reads the string at an address. -/
def render (fmt : List UInt8) (args : List Word) (string : Nat → Option Nat → Except Failure (List UInt8)) :
    Except Failure (List UInt8) :=
  let start : Pending := ⟨args.filterMap (fun | .int n => some n | _ => none),
    args.filterMap (fun | .float x => some x | _ => none)⟩
  let rec go : Nat → List UInt8 → Pending → List UInt8 → Except Failure (List UInt8)
    | 0, _, _, out => .ok out
    | _, [], _, out => .ok out
    | fuel + 1, c :: rest, args, out =>
      if c != 37 then go fuel rest args (out ++ [c])
      else
        let flagChars := rest.takeWhile fun x => [45, 43, 32, 35, 48].contains x
        let rest := rest.drop flagChars.length
        let flags := flagChars.map fun x => Char.ofNat x.toNat
        let (width, rest, args, flags) :=
          match rest with
          | 42 :: r =>
            let (w, args) := args.int
            let w32 := sized "" true w
            if w32 < 0 then (w32.natAbs, r, args, '-' :: flags) else (w32.toNat, r, args, flags)
          | _ =>
            let (w, r) := readNumber rest
            (w.getD 0, r, args, flags)
        let (precision, rest, args) :=
          match rest with
          | 46 :: 42 :: r =>
            let (p, args) := args.int
            let p32 := sized "" true p
            ((if p32 < 0 then none else some p32.toNat), r, args)
          | 46 :: r =>
            let (p, r) := readNumber r
            (some (p.getD 0), r, args)
          | _ => (none, rest, args)
        let lengthChars := rest.takeWhile fun x => [104, 108, 106, 122, 116, 76, 113].contains x
        let rest := rest.drop lengthChars.length
        let length := String.ofList (lengthChars.map fun x => Char.ofNat x.toNat)
        match rest with
        | [] => .ok out
        | l :: rest =>
          let sp : Spec := { flags, width, precision, length, letter := Char.ofNat l.toNat }
          match sp.letter with
          | '%' => go fuel rest args (out ++ [37])
          | 'd' | 'i' | 'u' | 'o' | 'x' | 'X' =>
            let (n, args) := args.int
            go fuel rest args (out ++ integer sp n)
          | 'c' =>
            let (n, args) := args.int
            go fuel rest args (out ++ pad sp [] [(n % 256).toNat.toUInt8] false)
          | 'p' =>
            let (n, args) := args.int
            let a := (n % Int.pow 2 64).toNat
            let body := if a == 0 then ascii "(nil)" else ascii "0x" ++ digitsIn 16 false a
            go fuel rest args (out ++ pad sp [] body false)
          | 's' =>
            let (n, args) := args.int
            let a := (n % Int.pow 2 64).toNat
            if a == 0 then
              let body := if precision.isNone || precision.getD 0 ≥ 6 then ascii "(null)" else []
              go fuel rest args (out ++ pad sp [] body false)
            else
              match string a precision with
              | .ok body => go fuel rest args (out ++ pad sp [] body false)
              | .error f => .error f
          | 'f' | 'F' | 'e' | 'E' | 'g' | 'G' | 'a' | 'A' =>
            let (x, args) := args.float
            go fuel rest args (out ++ floating sp x)
          | _ => go fuel rest args (out ++ [37, l])
  go (fmt.length + 1) fmt start []

end Format

end Basis.Foreign
