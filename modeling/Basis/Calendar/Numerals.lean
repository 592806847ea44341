/-!
# Numbers written to a width

The calendar writes its fields as decimal numbers of a least width: with zeros
between the sign and the digits (`zeroPadded 4 (-1) = "-001"`), or with blanks
before the sign (`blankPadded 2 5 = " 5"`). The sign counts toward the width,
and a number wider than the width is written whole.
-/

namespace Basis.Calendar

/-- An integer in decimal, zeros after the sign filling it out to a width. -/
def zeroPadded (width : Nat) (n : Int) : String :=
  let digits := toString n.natAbs
  let sign := if n < 0 then "-" else ""
  sign ++ String.ofList (List.replicate (width - sign.length - digits.length) '0') ++ digits

/-- An integer in decimal, blanks before it filling it out to a width. -/
def blankPadded (width : Nat) (n : Int) : String :=
  let text := toString n
  String.ofList (List.replicate (width - text.length) ' ') ++ text

end Basis.Calendar
