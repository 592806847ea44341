/-!
# Scrubbing answers

Texts that answers carry can hold what differs from one run to the next: the
addresses of objects (`<pkg.mod.Name object at 0x7f3a…>`), other addresses, and
the directory of the checkout. `scrub` writes an object as `<Name object>`, any
`0x` with six or more hexadecimal digits as `0x?`, and drops every `/repo/`,
in that order.
-/

namespace Basis.Protocol

/-- The name of an object written as `<pkg.mod.Name object at 0x1f2e>` after its
`<`: the last part of the dotted name and what follows the `>`. -/
def objectAt? (cs : List Char) : Option (List Char × List Char) :=
  let isNameChar := fun (c : Char) => c.isAlphanum || c == '_' || c == '.'
  let name := cs.takeWhile isNameChar
  let rest := cs.drop name.length
  let lastPart := (name.reverse.takeWhile (· != '.')).reverse
  if name.isEmpty || lastPart.isEmpty then none
  else
    match rest with
    | ' ' :: 'o' :: 'b' :: 'j' :: 'e' :: 'c' :: 't' :: ' ' :: 'a' :: 't' :: ' ' :: '0' :: 'x' :: more =>
      let hex := more.takeWhile Char.isHexDigit
      match more.drop hex.length with
      | '>' :: after => if hex.isEmpty then none else some (lastPart, after)
      | _ => none
    | _ => none

/-- Writes `<pkg.mod.Name object at 0x…>` as `<Name object>`; `fuel` bounds the characters read. -/
def scrubObjects : Nat → List Char → List Char
  | 0, cs => cs
  | _, [] => []
  | fuel + 1, '<' :: rest =>
    match objectAt? rest with
    | some (name, after) => '<' :: name ++ " object>".toList ++ scrubObjects fuel after
    | none => '<' :: scrubObjects fuel rest
  | fuel + 1, c :: rest => c :: scrubObjects fuel rest

/-- Writes `0x` followed by six or more hexadecimal digits as `0x?`. -/
def scrubAddresses : List Char → List Char
  | [] => []
  | '0' :: 'x' :: rest =>
    let hex := rest.takeWhile Char.isHexDigit
    if hex.length ≥ 6 then '0' :: 'x' :: '?' :: scrubAddresses (rest.drop hex.length)
    else '0' :: scrubAddresses ('x' :: rest)
  | c :: rest => c :: scrubAddresses rest
termination_by cs => cs.length
decreasing_by
  all_goals simp only [List.length_cons, List.length_drop]
  all_goals omega

/-- Drops every `/repo/`. -/
def scrubCheckout : List Char → List Char
  | [] => []
  | '/' :: 'r' :: 'e' :: 'p' :: 'o' :: '/' :: rest => scrubCheckout rest
  | c :: rest => c :: scrubCheckout rest

/-- A text with what differs between runs dropped: object addresses, data
addresses and the checkout directory, in that order. -/
def scrub (s : String) : String :=
  let cs := s.toList
  String.ofList (scrubCheckout (scrubAddresses (scrubObjects (cs.length + 1) cs)))

end Basis.Protocol
