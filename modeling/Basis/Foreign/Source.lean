import Basis.Failure
import Basis.Pattern.Match
import Basis.Foreign.Types

/-!
# Preparing declarations for the C parser

Foreign declarations are C with a few extras, which are rewritten into plain C
before parsing:

* comments become a blank, and `#define NAME value` lines are taken out and
  kept as macros;
* the calling conventions `__stdcall` and `WINAPI` become the qualifiers
  `volatile volatile const`, which no real declaration has on a function's
  result, so that they can be told apart later; `__cdecl` is dropped;
* `extern "Python"` before a declaration, or a braced group of them, becomes a
  pair of marker declarations around them;
* `...` stands for what a compiler will fill in: `[...]` becomes the length
  `__dotdotdotarray__`, `...` at the end of an enum or as an enumerator's value
  becomes an enumerator `__dotdotdotN__`, `int ...` and `float ...` become the
  type names `__dotdotdotint__` and `__dotdotdotfloat__`, and any other `...`
  the type name `__dotdotdot__`.

The C parser must also know which names are types. `commonTypeNames` finds the
names of common types (`size_t`, `FILE`, ...) that a source uses without
defining them.
-/

namespace Basis.Foreign

namespace Source

open Pattern

/-- A character of a line, or a backslash with the character after it. -/
def lineItem : Pattern := .alt (noneOf "\n\\") (.seq (lit '\\') anyChar)

/-- A comment: from `/*` to the first `*/`, or from `//` to the end of the line,
where a backslash carries the comment over a line end. -/
def comment : Pattern :=
  .alt (seqs [word "/*", fewest anyChar, word "*/"]) (seqs [word "//", fewest lineItem, .anchor .lineEnd])

/-- A letter or underscore. -/
def identStart : Pattern :=
  .char fun c => ('A' ≤ c && c ≤ 'Z') || ('a' ≤ c && c ≤ 'z') || c == '_'

/-- A letter, digit or underscore. -/
def identRest : Pattern :=
  .char fun c => ('A' ≤ c && c ≤ 'Z') || ('a' ≤ c && c ≤ 'z') || ('0' ≤ c && c ≤ '9') || c == '_'

/-- A line `#define NAME value`: group 1 is the name, group 2 the value, which
may go on over line ends after a backslash. -/
def define : Pattern :=
  seqs [.anchor .lineStart, many blankClass, lit '#', many blankClass, word "define",
    many1 blankClass, .group 1 (.seq identStart (many identRest)), .anchor .wordBoundary,
    .group 2 (fewest lineItem), .anchor .lineEnd]

/-- The end of an enum left to a compiler: `= ...` before a comma or closing
brace, or `...` before a closing brace. -/
def partialEnum : Pattern :=
  .alt (seqs [lit '=', many blankClass, word "...", many blankClass, oneOf ",\x7d"])
    (seqs [word "...", many blankClass, lit '\x7d'])

/-- The length `[...]` of an array. -/
def partialArray : Pattern := seqs [lit '[', many blankClass, word "...", many blankClass, lit ']']

/-- A word, or any character that is not blank. -/
def words : Pattern := .alt (many1 wordClass) nonBlankClass

/-- An integer literal of C: a sign, digits, hexadecimal ones after `0x`, and
the suffixes `l` and `u`, in any case. -/
def intLiteral : Pattern :=
  seqs [opt (lit '-'), opt (lit '0'), opt (oneOf "xX"), many1 hexDigit, many (oneOf "luLU"),
    .anchor .finalEnd]

/-- The names of the calling convention of the system's libraries. -/
def stdcallName : Pattern := .alt (word "__stdcall") (word "WINAPI")

/-- The calling convention as a word. -/
def stdcall : Pattern := seqs [.anchor .wordBoundary, .group 1 stdcallName, .anchor .wordBoundary]

/-- The calling convention right after an opening parenthesis. -/
def stdcallAfterParen : Pattern :=
  seqs [lit '(', many blankClass, .group 1 stdcallName, .anchor .wordBoundary]

/-- The default calling convention as a word. -/
def cdecl : Pattern := seqs [.anchor .wordBoundary, word "__cdecl", .anchor .wordBoundary]

/-- `extern "Python"`, `extern "Python+C"` or `extern "C+Python"`, and the
character after it; group 1 is the text between the quotes. -/
def externPython : Pattern :=
  seqs [.anchor .wordBoundary, word "extern", many blankClass, lit '"',
    .group 1 (alts [word "Python",
      seqs [word "Python", many blankClass, lit '+', many blankClass, lit 'C'],
      seqs [lit 'C', many blankClass, lit '+', many blankClass, word "Python"]]),
    lit '"', many blankClass, anyButNewline]

/-- Integer type words followed by `...`. -/
def intDots : Pattern :=
  seqs [many1 (.group 1 (seqs [.anchor .wordBoundary,
      .group 2 (alts [word "int", word "long", word "short", word "signed", word "unsigned",
        word "char"]),
      many blankClass])),
    word "..."]

/-- A floating type word followed by `...`. -/
def floatDots : Pattern :=
  seqs [.anchor .wordBoundary, .alt (word "double") (word "float"), many blankClass, word "..."]

/-- The name of an enumerator standing for those left to a compiler. -/
def enumDots : Pattern :=
  seqs [word "__dotdotdot", many1 digitClass, word "__", .anchor .finalEnd]

/-- The text of characters. -/
def text (cs : Array Char) : String := String.ofList cs.toList

/-- The first place of a character from `start` on, before `stop`. -/
def findChar (cs : Array Char) (c : Char) (start stop : Nat) : Option Nat :=
  ((List.range (stop - start)).map (start + ·)).find? fun i => cs[i]? == some c

/-- Sets a macro: a new name goes last, a known one keeps its place. -/
def setMacro (macros : List (String × String)) (name value : String) : List (String × String) :=
  if macros.any (·.1 == name) then macros.map fun (n, v) => if n == name then (n, value) else (n, v)
  else macros ++ [(name, value)]

/-- The macros of a text, in the order first defined, each with its last value. -/
def macrosOf (s : String) : List (String × String) :=
  let cs := s.toList.toArray
  (findAll define cs).foldl
    (fun acc m => setMacro acc (m.group cs 1) (trimBoth ((m.group cs 2).replace "\\\n" ""))) []

/-- The failure of a refused declaration. -/
def cdefError (message : String) : Failure := ⟨"CDefError", message⟩

/-- Replaces each `extern "Python"` prefix, with the declaration or braced group
after it, by markers around them. -/
def markExternPython (s : String) : Except Failure String :=
  go s.toList.toArray [] (s.length + 1)
where
  /-- Replaces the prefixes of `cs`, after the parts already done, latest first. -/
  go (cs : Array Char) (parts : List String) : Nat → Except Failure String
    | 0 => .ok (String.join parts.reverse ++ text cs)
    | fuel + 1 =>
      match search externPython cs with
      | none => .ok (String.join parts.reverse ++ text cs)
      | some m =>
        let endpos := m.stop - 1
        let before := text (cs.extract 0 m.start)
        let start := if (m.group cs 1).contains 'C' then "void __cffi_extern_python_plus_c_start; "
          else "void __cffi_extern_python_start; "
        let stop := " void __cffi_extern_python_stop;"
        if cs[endpos]? == some '\x7b' then
          match findChar cs '\x7d' endpos cs.size with
          | none => .error (cdefError "'extern \"Python\" \x7b': no '\x7d' found")
          | some closing =>
            if (findChar cs '\x7b' (endpos + 1) closing).isSome then
              .error (.notImplemented
                "cannot use \x7b \x7d inside a block 'extern \"Python\" \x7b ... \x7d'")
            else
              go (cs.extract (closing + 1) cs.size)
                (stop :: text (cs.extract (endpos + 1) closing) :: start :: before :: parts) fuel
        else
          match findChar cs ';' endpos cs.size with
          | none => .error (cdefError "'extern \"Python\": no ';' found")
          | some semicolon =>
            go (cs.extract (semicolon + 1) cs.size)
              (stop :: text (cs.extract endpos (semicolon + 1)) :: start :: before :: parts) fuel

/-- Replaces the ends of enums left to a compiler by enumerators
`__dotdotdotN__`, numbered from the last one. -/
def markPartialEnums (s : String) : String :=
  let cs := s.toList.toArray
  let ms := (findAll partialEnum cs).reverse
  let (out, _) := ms.foldl (fun (acc : Array Char × Nat) m =>
    let (cs, number) := acc
    let p := m.start
    let cs :=
      if cs[p]? == some '=' then
        let p2 := (findChar cs '.' p m.stop).getD p
        cs.extract 0 p ++ (",__dotdotdot" ++ toString number ++ "__ ").toList.toArray ++
          cs.extract (p2 + 3) cs.size
      else
        cs.extract 0 p ++ (" __dotdotdot" ++ toString number ++ "__ ").toList.toArray ++
          cs.extract (p + 3) cs.size
    (cs, number + 1)) (cs, 0)
  text out

end Source

/-- A source made ready for the C parser. -/
structure Prepared where
  /-- The text to parse. -/
  text : String
  /-- The macros, by name, in the order first defined. -/
  macros : List (String × String)
  /-- Whether a double quote was left in the text. -/
  hasQuote : Bool

/-- Rewrites foreign declarations into plain C and takes out their macros. -/
def prepareSource (src : String) : Except Failure Prepared := do
  let s := Source.comment.replaceAll src " "
  let macros := Source.macrosOf s
  let s := Source.define.replaceAll s ""
  let s := Source.stdcallAfterParen.replaceAll s " volatile volatile const("
  let s := Source.stdcall.replaceAll s " volatile volatile const "
  let s := Source.cdecl.replaceAll s " "
  let s ← Source.markExternPython s
  let hasQuote := s.contains '"'
  let s := Source.partialArray.replaceAll s "[__dotdotdotarray__]"
  let s := Source.markPartialEnums s
  let s := Source.intDots.replaceAll s " __dotdotdotint__ "
  let s := Source.floatDots.replaceAll s " __dotdotdotfloat__ "
  return { text := s.replace "..." " __dotdotdot__ ", macros, hasQuote }

/-- The names of common types that can be used without a definition: `FILE`,
`bool`, and the primitive types whose names end in `_t`. -/
def commonTypeNames : List String :=
  "FILE" :: "bool" :: (primitiveTypes.map (·.1)).filter (·.endsWith "_t")

/-- The common types a source uses. A word counts as used unless it is the last
word of a type definition, which defines it instead, and from then on it is
not looked for. -/
def commonTypesUsed (s : String) : List String :=
  let cs := s.toList.toArray
  let ws := (Pattern.findAll Source.words cs).map fun m => m.group cs 0
  let step := fun (acc : List String × List String × Bool × Int × String) (w : String) =>
    let (used, lookFor, isTypedef, paren, previous) := acc
    let acc :=
      if lookFor.contains w then
        if w == ";" then
          if isTypedef then (used.filter (· != previous), lookFor.filter (· != previous), false, paren)
          else (used, lookFor, isTypedef, paren)
        else if w == "typedef" then (used, lookFor, true, 0)
        else if w == "(" then (used, lookFor, isTypedef, paren + 1)
        else if w == ")" then (used, lookFor, isTypedef, paren - 1)
        else if w == "," then
          if isTypedef && paren == 0 then
            (used.filter (· != previous), lookFor.filter (· != previous), isTypedef, paren)
          else (used, lookFor, isTypedef, paren)
        else ((if used.contains w then used else used ++ [w]), lookFor, isTypedef, paren)
      else (used, lookFor, isTypedef, paren)
    let (used, lookFor, isTypedef, paren) := acc
    (used, lookFor, isTypedef, paren, w)
  let lookFor := commonTypeNames ++ [";", ",", "(", ")", "typedef"]
  let (used, _) := ws.foldl step ([], lookFor, false, 0, "")
  used

end Basis.Foreign
