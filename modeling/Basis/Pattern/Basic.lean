import Basis.Text.Alnum
import Basis.Text.Digit
import Basis.Text.Blank

/-!
# Patterns over text

A `Pattern` describes a set of texts the way regular expressions do, with the
extras of backtracking matchers: numbered groups that record where they
matched, anchors at the ends of lines and texts and at word boundaries, looking
ahead, and repetitions that are greedy (as many as possible first) or lazy (as
few as possible first). Alternatives are ordered: the first one that leads to a
match is the one taken, which is what makes a match unique.

Classes of characters are tests on a character. The named classes are those of
Unicode: `digitClass` holds the decimal digits of every script, `wordClass` the
alphanumeric characters and the underscore, `blankClass` the blank characters.
-/

namespace Basis

/-- A position that a pattern can require without reading a character. -/
inductive Anchor where
  /-- The start of the text. -/
  | textStart
  /-- The end of the text. -/
  | textEnd
  /-- The end of the text, or just before a line feed that ends it. -/
  | finalEnd
  /-- The start of the text or of a line. -/
  | lineStart
  /-- The end of the text or of a line. -/
  | lineEnd
  /-- Between a word character and a character that is not one, the ends of the
  text counting as the latter. -/
  | wordBoundary
  /-- Anywhere but at a word boundary. -/
  | notWordBoundary
  deriving DecidableEq, Repr, Inhabited

/-- A pattern over text. -/
inductive Pattern where
  /-- The empty text. -/
  | empty
  /-- One character that passes a test. -/
  | char (test : Char → Bool)
  /-- The first pattern, then the second. -/
  | seq (first second : Pattern)
  /-- The first pattern, or else the second. -/
  | alt (first second : Pattern)
  /-- The pattern any number of times, as many as possible first when `greedy`,
  as few as possible first otherwise. -/
  | star (body : Pattern) (greedy : Bool)
  /-- The pattern, recording where it matched as the group of the index. -/
  | group (index : Nat) (body : Pattern)
  /-- A position. -/
  | anchor (a : Anchor)
  /-- The pattern matches here (or, when `negated`, does not), reading nothing. -/
  | ahead (body : Pattern) (negated : Bool)
  /-- The text that the group of the index matched last, again. -/
  | backref (index : Nat)
  deriving Inhabited

namespace Pattern

/-- Matches nothing. -/
def fail : Pattern := .char fun _ => false

/-- The one character `c`. -/
def lit (c : Char) : Pattern := .char (· == c)

/-- The characters of `s`, in order. -/
def word (s : String) : Pattern := s.toList.foldr (fun c p => .seq (lit c) p) .empty

/-- One of the characters of `s`. -/
def oneOf (s : String) : Pattern := .char fun c => s.toList.contains c

/-- One character not in `s`. -/
def noneOf (s : String) : Pattern := .char fun c => !s.toList.contains c

/-- One character from `lo` to `hi`. -/
def range (lo hi : Char) : Pattern := .char fun c => lo ≤ c && c ≤ hi

/-- The patterns one after the other. -/
def seqs (ps : List Pattern) : Pattern :=
  match ps with
  | [] => .empty
  | [p] => p
  | p :: rest => .seq p (seqs rest)

/-- The first of the patterns that leads to a match. -/
def alts (ps : List Pattern) : Pattern :=
  match ps with
  | [] => fail
  | [p] => p
  | p :: rest => .alt p (alts rest)

/-- The pattern any number of times, greedily. -/
def many (p : Pattern) : Pattern := .star p true

/-- The pattern at least once, greedily. -/
def many1 (p : Pattern) : Pattern := .seq p (.star p true)

/-- The pattern any number of times, lazily. -/
def fewest (p : Pattern) : Pattern := .star p false

/-- The pattern or nothing, the pattern first. -/
def opt (p : Pattern) : Pattern := .alt p .empty

/-- Any character but the line feed. -/
def anyButNewline : Pattern := .char (· != '\n')

/-- Any character. -/
def anyChar : Pattern := .char fun _ => true

/-- An ASCII digit. -/
def asciiDigit : Pattern := range '0' '9'

/-- A hexadecimal digit of either case. -/
def hexDigit : Pattern := .char fun c => ('0' ≤ c && c ≤ '9') || ('a' ≤ c && c ≤ 'f') || ('A' ≤ c && c ≤ 'F')

/-- A decimal digit of any script. -/
def digitClass : Pattern := .char Text.isDecimalDigit

/-- A character that is not a decimal digit. -/
def nonDigitClass : Pattern := .char fun c => !Text.isDecimalDigit c

/-- A word character of any script. -/
def wordClass : Pattern := .char Text.isWordChar

/-- A character that is not a word character. -/
def nonWordClass : Pattern := .char fun c => !Text.isWordChar c

/-- A blank character. -/
def blankClass : Pattern := .char Text.isBlank

/-- A character that is not blank. -/
def nonBlankClass : Pattern := .char fun c => !Text.isBlank c

end Pattern

end Basis
