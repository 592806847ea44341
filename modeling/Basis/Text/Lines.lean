/-!
# Lines of a text

`splitLines` cuts a text into lines at every line break that Unicode text
knows: line feed, carriage return (with a line feed after it, the two make one
break), the vertical tab, the form feed, the separators of files, groups and
records, the next-line character and the separators of lines and paragraphs.
The breaks are not part of the lines, and a break at the end of the text does
not start a new line.
-/

namespace Basis.Text

/-- Whether a character breaks lines. -/
def isLineBreak (c : Char) : Bool :=
  c == '\n' || c == '\r' || c == '\x0b' || c == '\x0c' || c == '\x1c' || c == '\x1d' ||
    c == '\x1e' || c == '\x85' || c == '\u2028' || c == '\u2029'

/-- The lines of a list of characters, given the characters of the current line, latest first. -/
def linesOf : List Char → List Char → List String
  | [], [] => []
  | [], cur => [String.ofList cur.reverse]
  | '\r' :: '\n' :: rest, cur => String.ofList cur.reverse :: linesOf rest []
  | c :: rest, cur =>
    if isLineBreak c then String.ofList cur.reverse :: linesOf rest []
    else linesOf rest (c :: cur)

/-- The lines of a text. -/
def splitLines (s : String) : List String := linesOf s.toList []

end Basis.Text
