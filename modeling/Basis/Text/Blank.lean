/-!
# Blank characters

A character is blank when Unicode 14.0 gives it the bidirectional class of a
separator or white space, or the category Zs: the tab, line feed, vertical tab,
form feed and carriage return, the four information separators U+001C to
U+001F, the space, the next-line control U+0085, the no-break space, and the
spaces and line and paragraph separators of the general punctuation block.
-/

namespace Basis.Text

/-- Whether a character is blank. -/
def isBlank (c : Char) : Bool :=
  let n := c.toNat
  (9 ≤ n && n ≤ 13) || (28 ≤ n && n ≤ 32) || n == 0x85 || n == 0xA0 || n == 0x1680
    || (0x2000 ≤ n && n ≤ 0x200A) || n == 0x2028 || n == 0x2029 || n == 0x202F
    || n == 0x205F || n == 0x3000

end Basis.Text
