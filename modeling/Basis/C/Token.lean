/-!
# Tokens of C

A token of C source is a keyword, a name, a constant, a string literal, a
punctuator or the `#` that starts a directive. A name that the program has
declared as a type with `typedef` is a token of its own kind, so that a
grammar of C can tell declarations from expressions.

Every kind has a terminal name, the one the grammar of C uses for it: the
keyword in capitals, `ID`, `TYPEID`, `INT_CONST_HEX`, `PLUSEQUAL` and so on.
-/

namespace Basis.C

/-- The base in which an integer constant is written. -/
inductive Radix where
  | decimal
  | octal
  | hex
  | binary
  deriving DecidableEq, Repr, Inhabited

/-- The kind of a token. -/
inductive Kind where
  /-- A keyword, by its spelling. -/
  | keyword (spelling : String)
  /-- A name. -/
  | identifier
  /-- A name declared as a type. -/
  | typeName
  /-- An integer constant. -/
  | intConst (radix : Radix)
  /-- A floating constant, decimal or hexadecimal. -/
  | floatConst (hex : Bool)
  /-- A character constant, wide when written with `L`. -/
  | charConst (wide : Bool)
  /-- A string literal, wide when written with `L`. -/
  | stringLit (wide : Bool)
  /-- A punctuator, by its spelling. -/
  | punct (spelling : String)
  /-- The `#` of a directive that is not a line marker or a pragma. -/
  | hash
  deriving DecidableEq, Repr, Inhabited

/-- The keywords of C, with the two underscore keywords of C99. -/
def keywords : List String :=
  ["_Bool", "_Complex", "auto", "break", "case", "char", "const", "continue", "default", "do",
   "double", "else", "enum", "extern", "float", "for", "goto", "if", "inline", "int", "long",
   "register", "offsetof", "restrict", "return", "short", "signed", "sizeof", "static",
   "struct", "switch", "typedef", "union", "unsigned", "void", "volatile", "while"]

/-- The punctuators with their terminal names, the longer ones first, so that the
first one a text starts with is the longest. -/
def punctuators : List (String × String) :=
  [("...", "ELLIPSIS"), ("<<=", "LSHIFTEQUAL"), (">>=", "RSHIFTEQUAL"),
   ("++", "PLUSPLUS"), ("||", "LOR"), ("^=", "XOREQUAL"), ("|=", "OREQUAL"),
   ("+=", "PLUSEQUAL"), ("*=", "TIMESEQUAL"), ("%=", "MODEQUAL"), ("/=", "DIVEQUAL"),
   ("<<", "LSHIFT"), ("<=", "LE"), ("->", "ARROW"), ("==", "EQ"), ("!=", "NE"),
   ("--", "MINUSMINUS"), (">=", "GE"), ("&&", "LAND"), (">>", "RSHIFT"), ("-=", "MINUSEQUAL"),
   ("&=", "ANDEQUAL"),
   ("+", "PLUS"), ("]", "RBRACKET"), ("?", "CONDOP"), ("^", "XOR"), ("(", "LPAREN"),
   ("|", "OR"), ("*", "TIMES"), ("[", "LBRACKET"), (")", "RPAREN"), (".", "PERIOD"),
   ("=", "EQUALS"), ("<", "LT"), (",", "COMMA"), ("/", "DIVIDE"), ("&", "AND"), ("%", "MOD"),
   (";", "SEMI"), ("-", "MINUS"), (">", "GT"), (":", "COLON"), ("~", "NOT"), ("!", "LNOT"),
   ("\x7b", "LBRACE"), ("\x7d", "RBRACE")]

namespace Kind

/-- The terminal name of a kind. -/
def name : Kind → String
  | .keyword s => s.toUpper
  | .identifier => "ID"
  | .typeName => "TYPEID"
  | .intConst .decimal => "INT_CONST_DEC"
  | .intConst .octal => "INT_CONST_OCT"
  | .intConst .hex => "INT_CONST_HEX"
  | .intConst .binary => "INT_CONST_BIN"
  | .floatConst false => "FLOAT_CONST"
  | .floatConst true => "HEX_FLOAT_CONST"
  | .charConst false => "CHAR_CONST"
  | .charConst true => "WCHAR_CONST"
  | .stringLit false => "STRING_LITERAL"
  | .stringLit true => "WSTRING_LITERAL"
  | .punct s => ((punctuators.find? (·.1 == s)).map (·.2)).getD s
  | .hash => "PPHASH"

/-- The kind of a word: its keyword if it is one, else a name. -/
def ofWord (w : String) : Kind :=
  if keywords.contains w then .keyword w else .identifier

end Kind

/-- A token: its kind, its text, the line it is on and its offset in the source. -/
structure Token where
  /-- The kind. -/
  kind : Kind
  /-- The text, as written. -/
  text : String
  /-- The line, as line markers and line breaks count it. -/
  line : Nat
  /-- The offset of its first character in the source, in characters. -/
  offset : Nat
  deriving Repr, Inhabited

end Basis.C
