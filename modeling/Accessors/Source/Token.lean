import Accessors.Text.Quote

/-!
# Tokens of Go source

The tokens of Go source text, as the scanner hands them to the parser: literals, operators,
keywords, comments, and the end of the text. A token carries its kind, its text (the literal
text, the comment text, `"\n"` for a semicolon inserted at a line end and `";"` for a written
one) and the byte offset it starts at.

A kind prints as the parser names it in messages: literals by their class (`IDENT`, `INT`,
...), operators and keywords by their spelling.
-/

namespace Accessors.Source

/-- **The kind of a token.** -/
inductive Tok where
  | illegal
  | eof
  | comment
  | ident
  | int
  | float
  | imag
  | char
  | string
  /-- An operator or delimiter, by its spelling. -/
  | op (text : String)
  /-- A keyword, by its spelling. -/
  | kw (text : String)
  deriving DecidableEq, Repr, Inhabited

namespace Tok

/-- The name of a kind in messages. -/
def text : Tok → String
  | illegal => "ILLEGAL"
  | eof => "EOF"
  | comment => "COMMENT"
  | ident => "IDENT"
  | int => "INT"
  | float => "FLOAT"
  | imag => "IMAG"
  | char => "CHAR"
  | string => "STRING"
  | op t => t
  | kw t => t

/-- Whether the kind is a literal class, whose messages show the literal text. -/
def isLiteral : Tok → Bool
  | ident | int | float | imag | char | string => true
  | _ => false

/-- The precedence of a binary operator; zero for any other token. -/
def precedence : Tok → Nat
  | op "||" => 1
  | op "&&" => 2
  | op "==" | op "!=" | op "<" | op "<=" | op ">" | op ">=" => 3
  | op "+" | op "-" | op "|" | op "^" => 4
  | op "*" | op "/" | op "%" | op "<<" | op ">>" | op "&" | op "&^" => 5
  | _ => 0

end Tok

/-- The keywords of Go. -/
def goKeywords : List String :=
  ["break", "case", "chan", "const", "continue", "default", "defer", "else", "fallthrough", "for",
   "func", "go", "goto", "if", "import", "interface", "map", "package", "range", "return",
   "select", "struct", "switch", "type", "var"]

/-- **A token**: its kind, its text and its byte offset. Scanner errors met while reading it
travel with it, so that they are recorded when the parser reaches the token. -/
structure Token where
  tok : Tok
  lit : String
  pos : Nat
  errors : List (Nat × String)
  deriving Repr, Inhabited

end Accessors.Source
