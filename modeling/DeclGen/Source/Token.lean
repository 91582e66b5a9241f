/-!
# Tokens

A declaration file is a row of tokens. Each token keeps the gap in front of it, white space and comments,
so that the text of any part of the file can be given back, and remembers whether a line ended in that
gap. The row always closes with a token for the end of the file.
-/

namespace DeclGen.Source

/-- What a token is, with its text where that matters. -/
inductive Lexeme
  | name (text : String)
  | keyword (text : String)
  | symbol (text : String)
  | number (text : String)
  | rune (text : String)
  | text (literal : String)
  | nul
  | finish
deriving DecidableEq, Repr

/-- The characters of a token. -/
def Lexeme.chars : Lexeme → String
  | name t | keyword t | symbol t | number t | rune t | text t => t
  | nul => "\x00"
  | finish => ""

/-- A token, the gap in front of it, and whether a line feed outside a block comment stands in the
gap. -/
structure Token where
  lexeme : Lexeme
  gap : String
  newLine : Bool
deriving DecidableEq, Repr

/-- The words that cannot be names. That they are reserved everywhere, also where only a name could stand,
is an assumption about the grammar, which is no part of the program. -/
def keywords : List String :=
  ["break", "case", "chan", "const", "continue", "default", "defer", "else", "fallthrough", "for",
   "func", "go", "goto", "if", "import", "interface", "map", "package", "range", "return", "select",
   "struct", "switch", "type", "var"]

/-- The signs, each before its own beginnings. -/
def symbols : List String :=
  ["<<=", ">>=", "&^=", "...",
   "&&", "||", "<-", "++", "--", "==", "!=", "<=", ">=", ":=", "+=", "-=", "*=", "/=", "%=", "&=",
   "|=", "^=", "<<", ">>", "&^",
   "+", "-", "*", "/", "%", "&", "|", "^", "<", ">", "=", "!", "(", ")", "[", "]", "\x7b", "\x7d",
   ",", ";", ".", ":", "~"]

/-- The text of consecutive tokens, without the gap in front of the first. -/
def sourceText : List Token → String
  | [] => ""
  | t :: rest => t.lexeme.chars ++ String.join (rest.map fun u => u.gap ++ u.lexeme.chars)

end DeclGen.Source
