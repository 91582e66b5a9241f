import DeclGen.Source.Numeral
import DeclGen.Source.Token
import DeclGen.Unicode.Identifier

/-!
# Reading tokens

A text is cut into pieces, blanks, comments and lexemes, from left to right, and the blanks and comments
become the gaps of the tokens. Six characters are blank. There are two kinds of comments; a line comment
leaves the line feed that ends it to the gap. A NUL is a token of its own and cannot stand inside any
other piece. A byte order mark at the very start is skipped.
-/

namespace DeclGen.Source

/-- A piece of source text. -/
inductive Piece
  | blank (c : Char)
  | comment (text : List Char)
  | lexeme (l : Lexeme)
deriving DecidableEq, Repr

namespace Lexer

/-- Space, tab, line feed, vertical tab, form feed and carriage return. -/
def isBlank (c : Char) : Bool :=
  c == ' ' || c == '\t' || c == '\n' || c == '\x0b' || c == '\x0c' || c == '\r'

/-- A block comment without its opening, up to and with its end. -/
def blockComment? : List Char → Option (List Char)
  | '*' :: '/' :: _ => some ['*', '/']
  | '\x00' :: _ => none
  | c :: rest => (blockComment? rest).map (c :: ·)
  | [] => none

/-- A raw string without its opening quote, up to and with the closing one. -/
def rawString? : List Char → Option (List Char)
  | '\x60' :: _ => some ['\x60']
  | '\x00' :: _ => none
  | c :: rest => (rawString? rest).map (c :: ·)
  | [] => none

/-- The first `n` characters, if they are there and are all hexadecimal digits. -/
def hexDigits? (n : Nat) (s : List Char) : Option (List Char) :=
  let digits := s.take n
  if digits.length == n && digits.all Numeral.isHex then some digits else none

/-- The digits that an escape in a string asks for after its letter; any other character stands
alone. -/
def escapeWidth (c : Char) : Nat :=
  if c == 'x' then 2 else if c == 'u' then 4 else if c == 'U' then 8 else 0

/-- An interpreted string without its opening quote, up to and with the closing one. After a backslash
any character may stand; the letters of numeric escapes must be followed by their digits. -/
def string? : List Char → Option (List Char)
  | '"' :: _ => some ['"']
  | '\\' :: c :: rest =>
    if c == '\x00' || (hexDigits? (escapeWidth c) rest).isNone then none
    else (string? rest).map (['\\', c] ++ ·)
  | '\\' :: [] => none
  | c :: rest => if c == '\n' || c == '\x00' then none else (string? rest).map (c :: ·)
  | [] => none

/-- The characters that a rune may name after a backslash. -/
def runeEscapes : List Char := ['a', 'b', 'f', 'n', 'r', 't', 'v', '\\', '\'', '"']

/-- The content of a rune literal, without the quotes. -/
def runeContent? : List Char → Option (List Char)
  | '\\' :: c :: rest =>
    if runeEscapes.contains c then some ['\\', c]
    else if escapeWidth c != 0 then (hexDigits? (escapeWidth c) rest).map (['\\', c] ++ ·)
    else if (c :: rest.take 2).length == 3 && (c :: rest.take 2).all Numeral.isOctal then
      some ('\\' :: c :: rest.take 2)
    else none
  | c :: _ => if c == '\'' || c == '\\' || c == '\x00' then none else some [c]
  | [] => none

/-- A rune literal without its opening quote, up to and with the closing one. -/
def rune? (s : List Char) : Option (List Char) :=
  match runeContent? s with
  | none => none
  | some content => if s[content.length]? == some '\'' then some (content ++ ['\'']) else none

/-- A word, which is a keyword or a name. -/
def word (text : String) : Lexeme := if keywords.contains text then .keyword text else .name text

/-- A lexeme made of the given characters. -/
def literal (make : String → Lexeme) (s : List Char) : Piece × Nat :=
  (.lexeme (make (String.ofList s)), s.length)

/-- The sign at the front of a text. -/
def symbol? (s : List Char) : Option String := symbols.find? fun x => x.toList.isPrefixOf s

/-- The piece at the front of a text, with its length. -/
def piece? : List Char → Option (Piece × Nat)
  | [] => none
  | '/' :: '/' :: rest =>
    let body := rest.takeWhile fun c => c != '\n' && c != '\x00'
    some (.comment ('/' :: '/' :: body), body.length + 2)
  | '/' :: '*' :: rest =>
    (blockComment? rest).map fun body => (.comment ('/' :: '*' :: body), body.length + 2)
  | '\x60' :: rest => (rawString? rest).map fun body => literal .text ('\x60' :: body)
  | '"' :: rest => (string? rest).map fun body => literal .text ('"' :: body)
  | '\'' :: rest => (rune? rest).map fun body => literal .rune ('\'' :: body)
  | c :: rest =>
    if isBlank c then some (.blank c, 1)
    else if c == '\x00' then some (.lexeme .nul, 1)
    else if Unicode.isNameStart c then some (literal word (c :: rest.takeWhile Unicode.isNamePart))
    else match Numeral.length? (c :: rest) with
      | some n => some (literal .number ((c :: rest).take n))
      | none => (symbol? (c :: rest)).map fun x => literal .symbol x.toList

/-- The pieces of a text whose next `skip` characters belong to a piece already. -/
def piecesAfter : Nat → List Char → Option (List Piece)
  | _, [] => some []
  | skip + 1, _ :: rest => piecesAfter skip rest
  | 0, c :: rest =>
    match piece? (c :: rest) with
    | none => none
    | some (p, n) => (piecesAfter (n - 1) rest).map (p :: ·)

/-- The characters of a blank or a comment. -/
def Piece.gapChars : Piece → List Char
  | .blank c => [c]
  | .comment t => t
  | .lexeme _ => []

/-- The tokens of a row of pieces, given the gap read so far and whether a line ended in it. -/
def tokensAfter (gap : List Char) (newLine : Bool) : List Piece → List Token
  | [] => [⟨.finish, String.ofList gap, newLine⟩]
  | .lexeme l :: rest => ⟨l, String.ofList gap, newLine⟩ :: tokensAfter [] false rest
  | .blank c :: rest => tokensAfter (gap ++ [c]) (newLine || c == '\n') rest
  | .comment t :: rest => tokensAfter (gap ++ t) newLine rest

end Lexer

/-- The tokens of a source text, or nothing if a character or an unclosed piece fits nowhere. -/
def tokens? (source : String) : Option (List Token) :=
  let chars := match source.toList with
    | '\ufeff' :: rest => rest
    | s => s
  (Lexer.piecesAfter 0 chars).map (Lexer.tokensAfter [] false)

end DeclGen.Source
