import DeclGen.Declaration.TypeExpr
import DeclGen.Source.Grammar

/-!
# Types as they are written

A `TypeTerm` is a type with its parentheses. `TypeTerm.expr` forgets them, and `TypeTerm.read?` reads a
type from the front of a row of tokens. Types of the shapes that are kept as text are read by the
grammar and given back as they stand in the source.
-/

namespace DeclGen.Source

/-- The text of the tokens in front of `rest`. -/
def textBefore (s rest : List Token) : String := sourceText (s.take (s.length - rest.length))

/-- A type as it is written. -/
inductive TypeTerm
  | name (id : String)
  | selection (package id : String)
  | pointer (target : TypeTerm)
  | slice (element : TypeTerm)
  | parenthesised (inner : TypeTerm)
  | emptyInterface
  | other (shape : Shape) (text : String)
deriving DecidableEq, Repr

namespace TypeTerm

/-- The type without its parentheses. -/
def expr : TypeTerm → TypeExpr
  | name id => .name id
  | selection p id => .qualified (.name p) id
  | pointer t => .pointer t.expr
  | slice t => .slice t.expr
  | parenthesised t => t.expr
  | emptyInterface => .openType
  | other shape text => .unsupported shape text

/-- A type of a shape that is kept as text, read by its rule. -/
def readOther? (shape : Shape) (r : Rule) (m : Mode) (s : List Token) :
    Option (TypeTerm × List Token) :=
  (Phrase.read? Grammar.rules (.rule r) m s).map fun rest => (other shape (textBefore s rest), rest)

/-- Whether the next token goes on with what stands before it: where line feeds count it must stand on
the same line. -/
def continues (m : Mode) (l : Lexeme) : List Token → Bool
  | [] => false
  | t :: _ => t.lexeme == l && !(m.lines && t.newLine)

/-- What a name or selection in front of `rest` is: a generic type, if type arguments follow. -/
def withArguments (m : Mode) (plain : TypeTerm) (s rest : List Token) : TypeTerm × List Token :=
  if continues m (.symbol "[") rest then
    match Phrase.read? Grammar.rules (.rule .typeArguments) m rest with
    | some after => (other .generic (textBefore s after), after)
    | none => (plain, rest)
  else (plain, rest)

/-- A named type: a name or a selection from a package, with or without type arguments. -/
def readNamed? (m : Mode) (s : List Token) : Option (TypeTerm × List Token) :=
  match s with
  | t :: rest =>
    match t.lexeme with
    | .name id =>
      if continues m (.symbol ".") rest then
        match rest with
        | _ :: u :: after =>
          match u.lexeme with
          | .name selected => some (withArguments m (selection id selected) s after)
          | _ => some (name id, rest)
        | _ => some (name id, rest)
      else some (withArguments m (name id) s rest)
    | _ => none
  | [] => none

/-- Reads a type. -/
def read? (m : Mode) : List Token → Option (TypeTerm × List Token)
  | [] => none
  | t :: rest =>
    match t.lexeme with
    | .symbol "*" => (read? m rest).map fun (e, r) => (pointer e, r)
    | .symbol "(" =>
      match read? .inside rest with
      | some (e, u :: r) => if u.lexeme == .symbol ")" then some (parenthesised e, r) else none
      | _ => none
    | .symbol "[" =>
      match rest with
      | u :: after =>
        if u.lexeme == .symbol "]" then (read? m after).map fun (e, r) => (slice e, r)
        else readOther? .array .arrayType m (t :: rest)
      | [] => none
    | .symbol "<-" => readOther? .channel .channelType m (t :: rest)
    | .symbol "~" => readOther? .negated .negatedType m (t :: rest)
    | .keyword "chan" => readOther? .channel .channelType m (t :: rest)
    | .keyword "map" => readOther? .map .mapType m (t :: rest)
    | .keyword "func" => readOther? .function .functionType m (t :: rest)
    | .keyword "struct" => readOther? .struct .structType m (t :: rest)
    | .keyword "interface" =>
      match rest with
      | u :: v :: after =>
        if u.lexeme == .symbol "\x7b" && v.lexeme == .symbol "\x7d" then some (emptyInterface, after)
        else readOther? .interface .interfaceType m (t :: rest)
      | _ => none
    | .name _ => readNamed? m (t :: rest)
    | _ => none

end TypeTerm

end DeclGen.Source
