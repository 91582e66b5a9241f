import DeclGen.Declaration.SourceFile
import DeclGen.Source.Fault
import DeclGen.Source.Lexer
import DeclGen.Source.TypeTerm

/-!
# Reading declaration files

The parts of a source file that become declarations are read here: the package clause, records,
interfaces, methods and functions. Everything else must fit the grammar and is left out. Nothing is made
of a file that does not fit it: the place of its first fault is told.
-/

namespace DeclGen

/-- Why a source text is not a declaration file. -/
inductive SourceError
  /-- It does not fit the grammar; this is its first fault. -/
  | malformed {fault : Source.Fault}
  /-- It names no package. -/
  | missingPackage
deriving DecidableEq, Repr

namespace SourceError

/-- The error of a text that does not fit the grammar. -/
def ofText [ErrorRecovery] (source : String) : SourceError := @malformed (.ofText source)

/-- The wording of a source error. -/
def message : SourceError → String
  | @malformed fault =>
    "syntax error at line " ++ toString fault.line ++ ", column " ++ toString fault.column
      ++ ": unexpected \x60" ++ fault.snippet ++ "\x60"
  | missingPackage => "missing package clause"

end SourceError

namespace Source

/-- Reads a value from the front of a row of tokens. -/
abbrev Reader := StateT (List Token) Option

namespace Reader

/-- The next token, if its lexeme has a value. -/
def next {α : Type} (value : Lexeme → Option α) : Reader α
  | [] => none
  | t :: rest => (value t.lexeme).map (·, rest)

/-- A sign. -/
def sign (text : String) : Reader Unit := next fun l => if l == .symbol text then some () else none

/-- A keyword. -/
def key (text : String) : Reader Unit := next fun l => if l == .keyword text then some () else none

/-- A name. -/
def name : Reader String := next fun
  | .name id => some id
  | _ => none

/-- A string literal. -/
def literal : Reader String := next fun
  | .text t => some t
  | _ => none

/-- Nothing, if the next token stands on the same line or line feeds do not count. -/
def sameLine (m : Mode) : Reader Unit := fun s =>
  if m.lines && s.head?.any (·.newLine) then none else some ((), s)

/-- A terminator. -/
def terminator : Reader Unit := fun s => (terminator? s).map ((), ·)

/-- The end of the file. -/
def finish : Reader Unit := fun s =>
  match s with
  | [t] => if t.lexeme == .finish then some ((), s) else none
  | _ => none

/-- A phrase of the grammar. -/
def phrase (m : Mode) (p : Phrase Rule) : Reader Unit := fun s =>
  (Phrase.read? Grammar.rules p m s).map ((), ·)

/-- Nothing, where a phrase would fit. -/
def ahead (m : Mode) (p : Phrase Rule) : Reader Unit := phrase m (.ahead p)

/-- A value as often as it can be read, at most `fuel` times. -/
def manyWithin {α : Type} : Nat → Reader α → Reader (List α)
  | 0, _ => pure []
  | fuel + 1, r => (do let a ← r; let rest ← manyWithin fuel r; return a :: rest) <|> pure []

/-- A value as often as it can be read. Each reading takes a token, so that there are no more of them
than tokens. -/
def many {α : Type} (r : Reader α) : Reader (List α) := do manyWithin (← get).length r

/-- Values with commas between them, at least one. -/
def commaSeparated {α : Type} (r : Reader α) : Reader (List α) := do
  let a ← r
  let rest ← many (do sign ","; r)
  return a :: rest

/-- Parts between braces with terminators between them; one may follow the last part. -/
def braced {α : Type} (r : Reader α) : Reader (List α) := do
  sign "\x7b"
  let parts ← optional (do
    let a ← r
    let rest ← many (do terminator; r)
    let _ ← optional terminator
    return a :: rest)
  sign "\x7d"
  return parts.getD []

end Reader

open Reader

/-- A type. -/
def typeTerm (m : Mode) : Reader TypeTerm := TypeTerm.read? m

/-! ## Parameters -/

/-- An item of a parameter list: a type alone, or a name with its type, or a variadic slot. -/
inductive ParamItem
  | bare (type : TypeTerm)
  | named (id : String) (type : TypeTerm)
  | variadic (id : Option String) (type : TypeTerm)
deriving DecidableEq, Repr

/-- Parameters that share a type. -/
structure ParamGroup where
  names : List String
  variadic : Bool
  type : TypeTerm
deriving DecidableEq, Repr

namespace ParamGroup

/-- The group as it is declared. -/
def decl (g : ParamGroup) : ParamDecl :=
  ⟨g.names, if g.variadic then .variadic g.type.expr else g.type.expr⟩

/-- Names that turned out to be types of unnamed parameters. -/
def unnamed (ids : List String) : List ParamGroup := ids.map fun id => ⟨[], false, .name id⟩

/-- The groups of a parameter list. Names in front of a named parameter belong to its group; `pending`
are the names of which that is not known yet. -/
def ofItems (pending : List String) : List ParamItem → List ParamGroup
  | [] => unnamed pending
  | .bare (.name id) :: rest => ofItems (pending ++ [id]) rest
  | .bare t :: rest => unnamed pending ++ ⟨[], false, t⟩ :: ofItems [] rest
  | .named id t :: rest => ⟨pending ++ [id], false, t⟩ :: ofItems [] rest
  | .variadic id t :: rest => unnamed pending ++ ⟨id.toList, true, t⟩ :: ofItems [] rest

end ParamGroup

/-- The end of an item of a parameter list. -/
def itemEnd : Reader Unit := ahead .inside (Grammar.anySign [",", ")"])

/-- An item of a parameter list. A name is taken for the name of a parameter where a type follows. -/
def paramItem : Reader ParamItem :=
  (do sign "..."; return .variadic none (← typeTerm .inside)) <|>
  (do let id ← name; sign "..."; return .variadic (some id) (← typeTerm .inside)) <|>
  (do let id ← name; let t ← typeTerm .inside; itemEnd; return .named id t) <|>
  (do let t ← typeTerm .inside; itemEnd; return .bare t)

/-- A parameter list. -/
def parameters : Reader (List ParamGroup) := do
  sign "("
  let items ← optional (commaSeparated paramItem)
  let _ ← optional (sign ",")
  sign ")"
  return ParamGroup.ofItems [] (items.getD [])

/-- The results of a function: a list in parentheses, or a single type. -/
def results : Reader (List ParamGroup) := do
  let groups ← optional do
    sameLine .block
    parameters <|> (do
      let t ← typeTerm .block
      return [⟨[], false, t⟩])
  return groups.getD []

/-- Parameters and results. -/
def signature : Reader Signature := do
  let params ← parameters
  let results ← results
  return ⟨params.map (·.decl), results.map (·.decl)⟩

/-! ## Records and interfaces -/

/-- Writes a quote for each escaped quote. -/
def unescapeQuotes : List Char → List Char
  | '\\' :: '"' :: rest => '"' :: unescapeQuotes rest
  | c :: rest => c :: unescapeQuotes rest
  | [] => []

/-- Writes a backslash for each pair of backslashes. -/
def unescapeBackslashes : List Char → List Char
  | '\\' :: '\\' :: rest => '\\' :: unescapeBackslashes rest
  | c :: rest => c :: unescapeBackslashes rest
  | [] => []

/-- The text that a string literal stands for. A raw string is taken as it is; in an interpreted one
escaped quotes are undone first and escaped backslashes then, and all other escapes are kept. -/
def unquote (literal : String) : String :=
  let inner := (literal.toList.drop 1).dropLast
  if literal.toList.head? == some '\x60' then String.ofList inner
  else String.ofList (unescapeBackslashes (unescapeQuotes inner))

/-- The names and the type of a group of fields. An embedded field, which has no names, is a named type
with or without a star. -/
def fieldType : Reader (List String × TypeTerm) :=
  (do sign "*"; let t ← TypeTerm.readNamed? .block; return ([], .pointer t)) <|>
  (do let t ← TypeTerm.readNamed? .block; ahead .block (.rule .fieldEnd); return ([], t)) <|>
  (do
    let id ← name
    sign ","
    let ids ← commaSeparated name
    return (id :: ids, ← typeTerm .block)) <|>
  (do let id ← name; sameLine .block; return ([id], ← typeTerm .block))

/-- A group of fields with its tag. -/
def field : Reader FieldDecl := do
  let (names, type) ← fieldType
  let tag ← optional do sameLine .block; literal
  return ⟨names, type.expr, tag.map unquote⟩

/-- The fields of a record. -/
def fields : Reader (List FieldDecl) := do key "struct"; braced field

/-- A method of an interface, or nothing for an embedded type. -/
def element : Reader (Option MethodSpec) :=
  (do let id ← name; sameLine .block; return some ⟨id, ← signature⟩) <|>
  (do phrase .block (.rule .typeElement); return none)

/-- The methods of an interface. -/
def methods : Reader (List MethodSpec) := do
  key "interface"
  return (← braced element).filterMap id

/-! ## Declarations -/

/-- The declaration of a type of the given name, if it is directly a record or an interface. -/
def typeBody (id : String) : Reader (List Declaration) :=
  (return [.struct ⟨id, ← fields⟩]) <|> (return [.interface ⟨id, ← methods⟩]) <|>
  (do phrase .block (.rule .type); return [])

/-- A type specification. Aliases declare nothing. -/
def typeSpec : Reader (List Declaration) := do
  let id ← name
  let synonym : Reader (List Declaration) := do
    sign "="
    phrase .block (.rule .type)
    return []
  synonym <|> typeBody id <|>
    (do phrase .block (.rule .typeParameters); synonym <|> typeBody id)

/-- A type declaration: one specification or a group of them. -/
def typeDeclaration : Reader (List Declaration) := do
  key "type"
  typeSpec <|> (do
    sign "("
    let specs ← optional (do
      let spec ← typeSpec
      let rest ← many (do terminator; typeSpec)
      let _ ← optional terminator
      return spec :: rest)
    sign ")"
    return (specs.getD []).flatten)

/-- The body of a function, on the line where its header ends. -/
def body : Reader Unit := phrase .block (.optional (.onLine (.rule .block)))

/-- A function without receiver. -/
def function : Reader (List Declaration) := do
  key "func"
  let id ← name
  phrase .block (.optional (.rule .typeParameters))
  let sig ← signature
  body
  return [.function ⟨id, sig⟩]

/-- The receiver of a method: the first parameter that is not variadic, if its type is a name with at
most one star. -/
def receiver? (groups : List ParamGroup) : Option Receiver :=
  match groups.find? (!·.variadic) with
  | some ⟨names, _, .name id⟩ => some ⟨names.head?, id, false⟩
  | some ⟨names, _, .pointer (.name id)⟩ => some ⟨names.head?, id, true⟩
  | _ => none

/-- A method. One whose receiver is no plain type declares nothing. -/
def method : Reader (List Declaration) := do
  key "func"
  let groups ← parameters
  let id ← name
  let sig ← signature
  body
  return ((receiver? groups).map fun r => Declaration.method ⟨r, id, sig⟩).toList

/-! ## Files -/

/-- What a part of a file adds to the whole: the package that it names, and declarations. -/
structure Part where
  package : Option String := none
  declarations : List Declaration := []
deriving DecidableEq, Repr

/-- A part that can end the file without a terminator. -/
def topLevel : Reader Part :=
  (do key "package"; return { package := some (← name) }) <|>
  (do phrase .block (.rule .importDeclaration); return {}) <|>
  (return { declarations := ← function }) <|>
  (return { declarations := ← method })

/-- A part that a terminator must follow. -/
def statement : Reader Part :=
  (return { declarations := ← typeDeclaration }) <|>
  (do phrase .block (.rule .statement); return {})

/-- A part with its terminator. -/
def terminatedPart : Reader Part :=
  (do let p ← topLevel; terminator; return p) <|> (do let p ← statement; terminator; return p)

/-- All parts of a file. -/
def parts : Reader (List Part) := do
  let front ← many terminatedPart
  let last ← optional topLevel
  finish
  return front ++ last.toList

end Source

/-- The declaration file that a source text holds. The last package clause counts. -/
def SourceFile.parse [ErrorRecovery] (source : String) : Except SourceError SourceFile :=
  match (Source.tokens? source).bind fun tokens => Source.parts.run' tokens with
  | none => .error (.ofText source)
  | some parts =>
    match (parts.filterMap (·.package)).getLast? with
    | none => .error .missingPackage
    | some package => .ok ⟨package, parts.flatMap (·.declarations)⟩

end DeclGen
