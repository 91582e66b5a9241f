import DeclGen.Source.Reader
import Mathlib.Data.List.Monad
import Mathlib.Tactic.Lemma

/-!
# What a file is read as before it is declared

The reader keeps of each type, field, method and part only what it declares. The readers here follow the
same rules, but keep types as they are written, with their parentheses: they make trees of a text
(`trees?`), and what the text declares is read off its trees (`SourceFile.parse_eq`).
-/

namespace DeclGen

namespace Source

open Reader

/-! ## Readers of other values -/

namespace Reader

/-- Values with terminators between them; one may follow the last value. -/
def terminated {α : Type} (r : Reader α) : Reader (List α) := do
  let a ← r
  let rest ← many (do terminator; r)
  let _ ← optional terminator
  return a :: rest

section Map

variable {α β : Type} (g : α → β) (r : Reader α)

lemma optional_map : optional (g <$> r) = Option.map g <$> optional r := by
  unfold optional
  rw [map_orElse, Functor.map_map, Functor.map_map, map_pure]
  rfl

lemma manyWithin_map (fuel : Nat) : manyWithin fuel (g <$> r) = List.map g <$> manyWithin fuel r := by
  induction fuel with
  | zero => rfl
  | succ fuel ih => simp [manyWithin, ih]

lemma many_map : many (g <$> r) = List.map g <$> many r := by
  simp [many, manyWithin_map]

lemma terminated_map : terminated (g <$> r) = List.map g <$> terminated r := by
  -- the terminator in front of a further value has no value of its own
  have hnext : (do terminator; g <$> r) = g <$> (do terminator; r) := (map_bind _ _ _).symm
  unfold terminated
  rw [hnext, many_map]
  simp

lemma getD_map (l : Option (List α)) : (l.map (List.map g)).getD [] = (l.getD []).map g := by
  cases l <;> rfl

lemma braced_map : braced (g <$> r) = List.map g <$> braced r := by
  show (do
    sign "\x7b"
    let parts ← optional (terminated (g <$> r))
    sign "\x7d"
    return parts.getD []) = List.map g <$> (do
    sign "\x7b"
    let parts ← optional (terminated r)
    sign "\x7d"
    return parts.getD [])
  rw [terminated_map, optional_map]
  simp [getD_map]

end Map

end Reader

/-! ## Signatures, fields and methods -/

/-- Parameters and results as they are written. -/
structure SignatureTerm where
  params : List ParamGroup
  results : List ParamGroup
deriving DecidableEq

namespace SignatureTerm

/-- The signature as it is declared. -/
def decl (g : SignatureTerm) : Signature := ⟨g.params.map (·.decl), g.results.map (·.decl)⟩

/-- Reads parameters and results. -/
def read : Reader SignatureTerm := do
  let params ← parameters
  let results ← Source.results
  return ⟨params, results⟩

lemma signature_eq : signature = decl <$> read := by
  simp [signature, read, decl]

end SignatureTerm

/-- Names that share a type, the type, and the literal of their tag, as they are written. -/
structure FieldTerm where
  names : List String
  type : TypeTerm
  tag : Option String
deriving DecidableEq

namespace FieldTerm

/-- The fields as they are declared. -/
def decl (f : FieldTerm) : FieldDecl := ⟨f.names, f.type.expr, f.tag.map unquote⟩

/-- Reads fields that share a type. -/
def read : Reader FieldTerm := do
  let (names, type) ← fieldType
  let tag ← optional do sameLine .block; literal
  return ⟨names, type, tag⟩

/-- Reads the fields of a record. -/
def readAll : Reader (List FieldTerm) := do key "struct"; braced read

lemma field_eq : field = decl <$> read := by
  simp [field, read, decl]

lemma fields_eq : fields = List.map decl <$> readAll := by
  simp [fields, readAll, field_eq, braced_map]

end FieldTerm

/-- A name with parameters and results, as it is written. -/
structure MethodTerm where
  name : String
  signature : SignatureTerm
deriving DecidableEq

namespace MethodTerm

/-- The method as an interface declares it. -/
def decl (m : MethodTerm) : MethodSpec := ⟨m.name, m.signature.decl⟩

/-- Reads a method of an interface, or nothing for an embedded type. -/
def read : Reader (Option MethodTerm) :=
  (do let id ← Reader.name; sameLine .block; return some ⟨id, ← SignatureTerm.read⟩) <|>
  (do phrase .block (.rule .typeElement); return none)

/-- Reads the elements of an interface. -/
def readAll : Reader (List (Option MethodTerm)) := do key "interface"; braced read

lemma element_eq : element = Option.map decl <$> read := by
  simp [element, read, decl, SignatureTerm.signature_eq]

lemma methods_eq : methods = List.filterMap (Option.map decl) <$> readAll := by
  simp [methods, readAll, element_eq, braced_map, List.filterMap_map]

end MethodTerm

/-! ## Types that are declared -/

/-- The specification of a type as it is written: of a record, of an interface, or of one that declares
nothing. -/
inductive SpecTerm
  | struct (name : String) (fields : List FieldTerm)
  | interface (name : String) (elements : List (Option MethodTerm))
  | other
deriving DecidableEq

namespace SpecTerm

/-- What a specification declares. -/
def declarations : SpecTerm → List Declaration
  | struct name fields => [.struct ⟨name, fields.map (·.decl)⟩]
  | interface name elements => [.interface ⟨name, elements.filterMap (·.map (·.decl))⟩]
  | other => []

/-- Reads what stands behind the name of a type. -/
def readBody (id : String) : Reader SpecTerm :=
  (return .struct id (← FieldTerm.readAll)) <|> (return .interface id (← MethodTerm.readAll)) <|>
  (do phrase .block (.rule .type); return .other)

/-- Reads a specification. -/
def read : Reader SpecTerm := do
  let id ← Reader.name
  let synonym : Reader SpecTerm := do
    sign "="
    phrase .block (.rule .type)
    return .other
  synonym <|> readBody id <|>
    (do phrase .block (.rule .typeParameters); synonym <|> readBody id)

/-- Reads the specifications of a declaration: one, or a group of them. -/
def readAll : Reader (List SpecTerm) := do
  key "type"
  (return [← read]) <|> (do
    sign "("
    let specs ← optional (terminated read)
    sign ")"
    return specs.getD [])

lemma typeBody_eq (id : String) : typeBody id = declarations <$> readBody id := by
  simp [typeBody, readBody, FieldTerm.fields_eq, MethodTerm.methods_eq, declarations]

lemma typeSpec_eq : typeSpec = declarations <$> read := by
  simp [typeSpec, read, typeBody_eq, declarations]

lemma typeDeclaration_eq : typeDeclaration = List.flatMap declarations <$> readAll := by
  -- an empty group declares as little as no group
  have hgroup : ∀ specs : Option (List SpecTerm),
      ((specs.map (List.map declarations)).getD []).flatten = (specs.getD []).flatMap declarations := by
    intro specs
    rw [getD_map, List.flatMap_def]
  show (do
    key "type"
    typeSpec <|> (do
      sign "("
      let specs ← optional (terminated typeSpec)
      sign ")"
      return (specs.getD []).flatten)) = _
  simp [readAll, typeSpec_eq, terminated_map, optional_map, hgroup]

end SpecTerm

/-! ## Parts -/

/-- A part of a file as it is written. Imports, constants, variables and statements are all alike. -/
inductive PartTerm
  | clause (package : String)
  | types (specs : List SpecTerm)
  | method (receiver : List ParamGroup) (decl : MethodTerm)
  | function (decl : MethodTerm)
  | other
deriving DecidableEq

namespace PartTerm

/-- What a part adds to the file. -/
def part : PartTerm → Part
  | clause package => { package := some package }
  | types specs => { declarations := specs.flatMap (·.declarations) }
  | method receiver m => { declarations :=
      ((receiver? receiver).map fun r => Declaration.method ⟨r, m.name, m.signature.decl⟩).toList }
  | function m => { declarations := [.function ⟨m.name, m.signature.decl⟩] }
  | other => {}

/-- Reads a function without receiver. -/
def readFunction : Reader PartTerm := do
  key "func"
  let id ← name
  phrase .block (.optional (.rule .typeParameters))
  let sig ← SignatureTerm.read
  body
  return .function ⟨id, sig⟩

/-- Reads a method. -/
def readMethod : Reader PartTerm := do
  key "func"
  let receiver ← parameters
  let id ← name
  let sig ← SignatureTerm.read
  body
  return .method receiver ⟨id, sig⟩

/-- Reads a part that can end the file without a terminator. -/
def readLast : Reader PartTerm :=
  (do key "package"; return .clause (← name)) <|>
  (do phrase .block (.rule .importDeclaration); return .other) <|> readFunction <|> readMethod

/-- Reads a part that a terminator must follow. -/
def readStatement : Reader PartTerm :=
  (return .types (← SpecTerm.readAll)) <|> (do phrase .block (.rule .statement); return .other)

/-- Reads a part with its terminator. -/
def read : Reader PartTerm :=
  (do let p ← readLast; terminator; return p) <|> (do let p ← readStatement; terminator; return p)

/-- Reads all parts of a file. -/
def readAll : Reader (List PartTerm) := do
  let front ← many read
  let last ← optional readLast
  finish
  return front ++ last.toList

lemma topLevel_eq : topLevel = part <$> readLast := by
  simp [topLevel, readLast, readFunction, readMethod, Source.function, Source.method,
    SignatureTerm.signature_eq, part]

lemma statement_eq : statement = part <$> readStatement := by
  simp [statement, readStatement, SpecTerm.typeDeclaration_eq, part]

lemma terminatedPart_eq : terminatedPart = part <$> read := by
  simp [terminatedPart, read, topLevel_eq, statement_eq]

lemma parts_eq : parts = List.map part <$> readAll := by
  have hlast : ∀ p : Option PartTerm, (p.map part).toList = p.toList.map part := by
    intro p
    cases p <;> rfl
  simp [parts, readAll, terminatedPart_eq, topLevel_eq, many_map, optional_map, hlast]

end PartTerm

/-! ## Files -/

/-- The file that parts make up. The last package clause counts. -/
def fileOf (ps : List Part) : Except SourceError SourceFile :=
  match (ps.filterMap (·.package)).getLast? with
  | none => .error .missingPackage
  | some package => .ok ⟨package, ps.flatMap (·.declarations)⟩

/-- The parts of a text as they are written, if it is a file. -/
def trees? (source : String) : Option (List PartTerm) :=
  (tokens? source).bind fun tokens => PartTerm.readAll.run' tokens

end Source

open Source

namespace SourceFile

/-- A text is the file that its parts make up. -/
theorem parse_eq [ErrorRecovery] (source : String) : parse source =
    match trees? source with
    | none => .error (.ofText source)
    | some ps => fileOf (ps.map (·.part)) := by
  have hread : ∀ tokens, parts.run' tokens = (PartTerm.readAll.run' tokens).map (List.map (·.part)) := by
    intro tokens
    rw [PartTerm.parts_eq]
    simp [StateT.run'_eq, Function.comp_def]
  unfold parse trees?
  cases tokens? source with
  | none => rfl
  | some tokens =>
    rw [Option.bind_some, Option.bind_some, hread]
    cases PartTerm.readAll.run' tokens <;> rfl

/-- A text is accepted as a file when it has trees and the file is made up by what they add. -/
lemma parse_eq_ok_iff [ErrorRecovery] {source : String} {f : SourceFile} :
    parse source = .ok f ↔ ∃ ps, trees? source = some ps ∧ fileOf (ps.map (·.part)) = .ok f := by
  rw [parse_eq]
  cases trees? source <;> simp

end SourceFile

end DeclGen
