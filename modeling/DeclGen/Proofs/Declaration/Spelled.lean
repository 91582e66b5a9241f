import DeclGen.Declaration.Printer
import DeclGen.Proofs.Source.Spelling
import Mathlib.Data.List.Flatten

/-!
# Declarations as they are spelled

Which declarations can be written (`Written`), and the rows of lexemes that their texts spell. Types are
plain: names, selections from a name, slices, pointers and the open type. A parameter or a result can
also be variadic, with at most one name. A list of parameters has names for all of them or for none, and a
tag holds neither a back quote nor a NUL.
-/

namespace DeclGen

open Source Text

/-! ## Types -/

/-- A name, or a name selected from a package. -/
inductive TypeExpr.Nominal : TypeExpr → Prop
  | name {id : String} (h : IsName id) : Nominal (.name id)
  | selection {package id : String} (hpackage : IsName package) (h : IsName id) :
      Nominal (.qualified (.name package) id)

/-- Slices and pointers of nominal types and of the open type. -/
inductive TypeExpr.Plain : TypeExpr → Prop
  | nominal {e : TypeExpr} (h : e.Nominal) : Plain e
  | slice {e : TypeExpr} (h : e.Plain) : Plain (.slice e)
  | pointer {e : TypeExpr} (h : e.Plain) : Plain (.pointer e)
  | openType : Plain .openType

/-- The row of a type. -/
def TypeExpr.lexemes : TypeExpr → List Lexeme
  | name id => [.name id]
  | slice e => .symbol "[" :: .symbol "]" :: e.lexemes
  | pointer e => .symbol "*" :: e.lexemes
  | variadic e => .symbol "..." :: e.lexemes
  | openType => [.keyword "interface", .symbol "\x7b", .symbol "\x7d"]
  | qualified p id => p.lexemes ++ [.symbol ".", .name id]
  | unsupported _ _ => []

lemma opens_of_isName {id : String} (h : IsName id) : Opens id (Unicode.isNameStart ·) := by
  obtain ⟨c, rest, hlist, hc, -⟩ := h.start
  exact ⟨c, rest, hlist, hc⟩

namespace TypeExpr

variable {e : TypeExpr}

lemma Nominal.opens (h : e.Nominal) : Opens e.text (Unicode.isNameStart ·) := by
  cases h with
  | name h => exact opens_of_isName h
  | selection hpackage _ => exact ((opens_of_isName hpackage).append ".").append _

lemma Nominal.spells (h : e.Nominal) : Spells e.text e.lexemes endsWord := by
  cases h with
  | name h => exact .name h
  | @selection package id hpackage h =>
    have hpoint : Opens ("." ++ id) endsWord := Opens.append ⟨'.', [], by decide, by decide⟩ id
    have hrest : Spells ("." ++ id) [.symbol ".", .name id] endsWord :=
      Spells.point.append (.name h) (opens_of_isName h)
    have hall := (Spells.name hpackage).append hrest hpoint
    rwa [← String.append_assoc] at hall

/-- No plain type begins with an equals sign. -/
lemma Plain.opens (h : e.Plain) : Opens e.text (· ≠ '=') := by
  cases h with
  | nominal h =>
    refine h.opens.mono fun c hc => ?_
    rintro rfl
    exact absurd hc (by decide)
  | slice h => exact Opens.append ⟨'[', [']'], by decide, by decide⟩ _
  | pointer h => exact Opens.append ⟨'*', [], by decide, by decide⟩ _
  | openType => exact ⟨'i', _, rfl, by decide⟩

lemma Plain.spells (h : e.Plain) : Spells e.text e.lexemes endsWord := by
  induction h with
  | nominal h => exact h.spells
  | slice h ih =>
    have hbrackets : Spells ("[" ++ "]") [.symbol "[", .symbol "]"] anyChar :=
      (Spells.sole (by decide)).before (.sole (by decide))
    exact hbrackets.before ih
  | pointer h ih => exact Spells.star.append ih h.opens
  | openType =>
    have hbraces : Spells ("\x7b" ++ "\x7d") [.symbol "\x7b", .symbol "\x7d"] anyChar :=
      (Spells.sole (by decide)).before (.sole (by decide))
    have hopens : Opens ("\x7b" ++ "\x7d") endsWord := ⟨'\x7b', ['\x7d'], by decide, by decide⟩
    have hword : Spells "interface" [.keyword "interface"] endsWord := .keyword (by decide)
    exact (hword.append hbraces hopens).mono fun _ _ => trivial

end TypeExpr

/-! ## Names before a type -/

/-- Rows with commas between them. -/
def commas (rows : List (List Lexeme)) : List Lexeme := [Lexeme.symbol ","].intercalate rows

/-- The row of names that share a type, without the type. -/
def nameRow (names : List String) : List Lexeme := commas (names.map ([.name ·]))

lemma spells_nameRow {names : List String} (h : ∀ n ∈ names, IsName n) :
    Spells (", ".intercalate names) (nameRow names) endsWord := by
  have hitems : ∀ x ∈ names.map fun n => (n, [Lexeme.name n]), Spells x.1 x.2 endsWord := by
    intro x hx
    obtain ⟨n, hn, rfl⟩ := List.mem_map.mp hx
    exact .name (h n hn)
  have hall := Spells.commaSeparated hitems
  rw [List.map_map, List.map_map] at hall
  have hnames : names.map (Prod.fst ∘ fun n => (n, [Lexeme.name n])) = names := List.map_id names
  rwa [hnames] at hall

lemma spells_namesBefore {names : List String} (h : ∀ n ∈ names, IsName n) {type : String}
    {row : List Lexeme} (htype : Spells type row endsWord) :
    Spells (namesBefore names type) (nameRow names ++ row) endsWord := by
  unfold namesBefore
  split
  · rename_i hempty
    obtain rfl := List.isEmpty_iff.mp hempty
    exact htype
  · have hspace : Spells (" " ++ type) row endsWord := Spells.space.before htype
    have hopens : Opens (" " ++ type) endsWord := Opens.append ⟨' ', [], by decide, by decide⟩ type
    have hall := (spells_nameRow h).append hspace hopens
    rwa [← String.append_assoc] at hall

/-! ## Parameters and results -/

/-- A group of plain type, or a slot of variadic type with at most one name. -/
inductive ParamDecl.Written : ParamDecl → Prop
  | plain {names : List String} {type : TypeExpr} (hnames : ∀ n ∈ names, IsName n) (h : type.Plain) :
      Written ⟨names, type⟩
  | variadic {names : List String} {type : TypeExpr} (hnames : ∀ n ∈ names, IsName n)
      (hone : names.length ≤ 1) (h : type.Plain) : Written ⟨names, .variadic type⟩

/-- The row of a group. -/
def ParamDecl.lexemes (p : ParamDecl) : List Lexeme := nameRow p.names ++ p.type.lexemes

lemma ParamDecl.Written.spells {p : ParamDecl} (h : p.Written) :
    Spells p.text p.lexemes endsWord := by
  cases h with
  | plain hnames h => exact spells_namesBefore hnames h.spells
  | variadic hnames _ h => exact spells_namesBefore hnames (Spells.dots.before h.spells)

namespace Signature

/-- The groups can be written, and have names for all slots or for none. -/
structure WrittenList (params : List ParamDecl) : Prop where
  each : ∀ p ∈ params, p.Written
  uniform : (∀ p ∈ params, p.names = []) ∨ ∀ p ∈ params, p.names ≠ []

/-- A signature that can be written. -/
structure Written (s : Signature) : Prop where
  params : WrittenList s.params
  results : WrittenList s.results

/-- The row of a list in parentheses. -/
def listLexemes (params : List ParamDecl) : List Lexeme :=
  .symbol "(" :: (commas (params.map (·.lexemes)) ++ [.symbol ")"])

/-- The row of the results. -/
def resultLexemes (results : List ParamDecl) : List Lexeme :=
  if results.isEmpty then []
  else match single? results with
    | some type => type.lexemes
    | none => listLexemes results

/-- The row of a signature. -/
def lexemes (s : Signature) : List Lexeme := listLexemes s.params ++ resultLexemes s.results

lemma spells_listText {params : List ParamDecl} (h : ∀ p ∈ params, p.Written) :
    Spells (listText params) (listLexemes params) anyChar := by
  have hitems : ∀ x ∈ params.map fun p => (p.text, p.lexemes), Spells x.1 x.2 endsWord := by
    intro x hx
    obtain ⟨p, hp, rfl⟩ := List.mem_map.mp hx
    exact (h p hp).spells
  have hlist := Spells.commaSeparated hitems
  rw [List.map_map, List.map_map] at hlist
  have hclose : Spells ")" [.symbol ")"] anyChar := .sole (by decide)
  have hopen : Spells "(" [.symbol "("] anyChar := .sole (by decide)
  have hinner := hlist.append hclose ⟨')', [], by decide, by decide⟩
  have hall := hopen.before hinner
  rwa [← String.append_assoc] at hall

lemma single?_eq_some {results : List ParamDecl} {type : TypeExpr} (h : single? results = some type) :
    results = [⟨[], type⟩] ∧ ∀ e, type ≠ .variadic e := by
  unfold single? at h
  split at h
  · exact absurd h (by simp)
  · rename_i e hvariadic
    obtain rfl : e = type := by simpa using h
    exact ⟨rfl, hvariadic⟩
  · exact absurd h (by simp)

lemma plain_of_single? {results : List ParamDecl} {type : TypeExpr} (h : single? results = some type)
    (hwritten : ∀ p ∈ results, p.Written) : type.Plain := by
  obtain ⟨rfl, hvariadic⟩ := single?_eq_some h
  cases hwritten _ List.mem_cons_self with
  | plain _ h => exact h
  | variadic => exact absurd rfl (hvariadic _)

lemma spells_resultText {results : List ParamDecl} (h : ∀ p ∈ results, p.Written) :
    Spells (resultText results) (resultLexemes results) endsWord := by
  unfold resultText resultLexemes
  split
  · exact .empty
  cases hsingle : single? results with
  | some type => exact Spells.space.before (plain_of_single? hsingle h).spells
  | none => exact Spells.space.before ((spells_listText h).mono fun _ _ => trivial)

lemma Written.spells {s : Signature} (h : s.Written) : Spells s.text s.lexemes endsWord :=
  (spells_listText h.params.each).before (spells_resultText h.results.each)

/-- A signature begins with the parenthesis of its parameters. -/
lemma opens_text (s : Signature) : Opens s.text endsWord := by
  have hopen : Opens "(" endsWord := ⟨'(', [], by decide, by decide⟩
  exact ((hopen.append _).append ")").append _

end Signature

/-! ## Fields and methods -/

/-- A method of an interface that can be written. -/
structure MethodSpec.Written (m : MethodSpec) : Prop where
  name : IsName m.name
  signature : m.signature.Written

/-- The row of a method of an interface. -/
def MethodSpec.lexemes (m : MethodSpec) : List Lexeme := .name m.name :: m.signature.lexemes

lemma MethodSpec.Written.spells {m : MethodSpec} (h : m.Written) : Spells m.text m.lexemes endsWord :=
  (Spells.name h.name).append h.signature.spells m.signature.opens_text

/-- The names and the type of fields: named fields of plain type, or an embedded type with or without a
star. -/
inductive FieldDecl.WrittenType : List String → TypeExpr → Prop
  | named {names : List String} {type : TypeExpr} (hsome : names ≠ []) (hnames : ∀ n ∈ names, IsName n)
      (h : type.Plain) : WrittenType names type
  | embedded {type : TypeExpr} (h : type.Nominal) : WrittenType [] type
  | embeddedPointer {type : TypeExpr} (h : type.Nominal) : WrittenType [] (.pointer type)

/-- A group of fields that can be written. A raw string has no escapes, and so no tag can hold a back
quote or a NUL. -/
structure FieldDecl.Written (f : FieldDecl) : Prop where
  type : WrittenType f.names f.type
  tag : ∀ tag ∈ f.tag, ∀ c ∈ tag.toList, c ≠ '\x60' ∧ c ≠ '\x00'

/-- The row of a tag. -/
def FieldDecl.tagLexemes (tag : Option String) : List Lexeme :=
  tag.toList.map fun tag => .text ("\x60" ++ tag ++ "\x60")

/-- The row of a group of fields. -/
def FieldDecl.lexemes (f : FieldDecl) : List Lexeme :=
  nameRow f.names ++ f.type.lexemes ++ tagLexemes f.tag

lemma FieldDecl.WrittenType.plain {names : List String} {type : TypeExpr}
    (h : WrittenType names type) : (∀ n ∈ names, IsName n) ∧ type.Plain := by
  cases h with
  | named _ hnames h => exact ⟨hnames, h⟩
  | embedded h => exact ⟨by simp, .nominal h⟩
  | embeddedPointer h => exact ⟨by simp, .pointer (.nominal h)⟩

/-- Names, their type, and a string literal behind a space. -/
lemma FieldDecl.spells_literal {names : List String} {type : TypeExpr} (h : WrittenType names type)
    {literal : Option String} (hliteral : ∀ l ∈ literal, Spells l [.text l] anyChar) :
    Spells (namesBefore names type.text ++ literal.elim "" (" " ++ ·))
      (nameRow names ++ type.lexemes ++ literal.toList.map .text) endsWord := by
  obtain ⟨hnames, htype⟩ := h.plain
  have hfront := spells_namesBefore hnames htype.spells
  cases literal with
  | none => simpa using hfront
  | some l =>
    have hbehind : Spells (" " ++ l) [.text l] endsWord :=
      Spells.space.before ((hliteral l rfl).mono fun _ _ => trivial)
    exact hfront.append hbehind (Opens.append ⟨' ', [], by decide, by decide⟩ l)

lemma FieldDecl.Written.spells {f : FieldDecl} (h : f.Written) : Spells f.text f.lexemes endsWord := by
  have hliteral : ∀ l ∈ f.tag.map fun tag => "\x60" ++ tag ++ "\x60", Spells l [.text l] anyChar := by
    intro l hl
    obtain ⟨tag, htag, rfl⟩ := Option.map_eq_some_iff.mp hl
    exact .rawText (h.tag tag htag)
  have hall := spells_literal h.type hliteral
  unfold FieldDecl.text FieldDecl.lexemes
  cases htag : f.tag with
  | none => simpa [htag, tagLexemes] using hall
  | some tag =>
    have htext : " \x60" ++ tag ++ "\x60" = " " ++ ("\x60" ++ tag ++ "\x60") := by
      rw [← String.toList_inj]
      simp
    rw [htag] at hall
    show Spells (_ ++ (" \x60" ++ tag ++ "\x60")) _ _
    rw [htext]
    exact hall

/-! ## Declarations -/

/-- A receiver that can be written. -/
structure Receiver.Written (r : Receiver) : Prop where
  name : ∀ n ∈ r.name, IsName n
  typeName : IsName r.typeName

/-- The receiver as a parameter. -/
def Receiver.param (r : Receiver) : ParamDecl where
  names := r.name.toList
  type := if r.pointer then .pointer (.name r.typeName) else .name r.typeName

lemma Receiver.text_eq (r : Receiver) : r.text = Signature.listText [r.param] := by
  have htype : r.param.type.text = (if r.pointer then "*" else "") ++ r.typeName := by
    unfold Receiver.param
    cases r.pointer <;> simp [TypeExpr.text]
  have hparam : r.param.text = namesBefore r.name.toList r.param.type.text := rfl
  simp [Receiver.text, Signature.listText, hparam, htype]

lemma Receiver.Written.param {r : Receiver} (h : r.Written) : r.param.Written := by
  have htype : r.param.type.Plain := by
    unfold Receiver.param
    split
    · exact .pointer (.nominal (.name h.typeName))
    · exact .nominal (.name h.typeName)
  exact .plain (by simpa [Receiver.param] using h.name) htype

/-- A declaration that can be written. -/
def Declaration.Written : Declaration → Prop
  | struct d => IsName d.name ∧ ∀ f ∈ d.fields, f.Written
  | interface d => IsName d.name ∧ ∀ m ∈ d.methods, m.Written
  | method d => d.receiver.Written ∧ IsName d.name ∧ d.signature.Written
  | function d => IsName d.name ∧ d.signature.Written

/-- The rows of a type declaration whose body has the given rows. -/
def typeRows (name word : String) (rows : List (List Lexeme)) : List (List Lexeme) :=
  [.keyword "type", .name name, .keyword word, .symbol "\x7b"] :: rows ++ [[.symbol "\x7d"]]

/-- The row of an empty body. -/
def emptyBody : List Lexeme := [.symbol "\x7b", .symbol "\x7d"]

/-- The rows of a declaration. -/
def Declaration.rows : Declaration → List (List Lexeme)
  | struct d => typeRows d.name "struct" (d.fields.map (·.lexemes))
  | interface d => typeRows d.name "interface" (d.methods.map (·.lexemes))
  | method d => [.keyword "func" :: (Signature.listLexemes [d.receiver.param] ++
      .name d.name :: d.signature.lexemes ++ emptyBody)]
  | function d => [.keyword "func" :: .name d.name :: d.signature.lexemes ++ emptyBody]

/-- Each line of the block spells a row. -/
def SpellsRows (b : Block) (rows : List (List Lexeme)) : Prop :=
  List.Forall₂ (fun l row => Spells l.text row endsWord) b rows

lemma spellsRows_map {α : Type} {items : List α} {text : α → String} {row : α → List Lexeme}
    (h : ∀ x ∈ items, Spells (text x) (row x) endsWord) :
    SpellsRows (.ofTexts (items.map text)) (items.map row) := by
  unfold SpellsRows Block.ofTexts
  rw [List.map_map, List.forall₂_map_left_iff, List.forall₂_map_right_iff, List.forall₂_same]
  exact h

lemma SpellsRows.indent {b : Block} {rows : List (List Lexeme)} (h : SpellsRows b rows) :
    SpellsRows b.indent rows :=
  List.forall₂_map_left_iff.mpr h

lemma SpellsRows.flatMap {α : Type} {items : List α} {block : α → Block}
    {rows : α → List (List Lexeme)} (h : ∀ x ∈ items, SpellsRows (block x) (rows x)) :
    SpellsRows (items.flatMap block) (items.flatMap rows) := by
  induction items with
  | nil => exact .nil
  | cons x items ih =>
    obtain ⟨hx, hitems⟩ := List.forall_mem_cons.mp h
    exact List.rel_append hx (ih hitems)

/-- A word and a space before what is spelled. -/
lemma spells_word_space {word text : String} {l : Lexeme} {row : List Lexeme} {border : Char → Prop}
    (hword : Spells word [l] endsWord) (h : Spells text row border) :
    Spells (word ++ " " ++ text) (l :: row) border := by
  have hopens : Opens (" " ++ text) endsWord := Opens.append ⟨' ', [], by decide, by decide⟩ text
  have hall := hword.append (Spells.space.before h) hopens
  rwa [← String.append_assoc] at hall

/-- The header of a type declaration. -/
lemma spells_typeHeader {name word : String} (hname : IsName name) (hword : word ∈ keywords) :
    Spells ("type " ++ name ++ (" " ++ word ++ " \x7b"))
      [.keyword "type", .name name, .keyword word, .symbol "\x7b"] endsWord := by
  have hbrace : Spells "\x7b" [.symbol "\x7b"] endsWord :=
    (Spells.sole (by decide)).mono fun _ _ => trivial
  have htype : Spells "type" [.keyword "type"] endsWord := .keyword (by decide)
  have hall := spells_word_space htype
    (spells_word_space (.name hname) (spells_word_space (.keyword hword) hbrace))
  have htext : "type" ++ " " ++ (name ++ " " ++ (word ++ " " ++ "\x7b")) =
      "type " ++ name ++ (" " ++ word ++ " \x7b") := by
    rw [← String.toList_inj]
    simp
  rwa [htext] at hall

lemma spellsRows_typeRows {header name word : String} (hname : IsName name) (hword : word ∈ keywords)
    (hheader : header = "type " ++ name ++ (" " ++ word ++ " \x7b")) {b : Block}
    {rows : List (List Lexeme)} (h : SpellsRows b rows) :
    SpellsRows (.braces header b) (typeRows name word rows) := by
  have hclose : Spells "\x7d" [.symbol "\x7d"] endsWord :=
    (Spells.sole (by decide)).mono fun _ _ => trivial
  refine .cons (hheader ▸ spells_typeHeader hname hword) ?_
  exact List.rel_append h.indent (.cons hclose .nil)

/-- A header with an empty body. -/
lemma spells_emptyBody {header : String} {row : List Lexeme} (h : Spells header row endsWord) :
    Spells (header ++ " \x7b\x7d") (row ++ emptyBody) endsWord := by
  have hbraces : Spells (" " ++ ("\x7b" ++ "\x7d")) emptyBody endsWord :=
    Spells.space.before ((Spells.sole (by decide)).before ((Spells.sole (by decide)).mono
      fun _ _ => trivial))
  exact h.append hbraces ⟨' ', ['\x7b', '\x7d'], by decide, by decide⟩

/-- A name with parameters and results. -/
lemma spells_named {name : String} (hname : IsName name) {s : Signature} (hs : s.Written) :
    Spells (name ++ s.text) (.name name :: s.lexemes) endsWord :=
  (Spells.name hname).append hs.spells s.opens_text

lemma Declaration.Written.spells {d : Declaration} (h : d.Written) : SpellsRows d.block d.rows := by
  have hfunc : Spells "func" [.keyword "func"] endsWord := .keyword (by decide)
  cases d with
  | struct d =>
    have hword : "struct" ∈ keywords := by decide
    exact spellsRows_typeRows h.1 hword rfl (spellsRows_map fun f hf => (h.2 f hf).spells)
  | interface d =>
    have hword : "interface" ∈ keywords := by decide
    exact spellsRows_typeRows h.1 hword rfl (spellsRows_map fun m hm => (h.2 m hm).spells)
  | method d =>
    obtain ⟨hreceiver, hname, hsignature⟩ := h
    have hlist : Spells d.receiver.text (Signature.listLexemes [d.receiver.param]) anyChar := by
      rw [Receiver.text_eq]
      exact Signature.spells_listText (by simpa using hreceiver.param)
    have hnamed := Spells.space.before (spells_named hname hsignature)
    have hheader := spells_word_space hfunc (hlist.before hnamed)
    have htext : "func" ++ " " ++ (d.receiver.text ++ (" " ++ (d.name ++ d.signature.text))) =
        "func " ++ d.receiver.text ++ " " ++ d.name ++ d.signature.text := by
      rw [← String.toList_inj]
      simp
    rw [htext] at hheader
    have hline := spells_emptyBody hheader
    exact .cons (by simpa using hline) .nil
  | function d =>
    have hheader := spells_word_space hfunc (spells_named h.1 h.2)
    have htext : "func" ++ " " ++ (d.name ++ d.signature.text) =
        "func " ++ d.name ++ d.signature.text := by
      rw [← String.toList_inj]
      simp
    rw [htext] at hheader
    have hline := spells_emptyBody hheader
    exact .cons (by simpa using hline) .nil

/-! ## Files -/

/-- A file that can be written. -/
structure SourceFile.Written (f : SourceFile) : Prop where
  package : IsName f.package
  declarations : ∀ d ∈ f.declarations, d.Written

/-- The rows of a file. -/
def SourceFile.rows (f : SourceFile) : List (List Lexeme) :=
  [.keyword "package", .name f.package] :: f.declarations.flatMap (·.rows)

/-- The package clause. -/
lemma spells_clause {package : String} (h : IsName package) :
    Spells ("package " ++ package) [.keyword "package", .name package] endsWord := by
  have hpackage : Spells "package" [.keyword "package"] endsWord := .keyword (by decide)
  have hclause := spells_word_space hpackage (.name h)
  have htext : "package" ++ " " ++ package = "package " ++ package := by
    rw [← String.toList_inj]
    simp
  rwa [htext] at hclause

/-- The text of a package clause and of blocks below it is cut into the rows of their lines. -/
theorem marks?_file {package : String} (hpackage : IsName package) {ds : List Declaration}
    {block : Declaration → Block} {rows : Declaration → List (List Lexeme)}
    (h : ∀ d ∈ ds, SpellsRows (block d) (rows d)) :
    Lexer.marks? false (Block.render (.ofTexts ["package " ++ package] ++ ds.flatMap block)).toList =
      some (onLines false ([.keyword "package", .name package] :: ds.flatMap rows) ++
        [(.finish, true)]) := by
  have hrows : SpellsRows (.ofTexts ["package " ++ package] ++ ds.flatMap block)
      ([.keyword "package", .name package] :: ds.flatMap rows) :=
    .cons (spells_clause hpackage) (SpellsRows.flatMap h)
  have hmarks := marks?_render hrows false
  rwa [Bool.false_or, List.isEmpty_cons, Bool.not_false] at hmarks

/-- The text of a file is cut into the rows of its lines. -/
theorem SourceFile.Written.marks? {f : SourceFile} (h : f.Written) :
    Lexer.marks? false f.text.toList = some (onLines false f.rows ++ [(.finish, true)]) :=
  marks?_file h.package fun d hd => (h.declarations d hd).spells

end DeclGen
