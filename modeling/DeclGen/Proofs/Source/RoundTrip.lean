import DeclGen.Proofs.Source.Declared

/-!
# Files that were written are read back

A declaration file that can be written is what is read from its text (`SourceFile.parse_text`). Only the
lexemes and the line breaks of the text matter, so that a file may also be laid out differently
(`SourceFile.parse_of_marks?`).
-/

namespace DeclGen

open Source

namespace Source

open Reader Signature

/-! ## Fields -/

lemma unquote_raw (tag : String) : unquote ("\x60" ++ tag ++ "\x60") = tag := by
  have hlist : ("\x60" ++ tag ++ "\x60").toList = '\x60' :: (tag.toList ++ ['\x60']) := by simp
  simp [unquote, hlist]

/-- A field begins as what may stand behind an embedded field. -/
lemma exists_lexemes_fieldType {names : List String} {e : TypeExpr} (h : FieldDecl.WrittenType names e) :
    ∃ l row, nameRow names ++ e.lexemes = l :: row ∧ Grammar.opensField l := by
  cases h with
  | named hsome _ _ =>
    obtain ⟨n, ns, rfl⟩ := List.exists_cons_of_ne_nil hsome
    exact ⟨.name n, _, by rw [nameRow, List.map_cons, commas_cons]; rfl, .inl ⟨n, rfl⟩⟩
  | embedded h =>
    obtain ⟨id, row, hrow⟩ := exists_lexemes_nominal h
    exact ⟨.name id, row, hrow, .inl ⟨id, rfl⟩⟩
  | embeddedPointer h => exact ⟨.symbol "*", _, rfl, .inr (.inl rfl)⟩

/-- The row of names and their type. -/
lemma laidOut_fieldType {names : List String} {e : TypeExpr} (h : FieldDecl.WrittenType names e)
    {s : List Token} (hs : s.map Token.mark = onOneLine true (nameRow names ++ e.lexemes)) :
    FieldTerm.TypeLaidOut names e.term s ∧ Begins (·.2 = true) s := by
  obtain ⟨l, row, hrow, -⟩ := exists_lexemes_fieldType h
  have hline : Begins (·.2 = true) s := by
    rw [hrow] at hs
    obtain ⟨u, s, rfl, hu, -⟩ := List.map_eq_cons_iff.mp hs
    exact ⟨u, s, rfl, congrArg Prod.snd hu⟩
  refine ⟨?_, hline⟩
  cases h with
  | @named names e hsome _ h =>
    have hnames : (nameRow names).isEmpty = false := by
      obtain ⟨n, ns, rfl⟩ := List.exists_cons_of_ne_nil hsome
      rw [nameRow, List.map_cons, commas_cons]
      rfl
    rw [onOneLine_append, stillNew, hnames, Bool.and_false, onOneLine_false] at hs
    obtain ⟨front, s, rfl, hfront, hs⟩ := List.map_eq_append_iff.mp hs
    exact .named hsome hfront ((begins_type h hs).mono fun _ hm => hm.1) (laidOut_type h hs)
  | embedded h => exact .embedded (isNamed_term h) (laidOut_nominal h hs)
  | embeddedPointer h =>
    obtain ⟨u, s, rfl, hu, hs⟩ := List.map_eq_cons_iff.mp hs
    exact .embeddedPointer (congrArg Prod.fst hu) (isNamed_term h)
      (laidOut_nominal h (hs.trans (onOneLine_false _).symm))

/-- The names and the type of a field are read back. -/
lemma reads_fieldType {names : List String} {e : TypeExpr} (h : FieldDecl.WrittenType names e) :
    Reads fieldType (onOneLine true (nameRow names ++ e.lexemes)) (names, e.term) endsFieldType :=
  reads_of_takes fun _ hs => (laidOut_fieldType h hs).1.takes

/-- The row of fields, with a string literal behind their type. -/
lemma laidOut_field {names : List String} {e : TypeExpr} (h : FieldDecl.WrittenType names e)
    {tag : Option String} {s : List Token} (hs : s.map Token.mark =
      onOneLine true (nameRow names ++ e.lexemes ++ tag.toList.map .text)) :
    (FieldTerm.mk names e.term tag).LaidOut s := by
  obtain ⟨l, row, hrow, -⟩ := exists_lexemes_fieldType h
  have hstill : stillNew true (nameRow names ++ e.lexemes) = false := by
    rw [hrow]
    rfl
  rw [onOneLine_append, hstill, onOneLine_false] at hs
  obtain ⟨front, back, rfl, hfront, hback⟩ := List.map_eq_append_iff.mp hs
  obtain ⟨htype, hline⟩ := laidOut_fieldType h hfront
  exact .written hline htype hback

end Source

/-- The fields as they are written, their tag in a raw literal. -/
def FieldDecl.term (f : FieldDecl) : FieldTerm where
  names := f.names
  type := f.type.term
  tag := f.tag.map fun tag => "\x60" ++ tag ++ "\x60"

lemma FieldDecl.Written.decl_term {f : FieldDecl} (h : f.Written) : f.term.decl = f := by
  have hunquote : (unquote ∘ fun tag => "\x60" ++ tag ++ "\x60") = id := funext unquote_raw
  simp [term, FieldTerm.decl, h.type.plain.2.expr_term, hunquote]

lemma FieldDecl.Written.laidOut {f : FieldDecl} (h : f.Written) {s : List Token}
    (hs : s.map Token.mark = onOneLine true f.lexemes) : f.term.LaidOut s := by
  have hrow : f.lexemes = nameRow f.names ++ f.type.lexemes ++ f.term.tag.toList.map .text := by
    unfold lexemes tagLexemes term
    cases f.tag <;> rfl
  exact laidOut_field h.type (hs.trans (congrArg (onOneLine true) hrow))

/-- The method as it is written. -/
def MethodSpec.term (m : MethodSpec) : MethodTerm := ⟨m.name, m.signature.term⟩

lemma MethodSpec.Written.decl_term {m : MethodSpec} (h : m.Written) : m.term.decl = m := by
  rw [term, MethodTerm.decl, h.signature.decl_term]

lemma MethodSpec.Written.laidOut {m : MethodSpec} (h : m.Written) {s : List Token}
    (hs : s.map Token.mark = onOneLine true m.lexemes) : ElementLaidOut (some m.term) s := by
  obtain ⟨u, s, rfl, hu, hs⟩ := List.map_eq_cons_iff.mp hs
  have hsignature := h.signature.laidOut hs
  obtain ⟨v, tail, rfl, -⟩ := hsignature.opens
  obtain ⟨hv, -⟩ := List.cons.inj hs
  exact .method hu ⟨v, tail, rfl, congrArg Prod.snd hv⟩ hsignature

namespace Source

/-! ## Records -/

/-- The mark of the brace that closes a body of lines. -/
def closingBrace : Mark := (.symbol "\x7d", true)

/-- The marks of lines between braces. -/
def bodyMarks (rows : List (List Lexeme)) : List Mark :=
  (.symbol "\x7b", false) :: (rows.flatMap (onOneLine true) ++ [closingBrace])

lemma onLines_typeRows (name word : String) (rows : List (List Lexeme)) :
    onLines true (typeRows name word rows) =
      (.keyword "type", true) :: (.name name, false) :: (.keyword word, false) :: bodyMarks rows := by
  rw [onLines_true, typeRows]
  simp [onOneLine, bodyMarks, closingBrace]

/-- Lines between braces are cut at their ends. -/
lemma exists_lines {rows : List (List Lexeme)} {name word : String} {tokens : List Token}
    (h : tokens.map Token.mark = onLines true (typeRows name word rows)) :
    ∃ t u v w s x, tokens = t :: u :: v :: w :: (s ++ [x]) ∧ t.lexeme = .keyword "type" ∧
      u.lexeme = .name name ∧ v.lexeme = .keyword word ∧ w.lexeme = .symbol "\x7b" ∧
      s.map Token.mark = rows.flatMap (onOneLine true) ∧ x.mark = closingBrace := by
  rw [onLines_typeRows] at h
  obtain ⟨t, tokens, rfl, ht, h⟩ := List.map_eq_cons_iff.mp h
  obtain ⟨u, tokens, rfl, hu, h⟩ := List.map_eq_cons_iff.mp h
  obtain ⟨v, tokens, rfl, hv, h⟩ := List.map_eq_cons_iff.mp h
  obtain ⟨w, tokens, rfl, hw, h⟩ := List.map_eq_cons_iff.mp h
  obtain ⟨s, back, rfl, hs, hback⟩ := List.map_eq_append_iff.mp h
  obtain ⟨x, rfl, hx⟩ := List.map_eq_singleton_iff.mp hback
  exact ⟨t, u, v, w, s, x, rfl, congrArg Prod.fst ht, congrArg Prod.fst hu, congrArg Prod.fst hv,
    congrArg Prod.fst hw, hs, hx⟩

/-- The rows of a record: its fields on lines between braces. -/
lemma laidOut_record {α : Type} {items : List α} {row : α → List Lexeme} {term : α → FieldTerm}
    {name : String} (h : ∀ x ∈ items, ∀ s : List Token, s.map Token.mark = onOneLine true (row x) →
      (term x).LaidOut s) {tokens : List Token}
    (htokens : tokens.map Token.mark = onLines true (typeRows name "struct" (items.map row))) :
    (PartTerm.types [.struct name (items.map term)]).LaidOut tokens := by
  obtain ⟨t, u, v, w, s, x, rfl, ht, hu, hv, hw, hs, hx⟩ := exists_lines htokens
  rw [List.flatMap_map] at hs
  exact .struct ht hu hv hw (inTurn_of_flatMap h hs) (congrArg Prod.fst hx) fun _ => congrArg Prod.snd hx

end Source

/-! ## Declarations -/

/-- The part of a file that is a declaration. -/
def declared (d : Declaration) : Part := { declarations := [d] }

namespace Declaration

/-- The declaration as it is written. -/
def term : Declaration → PartTerm
  | struct d => .types [.struct d.name (d.fields.map (·.term))]
  | interface d => .types [.interface d.name (d.methods.map (some ·.term))]
  | method d => .method [d.receiver.param.group] ⟨d.name, d.signature.term⟩
  | function d => .function ⟨d.name, d.signature.term⟩

lemma receiver?_group (r : Receiver) : receiver? [r.param.group] = some r := by
  obtain ⟨name, typeName, pointer⟩ := r
  cases pointer <;> cases name <;> rfl

/-- A declaration adds itself to its file. -/
lemma Written.part_term {d : Declaration} (h : d.Written) : d.term.part = declared d := by
  cases d with
  | struct d =>
    have hfields : (d.fields.map (·.term)).map (·.decl) = d.fields := by
      rw [List.map_map]
      exact (List.map_congr_left fun f hf => (h.2 f hf).decl_term).trans (List.map_id _)
    simp [term, PartTerm.part, SpecTerm.declarations, hfields, declared]
  | interface d =>
    have hmethods : (d.methods.map (some ·.term)).filterMap (·.map (·.decl)) = d.methods := by
      have hall : (d.methods.map (some ·.term)).filterMap (·.map (·.decl)) =
          d.methods.map (·.term.decl) := by
        rw [List.filterMap_map]
        exact congrFun List.filterMap_eq_map d.methods
      rw [hall]
      exact (List.map_congr_left fun m hm => (h.2 m hm).decl_term).trans (List.map_id _)
    simp [term, PartTerm.part, SpecTerm.declarations, hmethods, declared]
  | method d =>
    rw [term, PartTerm.part, receiver?_group]
    simp [declared, h.2.2.decl_term]
  | function d =>
    simp [term, PartTerm.part, h.2.decl_term, declared]

/-- The row of a header with an empty body. -/
lemma exists_header {g : Signature} (h : g.Written) {tokens : List Token}
    (htokens : tokens.map Token.mark = inLine (g.lexemes ++ emptyBody)) :
    ∃ s back, tokens = s ++ back ∧ g.term.LaidOut s ∧ BodyLaidOut back := by
  rw [inLine_append] at htokens
  obtain ⟨s, back, rfl, hs, hback⟩ := List.map_eq_append_iff.mp htokens
  obtain ⟨t, back, rfl, ht, hback⟩ := List.map_eq_cons_iff.mp hback
  obtain ⟨u, rfl, hu⟩ := List.map_eq_singleton_iff.mp hback
  exact ⟨s, [t, u], rfl, h.laidOut hs, bodyLaidOut_empty ht (congrArg Prod.fst hu)⟩

/-- The rows of a declaration are rows of the part that it is. -/
lemma Written.laidOut {d : Declaration} (h : d.Written) {tokens : List Token}
    (htokens : tokens.map Token.mark = onLines true d.rows) : d.term.LaidOut tokens := by
  cases d with
  | struct d => exact laidOut_record (fun f hf s hs => (h.2 f hf).laidOut hs) htokens
  | interface d =>
    obtain ⟨t, u, v, w, s, x, rfl, ht, hu, hv, hw, hs, hx⟩ := exists_lines htokens
    rw [List.flatMap_map] at hs
    exact .interface ht hu hv hw (inTurn_of_flatMap (fun m hm s hs => (h.2 m hm).laidOut hs) hs)
      (congrArg Prod.fst hx) fun _ => congrArg Prod.snd hx
  | method d =>
    obtain ⟨hreceiver, -, hsignature⟩ := h
    have hmarks : onLines true (Declaration.method d).rows = (.keyword "func", true) ::
        (inLine (Signature.listLexemes [d.receiver.param]) ++
          (.name d.name, false) :: inLine (d.signature.lexemes ++ emptyBody)) := by
      simp [Declaration.rows, onLines, onOneLine, inLine]
    have hlist : Signature.WrittenList [d.receiver.param] := by
      refine ⟨by simpa using hreceiver.param, ?_⟩
      by_cases hnone : d.receiver.param.names = []
      · exact .inl (by simpa using hnone)
      · exact .inr (by simpa using hnone)
    rw [hmarks] at htokens
    obtain ⟨t, tokens, rfl, ht, htail⟩ := List.map_eq_cons_iff.mp htokens
    obtain ⟨front, tokens, rfl, hfront, hback⟩ := List.map_eq_append_iff.mp htail
    obtain ⟨u, tokens, rfl, hu, hheader⟩ := List.map_eq_cons_iff.mp hback
    obtain ⟨s, back, rfl, hs, hbody⟩ := exists_header hsignature hheader
    exact .method (congrArg Prod.fst ht) (laidOut_list hlist (hfront.trans (onOneLine_false _).symm))
      (congrArg Prod.fst hu) hs hbody
  | function d =>
    have hmarks : onLines true (Declaration.function d).rows = (.keyword "func", true) ::
        (.name d.name, false) :: inLine (d.signature.lexemes ++ emptyBody) := by
      simp [Declaration.rows, onLines, onOneLine, inLine]
    rw [hmarks] at htokens
    obtain ⟨t, tokens, rfl, ht, htail⟩ := List.map_eq_cons_iff.mp htokens
    obtain ⟨u, tokens, rfl, hu, hheader⟩ := List.map_eq_cons_iff.mp htail
    obtain ⟨s, back, rfl, hs, hbody⟩ := exists_header h.2 hheader
    exact .function (congrArg Prod.fst ht) (congrArg Prod.fst hu) hs hbody

end Declaration

namespace Source

/-! ## Files -/

/-- Every declaration begins on a line of its own. -/
lemma exists_marks_declaration (d : Declaration) :
    ∃ w tail, onLines true d.rows = w :: tail ∧ w.2 = true := by
  cases d <;> exact ⟨_, _, rfl, rfl⟩

/-- The marks of a file: those of the package clause, and of the declarations. -/
lemma onLines_file (package : String) (ds : List Declaration) (rows : Declaration → List (List Lexeme)) :
    onLines false ([.keyword "package", .name package] :: ds.flatMap rows) =
      [(.keyword "package", false), (.name package, false)] ++
        ds.flatMap fun d => onLines true (rows d) := by
  rw [onLines, onLines_true, List.flatMap_assoc]
  simp only [onLines_true]
  rfl

/-- A text with the marks of a package clause, and of declarations that are laid out as parts of a file, is
read as the file of these declarations. -/
theorem parse_of_laidOut [ErrorRecovery] {package : String} {ds : List Declaration}
    {rows : Declaration → List (List Lexeme)} {term : Declaration → PartTerm}
    (h : ∀ d ∈ ds, ∀ s : List Token, s.map Token.mark = onLines true (rows d) → (term d).LaidOut s)
    (hterm : ∀ d ∈ ds, (term d).part = declared d)
    (hlead : ∀ d ∈ ds, ∃ w tail, onLines true (rows d) = w :: tail ∧ w.2 = true) {source : String}
    (hmarks : Lexer.marks? false source.toList =
      some (onLines false ([.keyword "package", .name package] :: ds.flatMap rows) ++
        [(.finish, true)])) :
    SourceFile.parse source = .ok ⟨package, ds⟩ := by
  obtain ⟨tokens, htokens, hmarked⟩ := exists_tokens?_of_marks? hmarks
  rw [onLines_file] at hmarked
  obtain ⟨front, back, rfl, hfront, hback⟩ := List.map_eq_append_iff.mp hmarked
  obtain ⟨t, rfl, ht⟩ := List.map_eq_singleton_iff.mp hback
  obtain ⟨s, rest, rfl, hs, hrest⟩ := List.map_eq_append_iff.mp hfront
  obtain ⟨u, s, rfl, hu, hs⟩ := List.map_eq_cons_iff.mp hs
  obtain ⟨v, rfl, hv⟩ := List.map_eq_singleton_iff.mp hs
  have hclause : (PartTerm.clause package).LaidOut [u, v] :=
    .other (PartTerm.takes_clause (congrArg Prod.fst hu) (congrArg Prod.fst hv))
  have hdeclaration : ∀ d ∈ ds, ∀ s : List Token, s.map Token.mark = onLines true (rows d) →
      Begins (·.2 = true) s ∧ (term d).LaidOut s := by
    intro d hd s hs
    refine ⟨?_, h d hd s hs⟩
    obtain ⟨w, tail, hrow, hw⟩ := hlead d hd
    rw [hrow] at hs
    obtain ⟨x, s, rfl, hx, -⟩ := List.map_eq_cons_iff.mp hs
    exact ⟨x, s, rfl, by rwa [hx]⟩
  have hfile := FileLaidOut.parts hclause (inTurn_of_flatMap hdeclaration hrest) ht
  have hparts : (ds.map term).map (·.part) = ds.map declared := by
    rw [List.map_map]
    exact List.map_congr_left hterm
  have hpackage : (ds.map declared).filterMap (·.package) = [] := by
    simp [declared, Function.comp_def]
  have hdeclarations : (ds.map declared).flatMap (·.declarations) = ds := by
    simp [declared, List.flatMap_map]
  rw [SourceFile.parse_eq, hfile.trees?_eq htokens]
  show fileOf ((PartTerm.clause package).part :: (ds.map term).map (·.part)) = _
  rw [hparts]
  simp [fileOf, PartTerm.part, hpackage, hdeclarations]

end Source

namespace SourceFile

/-- A text with the marks of a file that can be written is read as that file, whatever else stands between
its lexemes. -/
theorem parse_of_marks? [ErrorRecovery] {f : SourceFile} (h : f.Written) {source : String}
    (hmarks : Lexer.marks? false source.toList = some (onLines false f.rows ++ [(.finish, true)])) :
    parse source = .ok f :=
  parse_of_laidOut (fun d hd _ hs => (h.declarations d hd).laidOut hs)
    (fun d hd => (h.declarations d hd).part_term) (fun d _ => exists_marks_declaration d) hmarks

/-- A file that can be written is read back from its text. -/
theorem parse_text [ErrorRecovery] {f : SourceFile} (h : f.Written) : parse f.text = .ok f :=
  parse_of_marks? h h.marks?

/-! A ledger with each kind of declaration, and a record whose tag holds a NUL. -/

/-- A record with named, embedded and tagged fields. -/
def accountRecord : StructDecl where
  name := "Account"
  fields := [⟨["ID", "Owner"], .name "string", some "db:\"id\""⟩,
    ⟨[], .qualified (.name "audit") "Trail", none⟩, ⟨[], .pointer (.name "Base"), none⟩]

/-- The signature of a look-up: a named parameter, a variadic one, and two results. -/
def lookUp : Signature where
  params := [⟨["key"], .name "string"⟩, ⟨["more"], .variadic (.slice .openType)⟩]
  results := [⟨[], .pointer (.name "Account")⟩, ⟨[], .name "error"⟩]

/-- A file with a record, an interface, a method and a function. -/
def ledger : SourceFile where
  package := "ledger"
  declarations := [.struct accountRecord, .interface ⟨"Store", [⟨"Find", lookUp⟩]⟩,
    .method ⟨⟨some "a", "Account", true⟩, "Load", lookUp⟩,
    .function ⟨"Open", ⟨[⟨[], .name "int"⟩], [⟨[], .name "error"⟩]⟩⟩]

/-- The file that is read back holds what was written: names, types, tags and their order. -/
theorem parse_ledger : ledger.Written ∧ parse ledger.text = .ok ledger := by
  have hname : ∀ {id : String}, IsName id → (TypeExpr.name id).Plain := fun h => .nominal (.name h)
  have hfields : ∀ f ∈ accountRecord.fields, f.Written := by
    simp only [accountRecord, List.forall_mem_cons, List.not_mem_nil, false_implies, implies_true,
      and_true]
    exact ⟨⟨.named (by decide) (by decide) (hname (by decide)), by simp⟩,
      ⟨.embedded (.selection (by decide) (by decide)), by decide⟩,
      ⟨.embeddedPointer (.name (by decide)), by decide⟩⟩
  have hlookUp : lookUp.Written := by
    refine ⟨⟨?_, .inr (by decide)⟩, ⟨?_, .inl (by decide)⟩⟩ <;>
      simp only [lookUp, List.forall_mem_cons, List.not_mem_nil, false_implies, implies_true, and_true]
    · exact ⟨.plain (by decide) (hname (by decide)),
        .variadic (by decide) (by decide) (.slice .openType)⟩
    · exact ⟨.plain (by decide) (.pointer (hname (by decide))), .plain (by decide) (hname (by decide))⟩
  have hopen : (⟨[⟨[], .name "int"⟩], [⟨[], .name "error"⟩]⟩ : Signature).Written := by
    refine ⟨⟨?_, .inl (by decide)⟩, ⟨?_, .inl (by decide)⟩⟩ <;>
      simp only [List.forall_mem_cons, List.not_mem_nil, false_implies, implies_true, and_true]
    · exact .plain (by decide) (hname (by decide))
    · exact .plain (by decide) (hname (by decide))
  have hledger : ledger.Written := by
    refine ⟨by decide, ?_⟩
    simp only [ledger, List.forall_mem_cons, List.not_mem_nil, false_implies, implies_true, and_true]
    exact ⟨⟨by decide, hfields⟩, ⟨by decide, by simpa using ⟨by decide, hlookUp⟩⟩,
      ⟨⟨by decide, by decide⟩, by decide, hlookUp⟩, ⟨by decide, hopen⟩⟩
  exact ⟨hledger, parse_text hledger⟩

/-- A record whose tag holds a NUL. -/
def nulRecord : StructDecl := ⟨"A", [⟨["B"], .name "int", some "a\x00b"⟩]⟩

/-- The tag holds no back quote, and all else of the record can be written, but the text is not read: a
NUL cannot stand in a raw string. -/
theorem parse_nulRecord : IsName "p" ∧ IsName nulRecord.name ∧
    (∀ f ∈ nulRecord.fields, FieldDecl.WrittenType f.names f.type ∧
      ∀ tag ∈ f.tag, '\x60' ∉ tag.toList) ∧
    parse (SourceFile.text ⟨"p", [.struct nulRecord]⟩) =
      .error (.ofText (SourceFile.text ⟨"p", [.struct nulRecord]⟩)) := by
  have htokens : tokens? (SourceFile.text ⟨"p", [.struct nulRecord]⟩) = none := by decide
  refine ⟨by decide, by decide, ?_, by rw [parse, htokens]; rfl⟩
  simp only [nulRecord, List.forall_mem_cons, List.not_mem_nil, false_implies, implies_true, and_true]
  exact ⟨.named (by decide) (by decide) (.nominal (.name (by decide))), by decide⟩

end SourceFile

end DeclGen
