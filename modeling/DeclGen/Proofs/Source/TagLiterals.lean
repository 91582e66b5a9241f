import DeclGen.Proofs.Source.RoundTrip

/-!
# Tags in either kind of string literal

A tag is written as a raw string, or as an interpreted one with a backslash before every backslash and
every quote. Undoing the escapes takes two replacements, one after the other. After the first one only
the backslashes are still doubled, since no escaped text begins with a quote that a backslash before it
could take; the second one halves them. So a tag is read back from either literal (`tag_of_literal`), and
a file is the same whichever of them its fields have.
-/

namespace DeclGen

open Source Text

namespace Source

open Lexer

/-- A character as it stands between quotes. -/
def escape (c : Char) : List Char :=
  if c = '\\' then ['\\', '\\'] else if c = '"' then ['\\', '"'] else [c]

/-- A character with only the backslash doubled. -/
def double (c : Char) : List Char := if c = '\\' then ['\\', '\\'] else [c]

/-- The kinds of string literals. -/
inductive Quotation
  | raw
  | interpreted

/-- The literal of a text: the text between back quotes, or its escaped form between quotes. -/
def Quotation.literal : Quotation → String → String
  | raw, s => "\x60" ++ s ++ "\x60"
  | interpreted, s => "\"" ++ String.ofList (s.toList.flatMap escape) ++ "\""

/-- The characters that such a literal can hold. A raw string has no escapes; an interpreted one ends
on its line. -/
def Quotation.Holds : Quotation → Char → Prop
  | raw, c => c ≠ '\x60' ∧ c ≠ '\x00'
  | interpreted, c => c ≠ '\n' ∧ c ≠ '\x00'

lemma escape_backslash : escape '\\' = ['\\', '\\'] := rfl

lemma escape_quote : escape '"' = ['\\', '"'] := rfl

lemma escape_other {c : Char} (hbackslash : c ≠ '\\') (hquote : c ≠ '"') : escape c = [c] := by
  rw [escape, if_neg hbackslash, if_neg hquote]

/-! ## Undoing the escapes -/

lemma unescapeQuotes_cons {c : Char} {rest : List Char} (h : c = '\\' → rest.head? ≠ some '"') :
    unescapeQuotes (c :: rest) = c :: unescapeQuotes rest := by
  rw [unescapeQuotes]
  rintro tail rfl rfl
  exact h rfl rfl

lemma unescapeBackslashes_cons {c : Char} (h : c ≠ '\\') (rest : List Char) :
    unescapeBackslashes (c :: rest) = c :: unescapeBackslashes rest := by
  rw [unescapeBackslashes]
  rintro tail rfl
  exact absurd rfl h

/-- Where an escaped text begins with a quote, a backslash stands before it. -/
lemma head?_escaped (s : List Char) : (s.flatMap escape).head? ≠ some '"' := by
  cases s with
  | nil => simp
  | cons c s =>
    by_cases hbackslash : c = '\\'
    · simp [hbackslash, escape_backslash]
    by_cases hquote : c = '"'
    · simp [hquote, escape_quote]
    simpa [escape_other hbackslash hquote] using hquote

/-- The first replacement leaves the backslashes doubled. -/
lemma unescapeQuotes_escaped (s : List Char) :
    unescapeQuotes (s.flatMap escape) = s.flatMap double := by
  induction s with
  | nil => rfl
  | cons c s ih =>
    rw [List.flatMap_cons, List.flatMap_cons]
    by_cases hbackslash : c = '\\'
    · -- behind the pair the rest begins with no quote that its second backslash could take
      subst hbackslash
      have hfirst : unescapeQuotes ('\\' :: '\\' :: s.flatMap escape) =
          '\\' :: unescapeQuotes ('\\' :: s.flatMap escape) :=
        unescapeQuotes_cons fun _ => by simp
      have hsecond := unescapeQuotes_cons (c := '\\') fun _ => head?_escaped s
      rw [hsecond, ih] at hfirst
      exact hfirst
    have hdouble : double c = [c] := if_neg hbackslash
    by_cases hquote : c = '"'
    · subst hquote
      rw [hdouble, ← ih]
      rfl
    · rw [escape_other hbackslash hquote, hdouble, ← ih]
      exact unescapeQuotes_cons fun h => absurd h hbackslash

/-- The second replacement halves the doubled backslashes. -/
lemma unescapeBackslashes_doubled (s : List Char) : unescapeBackslashes (s.flatMap double) = s := by
  induction s with
  | nil => rfl
  | cons c s ih =>
    rw [List.flatMap_cons]
    by_cases hbackslash : c = '\\'
    · subst hbackslash
      exact congrArg ('\\' :: ·) ih
    · rw [double, if_neg hbackslash, List.singleton_append, unescapeBackslashes_cons hbackslash, ih]

lemma unquote_interpreted (s : String) : unquote (Quotation.interpreted.literal s) = s := by
  have hlist : (Quotation.interpreted.literal s).toList =
      '"' :: (s.toList.flatMap escape ++ ['"']) := by
    simp [Quotation.literal]
  rw [unquote, hlist, List.head?_cons, if_neg (by decide), List.drop_succ_cons, List.drop_zero,
    List.dropLast_concat, unescapeQuotes_escaped, unescapeBackslashes_doubled, String.ofList_toList]

/-- Either literal of a text stands for the text. -/
lemma unquote_literal (q : Quotation) (s : String) : unquote (q.literal s) = s := by
  cases q with
  | raw => exact unquote_raw s
  | interpreted => exact unquote_interpreted s

/-! ## Cutting out the literals -/

/-- The lexer goes over an escaped text up to the closing quote. -/
lemma string?_escaped {s : List Char} (h : ∀ c ∈ s, Quotation.interpreted.Holds c) (rest : List Char) :
    string? (s.flatMap escape ++ '"' :: rest) = some (s.flatMap escape ++ ['"']) := by
  induction s with
  | nil => rfl
  | cons c s ih =>
    obtain ⟨⟨hline, hnul⟩, hs⟩ := List.forall_mem_cons.mp h
    rw [List.flatMap_cons]
    by_cases hbackslash : c = '\\'
    · subst hbackslash
      show string? ('\\' :: '\\' :: (s.flatMap escape ++ '"' :: rest)) = _
      rw [string?, ih hs]
      rfl
    by_cases hquote : c = '"'
    · subst hquote
      show string? ('\\' :: '"' :: (s.flatMap escape ++ '"' :: rest)) = _
      rw [string?, ih hs]
      rfl
    rw [escape_other hbackslash hquote]
    show string? (c :: (s.flatMap escape ++ '"' :: rest)) = _
    rw [string?, ih hs]
    · simp [hline, hnul]
    · exact hquote
    · simp [hbackslash]
    · simp [hbackslash]

/-- A text in quotes, unless a line feed or a NUL stands in it. -/
lemma Spells.interpreted {s : String} (h : ∀ c ∈ s.toList, Quotation.interpreted.Holds c) :
    Spells (Quotation.interpreted.literal s) [.text (Quotation.interpreted.literal s)] anyChar := by
  refine lexeme (by simp [Quotation.literal]) fun rest _ => ?_
  have hlist : (Quotation.interpreted.literal s).toList =
      '"' :: (s.toList.flatMap escape ++ ['"']) := by
    simp [Quotation.literal]
  have hback : String.ofList ('"' :: (s.toList.flatMap escape ++ ['"'])) =
      Quotation.interpreted.literal s := by
    rw [← hlist, String.ofList_toList]
  rw [hlist, List.cons_append, List.append_assoc, List.singleton_append]
  show (string? (s.toList.flatMap escape ++ '"' :: rest)).map _ = _
  rw [string?_escaped h, Option.map_some, literal, hback]

lemma Quotation.spells {q : Quotation} {s : String} (h : ∀ c ∈ s.toList, q.Holds c) :
    Spells (q.literal s) [.text (q.literal s)] anyChar := by
  cases q with
  | raw => exact .rawText h
  | interpreted => exact .interpreted h

lemma optional_literal {t : Token} {l : String} (hline : t.newLine = false) (ht : t.lexeme = .text l)
    (rest : List Token) :
    (optional do Reader.sameLine .block; Reader.literal) (t :: rest) = some (some l, rest) := by
  have hsame : Reader.sameLine .block (t :: rest) = some ((), t :: rest) := if_neg (by simp [hline])
  have hliteral : Reader.literal (t :: rest) = some (l, rest) := by
    simp [Reader.literal, Reader.next, ht]
  show (((Reader.sameLine .block (t :: rest)).bind fun x => Reader.literal x.2).bind
    fun x => some (some x.1, x.2)).orElse _ = _
  rw [hsame, Option.bind_some, hliteral]
  rfl

/-- Behind the type of a field, the literal of a tag on the same line is the tag. -/
lemma field_of_literal {q : Quotation} {tokens rest : List Token} {names : List String} {type : TypeTerm}
    {t : Token} {s : String} (htype : fieldType tokens = some ((names, type), t :: rest))
    (hline : t.newLine = false) (ht : t.lexeme = .text (q.literal s)) :
    field tokens = some (⟨names, type.expr, some s⟩, rest) := by
  show (fieldType tokens).bind (fun x =>
    ((optional do Reader.sameLine .block; Reader.literal) x.2).bind fun y =>
      some ((⟨x.1.1, x.1.2.expr, y.1.map unquote⟩ : FieldDecl), y.2)) = _
  rw [htype, Option.bind_some, optional_literal hline ht, Option.bind_some, Option.map_some,
    unquote_literal]

end Source

/-! ## Files with either literal -/

namespace FieldDecl

/-- A group of fields with its tag in the given kind of literal. -/
def textIn (q : Quotation) (f : FieldDecl) : String :=
  namesBefore f.names f.type.text ++ (f.tag.map q.literal).elim "" (" " ++ ·)

/-- The row of such a group. -/
def lexemesIn (q : Quotation) (f : FieldDecl) : List Lexeme :=
  nameRow f.names ++ f.type.lexemes ++ (f.tag.map q.literal).toList.map .text

/-- A group of fields that can be written so. -/
structure WrittenIn (q : Quotation) (f : FieldDecl) : Prop where
  type : WrittenType f.names f.type
  tag : ∀ tag ∈ f.tag, ∀ c ∈ tag.toList, q.Holds c

variable {q : Quotation} {f : FieldDecl}

lemma WrittenIn.spells (h : f.WrittenIn q) : Spells (f.textIn q) (f.lexemesIn q) endsWord := by
  refine spells_literal h.type fun l hl => ?_
  obtain ⟨tag, htag, rfl⟩ := Option.map_eq_some_iff.mp hl
  exact Quotation.spells (h.tag tag htag)

/-- The fields as they are written, their tag in the given kind of literal. -/
def termIn (q : Quotation) (f : FieldDecl) : FieldTerm := ⟨f.names, f.type.term, f.tag.map q.literal⟩

lemma WrittenIn.decl_termIn (h : f.WrittenIn q) : (f.termIn q).decl = f := by
  have hunquote : unquote ∘ q.literal = id := funext (unquote_literal q)
  simp [termIn, FieldTerm.decl, h.type.plain.2.expr_term, hunquote]

end FieldDecl

namespace Declaration

/-- A declaration as it is written, the tag of each group of fields in the kind of literal that `q`
chooses for it. -/
def blockIn (q : FieldDecl → Quotation) : Declaration → Block
  | struct d => Block.braces ("type " ++ d.name ++ " struct \x7b")
      (.ofTexts (d.fields.map fun f => f.textIn (q f)))
  | d => d.block

/-- The rows of such a declaration. -/
def rowsIn (q : FieldDecl → Quotation) : Declaration → List (List Lexeme)
  | struct d => typeRows d.name "struct" (d.fields.map fun f => f.lexemesIn (q f))
  | d => d.rows

/-- A declaration that can be written so. -/
def WrittenIn (q : FieldDecl → Quotation) : Declaration → Prop
  | struct d => IsName d.name ∧ ∀ f ∈ d.fields, f.WrittenIn (q f)
  | d => d.Written

variable {q : FieldDecl → Quotation} {d : Declaration}

lemma WrittenIn.spells (h : d.WrittenIn q) : SpellsRows (d.blockIn q) (d.rowsIn q) := by
  cases d with
  | struct d =>
    have hword : "struct" ∈ keywords := by decide
    exact spellsRows_typeRows h.1 hword rfl (spellsRows_map fun f hf => (h.2 f hf).spells)
  | interface d => exact Written.spells (d := .interface d) h
  | method d => exact Written.spells (d := .method d) h
  | function d => exact Written.spells (d := .function d) h

/-- The declaration as it is written. -/
def termIn (q : FieldDecl → Quotation) : Declaration → PartTerm
  | struct d => .types [.struct d.name (d.fields.map fun f => f.termIn (q f))]
  | d => d.term

lemma WrittenIn.part_termIn (h : d.WrittenIn q) : (d.termIn q).part = declared d := by
  cases d with
  | struct d =>
    have hfields : (d.fields.map fun f => f.termIn (q f)).map (·.decl) = d.fields := by
      rw [List.map_map]
      exact (List.map_congr_left fun f hf => (h.2 f hf).decl_termIn).trans (List.map_id _)
    simp [termIn, PartTerm.part, SpecTerm.declarations, hfields, declared]
  | interface d => exact Written.part_term (d := .interface d) h
  | method d => exact Written.part_term (d := .method d) h
  | function d => exact Written.part_term (d := .function d) h

lemma WrittenIn.laidOut (h : d.WrittenIn q) {tokens : List Token}
    (htokens : tokens.map Token.mark = onLines true (d.rowsIn q)) : (d.termIn q).LaidOut tokens := by
  cases d with
  | struct d => exact laidOut_record (fun f hf s hs => laidOut_field (h.2 f hf).type hs) htokens
  | interface d => exact Written.laidOut (d := .interface d) h htokens
  | method d => exact Written.laidOut (d := .method d) h htokens
  | function d => exact Written.laidOut (d := .function d) h htokens

lemma exists_marks_rowsIn (q : FieldDecl → Quotation) (d : Declaration) :
    ∃ w tail, onLines true (d.rowsIn q) = w :: tail ∧ w.2 = true := by
  cases d <;> exact ⟨_, _, rfl, rfl⟩

end Declaration

namespace SourceFile

/-- A file as it is written, with the kinds of literals that `q` chooses for the tags. -/
def textIn (q : FieldDecl → Quotation) (f : SourceFile) : String :=
  Block.render (.ofTexts ["package " ++ f.package] ++ f.declarations.flatMap (·.blockIn q))

/-- A file that can be written so. -/
structure WrittenIn (q : FieldDecl → Quotation) (f : SourceFile) : Prop where
  package : IsName f.package
  declarations : ∀ d ∈ f.declarations, d.WrittenIn q

/-- A file is read back whatever the kinds of its literals. -/
lemma WrittenIn.parse_textIn [ErrorRecovery] {q : FieldDecl → Quotation} {f : SourceFile} (h : f.WrittenIn q) :
    parse (f.textIn q) = .ok f :=
  parse_of_laidOut (fun d hd _ hs => (h.declarations d hd).laidOut hs)
    (fun d hd => (h.declarations d hd).part_termIn) (fun d _ => d.exists_marks_rowsIn q)
    (marks?_file h.package fun d hd => (h.declarations d hd).spells)

/-- A text is what either of its literals stands for; behind the type of a field each of them is read as
the tag, and so a file has the same tags whichever of them it is written with. -/
theorem tag_of_literal [ErrorRecovery] :
    (∀ s, unquote (Quotation.interpreted.literal s) = s) ∧
    (∀ s, unquote (Quotation.raw.literal s) = s) ∧
    (∀ (q : Quotation) (tokens rest : List Token) (names : List String) (type : TypeTerm) (t : Token)
      (s : String), fieldType tokens = some ((names, type), t :: rest) → t.newLine = false →
      t.lexeme = .text (q.literal s) → field tokens = some (⟨names, type.expr, some s⟩, rest)) ∧
    ∀ (q : FieldDecl → Quotation) (f : SourceFile), f.WrittenIn q → parse (f.textIn q) = .ok f :=
  ⟨unquote_interpreted, unquote_raw, fun _ _ _ _ _ _ _ => field_of_literal, fun _ _ h => h.parse_textIn⟩

/-- A field whose tag has a quote behind a backslash, and one behind another quote. -/
def pattern : FieldDecl := ⟨["Pattern"], .name "string", some "re:\"\\\"\""⟩

/-- The tokens of that field and of the brace behind it. -/
def patternTokens (q : Quotation) : List Token :=
  [⟨.name "Pattern", "\n\t", true⟩, ⟨.name "string", " ", false⟩,
    ⟨.text (q.literal "re:\"\\\"\""), " ", false⟩, ⟨.symbol "\x7d", "\n", true⟩]

/-- A file with that field. -/
def rules : SourceFile := ⟨"rules", [.struct ⟨"Rule", [pattern]⟩]⟩

/-- The field and the file are the same in both literals. -/
theorem parse_rules :
    field (patternTokens .raw) = some (pattern, [⟨.symbol "\x7d", "\n", true⟩]) ∧
    field (patternTokens .interpreted) = some (pattern, [⟨.symbol "\x7d", "\n", true⟩]) ∧
    rules.textIn (fun _ => .raw) =
      "package rules\ntype Rule struct \x7b\n\tPattern string \x60re:\"\\\"\"\x60\n\x7d\n" ∧
    parse (rules.textIn fun _ => .raw) = .ok rules ∧
    rules.textIn (fun _ => .interpreted) = "package rules\ntype Rule struct \x7b\n" ++
      "\tPattern string \"re:\\\"\\\\\\\"\\\"\"\n\x7d\n" ∧
    parse (rules.textIn fun _ => .interpreted) = .ok rules := by
  obtain ⟨-, -, hfield, hparse⟩ := tag_of_literal
  have htype : FieldDecl.WrittenType ["Pattern"] (.name "string") :=
    .named (by decide) (by decide) (.nominal (.name (by decide)))
  have hread : ∀ q, fieldType (patternTokens q) =
      some ((["Pattern"], .name "string"), (patternTokens q).drop 2) := fun q =>
    reads_fieldType htype ((patternTokens q).take 2) _ _ rfl (.inl ⟨⟨_, rfl⟩, rfl⟩)
  have hraw : rules.WrittenIn fun _ => .raw := by
    refine ⟨by decide, List.forall_mem_singleton.mpr ⟨by decide, ?_⟩⟩
    exact List.forall_mem_singleton.mpr ⟨htype, by simp [pattern, Quotation.Holds]⟩
  have hinterpreted : rules.WrittenIn fun _ => .interpreted := by
    refine ⟨by decide, List.forall_mem_singleton.mpr ⟨by decide, ?_⟩⟩
    exact List.forall_mem_singleton.mpr ⟨htype, by simp [pattern, Quotation.Holds]⟩
  exact ⟨hfield _ _ _ _ _ _ _ (hread .raw) rfl rfl, hfield _ _ _ _ _ _ _ (hread .interpreted) rfl rfl,
    by decide, hparse _ _ hraw, by decide, hparse _ _ hinterpreted⟩

end SourceFile

end DeclGen
