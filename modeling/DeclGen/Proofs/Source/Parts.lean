import DeclGen.Proofs.Source.Terms

/-!
# Declarations and files in any layout

`LaidOut` relates fields, elements of interfaces and parts of files to the rows of tokens that may stand for
them: records, interfaces, methods and functions over types with their parentheses, each field, element and
part on a line of its own, and any other part. A text whose tokens are such rows is read as these parts
(`FileLaidOut.trees?_eq`).
-/

namespace DeclGen.Source

open Reader

/-! ## Fields -/

/-- What ends the names and the type of a field: its tag, or the next line. -/
def endsFieldType (m : Mark) : Prop :=
  (∃ x, m.1 = .text x) ∧ m.2 = false ∨ Grammar.opensField m.1 ∧ m.2 = true

/-- What ends a field: the next field, or the end of the record. -/
def endsField (m : Mark) : Prop := Grammar.opensField m.1 ∧ m.2 = true

lemma endsType_of_opensField {m : Mark} (h : Grammar.opensField m.1) : endsType m := by
  rcases h with ⟨id, h⟩ | h | h <;> simp [endsType, h]

lemma endsType_of_endsFieldType {m : Mark} (h : endsFieldType m) : endsType m := by
  rcases h with ⟨⟨x, h⟩, -⟩ | ⟨h, -⟩
  · simp [endsType, h]
  · exact endsType_of_opensField h

lemma takes_fieldEnd : Takes (ahead .block (.rule .fieldEnd)) [] () (Begins endsFieldType) :=
  .phrase fun _ _ ht => Grammar.read?_fieldEnd ht

lemma ne_comma_of_opensType {l : Lexeme} (h : opensType l) : l ≠ .symbol "," := by
  rintro rfl
  rcases h with ⟨id, h⟩ | h <;> simp at h

/-- A name is no embedded field when its line goes on with a comma or a type. -/
lemma embedded_eq_none {id : String} {u v : Token} {rest : List Token} (hu : u.lexeme = .name id)
    (hline : v.newLine = false) (hv : v.lexeme = .symbol "," ∨ opensType v.lexeme)
    (hbracket : v.lexeme = .symbol "[" → Begins (·.1 = .symbol "]") rest) :
    (do
      let t ← TypeTerm.readNamed? .block
      ahead .block (.rule .fieldEnd)
      return (([] : List String), t) : Reader _) (u :: v :: rest) = none := by
  have harguments : v.lexeme ≠ .symbol "[" ∨
      Phrase.Fails Grammar.rules (.rule .typeArguments) (v :: rest) := by
    by_cases hopen : v.lexeme = .symbol "["
    · obtain ⟨w, tail, rfl, hw⟩ := hbracket hopen
      exact .inr (Grammar.typeArguments_fails hw)
    · exact .inl hopen
  obtain ⟨⟨hpoint, hend⟩, htext⟩ : (v.lexeme ≠ .symbol "." ∧
      v.lexeme ∉ [.symbol "\x7d", .symbol ";", .nul]) ∧ ∀ x, v.lexeme ≠ .text x := by
    rcases hv with h | ⟨n, h⟩ | h
    · simp [h]
    · simp [h]
    · simp only [List.mem_cons, List.not_mem_nil, or_false] at h
      rcases h with h | h | h | h <;> simp [h]
  have hread : TypeTerm.readNamed? .block (u :: v :: rest) = _ :=
    TypeTerm.readNamed?_name hu hpoint harguments
  -- the name is read, but no field ends behind it
  have hahead : ahead .block (.rule .fieldEnd) (v :: rest) = none :=
    congrArg (Option.map _) (Grammar.read?_fieldEnd_eq_none hline hend htext)
  show (TypeTerm.readNamed? .block (u :: v :: rest)).bind _ = none
  rw [hread]
  show (ahead .block (.rule .fieldEnd) (v :: rest)).bind _ = none
  rw [hahead]
  rfl

/-- A type that begins with a bracket is a slice. -/
lemma TypeTerm.LaidOut.bracket {m : Mode} {t : TypeTerm} {v : Token} {s : List Token}
    (h : t.LaidOut m (v :: s)) (hv : v.lexeme = .symbol "[") : Begins (·.1 = .symbol "]") s := by
  cases h with
  | slice _ hclose _ => exact ⟨_, _, rfl, hclose⟩
  | name hu => simp [hu] at hv
  | selection hu _ _ _ => simp [hu] at hv
  | pointer hu _ => simp [hu] at hv
  | parenthesised hu _ _ => simp [hu] at hv
  | emptyInterface hu _ _ => simp [hu] at hv

namespace FieldTerm

/-- The rows of names and their type: the names on one line, on which the type begins too. An embedded
type is a name or a selection, with or without a star. -/
inductive TypeLaidOut : List String → TypeTerm → List Token → Prop
  | named {names : List String} {t : TypeTerm} {front s : List Token} (hnames : names ≠ [])
      (hfront : front.map Token.mark = onOneLine true (nameRow names))
      (hline : Begins (·.2 = false) s) (h : t.LaidOut .block s) : TypeLaidOut names t (front ++ s)
  | embedded {t : TypeTerm} {s : List Token} (hnamed : t.IsNamed) (h : t.LaidOut .block s) :
      TypeLaidOut [] t s
  | embeddedPointer {t : TypeTerm} {u : Token} {s : List Token} (hu : u.lexeme = .symbol "*")
      (hnamed : t.IsNamed) (h : t.LaidOut .block s) : TypeLaidOut [] (.pointer t) (u :: s)

section

variable {names : List String} {n n' : String} {ns : List String} {t : TypeTerm} {front s : List Token}

lemma TypeLaidOut.opensField (h : TypeLaidOut names t s) : Begins (Grammar.opensField ·.1) s := by
  cases h with
  | @named names _ front _ hnames hfront _ _ =>
    obtain ⟨n, ns, rfl⟩ := List.exists_cons_of_ne_nil hnames
    rw [nameRow, List.map_cons, commas_cons] at hfront
    obtain ⟨u, front, rfl, hu, -⟩ := List.map_eq_cons_iff.mp hfront
    exact ⟨u, _, rfl, .inl ⟨n, congrArg Prod.fst hu⟩⟩
  | embedded hnamed h =>
    obtain ⟨u, rest, id, rfl, hu⟩ := h.exists_name hnamed
    exact ⟨u, rest, rfl, .inl ⟨id, hu⟩⟩
  | embeddedPointer hu _ _ => exact ⟨_, _, rfl, .inr (.inl hu)⟩

/-- A single name may also begin an embedded type, but that is refused at the type behind it. -/
lemma takes_soleName {u : Token} (hu : u.lexeme = .name n) (hline : Begins (·.2 = false) s)
    (h : t.LaidOut .block s) : Takes fieldType (u :: s) ([n], t) (Begins endsFieldType) := by
  have htype : Takes (do sameLine .block; return ([n], ← typeTerm .block)) s ([n], t)
      (Begins endsFieldType) := by
    refine Takes.sameLine.bind_nil (Takes.bind_pure ?_) fun rest _ => hline.append rest
    exact h.takes.mono fun rest hrest => hrest.mono fun _ => endsType_of_endsFieldType
  obtain ⟨v, s, rfl, hv⟩ := h.opens
  have hsame : v.newLine = false := Begins.cons_iff.mp hline
  -- no star, nothing embedded, no second name
  refine .orElse_right (fun rest _ => sign_bind_eq_none (by simp [hu])) ?_
  refine .orElse_right (fun rest _ => embedded_eq_none hu hsame (.inr hv) fun hopen =>
    (h.bracket hopen).append rest) ?_
  refine .orElse_right (fun rest _ => (name_bind_eq hu).trans
    (sign_bind_eq_none (ne_comma_of_opensType hv))) ?_
  exact .name_bind hu htype

lemma takes_severalNames (hfront : front.map Token.mark = onOneLine true (nameRow (n :: n' :: ns)))
    (h : t.LaidOut .block s) : Takes fieldType (front ++ s) (n :: n' :: ns, t) (Begins endsFieldType) := by
  have hmarks : onOneLine true (nameRow (n :: n' :: ns)) = (.name n, true) ::
      (.symbol ",", false) :: inLine (nameRow (n' :: ns)) := by
    simp [nameRow, commas_cons, onOneLine, inLine]
  rw [hmarks] at hfront
  obtain ⟨u, front, rfl, hu, hfront⟩ := List.map_eq_cons_iff.mp hfront
  obtain ⟨v, front, rfl, hv, hfront⟩ := List.map_eq_cons_iff.mp hfront
  have hcomma : v.lexeme = .symbol "," := congrArg Prod.fst hv
  have hname : ∀ id ∈ n' :: ns, ∀ s : List Token, s.map Token.mark = inLine [.name id] →
      Takes Reader.name s id (Begins anyMark) := by
    intro id _ s hs
    obtain ⟨w, rfl, hw⟩ := List.map_eq_singleton_iff.mp hs
    exact .next (by simp [show w.lexeme = .name id from congrArg Prod.fst hw])
  obtain ⟨first, others, rfl, hfirst, hothers⟩ := exists_inTurn_of_commas hname hfront
  -- the names end where the type begins, which no comma does
  let typed : List Token → Prop := Begins (opensType ·.1)
  have hids : Takes (Reader.commaSeparated Reader.name) (first ++ others) (n' :: ns) typed := by
    refine hfirst.commaSeparated hothers (fun _ _ => trivial) (fun rest hrest => ?_) ?_
    · exact hrest.mono fun _ _ => trivial
    · rintro _ ⟨w, rest, rfl, hw⟩
      exact sign_bind_eq_none (ne_comma_of_opensType hw)
  have htype : Takes (do return (n :: n' :: ns, ← typeTerm .block)) s (n :: n' :: ns, t)
      (Begins endsFieldType) :=
    (h.takes.mono fun rest hrest => hrest.mono fun _ => endsType_of_endsFieldType).bind_pure
  refine .orElse_right (fun rest _ => sign_bind_eq_none (by simp [show u.lexeme = .name n from
    congrArg Prod.fst hu])) ?_
  refine .orElse_right (fun rest _ => embedded_eq_none (congrArg Prod.fst hu) (congrArg Prod.snd hv)
    (.inl hcomma) (by simp [hcomma])) ?_
  exact .orElse_left (.name_bind (congrArg Prod.fst hu) (.sign_bind hcomma
    (hids.bind htype fun rest _ => h.opens.append rest)))

/-- Names and their type are read as they are written. -/
lemma TypeLaidOut.takes (h : TypeLaidOut names t s) :
    Takes fieldType s (names, t) (Begins endsFieldType) := by
  have hends : ∀ rest, Begins endsFieldType rest → Begins endsType rest :=
    fun rest hrest => hrest.mono fun _ => endsType_of_endsFieldType
  cases h with
  | @named names _ front _ hnames hfront hline h =>
    obtain ⟨n, ns, rfl⟩ := List.exists_cons_of_ne_nil hnames
    cases ns with
    | nil =>
      obtain ⟨u, rfl, hu⟩ := List.map_eq_singleton_iff.mp hfront
      exact takes_soleName (congrArg Prod.fst hu) hline h
    | cons n' ns => exact takes_severalNames hfront h
  | embedded hnamed h =>
    obtain ⟨u, rest, id, rfl, hu⟩ := h.exists_name hnamed
    refine .orElse_right (fun rest _ => sign_bind_eq_none (by simp [hu])) (.orElse_left ?_)
    exact ((h.takesNamed hnamed).mono hends).bind_last
      (takes_fieldEnd.bind_nil .pure fun _ hrest => hrest) fun _ hrest => hrest
  | embeddedPointer hu hnamed h =>
    exact .orElse_left (.sign_bind hu ((h.takesNamed hnamed).mono hends).bind_pure)

end

variable {f : FieldTerm} {s : List Token}

/-- The rows of fields, on a line of their own. Where some part of the type is of a shape that is kept as
text, these are all that are read so. -/
inductive LaidOut (f : FieldTerm) : List Token → Prop
  | written {front tag : List Token} (hline : Begins (·.2 = true) front)
      (h : TypeLaidOut f.names f.type front)
      (htag : tag.map Token.mark = inLine (f.tag.toList.map .text)) : LaidOut f (front ++ tag)
  | other {s : List Token} (hopens : Begins endsField s) (hother : f.type.expr.isSupported = false)
      (h : Takes read s f (Begins endsField)) : LaidOut f s

lemma LaidOut.opens (h : f.LaidOut s) : Begins endsField s := by
  cases h with
  | written hline h _ =>
    obtain ⟨u, rest, rfl, hu⟩ := h.opensField
    exact ⟨u, _, rfl, hu, Begins.cons_iff.mp hline⟩
  | other hopens _ _ => exact hopens

/-- The tag of a field is read, if there is one. -/
lemma takes_tag {tag : Option String} (hs : s.map Token.mark = inLine (tag.toList.map .text)) :
    Takes (optional do sameLine .block; literal) s tag (Begins endsField) := by
  cases tag with
  | none =>
    obtain rfl : s = [] := by simpa [inLine] using hs
    exact .optional_none fun rest hrest =>
      (Refuses.sameLine.bind.mono fun m hm => hm.2).at_begin hrest
  | some tag =>
    obtain ⟨u, rfl, hu⟩ := List.map_eq_singleton_iff.mp hs
    have hliteral : Takes literal [u] tag (Begins endsField) :=
      .next (by simp [show u.lexeme = .text tag from congrArg Prod.fst hu])
    exact .optional_some (Takes.sameLine.bind_nil hliteral fun rest _ =>
      ⟨u, rest, rfl, congrArg Prod.snd hu⟩)

/-- Fields are read as they are written, in front of the next line of the record. -/
lemma LaidOut.takes (h : f.LaidOut s) : Takes read s f (Begins endsField) := by
  cases h with
  | @written front tag _ h htag =>
    refine h.takes.bind (takes_tag htag).bind_pure fun rest hrest => ?_
    -- behind the type stands the tag, or the next line
    cases hliteral : f.tag with
    | none =>
      obtain rfl : tag = [] := by simpa [hliteral, inLine] using htag
      exact hrest.mono fun _ => .inr
    | some x =>
      rw [hliteral] at htag
      obtain ⟨u, rfl, hu⟩ := List.map_eq_singleton_iff.mp htag
      exact ⟨u, rest, rfl, .inl ⟨⟨x, congrArg Prod.fst hu⟩, congrArg Prod.snd hu⟩⟩
  | other _ _ h => exact h

end FieldTerm

/-! ## Records -/

/-- No field begins with the brace that closes a record. -/
lemma refuses_field : Refuses FieldTerm.read [] (·.1 = .symbol "\x7d") := by
  have hnamed : Refuses (TypeTerm.readNamed? .block) [] (·.1 = .symbol "\x7d") := by
    intro s t rest hs ht
    obtain rfl : s = [] := by simpa using hs
    have hlexeme : t.lexeme = .symbol "\x7d" := ht
    simp [TypeTerm.readNamed?, hlexeme]
  have hname : Refuses Reader.name [] (·.1 = .symbol "\x7d") :=
    Refuses.name.mono fun m hm => by simp [hm]
  have hstar : Refuses (sign "*") [] (·.1 = .symbol "\x7d") :=
    Refuses.sign.mono fun m hm => by simp [hm]
  exact (hstar.bind.orElse (hnamed.bind.orElse (hname.bind.orElse hname.bind))).bind

/-- The fields of a record, each on a line of its own. -/
lemma takes_fields {t u v : Token} {fs : List FieldTerm} {s : List Token}
    (ht : t.lexeme = .keyword "struct") (hu : u.lexeme = .symbol "\x7b")
    (h : InTurn (fun f s => f.LaidOut s) fs s) (hv : v.lexeme = .symbol "\x7d")
    (hline : fs ≠ [] → v.newLine = true) :
    Takes FieldTerm.readAll (t :: u :: (s ++ [v])) fs fun _ => True :=
  .key_bind ht (.braced hu (h.mono fun _ _ hs => ⟨hs.takes, hs.opens⟩) (fun _ hm => hm.2) hv
    (fun hsome => ⟨.inr (.inr hv), hline hsome⟩) refuses_field)

/-! ## Interfaces -/

/-- What ends an element of an interface: the next line. -/
def endsElement (m : Mark) : Prop := endsType m ∧ m.2 = true

/-- The rows of an element of an interface, on a line of its own: a method, or an embedded type. -/
inductive ElementLaidOut : Option MethodTerm → List Token → Prop
  | method {m : MethodTerm} {u : Token} {s : List Token} (hu : u.mark = (.name m.name, true))
      (hline : Begins (·.2 = false) s) (h : m.signature.LaidOut s) : ElementLaidOut (some m) (u :: s)
  | embedded {s : List Token} (hopens : Begins endsElement s)
      (h : Takes MethodTerm.read s none (Begins endsElement)) : ElementLaidOut none s

/-- An element is read as the method that it is, or as none. -/
lemma ElementLaidOut.takes {m : Option MethodTerm} {s : List Token} (h : ElementLaidOut m s) :
    TakesInTurn MethodTerm.read endsElement m s := by
  cases h with
  | @method m u s hu hline h =>
    have hname : u.lexeme = .name m.name := congrArg Prod.fst hu
    have hsignature : Takes SignatureTerm.read s m.signature (Begins endsElement) :=
      h.takes.mono fun rest hrest => hrest.mono fun _ hm => .inl hm.symm
    have hread : Takes (do sameLine .block; return some (⟨m.name, ← SignatureTerm.read⟩ : MethodTerm)) s
        (some m) (Begins endsElement) :=
      Takes.sameLine.bind_nil hsignature.bind_pure fun rest _ => hline.append rest
    refine ⟨(Takes.name_bind hname hread).orElse_left, u, s, rfl, ?_, congrArg Prod.snd hu⟩
    simp [endsType, Token.mark, hname]
  | embedded hopens h => exact ⟨h, hopens⟩

/-- No element begins with the brace that closes an interface. -/
lemma refuses_element : Refuses MethodTerm.read [] (·.1 = .symbol "\x7d") :=
  (Refuses.name.bind.mono fun m hm => by simp [hm]).orElse (Refuses.phrase 10 (by decide)).bind

/-- The methods of an interface, each element on a line of its own. -/
lemma takes_methods {t u v : Token} {ms : List (Option MethodTerm)} {s : List Token}
    (ht : t.lexeme = .keyword "interface") (hu : u.lexeme = .symbol "\x7b")
    (h : InTurn ElementLaidOut ms s) (hv : v.lexeme = .symbol "\x7d")
    (hline : ms ≠ [] → v.newLine = true) :
    Takes MethodTerm.readAll (t :: u :: (s ++ [v])) ms fun _ => True := by
  have hend : endsType v.mark := by simp [endsType, Token.mark, hv]
  exact .key_bind ht (.braced hu (h.mono fun m s hs => hs.takes) (fun _ hm => hm.2) hv
    (fun hsome => ⟨hend, hline hsome⟩) refuses_element)

/-! ## Parts -/

/-- The rows of a body: a block that begins on the line of the header. -/
def BodyLaidOut (s : List Token) : Prop :=
  Begins (· = (.symbol "\x7b", false)) s ∧ Takes body s () (Begins (·.2 = true))

/-- The rows of a part. Parts that are neither records, interfaces, methods nor functions with a body may
be all that is read in front of the next line. -/
inductive PartTerm.LaidOut : PartTerm → List Token → Prop
  | struct {name : String} {fields : List FieldTerm} {t u v w x : Token} {s : List Token}
      (ht : t.lexeme = .keyword "type") (hu : u.lexeme = .name name) (hv : v.lexeme = .keyword "struct")
      (hw : w.lexeme = .symbol "\x7b") (h : InTurn (fun f s => f.LaidOut s) fields s)
      (hx : x.lexeme = .symbol "\x7d") (hline : fields ≠ [] → x.newLine = true) :
      LaidOut (.types [.struct name fields]) (t :: u :: v :: w :: (s ++ [x]))
  | interface {name : String} {elements : List (Option MethodTerm)} {t u v w x : Token} {s : List Token}
      (ht : t.lexeme = .keyword "type") (hu : u.lexeme = .name name)
      (hv : v.lexeme = .keyword "interface") (hw : w.lexeme = .symbol "\x7b")
      (h : InTurn ElementLaidOut elements s) (hx : x.lexeme = .symbol "\x7d")
      (hline : elements ≠ [] → x.newLine = true) :
      LaidOut (.types [.interface name elements]) (t :: u :: v :: w :: (s ++ [x]))
  | method {receiver : List ParamGroup} {m : MethodTerm} {t u : Token} {front s back : List Token}
      (ht : t.lexeme = .keyword "func") (hreceiver : ParamGroup.ListLaidOut receiver front)
      (hu : u.lexeme = .name m.name) (h : m.signature.LaidOut s) (hbody : BodyLaidOut back) :
      LaidOut (.method receiver m) (t :: (front ++ u :: (s ++ back)))
  | function {m : MethodTerm} {t u : Token} {s back : List Token} (ht : t.lexeme = .keyword "func")
      (hu : u.lexeme = .name m.name) (h : m.signature.LaidOut s) (hbody : BodyLaidOut back) :
      LaidOut (.function m) (t :: u :: (s ++ back))
  | other {p : PartTerm} {s : List Token} (h : Takes read s p (Begins (·.2 = true))) : LaidOut p s

/-! ### What no part begins with -/

namespace PartTerm

/-- The forms of a part that come before functions and methods. -/
lemma refuses_clause {l : Lexeme} {f : Unit → Reader PartTerm} (h : l ≠ .keyword "package") :
    Refuses (key "package" >>= f) [] (·.1 = l) :=
  Refuses.key.bind.mono fun m hm => by rwa [hm]

lemma refuses_import {l : Lexeme} {f : Unit → Reader PartTerm}
    (h : (Phrase.rule Rule.importDeclaration).shuns Grammar.rules 10 l) :
    Refuses (Reader.phrase .block (.rule .importDeclaration) >>= f) [] (·.1 = l) :=
  (Refuses.phrase 10 h).bind

/-- A part that may stand at the end of a file begins with none of these. -/
lemma refuses_readLast {l : Lexeme} (hl : l ∈ [.keyword "type", .finish]) :
    Refuses readLast [] (·.1 = l) := by
  have hpackage : l ≠ .keyword "package" := by
    rintro rfl
    simp at hl
  have hfunc : l ≠ .keyword "func" := by
    rintro rfl
    simp at hl
  have himport : (Phrase.rule Rule.importDeclaration).shuns Grammar.rules 10 l := by
    simp only [List.mem_cons, List.not_mem_nil, or_false] at hl
    rcases hl with rfl | rfl <;> decide
  have hkey : ∀ {f : Unit → Reader PartTerm}, Refuses (key "func" >>= f) [] (·.1 = l) :=
    Refuses.key.bind.mono fun m hm => by rwa [hm]
  exact .orElse (refuses_clause hpackage) (.orElse (refuses_import himport) (.orElse hkey hkey))

lemma refuses_read : Refuses read [] (·.1 = .finish) := by
  have hlast : Refuses readLast [] (·.1 = .finish) := refuses_readLast (by simp)
  have htypes : Refuses SpecTerm.readAll [] (·.1 = .finish) :=
    Refuses.key.bind.mono fun m hm => by simp [hm]
  have hstatement : Refuses (Reader.phrase .block (.rule .statement)) [] (·.1 = .finish) :=
    .phrase 30 (by decide)
  exact hlast.bind.orElse (htypes.bind.orElse hstatement.bind).bind

/-! ### Parts are read as they are written -/

section Parts

variable {p : PartTerm} {s back : List Token} {t u : Token}

/-- A part in front of the next line, where it is terminated. -/
lemma takes_terminated {r : Reader PartTerm} {behind : List Token → Prop} (h : Takes r s p behind)
    (hline : ∀ rest, Begins (·.2 = true) rest → behind rest) :
    Takes (do let p ← r; Reader.terminator; return p) s p (Begins (·.2 = true)) :=
  h.bind_last (Takes.terminator.bind_nil .pure fun _ hrest => hrest) hline

/-- The package clause. -/
lemma takes_clause {package : String} (ht : t.lexeme = .keyword "package")
    (hu : u.lexeme = .name package) : Takes read [t, u] (.clause package) (Begins (·.2 = true)) :=
  .orElse_left (takes_terminated (.orElse_left (.key_bind ht (.name_bind hu .pure))) fun _ hrest => hrest)

/-- A type declaration whose body is read is a part behind which a terminator must stand. -/
lemma takes_type {name : String} {spec : SpecTerm} (ht : t.lexeme = .keyword "type")
    (hu : u.lexeme = .name name) (hs : Begins (·.1 ≠ .symbol "=") s)
    (h : Takes (SpecTerm.readBody name) s spec fun _ => True) :
    Takes read (t :: u :: s) (.types [spec]) (Begins (·.2 = true)) := by
  have hspec : Takes SpecTerm.read (u :: s) spec fun _ => True := by
    refine .name_bind hu (.orElse_right (fun rest _ => ?_) h.orElse_left)
    obtain ⟨v, s, rfl, hv⟩ := hs
    exact sign_bind_eq_none hv
  have hspecs : Takes SpecTerm.readAll (t :: u :: s) [spec] fun _ => True :=
    .key_bind ht hspec.bind_pure.orElse_left
  have hstatement : Takes readStatement (t :: u :: s) (.types [spec]) fun _ => True :=
    hspecs.bind_pure.orElse_left
  refine .orElse_right (fun rest _ => ?_) (takes_terminated hstatement fun _ _ => trivial)
  exact (refuses_readLast (l := .keyword "type") (by simp)).bind.at_begin
    ⟨t, u :: (s ++ rest), rfl, ht⟩

/-- Parameters, results and a body. -/
lemma takes_header {g : SignatureTerm} (h : g.LaidOut s) (hbody : BodyLaidOut back)
    {f : SignatureTerm → PartTerm} :
    Takes (do let sig ← SignatureTerm.read; body; return f sig) (s ++ back) (f g)
      (Begins (·.2 = true)) := by
  have hreturn : Takes (do body; return f g) back (f g) (Begins (·.2 = true)) :=
    hbody.2.bind_last .pure fun _ hrest => hrest
  exact h.takes.bind hreturn fun rest _ => (hbody.1.append rest).mono fun _ hm => .inr hm

/-- A part that begins with the keyword of functions is a function or a method. -/
lemma takes_func (ht : t.lexeme = .keyword "func")
    (h : Takes (readFunction <|> readMethod) (t :: s) p (Begins (·.2 = true))) :
    Takes read (t :: s) p (Begins (·.2 = true)) := by
  refine .orElse_left (takes_terminated (.orElse_right (fun rest _ => ?_)
    (.orElse_right (fun rest _ => ?_) h)) fun _ hrest => hrest)
  · exact (refuses_clause (l := .keyword "func") (by decide)).at_begin ⟨t, _, rfl, ht⟩
  · exact (refuses_import (l := .keyword "func") (by decide)).at_begin ⟨t, _, rfl, ht⟩

/-- A part is read as it is written, in front of the next line. -/
theorem LaidOut.takes (h : p.LaidOut s) : Takes read s p (Begins (·.2 = true)) := by
  cases h with
  | @struct name fields t u v w x s ht hu hv hw h hx hline =>
    have hbody : Takes (SpecTerm.readBody name) (v :: w :: (s ++ [x])) (.struct name fields)
        fun _ => True := (takes_fields hv hw h hx hline).bind_pure.orElse_left
    exact takes_type ht hu ⟨v, _, rfl, by simp [Token.mark, hv]⟩ hbody
  | @interface name elements t u v w x s ht hu hv hw h hx hline =>
    have hbody : Takes (SpecTerm.readBody name) (v :: w :: (s ++ [x])) (.interface name elements)
        fun _ => True := by
      refine .orElse_right (fun rest _ => ?_) (takes_methods hv hw h hx hline).bind_pure.orElse_left
      have hfields : Refuses FieldTerm.readAll [] (·.1 ≠ .keyword "struct") := Refuses.key.bind
      exact hfields.bind.at_begin ⟨v, _, rfl, by simp [Token.mark, hv]⟩
    exact takes_type ht hu ⟨v, _, rfl, by simp [Token.mark, hv]⟩ hbody
  | @method receiver m t u front s back ht hreceiver hu h hbody =>
    have hmethod : Takes readMethod (t :: (front ++ u :: (s ++ back))) (.method receiver m)
        (Begins (·.2 = true)) :=
      .key_bind ht (hreceiver.takes.bind (.name_bind hu (takes_header h hbody)) fun _ _ => trivial)
    -- a function has its name behind the keyword, where a method has its receiver
    have hfunction : Refuses readFunction [(.keyword "func", t.newLine)] (·.1 = .symbol "(") :=
      .key_bind (Refuses.name.bind.mono fun m hm => by simp [hm])
    refine takes_func ht (.orElse_right (fun rest _ => ?_) hmethod)
    exact hfunction.eq_none (s := [t]) (by simp [Token.mark, ht])
      ((hreceiver.opens.append _).append rest)
  | @function m t u s back ht hu h hbody =>
    have hparameters : Takes (Reader.phrase .block (.optional (.rule .typeParameters))) [] ()
        (Begins (·.1 = .symbol "(")) :=
      .phrase fun _ _ ht => Grammar.read?_typeParameters ht
    have hfunction : Takes readFunction (t :: u :: (s ++ back)) (.function m) (Begins (·.2 = true)) :=
      .key_bind ht (.name_bind hu (hparameters.bind_nil (takes_header h hbody) fun rest _ =>
        (h.opens.append back).append rest))
    exact takes_func ht hfunction.orElse_left
  | other h => exact h

end Parts

end PartTerm

/-- An empty body on the line of the header. -/
lemma bodyLaidOut_empty {t u : Token} (ht : t.mark = (.symbol "\x7b", false))
    (hu : u.lexeme = .symbol "\x7d") : BodyLaidOut [t, u] := by
  refine ⟨⟨t, [u], rfl, ht⟩, fun rest _ => ?_⟩
  exact congrArg (Option.map _)
    (Grammar.read?_body (congrArg Prod.fst ht) (congrArg Prod.snd ht) hu)

/-! ## Files -/

/-- The rows of a file. Each part behind the first stands on a line of its own, and the last line is
ended. -/
inductive FileLaidOut : List PartTerm → List Token → Prop
  | parts {p : PartTerm} {ps : List PartTerm} {s rest : List Token} {t : Token} (h : p.LaidOut s)
      (hrest : InTurn (fun p s => Begins (·.2 = true) s ∧ p.LaidOut s) ps rest)
      (ht : t.mark = (.finish, true)) : FileLaidOut (p :: ps) (s ++ rest ++ [t])

/-- A text is read as the parts as which it is laid out. -/
theorem FileLaidOut.trees?_eq {ps : List PartTerm} {tokens : List Token} {source : String}
    (h : FileLaidOut ps tokens) (htokens : tokens? source = some tokens) : trees? source = some ps := by
  cases h with
  | @parts p ps s rest t h hrest ht =>
    have hend : t.lexeme = .finish := congrArg Prod.fst ht
    let ending : List Token → Prop := (· = [t])
    have hmany : Takes (many PartTerm.read) (s ++ rest) (p :: ps) ending := by
      refine h.takes.many_cons (hrest.mono fun p s hs => ⟨hs.2.takes, hs.1⟩) ?_ ?_
      · rintro _ rfl
        exact ⟨t, [], rfl, congrArg Prod.snd ht⟩
      · rintro _ rfl
        exact PartTerm.refuses_read.at_begin ⟨t, [], rfl, hend⟩
    have hlast : Takes (optional PartTerm.readLast) [] none ending := by
      refine .optional_none ?_
      rintro _ rfl
      exact (PartTerm.refuses_readLast (by simp)).at_begin ⟨t, [], rfl, hend⟩
    have hfinish : finish [t] = some ((), [t]) := if_pos (by simp [hend])
    have hall : PartTerm.readAll (s ++ rest ++ [t]) = some (p :: ps ++ [], [t]) := by
      show (many PartTerm.read _).bind _ = _
      rw [hmany [t] rfl]
      show (optional PartTerm.readLast ([] ++ [t])).bind _ = _
      rw [hlast [t] rfl]
      show (finish [t]).bind _ = _
      rw [hfinish]
      rfl
    unfold trees?
    rw [htokens]
    show (PartTerm.readAll _).map Prod.fst = _
    rw [hall, List.append_nil]
    rfl

end DeclGen.Source
