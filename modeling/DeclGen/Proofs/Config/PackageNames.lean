import DeclGen.Proofs.Config.Validation
import DeclGen.Proofs.Service.Files
import DeclGen.Proofs.Source.RoundTrip
import DeclGen.Proofs.Source.WellNamed
import DeclGen.Proofs.Unicode

/-!
# Package names

A configuration is valid when its packages are identifiers, which are made of letters and numbers of any script.
The names of the declaration language are fewer: a keyword is none, and not every letter or number can stand in
one. A package clause can be read back exactly when its identifier is such a name, and otherwise no text that
begins with it can be read (`SourceFile.parse_packageClause`).
-/

namespace DeclGen

namespace Source

open Lexer Reader

/-! ## Clauses that cannot be cut into tokens -/

section Cutting

variable {c : Char} {s rest : List Char}

/-- A letter or a number with which no name can begin begins no piece, unless it is a digit. -/
lemma piece?_eq_none (h : Unicode.isAlphanumeric c) (hstart : Unicode.isNameStart c = false)
    (hdigit : c.isDigit = false) : piece? (c :: rest) = none := by
  have hne : ∀ d, Unicode.isAlphanumeric d = false → c ≠ d := fun d => Unicode.ne_of_isAlphanumeric h
  have hblank : isBlank c = false := by
    simp [isBlank, hne ' ' (by decide), hne '\t' (by decide), hne '\n' (by decide), hne '\x0b' (by decide),
      hne '\x0c' (by decide), hne '\r' (by decide)]
  have hother : c ∉ ['/', '\x60', '"', '\'', '\x00'] := by
    simp [hne '/' (by decide), hne '\x60' (by decide), hne '"' (by decide), hne '\'' (by decide),
      hne '\x00' (by decide)]
  have hnumber : Numeral.length? (c :: rest) = none :=
    Spells.length?_eq_none hdigit fun hpoint => absurd hpoint (hne '.' (by decide))
  have hsymbol : symbol? (c :: rest) = none := by
    have hsigns : ∀ x ∈ symbols, x.toList.head?.any (!Unicode.isAlphanumeric ·) := by decide
    refine List.find?_eq_none.mpr fun x hx => ?_
    have hsign := hsigns x hx
    cases hlist : x.toList with
    | nil => simp [hlist] at hsign
    | cons d tail =>
      have hplain : Unicode.isAlphanumeric d = false := by simpa [hlist] using hsign
      simp [List.isPrefixOf, (hne d hplain).symm]
  rw [Spells.piece?_eq_symbol? hstart hblank hother hnumber, hsymbol]
  rfl

lemma marks?_eq_none {newLine : Bool} (h : piece? (c :: rest) = none) : marks? newLine (c :: rest) = none := by
  simp [marks?, piecesAfter, h]

/-- What an identifier is made of. -/
lemma exists_toList_of_isIdentifier {name : String} (h : Naming.isIdentifier name) :
    ∃ c rest, name.toList = c :: rest ∧ (Unicode.isAlphabetic c ∨ c = '_') ∧
      ∀ d ∈ rest, Unicode.isAlphanumeric d ∨ d = '_' := by
  unfold Naming.isIdentifier at h
  split at h
  · exact absurd h Bool.false_ne_true
  · next c rest hlist =>
    rw [Bool.and_eq_true, List.all_eq_true] at h
    exact ⟨c, rest, hlist, by simpa using h.1, fun d hd => by simpa using h.2 d hd⟩

/-- An identifier with a character that has no place in a name cannot be cut, whatever stands behind it. -/
lemma marks?_identifier {name : String} (h : Naming.isIdentifier name) (hspelled : ¬isSpelledAsName name)
    (newLine : Bool) (behind : List Char) : marks? newLine (name.toList ++ behind) = none := by
  obtain ⟨c, rest, hlist, hfirst, hothers⟩ := exists_toList_of_isIdentifier h
  by_cases hstart : Unicode.isNameStart c
  · -- the word goes up to the first character that no name has
    obtain ⟨word, d, tail, hsplit, hword, hd⟩ : ∃ word d tail, rest = word ++ d :: tail ∧
        (∀ x ∈ word, Unicode.isNamePart x) ∧ Unicode.isNamePart d = false := by
      cases hdrop : rest.dropWhile Unicode.isNamePart with
      | nil =>
        have hwhole := List.takeWhile_append_dropWhile (p := Unicode.isNamePart) (l := rest)
        rw [hdrop, List.append_nil] at hwhole
        have hall : ∀ d ∈ rest, Unicode.isNamePart d := hwhole ▸ List.all_eq_true.mp List.all_takeWhile
        exact absurd (isSpelledAsName_iff.mpr ⟨c, rest, hlist, hstart, hall⟩) hspelled
      | cons d tail =>
        have hd := List.head?_dropWhile_not Unicode.isNamePart rest
        rw [hdrop] at hd
        refine ⟨rest.takeWhile Unicode.isNamePart, d, tail, ?_, List.all_eq_true.mp List.all_takeWhile, hd⟩
        rw [← hdrop, List.takeWhile_append_dropWhile]
    have hspells : Spells (String.ofList (c :: word)) [Lexer.word (String.ofList (c :: word))] endsWord :=
      .ofWord String.toList_ofList hstart hword
    have hcut := hspells newLine (d :: (tail ++ behind)) (by simpa [endsWord] using hd)
    have hstuck : piece? (d :: (tail ++ behind)) = none := by
      have halphanumeric : Unicode.isAlphanumeric d := by
        refine (hothers d (by simp [hsplit])).resolve_right ?_
        rintro rfl
        exact absurd hd (by decide)
      -- neither what opens a name nor a digit is without a place in names
      have hpart : ¬Unicode.isNamePart d := Bool.eq_false_iff.mp hd
      refine piece?_eq_none halphanumeric ?_ ?_ <;> rw [← Bool.not_eq_true]
      · exact fun hopens => hpart (Unicode.isNamePart_of_isNameStart hopens)
      · exact fun hdigit => hpart (Unicode.isNamePart_of_isDigit hdigit)
    rw [marks?_eq_none hstuck, String.toList_ofList] at hcut
    rw [hlist, hsplit]
    simpa using hcut
  · have hletter : Unicode.isAlphabetic c := by
      refine hfirst.resolve_right ?_
      rintro rfl
      exact hstart (by decide)
    have halphanumeric : Unicode.isAlphanumeric c := by simp [Unicode.isAlphanumeric, hletter]
    rw [hlist, List.cons_append]
    exact marks?_eq_none
      (piece?_eq_none halphanumeric (by simpa using hstart) (Unicode.isDigit_of_isAlphabetic hletter))

/-- A text without a byte order mark that cannot be cut has no tokens. -/
lemma tokens?_eq_none {source : String} (h : marks? false source.toList = none)
    (hmark : source.toList.head? ≠ some '\ufeff') : tokens? source = none := by
  unfold tokens?
  split
  · next rest hlist => exact absurd (by simp [hlist]) hmark
  · exact Option.map_eq_none_iff.mpr (Option.map_eq_none_iff.mp h)

end Cutting

/-! ## Clauses that cannot be read -/

/-- The front of a package clause is a keyword, whatever stands behind it. -/
lemma spells_front : Spells "package " [.keyword "package"] anyChar := by
  have hkey : Spells "package" [.keyword "package"] endsWord := .keyword (by decide)
  exact hkey.append .space ⟨' ', [], rfl, by decide⟩

section Keywords

variable {key : String}

namespace PartTerm

lemma refuses_readLast_keyword (key : String) :
    Refuses readLast [(.keyword "package", false)] (·.1 = .keyword key) := by
  have hname : Refuses Reader.name [] (·.1 = .keyword key) := Refuses.name.mono fun m hm id => by simp [hm]
  have hfunc : ∀ {f : Unit → Reader PartTerm} {behind : Mark → Prop},
      Refuses (Reader.key "func" >>= f) [(.keyword "package", false)] behind :=
    Refuses.key.bind.at_head (by simp)
  exact .orElse (.key_bind hname.bind)
    (.orElse ((refuses_import (l := .keyword "package") (by decide)).at_head rfl) (.orElse hfunc hfunc))

/-- No part of a file begins with the keyword of a package clause and another keyword. -/
lemma refuses_read_keyword (key : String) :
    Refuses read [(.keyword "package", false)] (·.1 = .keyword key) := by
  have htypes : Refuses SpecTerm.readAll [(.keyword "package", false)] (·.1 = .keyword key) :=
    Refuses.key.bind.at_head (by simp)
  have hstatement : Refuses (Reader.phrase .block (.rule .statement)) [(.keyword "package", false)]
      (·.1 = .keyword key) := (Refuses.phrase (l := .keyword "package") 30 (by decide)).at_head rfl
  exact (refuses_readLast_keyword key).bind.orElse (htypes.bind.orElse hstatement.bind).bind

/-- A file does not begin in this way. -/
lemma readAll_keyword {tokens : List Token} {newLine : Bool} {row : List Mark}
    (h : tokens.map Token.mark = (.keyword "package", false) :: (.keyword key, newLine) :: row) :
    readAll.run' tokens = none := by
  obtain ⟨t, tokens, rfl, ht, htail⟩ := List.map_eq_cons_iff.mp h
  obtain ⟨u, rest, rfl, hu, -⟩ := List.map_eq_cons_iff.mp htail
  have hfront : [t].map Token.mark = [(.keyword "package", false)] := by simp [ht]
  have hkey : u.mark.1 = .keyword key := congrArg Prod.fst hu
  have hpart : read (t :: u :: rest) = none := refuses_read_keyword key [t] u rest hfront hkey
  have htop : readLast (t :: u :: rest) = none := refuses_readLast_keyword key [t] u rest hfront hkey
  -- nothing is read, but there is more than the end of the file
  have hmany : many read (t :: u :: rest) = some ([], t :: u :: rest) := by
    show ((read (t :: u :: rest)).bind _ <|> some ([], t :: u :: rest)) = _
    rw [hpart]
    rfl
  have hlast : optional readLast (t :: u :: rest) = some (none, t :: u :: rest) := by
    show ((readLast (t :: u :: rest)).bind _ <|> some (none, t :: u :: rest)) = _
    rw [htop]
    rfl
  have hall : readAll (t :: u :: rest) = none := by
    show ((many read) (t :: u :: rest)).bind _ = _
    rw [hmany]
    show (optional readLast (t :: u :: rest)).bind _ = _
    rw [hlast]
    rfl
  show (readAll (t :: u :: rest)).map Prod.fst = _
  rw [hall]
  rfl

end PartTerm

end Keywords

end Source

/-! ## Package clauses -/

namespace SourceFile

open Source Lexer

variable {name : String}

/-- A text none of whose rows of tokens is a file is malformed. -/
lemma parse_eq_malformed [ErrorRecovery] {source : String}
    (h : ∀ tokens, tokens? source = some tokens → PartTerm.readAll.run' tokens = none) :
    parse source = .error (.ofText source) := by
  have hnone : trees? source = none := by
    rw [trees?, Option.bind_eq_none_iff]
    exact h
  rw [parse_eq, hnone]

lemma text_packageClause (name : String) : text ⟨name, []⟩ = Service.packageClause name := by
  simp [text, Service.packageClause, Text.Block.ofTexts, Text.Block.render, Text.Line.render]

/-- The marks of a text that begins with a package clause. -/
lemma marks?_packageClause (name rest : String) :
    marks? false (Service.packageClause name ++ rest).toList =
      (marks? false (name.toList ++ '\n' :: rest.toList)).map ((.keyword "package", false) :: ·) := by
  have hlist : (Service.packageClause name ++ rest).toList =
      "package ".toList ++ (name.toList ++ '\n' :: rest.toList) := by
    simp [Service.packageClause]
  rw [hlist, spells_front false _ fun _ _ => trivial]
  rfl

/-- A text that begins with a package clause for an identifier that is no name is malformed. -/
lemma parse_of_not_isName [ErrorRecovery] (h : Naming.isIdentifier name) (hname : ¬IsName name) (rest : String) :
    parse (Service.packageClause name ++ rest) = .error (.ofText (Service.packageClause name ++ rest)) := by
  refine parse_eq_malformed fun tokens htokens => ?_
  have hfirst : (Service.packageClause name ++ rest).toList.head? ≠ some '\ufeff' := by
    simp [Service.packageClause]
  by_cases hspelled : isSpelledAsName name
  · -- what is spelled as a name and is none is a keyword
    have hkeyword : name ∈ keywords := by
      by_contra hnot
      exact hname (isName_iff.mpr (by simp [hspelled, hnot]))
    have hmarks := marks?_packageClause name rest
    rw [Spells.keyword hkeyword false ('\n' :: rest.toList) (by simp; decide)] at hmarks
    cases hrest : marks? (stillNew false [.keyword name]) ('\n' :: rest.toList) with
    | none =>
      rw [hrest] at hmarks
      rw [tokens?_eq_none hmarks hfirst] at htokens
      exact absurd htokens (by simp)
    | some row =>
      rw [hrest] at hmarks
      obtain ⟨tokens', htokens', hmarked⟩ := exists_tokens?_of_marks? hmarks
      obtain rfl := Option.some.inj (htokens'.symm.trans htokens)
      exact PartTerm.readAll_keyword hmarked
  · have hnone : marks? false (Service.packageClause name ++ rest).toList = none := by
      rw [marks?_packageClause, marks?_identifier h hspelled]
      rfl
    rw [tokens?_eq_none hnone hfirst] at htokens
    exact absurd htokens (by simp)

/-- The package clause for an identifier is read back when the identifier is a name of the language. When it is
none, no text that begins with the clause is a file. -/
theorem parse_packageClause [ErrorRecovery] (h : Naming.isIdentifier name) :
    (parse (Service.packageClause name) = .ok ⟨name, []⟩ ↔ IsName name) ∧
      (¬IsName name → ∀ rest, parse (Service.packageClause name ++ rest) =
        .error (.ofText (Service.packageClause name ++ rest))) := by
  refine ⟨⟨fun hread => ?_, fun hname => ?_⟩, fun hname rest => parse_of_not_isName h hname rest⟩
  · exact (wellNamed_of_parse hread).package
  · rw [← text_packageClause]
    exact parse_text ⟨hname, fun d hd => absurd hd List.not_mem_nil⟩

/-- A package whose name has letters beyond the Latin alphabet. -/
theorem parse_packageClause_accounts : Naming.isIdentifier "größe_Ω2" ∧ IsName "größe_Ω2" ∧
    parse (Service.packageClause "größe_Ω2") = .ok ⟨"größe_Ω2", []⟩ := by
  have hidentifier : Naming.isIdentifier "größe_Ω2" := by decide
  have hname : IsName "größe_Ω2" := by decide
  exact ⟨hidentifier, hname, (parse_packageClause hidentifier).1.mpr hname⟩

/-- What comes of an identifier that is no name: its package clause is no file, and neither is the file of
services that is made for it. -/
lemma parse_services_of_not_isName [ErrorRecovery] (h : Naming.isIdentifier name) (hname : ¬IsName name) :
    parse (Service.packageClause name) = .error (.ofText (Service.packageClause name)) ∧
      ∃ text, Service.file Service.ledgerModel name = .ok text ∧ parse text = .error (.ofText text) := by
  have hservices : Service.ledgerModel.services ≠ [] := by decide
  obtain ⟨hfile, htext⟩ := Service.file_eq_texts h hservices
  refine ⟨?_, _, hfile, ?_⟩
  · simpa using parse_of_not_isName h hname ""
  · rw [htext]
    exact parse_of_not_isName h hname _

/-- A superscript is a number but stands in no name, so that `m²` is an identifier and a configuration with it as
its domain package is valid; but its package clause is no file, and neither is the file of services that is made
for it. With the keyword `func` it is the same. -/
theorem not_parse_packageClause_superscript :
    (Naming.isIdentifier "m²" ∧ Config.validate { naming := { domainPackage := "m²" } } = .ok () ∧
      parse "package m²\n" = .error (.ofText "package m²\n") ∧
      ∃ text, Service.file Service.ledgerModel "m²" = .ok text ∧ parse text = .error (.ofText text)) ∧
    (Naming.isIdentifier "func" ∧ Config.validate { naming := { domainPackage := "func" } } = .ok () ∧
      parse "package func\n" = .error (.ofText "package func\n") ∧
      ∃ text, Service.file Service.ledgerModel "func" = .ok text ∧ parse text = .error (.ofText text)) := by
  have hnumber : Naming.isIdentifier "m²" := by decide
  have hkeyword : Naming.isIdentifier "func" := by decide
  have hclause : "package m²\n" = Service.packageClause "m²" := by decide
  have hclause' : "package func\n" = Service.packageClause "func" := by decide
  rw [hclause, hclause']
  exact ⟨⟨hnumber, by decide, parse_services_of_not_isName hnumber (by decide)⟩,
    ⟨hkeyword, by decide, parse_services_of_not_isName hkeyword (by decide)⟩⟩

end SourceFile

end DeclGen
