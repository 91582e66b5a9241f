import DeclGen.Proofs.Model.Built
import DeclGen.Proofs.Slots.Names
import DeclGen.Proofs.Source.RoundTrip
import DeclGen.Proofs.Source.WellNamed
import Mathlib.Tactic.Choose

/-!
# Method specs that are read again

The spec of a method is itself a declaration: in an interface of any package it is read, without a notice,
as a method with the same spec (`Method.spec_of_load_specFile`). Its types are those of the method as they
are seen from outside the package, which resolve to themselves wherever they stand, and its parameters
have names that are kept.
-/

namespace DeclGen

open Source Logged

/-! ## Types seen from outside -/

/-- A type as it is written outside its namespace. -/
def TypeExpr.seenFrom (ns : String) : TypeExpr → TypeExpr
  | name id => if Naming.isPrimitive id then name id else qualified (name ns) id
  | slice e => slice (e.seenFrom ns)
  | pointer e => pointer (e.seenFrom ns)
  | variadic e => variadic (e.seenFrom ns)
  | e => e

namespace TypeExpr

/-- In every namespace the type resolves to what is written, and is not variadic as a whole. -/
def Rigid (e : TypeExpr) : Prop :=
  ∀ q, ∃ s, e.resolve q = some s ∧ s.rendered = e.text ∧ s.kind ≠ .variadic

lemma rigid_primitive {id : String} (h : Naming.isPrimitive id) : (name id).Rigid := by
  intro q
  by_cases hany : id = Naming.anyType
  · subst hany
    exact ⟨.openAs Naming.anyType, rfl, rfl, by simp [TypeSignature.openAs]⟩
  · refine ⟨.value (qualifiedName id q true), by simp [resolve, resolveWith, hany], ?_, by
      simp [TypeSignature.value]⟩
    simp [TypeSignature.value, qualifiedName, h, text]

lemma rigid_selection (package id : String) : (qualified (name package) id).Rigid := by
  intro q
  by_cases hany : package = Naming.anyType
  · subst hany
    exact ⟨_, rfl, rfl, by simp [TypeSignature.qualified]⟩
  · refine ⟨.qualified (.value package) id, by simp [resolve, resolveWith, hany, qualifiedName], rfl, by
      simp [TypeSignature.qualified]⟩

lemma rigid_openType : openType.Rigid := fun _ => ⟨_, rfl, rfl, by simp [TypeSignature.openAs]⟩

lemma Rigid.slice {e : TypeExpr} (h : e.Rigid) : e.slice.Rigid := by
  intro q
  obtain ⟨s, hs, htext, -⟩ := h q
  have hs' : resolveWith q e true = some s := hs
  exact ⟨.wrap .sequence s, by simp [resolve, resolveWith, hs'], congrArg ("[]" ++ ·) htext, by
    simp [TypeSignature.wrap, TypeKind.sigil?]⟩

lemma Rigid.pointer {e : TypeExpr} (h : e.Rigid) : e.pointer.Rigid := by
  intro q
  obtain ⟨s, hs, htext, -⟩ := h q
  have hs' : resolveWith q e true = some s := hs
  exact ⟨.wrap .pointer s, by simp [resolve, resolveWith, hs'], congrArg ("*" ++ ·) htext, by
    simp [TypeSignature.wrap, TypeKind.sigil?]⟩

/-- A rigid type is rendered as it is written. -/
lemma Rigid.rendered {e : TypeExpr} (h : e.Rigid) {q : String} {s : TypeSignature}
    (hs : e.resolve q = some s) : e.text = s.rendered := by
  obtain ⟨s', hs', htext, -⟩ := h q
  rw [hs] at hs'
  obtain rfl := Option.some.inj hs'
  exact htext.symm

/-- A type that resolves is seen as it is rendered. It can be written, and stays as it is. -/
lemma seenFrom_spec {ns : String} (hns : IsName ns) {e : TypeExpr} (he : e.WellNamed)
    (hfree : e.isSpreadFree) {s : TypeSignature} (hs : e.resolve ns = some s) :
    (e.seenFrom ns).Plain ∧ (e.seenFrom ns).text = s.rendered ∧ (e.seenFrom ns).Rigid := by
  induction e generalizing s with
  | name id =>
    have hid : IsName id := he.2 id (by simp [names])
    cases hprim : Naming.isPrimitive id with
    | true =>
      have hseen : (name id).seenFrom ns = name id := by simp [seenFrom, hprim]
      rw [hseen]
      have hrigid := rigid_primitive hprim
      exact ⟨.nominal (.name hid), hrigid.rendered hs, hrigid⟩
    | false =>
      have hseen : (name id).seenFrom ns = qualified (name ns) id := by simp [seenFrom, hprim]
      have hany : id ≠ Naming.anyType := by
        rintro rfl
        exact absurd hprim (by decide)
      have hne : ns ≠ "" := by
        rintro rfl
        exact absurd hns (by decide)
      obtain rfl : .value (qualifiedName id ns true) = s := by
        simpa [resolve, resolveWith, hany] using hs
      rw [hseen]
      refine ⟨.nominal (.selection hns hid), ?_, rigid_selection ns id⟩
      simp [TypeSignature.value, qualifiedName, hprim, hne, text]
  | slice e ih =>
    obtain ⟨t, ht, rfl⟩ := Option.map_eq_some_iff.mp hs
    obtain ⟨hplain, htext, hrigid⟩ := ih he hfree ht
    exact ⟨.slice hplain, congrArg ("[]" ++ ·) htext, hrigid.slice⟩
  | pointer e ih =>
    obtain ⟨t, ht, rfl⟩ := Option.map_eq_some_iff.mp hs
    obtain ⟨hplain, htext, hrigid⟩ := ih he hfree ht
    exact ⟨.pointer hplain, congrArg ("*" ++ ·) htext, hrigid.pointer⟩
  -- spreads stand at the outside, and that one is taken off before
  | variadic e => simp [isSpreadFree] at hfree
  | openType => exact ⟨.openType, rigid_openType.rendered hs, rigid_openType⟩
  | qualified e id =>
    cases e with
    | name package =>
      have hrigid := rigid_selection package id
      have hselection : (qualified (name package) id).Nominal :=
        .selection (he.2 package (by simp [names])) (he.2 id (by simp [names]))
      exact ⟨.nominal hselection, hrigid.rendered hs, hrigid⟩
    | _ => exact absurd he.1 (by simp [packagesAreNames])
  | unsupported shape text => simp [resolve, resolveWith] at hs

end TypeExpr

/-! ## Slots -/

/-- What a parameter is declared as in a spec: of a type that can be written, is written like the slot's
and resolves to it. -/
structure Param.DeclaredAs (p : Param) (e : TypeExpr) : Prop where
  written : ∀ n, IsName n → ParamDecl.Written ⟨[n], e⟩
  text : e.text = p.slotType
  resolves : ∀ q, ∃ s, e.resolve q = some s ∧ s.rendered = p.slotType

/-- A result is declared as a type that is not variadic. -/
structure Param.ReturnedAs (p : Param) (e : TypeExpr) : Prop where
  plain : e.Plain
  text : e.text = p.slotType
  rigid : e.Rigid

lemma Param.ReturnedAs.declaredAs {p : Param} {e : TypeExpr} (h : p.ReturnedAs e) : p.DeclaredAs e where
  written n hn := .plain (by simpa using hn) h.plain
  text := h.text
  resolves q := by
    obtain ⟨s, hs, htext, -⟩ := h.rigid q
    exact ⟨s, hs, htext.trans h.text⟩

section Slots

variable {ns : String} {d : ParamDecl} {p : Param}

/-- A slot has one of the names of its group, if it has a name. -/
lemma isName_of_mem_slots (hd : d.WellNamed) (hp : p ∈ d.slots ns) (hne : p.name ≠ "") :
    IsName p.name := by
  unfold ParamDecl.slots at hp
  split at hp
  · obtain rfl := List.mem_singleton.mp hp
    exact absurd rfl hne
  · obtain ⟨n, hn, rfl⟩ := List.mem_map.mp hp
    exact hd.names n hn

/-- A slot without a type is declared with the open type. -/
lemma returnedAs_openType (h : p.signature = none) : p.ReturnedAs .openType :=
  ⟨.openType, by simp [Param.slotType, h, TypeExpr.text], TypeExpr.rigid_openType⟩

/-- A slot of a type that is not variadic is declared with the type as it is seen. -/
lemma returnedAs_seenFrom (hns : IsName ns) {e : TypeExpr} (he : e.WellNamed) (hfree : e.isSpreadFree)
    {s : TypeSignature} (hs : e.resolve ns = some s) (hp : p.signature = some s) :
    p.ReturnedAs (e.seenFrom ns) := by
  obtain ⟨hplain, htext, hrigid⟩ := TypeExpr.seenFrom_spec hns he hfree hs
  exact ⟨hplain, by rw [htext, Param.slotType, hp]; rfl, hrigid⟩

/-- A slot of a variadic type is declared with the variadic type over what is seen. -/
lemma declaredAs_variadic (hns : IsName ns) {e : TypeExpr} (he : e.WellNamed) (hfree : e.isSpreadFree)
    {s : TypeSignature} (hs : e.resolve ns = some s) (hp : p.signature = some (.wrap .variadic s)) :
    p.DeclaredAs (.variadic (e.seenFrom ns)) := by
  obtain ⟨hplain, htext, hrigid⟩ := TypeExpr.seenFrom_spec hns he hfree hs
  have htype : p.slotType = "..." ++ s.rendered := by
    rw [Param.slotType, hp]
    rfl
  refine ⟨fun n hn => .variadic (by simpa using hn) (by simp) hplain, ?_, fun q => ?_⟩
  · rw [htype, ← htext]
    rfl
  · obtain ⟨t, ht, hrendered, -⟩ := hrigid q
    have ht' : TypeExpr.resolveWith q (e.seenFrom ns) true = some t := ht
    refine ⟨.wrap .variadic t, by simp [TypeExpr.resolve, TypeExpr.resolveWith, ht'], ?_⟩
    rw [htype, ← htext, ← hrendered]
    rfl

/-- A type that was read is variadic as a whole, or in no part. -/
lemma spread_cases (hd : d.WellNamed) : d.type.isSpreadFree ∨
    ∃ e, d.type = .variadic e ∧ e.WellNamed ∧ e.isSpreadFree := by
  obtain ⟨-, htype, hspread⟩ := hd
  unfold TypeExpr.spreadsOutside at hspread
  split at hspread
  · rename_i e heq
    rw [heq] at htype
    exact .inr ⟨e, heq, htype, hspread⟩
  · exact .inl hspread

/-- Every slot that was read has a type with which it can be declared. -/
lemma exists_declaredAs (hns : IsName ns) (hd : d.WellNamed) (hp : p ∈ d.slots ns) :
    ∃ e, p.DeclaredAs e := by
  have hsignature := signature_of_mem_slots hp
  cases hresolve : d.type.resolve ns with
  | none => exact ⟨_, (returnedAs_openType (hsignature.trans hresolve)).declaredAs⟩
  | some s =>
    rw [hresolve] at hsignature
    rcases spread_cases hd with hfree | ⟨e, he, hnamed, hfree⟩
    · exact ⟨_, (returnedAs_seenFrom hns hd.type hfree hresolve hsignature).declaredAs⟩
    · rw [he] at hresolve
      obtain ⟨t, ht, rfl⟩ := Option.map_eq_some_iff.mp hresolve
      exact ⟨_, declaredAs_variadic hns hnamed hfree ht hsignature⟩

/-- Every result that was read has a type with which it can be declared. -/
lemma exists_returnedAs (hns : IsName ns) (hd : d.WellNamed)
    (hp : p ∈ (d.slots ns).map (·.notVariadic)) : ∃ e, p.ReturnedAs e := by
  obtain ⟨p, hslot, rfl⟩ := List.mem_map.mp hp
  have hsignature := signature_of_mem_slots hslot
  cases hvariadic : p.isVariadic with
  | true => exact ⟨_, returnedAs_openType (by simp [Param.notVariadic, hvariadic])⟩
  | false =>
    have hsame : p.notVariadic = p := by simp [Param.notVariadic, hvariadic]
    rw [hsame]
    cases hresolve : d.type.resolve ns with
    | none => exact ⟨_, returnedAs_openType (hsignature.trans hresolve)⟩
    | some s =>
      rw [hresolve] at hsignature
      rcases spread_cases hd with hfree | ⟨e, he, -, -⟩
      · exact ⟨_, returnedAs_seenFrom hns hd.type hfree hresolve hsignature⟩
      · rw [he] at hresolve
        obtain ⟨t, -, rfl⟩ := Option.map_eq_some_iff.mp hresolve
        simp [Param.isVariadic, hsignature, TypeSignature.wrap, TypeKind.sigil?] at hvariadic

end Slots

/-! ## Names -/

namespace Slots

lemma toList_candidate (i k : Nat) : (candidate (positional i) k).toList =
    'a' :: 'r' :: 'g' :: (Nat.toDigits 10 i ++ List.replicate k '_') := by
  simp [candidate, positional]

/-- A name that is made up can be read as a name, and would be kept. -/
lemma isName_candidate (i k : Nat) : IsName (candidate (positional i) k) := by
  have hdigit : ∀ c ∈ Nat.toDigits 10 i, Unicode.isNamePart c := by
    intro c hc
    exact Unicode.isNamePart_of_isDigit (Nat.isDigit_of_mem_toDigits (by decide) (by decide) hc)
  have hkeyword : ∀ word ∈ keywords, word.toList.take 3 ≠ ['a', 'r', 'g'] := by decide
  refine ⟨⟨'a', _, toList_candidate i k, by decide, ?_⟩,
    fun hmem => hkeyword _ hmem (by simp [toList_candidate])⟩
  intro c hc
  simp only [List.mem_cons, List.mem_append, List.mem_replicate] at hc
  rcases hc with rfl | rfl | hc | ⟨-, rfl⟩
  · decide
  · decide
  · exact hdigit c hc
  · decide

lemma keeps_candidate (i k : Nat) : keeps "" (candidate (positional i) k) := by
  have hne : ∀ name : String, name.toList.head? ≠ some 'a' → candidate (positional i) k ≠ name := by
    rintro name hhead rfl
    simp [toList_candidate] at hhead
  simp [keeps, hne "" (by decide), hne "_" (by decide)]

/-- The names of the parameters of a method that was read can be read, and would be kept. -/
lemma names_kept {params : List Param} (h : ∀ p ∈ params, p.name ≠ "" → IsName p.name) :
    ∀ n ∈ names params "", IsName n ∧ keeps "" n := by
  intro n hn
  rcases mem_names_iff.mp hn with ⟨p, hp, hkeeps, rfl⟩ | ⟨i, p, -, -, k, rfl, -⟩
  · have hne : p.name ≠ "" := by
      intro hempty
      simp [hempty, keeps] at hkeeps
    exact ⟨h p hp hne, hkeeps⟩
  · exact ⟨isName_candidate i k, keeps_candidate i k⟩

lemma namesFrom_of_keeps {receiver : String} (i : Nat) (taken : List String) {params : List Param}
    (h : ∀ p ∈ params, keeps receiver p.name) :
    namesFrom receiver i taken params = params.map (·.name) := by
  induction params generalizing i with
  | nil => rfl
  | cons p params ih =>
    obtain ⟨hp, hparams⟩ := List.forall_mem_cons.mp h
    rw [namesFrom_cons, if_pos hp, ih (i + 1) hparams, List.map_cons]

/-- Names that are kept stay as they are. -/
lemma names_of_keeps {params : List Param} {receiver : String}
    (h : ∀ p ∈ params, keeps receiver p.name) : names params receiver = params.map (·.name) :=
  namesFrom_of_keeps 0 _ h

end Slots

/-! ## Methods -/

namespace Method

/-- The spec of a method as a declaration, with a type for each parameter and each result. -/
def redeclared (m : Method) (paramType returnType : Param → TypeExpr) : MethodSpec where
  name := m.name
  signature := {
    params := ((Slots.names m.params "").zip m.params).map fun (n, p) => ⟨[n], paramType p⟩
    results := m.returns.map fun r => ⟨[], returnType r⟩
  }

/-- The types of the slots are such that the spec can be declared with them. -/
structure Declarable (m : Method) (paramType returnType : Param → TypeExpr) : Prop where
  name : IsName m.name
  names : ∀ p ∈ m.params, p.name ≠ "" → IsName p.name
  params : ∀ p ∈ m.params, p.DeclaredAs (paramType p)
  returns : ∀ r ∈ m.returns, r.ReturnedAs (returnType r)

section Redeclared

variable {m : Method} {paramType returnType : Param → TypeExpr}

lemma single?_of_plain {e : TypeExpr} (h : e.Plain) : Signature.single? [⟨[], e⟩] = some e := by
  cases h with
  | nominal h => cases h <;> rfl
  | _ => rfl

/-- Results are written alike: a single one without parentheses, since it is not variadic. -/
lemma resultText_redeclared {returns : List Param} (h : ∀ r ∈ returns, r.ReturnedAs (returnType r)) :
    Signature.resultText (returns.map fun r => ⟨[], returnType r⟩) = Slots.resultClause returns := by
  cases returns with
  | nil => rfl
  | cons r rest =>
    have htexts : ((r :: rest).map fun r => (⟨[], returnType r⟩ : ParamDecl)).map (·.text) =
        (r :: rest).map (·.slotType) := by
      rw [List.map_map]
      exact List.map_congr_left fun p hp => (h p hp).text
    cases rest with
    | nil =>
      have hr := h r List.mem_cons_self
      simp [Signature.resultText, single?_of_plain hr.plain, hr.text, Slots.resultClause]
    | cons r' rest =>
      have hlist : Signature.resultText ((r :: r' :: rest).map fun r => ⟨[], returnType r⟩) =
          " " ++ Signature.listText ((r :: r' :: rest).map fun r => ⟨[], returnType r⟩) := by
        simp [Signature.resultText, Signature.single?]
      rw [hlist, Signature.listText, htexts]
      have hclause : Slots.resultClause (r :: r' :: rest) =
          " (" ++ Slots.commaList ((r :: r' :: rest).map (·.slotType)) ++ ")" := rfl
      rw [hclause, Slots.commaList, ← String.toList_inj]
      simp only [String.toList_append]
      rfl

/-- The declaration is written like the spec. -/
lemma Declarable.text (h : m.Declarable paramType returnType) :
    (m.redeclared paramType returnType).text = m.spec := by
  have hparams : ((m.redeclared paramType returnType).signature.params).map (·.text) =
      ((Slots.names m.params "").zip m.params).map fun (n, p) => n ++ " " ++ p.slotType := by
    refine List.map_map.trans (List.map_congr_left ?_)
    rintro ⟨n, p⟩ hpair
    have htext : (paramType p).text = p.slotType := (h.params p (List.of_mem_zip hpair).2).text
    show namesBefore [n] (paramType p).text = _
    rw [htext]
    simp [namesBefore]
  show m.name ++ (Signature.listText _ ++ Signature.resultText _) = _
  rw [Signature.listText, hparams, redeclared, resultText_redeclared h.returns]
  simp [spec, header, Slots.paramList, Slots.commaList, String.append_assoc]

lemma Declarable.written (h : m.Declarable paramType returnType) :
    (m.redeclared paramType returnType).Written := by
  refine ⟨h.name, ⟨?_, .inr ?_⟩, ⟨?_, .inl ?_⟩⟩
  · intro d hd
    obtain ⟨⟨n, p⟩, hpair, rfl⟩ := List.mem_map.mp hd
    obtain ⟨hn, hp⟩ := List.of_mem_zip hpair
    exact (h.params p hp).written n (Slots.names_kept h.names n hn).1
  · intro d hd
    obtain ⟨⟨n, p⟩, -, rfl⟩ := List.mem_map.mp hd
    simp
  · intro d hd
    obtain ⟨r, hr, rfl⟩ := List.mem_map.mp hd
    exact .plain (by simp) (h.returns r hr).plain
  · intro d hd
    obtain ⟨r, -, rfl⟩ := List.mem_map.mp hd
    rfl

/-- The parameters of the method of the declaration. -/
lemma params_redeclared (m : Method) (paramType returnType : Param → TypeExpr) (q : String) :
    ((m.redeclared paramType returnType).signature.method q m.name).params =
      ((Slots.names m.params "").zip m.params).map fun (n, p) => ⟨n, (paramType p).resolve q⟩ := by
  rw [List.map_eq_flatMap]
  exact List.flatMap_map _ _ _

/-- The results of the method of the declaration, none of which is variadic. -/
lemma Declarable.returns_redeclared (h : m.Declarable paramType returnType) (q : String) :
    ((m.redeclared paramType returnType).signature.method q m.name).returns =
      m.returns.map fun r => ⟨"", (returnType r).resolve q⟩ := by
  have hslots : (m.redeclared paramType returnType).signature.results.flatMap (·.slots q) =
      m.returns.map fun r => ⟨"", (returnType r).resolve q⟩ := by
    rw [List.map_eq_flatMap]
    exact List.flatMap_map _ _ _
  show (List.flatMap _ _).map _ = _
  rw [hslots, List.map_map]
  refine List.map_congr_left fun r hr => ?_
  obtain ⟨s, hs, -, hkind⟩ := (h.returns r hr).rigid q
  simp [Param.notVariadic, Param.isVariadic, hs, hkind]

/-- A result clause, by the types of the results. -/
def clauseOf : List String → String
  | [] => ""
  | [type] => " " ++ type
  | types => " (" ++ Slots.commaList types ++ ")"

lemma resultClause_eq (returns : List Param) :
    Slots.resultClause returns = clauseOf (returns.map (·.slotType)) := by
  cases returns with
  | nil => rfl
  | cons r rest => cases rest <;> rfl

/-- The method of the declaration has the same spec, in whatever package it stands. -/
lemma Declarable.spec_method (h : m.Declarable paramType returnType) (q : String) :
    ((m.redeclared paramType returnType).signature.method q m.name).spec = m.spec := by
  have hnames : ∀ x ∈ ((Slots.names m.params "").zip m.params).map fun (n, p) =>
      (⟨n, (paramType p).resolve q⟩ : Param), Slots.keeps "" x.name := by
    intro x hx
    obtain ⟨⟨n, p⟩, hpair, rfl⟩ := List.mem_map.mp hx
    exact (Slots.names_kept h.names n (List.of_mem_zip hpair).1).2
  have hparams :
      Slots.paramList ((m.redeclared paramType returnType).signature.method q m.name).params "" =
      Slots.paramList m.params "" := by
    rw [params_redeclared, Slots.paramList, Slots.names_of_keeps hnames, List.map_map, List.zip_map',
      List.map_map,
      Slots.paramList]
    refine congrArg Slots.commaList (List.map_congr_left ?_)
    rintro ⟨n, p⟩ hpair
    obtain ⟨s, hs, htext⟩ := (h.params p (List.of_mem_zip hpair).2).resolves q
    simp [Param.slotType, hs, htext]
  have hreturns :
      Slots.resultClause ((m.redeclared paramType returnType).signature.method q m.name).returns =
      Slots.resultClause m.returns := by
    rw [h.returns_redeclared, resultClause_eq, resultClause_eq, List.map_map]
    refine congrArg clauseOf (List.map_congr_left fun r hr => ?_)
    obtain ⟨s, hs, htext⟩ := (h.returns r hr).declaredAs.resolves q
    simp [Param.slotType, hs, htext]
  show m.name ++ "(" ++ _ ++ ")" ++ _ = _
  rw [hparams, hreturns]
  rfl

/-- Building the method of the declaration reports nothing. -/
lemma Declarable.quiet (h : m.Declarable paramType returnType) (q owner : String) :
    Quiet (Build.method false owner q m.name (m.redeclared paramType returnType).signature)
      ((m.redeclared paramType returnType).signature.method q m.name) := by
  refine method_quiet ?_ ?_ ?_
  · intro d hd
    obtain ⟨⟨n, p⟩, hpair, rfl⟩ := List.mem_map.mp hd
    obtain ⟨s, hs, -⟩ := (h.params p (List.of_mem_zip hpair).2).resolves q
    exact Option.isSome_of_eq_some hs
  · intro d hd
    obtain ⟨r, hr, rfl⟩ := List.mem_map.mp hd
    obtain ⟨s, hs, -⟩ := (h.returns r hr).rigid q
    exact Option.isSome_of_eq_some hs
  · intro p hp
    obtain ⟨d, hd, hp⟩ := List.mem_flatMap.mp hp
    obtain ⟨r, hr, rfl⟩ := List.mem_map.mp hd
    obtain ⟨s, hs, -, hkind⟩ := (h.returns r hr).rigid q
    simp [Param.isVariadic, signature_of_mem_slots hp, hs, hkind]

end Redeclared

/-! ## The file of a spec -/

/-- A file of the given package that declares an interface with the method, and nothing else. -/
def specFile (m : Method) (package : String) : String :=
  Text.Block.render (.ofTexts ["package " ++ package, "", "type T interface \x7b", m.spec, "\x7d"])

section SpecFile

variable {m : Method} {paramType returnType : Param → TypeExpr} {q : String}

/-- The file is read as the interface with the redeclared method. -/
lemma Declarable.parse_specFile [ErrorRecovery] (h : m.Declarable paramType returnType) (hq : IsName q) :
    SourceFile.parse (m.specFile q) =
      .ok ⟨q, [.interface ⟨"T", [m.redeclared paramType returnType]⟩]⟩ := by
  have hspec : Spells m.spec (m.redeclared paramType returnType).lexemes endsWord := by
    rw [← h.text]
    exact h.written.spells
  have hheader : Spells "type T interface \x7b"
      [.keyword "type", .name "T", .keyword "interface", .symbol "\x7b"] endsWord := by
    have hword : "interface" ∈ keywords := by decide
    have hname : IsName "T" := by decide
    have htext : "type " ++ "T" ++ (" " ++ "interface" ++ " \x7b") = "type T interface \x7b" := by decide
    exact htext ▸ spells_typeHeader hname hword
  have hclose : Spells "\x7d" [.symbol "\x7d"] endsWord :=
    (Spells.sole (by decide)).mono fun _ _ => trivial
  have hrows : SpellsRows (.ofTexts ["package " ++ q, "", "type T interface \x7b", m.spec, "\x7d"])
      [[.keyword "package", .name q], [],
        [.keyword "type", .name "T", .keyword "interface", .symbol "\x7b"],
        (m.redeclared paramType returnType).lexemes, [.symbol "\x7d"]] :=
    .cons (spells_clause hq) (.cons .empty (.cons hheader (.cons hspec (.cons hclose .nil))))
  have hwritten : SourceFile.Written ⟨q, [.interface ⟨"T", [m.redeclared paramType returnType]⟩]⟩ := by
    have hname : IsName "T" := by decide
    exact ⟨hq, List.forall_mem_singleton.mpr ⟨hname, List.forall_mem_singleton.mpr h.written⟩⟩
  exact SourceFile.parse_of_marks? hwritten (marks?_render hrows false)

/-- Loading the file reports nothing, and gives one interface with the method of the declaration. -/
lemma Declarable.load_specFile [ErrorRecovery] (h : m.Declarable paramType returnType) (hq : IsName q) (ns : String) :
    (FileModel.load (m.specFile q) { serviceNamespace := ns, strict := false }).report =
      (.ok ⟨q, [], [⟨"T", [(m.redeclared paramType returnType).signature.method q m.name], q⟩], []⟩,
        []) := by
  have hinterface : Quiet (Build.interface false q ⟨"T", [m.redeclared paramType returnType]⟩)
      ⟨"T", [(m.redeclared paramType returnType).signature.method q m.name], q⟩ :=
    (h.quiet q "T").mapM_singleton.bind .pure
  -- there is no record and no service
  have hmodel : Quiet (SourceFile.model ⟨q, [.interface ⟨"T", [m.redeclared paramType returnType]⟩]⟩
      { serviceNamespace := ns, strict := false })
      ⟨q, [], [⟨"T", [(m.redeclared paramType returnType).signature.method q m.name], q⟩], []⟩ :=
    .bind (a := []) .pure (hinterface.mapM_singleton.bind (.bind (a := []) .pure .pure))
  rw [FileModel.load_of_parse (h.parse_specFile hq), report_eq_runFrom, runFrom_adapt, hmodel]
  rfl

end SpecFile

/-- In whatever package, the spec of a method that was loaded is read without a notice as an interface
with one method, which has the same spec. -/
theorem spec_of_load_specFile [ErrorRecovery] {source : String} {o : BuildOptions} {model : FileModel}
    (hload : (FileModel.load source o).report.1 = .ok model) {i : Interface} (hi : i ∈ model.interfaces)
    {m : Method} (hm : m ∈ i.methods) {q : String} (hq : IsName q) (ns : String) :
    ∃ m', (FileModel.load (m.specFile q) { serviceNamespace := ns, strict := false }).report =
        (.ok ⟨q, [], [⟨"T", [m'], q⟩], []⟩, []) ∧ m'.spec = m.spec := by
  obtain ⟨f, hparse, -, hinterfaces⟩ := exists_parse_of_load hload
  rw [hinterfaces] at hi
  obtain ⟨d, hd, rfl⟩ := List.mem_map.mp hi
  obtain ⟨s, hs, rfl⟩ := List.mem_map.mp hm
  have hf := wellNamed_of_parse hparse
  obtain ⟨hname, hsignature⟩ := (wellNamed_interface hf hd).2 s hs
  have hparams : ∀ p ∈ (s.signature.method f.package s.name).params, ∃ e, p.DeclaredAs e := by
    intro p hp
    obtain ⟨g, hg, hslot⟩ := List.mem_flatMap.mp hp
    exact exists_declaredAs hf.package (hsignature.1 g hg) hslot
  have hreturns : ∀ r ∈ (s.signature.method f.package s.name).returns, ∃ e, r.ReturnedAs e := by
    intro r hr
    obtain ⟨p, hp, rfl⟩ := List.mem_map.mp hr
    obtain ⟨g, hg, hslot⟩ := List.mem_flatMap.mp hp
    exact exists_returnedAs hf.package (hsignature.2 g hg) (List.mem_map_of_mem hslot)
  have hnames : ∀ p ∈ (s.signature.method f.package s.name).params, p.name ≠ "" → IsName p.name := by
    intro p hp
    obtain ⟨g, hg, hslot⟩ := List.mem_flatMap.mp hp
    exact isName_of_mem_slots (hsignature.1 g hg) hslot
  -- a type expression for every slot, to declare the method anew with
  have : Nonempty TypeExpr := ⟨.openType⟩
  choose! paramType hparamType using hparams
  choose! returnType hreturnType using hreturns
  have hdeclarable : (s.signature.method f.package s.name).Declarable paramType returnType :=
    ⟨hname, hnames, hparamType, hreturnType⟩
  exact ⟨_, hdeclarable.load_specFile hq ns, hdeclarable.spec_method q⟩

/-! A method with an unnamed parameter, a blank variadic one, and a result without a type. -/

/-- The cache, as it is declared. -/
def cacheSource : String :=
  "package store;type Cache interface\x7bPut(string, _ ...Item) (map[string]int, []Item)\x7d;"

/-- The method of the cache. -/
def putItems : Method where
  name := "Put"
  params := [⟨"", some (.value "string")⟩, ⟨"_", some (.wrap .variadic (.value "store.Item"))⟩]
  returns := [⟨"", none⟩, ⟨"", some (.wrap .sequence (.value "store.Item"))⟩]

lemma load_cacheSource : (FileModel.load cacheSource {}).report.1 =
    .ok ⟨"store", [], [⟨"Cache", [putItems], "store"⟩], []⟩ := by
  have hparse : SourceFile.parse cacheSource = .ok ⟨"store", [.interface ⟨"Cache", [⟨"Put",
      ⟨[⟨[], .name "string"⟩, ⟨["_"], .variadic (.name "Item")⟩],
        [⟨[], .unsupported .map "map[string]int"⟩, ⟨[], .slice (.name "Item")⟩]⟩⟩]⟩]⟩ := by
    decide +kernel
  rw [FileModel.load_of_parse hparse]
  rfl

/-- The names that are made up and the types that are qualified or open stay so in another package. -/
theorem spec_of_load_specFile_putItems :
    putItems.spec = "Put(arg0 string, arg1 ...store.Item) (interface\x7b\x7d, []store.Item)" ∧
      ∃ m', (FileModel.load (putItems.specFile "other") {}).report =
        (.ok ⟨"other", [], [⟨"T", [m'], "other"⟩], []⟩, []) ∧ m'.spec = putItems.spec :=
  ⟨by decide, spec_of_load_specFile load_cacheSource List.mem_cons_self List.mem_cons_self
    (by decide) "domain"⟩

end Method

end DeclGen
