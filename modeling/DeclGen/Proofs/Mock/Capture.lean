import DeclGen.Config.Pipeline
import DeclGen.Generate.Mock
import DeclGen.Proofs.Model.Built
import DeclGen.Proofs.Slots.Names
import DeclGen.Proofs.Source.WellNamed
import DeclGen.Proofs.ZeroValue
import Mathlib.Data.List.Basic

/-!
# Parameters that hide a zero value

A method of a mock returns zero values in a scope where its parameters are declared. The expression of a
zero value begins with a name: a package, a type that is used as a conversion, or `nil` or `false`. That
name is read off the result as it is declared (`TypeExpr.zeroName`), and the names of the parameters are
made without regard to it. Here it is settled when one of them is the same
(`Mock.leadingName_zeroValue_notMem_names_iff`).
-/

namespace DeclGen

open Source

/-! ## The name at the front of a zero value -/

/-- The name with which the zero value of a type of the package `pkg` begins; empty for a text literal,
which begins with none. -/
def TypeExpr.zeroName (pkg : String) : TypeExpr → String
  | name id =>
    if id = "string" then ""
    else if id = "bool" then "false"
    else if id ∈ ["error", Naming.anyType, "interface"] then "nil"
    else if Naming.isPrimitive id then id
    else pkg
  | qualified (name package) _ => package
  | qualified _ _ | slice _ | pointer _ | variadic _ | openType | unsupported _ _ => "nil"

section ZeroNames

variable {id pkg : String}

lemma zeroName_of_isPrimitive_false (h : Naming.isPrimitive id = false) :
    (TypeExpr.name id).zeroName pkg = pkg := by
  have hne : ∀ n ∈ Naming.primitives, id ≠ n := fun n => ne_of_isPrimitive_false h
  simp [TypeExpr.zeroName, h, hne "string" (by decide), hne "bool" (by decide),
    hne "error" (by decide), hne Naming.anyType (by decide), hne "interface" (by decide)]

/-- The zero value of a predeclared name begins alike in every package. -/
lemma leadingName_zeroOfName (h : Naming.isPrimitive id) :
    leadingName (zeroOfName id) = (TypeExpr.name id).zeroName pkg := by
  have hall : ∀ n ∈ Naming.primitives, leadingName (zeroOfName n) = (TypeExpr.name n).zeroName "" := by
    decide
  have hany : (TypeExpr.name id).zeroName pkg = (TypeExpr.name id).zeroName "" := by
    simp [TypeExpr.zeroName, h]
  rw [hany]
  exact hall id (by simpa [Naming.isPrimitive] using h)

/-- A composite literal of a selected type begins with the package. -/
lemma leadingName_selection {package : String} (h : IsName package) (id : String) :
    leadingName (package ++ "." ++ id ++ "\x7b\x7d") = package := by
  rw [String.append_assoc, String.append_assoc]
  refine leadingName_append h fun c hc => ?_
  obtain rfl : c = '.' := by simpa using hc.symm
  decide

lemma leadingName_nil : leadingName "nil" = "nil" := by decide

end ZeroNames

/-! ## The zero value of a result -/

section Results

variable {pkg : String} (slot : String)

/-- A type that is wrapped has no other zero value than `nil`, whether it resolves or not. -/
lemma zeroValue_wrap {kind : TypeKind} (hkind : kind ∈ [.sequence, .pointer, .variadic])
    (inner : Option TypeSignature) :
    (Param.notVariadic ⟨slot, inner.map (.wrap kind)⟩).zeroValue = "nil" := by
  simp only [List.mem_cons, List.not_mem_nil, or_false] at hkind
  cases inner with
  | none => rfl
  | some t => rcases hkind with rfl | rfl | rfl <;> rfl

/-- The zero value of a named type is that of the name as it is seen from outside. -/
lemma zeroValue_name {id : String} (h : id ≠ Naming.anyType) :
    (Param.notVariadic ⟨slot, (TypeExpr.name id).resolve pkg⟩).zeroValue =
      zeroOfName (TypeExpr.qualifiedName id pkg true) := by
  have hresolve : (TypeExpr.name id).resolve pkg =
      some (.value (TypeExpr.qualifiedName id pkg true)) := by
    simp [TypeExpr.resolve, TypeExpr.resolveWith, h]
  rw [hresolve]
  rfl

/-- The zero value of a selection is a composite literal of it. -/
lemma zeroValue_selection (package id : String) :
    (Param.notVariadic ⟨slot, (TypeExpr.qualified (.name package) id).resolve pkg⟩).zeroValue =
      package ++ "." ++ id ++ "\x7b\x7d" := by
  have hresolve : ∃ t, (TypeExpr.name package).resolveWith pkg false = some t ∧ t.rendered = package := by
    by_cases hany : package = Naming.anyType
    · exact ⟨.openAs Naming.anyType, by simp [TypeExpr.resolveWith, hany], hany.symm⟩
    · exact ⟨.value package, by simp [TypeExpr.resolveWith, TypeExpr.qualifiedName, hany], rfl⟩
  obtain ⟨t, ht, htext⟩ := hresolve
  have hslot : (TypeExpr.qualified (.name package) id).resolve pkg = some (.qualified t id) := by
    rw [TypeExpr.resolve, TypeExpr.resolveWith, ht]
    rfl
  rw [hslot, ← htext]
  rfl

/-- The zero value of a result that is declared in the package `pkg` begins with the name that is read
off its type. -/
theorem leadingName_zeroValue (hpkg : IsName pkg) {e : TypeExpr} (he : e.WellNamed) :
    leadingName (Param.notVariadic ⟨slot, e.resolve pkg⟩).zeroValue = e.zeroName pkg := by
  cases e with
  | name id =>
    by_cases hany : id = Naming.anyType
    · subst hany
      exact leadingName_nil
    rw [zeroValue_name slot hany]
    cases hprim : Naming.isPrimitive id with
    | true =>
      rw [show TypeExpr.qualifiedName id pkg true = id by simp [TypeExpr.qualifiedName, hprim]]
      exact leadingName_zeroOfName hprim
    | false =>
      -- outside its package the name has a dot, so it cannot be taken for a predeclared one
      have hseen : TypeExpr.qualifiedName id pkg true = pkg ++ "." ++ id := by
        simp [TypeExpr.qualifiedName, hprim, hpkg.ne_empty]
      rw [hseen, zeroOfName_of_isPrimitive_false (isPrimitive_false_of_dot (by simp)),
        leadingName_selection hpkg, zeroName_of_isPrimitive_false hprim]
  | slice e => exact (congrArg leadingName (zeroValue_wrap slot (by simp) _)).trans leadingName_nil
  | pointer e => exact (congrArg leadingName (zeroValue_wrap slot (by simp) _)).trans leadingName_nil
  | variadic e => exact (congrArg leadingName (zeroValue_wrap slot (by simp) _)).trans leadingName_nil
  | openType => exact leadingName_nil
  | qualified e id =>
    cases e with
    | name package =>
      rw [zeroValue_selection, leadingName_selection (he.2 package (by simp [TypeExpr.names]))]
      rfl
    | _ => exact absurd he.1 (by simp [TypeExpr.packagesAreNames])
  | unsupported shape text => exact leadingName_nil

end Results

/-! ## The results of a method of a mock -/

namespace Mock

/-- A parameter is called `name` in a method of a mock: one that keeps the name it is declared with, or
one whose name is made up. -/
def Hides (m : Method) (name : String) : Prop :=
  (∃ p ∈ m.params, Slots.keeps receiver p.name ∧ p.name = name) ∨
  ∃ n p, m.params[n]? = some p ∧ Slots.keeps receiver p.name = false ∧
    Slots.MadeUp (Slots.reserved m.params receiver) (Slots.positional n) name

/-- In every model that is loaded, the zero value of a result begins with the name that is read off the
declared type, and the parameters of the method leave that name alone exactly when none is declared by it
and it is made up for none. -/
theorem leadingName_zeroValue_notMem_names_iff [ErrorRecovery] {source : String} {o : BuildOptions} {model : FileModel}
    (hload : (FileModel.load source o).report.1 = .ok model) {i : Interface} (hi : i ∈ model.interfaces)
    {m : Method} (hm : m ∈ i.methods) {r : Param} (hr : r ∈ m.returns) :
    ∃ f d s g, SourceFile.parse source = .ok f ∧ d ∈ f.interfaces ∧ s ∈ d.methods ∧
      m = s.signature.method f.package s.name ∧ g ∈ s.signature.results ∧
      r ∈ (g.slots f.package).map (·.notVariadic) ∧
      leadingName r.zeroValue = g.type.zeroName f.package ∧
      (leadingName r.zeroValue ∉ Slots.names m.params receiver ↔
        ¬ Hides m (g.type.zeroName f.package)) := by
  -- the method and the result are traced back to their declarations
  obtain ⟨f, hparse, -, hinterfaces⟩ := exists_parse_of_load hload
  rw [hinterfaces] at hi
  obtain ⟨d, hd, rfl⟩ := List.mem_map.mp hi
  obtain ⟨s, hs, rfl⟩ := List.mem_map.mp hm
  obtain ⟨p, hp, rfl⟩ := List.mem_map.mp hr
  obtain ⟨g, hg, hslot⟩ := List.mem_flatMap.mp hp
  have hf := wellNamed_of_parse hparse
  have hsignature := ((wellNamed_interface hf hd).2 s hs).2
  have hname : leadingName p.notVariadic.zeroValue = g.type.zeroName f.package := by
    have hresult := leadingName_zeroValue p.name hf.package (hsignature.2 g hg).2
    rwa [← signature_of_mem_slots hslot] at hresult
  refine ⟨f, d, s, g, hparse, hd, hs, rfl, hg, List.mem_map_of_mem hslot, hname, not_congr ?_⟩
  rw [hname]
  exact Slots.mem_names_iff

/-! A store whose method calls a parameter like the package. -/

/-- The account store, as it is declared. -/
def accountStore : String :=
  "package account;type Store interface{Find(account string)(Account,error)};"

/-- The method of the account store. -/
def findAccount : Method where
  name := "Find"
  params := [⟨"account", some (.value "string")⟩]
  returns := [⟨"", some (.value "account.Account")⟩, ⟨"", some (.value "error")⟩]

lemma load_accountStore : (FileModel.load accountStore {}).report.1 =
    .ok ⟨"account", [], [⟨"Store", [findAccount], "account"⟩], []⟩ := by
  have hparse : SourceFile.parse accountStore = .ok ⟨"account", [.interface ⟨"Store", [⟨"Find",
      ⟨[⟨["account"], .name "string"⟩], [⟨[], .name "Account"⟩, ⟨[], .name "error"⟩]⟩⟩]⟩]⟩ := by
    decide +kernel
  rw [FileModel.load_of_parse hparse]
  rfl

/-- The zero value of the error is `nil`, which the parameter does not hide. -/
theorem nil_notMem_names_findAccount :
    ∃ model, (FileModel.load accountStore {}).report.1 = .ok model ∧
      ∃ i ∈ model.interfaces, ∃ m ∈ i.methods, ∃ r ∈ m.returns,
        leadingName r.zeroValue = "nil" ∧ leadingName r.zeroValue ∉ Slots.names m.params receiver := by
  have hr : (⟨"", some (.value "error")⟩ : Param) ∈ findAccount.returns := by simp [findAccount]
  refine ⟨_, load_accountStore, _, List.mem_cons_self, _, List.mem_cons_self, _, hr, by decide, ?_⟩
  obtain ⟨f, d, s, g, -, -, -, -, -, -, hname, hiff⟩ :=
    leadingName_zeroValue_notMem_names_iff load_accountStore List.mem_cons_self List.mem_cons_self hr
  have hkept : ∀ p ∈ findAccount.params, p.name ≠ "nil" ∧ Slots.keeps receiver p.name := by decide
  rw [hiff, ← hname]
  rintro (⟨p, hp, -, heq⟩ | ⟨n, p, hp, hkeeps, -⟩)
  · exact (hkept p hp).1 heq
  · exact absurd (hkept p (List.mem_of_getElem? hp)).2 (by simp [hkeeps])

/-- The zero value of the account is a literal of a type from the package, which the parameter hides. -/
theorem account_mem_names_findAccount :
    ∃ model, (FileModel.load accountStore {}).report.1 = .ok model ∧
      ∃ i ∈ model.interfaces, ∃ m ∈ i.methods, ∃ r ∈ m.returns,
        leadingName r.zeroValue ∈ Slots.names m.params receiver :=
  ⟨_, load_accountStore, _, List.mem_cons_self, findAccount, List.mem_cons_self,
    ⟨"", some (.value "account.Account")⟩, List.mem_cons_self, by decide⟩

end Mock

end DeclGen
