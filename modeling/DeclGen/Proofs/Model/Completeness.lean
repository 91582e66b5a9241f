import DeclGen.Proofs.Declaration.Resolved
import DeclGen.Proofs.Model.Reported
import Mathlib.Data.List.Induction

/-!
# What a strict run lets pass

A model that is loaded strictly was made without a fault, so that every type in it resolved. What remains are
results of any number: they are dropped with a notice that is no fault. The methods of the model are therefore
complete, and nothing was reported, exactly when no such result is declared
(`FileModel.isTyped_and_silent_iff`).
-/

namespace DeclGen

open Logged

/-- A type that takes any number of values. -/
def TypeExpr.isVariadic : TypeExpr → Bool
  | variadic _ => true
  | _ => false

/-- Every slot of the method has a type. -/
structure Method.IsTyped (m : Method) : Prop where
  params : ∀ p ∈ m.params, p.signature.isSome
  returns : ∀ p ∈ m.returns, p.signature.isSome

/-- The methods of a model, of its interfaces and of its services. -/
def FileModel.methods (m : FileModel) : List Method :=
  m.interfaces.flatMap (·.methods) ++ m.services.flatMap (·.methods)

/-! ## The methods of a file -/

section Methods

variable {f : SourceFile} {ns : String} {m x : Method}

/-- A method that is added to the sets is among their methods, and no other comes or goes. -/
lemma mem_methods_insertMethod {receiver : String} {sets : List ServiceMethodSet} :
    x ∈ (Build.insertMethod receiver m sets).flatMap (·.methods)
      ↔ x = m ∨ x ∈ sets.flatMap (·.methods) := by
  induction sets with
  | nil => simp [Build.insertMethod]
  | cons s rest ih =>
    unfold Build.insertMethod
    split
    · simp only [List.flatMap_cons, List.mem_append, List.mem_singleton]
      rw [or_assoc, or_left_comm]
    · rw [List.flatMap_cons, List.mem_append, ih, List.flatMap_cons, List.mem_append, or_left_comm]

/-- The service sets hold the methods of the services, each one once for every declaration. -/
lemma mem_methods_serviceSets {decls : List MethodDecl} :
    x ∈ (serviceSets ns decls).flatMap (·.methods)
      ↔ ∃ d ∈ decls, d.isServed ∧ x = (d.contract ns).method := by
  -- by the last declaration, as it is added to the sets of those before it
  induction decls using List.reverseRecOn with
  | nil => simp [serviceSets]
  | append_singleton decls d ih =>
    rw [serviceSets, List.foldl_append, List.foldl_cons, List.foldl_nil, ← serviceSets]
    by_cases hserved : d.isServed
    · rw [if_pos hserved, mem_methods_insertMethod, ih]
      simp [or_and_right, exists_or, hserved, or_comm]
    · rw [if_neg hserved, ih]
      simp [or_and_right, exists_or, hserved]

/-- The methods of a model are those of the contracts of its file. -/
lemma mem_methods_built : x ∈ (f.built ns).methods ↔ ∃ c ∈ f.contracts ns, x = c.method := by
  have hinterfaces : x ∈ (f.built ns).interfaces.flatMap (·.methods)
      ↔ ∃ c ∈ f.interfaces.flatMap (·.contracts f.package), x = c.method := by
    simp only [SourceFile.built, InterfaceDecl.contracts, InterfaceDecl.built, List.flatMap_map,
      List.mem_flatMap, List.mem_map]
    constructor
    · rintro ⟨d, hd, spec, hspec, rfl⟩
      exact ⟨_, ⟨d, hd, spec, hspec, rfl⟩, rfl⟩
    · rintro ⟨c, ⟨d, hd, spec, hspec, rfl⟩, rfl⟩
      exact ⟨d, hd, spec, hspec, rfl⟩
  have hservices : x ∈ (f.built ns).services.flatMap (·.methods)
      ↔ ∃ c ∈ (f.methods.filter (·.isServed)).map (·.contract ns), x = c.method := by
    rw [SourceFile.built, mem_methods_serviceSets]
    simp only [List.mem_map, List.mem_filter]
    constructor
    · rintro ⟨d, hd, hserved, rfl⟩
      exact ⟨_, ⟨d, ⟨hd, hserved⟩, rfl⟩, rfl⟩
    · rintro ⟨c, ⟨d, ⟨hd, hserved⟩, rfl⟩, rfl⟩
      exact ⟨d, hd, hserved, rfl⟩
  rw [FileModel.methods, List.mem_append, hinterfaces, hservices, SourceFile.contracts]
  simp only [List.mem_append, or_and_right, exists_or]

end Methods

/-! ## Notices without faults -/

section Faults

variable {ns : String}

/-- The only notice that is no fault is that of a dropped result. -/
lemma fault?_eq_none_iff {n : Notice} :
    n.fault? = none ↔ ∃ owner method, n = .variadicReturnDropped owner method := by
  cases n <;> simp [Notice.fault?]

/-- A record has nothing to report but faults. -/
lemma StructDecl.notices_eq_nil {pkg : String} {d : StructDecl}
    (h : ∀ n ∈ d.notices pkg, n.fault? = none) : d.notices pkg = [] := by
  rw [List.eq_nil_iff_forall_not_mem]
  intro n hn
  have hnone := h n hn
  obtain ⟨⟨g, name⟩, -, hg⟩ := List.mem_flatMap.mp hn
  unfold FieldDecl.notices at hg
  dsimp only at hg
  split at hg
  · obtain rfl := List.mem_singleton.mp hg
    cases hnone
  · split at hg
    · cases hg
    · split at hg
      · obtain rfl := List.mem_singleton.mp hg
        cases hnone
      · cases hg

/-- Where no fault is reported of a group, its type resolves. -/
lemma ParamDecl.resolves_of_notices {owner method : String} {d : ParamDecl}
    (h : ∀ n ∈ d.notices owner method ns, n.fault? = none) : (d.type.resolve ns).isSome := by
  unfold ParamDecl.notices at h
  split at h
  · exact absurd (h _ (List.mem_singleton.mpr rfl)) (by simp [Notice.fault?])
  · next hresolves => exact Option.isSome_iff_ne_none.mpr (by simpa using hresolves)

/-- A group without names has a slot too. -/
lemma ParamDecl.slots_ne_nil (d : ParamDecl) (ns : String) : d.slots ns ≠ [] := by
  unfold ParamDecl.slots
  split
  · exact List.cons_ne_nil _ _
  · next hnames => simpa using hnames

/-- Where the type of a group resolves, nothing is reported of it. -/
lemma ParamDecl.notices_of_resolves {d : ParamDecl} (h : (d.type.resolve ns).isSome)
    (owner method : String) : d.notices owner method ns = [] := by
  unfold ParamDecl.notices
  rw [if_neg (by simpa using Option.isSome_iff_ne_none.mp h)]

/-- A type resolves to a variadic slot when it is declared as one. -/
lemma kind_eq_variadic_iff {e : TypeExpr} {s : TypeSignature} (h : e.resolve ns = some s) :
    s.kind = .variadic ↔ e.isVariadic := by
  have hresolution := TypeExpr.resolveWith_characterization ns e true
  rw [show TypeExpr.resolveWith ns e true = some s from h] at hresolution
  rw [← Option.some_inj, ← hresolution.2.root]
  cases e with
  | name id => by_cases hany : id = Naming.anyType <;> simp [TypeExpr.kind?, TypeExpr.isVariadic, hany]
  | _ => simp [TypeExpr.kind?, TypeExpr.isVariadic]

end Faults

/-! ## Methods without faults -/

namespace Contract

variable {c : Contract}

/-- No result of the contract takes any number of values. -/
def FixesResults (c : Contract) : Prop := ∀ d ∈ c.signature.results, d.type.isVariadic = false

instance (c : Contract) : Decidable c.FixesResults :=
  inferInstanceAs (Decidable (∀ d ∈ c.signature.results, d.type.isVariadic = false))

/-- Where no fault is reported of a contract, all its types resolve. -/
lemma resolves_of_notices (h : ∀ n ∈ c.notices, n.fault? = none) :
    ∀ d ∈ c.signature.params ++ c.signature.results, (d.type.resolve c.ns).isSome := by
  intro d hd
  have hnotices : ∀ n ∈ d.notices c.owner c.name c.ns, n ∈ c.notices := by
    intro n hn
    rcases List.mem_append.mp hd with hparam | hresult
    · exact List.mem_append_left _ (List.mem_flatMap_of_mem hparam hn)
    · exact List.mem_append_right _ (List.mem_append_left _ (List.mem_flatMap_of_mem hresult hn))
  exact ParamDecl.resolves_of_notices fun n hn => h n (hnotices n hn)

section Resolved

variable (h : ∀ d ∈ c.signature.params ++ c.signature.results, (d.type.resolve c.ns).isSome)
include h

/-- The parameters of a contract whose types resolve are typed. -/
lemma params_typed : ∀ p ∈ c.method.params, p.signature.isSome := by
  intro p hp
  obtain ⟨d, hd, hslot⟩ := List.mem_flatMap.mp hp
  rw [signature_of_mem_slots hslot]
  exact h d (List.mem_append_left _ hd)

/-- A result is variadic when it is declared so, and every group of results has a slot. -/
lemma forall_isVariadic_iff :
    (∀ p ∈ c.signature.results.flatMap (·.slots c.ns), p.isVariadic = false) ↔ c.FixesResults := by
  have hslot : ∀ d ∈ c.signature.results, ∀ p ∈ d.slots c.ns, p.isVariadic = d.type.isVariadic := by
    intro d hd p hp
    obtain ⟨s, hs⟩ := Option.isSome_iff_exists.mp (h d (List.mem_append_right _ hd))
    rw [Param.isVariadic, signature_of_mem_slots hp, hs, Option.any_some, Bool.eq_iff_iff, beq_iff_eq,
      kind_eq_variadic_iff hs]
  constructor
  · intro hfixed d hd
    obtain ⟨p, hp⟩ := List.exists_mem_of_ne_nil _ (ParamDecl.slots_ne_nil d c.ns)
    rw [← hslot d hd p hp]
    exact hfixed p (List.mem_flatMap_of_mem hd hp)
  · intro hfixed p hp
    obtain ⟨d, hd, hp⟩ := List.mem_flatMap.mp hp
    rw [hslot d hd p hp]
    exact hfixed d hd

/-- The results are typed when none of them is dropped. -/
lemma returns_typed_iff : (∀ p ∈ c.method.returns, p.signature.isSome) ↔ c.FixesResults := by
  rw [← forall_isVariadic_iff h]
  have hreturns : c.method.returns = (c.signature.results.flatMap (·.slots c.ns)).map (·.notVariadic) := rfl
  rw [hreturns, List.forall_mem_map]
  refine forall₂_congr fun p hp => ?_
  obtain ⟨d, hd, hslot⟩ := List.mem_flatMap.mp hp
  have htyped : p.signature.isSome := by
    rw [signature_of_mem_slots hslot]
    exact h d (List.mem_append_right _ hd)
  unfold Param.notVariadic
  by_cases hvariadic : p.isVariadic
  · rw [if_pos hvariadic]
    simp [hvariadic]
  · rw [if_neg hvariadic]
    simp [hvariadic, htyped]

/-- Nothing is reported when no result is dropped. -/
lemma notices_eq_nil_iff : c.notices = [] ↔ c.FixesResults := by
  have hquiet : ∀ {groups : List ParamDecl}, groups ⊆ c.signature.params ++ c.signature.results →
      groups.flatMap (·.notices c.owner c.name c.ns) = [] := by
    intro groups hgroups
    rw [List.flatMap_eq_nil_iff]
    exact fun d hd => ParamDecl.notices_of_resolves (h d (hgroups hd)) _ _
  rw [notices, hquiet (List.subset_append_left _ _), hquiet (List.subset_append_right _ _),
    List.nil_append, List.nil_append, List.flatMap_eq_nil_iff, ← forall_isVariadic_iff h]
  refine forall₂_congr fun p _ => ?_
  unfold Param.notices
  cases p.isVariadic <;> simp

end Resolved

end Contract

/-! ## Strict models -/

/-- In a model that is loaded strictly every parameter has a type, and all that was reported are dropped
results. Every result has a type too, and nothing at all was reported, exactly when the file declares no result
of any number in a method of an interface or of a service. -/
theorem FileModel.isTyped_and_silent_iff [ErrorRecovery] {source ns : String} {model : FileModel} {log : List Notice}
    (h : (FileModel.load source ⟨ns, true⟩).report = (.ok model, log)) :
    ∃ f, SourceFile.parse source = .ok f ∧
      (∀ m ∈ model.methods, ∀ p ∈ m.params, p.signature.isSome) ∧
      (∀ n ∈ log, ∃ owner method, n = .variadicReturnDropped owner method) ∧
      ((∀ m ∈ model.methods, m.IsTyped) ∧ log = [] ↔ ∀ c ∈ f.contracts ns, c.FixesResults) := by
  obtain ⟨f, hparse, hfaults, rfl, rfl⟩ := exists_built_of_load_strict h
  have hresolves : ∀ c ∈ f.contracts ns,
      ∀ d ∈ c.signature.params ++ c.signature.results, (d.type.resolve c.ns).isSome := by
    intro c hc
    refine Contract.resolves_of_notices fun n hn => hfaults n ?_
    exact List.mem_append_right _ (List.mem_flatMap_of_mem hc hn)
  refine ⟨f, hparse, ?_, fun n hn => fault?_eq_none_iff.mp (hfaults n hn), ?_⟩
  · intro m hm
    obtain ⟨c, hc, rfl⟩ := mem_methods_built.mp hm
    exact Contract.params_typed (hresolves c hc)
  constructor
  · rintro ⟨htyped, -⟩ c hc
    have hmethod := htyped c.method (mem_methods_built.mpr ⟨c, hc, rfl⟩)
    exact (Contract.returns_typed_iff (hresolves c hc)).mp hmethod.returns
  · intro hfixed
    refine ⟨fun m hm => ?_, ?_⟩
    · obtain ⟨c, hc, rfl⟩ := mem_methods_built.mp hm
      exact ⟨Contract.params_typed (hresolves c hc),
        (Contract.returns_typed_iff (hresolves c hc)).mpr (hfixed c hc)⟩
    · rw [SourceFile.notices, List.append_eq_nil_iff, List.flatMap_eq_nil_iff, List.flatMap_eq_nil_iff]
      refine ⟨fun d hd => StructDecl.notices_eq_nil fun n hn => hfaults n ?_, fun c hc => ?_⟩
      · exact List.mem_append_left _ (List.mem_flatMap_of_mem hd hn)
      · exact (Contract.notices_eq_nil_iff (hresolves c hc)).mpr (hfixed c hc)

/-- An interface with one method whose parameter takes any number of values. -/
def finderSource : String :=
  "package store\n\ntype Finder interface \x7b\n\tFind(ids ...string) (int, error)\n\x7d\n"

/-- The method of the finder. -/
def findMany : Method where
  name := "Find"
  params := [⟨"ids", some (.wrap .variadic (.value "string"))⟩]
  returns := [⟨"", some (.value "int")⟩, ⟨"", some (.value "error")⟩]

/-- A parameter of any number keeps its type in a strict run. -/
theorem isTyped_finderSource :
    (FileModel.load finderSource ⟨"domain", true⟩).report
        = (.ok ⟨"store", [], [⟨"Finder", [findMany], "store"⟩], []⟩, []) ∧ findMany.IsTyped := by
  have hfile : SourceFile.parse finderSource = .ok ⟨"store", [.interface ⟨"Finder", [⟨"Find",
      ⟨[⟨["ids"], .variadic (.name "string")⟩], [⟨[], .name "int"⟩, ⟨[], .name "error"⟩]⟩⟩]⟩]⟩ := by
    decide +kernel
  have hload : (FileModel.load finderSource ⟨"domain", true⟩).report
      = (.ok ⟨"store", [], [⟨"Finder", [findMany], "store"⟩], []⟩, []) := by
    rw [FileModel.load_of_parse hfile]
    decide
  refine ⟨hload, ?_⟩
  obtain ⟨f, hparse, -, -, hiff⟩ := FileModel.isTyped_and_silent_iff hload
  obtain rfl := Except.ok.inj (hparse.symm.trans hfile)
  exact (hiff.mpr (by decide)).1 findMany (by decide)

/-- An interface with one method that returns any number of values. -/
def spreaderSource : String :=
  "package store\n\ntype Spreader interface \x7b\n\tSpread() (all ...int)\n\x7d\n"

/-- A result of any number loses its type in a strict run too, which ends well and reports it. -/
theorem not_isTyped_spreaderSource :
    ∃ model log, (FileModel.load spreaderSource ⟨"domain", true⟩).report = (.ok model, log) ∧
      ¬ ((∀ m ∈ model.methods, m.IsTyped) ∧ log = []) := by
  have hload : (FileModel.load spreaderSource ⟨"domain", true⟩).report
      = (.ok ⟨"store", [], [⟨"Spreader", [⟨"Spread", [], [⟨"all", none⟩]⟩], "store"⟩], []⟩,
          [.variadicReturnDropped "Spreader" "Spread"]) := by decide +kernel
  refine ⟨_, _, hload, fun ⟨htyped, _⟩ => ?_⟩
  have hspread := htyped ⟨"Spread", [], [⟨"all", none⟩]⟩ (by decide)
  exact absurd (hspread.returns ⟨"all", none⟩ (by decide)) (by decide)

end DeclGen
