import DeclGen.Proofs.Model.Runs

/-!
# What the builder makes

The model of a file apart from what is reported on the way. A method has a slot for each name of a group,
in order, with the group's type as it resolves; a variadic result has no type. What a run leaves out
with a notice leaves no other trace than an absent type, so that a strict and a lenient run make the
same methods.
-/

namespace DeclGen

open Logged

/-- The slots of a group: one for each name, or one without a name. -/
def ParamDecl.slots (ns : String) (d : ParamDecl) : List Param :=
  if d.names.isEmpty then [⟨"", d.type.resolve ns⟩] else d.names.map (⟨·, d.type.resolve ns⟩)

/-- The slot without its type, if that is variadic. -/
def Param.notVariadic (p : Param) : Param :=
  if p.isVariadic then { p with signature := none } else p

/-- The method of a signature whose types are declared in `ns`. -/
def Signature.method (ns name : String) (s : Signature) : Method where
  name := name
  params := s.params.flatMap (·.slots ns)
  returns := (s.results.flatMap (·.slots ns)).map (·.notVariadic)

/-- The interface of a declaration in the package `pkg`. -/
def InterfaceDecl.built (pkg : String) (d : InterfaceDecl) : Interface where
  name := d.name
  methods := d.methods.map fun m => m.signature.method pkg m.name
  package := pkg

/-- What is known of a slot of a group. -/
lemma signature_of_mem_slots {pkg : String} {g : ParamDecl} {p : Param} (hp : p ∈ g.slots pkg) :
    p.signature = g.type.resolve pkg := by
  unfold ParamDecl.slots at hp
  split at hp
  · obtain rfl := List.mem_singleton.mp hp
    rfl
  · obtain ⟨n, -, rfl⟩ := List.mem_map.mp hp
    rfl

section Build

variable {strict : Bool} {owner name ns : String}

lemma leaveOut_returns (cause : ModelError) :
    Returns (Build.leaveOut strict cause) fun _ => True := by
  unfold Build.leaveOut
  split
  · exact .throw cause
  · exact .notify _

lemma slots_returns (decl : ParamDecl) :
    Returns (Build.slots strict owner name ns decl) (· = decl.slots ns) := by
  have hrest : Returns
      (if decl.names.isEmpty then pure [⟨"", decl.type.resolve ns⟩]
        else pure (decl.names.map (⟨·, decl.type.resolve ns⟩)) : Logged ModelError (List Param))
      (· = decl.slots ns) := by
    unfold ParamDecl.slots
    split <;> exact .pure rfl
  unfold Build.slots
  dsimp only
  split
  · exact (leaveOut_returns _).bind fun _ _ => hrest
  · exact hrest

lemma dropVariadic_returns (p : Param) :
    Returns (Build.dropVariadic owner name p) (· = p.notVariadic) := by
  unfold Build.dropVariadic Param.notVariadic
  split
  · exact (Returns.notify _).bind fun _ _ => .pure rfl
  · exact .pure rfl

/-- A method that is built is the one that its signature describes. -/
lemma method_returns (sig : Signature) :
    Returns (Build.method strict owner ns name sig) (· = sig.method ns name) := by
  refine (Returns.mapM fun d _ => slots_returns d).bind fun params hparams => ?_
  refine (Returns.mapM fun d _ => slots_returns d).bind fun results hresults => ?_
  refine (Returns.mapM fun p _ => dropVariadic_returns p).bind fun returns hreturns => .pure ?_
  rw [hparams, hreturns, hresults, Signature.method, List.flatMap_def, List.flatMap_def]

lemma interface_returns (decl : InterfaceDecl) :
    Returns (Build.interface strict ns decl) (· = decl.built ns) := by
  refine (Returns.mapM fun m _ => method_returns m.signature).bind fun methods hmethods => .pure ?_
  rw [hmethods, InterfaceDecl.built]

/-! Nothing is reported of a declaration whose types all resolve and whose results are not variadic. -/

lemma slots_quiet {decl : ParamDecl} (h : (decl.type.resolve ns).isSome) :
    Quiet (Build.slots strict owner name ns decl) (decl.slots ns) := by
  have hnone : (decl.type.resolve ns).isNone = false := by simpa using h
  unfold Build.slots ParamDecl.slots
  simp only [hnone, Bool.false_eq_true, ite_false]
  split <;> exact .pure

lemma dropVariadic_quiet {p : Param} (h : p.isVariadic = false) :
    Quiet (Build.dropVariadic owner name p) p.notVariadic := by
  unfold Build.dropVariadic Param.notVariadic
  simp only [h, Bool.false_eq_true, ite_false]
  exact .pure

lemma method_quiet {sig : Signature} (hparams : ∀ d ∈ sig.params, (d.type.resolve ns).isSome)
    (hresults : ∀ d ∈ sig.results, (d.type.resolve ns).isSome)
    (hreturns : ∀ p ∈ sig.results.flatMap (·.slots ns), p.isVariadic = false) :
    Quiet (Build.method strict owner ns name sig) (sig.method ns name) := by
  refine (Quiet.mapM fun d hd => slots_quiet (hparams d hd)).bind ?_
  refine (Quiet.mapM fun d hd => slots_quiet (hresults d hd)).bind ?_
  refine (Quiet.mapM fun p hp => dropVariadic_quiet ?_).bind .pure
  exact hreturns p (by rwa [List.flatMap_def])

end Build

/-- Whatever the options, a model that is built has the package and the interfaces of its file. -/
theorem model_returns (f : SourceFile) (o : BuildOptions) :
    Returns (f.model o) fun m =>
      m.package = f.package ∧ m.interfaces = f.interfaces.map (·.built f.package) := by
  have hentities : Returns (f.structs.mapM (Build.entity o.strict f.package
      (f.structs.map (·.name)))) fun _ => True := fun _ _ _ => trivial
  have hservices : Returns (Build.services o f.methods) fun _ => True := fun _ _ _ => trivial
  refine hentities.bind fun entities _ => ?_
  refine (Returns.mapM fun d _ => interface_returns d).bind fun interfaces hinterfaces => ?_
  exact hservices.bind fun services _ => .pure ⟨rfl, hinterfaces⟩

/-- A model that was loaded is that of a file that was read, and has what all its models have. -/
theorem exists_parse_returns_of_load [ErrorRecovery] {source : String} {o : BuildOptions} {model : FileModel}
    (h : (FileModel.load source o).report.1 = .ok model) :
    ∃ f, SourceFile.parse source = .ok f ∧
      ∀ P : FileModel → Prop, Returns (f.model o) P → P model := by
  cases hparse : SourceFile.parse source with
  | error e =>
    rw [FileModel.load_of_parse_error hparse] at h
    cases h
  | ok f =>
    rw [FileModel.load_of_parse hparse, report_eq_runFrom, runFrom_adapt] at h
    rcases hmodel : ((f.model o).runFrom []).1 with e | built
    · rw [hmodel] at h
      cases h
    · rw [hmodel] at h
      obtain rfl : built = model := Except.ok.inj h
      exact ⟨f, rfl, fun P hP => hP [] built hmodel⟩

/-- A model that was loaded has the package and the interfaces of its file. -/
theorem exists_parse_of_load [ErrorRecovery] {source : String} {o : BuildOptions} {model : FileModel}
    (h : (FileModel.load source o).report.1 = .ok model) :
    ∃ f, SourceFile.parse source = .ok f ∧ model.package = f.package ∧
      model.interfaces = f.interfaces.map (·.built f.package) := by
  obtain ⟨f, hparse, hall⟩ := exists_parse_returns_of_load h
  exact ⟨f, hparse, hall _ (model_returns f o)⟩

end DeclGen
