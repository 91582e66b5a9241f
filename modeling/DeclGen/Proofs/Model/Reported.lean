import DeclGen.Proofs.Model.Built
import DeclGen.Proofs.Model.Strictness

/-!
# What the builder makes and reports

The builder is described by two plain functions of the declarations: what it makes, and the notices that it gives
on the way. `Tells` joins them to a run of either kind: a lenient run returns the one and reports the other, and
a strict run does the same up to the first fault among the notices, with which it fails.
-/

namespace DeclGen

namespace Logged

section Telling

variable {α β : Type} {strict : Bool}

/-! ## Telling runs -/

/-- The end of a run that comes to `a` by way of these notices: a strict one fails at the first fault among
them, and what was reported before is kept. -/
def ending (strict : Bool) (a : α) : List Notice → List Notice → Except ModelError α × List Notice
  | [], log => (.ok a, log)
  | n :: added, log =>
    match strict, n.fault? with
    | true, some cause => (.error cause, log)
    | _, _ => ending strict a added (log ++ [n])

/-- The computation comes to `a` by way of the notices `added`, whatever was reported before. -/
def Tells (strict : Bool) (x : Logged ModelError α) (a : α) (added : List Notice) : Prop :=
  ∀ log, x.runFrom log = ending strict a added log

/-- A lenient run goes through. -/
lemma ending_lenient (a : α) (added log : List Notice) :
    ending false a added log = (.ok a, log ++ added) := by
  induction added generalizing log with
  | nil => rw [List.append_nil]; rfl
  | cons n added ih =>
    show ending false a added (log ++ [n]) = _
    rw [ih, List.append_assoc, List.singleton_append]

/-- A strict run goes through exactly when there is no fault on its way. -/
lemma ending_strict_eq_ok_iff {a b : α} {added log log' : List Notice} :
    ending true a added log = (.ok b, log') ↔
      (∀ n ∈ added, n.fault? = none) ∧ b = a ∧ log' = log ++ added := by
  induction added generalizing log with
  | nil => simp [ending, eq_comm]
  | cons n added ih =>
    cases hn : n.fault? with
    | none =>
      have hstep : ending true a (n :: added) log = ending true a added (log ++ [n]) := by
        simp [ending, hn]
      rw [hstep, ih, List.forall_mem_cons, List.append_assoc, List.singleton_append]
      simp [hn]
    | some cause => simp [ending, hn]

/-- What a run comes to, if it goes through, does not depend on what it tells. -/
lemma eq_of_ending_eq_ok {a b : α} {added log : List Notice} (h : (ending strict a added log).1 = .ok b) :
    b = a := by
  cases strict with
  | false =>
    rw [ending_lenient] at h
    exact (Except.ok.inj h).symm
  | true => exact (ending_strict_eq_ok_iff.mp (Prod.ext h rfl)).2.1

/-- Where two lists of notices follow each other, the second is come to only through the first. -/
lemma ending_append (a : α) (b : β) (added more log : List Notice) :
    ending strict b (added ++ more) log =
      match ending strict a added log with
      | (.ok _, log') => ending strict b more log'
      | (.error e, log') => (.error e, log') := by
  induction added generalizing log with
  | nil => rfl
  | cons n added ih =>
    rw [List.cons_append]
    cases strict with
    | false => exact ih _
    | true =>
      cases hn : n.fault? with
      | none => simpa [ending, hn] using ih (log ++ [n])
      | some cause => simp [ending, hn]

namespace Tells

lemma pure (a : α) : Tells strict (Pure.pure a) a [] := fun _ => rfl

/-- A notice that is no fault is given in both kinds of run. -/
lemma notify {n : Notice} (h : n.fault? = none) : Tells strict (Logged.notify n) () [n] := by
  intro log
  rw [runFrom_notify]
  cases strict <;> simp [ending, h]

/-- What is left out is reported, or is the fault of a strict run. -/
lemma leaveOut (cause : ModelError) :
    Tells strict (Build.leaveOut strict cause) () [.omitting cause] := by
  intro log
  cases strict <;> rfl

lemma returns {x : Logged ModelError α} {a : α} {added : List Notice} (h : Tells strict x a added) :
    Returns x (· = a) := by
  intro log b hb
  rw [h log] at hb
  exact eq_of_ending_eq_ok hb

lemma bind {x : Logged ModelError α} {f : α → Logged ModelError β} {a : α} {b : β}
    {added more : List Notice} (h : Tells strict x a added) (hnext : Tells strict (f a) b more) :
    Tells strict (x >>= f) b (added ++ more) := by
  intro log
  rw [runFrom_bind, h log, ending_append a]
  -- what `x` returns, if anything, is `a`
  rcases hend : ending strict a added log with ⟨e | c, log'⟩
  · rfl
  · obtain rfl := eq_of_ending_eq_ok (congrArg Prod.fst hend)
    exact hnext log'

/-- A run that only makes something of what it came to reports nothing more. -/
lemma map {x : Logged ModelError α} {a : α} {added : List Notice} (h : Tells strict x a added)
    (g : α → β) : Tells strict (x >>= fun a => Pure.pure (g a)) (g a) added := by
  have hbind := h.bind (f := fun a => Pure.pure (g a)) (pure (g a))
  rwa [List.append_nil] at hbind

/-- A loop reports what its steps report, one after the other. -/
lemma mapM {f : α → Logged ModelError β} {g : α → β} {r : α → List Notice} {l : List α}
    (h : ∀ a ∈ l, Tells strict (f a) (g a) (r a)) :
    Tells strict (l.mapM f) (l.map g) (l.flatMap r) := by
  induction l with
  | nil => exact pure []
  | cons a l ih =>
    rw [List.mapM_cons, List.map_cons, List.flatMap_cons]
    have hrest := ih fun c hc => h c (List.mem_cons_of_mem a hc)
    exact (h a List.mem_cons_self).bind (hrest.map (g a :: ·))

lemma foldlM {f : β → α → Logged ModelError β} {g : β → α → β} {r : α → List Notice} {l : List α}
    (h : ∀ b, ∀ a ∈ l, Tells strict (f b a) (g b a) (r a)) (b : β) :
    Tells strict (l.foldlM f b) (l.foldl g b) (l.flatMap r) := by
  induction l generalizing b with
  | nil => exact pure b
  | cons a l ih =>
    rw [List.foldlM_cons, List.foldl_cons, List.flatMap_cons]
    exact (h b a List.mem_cons_self).bind (ih (fun c d hd => h c d (List.mem_cons_of_mem a hd)) _)

end Tells

end Telling

end Logged

open Logged

/-! ## Records -/

/-- The column that the field of one name of a group becomes, if it is a plain named type with a column in its
tag. -/
def FieldDecl.persisted? (pkg name : String) (d : FieldDecl) : Option Field :=
  match d.type.resolve pkg with
  | none => none
  | some signature =>
    if signature.kind != .value then none
    else (Tag.column (d.tag.getD "")).map fun column =>
      { name, signature, tag := d.tag.getD "", column }

/-- What is reported of the field of one name of a group. -/
def FieldDecl.notices (record pkg name : String) (d : FieldDecl) : List Notice :=
  match d.type.resolve pkg with
  | none => [.omitting (.unsupportedFieldType record name d.type.text)]
  | some signature =>
    if signature.kind != .value then []
    else match Tag.column (d.tag.getD "") with
      | none => [.omitting (.missingTag record name)]
      | some _ => []

/-- The entity of a record. -/
def StructDecl.built (pkg : String) (structNames : List String) (d : StructDecl) : Entity where
  name := d.name
  fields := (Build.scanned d.fields).filterMap fun (g, name) => g.persisted? pkg name
  isAugmented := structNames.contains (Naming.augmentedName d.name)

/-- What is reported of a record. -/
def StructDecl.notices (pkg : String) (d : StructDecl) : List Notice :=
  (Build.scanned d.fields).flatMap fun (g, name) => g.notices d.name pkg name

/-! ## Methods -/

/-- What is reported of the slots of a group. -/
def ParamDecl.notices (owner method ns : String) (d : ParamDecl) : List Notice :=
  if (d.type.resolve ns).isNone then [.omitting (.unresolvedType owner method d.type.text)] else []

/-- What is reported of a result. -/
def Param.notices (owner method : String) (p : Param) : List Notice :=
  if p.isVariadic then [.variadicReturnDropped owner method] else []

/-- A signature from which a method is made: who declares it, where its types are declared, and its name. -/
structure Contract where
  owner : String
  ns : String
  name : String
  signature : Signature

/-- The method of a contract. -/
def Contract.method (c : Contract) : Method := c.signature.method c.ns c.name

/-- What is reported of a contract: first the types that do not resolve, then the variadic results. -/
def Contract.notices (c : Contract) : List Notice :=
  c.signature.params.flatMap (·.notices c.owner c.name c.ns) ++
    (c.signature.results.flatMap (·.notices c.owner c.name c.ns) ++
      (c.signature.results.flatMap (·.slots c.ns)).flatMap (·.notices c.owner c.name))

/-- The contracts of an interface, in its own package. -/
def InterfaceDecl.contracts (pkg : String) (d : InterfaceDecl) : List Contract :=
  d.methods.map fun m => ⟨d.name, pkg, m.name, m.signature⟩

/-- The receiver of the method is a service. -/
def MethodDecl.isServed (d : MethodDecl) : Bool := (Naming.serviceBase? d.receiver.typeName).isSome

/-- The contract of a method, with its types in `ns`. -/
def MethodDecl.contract (ns : String) (d : MethodDecl) : Contract :=
  ⟨d.receiver.typeName, ns, d.name, d.signature⟩

/-- The service method sets of a row of methods. -/
def serviceSets (ns : String) (decls : List MethodDecl) : List ServiceMethodSet :=
  decls.foldl (fun sets d =>
    if d.isServed then Build.insertMethod d.receiver.typeName (d.contract ns).method sets else sets) []

/-! ## Files -/

namespace SourceFile

variable (f : SourceFile) (ns : String)

/-- The contracts of a file: those of its interfaces, and those of its services in the namespace `ns`. -/
def contracts : List Contract :=
  f.interfaces.flatMap (·.contracts f.package) ++ (f.methods.filter (·.isServed)).map (·.contract ns)

/-- The model of a file. -/
def built : FileModel where
  package := f.package
  entities := f.structs.map (·.built f.package (f.structs.map (·.name)))
  interfaces := f.interfaces.map (·.built f.package)
  services := serviceSets ns f.methods

/-- What is reported of a file. -/
def notices : List Notice :=
  f.structs.flatMap (·.notices f.package) ++ (f.contracts ns).flatMap (·.notices)

end SourceFile

/-! ## The builder -/

section Build

variable {strict : Bool} {owner name ns pkg : String}

lemma field?_tells (record : String) (d : FieldDecl) :
    Tells strict (Build.field? strict record pkg d name) (d.persisted? pkg name)
      (d.notices record pkg name) := by
  unfold Build.field? FieldDecl.persisted? FieldDecl.notices
  cases d.type.resolve pkg with
  | none => exact (Tells.leaveOut _).map fun _ => none
  | some signature =>
    dsimp only
    by_cases hkind : signature.kind != .value
    · rw [if_pos hkind, if_pos hkind, if_pos hkind]
      exact .pure none
    · rw [if_neg hkind, if_neg hkind, if_neg hkind]
      cases Tag.column (d.tag.getD "") with
      | none => exact (Tells.leaveOut _).map fun _ => none
      | some column => exact .pure _

lemma entity_tells (structNames : List String) (d : StructDecl) :
    Tells strict (Build.entity strict pkg structNames d) (d.built pkg structNames) (d.notices pkg) := by
  have hfields : Tells strict
      ((Build.scanned d.fields).mapM fun (g, name) => Build.field? strict d.name pkg g name)
      ((Build.scanned d.fields).map fun (g, name) => g.persisted? pkg name) (d.notices pkg) :=
    .mapM fun scanned _ => field?_tells d.name scanned.1
  have hentity := hfields.map fun fields : List (Option Field) =>
    ({ name := d.name, fields := fields.filterMap id,
       isAugmented := structNames.contains (Naming.augmentedName d.name) } : Entity)
  rwa [List.filterMap_map] at hentity

lemma slots_tells (d : ParamDecl) :
    Tells strict (Build.slots strict owner name ns d) (d.slots ns) (d.notices owner name ns) := by
  have hrest : Tells strict
      (if d.names.isEmpty then pure [⟨"", d.type.resolve ns⟩]
        else pure (d.names.map (⟨·, d.type.resolve ns⟩)) : Logged ModelError (List Param))
      (d.slots ns) [] := by
    unfold ParamDecl.slots
    split <;> exact .pure _
  unfold Build.slots ParamDecl.notices
  dsimp only
  split
  · exact (Tells.leaveOut _).bind hrest
  · exact hrest

lemma dropVariadic_tells (p : Param) :
    Tells strict (Build.dropVariadic owner name p) p.notVariadic (p.notices owner name) := by
  unfold Build.dropVariadic Param.notVariadic Param.notices
  split
  · have hdropped : (Notice.variadicReturnDropped owner name).fault? = none := rfl
    exact (Tells.notify hdropped).map fun _ => { p with signature := none }
  · exact .pure p

lemma method_tells (c : Contract) :
    Tells strict (Build.method strict c.owner c.ns c.name c.signature) c.method c.notices := by
  refine (Tells.mapM fun d _ => slots_tells d).bind ?_
  refine (Tells.mapM fun d _ => slots_tells d).bind ?_
  have hreturns : Tells strict
      ((c.signature.results.map (·.slots c.ns)).flatten.mapM (Build.dropVariadic c.owner c.name))
      ((c.signature.results.map (·.slots c.ns)).flatten.map (·.notVariadic))
      ((c.signature.results.map (·.slots c.ns)).flatten.flatMap (·.notices c.owner c.name)) :=
    .mapM fun p _ => dropVariadic_tells p
  have hmethod := hreturns.map fun returns =>
    ({ name := c.name, params := (c.signature.params.map (·.slots c.ns)).flatten, returns } : Method)
  rw [← List.flatMap_def, ← List.flatMap_def] at hmethod
  exact hmethod

lemma interface_tells (d : InterfaceDecl) :
    Tells strict (Build.interface strict pkg d) (d.built pkg)
      ((d.contracts pkg).flatMap (·.notices)) := by
  have hmethods : Tells strict
      (d.methods.mapM fun m => Build.method strict d.name pkg m.name m.signature)
      (d.methods.map fun m => m.signature.method pkg m.name)
      (d.methods.flatMap fun m => Contract.notices ⟨d.name, pkg, m.name, m.signature⟩) :=
    .mapM fun m _ => method_tells ⟨d.name, pkg, m.name, m.signature⟩
  rw [InterfaceDecl.contracts, List.flatMap_map]
  exact hmethods.map fun methods =>
    ({ name := d.name, methods, package := pkg } : Interface)

/-- Methods on other receivers have no contract. -/
lemma notices_served (decls : List MethodDecl) :
    ((decls.filter (·.isServed)).map (·.contract ns)).flatMap (·.notices)
      = decls.flatMap fun d => if d.isServed then (d.contract ns).notices else [] := by
  induction decls with
  | nil => rfl
  | cons d decls ih =>
    rw [List.filter_cons, List.flatMap_cons, ← ih]
    split <;> rfl

lemma services_tells (decls : List MethodDecl) :
    Tells strict (Build.services ⟨ns, strict⟩ decls) (serviceSets ns decls)
      (((decls.filter (·.isServed)).map (·.contract ns)).flatMap (·.notices)) := by
  rw [notices_served]
  refine Tells.foldlM (fun sets d _ => ?_) []
  unfold MethodDecl.isServed
  dsimp only
  cases Naming.serviceBase? d.receiver.typeName with
  | none => exact .pure sets
  | some base =>
    exact (method_tells (d.contract ns)).map fun m =>
      Build.insertMethod d.receiver.typeName m sets

/-- A lenient run on a file makes its model and reports its notices, and a strict one does the same up to the
first fault among them. -/
theorem model_tells (f : SourceFile) (ns : String) :
    Tells strict (f.model ⟨ns, strict⟩) (f.built ns) (f.notices ns) := by
  rw [SourceFile.notices, SourceFile.contracts, List.flatMap_append, List.flatMap_assoc]
  refine (Tells.mapM fun d _ => entity_tells (f.structs.map (·.name)) d).bind ?_
  refine (Tells.mapM fun d _ => interface_tells d).bind ?_
  exact (services_tells f.methods).map fun services => { f.built ns with services }

end Build

/-- What comes of loading a text that can be read. -/
theorem report_load [ErrorRecovery] {source : String} {f : SourceFile} (hparse : SourceFile.parse source = .ok f)
    (strict : Bool) (ns : String) :
    (FileModel.load source ⟨ns, strict⟩).report =
      ((ending strict (f.built ns) (f.notices ns) []).1.mapError .model,
        (ending strict (f.built ns) (f.notices ns) []).2) := by
  rw [FileModel.load_of_parse hparse, report_eq_runFrom, runFrom_adapt, model_tells f ns]

/-- A model that was loaded is that of a file that was read, whatever is omitted. -/
theorem exists_built_of_load [ErrorRecovery] {source : String} {o : BuildOptions} {model : FileModel}
    (h : (FileModel.load source o).report.1 = .ok model) :
    ∃ f, SourceFile.parse source = .ok f ∧ model = f.built o.serviceNamespace := by
  obtain ⟨f, hparse, hall⟩ := exists_parse_returns_of_load h
  exact ⟨f, hparse, hall _ (model_tells f o.serviceNamespace).returns⟩

/-- A text that is loaded strictly is that of a file without faults. -/
theorem exists_built_of_load_strict [ErrorRecovery] {source ns : String} {model : FileModel} {log : List Notice}
    (h : (FileModel.load source ⟨ns, true⟩).report = (.ok model, log)) :
    ∃ f, SourceFile.parse source = .ok f ∧ (∀ n ∈ f.notices ns, n.fault? = none) ∧
      model = f.built ns ∧ log = f.notices ns := by
  cases hparse : SourceFile.parse source with
  | error e =>
    rw [FileModel.load_of_parse_error hparse] at h
    cases h
  | ok f =>
    rw [report_load hparse] at h
    rcases hend : ending true (f.built ns) (f.notices ns) [] with ⟨e | built, log'⟩
    · rw [hend] at h
      cases h
    · rw [hend] at h
      obtain ⟨hmodel, rfl⟩ := Prod.mk.inj h
      obtain rfl : built = model := Except.ok.inj hmodel
      obtain ⟨hfaults, rfl, rfl⟩ := ending_strict_eq_ok_iff.mp hend
      exact ⟨f, rfl, hfaults, rfl, rfl⟩

end DeclGen
