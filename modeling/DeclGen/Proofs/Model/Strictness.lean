import DeclGen.Command.Run
import DeclGen.Proofs.Model.Runs

/-!
# Strict and lenient runs

A strict run fails where a lenient one reports and goes on. `Agrees` compares the two: whatever was
reported before, the lenient run reports certain notices and ends in some outcome, and the strict run
fails with the first fault among those notices, or ends in the same outcome when there is none. The
relation goes through sequences and loops, so that two runs agree as a whole when they agree wherever
they look at the setting.
-/

namespace DeclGen

/-- The cause with which a strict run fails where a lenient one gives the notice. -/
def Notice.fault? : Notice → Option ModelError
  | omitting cause => some cause
  | repeatedJoin entity joined => some (.duplicateJoin entity joined)
  | variadicReturnDropped _ _ => none

namespace Logged

/-! ## Agreement -/

/-- The outcome of a strict run when a lenient one reports `added` and ends in `outcome`. -/
def firstFault {ε α : Type} (fault : ModelError → ε) (added : List Notice) (outcome : Except ε α) :
    Except ε α :=
  match added.filterMap Notice.fault? with
  | [] => outcome
  | cause :: _ => .error (fault cause)

/-- The strict run fails with the first fault that the lenient one reports, or ends in its outcome. -/
def Agrees {ε α : Type} (fault : ModelError → ε) (strict lenient : Logged ε α) : Prop :=
  ∃ outcome added, (∀ log, lenient.runFrom log = (outcome, log ++ added)) ∧
    ∀ log, (strict.runFrom log).1 = firstFault fault added outcome

lemma firstFault_append {ε α : Type} (fault : ModelError → ε) (a b : List Notice)
    (outcome : Except ε α) :
    firstFault fault (a ++ b) outcome = firstFault fault a (firstFault fault b outcome) := by
  unfold firstFault
  rw [List.filterMap_append]
  cases a.filterMap Notice.fault? <;> rfl

namespace Agrees

variable {ε ε' α β : Type} {fault : ModelError → ε}

lemma pure (a : α) : Agrees fault (Pure.pure a) (Pure.pure a) :=
  ⟨.ok a, [], fun log => by rw [runFrom_pure, List.append_nil], fun _ => rfl⟩

lemma throw (e : ε) : Agrees fault (throwThe ε e : Logged ε α) (throwThe ε e) :=
  ⟨.error e, [], fun log => by rw [List.append_nil]; rfl, fun _ => rfl⟩

/-- A notice that is no fault is given in both runs. -/
lemma notify {n : Notice} (h : n.fault? = none) : Agrees fault (notify n) (notify n) :=
  ⟨.ok (), [n], fun log => runFrom_notify n log, fun log => by simp [firstFault, h, runFrom_notify]⟩

/-- Where a lenient run reports a fault, a strict one fails with it. -/
lemma throw_notify {n : Notice} {cause : ModelError} (h : n.fault? = some cause) :
    Agrees fault (throwThe ε (fault cause)) (Logged.notify n) :=
  ⟨.ok (), [n], fun log => runFrom_notify n log, fun log => by simp [firstFault, h]; rfl⟩

/-- Steps that agree make up sequences that agree. -/
lemma bind {strict lenient : Logged ε α} {f g : α → Logged ε β} (h : Agrees fault strict lenient)
    (hnext : ∀ a, Agrees fault (f a) (g a)) :
    Agrees fault (strict >>= f) (lenient >>= g) := by
  obtain ⟨outcome, added, hlenient, hstrict⟩ := h
  cases outcome with
  | error e =>
    -- the second part is run in neither, since a lenient run that fails ends a strict one too
    refine ⟨.error e, added, fun log => by rw [runFrom_bind, hlenient], fun log => ?_⟩
    rw [runFrom_bind]
    have hfirst := hstrict log
    rcases hrun : strict.runFrom log with ⟨r, log'⟩
    obtain rfl : r = firstFault fault added (.error e) := by rw [← hfirst, hrun]
    unfold firstFault
    cases added.filterMap Notice.fault? <;> rfl
  | ok a =>
    obtain ⟨outcome', added', hlenient', hstrict'⟩ := hnext a
    refine ⟨outcome', added ++ added', fun log => ?_, fun log => ?_⟩
    · rw [runFrom_bind, hlenient, ← List.append_assoc]
      exact hlenient' (log ++ added)
    · rw [runFrom_bind, firstFault_append]
      have hfirst := hstrict log
      rcases hrun : strict.runFrom log with ⟨r, log'⟩
      obtain rfl : r = firstFault fault added (.ok a) := by rw [← hfirst, hrun]
      -- the strict run goes on exactly when nothing was at fault up to here
      unfold firstFault
      cases added.filterMap Notice.fault? with
      | nil => exact hstrict' log'
      | cons cause rest => rfl

/-- A loop agrees when its body does. -/
lemma mapM {f g : α → Logged ε β} {l : List α} (h : ∀ a ∈ l, Agrees fault (f a) (g a)) :
    Agrees fault (l.mapM f) (l.mapM g) := by
  induction l with
  | nil => exact pure []
  | cons a l ih =>
    rw [List.mapM_cons, List.mapM_cons]
    refine (h a List.mem_cons_self).bind fun b => ?_
    exact (ih fun c hc => h c (List.mem_cons_of_mem a hc)).bind fun bs => pure (b :: bs)

lemma foldlM {f g : β → α → Logged ε β} {l : List α}
    (h : ∀ b, ∀ a ∈ l, Agrees fault (f b a) (g b a)) (b : β) :
    Agrees fault (l.foldlM f b) (l.foldlM g b) := by
  induction l generalizing b with
  | nil => exact pure b
  | cons a l ih =>
    rw [List.foldlM_cons, List.foldlM_cons]
    exact (h b a List.mem_cons_self).bind fun b' => ih (fun c d hd => h c d (List.mem_cons_of_mem a hd)) b'

lemma forM {f g : α → Logged ε PUnit} {l : List α} (h : ∀ a ∈ l, Agrees fault (f a) (g a)) :
    Agrees fault (l.forM f) (l.forM g) := by
  induction l with
  | nil => exact pure PUnit.unit
  | cons a l ih =>
    exact (h a List.mem_cons_self).bind fun _ => ih fun c hc => h c (List.mem_cons_of_mem a hc)

/-- Runs whose errors are wrapped agree when the runs do. -/
lemma adapt {strict lenient : Logged ε α} (h : Agrees fault strict lenient) (f : ε → ε') :
    Agrees (f ∘ fault) (ExceptT.adapt f strict : Logged ε' α) (ExceptT.adapt f lenient) := by
  obtain ⟨outcome, added, hlenient, hstrict⟩ := h
  refine ⟨outcome.mapError f, added, fun log => by rw [runFrom_adapt, hlenient], fun log => ?_⟩
  rw [runFrom_adapt, hstrict]
  unfold firstFault
  cases added.filterMap Notice.fault? <;> rfl

/-- What agreement says of runs that start without notices. -/
lemma report {strict lenient : Logged ε α} (h : Agrees fault strict lenient) :
    strict.report.1 = firstFault fault lenient.report.2 lenient.report.1 := by
  obtain ⟨outcome, added, hlenient, hstrict⟩ := h
  rw [report_eq_runFrom, report_eq_runFrom, hlenient, hstrict, List.nil_append]

end Agrees

end Logged

/-! ## Building a model -/

section Build

open Logged

lemma leaveOut_agrees (cause : ModelError) :
    Agrees id (Build.leaveOut true cause) (Build.leaveOut false cause) :=
  Agrees.throw_notify rfl

lemma field?_agrees (record pkg : String) (decl : FieldDecl) (name : String) :
    Agrees id (Build.field? true record pkg decl name) (Build.field? false record pkg decl name) := by
  unfold Build.field?
  cases decl.type.resolve pkg with
  | none => exact (leaveOut_agrees _).bind fun _ => .pure none
  | some signature =>
    dsimp only
    by_cases hkind : signature.kind != .value
    · rw [if_pos hkind, if_pos hkind]
      exact .pure none
    · rw [if_neg hkind, if_neg hkind]
      cases Tag.column (decl.tag.getD "") with
      | none => exact (leaveOut_agrees _).bind fun _ => .pure none
      | some column => exact .pure _

lemma entity_agrees (pkg : String) (structNames : List String) (decl : StructDecl) :
    Agrees id (Build.entity true pkg structNames decl) (Build.entity false pkg structNames decl) :=
  (Agrees.mapM fun x _ => field?_agrees decl.name pkg x.1 x.2).bind fun _ => .pure _

lemma slots_agrees (owner method ns : String) (decl : ParamDecl) :
    Agrees id (Build.slots true owner method ns decl) (Build.slots false owner method ns decl) := by
  have hrest : ∀ signature : Option TypeSignature, Agrees id
      (if decl.names.isEmpty then pure [⟨"", signature⟩] else pure (decl.names.map (⟨·, signature⟩)))
      (if decl.names.isEmpty then pure [⟨"", signature⟩]
        else pure (decl.names.map (⟨·, signature⟩)) : Logged ModelError (List Param)) := by
    intro signature
    cases decl.names.isEmpty <;> exact .pure _
  unfold Build.slots
  cases decl.type.resolve ns with
  | none => exact (leaveOut_agrees _).bind fun _ => hrest none
  | some signature => exact hrest (some signature)

/-- A variadic result is dropped in both runs. -/
lemma dropVariadic_agrees (owner method : String) (p : Param) :
    Agrees id (Build.dropVariadic owner method p) (Build.dropVariadic owner method p) := by
  unfold Build.dropVariadic
  cases p.isVariadic with
  | true => exact (Agrees.notify rfl).bind fun _ => .pure _
  | false => exact .pure p

lemma method_agrees (owner ns name : String) (sig : Signature) :
    Agrees id (Build.method true owner ns name sig) (Build.method false owner ns name sig) := by
  refine (Agrees.mapM fun d _ => slots_agrees owner name ns d).bind fun params => ?_
  refine (Agrees.mapM fun d _ => slots_agrees owner name ns d).bind fun results => ?_
  exact (Agrees.mapM fun p _ => dropVariadic_agrees owner name p).bind fun _ => .pure _

lemma interface_agrees (pkg : String) (decl : InterfaceDecl) :
    Agrees id (Build.interface true pkg decl) (Build.interface false pkg decl) :=
  (Agrees.mapM fun m _ => method_agrees decl.name pkg m.name m.signature).bind fun _ => .pure _

lemma services_agrees (ns : String) (decls : List MethodDecl) :
    Agrees id (Build.services ⟨ns, true⟩ decls) (Build.services ⟨ns, false⟩ decls) := by
  refine Agrees.foldlM (fun sets d _ => ?_) []
  dsimp only
  by_cases hbase : (Naming.serviceBase? d.receiver.typeName).isNone
  · rw [if_pos hbase, if_pos hbase]
    exact .pure sets
  · rw [if_neg hbase, if_neg hbase]
    exact (method_agrees _ ns d.name d.signature).bind fun _ => .pure _

/-- Strict and lenient building agree. -/
theorem model_agrees (f : SourceFile) (ns : String) :
    Agrees id (f.model ⟨ns, true⟩) (f.model ⟨ns, false⟩) := by
  refine (Agrees.mapM fun d _ => entity_agrees f.package _ d).bind fun entities => ?_
  refine (Agrees.mapM fun d _ => interface_agrees f.package d).bind fun interfaces => ?_
  exact (services_agrees ns f.methods).bind fun _ => .pure _

end Build

/-! ## From a text to queries -/

section Queries

open Logged

/-- The configuration with omissions as errors, or without. -/
def Config.withStrict (c : Config) (strict : Bool) : Config :=
  { c with model := { c.model with strict } }

/-- Joins are checked alike whatever else the options say. -/
lemma checkJoins_agrees {strict lenient : Repository} (hentity : strict.entity = lenient.entity)
    (hrelations : strict.relations = lenient.relations) (hstrict : strict.options.strict)
    (hlenient : lenient.options.strict = false) :
    Agrees id strict.checkJoins lenient.checkJoins := by
  unfold Repository.checkJoins
  rw [hentity, hrelations]
  refine Agrees.forM fun joined _ => ?_
  rw [if_pos hstrict, if_neg (by simp [hlenient])]
  exact Agrees.throw_notify rfl

/-- The text of the queries does not depend on whether a table joined twice is an error. -/
lemma file_withStrict (e : Entity) (relations : List Relation) (o : QueryOptions) (a b : Bool) :
    Repository.file ⟨e, relations, { o with strict := a }⟩ =
      Repository.file ⟨e, relations, { o with strict := b }⟩ := rfl

/-- Strict and lenient generation of queries agree. -/
theorem queries_agrees (m : FileModel) (o : QueryOptions) :
    Agrees id (m.queries { o with strict := true }) (m.queries { o with strict := false }) := by
  unfold FileModel.queries
  cases m.primaryEntity? with
  | none => exact .throw ModelError.noEntity
  | some e =>
    have hjoins : Agrees id
        (Repository.checkJoins ⟨e, Relation.ofEntity e o.table, { o with strict := true }⟩)
        (Repository.checkJoins ⟨e, Relation.ofEntity e o.table, { o with strict := false }⟩) :=
      checkJoins_agrees rfl rfl rfl rfl
    refine hjoins.bind fun _ => ?_
    -- the text itself is made without a look at the setting
    rw [file_withStrict e _ o true false]
    exact .pure _

/-- Strict and lenient loading agree. -/
theorem load_agrees [ErrorRecovery] (source ns : String) :
    Agrees FileModel.LoadError.model (FileModel.load source ⟨ns, true⟩)
      (FileModel.load source ⟨ns, false⟩) := by
  unfold FileModel.load
  cases SourceFile.parse source with
  | error e => exact .throw (FileModel.LoadError.source e)
  | ok file => exact (model_agrees file ns).adapt FileModel.LoadError.model

/-- A command loads its model as it is loaded here, and says in its own way what went wrong. -/
theorem modelOf_eq_load [ErrorRecovery] (c : Config) (path source : String) :
    Command.modelOf c path source =
      (FileModel.load source c.buildOptions).report.1.mapError fun
        | .source cause => .malformed path cause
        | .model cause => .noModel path cause := by
  unfold Command.modelOf FileModel.load
  cases SourceFile.parse source with
  | error e => rfl
  | ok file =>
    dsimp only
    rw [report_eq_runFrom, report_eq_runFrom, runFrom_adapt]
    cases ((file.model c.buildOptions).runFrom []).1 <;> rfl

/-- For every text and configuration the strict run from the text to its queries has the outcome of the
lenient run when that reports no fault, and otherwise fails with the first fault that it reports. -/
theorem report_modelAndQueries_strict [ErrorRecovery] (c : Config) (table source : String) :
    let lenient := ((c.withStrict false).modelAndQueries table source).report
    ((c.withStrict true).modelAndQueries table source).report.1 =
      match lenient.2.filterMap Notice.fault? with
      | [] => lenient.1
      | cause :: _ => .error (.model cause) := by
  have hagrees : Agrees FileModel.LoadError.model ((c.withStrict true).modelAndQueries table source)
      ((c.withStrict false).modelAndQueries table source) := by
    refine (load_agrees source c.naming.domainPackage).bind fun model => ?_
    have hqueries := queries_agrees model (c.queryOptions table)
    exact (hqueries.adapt FileModel.LoadError.model).bind fun _ => .pure _
  exact hagrees.report

end Queries

end DeclGen
