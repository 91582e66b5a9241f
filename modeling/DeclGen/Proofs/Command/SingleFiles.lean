import DeclGen.Proofs.Command.Directories
import DeclGen.Proofs.Model.Strictness

/-!
# Commands on single files

A command that does not go through a directory is all or nothing. When it fails, all files are as they were;
when it ends well, one file holds what the command makes and all others are as they were
(`runProgram_allOrNothing`). What a command makes is said by `Command.Makes`: it is the text of the generator
for the model of the input under the configuration.
-/

namespace DeclGen

lemma Except.mapError_eq_ok_iff {ε ε' α : Type} {x : Except ε α} {f : ε → ε'} {a : α} :
    x.mapError f = .ok a ↔ x = .ok a := by
  cases x <;> simp [Except.mapError]

namespace Command

open FileTree (run_bind)

variable {t t' : FileTree} {c : Config} {command : Command} {input output source text : String}

/-! ## What commands make -/

/-- The path denotes a file, and this is the model of its text under the configuration. -/
def IsModelAt [ErrorRecovery] (t : FileTree) (c : Config) (path : String) (model : FileModel) : Prop :=
  ∃ source, t.readText path = .ok source ∧ (FileModel.load source c.buildOptions).report.1 = .ok model

/-- The command makes this text for this path. -/
inductive Makes [ErrorRecovery] (t : FileTree) (c : Config) : Command → String → String → Prop
  | mock {input output : String} {model : FileModel} :
      IsModelAt t c input model →
      Makes t c (.mock input output) output (Mock.file model)
  | service {input output text : String} {model : FileModel} :
      IsModelAt t c input model → Service.file model c.naming.domainPackage = .ok text →
      Makes t c (.service input output) output text
  | queries {input output table text : String} {including excluding : List String} {model : FileModel} :
      IsModelAt t c input model → Path.stem? input = some table →
      (model.queries (c.queryOptions table)).report.1 = .ok text →
      Makes t c (.generate .queries input output including excluding) output text
  | tests {input output table text : String} {including excluding : List String} {model : FileModel} :
      IsModelAt t c input model → Path.stem? input = some table →
      Scaffold.file model (c.scaffoldOptions table) = .ok text →
      Makes t c (.generate .tests input output including excluding) output text
  | controller {name directory : String} :
      Naming.isIdentifier name →
      Makes t c (.controller name directory)
        (Path.join directory (Words.route name ++ "." ++ c.output.extension)) (Controller.file name)

lemma isModelAt_of_modelOf [ErrorRecovery] {model : FileModel} (hsource : t.readText input = .ok source)
    (hmodel : modelOf c input source = .ok model) : IsModelAt t c input model := by
  refine ⟨source, hsource, ?_⟩
  rw [modelOf_eq_load, Except.mapError_eq_ok_iff] at hmodel
  exact hmodel

lemma makes_mock [ErrorRecovery] (hsource : t.readText input = .ok source) (hmake : mocksOf c input source = .ok text) :
    Makes t c (.mock input output) output text := by
  obtain ⟨model, hmodel, htext⟩ := Except.bind_eq_ok_iff.mp hmake
  obtain rfl := Except.ok.inj htext
  exact .mock (isModelAt_of_modelOf hsource hmodel)

lemma makes_service [ErrorRecovery] (hsource : t.readText input = .ok source)
    (hmake : servicesOf c input source = .ok text) : Makes t c (.service input output) output text := by
  obtain ⟨model, hmodel, htext⟩ := Except.bind_eq_ok_iff.mp hmake
  exact .service (isModelAt_of_modelOf hsource hmodel) (Except.mapError_eq_ok_iff.mp htext)

lemma tableOf_eq_ok_iff {table : String} : tableOf input = .ok table ↔ Path.stem? input = some table := by
  unfold tableOf
  cases Path.stem? input <;> simp

lemma makes_generate [ErrorRecovery] {a : Artifact} {including excluding : List String}
    (hsource : t.readText input = .ok source) (hmake : artifactOf a c input source = .ok text) :
    Makes t c (.generate a input output including excluding) output text := by
  obtain ⟨model, hmodel, hmake⟩ := Except.bind_eq_ok_iff.mp hmake
  obtain ⟨table, htable, hmake⟩ := Except.bind_eq_ok_iff.mp hmake
  have hmodel := isModelAt_of_modelOf hsource hmodel
  have htable := tableOf_eq_ok_iff.mp htable
  have htext := Except.mapError_eq_ok_iff.mp hmake
  cases a with
  | queries => exact .queries hmodel htable htext
  | tests => exact .tests hmodel htable htext

/-! ## How commands end -/

/-- The command does not go through a directory. -/
def OnOneFile (t : FileTree) : Command → Prop
  | generate _ input _ _ _ => t.kindAt input ≠ some .directory
  | _ => True

/-- A command ends in one of three ways: it fails and no file has changed, or it shows something of the tree,
or it has written what it makes. -/
inductive Ends [ErrorRecovery] (t : FileTree) (c : Config) (command : Command) : Told × FileTree → Prop
  | refused {told : Told} {t' : FileTree} :
      told.outcome.exit ≠ 0 → t.Keeps t' → Ends t c command (told, t')
  | shown {told : Told} {input : String} :
      told.outcome.exit = 0 → command = .inspect input → Ends t c command (told, t)
  | written {told : Told} {t' : FileTree} {output text : String} :
      told.outcome.exit = 0 → Makes t c command output text → t.Writes t' output text →
      Ends t c command (told, t')

lemma exit_failed (e : CommandError) : (Told.failed e).outcome.exit ≠ 0 := Nat.one_ne_zero

/-- A command that writes what it makes of a file ends in one of these ways. -/
lemma ends_transform [ErrorRecovery] {make : String → Except CommandError String} (line : String)
    (hmakes : ∀ source text, t.readText input = .ok source → make source = .ok text →
      Makes t c command output text) :
    Ends t c command
      ((do return told line (← transform input output make) : StateM FileTree _).run t) := by
  have hderives := derives_transform t input output make
  rw [run_bind]
  rcases hrun : (transform input output make : StateM FileTree _).run t with ⟨e | _, t'⟩
  · rw [hrun] at hderives
    exact .refused (exit_failed e) hderives
  · rw [hrun] at hderives
    obtain ⟨source, text, hsource, hmake, hwrites⟩ := hderives
    exact .written rfl (hmakes source text hsource hmake) hwrites

/-- On what is no directory the command takes a single file. -/
lemma run_generate_of_ne_directory [ErrorRecovery] (t : FileTree) (a : Artifact) (c : Config) (input output : String)
    (including excluding : List String) (hinput : t.kindAt input ≠ some .directory) :
    (run c (.generate a input output including excluding) : StateM FileTree _).run t
      = (do return told ("Wrote " ++ output) (← generateFile a c input output) : StateM FileTree _).run t := by
  unfold run generateFrom
  rw [run_bind, FileTree.run_isDirectory, beq_eq_false_iff_ne.mpr hinput]
  rfl

lemma ends_replace [ErrorRecovery] (line : String) (hmakes : Makes t c command output text) :
    Ends t c command ((do
      return told line ((← FileStore.replace output text).mapError .unwritten) :
        StateM FileTree _).run t) := by
  have hsettles := FileTree.settles_replace t output text
  rw [run_bind]
  rcases hrun : (FileStore.replace output text : StateM FileTree _).run t with ⟨e | _, t'⟩
  · rw [hrun] at hsettles
    exact .refused (exit_failed _) hsettles
  · rw [hrun] at hsettles
    exact .written rfl hmakes hsettles

lemma ends_controller [ErrorRecovery] (t : FileTree) (c : Config) (name directory : String) :
    Ends t c (.controller name directory)
      ((writeController c name directory : StateM FileTree _).run t) := by
  unfold writeController
  by_cases hname : Naming.isIdentifier name
  · rw [if_neg (by simpa using hname)]
    exact ends_replace _ (.controller hname)
  · rw [if_pos (by simpa using hname)]
    exact .refused (exit_failed _) (.refl t)

lemma ends_inspect [ErrorRecovery] (t : FileTree) (c : Config) (input : String) :
    Ends t c (.inspect input) ((showReport c input : StateM FileTree _).run t) := by
  unfold showReport
  rw [run_bind, run_fromFile]
  dsimp only
  split
  · next e _ => exact .refused (exit_failed e) (.refl t)
  · exact .shown rfl rfl

/-- Whatever a command on one file does, it is all or nothing. -/
theorem run_ends [ErrorRecovery] (t : FileTree) (c : Config) (command : Command) (hone : command.OnOneFile t) :
    Ends t c command ((run c command : StateM FileTree _).run t) := by
  -- three commands make a text of a file, and differ only in what they make
  cases command with
  | mock input output => exact ends_transform _ fun source text hsource => makes_mock hsource
  | service input output => exact ends_transform _ fun source text hsource => makes_service hsource
  | generate a input output including excluding =>
    rw [run_generate_of_ne_directory t a c input output including excluding hone]
    exact ends_transform _ fun source text hsource => makes_generate hsource
  | controller name directory => exact ends_controller t c name directory
  | inspect input => exact ends_inspect t c input

end Command

/-! ## The whole program -/

namespace FileTree

lemma asks_ofProject (project : String) : Asks (Config.ofProject project : StateM FileTree _) := by
  refine .bind (.ask _) fun kind => ?_
  cases kind with
  | none => exact .pure _
  | some kind =>
    refine .bind (.ask _) fun answer => ?_
    cases answer with
    | error cause => exact .pure _
    | ok text =>
      dsimp only
      split <;> exact .pure _

lemma asks_load (project : String) (env : Environment) :
    Asks (Config.load project env : StateM FileTree _) := by
  refine .bind (asks_ofProject project) fun loaded => ?_
  cases loaded with
  | error e => exact .pure _
  | ok c =>
    dsimp only
    split <;> exact .pure _

/-- The configuration of a project, which is the working directory unless another one is named. -/
def configuration (t : FileTree) (project : Option String) (env : Environment) :
    Except Config.LoadError Config :=
  ((Config.load (project.getD t.workingDirectory.path) env : StateM FileTree _).run t).1

end FileTree

open FileTree (run_bind)

/-- A command is run under the configuration of its project, or not at all. -/
lemma run_serve [ErrorRecovery] (t : FileTree) (env : Environment) (project : Option String) (command : Command) :
    ((Request.run project command).serve env : StateM FileTree _).run t
      = match t.configuration project env with
        | .error e => ((Command.Told.failed (.config e)).outcome, t)
        | .ok c => ((command.run c : StateM FileTree _).run t).map Command.Told.outcome id := by
  have hload : (Config.load (project.getD t.workingDirectory.path) env : StateM FileTree _).run t
      = (t.configuration project env, t) :=
    Prod.ext rfl (FileTree.asks_load _ env t).symm
  -- only where the configuration is looked for depends on the project
  cases project with
  | none =>
    have hroot : (FileStore.workingDirectory : StateM FileTree _).run t
        = (t.workingDirectory.path, t) := rfl
    dsimp only [Request.serve, Option.getD_none] at hload ⊢
    rw [run_bind, hroot, run_bind, hload]
    cases t.configuration none env <;> rfl
  | some path =>
    have hroot : (pure path : StateM FileTree _).run t = (path, t) := rfl
    dsimp only [Request.serve, Option.getD_some] at hload ⊢
    rw [run_bind, hroot, run_bind, hload]
    cases t.configuration (some path) env <;> rfl

/-- A run of the program that asks for a command, which does not go through a directory, is all or nothing.
Unless it ends well no file is made, lost or changed. If it ends well, a report has left the tree as it was, and
any other command has made all of one text out of the input and the configuration of the project: that is now
the file at one path, and no other file has changed. -/
theorem runProgram_allOrNothing [ErrorRecovery] (env : Environment) (words : List String) (t : FileTree)
    {project : Option String} {command : Command}
    (hread : Request.read? words = some (.run project command)) (hone : command.OnOneFile t) :
    let ended := (runProgram env words : StateM FileTree _).run t
    (ended.1.exit ≠ 0 → ended.2.fileAt = t.fileAt)
      ∧ (ended.1.exit = 0 → ∃ c, t.configuration project env = .ok c
        ∧ ((∃ input, command = .inspect input) ∧ ended.2 = t
          ∨ ∃ output text, Command.Makes t c command output text ∧ t.Writes ended.2 output text)) := by
  intro ended
  have hended : ended = ((Request.run project command).serve env : StateM FileTree _).run t := by
    show (runProgram env words : StateM FileTree _).run t = _
    rw [runProgram, hread]
  rw [hended, run_serve]
  cases t.configuration project env with
  | error e =>
    exact ⟨fun _ => rfl, fun hzero => absurd hzero (Command.exit_failed _)⟩
  | ok c =>
    dsimp only
    have hends := Command.run_ends t c command hone
    rcases hrun : (command.run c : StateM FileTree _).run t with ⟨told, t'⟩
    rw [hrun] at hends
    cases hends with
    | refused hexit hkeeps => exact ⟨fun _ => hkeeps.files, fun hzero => absurd hzero hexit⟩
    | shown hexit hinspect => exact ⟨fun hne => absurd hexit hne, fun _ => ⟨c, rfl, .inl ⟨⟨_, hinspect⟩, rfl⟩⟩⟩
    | written hexit hmakes hwrites =>
      exact ⟨fun hne => absurd hexit hne, fun _ => ⟨c, rfl, .inr ⟨_, _, hmakes, hwrites⟩⟩⟩

/-- One command writes its artifact, and another one fails as its input is not there. -/
theorem runProgram_allOrNothing_order :
    let words := ["queries", "in/b/order.go", "out/order.go"]
    let missing := ["mock", "in/b/payment.go", "in/b/order.go"]
    let t := Command.twoDirectories "order.go"
    (∃ text, Command.Makes t {} (.generate .queries "in/b/order.go" "out/order.go" [] []) "out/order.go" text
        ∧ t.Writes ((runProgram [] words : StateM FileTree _).run t).2 "out/order.go" text)
      ∧ ((runProgram [] missing : StateM FileTree _).run t).2.fileAt = t.fileAt := by
  intro words missing t
  constructor
  · have hread : Request.read? words
        = some (.run none (.generate .queries "in/b/order.go" "out/order.go" [] [])) := by decide
    have hone : t.kindAt "in/b/order.go" ≠ some .directory := by decide
    have hexit : ((runProgram [] words : StateM FileTree _).run t).1.exit = 0 := by decide +kernel
    have hconfiguration : t.configuration none [] = .ok {} := by decide
    obtain ⟨c, hc, ⟨⟨input, hinspect⟩, -⟩ | ⟨output, text, hmakes, hwrites⟩⟩ :=
      (runProgram_allOrNothing [] words t hread hone).2 hexit
    · cases hinspect
    · obtain rfl := Except.ok.inj (hconfiguration.symm.trans hc)
      cases hmakes with
      | queries hmodel htable htext => exact ⟨text, .queries hmodel htable htext, hwrites⟩
  · have hread : Request.read? missing = some (.run none (.mock "in/b/payment.go" "in/b/order.go")) := by
      decide
    have hexit : ((runProgram [] missing : StateM FileTree _).run t).1.exit ≠ 0 := by decide
    exact (runProgram_allOrNothing [] missing t hread trivial).1 hexit

end DeclGen
