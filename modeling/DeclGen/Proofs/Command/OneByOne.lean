import DeclGen.Proofs.Command.SingleFiles

/-!
# A directory, file by file

A command on a directory leaves what the same command leaves when it is run on one declaration file after
another, each with the destination of its name (`Command.run_generate_oneByOne`). What is collected is a file
when its turn comes, since no file becomes a directory on the way, so the command takes it for a single file.
-/

namespace DeclGen

namespace Command

open FileTree (run_bind run_mapM_cons)

variable {t t' : FileTree} {a : Artifact} {c : Config} {output file : String}

/-! ## The command on one file -/

section Alone

variable {m : Type → Type} [Monad m] [FileStore m]

/-- The command on one file alone, with the destination that its name says. -/
def runAlone [ErrorRecovery] (a : Artifact) (c : Config) (directory file : String) : m Told :=
  match c.output.destination? a directory file with
  | none => return .failed (.noDestination file)
  | some destination => run c (.generate a file destination [] [])

end Alone

/-- The command came to a good end. -/
def Told.succeeds (t : Told) : Bool := t.outcome.exit == 0

lemma Told.succeeds_iff {told : Told} : told.succeeds ↔ told.failure = none := by
  unfold Told.succeeds Told.outcome
  cases told.failure with
  | none => simp
  | some e => simp

/-- What the user is told of a result, when it is the result of a command on one file. -/
def toldAlone : Except CommandError String → Told
  | .ok destination => .line ("Wrote " ++ destination)
  | .error e => .failed e

lemma succeeds_toldAlone (r : Except CommandError String) : (toldAlone r).succeeds = r.isOk := by
  cases r <;> rfl

/-- A file that is no directory is taken by itself. -/
lemma run_runAlone [ErrorRecovery] (a : Artifact) (c : Config) (output : String) (hfile : t.kindAt file = some .file) :
    (runAlone a c output file : StateM FileTree _).run t
      = ((generateInto a c output file : StateM FileTree _).run t).map toldAlone id := by
  unfold runAlone generateInto
  cases c.output.destination? a output file with
  | none => rfl
  | some destination =>
    -- a directory would be gone through instead
    have hdirectory : t.kindAt file ≠ some .directory := by
      rw [hfile]
      decide
    dsimp only
    rw [run_generate_of_ne_directory t a c file destination [] [] hdirectory, run_bind, run_bind]
    rcases (generateFile a c file destination : StateM FileTree _).run t with ⟨_ | _, t'⟩ <;> rfl

/-! ## One file after another -/

lemma Generates.kindAt_file [ErrorRecovery] {r : Except CommandError String} {path : String}
    (h : Generates t a c output file (r, t')) (hkind : t.kindAt path = some .file) :
    t'.kindAt path = some .file := by
  cases r with
  | error e =>
    have hkeeps : t.Keeps t' := h
    exact hkeeps.kindAt_file hkind
  | ok destination =>
    obtain ⟨-, source, text, -, -, hwrites⟩ := h
    exact hwrites.kindAt_file hkind

/-- What is a file before a run is a file after it. -/
lemma Runs.kindAt_file [ErrorRecovery] {results : List (String × Except CommandError String)} {path : String}
    (h : Runs a c output t results t') (hkind : t.kindAt path = some .file) :
    t'.kindAt path = some .file := by
  induction h with
  | nil t => exact hkind
  | cons hstep _ ih => exact ih (hstep.kindAt_file hkind)

/-- The command on each of some files, one after another: what the user is told of each, and the tree in the
end. -/
def oneByOne [ErrorRecovery] (t : FileTree) (a : Artifact) (c : Config) (output : String) (files : List String) :
    List Told × FileTree :=
  (files.mapM (runAlone a c output) : StateM FileTree _).run t

/-- Taken one after another, each file is taken as it is on a directory. -/
lemma oneByOne_eq [ErrorRecovery] (t : FileTree) (a : Artifact) (c : Config) (output : String) {files : List String}
    (hfiles : ∀ file ∈ files, t.kindAt file = some .file) :
    oneByOne t a c output files
      = ((files.mapM fun file => do
            return (file, ← generateInto a c output file) : StateM FileTree _).run t).map
          (List.map fun r => toldAlone r.2) id := by
  -- by the files, in whatever tree those before have left: the next one is still a file there
  induction files generalizing t with
  | nil => rfl
  | cons file files ih =>
    have hfile : t.kindAt file = some .file := hfiles file List.mem_cons_self
    have hgenerates := generates_generateInto t a c output file
    rcases hrun : (generateInto a c output file : StateM FileTree _).run t with ⟨r, t₁⟩
    rw [hrun] at hgenerates
    have hrest := ih t₁ fun other hother =>
      hgenerates.kindAt_file (hfiles other (List.mem_cons_of_mem file hother))
    have hstep : (do return (file, ← generateInto a c output file) : StateM FileTree _).run t
        = ((file, r), t₁) := by
      rw [run_bind, hrun]
      rfl
    unfold oneByOne at hrest ⊢
    rw [run_mapM_cons, run_runAlone a c output hfile, hrun, run_mapM_cons, hstep]
    dsimp only [Prod.map, id]
    rw [hrest]
    rfl

/-- A command on a directory does what the commands on its files do one by one, and a file for which that
fails changes no file. -/
structure OneByOne [ErrorRecovery] (t : FileTree) (a : Artifact) (c : Config) (output : String) (files : List String)
    (whole : Told × FileTree) : Prop where
  tree : whole.2 = (oneByOne t a c output files).2
  exit : whole.1.outcome.exit = 0 ↔ ∀ told ∈ (oneByOne t a c output files).1, told.outcome.exit = 0
  count : files ≠ [] → ∃ lines, whole.1.err = lines ++ "Generated "
    ++ toString ((oneByOne t a c output files).1.countP Told.succeeds) ++ "/" ++ toString files.length
    ++ " files\n"
  failing : ∀ before file after, files = before ++ file :: after →
    let found := (oneByOne t a c output before).2
    let alone := (runAlone a c output file : StateM FileTree _).run found
    alone.1.outcome.exit ≠ 0 → alone.2.fileAt = found.fileAt

/-- Commands on single files succeed as often as files are written. -/
lemma countP_toldAlone (results : List (String × Except CommandError String)) :
    (results.map fun r => toldAlone r.2).countP Told.succeeds = (written results).length := by
  induction results with
  | nil => rfl
  | cons r results ih =>
    obtain ⟨file, _ | destination⟩ := r
    · rw [List.map_cons, List.countP_cons_of_neg (by simp [succeeds_toldAlone, Except.isOk, Except.toBool]),
        ih, written_cons_error]
    · rw [List.map_cons, List.countP_cons_of_pos (by simp [succeeds_toldAlone, Except.isOk, Except.toBool]),
        ih, written_cons_ok, List.length_cons]

lemma exit_summary_eq_zero_iff (results : List (String × Except CommandError String)) :
    (summary results).outcome.exit = 0
      ↔ ∀ told ∈ results.map fun r => toldAlone r.2, told.outcome.exit = 0 := by
  have hsucceeds (told : Told) : told.outcome.exit = 0 ↔ told.succeeds := beq_iff_eq.symm
  have hfailed : (results.filter (·.2.isOk.not)).length = 0
      ↔ ∀ told ∈ results.map fun r => toldAlone r.2, told.succeeds := by
    rw [List.length_eq_zero_iff, List.filter_eq_nil_iff, List.forall_mem_map]
    simp only [succeeds_toldAlone, Bool.not_eq_true', Bool.not_eq_false]
  simp only [hsucceeds]
  rw [Told.succeeds_iff, ← hfailed]
  unfold summary
  dsimp only
  split
  · next hzero => exact iff_of_true rfl hzero
  · next hsome => exact iff_of_false (by simp) hsome

/-- A file on which the command fails changes no file, wherever its turn comes. -/
lemma fileAt_of_fails [ErrorRecovery] {files before after : List String}
    (hfiles : ∀ file ∈ files, t.kindAt file = some .file) (hsplit : files = before ++ file :: after)
    (hfails : ((runAlone a c output file : StateM FileTree _).run
      (oneByOne t a c output before).2).1.outcome.exit ≠ 0) :
    ((runAlone a c output file : StateM FileTree _).run (oneByOne t a c output before).2).2.fileAt
      = (oneByOne t a c output before).2.fileAt := by
  subst hsplit
  have hbefore : ∀ other ∈ before, t.kindAt other = some .file :=
    fun other hother => hfiles other (List.mem_append_left _ hother)
  obtain ⟨results, t₁, hrun, -, hruns⟩ := exists_runs a c output before t
  have hfound : (oneByOne t a c output before).2 = t₁ := by
    rw [oneByOne_eq t a c output hbefore, hrun]
    rfl
  rw [hfound] at hfails ⊢
  -- when its turn comes, the file is still there
  have hfile : t₁.kindAt file = some .file := hruns.kindAt_file (hfiles file (by simp))
  have hgenerates := generates_generateInto t₁ a c output file
  rw [run_runAlone a c output hfile] at hfails ⊢
  rcases hstep : (generateInto a c output file : StateM FileTree _).run t₁ with ⟨e | destination, t₂⟩
  · rw [hstep] at hgenerates
    exact FileTree.Keeps.files hgenerates
  · rw [hstep] at hfails
    exact absurd rfl hfails

/-- In a directory without declaration files there is nothing to be done, and the user is told so. -/
lemma oneByOne_of_eq_nil [ErrorRecovery] {f : FileFilter} {including excluding : List String} {input : String}
    (hinput : t.kindAt input = some .directory) (hfilter : readFilter including excluding = .ok f)
    (hnone : t.declarationFiles input f c.output = []) :
    OneByOne t a c output []
      ((run c (.generate a input output including excluding) : StateM FileTree _).run t) := by
  have hrun : (run c (.generate a input output including excluding) : StateM FileTree _).run t
      = (.line ("No declaration files found under " ++ input), t) := by
    rw [run_generate_of_directory t a c input output including excluding hinput, hfilter]
    dsimp only [generateAll]
    rw [run_bind, FileTree.run_declarationFiles, hnone]
    rfl
  rw [hrun]
  exact ⟨rfl, iff_of_true rfl (List.forall_mem_nil _), fun h => absurd rfl h, by simp⟩

/-- A command on a directory is refused without any change if one of its globs is none. Otherwise it leaves the
tree that is left by the same command on each of the collected files in turn. It ends well just when all of
these do, and it reports how many of them do. A file on which the command fails changes no file. -/
theorem run_generate_oneByOne [ErrorRecovery] (t : FileTree) (a : Artifact) (c : Config) (input output : String)
    (including excluding : List String) (hinput : t.kindAt input = some .directory) :
    match readFilter including excluding with
    | .error e =>
      (run c (.generate a input output including excluding) : StateM FileTree _).run t = (.failed e, t)
    | .ok f =>
      OneByOne t a c output (t.declarationFiles input f c.output)
        ((run c (.generate a input output including excluding) : StateM FileTree _).run t) := by
  cases hfilter : readFilter including excluding with
  | error e =>
    dsimp only
    rw [run_generate_of_directory t a c input output including excluding hinput, hfilter]
    rfl
  | ok f =>
    dsimp only
    by_cases hnone : t.declarationFiles input f c.output = []
    · rw [hnone]
      exact oneByOne_of_eq_nil hinput hfilter hnone
    have hfiles : ∀ file ∈ t.declarationFiles input f c.output, t.kindAt file = some .file :=
      fun file hfile => FileTree.kindAt_of_mem_declarationFiles hfile
    obtain ⟨results, t', hrun, hresults, -⟩ :=
      exists_runs a c output (t.declarationFiles input f c.output) t
    have hwhole := run_generate t a c input output including excluding hinput hfilter hnone
    have halone := oneByOne_eq t a c output hfiles
    rw [hrun] at hwhole halone
    refine ⟨?_, ?_, fun _ => ?_, fun before file after hsplit => fileAt_of_fails hfiles hsplit⟩
    · rw [hwhole, halone]
      rfl
    · rw [hwhole, halone]
      exact exit_summary_eq_zero_iff results
    · rw [hwhole, halone, ← hresults, List.length_map]
      dsimp only [Prod.map]
      rw [countP_toldAlone]
      exact ⟨_, err_summary results⟩

/-- A directory with a sound file behind one that breaks off. -/
def brokenAccount : FileTree :=
  (twoDirectories "order.go").put ["work", "in", "a", "account.go"] (.file "package")

/-- Behind a file that cannot be parsed the next one is written, and the command fails in the end. -/
theorem run_generate_brokenAccount :
    let files := ["in/a/account.go", "in/b/order.go"]
    let whole := (run {} (.generate .queries "in" "out" [] []) : StateM FileTree _).run brokenAccount
    brokenAccount.kindAt "in" = some .directory ∧ brokenAccount.declarationFiles "in" {} {} = files
      ∧ OneByOne brokenAccount .queries {} "out" files whole
      ∧ whole.1.outcome.exit ≠ 0 ∧ (∃ lines, whole.1.err = lines ++ "Generated 1/2 files\n")
      ∧ whole.2.namesIn "out" = [("order_generatedQueries.go", .file)] := by
  intro files whole
  have hinput : brokenAccount.kindAt "in" = some .directory := by decide
  have hfiles : brokenAccount.declarationFiles "in" {} {} = files :=
    FileTree.declarationFiles_of_filesBelow [["a", "account.go"], ["b", "order.go"]]
      (by decide) (by decide)
  have hwhole : OneByOne brokenAccount .queries {} "out" files whole := by
    rw [← hfiles]
    exact run_generate_oneByOne brokenAccount .queries {} "in" "out" [] [] hinput
  refine ⟨hinput, hfiles, hwhole, fun hzero => ?_, ?_, ?_⟩
  · have hfails : ∃ told ∈ (oneByOne brokenAccount .queries {} "out" files).1, told.outcome.exit ≠ 0 := by
      decide +kernel
    obtain ⟨told, hmem, hne⟩ := hfails
    exact hne (hwhole.exit.mp hzero told hmem)
  · have hcount : (oneByOne brokenAccount .queries {} "out" files).1.countP Told.succeeds = 1 := by
      decide +kernel
    obtain ⟨lines, hlines⟩ := hwhole.count (by simp [files])
    rw [hcount] at hlines
    refine ⟨lines, hlines.trans ?_⟩
    simp only [String.append_assoc]
    exact congrArg (lines ++ ·) (by decide)
  · rw [hwhole.tree]
    decide +kernel

end Command

end DeclGen
