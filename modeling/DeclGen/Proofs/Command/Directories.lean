import DeclGen.Command.Run
import DeclGen.Proofs.Files.Collecting

/-!
# Commands on directories

A command on a directory takes its declaration files one after another (`Command.Runs`). Each file is
either written to its destination or leaves all files alone, so what one file got stays until another is
written over it. The destination is made from the stem of a file and not from its directory: a run loses
nothing when the files that it wrote have different stems
(`Command.run_generate_losesNothing_iff`).
-/

namespace DeclGen

namespace Command

open FileTree (run_bind)

variable {t t' : FileTree} {a : Artifact} {c : Config} {input output file destination : String}

/-! ## One file -/

lemma run_fromFile (t : FileTree) (path : String) (make : String → Except CommandError String) :
    (fromFile path make : StateM FileTree _).run t
      = (match t.readText path with
        | .error cause => .error (.unreadable path cause)
        | .ok source => make source, t) := by
  unfold fromFile
  rw [run_bind]
  have hread : (FileStore.readText path : StateM FileTree _).run t = (t.readText path, t) := rfl
  rw [hread]
  cases t.readText path <;> rfl

/-- What is made from a file was written, or else a refusal has kept all files. -/
def Derives (t : FileTree) (input output : String) (make : String → Except CommandError String) :
    Except CommandError Unit × FileTree → Prop
  | (.ok _, t') => ∃ source text, t.readText input = .ok source ∧ make source = .ok text
      ∧ t.Writes t' output text
  | (.error _, t') => t.Keeps t'

theorem derives_transform (t : FileTree) (input output : String)
    (make : String → Except CommandError String) :
    Derives t input output make ((transform input output make : StateM FileTree _).run t) := by
  unfold transform
  rw [run_bind, run_fromFile]
  cases hsource : t.readText input with
  | error e => exact .refl t
  | ok source =>
    dsimp only
    cases hmake : make source with
    | error e => exact .refl t
    | ok text =>
      have hsettles := FileTree.settles_replace t output text
      show Derives t input output make (StateT.run (do
        return (← FileStore.replace output text).mapError .unwritten : StateM FileTree _) t)
      rw [run_bind]
      rcases hrun : (FileStore.replace output text : StateM FileTree _).run t with ⟨_ | _, t'⟩
      · rw [hrun] at hsettles
        exact hsettles
      · rw [hrun] at hsettles
        exact ⟨source, text, hsource, hmake, hsettles⟩

/-- The artifact of a file was written to its destination, or else a refusal has kept all files. -/
def Generates [ErrorRecovery] (t : FileTree) (a : Artifact) (c : Config) (output file : String) :
    Except CommandError String × FileTree → Prop
  | (.ok destination, t') => c.output.destination? a output file = some destination
      ∧ ∃ source text, t.readText file = .ok source ∧ artifactOf a c file source = .ok text
        ∧ t.Writes t' destination text
  | (.error _, t') => t.Keeps t'

theorem generates_generateInto [ErrorRecovery] (t : FileTree) (a : Artifact) (c : Config)
    (output file : String) :
    Generates t a c output file ((generateInto a c output file : StateM FileTree _).run t) := by
  unfold generateInto
  cases hdestination : c.output.destination? a output file with
  | none => exact .refl t
  | some destination =>
    have hderives := derives_transform t file destination (artifactOf a c file)
    dsimp only [generateFile]
    rw [run_bind]
    rcases hrun : (transform file destination (artifactOf a c file) : StateM FileTree _).run t with
      ⟨_ | _, t'⟩
    · rw [hrun] at hderives
      exact hderives
    · rw [hrun] at hderives
      exact ⟨hdestination, hderives⟩

/-! ## One file after another -/

/-- The files were taken one after another, each in the tree that the one before had left. -/
inductive Runs [ErrorRecovery] (a : Artifact) (c : Config) (output : String) :
    FileTree → List (String × Except CommandError String) → FileTree → Prop
  | nil (t : FileTree) : Runs a c output t [] t
  | cons {t t₁ t' : FileTree} {file : String} {r : Except CommandError String}
      {results : List (String × Except CommandError String)} :
      Generates t a c output file (r, t₁) → Runs a c output t₁ results t' →
      Runs a c output t ((file, r) :: results) t'

/-- The files that were written, with their destinations. -/
def written (results : List (String × Except CommandError String)) : List (String × String) :=
  results.filterMap fun (file, r) => r.toOption.map (file, ·)

@[simp]
lemma written_cons_ok (file destination : String)
    (results : List (String × Except CommandError String)) :
    written ((file, .ok destination) :: results) = (file, destination) :: written results := rfl

@[simp]
lemma written_cons_error (file : String) (e : CommandError)
    (results : List (String × Except CommandError String)) :
    written ((file, .error e) :: results) = written results := rfl

lemma written_sublist (results : List (String × Except CommandError String)) :
    ((written results).map Prod.fst).Sublist (results.map Prod.fst) := by
  induction results with
  | nil => exact .slnil
  | cons e results ih =>
    obtain ⟨file, _ | destination⟩ := e
    · exact ih.cons file
    · exact ih.cons_cons file

lemma mem_map_fst_of_mem_written {results : List (String × Except CommandError String)}
    {w : String × String} (h : w ∈ written results) : w.1 ∈ results.map Prod.fst :=
  (written_sublist results).subset (List.mem_map_of_mem h)

theorem exists_runs [ErrorRecovery] (a : Artifact) (c : Config) (output : String) (files : List String)
    (t : FileTree) :
    ∃ results t', (files.mapM fun file => do
        return (file, ← generateInto a c output file) : StateM FileTree _).run t = (results, t')
      ∧ results.map Prod.fst = files ∧ Runs a c output t results t' := by
  induction files generalizing t with
  | nil => exact ⟨[], t, rfl, rfl, .nil t⟩
  | cons file files ih =>
    obtain ⟨results, t', hrun, hfiles, hruns⟩ :=
      ih ((generateInto a c output file : StateM FileTree _).run t).2
    refine ⟨_ :: results, t', ?_, ?_, .cons (generates_generateInto t a c output file) hruns⟩
    · have hstep : (do return (file, ← generateInto a c output file) : StateM FileTree _).run t
          = ((file, ((generateInto a c output file : StateM FileTree _).run t).1),
            ((generateInto a c output file : StateM FileTree _).run t).2) := rfl
      rw [List.mapM_cons, run_bind, run_bind, hstep, hrun]
      rfl
    · rw [List.map_cons, hfiles]

namespace Runs

variable [ErrorRecovery] {results : List (String × Except CommandError String)}

/-- Directories stay. -/
lemma grows (h : Runs a c output t results t') : t.Grows t' := by
  induction h with
  | nil t => exact .refl t
  | @cons t t₁ t' file r results hstep _ ih =>
    cases r with
    | error e => exact (FileTree.Keeps.toGrows hstep).trans ih
    | ok destination =>
      obtain ⟨-, source, text, -, -, hwrites⟩ := hstep
      exact hwrites.toGrows.trans ih

/-- What is written goes to the destination of its file. -/
lemma destination_of_mem (h : Runs a c output t results t') {w : String × String}
    (hw : w ∈ written results) : c.output.destination? a output w.1 = some w.2 := by
  induction h with
  | nil t => cases hw
  | @cons t t₁ t' file r results hstep _ ih =>
    cases r with
    | error e => exact ih hw
    | ok destination =>
      rw [written_cons_ok, List.mem_cons] at hw
      rcases hw with rfl | hw
      · exact hstep.1
      · exact ih hw

/-- Where nothing is written, the file is as it was. -/
lemma fileAt_of_notMem (h : Runs a c output t results t') {l : Location}
    (hl : l ∉ (written results).map fun w => t.placeOf w.2) : t'.fileAt l = t.fileAt l := by
  induction h with
  | nil t => rfl
  | @cons t t₁ t' file r results hstep _ ih =>
    cases r with
    | error e =>
      have hkeeps : t.Keeps t₁ := hstep
      simp only [hkeeps.placeOf] at ih
      rw [ih hl, hkeeps.files]
    | ok destination =>
      obtain ⟨-, source, text, -, -, hwrites⟩ := hstep
      simp only [written_cons_ok, List.map_cons, List.mem_cons, not_or] at hl
      simp only [hwrites.placeOf] at ih
      rw [ih hl.2, hwrites.files, Function.update_of_ne hl.1]

end Runs

/-! ## What a run leaves -/

/-- At the end of a run the destination of a file holds what is made from the file as it was before. -/
def Rendered [ErrorRecovery] (t t' : FileTree) (a : Artifact) (c : Config) (file destination : String) : Prop :=
  ∃ source text, t.fileAt (t.placeOf file) = some source ∧ artifactOf a c file source = .ok text
    ∧ t'.readText destination = .ok text

/-- Nothing that a run wrote is lost: there are as many files as were written, and each one is the
artifact of its own declaration file. -/
structure LosesNothing [ErrorRecovery] (t t' : FileTree) (a : Artifact) (c : Config)
    (results : List (String × Except CommandError String)) : Prop where
  distinct : ((written results).map fun w => t.placeOf w.2).Nodup
  rendered : ∀ w ∈ written results, Rendered t t' a c w.1 w.2

/-- Nothing was written over a file from which something was made. -/
def Apart (t : FileTree) (results : List (String × Except CommandError String)) : Prop :=
  ∀ v ∈ written results, ∀ w ∈ written results, t.placeOf w.2 ≠ t.placeOf v.1

theorem Runs.rendered [ErrorRecovery] {results : List (String × Except CommandError String)}
    (h : Runs a c output t results t') (hapart : Apart t results)
    (hdistinct : ((written results).map fun w => t.placeOf w.2).Nodup) {w : String × String}
    (hw : w ∈ written results) : Rendered t t' a c w.1 w.2 := by
  induction h with
  | nil t => cases hw
  | @cons t t₁ t' file r results hstep hruns ih =>
    cases r with
    | error e =>
      have hkeeps : t.Keeps t₁ := hstep
      simp only [Apart, Rendered, hkeeps.placeOf, hkeeps.files] at ih
      exact ih hapart hdistinct hw
    | ok destination =>
      obtain ⟨-, source, text, hsource, htext, hwrites⟩ := hstep
      simp only [written_cons_ok, List.map_cons, List.nodup_cons] at hdistinct
      rw [written_cons_ok, List.mem_cons] at hw
      rcases hw with rfl | hw
      · -- the destination is not written again
        refine ⟨source, text, (FileTree.readText_eq_ok_iff.mp hsource).2, htext, ?_⟩
        refine hruns.grows.readText ?_ hwrites.reads
        refine hruns.fileAt_of_notMem ?_
        simpa only [hwrites.placeOf] using hdistinct.1
      · -- and the files that follow are read as they were before
        have hrest : Apart t results := fun v hv w hw =>
          hapart v (List.mem_cons_of_mem _ hv) w (List.mem_cons_of_mem _ hw)
        simp only [Apart, Rendered, hwrites.placeOf] at ih
        obtain ⟨source', text', hsource', htext', hreads⟩ := ih hrest hdistinct.2 hw
        refine ⟨source', text', ?_, htext', hreads⟩
        have hne : t.placeOf destination ≠ t.placeOf w.1 :=
          hapart w (List.mem_cons_of_mem _ hw) (file, destination) List.mem_cons_self
        rwa [hwrites.files, Function.update_of_ne hne.symm] at hsource'

/-! ## Which destinations meet -/

section Destinations

variable {f : FileFilter} {results : List (String × Except CommandError String)}

/-- A flat artifact stands in the output directory under its own name. -/
lemma placeOf_destination (hflat : c.output.IsFlat a)
    (hfile : file ∈ t.declarationFiles input f c.output) {stem : String}
    (hstem : Path.stem? file = some stem)
    (h : c.output.destination? a output file = some destination) :
    t.placeOf destination = t.placeOf output ++ [c.output.artifactName a stem] := by
  obtain ⟨name, hname, hgenerated⟩ := FileTree.exists_fileName?_of_mem_declarationFiles hfile
  obtain ⟨hslash, hsilent, hback⟩ := Config.Output.artifactName_isName hflat (Path.stem_ne_empty hstem)
    (Path.notMem_stem hstem) (.inl (Config.Output.suffix_ne_empty hname hgenerated a))
  rw [Config.Output.destination?_eq_map, hstem] at h
  obtain rfl := Option.some.inj h
  exact FileTree.placeOf_join_name hslash hsilent hback

/-- Flat artifacts whose extension has no dot are never taken for declaration files. -/
theorem apart_of_isFlat [ErrorRecovery] (hflat : c.output.IsFlat a) (hdot : '.' ∉ c.output.extension.toList)
    (h : Runs a c output t results t')
    (hfiles : results.map Prod.fst = t.declarationFiles input f c.output) : Apart t results := by
  intro v hv w hw
  have hvfile := hfiles ▸ mem_map_fst_of_mem_written hv
  have hwfile := hfiles ▸ mem_map_fst_of_mem_written hw
  obtain ⟨name, hname, hgenerated⟩ := FileTree.exists_fileName?_of_mem_declarationFiles hwfile
  have hsuffix := Config.Output.suffix_ne_empty hname hgenerated a
  exact FileTree.placeOf_ne_of_isGenerated hvfile
    (Config.Output.isGenerated_destination hflat hdot (.inl hsuffix) (h.destination_of_mem hw)) t

/-- Two functions that agree on when two elements of a list are the same find the same lists free of
duplicates. -/
lemma nodup_map_iff {α β γ : Type} {l : List α} {g : α → β} {h : α → γ}
    (hgh : ∀ x ∈ l, ∀ y ∈ l, g x = g y ↔ h x = h y) : (l.map g).Nodup ↔ (l.map h).Nodup := by
  simp only [List.Nodup, List.pairwise_map]
  exact List.Pairwise.iff_of_mem fun hx hy => not_congr (hgh _ hx _ hy)

/-- Flat artifacts stand in one place when their files have one stem. -/
theorem nodup_places_iff [ErrorRecovery] (hflat : c.output.IsFlat a) (h : Runs a c output t results t')
    (hfiles : results.map Prod.fst = t.declarationFiles input f c.output) :
    ((written results).map fun w => t.placeOf w.2).Nodup
      ↔ ((written results).map fun w => Path.stem? w.1).Nodup := by
  refine nodup_map_iff fun v hv w hw => ?_
  have hvfile := hfiles ▸ mem_map_fst_of_mem_written hv
  have hwfile := hfiles ▸ mem_map_fst_of_mem_written hw
  obtain ⟨stem, hstem⟩ := FileTree.exists_stem?_of_mem_declarationFiles hvfile
  obtain ⟨stem', hstem'⟩ := FileTree.exists_stem?_of_mem_declarationFiles hwfile
  rw [placeOf_destination hflat hvfile hstem (h.destination_of_mem hv),
    placeOf_destination hflat hwfile hstem' (h.destination_of_mem hw), hstem, hstem',
    Option.some.injEq, List.append_cancel_left_eq, List.singleton_inj, Config.Output.artifactName_inj]

end Destinations

/-! ## The command -/

lemma length_written (results : List (String × Except CommandError String)) :
    (written results).length + (results.filter (·.2.isOk.not)).length = results.length := by
  induction results with
  | nil => rfl
  | cons e results ih =>
    obtain ⟨file, _ | destination⟩ := e
    · rw [written_cons_error, List.filter_cons_of_pos rfl, List.length_cons, List.length_cons]
      omega
    · rw [written_cons_ok, List.filter_cons_of_neg (by simp [Except.isOk, Except.toBool]),
        List.length_cons, List.length_cons]
      omega

/-- The last line says how many files were written. -/
lemma err_summary (results : List (String × Except CommandError String)) :
    (summary results).err = String.join (results.map fun (file, r) => fileLine file r)
      ++ "Generated " ++ toString (written results).length ++ "/" ++ toString results.length
      ++ " files\n" := by
  have hcount : results.length - (results.filter (·.2.isOk.not)).length = (written results).length := by
    have := length_written results
    omega
  simp only [summary, hcount, String.append_assoc]

/-- What is a directory is gone through, unless a glob is none. -/
lemma run_generate_of_directory [ErrorRecovery] (t : FileTree) (a : Artifact) (c : Config) (input output : String)
    (including excluding : List String) (hinput : t.kindAt input = some .directory) :
    (run c (.generate a input output including excluding) : StateM FileTree _).run t
      = (match readFilter including excluding with
        | .error e => return .failed e
        | .ok f => generateAll a c input output f : StateM FileTree _).run t := by
  unfold run generateFrom
  rw [run_bind, FileTree.run_isDirectory, hinput]
  rfl

theorem run_generate [ErrorRecovery] (t : FileTree) (a : Artifact) (c : Config) (input output : String)
    (including excluding : List String) {f : FileFilter}
    (hinput : t.kindAt input = some .directory) (hfilter : readFilter including excluding = .ok f)
    (hfiles : t.declarationFiles input f c.output ≠ []) :
    (run c (.generate a input output including excluding) : StateM FileTree _).run t
      = (((t.declarationFiles input f c.output).mapM fun file => do
            return (file, ← generateInto a c output file) : StateM FileTree _).run t).map
          summary id := by
  rw [run_generate_of_directory t a c input output including excluding hinput, hfilter]
  dsimp only [generateAll]
  rw [run_bind, FileTree.run_declarationFiles]
  dsimp only
  rw [if_neg (by simpa using hfiles)]
  rfl

/-- A command on a directory gives every declaration file a destination, and two files the same one just
when they have the same stem. It loses nothing of what it reports as written just when that stands in
different places: as long as suffix and extension lead to no other directory, when the files have
different stems. As long as the extension has no dot either, nothing is written over a declaration file.
-/
theorem run_generate_losesNothing_iff [ErrorRecovery] (t : FileTree) (a : Artifact) (c : Config) (input output : String)
    (including excluding : List String) {f : FileFilter}
    (hinput : t.kindAt input = some .directory) (hfilter : readFilter including excluding = .ok f)
    (hfiles : t.declarationFiles input f c.output ≠ []) :
    (∀ file ∈ t.declarationFiles input f c.output, (c.output.destination? a output file).isSome)
      ∧ (((t.declarationFiles input f c.output).map (c.output.destination? a output)).Nodup
          ↔ ((t.declarationFiles input f c.output).map Path.stem?).Nodup)
      ∧ ∃ results t',
        (run c (.generate a input output including excluding) : StateM FileTree _).run t
            = (summary results, t')
          ∧ results.map Prod.fst = t.declarationFiles input f c.output
          ∧ (summary results).err = String.join (results.map fun (file, r) => fileLine file r)
              ++ "Generated " ++ toString (written results).length ++ "/" ++ toString results.length
              ++ " files\n"
          ∧ (c.output.IsFlat a ∧ '.' ∉ c.output.extension.toList ∨ Apart t results →
              (LosesNothing t t' a c results ↔ ((written results).map fun w => t.placeOf w.2).Nodup))
          ∧ (c.output.IsFlat a →
              (((written results).map fun w => t.placeOf w.2).Nodup
                ↔ ((written results).map fun w => Path.stem? w.1).Nodup)) := by
  obtain ⟨results, t', hrun, hresults, hruns⟩ :=
    exists_runs a c output (t.declarationFiles input f c.output) t
  refine ⟨fun file hfile => ?_, nodup_map_iff fun _ _ _ _ => Config.Output.destination?_inj,
    results, t', ?_, hresults, err_summary results, fun hapart => ?_,
    fun hflat => nodup_places_iff hflat hruns hresults⟩
  · obtain ⟨stem, hstem⟩ := FileTree.exists_stem?_of_mem_declarationFiles hfile
    simp [Config.Output.destination?_eq_map, hstem]
  · rw [run_generate t a c input output including excluding hinput hfilter hfiles, hrun]
    rfl
  · have hapart : Apart t results :=
      hapart.elim (fun ⟨hflat, hdot⟩ => apart_of_isFlat hflat hdot hruns hresults) id
    exact ⟨LosesNothing.distinct, fun h => ⟨h, fun w hw => hruns.rendered hapart h hw⟩⟩

/-- A directory with a declaration file in each of two directories below it. -/
def twoDirectories (name : String) : FileTree where
  workingDirectory := ["work"]
  entries :=
    [(["work"], .directory), (["work", "in"], .directory), (["work", "in", "a"], .directory),
      (["work", "in", "b"], .directory),
      (["work", "in", "a", "account.go"],
        .file "package model\n\ntype Account struct \x7b\n\tID int64 \x60db:\"id\"\x60\n\x7d\n"),
      (["work", "in", "b", name],
        .file "package model\n\ntype Order struct \x7b\n\tID int64 \x60db:\"id\"\x60\n\x7d\n")]

lemma declarationFiles_twoDirectories_order :
    (twoDirectories "order.go").declarationFiles "in" {} {} = ["in/a/account.go", "in/b/order.go"] :=
  FileTree.declarationFiles_of_filesBelow [["a", "account.go"], ["b", "order.go"]]
    (by decide) (by decide)

lemma declarationFiles_twoDirectories_account :
    (twoDirectories "account.go").declarationFiles "in" {} {} = ["in/a/account.go", "in/b/account.go"] :=
  FileTree.declarationFiles_of_filesBelow [["a", "account.go"], ["b", "account.go"]]
    (by decide) (by decide)

/-- Two files that are called differently are both written and both keep their artifacts. -/
theorem run_generate_losesNothing_order :
    ∃ results t',
      (run {} (.generate .queries "in" "out" [] []) : StateM FileTree _).run (twoDirectories "order.go")
          = (summary results, t')
        ∧ results.map Prod.fst = ["in/a/account.go", "in/b/order.go"]
        ∧ (summary results).err = "  in/a/account.go -> out/account_generatedQueries.go\n"
            ++ "  in/b/order.go -> out/order_generatedQueries.go\nGenerated 2/2 files\n"
        ∧ LosesNothing (twoDirectories "order.go") t' .queries {} results := by
  have hfiles := declarationFiles_twoDirectories_order
  have hdirectory : (twoDirectories "order.go").kindAt "in" = some .directory := by decide
  have hsome : (twoDirectories "order.go").declarationFiles "in" {} {} ≠ [] := by
    rw [hfiles]
    decide
  obtain ⟨-, -, results, t', hrun, hresults, -, hkept, hplaces⟩ :=
    run_generate_losesNothing_iff (twoDirectories "order.go") .queries {} "in" "out" [] [] (f := {})
      hdirectory rfl hsome
  rw [hfiles] at hresults
  refine ⟨results, t', hrun, hresults, ?_, ?_⟩
  · have herr := congrArg (·.1.err) hrun
    rw [run_generate _ .queries {} "in" "out" [] [] (f := {}) hdirectory rfl hsome] at herr
    simp only [hfiles] at herr
    rw [← herr]
    decide +kernel
  · rw [hkept (.inl (by decide)), hplaces (by decide)]
    -- different stems of the files are different stems of those that were written
    have hstems : ((results.map Prod.fst).map Path.stem?).Nodup := by
      rw [hresults]
      decide
    have := hstems.sublist ((written_sublist results).map Path.stem?)
    rwa [List.map_map] at this

/-- Two files that are called alike have one artifact, and both are reported as written. -/
theorem run_generate_twins :
    (({} : Config).validate = .ok ())
      ∧ ¬ (((twoDirectories "account.go").declarationFiles "in" {} {}).map
          (Config.Output.destination? {} .queries "out")).Nodup
      ∧ ((run {} (.generate .queries "in" "out" [] []) : StateM FileTree _).run
          (twoDirectories "account.go")).1.err
        = "  in/a/account.go -> out/account_generatedQueries.go\n"
          ++ "  in/b/account.go -> out/account_generatedQueries.go\nGenerated 2/2 files\n"
      ∧ ((run {} (.generate .queries "in" "out" [] []) : StateM FileTree _).run
          (twoDirectories "account.go")).2.namesIn "out" = [("account_generatedQueries.go", .file)] := by
  have hfiles := declarationFiles_twoDirectories_account
  rw [run_generate (twoDirectories "account.go") .queries {} "in" "out" [] []
    (f := {}) (by decide) rfl (by rw [hfiles]; decide)]
  simp only [hfiles]
  refine ⟨by decide, by decide, by decide +kernel, by decide +kernel⟩

end Command

end DeclGen
