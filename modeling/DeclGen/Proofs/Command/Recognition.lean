import DeclGen.Proofs.Command.Directories
import DeclGen.Proofs.Config.Validation

/-!
# Artifacts among declaration files

A second command on a directory finds the artifacts of the first one there. Those that are known by their
names are never taken for declaration files, and a command that writes no others leaves all declaration files
as they are. An artifact is known by the suffix in its stem; an extension with a dot of its own is split
there, and what is in front of that dot goes to the stem, behind the suffix
(`Command.leavesDeclarations_of_isGenerated`).
-/

namespace DeclGen

namespace Command

variable {t t' : FileTree} {a : Artifact} {c : Config} {input output : String} {f : FileFilter}
  {results : List (String × Except CommandError String)}

/-- A run keeps clear of declaration files: those that were there are as they were, and nothing that was
written is among those that are there now. -/
structure LeavesDeclarations (t t' : FileTree) (o : Config.Output)
    (results : List (String × Except CommandError String)) : Prop where
  kept : ∀ directory f, ∀ file ∈ t.declarationFiles directory f o,
    t'.fileAt (t'.placeOf file) = t.fileAt (t.placeOf file)
  apart : ∀ directory f, ∀ file ∈ t'.declarationFiles directory f o,
    t'.placeOf file ∉ (written results).map fun w => t'.placeOf w.2

/-- A run that only writes what is known for an artifact keeps clear of declaration files. -/
lemma Runs.leavesDeclarations [ErrorRecovery] (h : Runs a c output t results t')
    (hknown : ∀ w ∈ written results, c.output.isGenerated w.2) :
    LeavesDeclarations t t' c.output results := by
  -- the names alone tell artifacts and declaration files apart, so this is so in every tree
  have hapart : ∀ {tree : FileTree} {directory f file}, file ∈ tree.declarationFiles directory f c.output →
      ∀ tree' : FileTree, tree'.placeOf file ∉ (written results).map fun w => tree'.placeOf w.2 := by
    intro tree directory f file hfile tree' hmem
    obtain ⟨w, hw, heq⟩ := List.mem_map.mp hmem
    exact FileTree.placeOf_ne_of_isGenerated hfile (hknown w hw) tree' heq
  refine ⟨fun directory f file hfile => ?_, fun directory f file hfile => hapart hfile t'⟩
  rw [h.grows.placeOf]
  exact h.fileAt_of_notMem (hapart hfile t)

/-- With a valid configuration whose suffix and extension lead to no other directory, the artifact of a file
is known for one exactly when its extension has no dot, or a suffix is at the end of its stem nevertheless. A
command on a directory all of whose artifacts are known keeps clear of declaration files. -/
theorem leavesDeclarations_of_isGenerated [ErrorRecovery] (hvalid : c.validate = .ok ()) (a : Artifact) :
    (c.output.IsFlat a → ∀ directory input stem, Path.stem? input = some stem →
      ∃ destination, c.output.destination? a directory input = some destination ∧
        (c.output.isGenerated destination ↔ '.' ∉ c.output.extension.toList ∨
          ∃ b, Text.finishesWith (c.output.suffix b)
            (stem ++ c.output.suffix a ++ c.output.stemTail))) ∧
    ∀ (t : FileTree) input output including excluding f, t.kindAt input = some .directory →
      readFilter including excluding = .ok f → t.declarationFiles input f c.output ≠ [] →
      (∀ file ∈ t.declarationFiles input f c.output,
        ∀ destination ∈ c.output.destination? a output file, c.output.isGenerated destination) →
      ∃ results t',
        (run c (.generate a input output including excluding) : StateM FileTree _).run t
            = (summary results, t')
          ∧ results.map Prod.fst = t.declarationFiles input f c.output
          ∧ LeavesDeclarations t t' c.output results := by
  have hextension := (Config.validate_eq_ok_iff.mp hvalid).2
  constructor
  · intro hflat directory input stem hstem
    obtain ⟨destination, hdestination, hiff⟩ :=
      Config.Output.exists_destination hflat (.inr hextension) directory hstem
    refine ⟨destination, hdestination, fun hknown => .inr (hiff.mp hknown), ?_⟩
    rintro (hdot | hends)
    · exact Config.Output.isGenerated_destination hflat hdot (.inr hextension) hdestination
    · exact hiff.mpr hends
  · intro t input output including excluding f hinput hfilter hfiles hknown
    obtain ⟨results, t', hrun, hresults, hruns⟩ :=
      exists_runs a c output (t.declarationFiles input f c.output) t
    refine ⟨results, t', ?_, hresults, hruns.leavesDeclarations fun w hw => ?_⟩
    · rw [run_generate t a c input output including excluding hinput hfilter hfiles, hrun]
      rfl
    · exact hknown w.1 (hresults ▸ mem_map_fst_of_mem_written hw) w.2 (hruns.destination_of_mem hw)

/-- Artifacts with the usual extension are known, also those of files in different directories. -/
theorem leavesDeclarations_order :
    ({} : Config).validate = .ok () ∧
    (∃ destination, Config.Output.destination? {} .tests "out" "in/b/order.go" = some destination ∧
      Config.Output.isGenerated {} destination) ∧
    ∃ results t',
      (run {} (.generate .queries "in" "in" [] []) : StateM FileTree _).run (twoDirectories "order.go")
          = (summary results, t')
        ∧ results.map Prod.fst = ["in/a/account.go", "in/b/order.go"]
        ∧ LeavesDeclarations (twoDirectories "order.go") t' {} results := by
  have hvalid : ({} : Config).validate = .ok () := by decide
  have hfiles := declarationFiles_twoDirectories_order
  refine ⟨hvalid, ?_, ?_⟩
  · obtain ⟨destination, hdestination, hiff⟩ := (leavesDeclarations_of_isGenerated hvalid .tests).1
      (by decide) "out" "in/b/order.go" "order" (by decide)
    exact ⟨destination, hdestination, hiff.mpr (.inl (by decide))⟩
  · rw [← hfiles]
    refine (leavesDeclarations_of_isGenerated hvalid .queries).2 (twoDirectories "order.go") "in" "in" [] []
      {} (by decide) rfl ?_ ?_
    · rw [hfiles]
      decide
    · rw [hfiles]
      decide

/-- Artifacts with an extension of two parts. -/
def dottedConfig : Config := { output := { extension := "gen.go" } }

/-- With an extension of two parts an artifact is collected like a declaration file. -/
theorem not_isGenerated_dotted :
    dottedConfig.validate = .ok ()
      ∧ dottedConfig.output.destination? .queries "in/b" "in/b/order.go"
        = some "in/b/order_generatedQueries.gen.go"
      ∧ dottedConfig.output.isGenerated "in/b/order_generatedQueries.gen.go" = false
      ∧ (twoDirectories "order_generatedQueries.gen.go").declarationFiles "in" {} dottedConfig.output
        = ["in/a/account.go", "in/b/order_generatedQueries.gen.go"] :=
  ⟨by decide, by decide, by decide,
    FileTree.declarationFiles_of_filesBelow [["a", "account.go"], ["b", "order_generatedQueries.gen.go"]]
      (by decide) (by decide)⟩

end Command

end DeclGen
