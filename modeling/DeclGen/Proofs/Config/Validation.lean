import DeclGen.Config.Basic
import Mathlib.Tactic.Lemma

/-!
# Valid configurations

What a valid configuration is, whatever the order in which its settings are checked
(`Config.validate_eq_ok_iff`).
-/

namespace DeclGen

namespace Config

variable {c : Config}

/-- A configuration is valid when its names are identifiers and its artifacts have an extension. -/
lemma validate_eq_ok_iff : c.validate = .ok () ↔
    (∀ setting ∈ c.identifiers, Naming.isIdentifier setting.2) ∧ c.output.extension ≠ "" := by
  unfold validate
  cases hfound : c.identifiers.find? fun setting => !Naming.isIdentifier setting.2 with
  | some setting =>
    have hmem := List.mem_of_find?_eq_some hfound
    have hodd := List.find?_some hfound
    simp only [reduceCtorEq, false_iff, not_and]
    exact fun hall => absurd (hall setting hmem) (by simpa using hodd)
  | none =>
    have hall : ∀ setting ∈ c.identifiers, Naming.isIdentifier setting.2 := by
      simpa using List.find?_eq_none.mp hfound
    rw [and_iff_right hall]
    by_cases hextension : c.output.extension = ""
    · simp [hextension]
    · simp [hextension]

/-- The names of a valid configuration are identifiers. -/
lemma isIdentifier_of_validate (h : c.validate = .ok ()) :
    Naming.isIdentifier c.naming.domainPackage ∧ Naming.isIdentifier c.naming.repoPackage ∧
      Naming.isIdentifier c.naming.sharedDb := by
  have hall := (validate_eq_ok_iff.mp h).1
  simp only [identifiers, List.forall_mem_cons] at hall
  exact ⟨hall.1, hall.2.1, hall.2.2.1⟩

end Config

end DeclGen
