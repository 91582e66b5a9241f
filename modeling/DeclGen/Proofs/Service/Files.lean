import DeclGen.Generate.Service
import DeclGen.Proofs.Qualifier.Layout

/-!
# Files of services

The file of all services is put together from its package clause and the services, with all types qualified, and
stripped as a whole. Each service stands between line feeds, after which a name can start as at the start of a
text, so that the scan carries nothing over from one service into the next. The file therefore comes out as its
package clause and the texts of the services, each stripped by itself (`Service.file_eq_texts`).
-/

namespace DeclGen

namespace Qualifier

variable {q : String}

/-- Where each part begins with a character that belongs to no name, the parts are stripped one by one. -/
lemma strip_join (hq : Naming.isIdentifier q) {α : Type} {f : α → String} {items : List α}
    (h : ∀ x ∈ items, StartsClear (f x)) (front : String) :
    strip (front ++ String.join (items.map f)) q =
      strip front q ++ String.join (items.map fun x => strip (f x) q) := by
  induction items generalizing front with
  | nil => simp
  | cons x rest ih =>
    have hx := h x List.mem_cons_self
    have hrest : ∀ y ∈ rest, StartsClear (f y) := fun y hy => h y (List.mem_cons_of_mem x hy)
    rw [List.map_cons, List.map_cons, String.join_cons, String.join_cons, ← String.append_assoc, ih hrest,
      strip_append hq (.inr hx), String.append_assoc]

/-- A line feed in front of a text stays, and the text is stripped by itself. -/
lemma strip_newLine (hq : Naming.isIdentifier q) (text : String) :
    strip ("\n" ++ text) q = "\n" ++ strip text q := by
  have hstay : strip "\n" q = "\n" :=
    (strip_eq_self_iff hq "\n").mpr (not_mentions_of_dot_notMem (by decide) q)
  rw [strip_append hq (.inl endsClear_newLine), hstay]

end Qualifier

namespace Service

open Text Qualifier

/-- The package clause of a file. -/
def packageClause (package : String) : String := "package " ++ package ++ "\n"

/-- The file of some services with all types qualified. -/
def qualifiedFile (sets : List ServiceMethodSet) (package : String) : String :=
  packageClause package ++ String.join (sets.map fun s => "\n" ++ (ofSet s).render)

/-- Each service is appended with an empty line in front of it. -/
lemma text_foldl_block (sets : List ServiceMethodSet) (d : Draft) :
    (sets.foldl (fun d s => d.blank.block (ofSet s)) d).text =
      d.text ++ String.join (sets.map fun s => "\n" ++ (ofSet s).render) := by
  induction sets generalizing d with
  | nil => simp
  | cons s rest ih =>
    rw [List.foldl_cons, ih, List.map_cons, String.join_cons]
    simp only [Draft.block, Draft.blank, Draft.raw, String.append_assoc]

/-- A package clause names its own package without selecting from it. -/
lemma strip_packageClause {p : String} (hp : Naming.isIdentifier p) :
    strip (packageClause p) p = packageClause p := by
  refine (strip_eq_self_iff hp _).mpr (not_mentions_of_dot_notMem ?_ p)
  have hword : '.' ∉ p.toList := (isWord_of_isIdentifier hp).dot_notMem
  simp [packageClause, hword]

/-- A file of at least one service comes out, stripped as a whole, as its package clause and the texts of the
services in order, each stripped by itself and with an empty line in front of it. -/
theorem file_eq_texts {p : String} (hp : Naming.isIdentifier p) {m : FileModel} (h : m.services ≠ []) :
    file m p = .ok (strip (qualifiedFile m.services p) p) ∧
    strip (qualifiedFile m.services p) p =
      "package " ++ p ++ "\n" ++ String.join (m.services.map fun s => "\n" ++ text s p) := by
  constructor
  · have hsome : m.services.isEmpty = false := by simpa using h
    have hclause : (Draft.empty.line ("package " ++ p)).text = packageClause p := by
      simp [Draft.line, Draft.raw, Draft.empty, Line.render, packageClause]
    unfold file
    rw [if_neg (by simp [hsome])]
    dsimp only
    rw [text_foldl_block, hclause, qualifiedFile]
  · have hborder : ∀ s ∈ m.services, StartsClear ("\n" ++ (ofSet s).render) := by
      intro s _
      have hnewLine : StartsClear "\n" := .inr ⟨'\n', [], by decide, by decide⟩
      exact hnewLine.append (by decide) _
    rw [qualifiedFile, strip_join hp hborder, strip_packageClause hp]
    simp only [strip_newLine hp, packageClause, text]

/-- Two services on one domain type, in a file that is not of its package. -/
def ledgerModel : FileModel where
  package := "logic"
  entities := []
  interfaces := []
  services :=
    [⟨"AccountService", [⟨"ByID", [⟨"id", some (.value "string")⟩],
        [⟨"", some (.wrap .pointer (.value "domain.Account"))⟩, ⟨"", some (.value "error")⟩]⟩]⟩,
     ⟨"LedgerService", [⟨"All", [], [⟨"", some (.wrap .sequence (.value "domain.Account"))⟩]⟩]⟩]

/-- The file of the two services is that of the one and that of the other. -/
theorem file_ledgerModel :
    Naming.isIdentifier "domain" ∧ ledgerModel.services ≠ [] ∧
      file ledgerModel "domain" = .ok ("package domain\n" ++
        String.join (ledgerModel.services.map fun s => "\n" ++ text s "domain")) := by
  have hdomain : Naming.isIdentifier "domain" := by decide
  have hservices : ledgerModel.services ≠ [] := by decide
  obtain ⟨hfile, hstrip⟩ := file_eq_texts hdomain hservices
  exact ⟨hdomain, hservices, by rw [hfile, hstrip]; rfl⟩

end Service

end DeclGen
