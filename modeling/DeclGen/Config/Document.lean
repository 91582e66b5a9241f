import DeclGen.Config.Basic
import DeclGen.Toml.Document

/-!
# Configuration documents

A configuration is written as a TOML document with a table per section. A setting that is not there
keeps its default, one that is not known means nothing, and one of the wrong kind is a fault. A section
may also be an array, which holds the values of its settings in their order.
-/

namespace DeclGen.Config

open Toml (Value)

/-- The values of the settings of a section, in the order of their keys. A point in time is a section
that holds none of them. -/
def settings? (keys : List String) : Option Value → Option (List (Option Value))
  | none | some .moment => some (keys.map fun _ => none)
  | some (.table _ entries) => some (keys.map (entries.lookup ·))
  | some (.array items) => some ((List.range keys.length).map (items[·]?))
  | some (.tables items) =>
    some ((List.range keys.length).map fun n => (items[n]?).map (.table .header))
  | some _ => none

/-- A setting that is a text. -/
def textOr? (default : String) : Option Value → Option String
  | none => some default
  | some (.text s) => some s
  | some _ => none

/-- A setting that is a truth value. -/
def truthOr? (default : Bool) : Option Value → Option Bool
  | none => some default
  | some (.truth b) => some b
  | some _ => none

namespace Naming

/-- The keys of the section. -/
def keys : List String := ["domain_package", "repo_package", "repo_import", "domain_import", "shared_db"]

/-- The section of a document. -/
def ofValue? (v : Option Value) : Option Naming := do
  match ← settings? keys v with
  | [domainPackage, repoPackage, repoImport, domainImport, sharedDb] =>
    let d : Naming := {}
    return ⟨← textOr? d.domainPackage domainPackage, ← textOr? d.repoPackage repoPackage,
      ← textOr? d.repoImport repoImport, ← textOr? d.domainImport domainImport,
      ← textOr? d.sharedDb sharedDb⟩
  | _ => none

end Naming

namespace Policy

/-- The keys of the section. -/
def keys : List String := ["strict", "strip_table_prefix"]

/-- The section of a document. -/
def ofValue? (v : Option Value) : Option Policy := do
  match ← settings? keys v with
  | [strict, stripTablePrefix] =>
    let d : Policy := {}
    return ⟨← truthOr? d.strict strict, ← truthOr? d.stripTablePrefix stripTablePrefix⟩
  | _ => none

end Policy

namespace Output

/-- The keys of the section. -/
def keys : List String := ["queries_suffix", "tests_suffix", "extension"]

/-- The section of a document. -/
def ofValue? (v : Option Value) : Option Output := do
  match ← settings? keys v with
  | [queriesSuffix, testsSuffix, extension] =>
    let d : Output := {}
    return ⟨← textOr? d.queriesSuffix queriesSuffix, ← textOr? d.testsSuffix testsSuffix,
      ← textOr? d.extension extension⟩
  | _ => none

end Output

/-- The configuration that a document describes. -/
def ofText? (text : String) : Option Config := do
  let document ← Toml.read? text
  return { naming := ← Naming.ofValue? (document.get? "naming")
           model := ← Policy.ofValue? (document.get? "model")
           output := ← Output.ofValue? (document.get? "output") }

end DeclGen.Config
