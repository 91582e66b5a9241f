import DeclGen.Config.Basic
import DeclGen.Source.Reader

/-!
# From a text to its model and queries

A model is loaded by reading a declaration text and building the model of its declarations; queries are
generated from the model. What is reported on the way is kept in the order in which it occurs.
-/

namespace DeclGen

/-- Why nothing was made of a text: it could not be read, or no model or no queries could be made. -/
inductive FileModel.LoadError
  | source (cause : SourceError)
  | model (cause : ModelError)
deriving DecidableEq, Repr

/-- The model of a declaration text. -/
def FileModel.load [ErrorRecovery] (source : String) (o : BuildOptions) :
    Logged FileModel.LoadError FileModel :=
  match SourceFile.parse source with
  | .error e => throw (.source e)
  | .ok file => (file.model o).adapt .model

theorem FileModel.load_of_parse [ErrorRecovery] {source : String} {file : SourceFile}
    (h : SourceFile.parse source = .ok file) (o : BuildOptions) :
    FileModel.load source o = (file.model o).adapt .model := by
  rw [load, h]

theorem FileModel.load_of_parse_error [ErrorRecovery] {source : String} {cause : SourceError}
    (h : SourceFile.parse source = .error cause) (o : BuildOptions) :
    FileModel.load source o = throw (.source cause) := by
  rw [load, h]

/-- The model of a declaration text and the queries of its table. -/
def Config.modelAndQueries [ErrorRecovery] (c : Config) (table source : String) :
    Logged FileModel.LoadError (FileModel × String) := do
  let model ← FileModel.load source c.buildOptions
  let queries ← (model.queries (c.queryOptions table)).adapt .model
  return (model, queries)

end DeclGen
