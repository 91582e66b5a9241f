import DeclGen.Command.Arguments
import DeclGen.Command.Failure
import DeclGen.Command.Inspect
import DeclGen.Command.Run
import DeclGen.Config.Basic
import DeclGen.Config.Document
import DeclGen.Config.Load
import DeclGen.Config.Pipeline
import DeclGen.Declaration.Printer
import DeclGen.Declaration.SourceFile
import DeclGen.Declaration.TypeExpr
import DeclGen.Files.Collect
import DeclGen.Files.Destination
import DeclGen.Files.Failure
import DeclGen.Files.Glob
import DeclGen.Files.Ignore
import DeclGen.Files.Path
import DeclGen.Files.Replace
import DeclGen.Files.Store
import DeclGen.Files.Tree
import DeclGen.Generate.Controller
import DeclGen.Generate.Mock
import DeclGen.Generate.Qualifier
import DeclGen.Generate.Queries
import DeclGen.Generate.Scaffold
import DeclGen.Generate.Service
import DeclGen.Generate.Slots
import DeclGen.Generate.Statement
import DeclGen.Generate.Words
import DeclGen.Main
import DeclGen.Model.Build
import DeclGen.Model.Entity
import DeclGen.Model.FileModel
import DeclGen.Model.Method
import DeclGen.Model.Notice
import DeclGen.Model.TypeSignature
import DeclGen.Naming
import DeclGen.Proofs.Declaration.Unqualified
import DeclGen.Proofs.Mock.Capture
import DeclGen.Proofs.Model.Built
import DeclGen.Proofs.Model.Runs
import DeclGen.Proofs.Model.Strictness
import DeclGen.Proofs.Qualifier.Layout
import DeclGen.Proofs.Qualifier.Stripping
import DeclGen.Proofs.Service.SelfQualification
import DeclGen.Proofs.Slots.Names
import DeclGen.Proofs.Source.Lexed
import DeclGen.Proofs.Source.Reading
import DeclGen.Proofs.Source.WellNamed
import DeclGen.Relation
import DeclGen.Source.Fault
import DeclGen.Source.Grammar
import DeclGen.Source.Lexer
import DeclGen.Source.Numeral
import DeclGen.Source.Phrase
import DeclGen.Source.Reader
import DeclGen.Source.Token
import DeclGen.Source.TypeTerm
import DeclGen.Tag
import DeclGen.Text.Affix
import DeclGen.Text.ByteShape
import DeclGen.Text.Json
import DeclGen.Text.Layout
import DeclGen.Text.Quoted
import DeclGen.Text.Scan
import DeclGen.Toml.Document
import DeclGen.Toml.Quoted
import DeclGen.Toml.Scalar
import DeclGen.Toml.Value
import DeclGen.Unicode.Alphabetic
import DeclGen.Unicode.Blank
import DeclGen.Unicode.Identifier
import DeclGen.Unicode.Lowercase
import DeclGen.Unicode.Numeral
import DeclGen.Unicode.Printable
import DeclGen.Unicode.RangeSet
import DeclGen.Unicode.Uppercase
import DeclGen.ZeroValue
import DeclGen.Proofs.Mock.Members
import DeclGen.Proofs.Source.Parsing
import DeclGen.Proofs.Source.Phrases
import DeclGen.Proofs.Declaration.Spelled
import DeclGen.Proofs.Source.Declared
import DeclGen.Proofs.Source.RoundTrip
import DeclGen.Proofs.Slots.Spec
import DeclGen.Proofs.Files.Paths
import DeclGen.Proofs.Files.Places
import DeclGen.Proofs.Files.Writing
import DeclGen.Proofs.Files.Collecting
import DeclGen.Proofs.Command.Directories
import DeclGen.Proofs.Text.Lines
import DeclGen.Proofs.Queries.Statements
import DeclGen.Proofs.Model.Columns
import DeclGen.Proofs.Queries.Blocks
import DeclGen.Proofs.Queries.Filters
import DeclGen.Proofs.Model.Fields
import DeclGen.Proofs.Queries.Literals
import DeclGen.Proofs.Queries.Declarations
import DeclGen.Proofs.Scaffold.Mirror
import DeclGen.Proofs.Command.Recognition
import DeclGen.Proofs.Declaration.Resolved
import DeclGen.Proofs.Model.Reported
import DeclGen.Proofs.Model.Completeness
import DeclGen.Proofs.Command.SingleFiles
import DeclGen.Proofs.Command.OneByOne
import DeclGen.Proofs.Queries.Names
import DeclGen.Proofs.Slots.Reading
import DeclGen.Proofs.Slots.Declared
import DeclGen.Proofs.Slots.Freshness
import DeclGen.Proofs.Slots.Headers
import DeclGen.Proofs.Mock.Slots
import DeclGen.Proofs.Service.Slots
import DeclGen.Proofs.Scaffold.Selections
import DeclGen.Proofs.Scaffold.Declared
import DeclGen.Proofs.Qualifier.Occurrences
import DeclGen.Proofs.Service.Files
import DeclGen.Proofs.Model.Scan
import DeclGen.Proofs.Model.OptingOut
import DeclGen.Proofs.Tag
import DeclGen.Proofs.Model.References
import DeclGen.Proofs.Queries.RepeatedJoins
import DeclGen.Proofs.Queries.Inserts
import DeclGen.Proofs.Source.TagLiterals
import DeclGen.Proofs.Files.Atomic
import DeclGen.Proofs.Config.PackageNames
import DeclGen.Proofs.Model.Services
import DeclGen.Proofs.Source.Parentheses
import DeclGen.Proofs.Text.Columns
import DeclGen.Proofs.Words
import DeclGen.Proofs.Source.Faults
import DeclGen.Proofs.Unicode
