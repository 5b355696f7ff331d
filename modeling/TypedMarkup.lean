import TypedMarkup.Text.Blank
import TypedMarkup.Text.Alphanumeric
import TypedMarkup.Text.Lowercase
import TypedMarkup.Text.Quoted
import TypedMarkup.Text.Visible
import TypedMarkup.Text.Word
import TypedMarkup.Text.Order
import TypedMarkup.Vocabulary.Attribute
import TypedMarkup.Vocabulary.Event
import TypedMarkup.Vocabulary.Catalog
import TypedMarkup.Vocabulary.Composition
import TypedMarkup.Vocabulary.Element
import TypedMarkup.Vocabulary.Builtin
import TypedMarkup.Layout.Doc
import TypedMarkup.Code.Identifier
import TypedMarkup.Code.Expression
import TypedMarkup.Code.Item
import TypedMarkup.Code.Literal
import TypedMarkup.Code.Token
import TypedMarkup.Code.Emission
import TypedMarkup.Code.Reader
import TypedMarkup.Code.ModulePath
import TypedMarkup.Code.Grammar.Part
import TypedMarkup.Code.Grammar.Attribute
import TypedMarkup.Code.Grammar.Path
import TypedMarkup.Code.Grammar.Generic
import TypedMarkup.Code.Grammar.Type
import TypedMarkup.Code.Grammar.Expression
import TypedMarkup.Code.Grammar.Operand
import TypedMarkup.Code.Grammar.Pattern
import TypedMarkup.Code.Grammar.Signature
import TypedMarkup.Code.Grammar.Item
import TypedMarkup.Code.Grammar.Statement
import TypedMarkup.Code.Grammar
import TypedMarkup.Storage.Path
import TypedMarkup.Storage.FileSystem
import TypedMarkup.Storage.Report
import TypedMarkup.Storage.Script
import TypedMarkup.Artifact.Prose
import TypedMarkup.Artifact.Accessor
import TypedMarkup.Artifact.Builder
import TypedMarkup.Artifact.Smoke
import TypedMarkup.Artifact.Generation
import TypedMarkup.Artifact.Output
import TypedMarkup.Program.Pattern
import TypedMarkup.Program.Directive
import TypedMarkup.Program.Filter
import TypedMarkup.Program.Options
import TypedMarkup.Program.Command
import TypedMarkup.Main
import TypedMarkup.Proofs.Storage.Execution
import TypedMarkup.Proofs.Storage.Refusal
import TypedMarkup.Proofs.Grammar.File
import TypedMarkup.Proofs.Artifact.Grammatical
import TypedMarkup.Proofs.Artifact.Outcome
import TypedMarkup.Proofs.Artifact.Failure
import TypedMarkup.Proofs.Artifact.Stale
import TypedMarkup.Proofs.Program.Arguments
import TypedMarkup.Proofs.Vocabulary.Builtin
import TypedMarkup.Proofs.Program.Agreement
import TypedMarkup.Proofs.Layout.Lines
import TypedMarkup.Proofs.Code.Tests
import TypedMarkup.Proofs.Artifact.Calls
import TypedMarkup.Proofs.Artifact.Smoke
import TypedMarkup.Proofs.Vocabulary.References
import TypedMarkup.Proofs.Artifact.Documentation
import TypedMarkup.Proofs.Artifact.Inventory
import TypedMarkup.Proofs.Artifact.RuntimePath
import TypedMarkup.Proofs.Vocabulary.Merging
import TypedMarkup.Proofs.Vocabulary.Provenance
import TypedMarkup.Proofs.Artifact.Aliasing
import TypedMarkup.Proofs.Artifact.Locality
import TypedMarkup.Proofs.Code.Decoding
import TypedMarkup.Proofs.Vocabulary.Resolution
import TypedMarkup.Proofs.Code.Bodies
import TypedMarkup.Proofs.Code.Calls
import TypedMarkup.Proofs.Artifact.Bodies
import TypedMarkup.Proofs.Artifact.Names
import TypedMarkup.Proofs.Artifact.Targets
import TypedMarkup.Proofs.Text.Trimmed
import TypedMarkup.Proofs.Artifact.Returns
import TypedMarkup.Proofs.Vocabulary.Ties
import TypedMarkup.Proofs.Vocabulary.Animation
import TypedMarkup.Proofs.Vocabulary.Commutation
import TypedMarkup.Proofs.Vocabulary.Reordering
import TypedMarkup.Proofs.Artifact.Fallback
import TypedMarkup.Proofs.Artifact.Concatenation
import TypedMarkup.Proofs.Code.Identifier
import TypedMarkup.Proofs.Text.Words
import TypedMarkup.Proofs.Layout.Edges
import TypedMarkup.Proofs.Code.Openings
import TypedMarkup.Proofs.Code.Announcements
import TypedMarkup.Proofs.Artifact.Announcements
import TypedMarkup.Proofs.Storage.Descent
import TypedMarkup.Proofs.Artifact.Staging
