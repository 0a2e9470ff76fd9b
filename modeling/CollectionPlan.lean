import CollectionPlan.Catalog
import CollectionPlan.Command.Arguments
import CollectionPlan.Command.Basic
import CollectionPlan.Command.Run
import CollectionPlan.Config.Basic
import CollectionPlan.Config.Search
import CollectionPlan.Diagnostic
import CollectionPlan.Directive
import CollectionPlan.Document
import CollectionPlan.Failure
import CollectionPlan.FilePath
import CollectionPlan.FileTree
import CollectionPlan.Glob
import CollectionPlan.Grammar.Attribute
import CollectionPlan.Grammar.Cursor
import CollectionPlan.Grammar.Expr
import CollectionPlan.Grammar.Generics
import CollectionPlan.Grammar.Item
import CollectionPlan.Grammar.Member
import CollectionPlan.Grammar.Path
import CollectionPlan.Grammar.Pattern
import CollectionPlan.Grammar.Rules
import CollectionPlan.Grammar.Signature
import CollectionPlan.Grammar.Source
import CollectionPlan.Grammar.Statement
import CollectionPlan.Grammar.Tree
import CollectionPlan.Grammar.Type
import CollectionPlan.Grammar.TypeItem
import CollectionPlan.Json
import CollectionPlan.Lowering
import CollectionPlan.Output.Documents
import CollectionPlan.Output.Format
import CollectionPlan.Output.Pages
import CollectionPlan.Plan.Candidates
import CollectionPlan.Plan.Directory
import CollectionPlan.Plan.LegacyTag
import CollectionPlan.Plan.Report
import CollectionPlan.Plan.Requirements
import CollectionPlan.Plan.Tree
import CollectionPlan.Plan.TypePlan
import CollectionPlan.Proofs.Comparability.Cycle
import CollectionPlan.Proofs.Comparability.Refutation
import CollectionPlan.Proofs.Comparability.Search
import CollectionPlan.Proofs.Declarations
import CollectionPlan.Proofs.Grammar.Identifier
import CollectionPlan.Proofs.Grammar.Word
import CollectionPlan.Proofs.Source.Order
import CollectionPlan.Proofs.TypeGraph
import CollectionPlan.Source.Discovery
import CollectionPlan.Source.PackageName
import CollectionPlan.Source.Tree
import CollectionPlan.Terminal.Style
import CollectionPlan.Text.Blank
import CollectionPlan.Text.Decimal
import CollectionPlan.Text.Digits
import CollectionPlan.Text.Identifier
import CollectionPlan.Text.Line
import CollectionPlan.Text.Quoted
import CollectionPlan.Text.Ranges
import CollectionPlan.Token.Basic
import CollectionPlan.Token.Lexeme
import CollectionPlan.Token.Scan
import CollectionPlan.Token.TextLiteral
import CollectionPlan.Token.Word
import CollectionPlan.Toml.Document
import CollectionPlan.Toml.Quoted
import CollectionPlan.Toml.Scalar
import CollectionPlan.Toml.Value
import CollectionPlan.Traits
import CollectionPlan.TypeExpr
import CollectionPlan.TypeModel
import CollectionPlan.Universe
import CollectionPlan.Yaml.Block
import CollectionPlan.Yaml.Number
import CollectionPlan.Yaml.Scalar
import CollectionPlan.Main
import CollectionPlan.Proofs.Comparability.Classification
import CollectionPlan.Proofs.Resolution.Chain
import CollectionPlan.Proofs.Resolution.Exactness
import CollectionPlan.Proofs.Resolution.Extension
import CollectionPlan.Proofs.Resolution.OwnName
import CollectionPlan.Proofs.Comparability.Transparency
import CollectionPlan.Proofs.Planning.Candidates
import CollectionPlan.Proofs.Planning.TypePlan
import CollectionPlan.Proofs.Planning.Extension
import CollectionPlan.Proofs.Source.Parsing
import CollectionPlan.Proofs.Planning.Tree
import CollectionPlan.Proofs.Resolution.Agreement
import CollectionPlan.Proofs.Planning.FileOrder
import CollectionPlan.Proofs.Planning.OwnDeclaration
import CollectionPlan.Proofs.Planning.LegacyCheck
import CollectionPlan.Proofs.Source.Listing
import CollectionPlan.Proofs.Planning.Directory
import CollectionPlan.Proofs.Directive.FirstLine
import CollectionPlan.Proofs.Directive.RoundTrip
import CollectionPlan.Proofs.Resolution.AliasTarget
import CollectionPlan.Proofs.Command.Plan
import CollectionPlan.Proofs.Comparability.Capabilities
import CollectionPlan.Proofs.Planning.ListedMethods
import CollectionPlan.Proofs.Planning.Projections
import CollectionPlan.Proofs.Lowering.Site
import CollectionPlan.Proofs.Lowering.Reading
import CollectionPlan.Proofs.Lowering.References
import CollectionPlan.Proofs.Lowering.Parentheses
import CollectionPlan.Proofs.Grammar.TypeParams
import CollectionPlan.Proofs.Lowering.SelfName
import CollectionPlan.Proofs.LegacyTag.Pattern
import CollectionPlan.Proofs.LegacyTag.Rendering
import CollectionPlan.Proofs.LegacyTag.Attribute
import CollectionPlan.Proofs.FilePath.Components
import CollectionPlan.Proofs.FilePath.Ancestors
import CollectionPlan.Proofs.Config.Search
import CollectionPlan.Proofs.FilePath.FileName
import CollectionPlan.Proofs.Source.SourceFiles
import CollectionPlan.Proofs.Json.Reader
import CollectionPlan.Proofs.Json.RoundTrip
import CollectionPlan.Proofs.Output.Recovery
import CollectionPlan.Proofs.Terminal.Stripping
import CollectionPlan.Proofs.Terminal.Pages
import CollectionPlan.Proofs.Directive.Extraction
import CollectionPlan.Proofs.LegacyTag.Gaps
import CollectionPlan.Proofs.Planning.History
