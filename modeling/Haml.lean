import Haml.Attribute.Basic
import Haml.Attribute.Serial
import Haml.Bracket
import Haml.Build
import Haml.CharacterName.BasicPlane
import Haml.CharacterName.Lookup
import Haml.CharacterName.OtherPlanes
import Haml.CharacterName.Table
import Haml.CharacterName.Words
import Haml.CommandLine
import Haml.Compile
import Haml.Config
import Haml.Data.Basic
import Haml.Data.Json
import Haml.FileSystem
import Haml.Format
import Haml.Fragment
import Haml.Glob.Name
import Haml.Glob.Search
import Haml.Html.Escape
import Haml.Html.Value
import Haml.Line.Basic
import Haml.Line.Element
import Haml.Literal.Formatted
import Haml.Literal.Grammar
import Haml.Literal.Item
import Haml.Literal.Numeral
import Haml.Literal.Pattern
import Haml.Literal.Read
import Haml.Literal.Token
import Haml.Literal.Value
import Haml.Main
import Haml.Number.Double
import Haml.Number.Shortest
import Haml.Options
import Haml.Outline
import Haml.Path
import Haml.Registration
import Haml.Registry
import Haml.Session
import Haml.Settings
import Haml.Statement
import Haml.Template
import Haml.TemplateName
import Haml.Text.Basic
import Haml.Text.Blank
import Haml.Text.CodePoint
import Haml.Text.Digit
import Haml.Text.Escaped
import Haml.Text.Identifier
import Haml.Text.Letter
import Haml.Text.Printable
import Haml.Text.Quoted
import Haml.Text.Scanned
import Haml.Text.Word
import Haml.Tree
import Haml.Watch
import Haml.Proofs.Tree
import Haml.Proofs.Nesting
import Haml.Proofs.OutlineRefinement
import Haml.Proofs.Offside
import Haml.Proofs.Lines
import Haml.Proofs.Acceptance
import Haml.Proofs.Branch
import Haml.Proofs.FilterBlock
import Haml.Proofs.FilterBody
import Haml.Proofs.Level
import Haml.Proofs.Rendering
import Haml.Proofs.SourceOrder
import Haml.Proofs.Likeness
import Haml.Proofs.Embedding
import Haml.Proofs.Concatenation
import Haml.Proofs.CompileOutcome
import Haml.Proofs.Delivery
import Haml.Proofs.BatchBuild
import Haml.Proofs.Deliverable
import Haml.Proofs.BatchResult
import Haml.Proofs.Compilation
import Haml.Proofs.OutputLine
import Haml.Proofs.Escaping
import Haml.Proofs.Quotation
import Haml.Proofs.CodeSource
import Haml.Proofs.StatementLine
import Haml.Proofs.BlockIndentation
import Haml.Proofs.ControlFlow
import Haml.Proofs.Verbatim
import Haml.Proofs.PrefixStability
import Haml.Proofs.ParentAt
import Haml.Proofs.HiddenNodes
import Haml.Proofs.SilentComment
import Haml.Proofs.BracketScan
import Haml.Proofs.ElementLine
import Haml.Proofs.OpenList
import Haml.Proofs.HtmlForm
import Haml.Proofs.AttributeItem
import Haml.Proofs.AttributeText
import Haml.Proofs.Interpolation
import Haml.Proofs.OutputExpression
import Haml.Proofs.FilterOwnership
import Haml.Proofs.JoinedLines
import Haml.Proofs.Layout
import Haml.Proofs.RegisteredName
import Haml.Proofs.Reindentation
import Haml.Proofs.BlankLine
import Haml.Proofs.FileChange
import Haml.Proofs.WatchRun
import Haml.Proofs.ConfigOutcome
import Haml.Proofs.Relocation
import Haml.Proofs.BracketPairs
import Haml.Proofs.PreservedLines
import Haml.Proofs.Entities
import Haml.Proofs.ExactCut
import Haml.Proofs.ParentChain
