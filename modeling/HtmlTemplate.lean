import HtmlTemplate.Binary64.Basic
import HtmlTemplate.Binary64.Shortest
import HtmlTemplate.Compile.Basic
import HtmlTemplate.Compile.Log
import HtmlTemplate.Data.Value
import HtmlTemplate.Diagnostic.Basic
import HtmlTemplate.Diagnostic.Code
import HtmlTemplate.Digest.Xxh3
import HtmlTemplate.Escape.Basic
import HtmlTemplate.Escape.Module
import HtmlTemplate.Form
import HtmlTemplate.Markup.Token
import HtmlTemplate.Markup.Token.Attributes
import HtmlTemplate.Markup.Token.Cursor
import HtmlTemplate.Markup.Token.Scan
import HtmlTemplate.Markup.Tree
import HtmlTemplate.Markup.Tree.Construction
import HtmlTemplate.Preview.Expression
import HtmlTemplate.Preview.Render
import HtmlTemplate.Proofs.Canonical.Forest
import HtmlTemplate.Proofs.Canonical.Reading
import HtmlTemplate.Proofs.Canonical.RoundTrip
import HtmlTemplate.Proofs.Compile.FaultOrder
import HtmlTemplate.Proofs.Compile.Leniency
import HtmlTemplate.Proofs.Compile.Outcome
import HtmlTemplate.Proofs.Compile.WellFormed
import HtmlTemplate.Proofs.Escape.Encoding
import HtmlTemplate.Proofs.Escape.Idempotence
import HtmlTemplate.Proofs.Escape.Language
import HtmlTemplate.Proofs.Escape.Plain
import HtmlTemplate.Proofs.Escape.Runtime
import HtmlTemplate.Proofs.Markup.Ancestors
import HtmlTemplate.Proofs.Markup.Assembly
import HtmlTemplate.Proofs.Markup.Comments
import HtmlTemplate.Proofs.Markup.Cursor
import HtmlTemplate.Proofs.Markup.Declarations
import HtmlTemplate.Proofs.Markup.Doctypes
import HtmlTemplate.Proofs.Markup.ElementStarts
import HtmlTemplate.Proofs.Markup.EndTagExtents
import HtmlTemplate.Proofs.Markup.EndTagSpelling
import HtmlTemplate.Proofs.Markup.EndTags
import HtmlTemplate.Proofs.Markup.Guarantees
import HtmlTemplate.Proofs.Markup.LineBreaks
import HtmlTemplate.Proofs.Markup.Located
import HtmlTemplate.Proofs.Markup.Names
import HtmlTemplate.Proofs.Markup.Nesting
import HtmlTemplate.Proofs.Markup.Outline
import HtmlTemplate.Proofs.Markup.Placement
import HtmlTemplate.Proofs.Markup.Protocol
import HtmlTemplate.Proofs.Markup.RawText
import HtmlTemplate.Proofs.Markup.RawTextEnd
import HtmlTemplate.Proofs.Markup.Reports
import HtmlTemplate.Proofs.Markup.Shape
import HtmlTemplate.Proofs.Markup.Spans
import HtmlTemplate.Proofs.Markup.Stack
import HtmlTemplate.Proofs.Markup.Steps
import HtmlTemplate.Proofs.Markup.Tiling
import HtmlTemplate.Proofs.Preview.Escaping
import HtmlTemplate.Proofs.Preview.Paths
import HtmlTemplate.Proofs.Preview.Properties
import HtmlTemplate.Proofs.Preview.Static
import HtmlTemplate.Proofs.Result
import HtmlTemplate.Proofs.Script.Blocks
import HtmlTemplate.Proofs.Script.Emitter
import HtmlTemplate.Proofs.Script.Execution
import HtmlTemplate.Proofs.Script.Literals
import HtmlTemplate.Proofs.Script.Static
import HtmlTemplate.Proofs.Script.StrayBranches
import HtmlTemplate.Proofs.Script.Strictness
import HtmlTemplate.Proofs.Source.Positions
import HtmlTemplate.Proofs.Template.Building
import HtmlTemplate.Proofs.Template.Directive
import HtmlTemplate.Proofs.Template.DocumentOrder
import HtmlTemplate.Proofs.Template.Folding
import HtmlTemplate.Proofs.Template.Gathering
import HtmlTemplate.Proofs.Template.Interpolation
import HtmlTemplate.Proofs.Template.LoopPieces
import HtmlTemplate.Proofs.Template.LoopValues
import HtmlTemplate.Proofs.Template.Merging
import HtmlTemplate.Proofs.Template.Passes
import HtmlTemplate.Proofs.Template.Refolding
import HtmlTemplate.Proofs.Template.Segments
import HtmlTemplate.Proofs.Template.StartTag
import HtmlTemplate.Proofs.Template.StaticBlocks
import HtmlTemplate.Proofs.Template.Strictness
import HtmlTemplate.Proofs.Template.Traversal
import HtmlTemplate.Proofs.Template.Unfolding
import HtmlTemplate.Proofs.Template.Visits
import HtmlTemplate.Proofs.Template.WellFormed
import HtmlTemplate.Proofs.Text.Pattern
import HtmlTemplate.Proofs.Text.Quoted
import HtmlTemplate.Proofs.Text.Replace
import HtmlTemplate.Proofs.Text.Slices
import HtmlTemplate.Proofs.Unicode.Boundaries
import HtmlTemplate.Proofs.Unicode.Strokes
import HtmlTemplate.Reference.Decode
import HtmlTemplate.Reference.Names
import HtmlTemplate.Script.Emitter
import HtmlTemplate.Script.Layout
import HtmlTemplate.Script.Statement
import HtmlTemplate.Source.Basic
import HtmlTemplate.Template.Chain
import HtmlTemplate.Template.Directive
import HtmlTemplate.Template.Node
import HtmlTemplate.Template.OfMarkup
import HtmlTemplate.Template.Static
import HtmlTemplate.Text.Basic
import HtmlTemplate.Text.Rewrite
import HtmlTemplate.Unicode.CombiningClass
import HtmlTemplate.Unicode.Composites
import HtmlTemplate.Unicode.Ideographs
import HtmlTemplate.Unicode.Normalization
