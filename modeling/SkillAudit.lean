import SkillAudit.Budget
import SkillAudit.Check.Basic
import SkillAudit.Check.Catalog
import SkillAudit.Check.Content
import SkillAudit.Check.Layout
import SkillAudit.Check.Wording
import SkillAudit.Command.Option
import SkillAudit.Command.Parse
import SkillAudit.Command.Run
import SkillAudit.Command.Usage
import SkillAudit.Config.Basic
import SkillAudit.Config.File
import SkillAudit.Config.Json
import SkillAudit.Config.Prepare
import SkillAudit.Config.Setting
import SkillAudit.Config.Toml
import SkillAudit.Digest.Sha256
import SkillAudit.FileTree
import SkillAudit.Finding
import SkillAudit.Json.Basic
import SkillAudit.Json.Printer
import SkillAudit.Json.Reader
import SkillAudit.Main
import SkillAudit.Markdown.Fence
import SkillAudit.Markdown.Heading
import SkillAudit.Markdown.Sentence
import SkillAudit.Number.Decimal
import SkillAudit.Number.Quantity
import SkillAudit.Number.Reading
import SkillAudit.Number.Shortest
import SkillAudit.Package.Basic
import SkillAudit.Package.File
import SkillAudit.Package.FrontMatter
import SkillAudit.Package.Load
import SkillAudit.PathMap
import SkillAudit.Proofs.Budget
import SkillAudit.Proofs.Budget.Correspondence
import SkillAudit.Proofs.Budget.Target
import SkillAudit.Proofs.Check.Basic
import SkillAudit.Proofs.Check.Name
import SkillAudit.Proofs.Command.Agreement
import SkillAudit.Proofs.Command.Scan
import SkillAudit.Proofs.Config.Fairness
import SkillAudit.Proofs.Config.Normalize
import SkillAudit.Proofs.Config.Prepare
import SkillAudit.Proofs.FileTree.Lookup
import SkillAudit.Proofs.Finding.Order
import SkillAudit.Proofs.Markdown.Comment
import SkillAudit.Proofs.Markdown.Fence
import SkillAudit.Proofs.Markdown.Fenced
import SkillAudit.Proofs.Markdown.Layout
import SkillAudit.Proofs.Markdown.Opaque
import SkillAudit.Proofs.Markdown.Outline
import SkillAudit.Proofs.Markdown.Piece
import SkillAudit.Proofs.Markdown.Sentence
import SkillAudit.Proofs.Number.Rounding
import SkillAudit.Proofs.Package.Load
import SkillAudit.Proofs.Package.Lossless
import SkillAudit.Proofs.Package.Manifest
import SkillAudit.Proofs.Package.Membership
import SkillAudit.Proofs.Package.Notes
import SkillAudit.Proofs.Package.Path
import SkillAudit.Proofs.PathMap
import SkillAudit.Proofs.Reference.Blocks
import SkillAudit.Proofs.Reference.CodeSpan
import SkillAudit.Proofs.Reference.Correspondence
import SkillAudit.Proofs.Reference.Distinct
import SkillAudit.Proofs.Reference.FileGraph
import SkillAudit.Proofs.Reference.Graph
import SkillAudit.Proofs.Reference.Insertion
import SkillAudit.Proofs.Reference.Join
import SkillAudit.Proofs.Reference.Link
import SkillAudit.Proofs.Reference.Lookup
import SkillAudit.Proofs.Reference.Mention
import SkillAudit.Proofs.Reference.Message
import SkillAudit.Proofs.Reference.Orphan
import SkillAudit.Proofs.Reference.Resolution
import SkillAudit.Proofs.Reference.Return
import SkillAudit.Proofs.Reference.Target
import SkillAudit.Proofs.Reference.Tidy
import SkillAudit.Proofs.Reference.Unreferenced
import SkillAudit.Proofs.Score.Bounds
import SkillAudit.Proofs.Score.Monotone
import SkillAudit.Proofs.Score.Total
import SkillAudit.Proofs.Security.Disabled
import SkillAudit.Proofs.Security.Exact
import SkillAudit.Proofs.Security.Line
import SkillAudit.Proofs.Security.Permission
import SkillAudit.Proofs.Security.Scan
import SkillAudit.Proofs.Security.Secret
import SkillAudit.Proofs.Text.Char
import SkillAudit.Proofs.Text.Lines
import SkillAudit.Proofs.Text.Pattern
import SkillAudit.Proofs.Text.Pieces
import SkillAudit.Proofs.Text.Utf8
import SkillAudit.Proofs.Text.Words
import SkillAudit.Proofs.Tokens.Cost
import SkillAudit.Proofs.Tokens.Estimate
import SkillAudit.Proofs.Validation.Accounting
import SkillAudit.Proofs.Validation.Location
import SkillAudit.Proofs.Validation.Manifest
import SkillAudit.Proofs.Validation.Order
import SkillAudit.Proofs.Validation.Verdict
import SkillAudit.Reference.Graph
import SkillAudit.Reference.Mention
import SkillAudit.Reference.Resolution
import SkillAudit.Reference.Target
import SkillAudit.Report.Format
import SkillAudit.Report.Json
import SkillAudit.Report.Markdown
import SkillAudit.Report.Paint
import SkillAudit.Report.Render
import SkillAudit.Report.Text
import SkillAudit.Score.Quality
import SkillAudit.Score.Voice
import SkillAudit.Security.Permission
import SkillAudit.Security.Rule
import SkillAudit.Security.Scan
import SkillAudit.Text.Char
import SkillAudit.Text.CharSet
import SkillAudit.Text.CharSet.Casing
import SkillAudit.Text.CharSet.Letters
import SkillAudit.Text.CharSet.Visible
import SkillAudit.Text.Line
import SkillAudit.Text.Pattern
import SkillAudit.Text.Quoted
import SkillAudit.Text.Utf8
import SkillAudit.Tokens.Cost
import SkillAudit.Tokens.Estimate
import SkillAudit.Toml.Reader
import SkillAudit.Toml.Value
import SkillAudit.Validation
import SkillAudit.Yaml.Cursor
import SkillAudit.Yaml.Document
import SkillAudit.Yaml.Error
import SkillAudit.Yaml.Event
import SkillAudit.Yaml.Lexer
import SkillAudit.Yaml.Property
import SkillAudit.Yaml.Resolve
import SkillAudit.Yaml.Scalar
import SkillAudit.Yaml.Token
import SkillAudit.Yaml.Value
