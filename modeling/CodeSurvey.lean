import CodeSurvey.Analysis.Basic
import CodeSurvey.Analysis.Catalogue
import CodeSurvey.Analysis.Definitions
import CodeSurvey.Analysis.Exports
import CodeSurvey.Analysis.Imports
import CodeSurvey.Analysis.Matches
import CodeSurvey.Command.Basic
import CodeSurvey.Command.Execute
import CodeSurvey.Command.Words
import CodeSurvey.Digest
import CodeSurvey.Fault
import CodeSurvey.FileTree
import CodeSurvey.Json.Access
import CodeSurvey.Json.Basic
import CodeSurvey.Json.Display
import CodeSurvey.Json.Double
import CodeSurvey.Json.Printer
import CodeSurvey.Json.Reader
import CodeSurvey.Log.Level
import CodeSurvey.Log.Line
import CodeSurvey.Log.Message
import CodeSurvey.Main
import CodeSurvey.Outline.Basic
import CodeSurvey.Outline.Expression
import CodeSurvey.Outline.Pattern
import CodeSurvey.Outline.Quoted
import CodeSurvey.Outline.Reader
import CodeSurvey.Outline.Statement
import CodeSurvey.Outline.Token
import CodeSurvey.Path
import CodeSurvey.Pattern.Allowlist
import CodeSurvey.Pattern.Braces
import CodeSurvey.Pattern.Glob
import CodeSurvey.Project.Commit
import CodeSurvey.Project.Files
import CodeSurvey.Project.Gate
import CodeSurvey.Project.Manifest
import CodeSurvey.Project.Meta
import CodeSurvey.Project.Scope
import CodeSurvey.Proofs.Analysis.Alike
import CodeSurvey.Proofs.Analysis.Proper
import CodeSurvey.Proofs.Analysis.Upstream
import CodeSurvey.Proofs.Double.Rounding
import CodeSurvey.Proofs.Double.Shortest
import CodeSurvey.Proofs.Json.Access
import CodeSurvey.Proofs.Json.Alike
import CodeSurvey.Proofs.Json.Nested
import CodeSurvey.Proofs.Json.Number
import CodeSurvey.Proofs.Json.Proper
import CodeSurvey.Proofs.Json.Quoted
import CodeSurvey.Proofs.Json.RoundTrip
import CodeSurvey.Proofs.Json.SameValue
import CodeSurvey.Proofs.Json.Scalar
import CodeSurvey.Proofs.Outcome
import CodeSurvey.Proofs.Path
import CodeSurvey.Proofs.Project.Below
import CodeSurvey.Proofs.Report.Decoding
import CodeSurvey.Proofs.Report.Misshapen
import CodeSurvey.Proofs.Report.Proper
import CodeSurvey.Proofs.Run.Agreement
import CodeSurvey.Proofs.Run.Alike
import CodeSurvey.Proofs.Run.Endings
import CodeSurvey.Proofs.Run.Fields
import CodeSurvey.Proofs.Run.Identifier
import CodeSurvey.Proofs.Run.Matching
import CodeSurvey.Proofs.Run.Portable
import CodeSurvey.Proofs.Run.Proper
import CodeSurvey.Proofs.Run.Quiet
import CodeSurvey.Proofs.Run.Repetition
import CodeSurvey.Proofs.Run.Rows
import CodeSurvey.Proofs.Run.Session
import CodeSurvey.Proofs.Run.Stages
import CodeSurvey.Proofs.Run.Transparency
import CodeSurvey.Proofs.Run.Traversal
import CodeSurvey.Proofs.Store.Laws
import CodeSurvey.Report.Basic
import CodeSurvey.Run.Batch
import CodeSurvey.Run.Config
import CodeSurvey.Run.Disk
import CodeSurvey.Run.Identity
import CodeSurvey.Run.Portable
import CodeSurvey.Run.Settings
import CodeSurvey.Run.Survey
import CodeSurvey.Run.Traced
import CodeSurvey.Script.Cursor
import CodeSurvey.Script.Expression
import CodeSurvey.Script.Markup
import CodeSurvey.Script.Operand
import CodeSurvey.Script.Reader
import CodeSurvey.Script.Semicolon
import CodeSurvey.Script.Statement
import CodeSurvey.Script.Token
import CodeSurvey.Store.Basic
import CodeSurvey.Store.File
import CodeSurvey.Store.Table
import CodeSurvey.Syntax
import CodeSurvey.Text.Blank
import CodeSurvey.Text.Casing
import CodeSurvey.Text.Letter
import CodeSurvey.Text.Pieces
import CodeSurvey.Text.Printable
import CodeSurvey.Text.Quoted
import CodeSurvey.Text.Rule
import CodeSurvey.Text.Utf8
import CodeSurvey.Version.Basic
import CodeSurvey.Version.Range
import CodeSurvey.Yaml.Cursor
import CodeSurvey.Yaml.Layout
import CodeSurvey.Yaml.Node
import CodeSurvey.Yaml.Quoted
import CodeSurvey.Yaml.Reader
import CodeSurvey.Yaml.Scalar
import CodeSurvey.Yaml.Token
import CodeSurvey.Yaml.Unquoted
import CodeSurvey.Proofs.Run.Naming
import CodeSurvey.Proofs.Run.Relocation
import CodeSurvey.Proofs.Run.Content
import CodeSurvey.Proofs.Store.Refinement
import CodeSurvey.Proofs.Run.SameKey
import CodeSurvey.Proofs.Run.Batching
import CodeSurvey.Proofs.Run.Retained
import CodeSurvey.Proofs.Run.Entries
import CodeSurvey.Proofs.Run.Feedback
import CodeSurvey.Proofs.Pattern.Subtree
import CodeSurvey.Proofs.Project.Discovery
import CodeSurvey.Proofs.Analysis.Reading
import CodeSurvey.Proofs.Syntax.Commented
import CodeSurvey.Proofs.Text.Pieces
import CodeSurvey.Proofs.Analysis.Comments
import CodeSurvey.Proofs.Run.FileByFile
import CodeSurvey.Proofs.Path.Cancel
import CodeSurvey.Proofs.Analysis.Resolution
import CodeSurvey.Proofs.Pattern.Expansion
import CodeSurvey.Proofs.Pattern.Alternatives
import CodeSurvey.Proofs.Project.Verdict
import CodeSurvey.Proofs.Run.Serialized
import CodeSurvey.Proofs.Analysis.Locality
import CodeSurvey.Proofs.Json.Reading
import CodeSurvey.Proofs.Project.Precedence
import CodeSurvey.Proofs.Pattern.Admission
import CodeSurvey.Proofs.Json.FileTexts
import CodeSurvey.Proofs.Report.FileTexts
import CodeSurvey.Proofs.Run.Separators
import CodeSurvey.Proofs.Analysis.Order
import CodeSurvey.Proofs.Json.Delimited
import CodeSurvey.Proofs.Analysis.Packages
import CodeSurvey.Proofs.Report.RecordedPaths
import CodeSurvey.Proofs.Run.RecordedPaths
import CodeSurvey.Proofs.Run.Outcomes
