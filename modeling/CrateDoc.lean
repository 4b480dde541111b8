import CrateDoc.Analysis.InMemory
import CrateDoc.Analysis.Snapshot
import CrateDoc.Analysis.Source
import CrateDoc.Binary64
import CrateDoc.Build
import CrateDoc.Cargo.Artifact
import CrateDoc.Cargo.Command
import CrateDoc.Cargo.Error
import CrateDoc.Cargo.Target
import CrateDoc.Child
import CrateDoc.CommandLine.Arguments
import CrateDoc.CommandLine.Grammar
import CrateDoc.CommandLine.Help
import CrateDoc.CommandLine.Reader
import CrateDoc.CommandLine.Run
import CrateDoc.Config
import CrateDoc.Definition
import CrateDoc.Doctest.Compile
import CrateDoc.Doctest.Parsed
import CrateDoc.Doctest.Program
import CrateDoc.Doctest.Run
import CrateDoc.Doctest.Snippet
import CrateDoc.Doctest.Suite
import CrateDoc.Document
import CrateDoc.Entries
import CrateDoc.Failure
import CrateDoc.FileTree
import CrateDoc.Graph
import CrateDoc.Html.Entities
import CrateDoc.Html.Event
import CrateDoc.Html.FirstBlock
import CrateDoc.Html.Markup
import CrateDoc.Html.Reference
import CrateDoc.Json.Reader
import CrateDoc.Json.Value
import CrateDoc.Json.Writer
import CrateDoc.JsonApi.Checked
import CrateDoc.JsonApi.Draft
import CrateDoc.JsonApi.Reader
import CrateDoc.JsonApi.Writer
import CrateDoc.Log
import CrateDoc.Logging
import CrateDoc.Main
import CrateDoc.Markdown.Block
import CrateDoc.Markdown.Element
import CrateDoc.Markdown.Emphasis
import CrateDoc.Markdown.Inline
import CrateDoc.Markdown.Link
import CrateDoc.Markdown.Mark
import CrateDoc.Markdown.Page
import CrateDoc.Markdown.RawHtml
import CrateDoc.Markdown.Source
import CrateDoc.Markdown.Writer
import CrateDoc.Path
import CrateDoc.Peg
import CrateDoc.Proofs.Analysis.InMemory
import CrateDoc.Proofs.Doctest.Blocks
import CrateDoc.Proofs.Doctest.Fence
import CrateDoc.Proofs.Doctest.ModuleNames
import CrateDoc.Proofs.Doctest.RoundTrip
import CrateDoc.Proofs.Doctest.Snippets
import CrateDoc.Proofs.Doctest.SuiteFiles
import CrateDoc.Proofs.Entries
import CrateDoc.Proofs.FileTree
import CrateDoc.Proofs.FirstFault
import CrateDoc.Proofs.Graph.Faults
import CrateDoc.Proofs.Graph.Listing
import CrateDoc.Proofs.Graph.Outcome
import CrateDoc.Proofs.Graph.Steps
import CrateDoc.Proofs.Graph.Termination
import CrateDoc.Proofs.Graph.Traversal
import CrateDoc.Proofs.Graph.WellFormed
import CrateDoc.Proofs.Identity
import CrateDoc.Proofs.Path
import CrateDoc.Proofs.Session
import CrateDoc.Proofs.Text.Lines
import CrateDoc.Proofs.Text.Words
import CrateDoc.Rust.Grammar
import CrateDoc.Rust.Lexeme
import CrateDoc.Rust.Node
import CrateDoc.Session
import CrateDoc.Shell.Arithmetic
import CrateDoc.Shell.Builtin
import CrateDoc.Shell.Format
import CrateDoc.Shell.Host
import CrateDoc.Shell.Reader
import CrateDoc.Shell.Run
import CrateDoc.Shell.Script
import CrateDoc.Shell.State
import CrateDoc.Shell.Token
import CrateDoc.Summary
import CrateDoc.Template.Basic
import CrateDoc.Template.Reader
import CrateDoc.TestRun
import CrateDoc.Text.Blank
import CrateDoc.Text.Digit
import CrateDoc.Text.Identifier
import CrateDoc.Text.Lines
import CrateDoc.Text.LowerCase
import CrateDoc.Text.Printable
import CrateDoc.Text.Quoted
import CrateDoc.Text.Ranges
import CrateDoc.Text.Utf8
import CrateDoc.Text.Word
import CrateDoc.Yaml.Cursor
import CrateDoc.Yaml.Fault
import CrateDoc.Yaml.Node
import CrateDoc.Yaml.Number
import CrateDoc.Yaml.Scalar
import CrateDoc.Yaml.Tag
import CrateDoc.Yaml.Token
import CrateDoc.Yaml.Value
import CrateDoc.Proofs.Json.RoundTrip
import CrateDoc.Proofs.Document
import CrateDoc.Proofs.JsonApi.RoundTrip
import CrateDoc.Proofs.Graph.Attached
import CrateDoc.Proofs.Graph.Edges
import CrateDoc.Proofs.Graph.ParentLinks
import CrateDoc.Proofs.Graph.Parents
import CrateDoc.Proofs.Graph.References
import CrateDoc.Proofs.Graph.Provenance
import CrateDoc.Proofs.Graph.Together
import CrateDoc.Proofs.Doctest.Parsing
import CrateDoc.Proofs.Doctest.Rendering
import CrateDoc.Proofs.Doctest.CrateNames
import CrateDoc.Proofs.Analysis.Snapshot
import CrateDoc.Proofs.Analysis.Crates
import CrateDoc.Proofs.Analysis.Agreement
import CrateDoc.Proofs.Analysis.Loading
import CrateDoc.Proofs.Analysis.References
import CrateDoc.Proofs.Analysis.Isolation
import CrateDoc.Proofs.Cargo.Messages
import CrateDoc.Proofs.Concurrency.Work
import CrateDoc.Proofs.Concurrency.Expansion
import CrateDoc.Proofs.Concurrency.Schedules
import CrateDoc.Proofs.FileTree.Frame
import CrateDoc.Proofs.TestRun.Calls
import CrateDoc.Proofs.TestRun.Scratch
import CrateDoc.Proofs.TestRun.Course
import CrateDoc.Proofs.TestRun.Discipline
import CrateDoc.Proofs.Text.Utf8
import CrateDoc.Proofs.Json.Controls
import CrateDoc.Proofs.Config
import CrateDoc.Proofs.Analysis.Written
import CrateDoc.Proofs.TestRun.Alike
import CrateDoc.Proofs.TestRun.Project
import CrateDoc.Proofs.TestRun.Built
import CrateDoc.Proofs.TestRun.FromFile
import CrateDoc.Proofs.Doctest.Composition
import CrateDoc.Proofs.JsonApi.Format
import CrateDoc.Proofs.FileTree.SameFile
import CrateDoc.Proofs.TestRun.DataFiles
import CrateDoc.Proofs.CommandLine.Unforeseen
import CrateDoc.Proofs.CommandLine.Reports
import CrateDoc.Proofs.Cargo.TargetChoice
import CrateDoc.Proofs.Cargo.Artifacts
import CrateDoc.Proofs.Doctest.Fenced
import CrateDoc.Proofs.Document.Calls
import CrateDoc.Proofs.Summary.Prose
import CrateDoc.Proofs.Config.Document
import CrateDoc.Proofs.Config.Settings
import CrateDoc.Proofs.Config.Quoting
import CrateDoc.Proofs.Text.LineReader
import CrateDoc.Proofs.Child
import CrateDoc.Proofs.Doctest.Allocation
import CrateDoc.Proofs.Analysis.Remembered
