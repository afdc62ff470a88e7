import DocBraces.Text.Blank
import DocBraces.Text.Digit
import DocBraces.Text.Lines
import DocBraces.Text.Quoted
import DocBraces.Text.Utf8
import DocBraces.Text.LetterCase
import DocBraces.Pattern.Class
import DocBraces.Pattern.Expr
import DocBraces.Pattern.Fault
import DocBraces.Text.CharName
import DocBraces.Pattern.Escape
import DocBraces.Pattern.Parse
import DocBraces.Braces.Alphabet
import DocBraces.Braces.Codec
import DocBraces.Proofs.Braces.Balance
import DocBraces.Proofs.Braces.DefaultPattern
import DocBraces.Proofs.Braces.Enclosed
import DocBraces.Proofs.Braces.FenceParity
import DocBraces.Proofs.Braces.InlineSpans
import DocBraces.Proofs.Braces.InlineWalk
import DocBraces.Proofs.Braces.LineKinds
import DocBraces.Proofs.Braces.OneScan
import DocBraces.Proofs.Braces.Pairs
import DocBraces.Proofs.Braces.PatternEnd
import DocBraces.Proofs.Braces.Placeholder
import DocBraces.Proofs.Braces.PlaceholderSearch
import DocBraces.Proofs.Braces.Policy
import DocBraces.Proofs.Braces.Renaming
import DocBraces.Proofs.Braces.Resanitizing
import DocBraces.Proofs.Braces.Restoring
import DocBraces.Proofs.Braces.Widening
import DocBraces.Proofs.CommandLine.Acting
import DocBraces.Proofs.CommandLine.Delivering
import DocBraces.Proofs.CommandLine.Elsewhere
import DocBraces.Proofs.CommandLine.Filters
import DocBraces.Proofs.CommandLine.Rendering
import DocBraces.Proofs.Config.Accepted
import DocBraces.Proofs.Config.Checking
import DocBraces.Proofs.Config.Loading
import DocBraces.Proofs.Config.Nearest
import DocBraces.Proofs.Config.Search
import DocBraces.Proofs.Config.Wrapped
import DocBraces.Proofs.Data.Likeness
import DocBraces.Proofs.Docs.Apart
import DocBraces.Proofs.Docs.Candidates
import DocBraces.Proofs.Docs.Copies
import DocBraces.Proofs.Docs.Elsewhere
import DocBraces.Proofs.Docs.History
import DocBraces.Proofs.Docs.Pages
import DocBraces.Proofs.Docs.Rejection
import DocBraces.Proofs.Docs.RoundTrip
import DocBraces.Proofs.Docs.Settling
import DocBraces.Proofs.Docs.Sources
import DocBraces.Proofs.Docs.Staging
import DocBraces.Proofs.Docs.Turns
import DocBraces.Proofs.Docs.Written
import DocBraces.Proofs.Files.Changing
import DocBraces.Proofs.Files.Depth
import DocBraces.Proofs.Files.Following
import DocBraces.Proofs.Files.LinkFree
import DocBraces.Proofs.Files.Names
import DocBraces.Proofs.Files.Rooted
import DocBraces.Proofs.Files.Selection
import DocBraces.Proofs.Files.Sorting
import DocBraces.Proofs.Files.Walking
import DocBraces.Proofs.Pattern.ClassEnd
import DocBraces.Proofs.Pattern.Consuming
import DocBraces.Proofs.Pattern.Leftover
import DocBraces.Proofs.Pattern.Plain
import DocBraces.Proofs.Pattern.Rows
import DocBraces.Proofs.Pattern.Searching
import DocBraces.Proofs.Pattern.Steps
import DocBraces.Proofs.Render.Command
import DocBraces.Proofs.Render.DetailsTag
import DocBraces.Proofs.Render.Fallback
import DocBraces.Proofs.Session.Contents
import DocBraces.Proofs.Session.Failing
import DocBraces.Proofs.Session.Folders
import DocBraces.Proofs.Session.Keeping
import DocBraces.Proofs.Session.Logging
import DocBraces.Proofs.Session.Making
import DocBraces.Proofs.Session.Moving
import DocBraces.Proofs.Session.Peers
import DocBraces.Proofs.Session.Rewriting
import DocBraces.Proofs.Text.Lines
import DocBraces.Proofs.Text.Utf8
import DocBraces.Proofs.Tools.Lines
import DocBraces.Proofs.Tools.Starting
import DocBraces.Proofs.Tools.Wildcards
import DocBraces.Config.Environment
import DocBraces.Log.Record
import DocBraces.Log.Setup
import DocBraces.Render.Fallback
import DocBraces.Number.Shortest
import DocBraces.Config.Schema
import DocBraces.Files.Glob
import DocBraces.Yaml.Fault
import DocBraces.Yaml.Source
import DocBraces.Yaml.Token
import DocBraces.Yaml.TokenStream
import DocBraces.Yaml.Node
import DocBraces.Text.Base64
import DocBraces.Yaml.Scalar
import DocBraces.Yaml.Value
import DocBraces.Config.Fault
import DocBraces.Render.Command
import DocBraces.Session.Basic
import DocBraces.Session.Files
import DocBraces.Config.Check
import DocBraces.Docs.Pages
import DocBraces.Docs.Staging
import DocBraces.Report.Json
import DocBraces.Report.Summary
import DocBraces.CommandLine.Command
import DocBraces.CommandLine.Help
import DocBraces.CommandLine.Act
import DocBraces.CommandLine.Run
import DocBraces.Files.Change
import DocBraces.Main
import DocBraces.Tools.Arithmetic
import DocBraces.Tools.Basic
import DocBraces.Tools.Builtin
import DocBraces.Tools.Columns
import DocBraces.Tools.Condition
import DocBraces.Tools.Counting
import DocBraces.Tools.Dump
import DocBraces.Tools.EditScript
import DocBraces.Tools.Editing
import DocBraces.Tools.Exchange
import DocBraces.Tools.Expansion
import DocBraces.Tools.Flag
import DocBraces.Tools.Folders
import DocBraces.Tools.Grammar
import DocBraces.Tools.Lines
import DocBraces.Tools.Numbering
import DocBraces.Tools.Printing
import DocBraces.Tools.Quoting
import DocBraces.Tools.Real
import DocBraces.Tools.Regex
import DocBraces.Tools.Running
import DocBraces.Tools.Script
import DocBraces.Tools.Search
import DocBraces.Tools.Shell
import DocBraces.Tools.Sorting
import DocBraces.Tools.Start
import DocBraces.Tools.Surroundings
import DocBraces.Tools.Table
import DocBraces.Tools.Verdict
import DocBraces.Tools.Wildcard
