import CommandShell.Aliases
import CommandShell.Builtin
import CommandShell.Builtin.Definitions
import CommandShell.Builtin.Directory
import CommandShell.Builtin.Help
import CommandShell.Builtin.Leave
import CommandShell.Builtin.Variables
import CommandShell.Chain
import CommandShell.CommandError
import CommandShell.Diagnostic
import CommandShell.Environment
import CommandShell.Failure
import CommandShell.FatalError
import CommandShell.Files
import CommandShell.Files.Disk
import CommandShell.Files.Path
import CommandShell.Files.Setup
import CommandShell.Flow
import CommandShell.Input
import CommandShell.Line.Expansion
import CommandShell.Line.Normal
import CommandShell.Line.Quote
import CommandShell.Line.Token
import CommandShell.Main
import CommandShell.Program
import CommandShell.Search
import CommandShell.Session
import CommandShell.Session.Dispatch
import CommandShell.Session.Execute
import CommandShell.Session.Input
import CommandShell.Session.Run
import CommandShell.Startup.Launch
import CommandShell.Startup.Options
import CommandShell.Startup.RcFile
import CommandShell.Startup.Terminal
import CommandShell.Stream
import CommandShell.Text
import CommandShell.Text.Blank
import CommandShell.Text.Cluster
import CommandShell.Text.Cluster.Kind
import CommandShell.Text.Hidden
import CommandShell.Text.Pieces
import CommandShell.Text.Quoted
import CommandShell.Text.Ranges
import CommandShell.Text.Typed
import CommandShell.Text.Utf8
import CommandShell.Userland
import CommandShell.Userland.Condition
import CommandShell.Userland.Escape
import CommandShell.Userland.Format
import CommandShell.Userland.Pattern
import CommandShell.Userland.Script.Apart
import CommandShell.Userland.Script.Arithmetic
import CommandShell.Userland.Script.Builtin
import CommandShell.Userland.Script.Command
import CommandShell.Userland.Script.Field
import CommandShell.Userland.Script.Loop
import CommandShell.Userland.Script.Redirect
import CommandShell.Userland.Script.Run
import CommandShell.Userland.Script.Start
import CommandShell.Userland.Script.State
import CommandShell.Userland.Script.Symbol
import CommandShell.Userland.Script.Word
import CommandShell.Userland.Tool
import CommandShell.Userland.Tool.Launch
import CommandShell.Userland.Tool.Lines
import CommandShell.Userland.Tool.Tree
import CommandShell.Proofs.Chain.Log
import CommandShell.Proofs.Line.Partition
import CommandShell.Proofs.Files.Walk
import CommandShell.Proofs.Stream
import CommandShell.Proofs.Session.Action
import CommandShell.Proofs.Session.Program
import CommandShell.Proofs.Session.Record
import CommandShell.Proofs.Aliases.Replacement
import CommandShell.Proofs.Session.Checking
import CommandShell.Proofs.Line.Writing
import CommandShell.Proofs.Session.Quoting
import CommandShell.Proofs.Line.Rewriting
import CommandShell.Proofs.Line.Locality
import CommandShell.Proofs.Line.Semicolon
import CommandShell.Proofs.Session.Separation
import CommandShell.Proofs.Aliases.Completeness
import CommandShell.Proofs.Line.Joining
import CommandShell.Proofs.Session.Returning
import CommandShell.Proofs.Session.Atomicity
import CommandShell.Proofs.Session.Frame
import CommandShell.Proofs.Session.Transparency
import CommandShell.Proofs.Chain.Grammar
import CommandShell.Proofs.Session.Sequence
import CommandShell.Proofs.Session.Command
import CommandShell.Proofs.Session.Leaving
import CommandShell.Proofs.Session.Counting
import CommandShell.Proofs.Aliases.Store
import CommandShell.Proofs.Text.Lines
import CommandShell.Proofs.Session.Comment
import CommandShell.Proofs.Session.Listing
import CommandShell.Proofs.Session.Sourcing
import CommandShell.Proofs.Session.Stages
import CommandShell.Proofs.Session.Nesting
import CommandShell.Proofs.Line.Stability
import CommandShell.Proofs.Line.Substitution
import CommandShell.Proofs.Aliases.Steps
import CommandShell.Proofs.Aliases.Wordwise
import CommandShell.Proofs.Session.Alike
import CommandShell.Proofs.Session.BrokenStream
import CommandShell.Proofs.Text.Newlines
import CommandShell.Proofs.Session.Reading
import CommandShell.Proofs.Session.Skipping
import CommandShell.Proofs.Session.Operands
import CommandShell.Proofs.Files.Search
import CommandShell.Proofs.Builtin.Numeral
import CommandShell.Proofs.History
import CommandShell.Proofs.Environment.Changes
import CommandShell.Proofs.Aliases.Definitions
