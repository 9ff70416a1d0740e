import Scaffold.Naming
import Scaffold.Component
import Scaffold.Datum
import Scaffold.FileTree
import Scaffold.Text.Case
import Scaffold.Text.Lines
import Scaffold.Text.Utf8
import Scaffold.Number.Shortest
import Scaffold.Template.Token.Lexer
import Scaffold.Template.Program.Check
import Scaffold.Template.Value.Arithmetic
import Scaffold.Template.Value.Format
import Scaffold.Template.Machine
import Scaffold.Text.Layout
import Scaffold.Number.Reading
import Scaffold.Template.Arguments
import Scaffold.Template.Subscript
import Scaffold.Template.Evaluate
import Scaffold.Generate
import Scaffold.GoModule
import Scaffold.FailureKind
import Scaffold.Template.Data
import Scaffold.SettingsFile
import Scaffold.CommandLine.Run
import Scaffold.Main
import Scaffold.Proofs.FileTree.Growth
import Scaffold.Proofs.FileTree.Paving
import Scaffold.Proofs.FileTree.Directory
import Scaffold.Proofs.FileTree.Opening
import Scaffold.Proofs.Generation.Step
import Scaffold.Proofs.Generation.Names
import Scaffold.Proofs.Generation.Sequence
import Scaffold.Proofs.Generation.Repetition
import Scaffold.Proofs.Template.Form
import Scaffold.Proofs.Template.Trimming
import Scaffold.Proofs.Template.Lexing
import Scaffold.Proofs.Template.Parsing
import Scaffold.Proofs.Template.Compilation
import Scaffold.Proofs.Template.Execution
import Scaffold.Proofs.Generation.Output
import Scaffold.Proofs.Bundle.Packaged
import Scaffold.Proofs.FileTree.Free
import Scaffold.Proofs.Text.Lower
import Scaffold.Proofs.Generation.Stack
import Scaffold.Proofs.Generation.Stages
import Scaffold.Proofs.Generation.Frame
import Scaffold.Proofs.Generation.Session
import Scaffold.Proofs.CommandLine.Preparation
import Scaffold.Proofs.CommandLine.ExitCodes
import Scaffold.Proofs.CommandLine.Verbosity
import Scaffold.Proofs.Text.Identifier
import Scaffold.Proofs.Template.Reach
import Scaffold.Proofs.Path.Lexical
import Scaffold.Proofs.Generation.Confinement
import Scaffold.Proofs.Generation.Taxonomy
import Scaffold.Proofs.CommandLine.Configuration
import Scaffold.Proofs.Text.Upper
import Scaffold.Proofs.Naming.Forms
import Scaffold.Proofs.Text.Ascii
import Scaffold.Proofs.Naming.Ascii
import Scaffold.Proofs.Naming.FillData
import Scaffold.Proofs.Naming.Delimiters
import Scaffold.Proofs.Generation.Paths
import Scaffold.Proofs.FileTree.Obstacles
import Scaffold.Proofs.Request.Refusals
import Scaffold.Proofs.GoModule.Directive
import Scaffold.Proofs.Settings.Assignment
import Scaffold.Proofs.Settings.RoundTrip
import Scaffold.Proofs.Bundle.Directory
import Scaffold.Proofs.Generation.Layout
import Scaffold.Proofs.Bundle.Alike
import Scaffold.Proofs.FileTree.Listing
