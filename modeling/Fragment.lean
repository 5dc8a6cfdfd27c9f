import Fragment.Command.Logging
import Fragment.Command.Options
import Fragment.Command.Session
import Fragment.Compile
import Fragment.Config
import Fragment.Diagnostic.Basic
import Fragment.Diagnostic.Excerpt
import Fragment.Diagnostic.Line
import Fragment.Diagnostic.Report
import Fragment.Diagnostic.Stream
import Fragment.Fault.Basic
import Fragment.Fault.Os
import Fragment.Files.Path
import Fragment.Files.Tree
import Fragment.Invoke
import Fragment.Launch
import Fragment.Loader
import Fragment.Main
import Fragment.Object
import Fragment.Platform
import Fragment.Program.Agreement
import Fragment.Program.Body
import Fragment.Program.Code
import Fragment.Program.Compiler
import Fragment.Program.Condition
import Fragment.Program.Declaration
import Fragment.Program.Declarator
import Fragment.Program.Directive
import Fragment.Program.Evaluation
import Fragment.Program.Expression
import Fragment.Program.Format
import Fragment.Program.Header
import Fragment.Program.Initial
import Fragment.Program.Library.Basic
import Fragment.Program.Library.General
import Fragment.Program.Library.Streams
import Fragment.Program.Library.Texts
import Fragment.Program.Literal
import Fragment.Program.Machine
import Fragment.Program.Macro
import Fragment.Program.Memory
import Fragment.Program.Message
import Fragment.Program.Native
import Fragment.Program.Reach
import Fragment.Program.Reading
import Fragment.Program.Token
import Fragment.Program.Type
import Fragment.Program.Typing
import Fragment.Program.Unit
import Fragment.Proofs.Ledger
import Fragment.Proofs.Store
import Fragment.Scratch
import Fragment.Script
import Fragment.Skeleton
import Fragment.Source
import Fragment.Stdout
import Fragment.Store
import Fragment.Text.Blank
import Fragment.Text.Decimal
import Fragment.Text.Decode
import Fragment.Text.Digit
import Fragment.Text.Line
import Fragment.Text.Octets
import Fragment.Text.Paint
import Fragment.Text.Quoted
import Fragment.Text.Width
import Fragment.Text.Word
import Fragment.Text.Wrap
import Fragment.Toolchain
import Fragment.Proofs.Compile.Attempt
import Fragment.Proofs.Compile.Shared
import Fragment.Proofs.Compile.Settlement
import Fragment.Proofs.Definition
import Fragment.Proofs.Launch.Arguments
import Fragment.Proofs.Launch.Course
import Fragment.Proofs.Launch.Outcome
import Fragment.Proofs.Launch.Origin
import Fragment.Proofs.Diagnostic.Parts
import Fragment.Proofs.Diagnostic.Shapes
import Fragment.Proofs.Diagnostic.Order
import Fragment.Proofs.Diagnostic.Lead
import Fragment.Proofs.Compile.Warnings
import Fragment.Proofs.Text.Number
import Fragment.Proofs.Text.Line
import Fragment.Proofs.Text.Octets
import Fragment.Proofs.Diagnostic.Grammar
import Fragment.Proofs.Diagnostic.RoundTrip
import Fragment.Proofs.Source.Position
import Fragment.Proofs.Launch.Position
import Fragment.Proofs.Loader.Registry
import Fragment.Proofs.Loader.Resolution
import Fragment.Proofs.Skeleton
import Fragment.Proofs.Store.Log
import Fragment.Proofs.Files.Directory
import Fragment.Proofs.Files.Path
import Fragment.Proofs.Files.Confined
import Fragment.Proofs.Text.Decode
import Fragment.Proofs.Compile.Modes
import Fragment.Proofs.Compile.Output
import Fragment.Proofs.Scratch
import Fragment.Proofs.Invoke
import Fragment.Proofs.Stdout
import Fragment.Proofs.Loader.Backing
import Fragment.Proofs.Loader.Housing
import Fragment.Proofs.Loader.Identity
import Fragment.Proofs.Privacy
import Fragment.Proofs.Toolchain
import Fragment.Proofs.Diagnostic.Stream
import Fragment.Proofs.Files.Ending
import Fragment.Proofs.Toolchain.Search
import Fragment.Proofs.Toolchain.Separator
import Fragment.Proofs.Toolchain.Start
import Fragment.Proofs.Diagnostic.Precedence
import Fragment.Proofs.Skeleton.Fault
import Fragment.Proofs.Diagnostic.Displaced
import Fragment.Proofs.Diagnostic.Header
import Fragment.Proofs.Compile.Headers
import Fragment.Proofs.Loader.Origin
import Fragment.Proofs.Source.Line
import Fragment.Proofs.Source.Span
import Fragment.Proofs.Text.Encoding
import Fragment.Proofs.Text.Words
import Fragment.Proofs.Command.Grammar
import Fragment.Proofs.Command.Settings
import Fragment.Proofs.Command.Report
