import Sandbox.Backend.Basic
import Sandbox.Backend.Slot
import Sandbox.Calendar
import Sandbox.CommandLine.Banner
import Sandbox.CommandLine.Execute
import Sandbox.CommandLine.Grammar
import Sandbox.CommandLine.Jobs
import Sandbox.CommandLine.Parse
import Sandbox.CommandLine.Usage
import Sandbox.Compiled.Basic
import Sandbox.Compiled.Dialect
import Sandbox.Compiled.Sdk
import Sandbox.Config.Basic
import Sandbox.Config.CacheDirectory
import Sandbox.Config.Discover
import Sandbox.Config.Schema
import Sandbox.Console.Stream
import Sandbox.Console.Transcript
import Sandbox.Decimal.Shortest
import Sandbox.Fetch.CacheName
import Sandbox.Fetch.Loader
import Sandbox.Fetch.Program
import Sandbox.Files.Access
import Sandbox.Files.Content
import Sandbox.Files.Resolve
import Sandbox.Files.Tree
import Sandbox.Files.Unpack
import Sandbox.Guest.Assembly
import Sandbox.Guest.Linking
import Sandbox.Guest.Machine
import Sandbox.Guest.Memory
import Sandbox.Guest.Module
import Sandbox.Guest.Run
import Sandbox.Guest.Syscall
import Sandbox.Guest.Text
import Sandbox.Host.Basic
import Sandbox.Http.Client
import Sandbox.Http.Url
import Sandbox.JavaScript.Basic
import Sandbox.JavaScript.Builtin
import Sandbox.JavaScript.Convert
import Sandbox.JavaScript.Declaration
import Sandbox.JavaScript.JsonText
import Sandbox.JavaScript.Parse
import Sandbox.JavaScript.Run
import Sandbox.JavaScript.Syntax
import Sandbox.JavaScript.Time
import Sandbox.JavaScript.Token
import Sandbox.JavaScript.Units
import Sandbox.JavaScript.Value
import Sandbox.Json.Reader
import Sandbox.Json.Writer
import Sandbox.LoadError
import Sandbox.Log
import Sandbox.Log.Filter
import Sandbox.Log.Format
import Sandbox.Main
import Sandbox.Path
import Sandbox.Proofs.Compiled.Output
import Sandbox.Proofs.Console.Decoding
import Sandbox.Proofs.Console.Emission
import Sandbox.Proofs.Console.Lines
import Sandbox.Proofs.Guest.Calls
import Sandbox.Proofs.Guest.Memory
import Sandbox.Proofs.Guest.Writing
import Sandbox.Proofs.Text.Utf8
import Sandbox.Python.Basic
import Sandbox.Python.Interpreter
import Sandbox.Python.Source
import Sandbox.Registry.Basic
import Sandbox.Report
import Sandbox.RunResult.Basic
import Sandbox.RunResult.Error
import Sandbox.RunResult.Json
import Sandbox.Session
import Sandbox.Submission.Basic
import Sandbox.Submission.EntryPoint
import Sandbox.Text.Blank
import Sandbox.Text.CodePoints
import Sandbox.Text.Lines
import Sandbox.Text.Lowercase
import Sandbox.Text.Quoted
import Sandbox.Text.Search
import Sandbox.Text.Similarity
import Sandbox.Text.Utf8
import Sandbox.Text.Word
import Sandbox.Toml.Datetime
import Sandbox.Toml.Reader
import Sandbox.Toml.Tree
import Sandbox.Toml.Value
import Sandbox.Toml.Writer
import Sandbox.Proofs.Guest.Stopping
import Sandbox.Proofs.Compiled.Stopping
import Sandbox.Proofs.Guest.Assembly
import Sandbox.Proofs.Guest.Linking
import Sandbox.Proofs.Backend.Outcome
import Sandbox.Proofs.Backend.Routine
import Sandbox.Proofs.Backend.Interleaving
import Sandbox.Proofs.Compiled.Sharing
import Sandbox.Proofs.Python.Sharing
import Sandbox.Proofs.Registry.Loading
import Sandbox.Proofs.Files.Walking
import Sandbox.Proofs.Files.Changing
import Sandbox.Proofs.Files.Homes
import Sandbox.Proofs.Http.Delivery
import Sandbox.Proofs.Fetch.Naming
import Sandbox.Proofs.Fetch.Interruption
import Sandbox.Proofs.Fetch.Cache
import Sandbox.Proofs.Fetch.Publishing
import Sandbox.Proofs.Fetch.Succeeding
import Sandbox.Proofs.Fetch.Keeping
import Sandbox.Proofs.Fetch.Retrying
import Sandbox.Proofs.Guest.Stubs
import Sandbox.Proofs.Submission.Composition
import Sandbox.Proofs.Json.Layout
import Sandbox.Proofs.RunResult.RoundTrip
import Sandbox.Proofs.Fetch.Provenance
import Sandbox.Proofs.Files.Locations
import Sandbox.Proofs.Files.Unpacking
import Sandbox.Proofs.Fetch.Confining
import Sandbox.Proofs.Guest.Binding
import Sandbox.Proofs.Compiled.Binding
import Sandbox.Proofs.CommandLine.Running
import Sandbox.Proofs.Fetch.Neighbours
import Sandbox.Proofs.Registry.Warming
import Sandbox.Proofs.CommandLine.Warming
import Sandbox.Proofs.Toml.Strings
import Sandbox.Proofs.Toml.Values
import Sandbox.Proofs.Toml.Documents
import Sandbox.Proofs.Config.Merging
import Sandbox.Proofs.Guest.Answering
import Sandbox.Proofs.Guest.Counting
import Sandbox.Proofs.Json.Typed
import Sandbox.Proofs.RunResult.Accepted
import Sandbox.Proofs.CommandLine.Asking
import Sandbox.Proofs.CommandLine.Reporting
import Sandbox.Proofs.Submission.Renaming
import Sandbox.Proofs.Console.Weaving
import Sandbox.Proofs.Text.Lines
import Sandbox.Proofs.Python.Reporting
import Sandbox.Proofs.Text.Lowercase
import Sandbox.Proofs.Registry.Lookup
import Sandbox.Proofs.Path.Components
import Sandbox.Proofs.Config.Discovery
import Sandbox.Proofs.Fetch.Places
import Sandbox.Proofs.Fetch.Straying
import Sandbox.Proofs.Guest.Walking
import Sandbox.Proofs.Guest.Wrapping
import Sandbox.Proofs.Guest.Accesses
