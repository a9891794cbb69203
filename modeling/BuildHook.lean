import BuildHook.CommandLine.Basic
import BuildHook.CommandLine.Help
import BuildHook.CommandLine.Parse
import BuildHook.Config.Basic
import BuildHook.Config.Load
import BuildHook.Config.Toml
import BuildHook.Console.Result
import BuildHook.Console.Status
import BuildHook.Console.Table
import BuildHook.Duration
import BuildHook.Effect
import BuildHook.Error
import BuildHook.Event.Basic
import BuildHook.Event.Envelope
import BuildHook.Event.Json
import BuildHook.Fault
import BuildHook.Hook.Basic
import BuildHook.Hook.Context
import BuildHook.Hook.Report
import BuildHook.Hook.State
import BuildHook.Host.Basic
import BuildHook.Host.Layout
import BuildHook.Json.Basic
import BuildHook.Json.Decode
import BuildHook.Lifecycle.Basic
import BuildHook.Lifecycle.Command
import BuildHook.Log.Event
import BuildHook.Log.Filter
import BuildHook.Log.Format
import BuildHook.Log.Record
import BuildHook.Main
import BuildHook.NameMap
import BuildHook.Phase
import BuildHook.Plan
import BuildHook.Process.Basic
import BuildHook.Process.Executor
import BuildHook.Process.System
import BuildHook.Program.Basic
import BuildHook.Program.Session
import BuildHook.Program.Work
import BuildHook.Proofs.Config.Environment
import BuildHook.Proofs.Config.Precedence
import BuildHook.Proofs.Config.Setting
import BuildHook.Proofs.Config.Usable
import BuildHook.Proofs.Console.Table
import BuildHook.Proofs.Event.Wire
import BuildHook.Proofs.Hook.Blame
import BuildHook.Proofs.Hook.Closing
import BuildHook.Proofs.Hook.History
import BuildHook.Proofs.Hook.Observers
import BuildHook.Proofs.Hook.Path
import BuildHook.Proofs.Hook.Repeat
import BuildHook.Proofs.Hook.Rerun
import BuildHook.Proofs.Hook.Run
import BuildHook.Proofs.Hook.RunId
import BuildHook.Proofs.Hook.Safety
import BuildHook.Proofs.Hook.Stream
import BuildHook.Proofs.Hook.Walk
import BuildHook.Proofs.Host.Lookup
import BuildHook.Proofs.Host.Path
import BuildHook.Proofs.Json.Parse
import BuildHook.Proofs.Json.Reading
import BuildHook.Proofs.Json.Records
import BuildHook.Proofs.Json.Text
import BuildHook.Proofs.Lifecycle.Calls
import BuildHook.Proofs.Lifecycle.Driven
import BuildHook.Proofs.Lifecycle.Isolation
import BuildHook.Proofs.Lifecycle.Observers
import BuildHook.Proofs.Lifecycle.Operation
import BuildHook.Proofs.Lifecycle.Table
import BuildHook.Proofs.Log.Attribution
import BuildHook.Proofs.Plan
import BuildHook.Proofs.Program.Check
import BuildHook.Proofs.Program.Conclusion
import BuildHook.Proofs.Program.Ended
import BuildHook.Proofs.Program.ExitStatus
import BuildHook.Proofs.Program.Loop
import BuildHook.Proofs.Program.Neutral
import BuildHook.Proofs.Program.Phase
import BuildHook.Proofs.Program.Planned
import BuildHook.Proofs.Program.Printed
import BuildHook.Proofs.Program.Processes
import BuildHook.Proofs.Program.Settings
import BuildHook.Proofs.Program.Shown
import BuildHook.Proofs.Program.Statuses
import BuildHook.Proofs.Program.Streams
import BuildHook.Proofs.Text.Quoted
import BuildHook.Text.Basic
import BuildHook.Text.Os
import BuildHook.Text.Terminal
import BuildHook.Text.Width
import BuildHook.Timestamp
import BuildHook.Toml.Basic
import BuildHook.Toml.Document
import BuildHook.Toml.Scalar
import BuildHook.Toml.Text
import BuildHook.Uuid
