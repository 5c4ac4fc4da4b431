import Scriptorium.Text.Decoder
import Scriptorium.Text.CaseTable
import Scriptorium.Text.Lowercase
import Scriptorium.FileSystem.Path
import Scriptorium.OsError
import Scriptorium.FileSystem.Basic
import Scriptorium.FileSystem.Operations
import Scriptorium.Workspace.Entry
import Scriptorium.Workspace.Error
import Scriptorium.Workspace.Requests
import Scriptorium.Decimal.Shortest
import Scriptorium.Json.Printer
import Scriptorium.Json.Reader
import Scriptorium.Json.Document
import Scriptorium.Json.Expect
import Scriptorium.Run.Id
import Scriptorium.Settings.Basic
import Scriptorium.Settings.Reader
import Scriptorium.Json.Tagged
import Scriptorium.Message.Client
import Scriptorium.Message.Server
import Scriptorium.Bridge.Basic
import Scriptorium.Bridge.Operations
import Scriptorium.Bridge.Progress
import Scriptorium.Shell.Lexer
import Scriptorium.Shell.Parser
import Scriptorium.Machine.Basic
import Scriptorium.Shell.Expand
import Scriptorium.Machine.Files
import Scriptorium.Shell.Printf
import Scriptorium.Machine.Builtins
import Scriptorium.Machine.Step
import Scriptorium.Studio.Basic
import Scriptorium.Web.Access
import Scriptorium.Web.Response
import Scriptorium.Web.MediaType
import Scriptorium.Web.Pages
import Scriptorium.Web.Routes
import Scriptorium.Connection.Basic
import Scriptorium.Connection.Progress
import Scriptorium.CommandLine.Parse
import Scriptorium.Program
import Scriptorium.Main
import Scriptorium.Proofs.Run.Stopping
import Scriptorium.Proofs.Run.Steps
import Scriptorium.Proofs.Bridge.Registry
import Scriptorium.Proofs.FileSystem.Spelling
import Scriptorium.Proofs.FileSystem.Walk
import Scriptorium.Proofs.Workspace.Resolve
import Scriptorium.Proofs.FileSystem.Changes
import Scriptorium.Proofs.FileSystem.Operations
import Scriptorium.Proofs.FileSystem.Entry
import Scriptorium.Proofs.Workspace.Confinement
import Scriptorium.Proofs.Workspace.Entries
import Scriptorium.Proofs.Workspace.Root
import Scriptorium.Proofs.Workspace.Saving
import Scriptorium.Proofs.Workspace.Tree
import Scriptorium.Proofs.Workspace.Nodes
import Scriptorium.Proofs.Workspace.LinkFree
import Scriptorium.Proofs.Workspace.Resolved
import Scriptorium.Proofs.FileSystem.LastName
import Scriptorium.Proofs.Workspace.Deletion
import Scriptorium.Proofs.Bridge.Phases
import Scriptorium.Proofs.Studio.History
import Scriptorium.Proofs.Text.Utf8
import Scriptorium.Proofs.Text.Decoder
import Scriptorium.Proofs.Run.Course
import Scriptorium.Proofs.Run.Transcript
import Scriptorium.Proofs.Bridge.Courses
import Scriptorium.Proofs.Run.Ceiling
import Scriptorium.Proofs.Connection.Steps
import Scriptorium.Proofs.Connection.Answers
import Scriptorium.Proofs.Output.Router
import Scriptorium.Proofs.Bridge.Emissions
import Scriptorium.Proofs.Bridge.Lifecycle
import Scriptorium.Proofs.Connection.History
import Scriptorium.Proofs.Connection.Delivery
import Scriptorium.Proofs.Connection.Endings
import Scriptorium.Bridge.Launch
import Scriptorium.Proofs.Bridge.Cancellation
import Scriptorium.Proofs.Bridge.Launch
import Scriptorium.Proofs.Bridge.TimeLimit
import Scriptorium.Proofs.Bridge.Turns
import Scriptorium.Proofs.Bridge.Independence
import Scriptorium.Proofs.Bridge.Requests
import Scriptorium.Proofs.Output.Channels
import Scriptorium.Proofs.Connection.Teardown
import Scriptorium.Proofs.Connection.Saving
import Scriptorium.Proofs.Run.Line
import Scriptorium.Proofs.Run.Leftover
import Scriptorium.Proofs.Run.Refusals
import Scriptorium.Proofs.Bridge.Lines
import Scriptorium.Proofs.Studio.Input
import Scriptorium.Proofs.Json.Reading
import Scriptorium.Proofs.Json.Tagged
import Scriptorium.Proofs.Json.Numerals
import Scriptorium.Proofs.Json.Printing
import Scriptorium.Proofs.Message.Client
import Scriptorium.Proofs.Run.Id
import Scriptorium.Proofs.Json.Floatless
import Scriptorium.Proofs.Message.Server
import Scriptorium.Proofs.Text.Cut
import Scriptorium.Proofs.Web.Request
import Scriptorium.Proofs.Web.Access
import Scriptorium.Proofs.Web.Tokens
import Scriptorium.Proofs.Web.Origins
import Scriptorium.Proofs.Settings.Layers
import Scriptorium.Proofs.Settings.Leaves
import Scriptorium.Proofs.Settings.Texts
import Scriptorium.Proofs.Text.Characters
import Scriptorium.Proofs.Text.Fronts
import Scriptorium.Proofs.Run.Volume
import Scriptorium.Proofs.Json.Records
import Scriptorium.Proofs.Settings.ReadBack
import Scriptorium.Proofs.Bridge.Speech
import Scriptorium.Proofs.Terminal.History
import Scriptorium.Proofs.Terminal.Printing
import Scriptorium.Proofs.Bridge.Sole
import Scriptorium.Proofs.Terminal.Lines
import Scriptorium.Proofs.Terminal.Typing
import Scriptorium.Proofs.Text.Held
import Scriptorium.Proofs.Workspace.Listing
