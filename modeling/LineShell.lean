import LineShell.Text.Quoted
import LineShell.Text.Cluster
import LineShell.Words
import LineShell.Buffer
import LineShell.Log.Entry
import LineShell.Log.Line
import LineShell.Log.Filter
import LineShell.Act
import LineShell.Channel
import LineShell.Source.Stream
import LineShell.Source.Scripted
import LineShell.Source.Editor
import LineShell.Launch.Native
import LineShell.Session
import LineShell.Stage
import LineShell.Program
import LineShell.Machine.Scene
import LineShell.Main
import LineShell.Machine.Image
import LineShell.Machine.Script.Grammar
import LineShell.Machine.Script.State
import LineShell.Machine.Script.Pattern
import LineShell.Machine.Input
import LineShell.Machine.Tool.Programs
import LineShell.Proofs.Buffer
import LineShell.Proofs.Words
import LineShell.Proofs.Bytes
import LineShell.Proofs.Stream
import LineShell.Proofs.World
import LineShell.Proofs.Prompt
import LineShell.Proofs.Command
import LineShell.Proofs.Session
import LineShell.Proofs.Stage
import LineShell.Proofs.HostCalls
import LineShell.Proofs.Marks
import LineShell.Proofs.Pairing
import LineShell.Play
import LineShell.Proofs.Patience
import LineShell.Proofs.Environment
import LineShell.Proofs.Concatenation
import LineShell.Proofs.Faults
import LineShell.Proofs.Reports
import LineShell.Proofs.Failures
import LineShell.Proofs.Launch
import LineShell.Proofs.Tasks
import LineShell.Proofs.Flushes
import LineShell.Proofs.Record
import LineShell.Proofs.Verbosity
import LineShell.Proofs.Runs
import LineShell.Proofs.Dispatch
import LineShell.Proofs.Arguments
import LineShell.Proofs.Readback
import LineShell.Proofs.Utf8
import LineShell.Proofs.Builtins
import LineShell.Proofs.FailedPrompts
import LineShell.Proofs.Given
import LineShell.Proofs.BlankLines
import LineShell.Proofs.Joining
import LineShell.Proofs.Options
import LineShell.Proofs.Deaths
import LineShell.Proofs.Texts
import LineShell.Proofs.EditedLines
import LineShell.Proofs.Frame
import LineShell.Proofs.Requests
import LineShell.Proofs.Pieces
import LineShell.Proofs.Growth
import LineShell.Proofs.Progress
