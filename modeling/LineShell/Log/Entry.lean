import LineShell.Builtin.Basic
import LineShell.Flow
import LineShell.Launch.Basic
/-!
# Log entries

What the shell records about its own running. An entry is kept as the fact itself; its level, the
part of the shell it comes from, its message and its fields are functions of it.
-/

namespace LineShell.Log

/-- How severe an entry is, the most severe level first. -/
inductive Level where
  | error
  | warn
  | info
  | debug
  | trace
  deriving DecidableEq, Repr

/-- The place of a level, from 1 for the most severe. -/
def Level.rank : Level → Nat
  | .error => 1
  | .warn => 2
  | .info => 3
  | .debug => 4
  | .trace => 5

def Level.name : Level → Bytes
  | .error => Bytes.ofString "ERROR"
  | .warn => Bytes.ofString "WARN"
  | .info => Bytes.ofString "INFO"
  | .debug => Bytes.ofString "DEBUG"
  | .trace => Bytes.ofString "TRACE"

/-- A fact worth recording. -/
inductive Entry where
  | lineTokenized (count : Nat)
  | bufferGrown (capacity : Nat)
  | fragmentDiscarded (length : Nat)
  | lineInterrupted
  | builtinRunning (builtin : Builtin)
  | commandFinished (completion : Completion)
  | endOfInput
  | flushFailed (error : IoError)
  | launchReportFailed (error : IoError) (cause : LaunchError)
  | builtinReportFailed (error : IoError) (cause : BuiltinError)
  | launched (pid : Nat) (program : Bytes)
  | processExited (pid : Nat) (code : Nat)
  | processKilled (pid : Nat) (signal : Signal)
  | processUnfinished (pid : Nat) (status : WaitStatus)
  | shellFinished (termination : Termination)
  deriving DecidableEq, Repr

namespace Entry

def level : Entry → Level
  | .lineTokenized _ | .bufferGrown _ => .trace
  | .flushFailed _ | .launchReportFailed .. | .builtinReportFailed .. => .warn
  | _ => .debug

end Entry

end LineShell.Log
