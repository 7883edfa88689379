import LineShell.Builtin.Basic
import LineShell.World
/-!
# Running builtins

A builtin gets the whole line of words, its own name included. If it fails it says so on the error
channel, and the session goes on.
-/

namespace LineShell.Builtin

variable {ω : Type} [World ω]

/-- The messages of the help text, in the order in which they are written. -/
def helpText : List Bytes :=
  [programName, Bytes.ofString ": a minimal interactive shell\n",
    Bytes.ofString "Type program names and arguments, and hit enter.\n",
    Bytes.ofString "The following are built in:\n"]
  ++ all.flatMap (fun builtin => [Bytes.ofString "  ", builtin.name, Bytes.ofString "\n"])
  ++ [Bytes.ofString "Use the man command for information on other programs.\n"]

def showHelp : Act ω (Option BuiltinError) := do
  match ← Act.sendAll .output helpText with
  | some error => return some (.output error)
  | none => return (← Act.flush .output).map .output

/-- Changes to the directory named by the second word. Words after it are ignored. -/
def goTo (words : List Bytes) : Act ω (Option BuiltinError) :=
  match words[1]? with
  | none => pure (some .missingTarget)
  | some target => return (← Act.changeDirectory target).map (.badTarget target)

/-- Reports a failure. If that fails too, both failures are logged. -/
def report (error : BuiltinError) : Act ω Unit := do
  match ← Act.complain error.message with
  | none => pure ()
  | some refusal => Act.log (.builtinReportFailed refusal error)

/-- Reports the failure, if there is one, and lets the session go on. -/
def settle (result : Option BuiltinError) : Act ω Flow := do
  match result with
  | none => return .next
  | some error =>
    report error
    return .next

def run (builtin : Builtin) (words : List Bytes) : Act ω Flow :=
  match builtin with
  | .changeDirectory => goTo words >>= settle
  | .help => showHelp >>= settle
  | .exit => pure .stop

end LineShell.Builtin
