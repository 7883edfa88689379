import LineShell.Machine.Script.Builtin.Control
import LineShell.Machine.Script.Builtin.Declare
import LineShell.Machine.Script.Builtin.Directory
import LineShell.Machine.Script.Builtin.Job
import LineShell.Machine.Script.Builtin.Limit
import LineShell.Machine.Script.Builtin.Name
import LineShell.Machine.Script.Builtin.Output
import LineShell.Machine.Script.Builtin.Parameter
import LineShell.Machine.Script.Builtin.Signal
/-!
# The commands of the interpreter by name
-/

namespace LineShell.Script.Builtin

def table (interpreter : Interpreter) : List (String × Builtin) :=
  [(".", source interpreter), (":", fun _ => return 0), ("[", bracket), ("alias", setAlias),
    ("bg", resume), ("break", leave), ("cd", cd), ("chdir", cd), ("command", command),
    ("continue", next), ("echo", echo), ("eval", eval interpreter), ("exec", exec interpreter),
    ("exit", exit), ("export", handDown), ("false", fun _ => return 1), ("fg", resume),
    ("getopts", getopts), ("hash", hash), ("jobs", jobs), ("kill", kill), ("local", localize),
    ("printf", printf), ("pwd", pwd), ("read", readFields), ("readonly", fix), ("return", giveBack),
    ("set", setParameters), ("shift", shift), ("test", test), ("times", times), ("trap", trap),
    ("true", fun _ => return 0), ("type", type), ("ulimit", ulimit), ("umask", umask),
    ("unalias", unalias), ("unset", unset), ("wait", wait)]

/-- Runs the command of the interpreter with a name. -/
def run (interpreter : Interpreter) (name : Bytes) (arguments : List Bytes) : Run Nat :=
  match (table interpreter).find? fun entry => str entry.1 == name with
  | some entry => entry.2 arguments
  | none => return 127

end LineShell.Script.Builtin
