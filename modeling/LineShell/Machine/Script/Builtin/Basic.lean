import LineShell.Machine.Script.State
/-!
# Commands of the interpreter itself

The commands that act on the state of a script, and those that the interpreter does itself because
they are short. A failure of a special one ends the script. Words that look like assignments are not
cut into fields behind one that declares.
-/

namespace LineShell.Script

/-- A command of the interpreter gives a status for its arguments. -/
abbrev Builtin := List Bytes → Run Nat

namespace Builtin

def put (bytes : Bytes) : Run Nat := do
  if bytes.isEmpty then return 0
  match ← say 1 bytes with
  | .ok () => return 0
  | .error _ =>
    complain ((← get).acting.getD [] ++ str ": I/O error")
    return 1

/-- The number that an argument is: digits behind blanks and a sign. -/
def number (argument : Bytes) : Run Nat :=
  match Numeral.whole? (Numeral.unsigned .decimal) argument with
  | some n =>
    if 0 ≤ n ∧ n < 2147483648 then return n.toNat else fail (str "Illegal number: " ++ argument)
  | none => fail (str "Illegal number: " ++ argument)

structure Kind where
  special : Bool
  declares : Bool

/-- The names of the commands that are neither special nor declare. -/
private def ordinaryNames : List String :=
  ["[", "bg", "cd", "chdir", "command", "echo", "false", "fg", "getopts", "hash", "jobs", "kill",
    "printf", "pwd", "read", "test", "true", "type", "ulimit", "umask", "unalias", "wait"]

/-- The names of the special commands that do not declare. -/
private def specialNames : List String :=
  [".", ":", "break", "continue", "eval", "exec", "exit", "return", "set", "shift", "times", "trap",
    "unset"]

/-- The kind of the command with a name, if there is one. -/
def kindOf? (name : Bytes) : Option Kind :=
  let isIn (names : List String) : Bool := names.any fun known => str known == name
  if isIn ordinaryNames then some ⟨false, false⟩
  else if isIn specialNames then some ⟨true, false⟩
  else if isIn ["export", "local", "readonly"] then some ⟨true, true⟩
  else if isIn ["alias"] then some ⟨false, true⟩
  else none

end Builtin

end LineShell.Script
