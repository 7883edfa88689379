import LineShell.Bytes
import LineShell.Builtin.Basic
import LineShell.Launch.Basic
/-!
# Preparing a launch

The arguments of a program are handed over as strings that end with a NUL byte, so no argument can
hold one. The beginning of the message that the child writes if the program cannot be executed is
prepared too, since the child can do no more than write it.
-/

namespace LineShell

def firstNul (word : Bytes) : Option Nat :=
  word.findIdx? (· == 0)

/-- The argument list for a program, unless a word holds a NUL byte. The error is that of the first
such word. -/
def argumentList : List Bytes → Except NulError (List Bytes)
  | [] => .ok []
  | word :: rest =>
    match firstNul word with
    | some position => .error ⟨position⟩
    | none => (argumentList rest).map (word :: ·)

structure Prepared where
  /-- The arguments, the name of the program first. -/
  arguments : List Bytes
  /-- What the child writes in front of the reason if the program cannot be executed. -/
  failureHead : Bytes
  deriving DecidableEq, Repr

/-- Prepares the launch of a command. That there is no command is found before any NUL byte. -/
def prepare (words : List Bytes) : Except LaunchError Prepared :=
  match words with
  | [] => .error .emptyCommand
  | program :: _ =>
    match argumentList words with
    | .error error => .error (.nul error)
    | .ok arguments => .ok
      ⟨arguments, programName ++ Bytes.ofString ": " ++ program ++ Bytes.ofString ": "⟩

end LineShell
