import LineShell.IoError
import LineShell.Text.Utf8
/-!
# Builtin commands

The commands that run inside the shell, how they are named, and how they can fail.
-/

namespace LineShell

/-- The name in front of every diagnostic. -/
def programName : Bytes := Bytes.ofString "lish"

/-- A command that is not launched but run by the shell itself. -/
inductive Builtin where
  | changeDirectory
  | help
  | exit
  deriving DecidableEq, Repr

namespace Builtin

/-- Every builtin, in the order in which help lists them. -/
def all : List Builtin :=
  [.changeDirectory, .help, .exit]

def name : Builtin → Bytes
  | .changeDirectory => Bytes.ofString "cd"
  | .help => Bytes.ofString "help"
  | .exit => Bytes.ofString "exit"

/-- The builtin called exactly by this word. -/
def lookup (word : Bytes) : Option Builtin :=
  all.find? fun builtin => builtin.name == word

end Builtin

inductive BuiltinError where
  /-- A change of directory without a target. -/
  | missingTarget
  /-- The host refused to change to the target. -/
  | badTarget (target : Bytes) (cause : IoError)
  /-- The standard output refused the text. -/
  | output (cause : IoError)
  deriving DecidableEq, Repr

namespace BuiltinError

/-- What failed, without the cause below it. -/
def headline : BuiltinError → Bytes
  | .missingTarget => Bytes.ofString "expected argument to \"cd\""
  | .badTarget target _ => Bytes.ofString "cd: " ++ Utf8.shown target
  | .output cause => cause.text

def message : BuiltinError → Bytes
  | .badTarget target cause => (badTarget target cause).headline ++ Bytes.ofString ": " ++ cause.text
  | error => error.headline

end BuiltinError

end LineShell
