import LineShell.IoError
/-!
# How commands and sessions end
-/

namespace LineShell

/-- What a command tells the session to do next. -/
inductive Flow where
  /-- Read the next line. -/
  | next
  /-- Leave the session. -/
  | stop
  deriving DecidableEq, Repr

/-- Why a session ended without an error. -/
inductive Termination where
  /-- The exit command was run. -/
  | stopped
  /-- There were no more lines. -/
  | endOfInput
  deriving DecidableEq, Repr

def Termination.text : Termination → Bytes
  | .stopped => Bytes.ofString "Stopped"
  | .endOfInput => Bytes.ofString "EndOfInput"

inductive EditorError where
  | endOfFile
  | interrupted
  | io (error : IoError)
  deriving DecidableEq, Repr

def EditorError.text : EditorError → Bytes
  | .endOfFile => Bytes.ofString "EOF"
  | .interrupted => Bytes.ofString "Interrupted"
  | .io error => error.text

/-- The failures that end a session. All others are reported where they happen. -/
inductive ShellError where
  /-- A buffer could not grow. -/
  | allocation
  /-- The input, or the channel for the prompt, failed. -/
  | io (error : IoError)
  /-- The line editor failed. -/
  | editor (error : EditorError)
  deriving DecidableEq, Repr

def ShellError.message : ShellError → Bytes
  | .allocation => Bytes.ofString "allocation error"
  | .io error => Bytes.ofString "failed to read input: " ++ error.text
  | .editor error => Bytes.ofString "line editor failure: " ++ error.text

end LineShell
