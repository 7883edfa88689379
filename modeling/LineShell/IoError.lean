import LineShell.Errno
/-!
# Input and output errors

An error of a stream, a channel or the host: one of the general kinds with that kind's own text, a
kind with a text of its own, or a system error. `IoError.text` is the whole printed text, and
`IoError.interrupts` tells the one kind that is retried rather than reported.
-/

namespace LineShell

inductive ErrorKind where
  | alreadyExists
  | brokenPipe
  | connectionReset
  | interrupted
  | invalidData
  | invalidInput
  | isADirectory
  | notADirectory
  | notFound
  | other
  | outOfMemory
  | permissionDenied
  | readOnlyFilesystem
  | storageFull
  | timedOut
  | unexpectedEof
  | unsupported
  | wouldBlock
  | writeZero
  deriving DecidableEq, Repr

/-- The text of a kind that comes without one of its own. -/
def ErrorKind.text : ErrorKind → String
  | .alreadyExists => "entity already exists"
  | .brokenPipe => "broken pipe"
  | .connectionReset => "connection reset"
  | .interrupted => "operation interrupted"
  | .invalidData => "invalid data"
  | .invalidInput => "invalid input parameter"
  | .isADirectory => "is a directory"
  | .notADirectory => "not a directory"
  | .notFound => "entity not found"
  | .other => "other error"
  | .outOfMemory => "out of memory"
  | .permissionDenied => "permission denied"
  | .readOnlyFilesystem => "read-only filesystem or storage medium"
  | .storageFull => "no storage space"
  | .timedOut => "timed out"
  | .unexpectedEof => "unexpected end of file"
  | .unsupported => "unsupported"
  | .wouldBlock => "operation would block"
  | .writeZero => "write zero"

inductive IoError where
  | plain (kind : ErrorKind)
  | custom (kind : ErrorKind) (message : Bytes)
  | system (errno : Errno)
  deriving DecidableEq, Repr

namespace IoError

def text : IoError → Bytes
  | .plain kind => Bytes.ofString kind.text
  | .custom _ message => message
  | .system errno =>
    errno.libraryText ++ Bytes.ofString " (os error " ++ Bytes.ofInt errno.code ++ Bytes.ofString ")"

/-- Whether the operation was merely interrupted, and so is worth trying again. -/
def interrupts : IoError → Bool
  | .plain kind => kind == .interrupted
  | .custom kind _ => kind == .interrupted
  | .system errno => errno == .interrupted

/-- A channel that takes no byte of a non-empty message. -/
def wholeBuffer : IoError :=
  .custom .writeZero (Bytes.ofString "failed to write whole buffer")

/-- A path that holds a NUL byte, which no system call can be given. -/
def nulInPath : IoError :=
  .custom .invalidInput (Bytes.ofString "file name contained an unexpected NUL byte")

/-- A line of text that is not UTF-8. -/
def notUtf8 : IoError :=
  .custom .invalidData (Bytes.ofString "stream did not contain valid UTF-8")

end IoError

end LineShell
