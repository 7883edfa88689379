import LineShell.Errno
import LineShell.Signal
/-!
# Launching programs: outcomes and failures

How a launched program can end, why a launch can fail before that, and how the status word of a
child process is read.
-/

namespace LineShell

inductive Completion where
  | exited (code : Int)
  | signaled (signal : Signal)
  deriving DecidableEq, Repr

/-- A word of an argument list that holds a NUL byte, the first of them at the given place. The word
itself is not kept, since nobody looks at it again. -/
structure NulError where
  position : Nat
  deriving DecidableEq, Repr

def NulError.message (error : NulError) : Bytes :=
  Bytes.ofString "nul byte found in provided data at position: " ++ Bytes.ofNat error.position

/-- Why a program could not be launched or waited for. That a program was not found or could not be
executed is no such failure: the child reports it and exits. -/
inductive LaunchError where
  | emptyCommand
  | nul (error : NulError)
  | fork (errno : Errno)
  | wait (pid : Int) (errno : Errno)
  deriving DecidableEq, Repr

def LaunchError.message : LaunchError → Bytes
  | .emptyCommand => Bytes.ofString "no command given"
  | .nul _ => Bytes.ofString "argument contains a NUL byte"
  | .fork errno => Bytes.ofString "fork failed: " ++ errno.text
  | .wait pid errno =>
    Bytes.ofString "waiting for process " ++ Bytes.ofInt pid ++ Bytes.ofString " failed: " ++ errno.text

/-- What a status word says about a child. -/
inductive WaitStatus where
  | exited (code : Nat)
  | signaled (signal : Signal) (dumped : Bool)
  | stopped (signal : Signal)
  | traced (signal : Signal) (event : Nat)
  | tracedCall
  | continued
  deriving DecidableEq, Repr

namespace WaitStatus

/-- The signal with a number, or the error for a number without a name. -/
def signalOf (number : Nat) : Except Errno Signal :=
  match Signal.ofNumber? number with
  | some signal => .ok signal
  | none => .error .invalid

/-- Reads a status word. The low seven bits are zero for an exit, all ones for a stop, and else the
signal that killed the child; the next byte holds the exit code or the signal of the stop. -/
def decode (word : Nat) : Except Errno WaitStatus :=
  let low := word % 128
  let high := word / 256 % 256
  if low = 0 then .ok (.exited high)
  else if low ≠ 127 then (signalOf low).map (signaled · (word / 128 % 2 = 1))
  else if word % 256 = 127 then
    if high = 133 then .ok .tracedCall
    else if word / 65536 = 0 then (signalOf high).map stopped
    else (signalOf high).map (traced · (word / 65536))
  else .ok .continued

def exitWord (code : Nat) : Nat := code % 256 * 256

/-- The word of a child that was killed by the signal with this number. -/
def killWord (number : Nat) : Nat := number % 128

/-- The word of a child that was stopped by the signal with this number. -/
def stopWord (number : Nat) : Nat := number % 256 * 256 + 127

def text (pid : Nat) (status : WaitStatus) : Bytes :=
  let process := Bytes.ofString "Pid(" ++ Bytes.ofNat pid ++ Bytes.ofString ")"
  let of (name : String) (fields : List Bytes) :=
    Bytes.ofString name ++ Bytes.ofString "(" ++
      Bytes.joinWith (Bytes.ofString ", ") (process :: fields) ++ Bytes.ofString ")"
  match status with
  | .exited code => of "Exited" [Bytes.ofNat code]
  | .signaled signal dumped =>
    of "Signaled" [signal.name, Bytes.ofString (if dumped then "true" else "false")]
  | .stopped signal => of "Stopped" [signal.name]
  | .traced signal event => of "PtraceEvent" [signal.name, Bytes.ofNat event]
  | .tracedCall => of "PtraceSyscall" []
  | .continued => of "Continued" []

end WaitStatus

def Completion.text : Completion → Bytes
  | .exited code => Bytes.ofString "Exited(" ++ Bytes.ofInt code ++ Bytes.ofString ")"
  | .signaled signal => Bytes.ofString "Signaled(" ++ signal.name ++ Bytes.ofString ")"

end LineShell
