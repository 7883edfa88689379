import LineShell.Bytes
/-!
# Signals

The signals that have a name. Real-time signals have numbers above these and no name, so
`Signal.ofNumber?` knows nothing of them.
-/

namespace LineShell

/-- The signals with a name, in the order of their numbers. -/
inductive Signal where
  | hup | int | quit | ill | trap | abrt | bus | fpe | kill | usr1 | segv | usr2 | pipe | alrm | term
  | stkflt | chld | cont | stop | tstp | ttin | ttou | urg | xcpu | xfsz | vtalrm | prof | winch | io
  | pwr | sys
  deriving DecidableEq, Repr

namespace Signal

/-- Every signal with a name, the one with number 1 first. -/
def all : List Signal :=
  [.hup, .int, .quit, .ill, .trap, .abrt, .bus, .fpe, .kill, .usr1, .segv, .usr2, .pipe, .alrm, .term,
   .stkflt, .chld, .cont, .stop, .tstp, .ttin, .ttou, .urg, .xcpu, .xfsz, .vtalrm, .prof, .winch, .io,
   .pwr, .sys]

/-- The name without its first three letters. -/
def shortName : Signal → String
  | .hup => "HUP" | .int => "INT" | .quit => "QUIT" | .ill => "ILL" | .trap => "TRAP"
  | .abrt => "ABRT" | .bus => "BUS" | .fpe => "FPE" | .kill => "KILL" | .usr1 => "USR1"
  | .segv => "SEGV" | .usr2 => "USR2" | .pipe => "PIPE" | .alrm => "ALRM" | .term => "TERM"
  | .stkflt => "STKFLT" | .chld => "CHLD" | .cont => "CONT" | .stop => "STOP" | .tstp => "TSTP"
  | .ttin => "TTIN" | .ttou => "TTOU" | .urg => "URG" | .xcpu => "XCPU" | .xfsz => "XFSZ"
  | .vtalrm => "VTALRM" | .prof => "PROF" | .winch => "WINCH" | .io => "IO" | .pwr => "PWR"
  | .sys => "SYS"

def name (signal : Signal) : Bytes :=
  Bytes.ofString "SIG" ++ Bytes.ofString signal.shortName

def number (signal : Signal) : Nat :=
  all.idxOf signal + 1

def ofNumber? : Nat → Option Signal
  | 0 => none
  | n + 1 => all[n]?

end Signal

end LineShell
