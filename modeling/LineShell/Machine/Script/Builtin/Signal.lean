import LineShell.Machine.Script.Builtin.Basic
import LineShell.Machine.Script.Job
import LineShell.Machine.Script.Options
/-!
# Signals in scripts

Signals are named by numbers or by names, in capitals or not. The number 0 stands for the end of a
script.
-/

namespace LineShell.Script.Builtin

/-- How many signals there are, with the one that stands for the end of a script. -/
private def signalCount : Nat := 65

private def signalName (n : Nat) : Bytes :=
  if n = 0 then str "EXIT"
  else if n = Signal.stkflt.number then Bytes.ofNat n
  else match Signal.ofNumber? n with
    | some signal => str signal.shortName
    | none =>
      if n < 34 then Bytes.ofNat n
      else if n = 34 then str "RTMIN"
      else if n < 50 then str "RTMIN+" ++ Bytes.ofNat (n - 34)
      else if n < 64 then str "RTMAX-" ++ Bytes.ofNat (64 - n)
      else str "RTMAX"

/-- The number of a signal given by its number. -/
private def numbered? (word : Bytes) : Option Nat :=
  (Bytes.toNat? word).filter (· < signalCount)

/-- The number of a signal given by its number or its name. Names count from a number on. -/
private def signal? (least : Nat) (word : Bytes) : Option Nat :=
  (numbered? word).or <| (List.range signalCount).find? fun n =>
    least ≤ n && Bytes.toAsciiLower (signalName n) == Bytes.toAsciiLower word

/-- The lines that show what is done on signals. -/
private def shownTraps (traps : List (Nat × Bytes)) : Bytes :=
  (List.range signalCount).flatMap fun n =>
    match traps.lookup n with
    | none => []
    | some action => str "trap -- " ++ Variables.quoted action ++ [32] ++ signalName n ++ [10]

/-- Sets or takes away what is done on signals. -/
private def setTraps (action : Option Bytes) : List Bytes → Run Nat
  | [] => return 0
  | word :: rest => do
    match signal? 0 word with
    | none =>
      let _ ← say 2 (str "trap: " ++ word ++ str ": bad trap\n")
      return 1
    | some signal =>
      modify fun state =>
        let others := state.traps.filter fun trap => trap.1 != signal
        { state with traps := (action.map fun action => (signal, action)).toList ++ others }
      setTraps action rest

/-- Sets, takes away or shows what is done on signals. -/
def trap : Builtin := fun arguments => do
  let (_, arguments) ← Options.read "" arguments
  match arguments with
  | [] => put (shownTraps (← get).traps)
  | first :: rest =>
    if rest.isEmpty || (numbered? first).isSome then setTraps none arguments
    else setTraps (if first = str "-" then none else some first) rest

private def usage {α : Type} : Run α :=
  fail (str
    "Usage: kill [-s sigspec | -signum | -sigspec] [pid | job]... or\nkill -l [exitstatus]")

/-- Lists the names of signals, or gives that of one. -/
private def listSignals (arguments : List Bytes) : Run Nat := do
  match arguments with
  | [] =>
    put (str "0\n" ++ (List.range signalCount).tail.flatMap fun n => signalName n ++ [10])
  | argument :: _ =>
    let n ← number argument
    let n := if 128 < n then n - 128 else n
    if 0 < n ∧ n < signalCount then put (signalName n ++ [10])
    else fail (str "invalid signal number or exit status: " ++ argument)

/-- Whether a process takes no notice of a signal. -/
private def ignores (ignored : List Signal) (signal : Nat) : Bool :=
  ignored.any fun other => other.number == signal

/-- Lets a signal arrive at the process itself. One that ends it does so at once. -/
private def signalSelf (signal : Nat) : Run Unit := do
  let state ← get
  let caught := state.traps.any fun trap => trap.1 == signal
  match Reaction.of signal with
  | .kill =>
    if signal = Signal.kill.number || !(caught || ignores state.process.ignored signal) then
      throw (.gone (.killed signal))
  | _ => pure ()
  set { state with machine := state.machine.post state.process.pid signal }

/-- Lets a signal arrive at a job. One that ends it keeps it from running. -/
private def signalJob (signal : Nat) (job : Job) : Run Unit := do
  let state ← get
  let ignored := state.process.ignored ++ [.int, .quit]
  match Reaction.of signal with
  | .kill =>
    if signal = Signal.kill.number || !ignores ignored signal then
      set { state with
        jobs := state.jobs.map fun (other : Job) =>
          if other.pid = job.pid then { other with ending := some (.killed signal) } else other }
  | _ => set { state with machine := state.machine.post job.pid signal }

/-- Sends a signal to a process. Tells whether there is one. -/
private def send (signal pid : Nat) : Run Bool := do
  let state ← get
  if pid = 0 || pid = state.process.pid then
    if signal ≠ 0 then signalSelf signal
    return true
  match state.jobs.find? fun job => job.pid == pid && job.ending.isNone with
  | some job =>
    if signal ≠ 0 then signalJob signal job
    return true
  | none =>
    if [1, state.process.parent, state.root].contains pid then
      if signal ≠ 0 then set { state with machine := state.machine.post pid signal }
      return true
    else return false

private def sendAll (signal status : Nat) : List Bytes → Run Nat
  | [] => return status
  | target :: rest => do
    let sent ← match target with
      | 37 :: _ => do
        let _ ← Job.find target
        pure false
      | 45 :: group => do
        let _ ← number group
        pure false
      | _ => do send signal (← number target)
    if sent then sendAll signal status rest
    else
      complain (str "No such process\n")
      sendAll signal 1 rest

/-- The signal that options ask for, and whether they ask for a list. -/
private def readSignal (signal : Option Nat) (lists : Bool) : List Options.Given →
    Run (Option Nat × Bool)
  | [] => return (signal, lists)
  | option :: rest => do
    if option.letter = 108 then readSignal signal true rest
    else match signal? 1 option.argument with
      | some signal => readSignal (some signal) lists rest
      | none => fail (str "invalid signal number or name: " ++ option.argument)

/-- Sends a signal to processes, or lists signals. -/
def kill : Builtin := fun arguments => do
  let (signal, lists, targets) : Option Nat × Bool × List Bytes ← match arguments with
    | (45 :: word) :: rest =>
      match signal? 1 word with
      | some signal => pure (some signal, false, rest)
      | none => do
        let (given, rest) ← Options.read "ls:" arguments
        let (signal, lists) ← readSignal none false given
        pure (signal, lists, rest)
    | _ => pure (none, false, arguments)
  if lists then
    if signal.isSome then usage else listSignals targets
  else if targets.isEmpty then usage
  else sendAll (signal.getD Signal.term.number) 0 targets

end LineShell.Script.Builtin
