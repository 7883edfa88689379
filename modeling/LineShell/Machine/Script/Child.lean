import LineShell.Machine.Script.State
/-!
# Processes and signals of a script

Parts of a script run in processes of their own, at once or in the background. Signals that are sent
to the process of a script arrive between its commands; a trap can catch them, and one that is not
caught may end the process.
-/

namespace LineShell.Script

/-- The text of a signal that killed a program. -/
def killText (signal : Nat) : Bytes :=
  match Signal.ofNumber? signal with
  | some .hup => str "Hangup"
  | some .int => str "Interrupt"
  | some .quit => str "Quit"
  | some .ill => str "Illegal instruction"
  | some .trap => str "Trace/breakpoint trap"
  | some .abrt => str "Aborted"
  | some .bus => str "Bus error"
  | some .fpe => str "Floating point exception"
  | some .kill => str "Killed"
  | some .usr1 => str "User defined signal 1"
  | some .segv => str "Segmentation fault"
  | some .usr2 => str "User defined signal 2"
  | some .pipe => str "Broken pipe"
  | some .alrm => str "Alarm clock"
  | some .term => str "Terminated"
  | some .stkflt => str "Stack fault"
  | some .xcpu => str "CPU time limit exceeded"
  | some .xfsz => str "File size limit exceeded"
  | some .vtalrm => str "Virtual timer expired"
  | some .prof => str "Profiling timer expired"
  | some .io => str "I/O possible"
  | some .pwr => str "Power failure"
  | some .sys => str "Bad system call"
  | some signal => signal.name
  | none => str "Real-time signal " ++ Bytes.ofNat (signal - 34)

def announce (ending : Ending) : Run Unit := do
  match ending with
  | .exited _ => return
  | .killed signal =>
    if signal ≠ Signal.int.number ∧ signal ≠ Signal.pipe.number then
      let _ ← say 2 (killText signal ++ [10])

/-- What to do when no signal is caught: nothing, to stop, or to be killed. -/
inductive Reaction where
  | pass
  | stop
  | kill

/-- What a signal does to a process that does not catch it. -/
def Reaction.of (signal : Nat) : Reaction :=
  match Signal.ofNumber? signal with
  | some .chld | some .cont | some .urg | some .winch => .pass
  | some .stop | some .tstp | some .ttin | some .ttou => .stop
  | _ => .kill

def receive (interpreter : Interpreter) (signal : Nat) : Run Unit := do
  let state ← get
  let caught := signal != Signal.kill.number && signal != Signal.stop.number
  if caught && state.process.ignored.any fun ignored => ignored.number == signal then return
  match if caught then state.traps.lookup signal else none with
  | some action =>
    if action.isEmpty then return
    let status := state.beforeTrap.getD state.status
    modify fun state => { state with beforeTrap := some status }
    let _ ← thenAlways (testing false (interpreter.runText action))
      (modify fun after => { after with beforeTrap := state.beforeTrap })
    modify fun after => { after with status }
  | none =>
    match Reaction.of signal with
    | .pass => return
    | .stop => set { state with stops := state.stops ++ [WaitStatus.stopWord signal] }
    | .kill => throw (.gone (.killed signal))

/-- Receives the signals that have arrived, in the order of their numbers. -/
def receiveAll (interpreter : Interpreter) : Run Unit := do
  let state ← get
  if state.machine.posted.isEmpty then return
  let (signals, machine) := state.machine.arrived state.process.pid
  set { state with machine }
  (signals.mergeSort fun a b => decide (a ≤ b)).forM (receive interpreter)

/-- Lets a background command run, if it has not run yet. -/
private def runJob (machine : Machine) (job : Job) : Job × Machine :=
  match job.ending with
  | some _ => (job, machine)
  | none =>
    let (ending, machine) := job.work machine
    ({ job with ending := some ending }, machine)

/-- The lowest number that is free for a job. A job whose ending has been asked for gives up its
number. -/
def State.freeNumber (state : State) : Nat × State :=
  let isOver (job : Job) : Bool := job.waited && job.ending.isSome
  let held := (state.jobs.filter (!isOver ·)).map Job.number
  let number := ((List.range (state.jobs.length + 1)).find? fun n => !held.contains (n + 1)).getD 0 + 1
  (number, { state with jobs := state.jobs.filter fun job => job.number != number })

/-- Lets background commands run, those that are chosen. -/
def runJobs (chosen : Job → Bool) : Run Unit :=
  modify fun state =>
    let (jobs, machine) := state.jobs.foldl
      (fun (done : List Job × Machine) job =>
        let (job, machine) := if chosen job then runJob done.2 job else (job, done.2)
        (done.1 ++ [job], machine))
      ([], state.machine)
    { state with jobs, machine }

/-- Ends a script: its trap for the end is run, and then what it left in the background. -/
def finish (interpreter : Interpreter) (result : Except Halt Nat) : Run Ending := do
  let ending ← match result with
    | .ok code | .error (.exit code) | .error (.returned code) => atEnd code
    | .error .failed => atEnd 2
    | .error (.gone ending) => pure ending
    | .error (.leave _) | .error (.again _) => atEnd (← get).status
  runJobs fun _ => true
  return ending
where
  /-- Runs the trap for the end. -/
  atEnd (code : Nat) : Run Ending := do
    let state ← get
    match state.traps.lookup 0 with
    | none => return .exited code
    | some action =>
      set { state with
        traps := state.traps.filter fun trap => trap.1 != 0
        status := code, beforeTrap := some code, tested := false, acting := none, loops := 0 }
      try
        let _ ← interpreter.runText action
        return .exited code
      catch
        | .exit code => return .exited code
        | .failed => return .exited 2
        | .gone ending => return ending
        | _ => return .exited code

/-- How a part of a script that ran in a process of its own ended. -/
structure Ran where
  ending : Ending
  stops : List Nat
  machine : Machine

/-- Runs a script from a state to its end. -/
def runToEnd (interpreter : Interpreter) (state : State) (work : Run Nat) : Ran :=
  let (result, state) := work.run.run state
  let (ending, state) := (finish interpreter result).run.run state
  match ending with
  | .ok ending => ⟨ending, state.stops, state.machine⟩
  | .error _ => ⟨.exited state.status, state.stops, state.machine⟩

/-- The state for a part of a script in a process of its own. Traps are not handed down, but what
was ignored stays ignored. -/
def State.forked (state : State) (pid : Nat) (machine : Machine) : State :=
  let ignored := state.traps.filter fun trap => trap.2.isEmpty
  { state with
    machine
    process := { state.process with
      pid, parent := state.process.pid
      ignored := state.process.ignored ++
        ignored.filterMap fun trap => Signal.ofNumber? trap.1 }
    traps := ignored
    jobs := []
    stops := [] }

/-- A child of the process has ended, and others that ended before are noticed with it. The process
is told if a trap waits for that. -/
private def childEnded : Run Unit :=
  modify fun state =>
    let state := { state with
      jobs := state.jobs.map fun (job : Job) =>
        { job with noticed := job.noticed || job.ending.isSome } }
    let signal := Signal.chld.number
    if (state.traps.lookup signal).isSome then
      { state with machine := state.machine.post state.process.pid signal }
    else state

/-- Runs a part of a script in a process of its own, which is changed before, and waits for it. -/
def inChildAs (interpreter : Interpreter) (change : Process → Process) (work : Run Nat) :
    Run Ending := do
  modify fun state => state.freeNumber.2
  let state ← get
  let (pid, machine) := state.machine.newPid
  let child := state.forked pid machine
  let ran := runToEnd interpreter { child with process := change child.process } work
  set { state with machine := ran.machine }
  childEnded
  announce ran.ending
  return ran.ending

/-- Runs a part of a script in a process of its own, and waits for it. -/
def inChild (interpreter : Interpreter) (work : Run Nat) : Run Nat := do
  return statusOf (← inChildAs interpreter id work)

end LineShell.Script
