import LineShell.Launch.Native
import LineShell.Log.Filter
import LineShell.Machine.LineBuffer
import LineShell.Machine.Script.Interpreter
/-!
# The station

A shell that runs as a process of a machine. Its standard output is buffered by lines and takes the
prompts too, its error output is written at once, and what it has read ahead of its standard input
is kept. Programs are launched as processes of the same machine. A filter chooses the log entries,
which are printed to the error output if the shell has a clock to date them.

A machine is a place for a shell to run on, and no part of the shell, which needs some world only. What
holds in every world holds on a station, and nothing is stated of the machine itself: it behaves as far
as native runs can show like a kernel with a command interpreter and the usual programs.
-/

namespace LineShell

/-- A shell as a process of a machine. -/
structure Station where
  machine : Machine
  process : Process
  /-- What the standard output still holds. -/
  held : Bytes
  /-- What has been read of the standard input and not been used. -/
  ahead : Bytes
  filter : Log.Filter
  /-- The time that log lines show, if they are printed. -/
  clock : Option Bytes
  /-- Whether a log line could not be printed. -/
  logFailed : Bool

namespace Station

/-- Writes to one of the open files of the shell. -/
def write (descriptor : Nat) : LineBuffer.Writer Station := fun bytes station =>
  let (result, machine) := station.process.write descriptor bytes station.machine
  match result with
  | .ok () => (none, { station with machine })
  | .error errno => (some (.system errno), { station with machine })

/-- Writes to the error output, which holds nothing back. -/
def writeError (message : Bytes) (station : Station) : Delivery × Station :=
  if message = [] then (⟨[], none⟩, station)
  else match station.write 2 message with
    | (none, station) => (⟨message, none⟩, station)
    | (some error, station) => (⟨[], some error⟩, station)

def writeOutput (message : Bytes) (station : Station) : Delivery × Station :=
  let (delivery, step) := LineBuffer.deliver (write 1) message station.held station
  (delivery, { step.world with held := step.held })

def flushOutput (station : Station) : Option IoError × Station :=
  let step := LineBuffer.drain (write 1) station.held station
  (step.failure, { step.world with held := step.held })

/-- Whether log lines are coloured: unless a variable for that is set and is not empty. -/
def colours (station : Station) : Bool :=
  match station.process.value? (Bytes.ofString "NO_COLOR") with
  | none => true
  | some value => value.isEmpty || !Utf8.isValid value

/-- Keeps a log entry: prints it, if the shell has a clock. -/
def keep (entry : Log.Entry) (station : Station) : Station :=
  match station.clock with
  | none => station
  | some time =>
    let (delivery, after) := station.writeError (entry.line ⟨time, station.colours⟩)
    { after with logFailed := station.logFailed || delivery.failure.isSome }

def changeDirectory (target : Bytes) (station : Station) : Option IoError × Station :=
  if target.contains 0 then (some .nulInPath, station)
  else match station.machine.tree.resolve station.process.directory target true with
    | .error errno => (some (.system errno), station)
    | .ok directory =>
      if station.machine.tree.isDirectory directory then
        (none, { station with process := { station.process with directory } })
      else (some (.system .notDirectory), station)

instance : Logger Station where
  wants entry station := station.filter.keeps entry
  keep := keep

def fork (station : Station) : Except Errno Nat × Station :=
  let (pid, machine) := station.machine.newPid
  (.ok pid, { station with machine })

/-- Lets a child run a program. If it cannot, it says so and exits. -/
def life (pid : Nat) (prepared : Prepared) (station : Station) :
    List (Except Errno Nat) × Station :=
  let child := { station.process with pid, parent := station.process.pid }
  match Image.find station.machine child prepared.arguments with
  | .ok image =>
    let ran := Script.runProcess child image station.machine
    ((ran.stops ++ [ran.ending.word]).map .ok, { station with machine := ran.machine })
  | .error errno =>
    let report := [prepared.failureHead, errno.description, Bytes.ofString "\n"]
    let station := report.foldl (fun station part => (station.writeError part).2) station
    ([.ok (WaitStatus.exitWord 1)], station)

instance : Kernel Station where
  fork := fork
  life := life

/-- Writes a message to one of the channels. Prompts go to the standard output. -/
def deliver : Sink → Bytes → Station → Delivery × Station
  | .error => writeError
  | .output | .prompt => writeOutput

def flush : Sink → Station → Option IoError × Station
  | .error => fun station => (none, station)
  | .output | .prompt => flushOutput

private theorem writeError_accepted (message : Bytes) (station : Station) :
    (station.writeError message).1.accepted <+: message := by
  unfold writeError
  split
  · exact List.nil_prefix
  · split
    · exact List.prefix_refl _
    · exact List.nil_prefix

private theorem writeError_failure (message : Bytes) (station : Station) :
    (station.writeError message).1.failure = none ↔
      (station.writeError message).1.accepted = message := by
  unfold writeError
  split
  · rename_i hempty
    simp [hempty]
  · rename_i hmessage
    split
    · simp
    · simpa using hmessage

instance : World Station where
  deliver := deliver
  flush := flush
  changeDirectory := changeDirectory
  launch := Kernel.launch
  deliver_accepted sink message station := by
    cases sink
    · exact LineBuffer.deliver_accepted (write 1) message station.held station
    · exact writeError_accepted message station
    · exact LineBuffer.deliver_accepted (write 1) message station.held station
  deliver_failure sink message station := by
    cases sink
    · exact LineBuffer.deliver_failure (write 1) message station.held station
    · exact writeError_failure message station
    · exact LineBuffer.deliver_failure (write 1) message station.held station
  launch_events := Kernel.launch_events

end Station

end LineShell
