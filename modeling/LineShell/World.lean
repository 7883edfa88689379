import LineShell.Act
/-!
# The world of a shell

What the shell needs of its surroundings: channels that take messages, a host that changes the
working directory and launches programs, and a log that wants some entries and not others. Any type
can be the world that offers these. Of a channel it is only asked that it accepts a first part of a
message, and all of it exactly if it reports no failure; of a launch, that the host leaves none of
the shell's own events.
-/

namespace LineShell

/-- A log: which entries it wants, and what keeping one does to the world. -/
class Logger (ω : Type) where
  wants : Log.Entry → ω → Bool
  keep : Log.Entry → ω → ω

/-- How far a message got: the bytes accepted, and the failure that kept the rest back. -/
structure Delivery where
  accepted : Bytes
  failure : Option IoError
  deriving DecidableEq, Repr

/-- The surroundings of a shell. -/
class World (ω : Type) extends Logger ω where
  /-- Writes a message to a channel, until all is accepted or the channel fails. -/
  deliver : Sink → Bytes → ω → Delivery × ω
  /-- Pushes on what a channel still holds. -/
  flush : Sink → ω → Option IoError × ω
  /-- Changes the working directory. -/
  changeDirectory : Bytes → ω → Option IoError × ω
  /-- Launches a program with these arguments, its name first, and waits for its end. -/
  launch : List Bytes → Act ω (Except LaunchError Completion)
  deliver_accepted : ∀ sink message world, (deliver sink message world).1.accepted <+: message
  deliver_failure : ∀ sink message world,
    (deliver sink message world).1.failure = none ↔ (deliver sink message world).1.accepted = message
  launch_events : ∀ arguments world, ∀ event ∈ (launch arguments world).events, event.isOfLaunch

namespace Act

variable {ω : Type}

/-- Logs an entry if the log wants it. -/
def log [Logger ω] (entry : Log.Entry) : Act ω Unit := fun world =>
  if Logger.wants entry world then ⟨(), [.log entry], Logger.keep entry world⟩ else ⟨(), [], world⟩

def logAll [Logger ω] (entries : List Log.Entry) : Act ω Unit :=
  entries.forM log

variable [World ω]

/-- Writes one message to a channel. The result is the failure, if there is one. -/
def send (sink : Sink) (message : Bytes) : Act ω (Option IoError) := fun world =>
  let (delivery, world') := World.deliver sink message world
  match delivery.failure with
  | none => ⟨none, [.wrote sink delivery.accepted], world'⟩
  | some error => ⟨some error, [.wrote sink delivery.accepted, .writeFailed sink error], world'⟩

/-- Writes messages to a channel, one after the other, until one fails. -/
def sendAll (sink : Sink) : List Bytes → Act ω (Option IoError)
  | [] => pure none
  | message :: rest => do
    match ← send sink message with
    | none => sendAll sink rest
    | some error => return some error

/-- Flushes a channel. The result is the failure, if there is one. -/
def flush (sink : Sink) : Act ω (Option IoError) := fun world =>
  match World.flush sink world with
  | (none, world') => ⟨none, [.flushed sink], world'⟩
  | (some error, world') => ⟨some error, [.flushFailed sink error], world'⟩

def changeDirectory (target : Bytes) : Act ω (Option IoError) := do
  emit (.changeDirectory target)
  update (World.changeDirectory target)

def launch (arguments : List Bytes) : Act ω (Except LaunchError Completion) := do
  emit (.launch arguments)
  World.launch arguments

/-- Writes a diagnostic: the name of the program, the message and a line end. -/
def complain (message : Bytes) : Act ω (Option IoError) :=
  sendAll .error [programName, Bytes.ofString ": ", message, Bytes.ofString "\n"]

end Act

end LineShell
