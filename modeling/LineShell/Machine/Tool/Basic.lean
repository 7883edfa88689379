import LineShell.Launch.Basic
import LineShell.Machine.Process
/-!
# What a program does

A program is called by a name, as a process, with arguments. It leaves an exit code and a changed
machine. Its messages start with the name it was called by, and are in the plain locale. If its
output cannot be written, it goes on, and tells so at its end.
-/

namespace LineShell

inductive Ending where
  | exited (code : Nat)
  /-- The process was killed by the signal with this number. -/
  | killed (signal : Nat)
  deriving DecidableEq

/-- The status word of a process that ended. -/
def Ending.word : Ending → Nat
  | .exited code => WaitStatus.exitWord code
  | .killed signal => WaitStatus.killWord signal

namespace Tool

/-- The call of a program: the process that it is, and the name that it was called by. -/
structure Call where
  process : Process
  name : Bytes

/-- How far a program has come: the machine, and why output was lost, if some was. -/
structure Progress where
  machine : Machine
  lost : Option Errno

/-- What a program does: it acts on the machine as a process of its own, and can end at any point
with an exit code. -/
abbrev Work (α : Type) := ExceptT Nat (ReaderT Call (StateM Progress)) α

def text (text : String) : Bytes := Bytes.ofString text

def act {α : Type} (change : Process → Machine → α × Machine) : Work α := do
  let call ← read
  let progress ← get
  let (result, machine) := change call.process progress.machine
  set { progress with machine }
  return result

def look {α : Type} (view : Process → Machine → α) : Work α := do
  return view (← read).process (← get).machine

/-- Writes to an open file of the process. -/
def say (descriptor : Nat) (bytes : Bytes) : Work (Except Errno Unit) :=
  act fun process => process.write descriptor bytes

/-- Writes to the standard output. That the output is lost is told at the end. -/
def put (bytes : Bytes) : Work Unit := do
  if bytes.isEmpty then return
  match ← say 1 bytes with
  | .ok () => return
  | .error errno => modify fun progress => { progress with lost := some errno }

def putLine (line : Bytes) : Work Unit := put (line ++ [10])

/-- Reports a failure: the name of the program and what went wrong. -/
def fail (message : Bytes) : Work Unit := do
  let _ ← say 2 ((← read).name ++ text ": " ++ message ++ [10])

/-- Reports that something could not be done, for a reason of the system. -/
def failFor (message : Bytes) (errno : Errno) : Work Unit :=
  fail (message ++ text ": " ++ errno.libraryText)

/-- Tries to change the machine, and gives the error if that fails. -/
def attempt (change : Process → Machine → Except Errno Machine) : Work (Option Errno) :=
  act fun process machine =>
    match change process machine with
    | .ok machine => (none, machine)
    | .error errno => (some errno, machine)

/-- Does some work for each of some things. The exit code is the greatest of all. -/
def forAll {α : Type} (things : List α) (work : α → Work Nat) : Work Nat :=
  things.foldlM (fun code thing => return max code (← work thing)) 0

/-- Reports what went wrong, and ends the program. -/
def die {α : Type} (code : Nat) (message : Bytes) : Work α := do
  fail message
  throw code

private def readLine : Work Bytes :=
  act fun process machine =>
    match process.descriptors.lookup 0 with
    | none => ([], machine)
    | some file =>
      match machine.rest file with
      | .error _ => ([], machine)
      | .ok rest =>
        let line := rest.toList.takeWhile (· != 10)
        (line, (machine.read file (line.length + 1)).2)

/-- Asks a question, which a line that starts with a y says yes to. -/
def ask (question : Bytes) : Work Bool := do
  let _ ← say 2 ((← read).name ++ text ": " ++ question ++ text "? ")
  let answer ← readLine
  return answer.head? == some 121 || answer.head? == some 89

/-- Does some work from its start to its end. If output was lost, that is reported, and the exit
code is that of a failure. -/
def perform {α : Type} (failure : Nat) (work : Work α) (call : Call) (machine : Machine) :
    Except Nat α × Machine :=
  let ended : Work α := do
    let result ← tryCatch (Except.ok <$> work) (fun code => return .error code)
    match (← get).lost, result with
    | some errno, _ =>
      failFor (text "write error") errno
      throw failure
    | none, .ok value => return value
    | none, .error code => throw code
  let (result, progress) := (ended.run.run call).run ⟨machine, none⟩
  (result, progress.machine)

end Tool

end LineShell
