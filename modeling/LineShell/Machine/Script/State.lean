import LineShell.Machine.Script.Reader
import LineShell.Machine.Script.Variable
import LineShell.Machine.Tool.Programs
/-!
# The state of a script

A script runs as a process of the machine. Beside the process it has positional parameters,
variables, functions, traps and the status of its last command. `Script.Run` is what a part of a
script does to that state; it can be left early by a failure, an exit, a jump out of a loop or a
signal.
-/

namespace LineShell.Script

/-- The bytes of a word or message that the interpreter knows. -/
def str (text : String) : Bytes := Bytes.ofString text

/-- A command in the background. It runs when it is waited for, or when its script ends. -/
structure Job where
  number : Nat
  pid : Nat
  work : Machine → Ending × Machine
  /-- How it ended, once it has run. -/
  ending : Option Ending
  /-- Whether the script knows that it has ended. -/
  noticed : Bool
  /-- Whether its ending has been asked for, so that it can be forgotten. -/
  waited : Bool

/-- The ways in which a script can be run differently. -/
inductive Mode where
  | errexit | noglob | ignoreeof | interactive | monitor | noexec | stdin | xtrace | verbose | vi
  | emacs | noclobber | allexport | notify | nounset | privileged | nolog | debug
  deriving DecidableEq

namespace Mode

/-- Every mode, with its name and its letter. -/
def all : List (Mode × String × Option Char) :=
  [(.errexit, "errexit", some 'e'), (.noglob, "noglob", some 'f'),
    (.ignoreeof, "ignoreeof", some 'I'), (.interactive, "interactive", some 'i'),
    (.monitor, "monitor", some 'm'), (.noexec, "noexec", some 'n'), (.stdin, "stdin", some 's'),
    (.xtrace, "xtrace", some 'x'), (.verbose, "verbose", some 'v'), (.vi, "vi", some 'V'),
    (.emacs, "emacs", some 'E'), (.noclobber, "noclobber", some 'C'),
    (.allexport, "allexport", some 'a'), (.notify, "notify", some 'b'),
    (.nounset, "nounset", some 'u'), (.privileged, "privileged", some 'p'),
    (.nolog, "nolog", none), (.debug, "debug", none)]

def ofLetter? (letter : UInt8) : Option Mode :=
  (all.find? fun entry => entry.2.2.map Char.toNat == some letter.toNat).map Prod.fst

def ofName? (name : Bytes) : Option Mode :=
  (all.find? fun entry => str entry.2.1 == name).map Prod.fst

end Mode

/-- What is put back when a function ends: the variables that it made its own as they were before,
the last one first, and the modes if it made them its own. -/
structure Frame where
  bindings : List (Bytes × Option Variable)
  modes : Option (List Mode)

/-- Where the reading of options from parameters stands: the number of the next word, and how much
of the word in front of it has been read. -/
structure OptionPlace where
  word : Nat
  offset : Option Nat

def OptionPlace.first : OptionPlace := ⟨1, none⟩

structure State where
  machine : Machine
  process : Process
  /-- The name that the script was started under. -/
  name : Bytes
  /-- The number of the process that the script was started as. Parts of it that run in processes
  of their own share it. -/
  root : Nat
  parameters : List Bytes
  optionPlace : OptionPlace
  bindings : Variables
  /-- What is put back at the end of each function that runs, the innermost first. -/
  frames : List Frame
  functions : List (Bytes × Command)
  aliases : List (Bytes × Bytes)
  /-- The programs that have been found by their names. -/
  found : List (Bytes × Bytes)
  /-- The texts within the script that redirections refer to. -/
  documents : Array Word
  /-- What is done on a signal, and under the number 0 at the end. -/
  traps : List (Nat × Bytes)
  status : Nat
  /-- While a trap runs, the status that the script had before. -/
  beforeTrap : Option Nat
  /-- The status of the last command that wrote into the running command, if there was one. -/
  inner : Nat
  /-- The line of the running command. -/
  line : Nat
  /-- The line up to which the script has been read. -/
  readLine : Nat
  /-- The command of the interpreter that runs. Failures inside it are its own. -/
  acting : Option Bytes
  /-- The path of the working directory as the script has come to it, empty if it has none. -/
  here : Bytes
  /-- How many loops run. -/
  loops : Nat
  jobs : List Job
  lastJob : Option Nat
  modes : List Mode
  /-- Whether the status of the running command is being tested. -/
  tested : Bool
  /-- Whether a text in front of traced commands is being expanded. -/
  tracing : Bool
  /-- The status words of the stops so far. -/
  stops : List Nat

/-- Why a part of a script is left early. -/
inductive Halt where
  /-- A failure, which has been reported. -/
  | failed
  | exit (code : Nat)
  /-- The process ends at once, without its traps. -/
  | gone (ending : Ending)
  | leave (loops : Nat)
  | again (loops : Nat)
  | returned (code : Nat)

abbrev Run (α : Type) := ExceptT Halt (StateM State) α

/-- What can be asked of an interpreter. If it is the last thing that its process does, the process
can end with it. -/
inductive Task where
  | command (command : Command) (last : Bool)
  /-- To run a text. The lines of one that comes from a file are shown if that is asked for. -/
  | source (text : Bytes) (last fromFile : Bool)

/-- An interpreter gives a status for a task. -/
abbrev Interpreter := Task → Run Nat

def Interpreter.run (interpreter : Interpreter) (command : Command) : Run Nat :=
  interpreter (.command command false)

def Interpreter.runText (interpreter : Interpreter) (text : Bytes) : Run Nat :=
  interpreter (.source text false false)

def statusOf : Ending → Nat
  | .exited code => code % 256
  | .killed signal => 128 + signal

namespace State

/-- Whether a script is run in a mode. -/
def isIn (state : State) (mode : Mode) : Bool :=
  state.modes.contains mode

def modeLetters (state : State) : Bytes :=
  Mode.all.reverse.filterMap fun entry =>
    if state.isIn entry.1 then entry.2.2.map fun letter => letter.toNat.toUInt8 else none

def lookup? (state : State) (name : Bytes) : Option Bytes :=
  state.bindings.value? name

/-- The value of a parameter, a special one, a positional one or a variable. -/
def value? (state : State) (name : Bytes) : Option Bytes :=
  match name with
  | [35] => some (Bytes.ofNat state.parameters.length)
  | [63] => some (Bytes.ofNat state.status)
  | [36] => some (Bytes.ofNat state.root)
  | [33] => state.lastJob.map Bytes.ofNat
  | [45] => some state.modeLetters
  | _ =>
    match Bytes.toNat? name with
    | some 0 => some state.name
    | some n => state.parameters[n - 1]?
    | none => state.lookup? name

end State

def say (descriptor : Nat) (bytes : Bytes) : Run (Except Errno Unit) := do
  let state ← get
  let (result, machine) := state.process.write descriptor bytes state.machine
  set { state with machine }
  return result

/-- Reports a failure: the name of the script, the line, the running command of the interpreter, and
what went wrong. -/
def complain (detail : Bytes) : Run Unit := do
  let state ← get
  let own := state.name ++ str ": " ++ Bytes.ofNat state.line ++ str ": "
  let _ ← say 2 (own ++ ((state.acting.map (· ++ str ": ")).getD []) ++ detail ++ [10])

def fail {α : Type} (detail : Bytes) : Run α := do
  complain detail
  modify fun state => { state with status := 2 }
  throw .failed

/-- Gives up because the script cannot be read. -/
def failReading {α : Type} (line : Nat) (reason : Bytes) : Run α := do
  modify fun state => { state with line }
  fail (str "Syntax error: " ++ reason)

def checkChange (name : Bytes) : Run Unit := do
  if (← get).bindings.isFixed name then fail (name ++ str ": is read only")

/-- The state after a change of a variable: a new search path makes the interpreter forget the
programs it found, and a new number of the next option starts the reading of options anew. -/
def State.noticing (name : Bytes) (state : State) : State :=
  if name = str "PATH" then { state with found := [] }
  else if name = str "OPTIND" then
    let word := ((state.lookup? name).bind Bytes.toNat?).getD 0
    { state with optionPlace := ⟨if word = 0 then 1 else word, none⟩ }
  else state

def changeVariable (name : Bytes) (change : Variable → Variable) : Run Unit := do
  checkChange name
  modify fun state => State.noticing name { state with
    bindings := state.bindings.change name fun held =>
      let changed := change held
      { changed with exported := changed.exported || state.isIn .allexport } }

def setVariable (name value : Bytes) : Run Unit :=
  changeVariable name fun held => { held with value := some value }

/-- Checks that a text can be the name of a variable. -/
def checkName (name : Bytes) : Run Unit := do
  if !isName name then fail (name ++ str ": bad variable name")

/-- Remembers what a variable is, to be put back when the running function ends. -/
def shadow (name : Bytes) : Run Unit :=
  modify fun state =>
    match state.frames with
    | [] => state
    | frame :: frames =>
      let former := state.bindings.lookup name
      { state with frames := { frame with bindings := (name, former) :: frame.bindings } :: frames }

/-- Puts back what has been remembered. -/
def unwind : Run Unit :=
  modify fun state =>
    match state.frames with
    | [] => state
    | frame :: frames =>
      frame.bindings.foldl
        (fun state (name, former) =>
          State.noticing name { state with bindings := state.bindings.restore name former })
        { state with frames, modes := frame.modes.getD state.modes }

/-- Does something, and then something else, however the first ends. -/
def thenAlways {α : Type} (work : Run α) (after : Run Unit) : Run α := do
  try
    let value ← work
    after
    return value
  catch halt =>
    after
    throw halt

/-- Does something in a frame, so that the changes to variables that are remembered do not outlast
it. -/
def inFrame {α : Type} (work : Run α) : Run α := do
  modify fun state => { state with frames := ⟨[], none⟩ :: state.frames }
  thenAlways work unwind

/-- Does something as a command of the interpreter. -/
def actingAs {α : Type} (command : Option Bytes) (work : Run α) : Run α := do
  let acting := (← get).acting
  modify fun state => { state with acting := command }
  thenAlways work (modify fun state => { state with acting })

/-- Does something with the status of the running command tested or not. -/
def testing {α : Type} (tested : Bool) (work : Run α) : Run α := do
  let before := (← get).tested
  modify fun state => { state with tested }
  thenAlways work (modify fun state => { state with tested := before })

end LineShell.Script
