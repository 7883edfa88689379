import LineShell.Machine.Script.Simple
/-!
# The interpreter

Commands are run by a function that is given an interpreter for the commands inside them. The
interpreter of a depth is that function over the interpreter of the depth below, and one of no depth
gives up, so every script comes to an end.
-/

namespace LineShell.Script

/-- Runs something while its status is tested, so that a failure does not end the script. -/
private def whileTested (work : Run Nat) : Run Nat := testing true work

/-- Takes note of the line of a command. -/
private def noteLine (line : Nat) : Run Unit :=
  modify fun state => { state with line }

/-- Runs commands that are joined by pipes, one after the other. -/
private def runPipeline (interpreter : Interpreter) (input : Option Nat) : List Command → Run Nat
  | [] => return (← get).status
  | command :: rest => do
    let state ← get
    let (file, machine) := state.machine.openNameless (.file 0o600 .empty)
    set { state with machine }
    let connect (process : Process) : Process :=
      let process := match input with
        | none => process
        | some input => process.assign 0 input
      if rest.isEmpty then process else process.assign 1 file
    let ending ← inChildAs interpreter connect (interpreter (.command command true))
    if rest.isEmpty then return statusOf ending
    else
      let state ← get
      let node := ((state.machine.files[file]?).map OpenFile.node).getD 0
      let (input, machine) := state.machine.openNode node false
      set { state with machine }
      runPipeline interpreter (some input) rest

/-- Puts a command into the background. It reads nothing, and is not interrupted. -/
private def runBehind (interpreter : Interpreter) (command : Command) : Run Nat := do
  let (number, state) := (← get).freeNumber
  let (pid, machine) := state.machine.newPid
  let (empty, machine) := machine.openNameless .null
  let work (machine : Machine) : Ending × Machine :=
    let child := state.forked pid machine
    let process := child.process.assign 0 empty
    let process := { process with ignored := .int :: .quit :: process.ignored }
    let ran := runToEnd interpreter { child with process, tested := false }
      (interpreter (.command command true))
    (ran.ending, ran.machine)
  let job : Job := { number, pid, work, ending := none, noticed := false, waited := false }
  set { state with machine, lastJob := some pid, jobs := state.jobs ++ [job] }
  return 0

/-- Runs commands in a process of their own, or in this one if it has nothing more to do. -/
private def runSubshell (interpreter : Interpreter) (last : Bool) (body : Command)
    (redirections : List Redirection) : Run Nat := do
  let targets ← Redirection.expandAll interpreter redirections
  let work : Run Nat := do
    Redirection.carryOutAll interpreter targets
    interpreter (.command body true)
  if last && (← get).traps.all fun trap => trap.2.isEmpty then work else inChild interpreter work

private def inLoop (work : Run Nat) : Run Nat := do
  let loops := (← get).loops
  modify fun state => { state with loops := loops + 1 }
  thenAlways work (modify fun state => { state with loops })

private inductive Round where
  | done (status : Nat)
  /-- The next round follows. -/
  | skipped
  /-- No round follows. -/
  | left

/-- Runs a part of a loop. A jump that leaves more than one loop goes on to the next. -/
private def round (work : Run Nat) : Run Round := do
  try return .done (← work)
  catch
    | .leave loops => if loops ≤ 1 then return .left else throw (.leave (loops - 1))
    | .again loops => if loops ≤ 1 then return .skipped else throw (.again (loops - 1))
    | halt => throw halt

/-- Repeats a body while a test succeeds, or until it does. -/
private def repeatWhile (interpreter : Interpreter) (untilTrue : Bool) (test body : Command)
    (status : Nat) : Nat → Run Nat
  | 0 => return status
  | rounds + 1 => do
    match ← round (whileTested (interpreter.run test)) with
    | .left => return status
    | .skipped => repeatWhile interpreter untilTrue test body status rounds
    | .done tested =>
      if (tested = 0) == untilTrue then return status
      else match ← round (interpreter.run body) with
        | .left => return 0
        | .skipped => repeatWhile interpreter untilTrue test body 0 rounds
        | .done status => repeatWhile interpreter untilTrue test body status rounds

/-- Repeats a body for each of some values. -/
private def repeatFor (interpreter : Interpreter) (name : Bytes) (body : Command) (status : Nat) :
    List Bytes → Run Nat
  | [] => return status
  | value :: rest => do
    setVariable name value
    match ← round (interpreter.run body) with
    | .left => return 0
    | .skipped => repeatFor interpreter name body 0 rest
    | .done status => repeatFor interpreter name body status rest

/-- Whether one of some patterns fits a text. -/
private def fitsOne (interpreter : Interpreter) (text : Bytes) : List Word → Run Bool
  | [] => return false
  | word :: rest => do
    if (← expandPattern interpreter word).fits text then return true
    else fitsOne interpreter text rest

/-- Runs the first command one of whose patterns fits a text. -/
private def runChoice (interpreter : Interpreter) (last : Bool) (text : Bytes) :
    List (List Word × Command) → Run Nat
  | [] => return 0
  | (patterns, command) :: rest => do
    if ← fitsOne interpreter text patterns then
      match command with
      | .sequence [] => return 0
      | _ => interpreter (.command command last)
    else runChoice interpreter last text rest

private def runSequence (interpreter : Interpreter) (last : Bool) : List Command → Run Nat
  | [] => return (← get).status
  | [command] => interpreter (.command command last)
  | command :: rest => do
    let _ ← interpreter.run command
    runSequence interpreter last rest

/-- How often a loop is repeated at most. -/
def roundLimit : Nat := 1000000

private def dispatch (interpreter : Interpreter) (last : Bool) : Command → Run Nat
  | .simple line assignments words redirections => do
    noteLine line
    Simple.run interpreter last assignments words redirections
  | .pipeline commands => runPipeline interpreter none commands
  | .negation command => do
    return if (← whileTested (interpreter.run command)) = 0 then 1 else 0
  | .both first second => do
    let status ← whileTested (interpreter.run first)
    if status = 0 then interpreter (.command second last) else return status
  | .either first second => do
    let status ← whileTested (interpreter.run first)
    if status = 0 then return status else interpreter (.command second last)
  | .sequence commands => runSequence interpreter last commands
  | .background command => runBehind interpreter command
  | .redirected line body redirections => do
    noteLine line
    Redirection.around interpreter redirections (interpreter.run body)
  | .subshell line body redirections => do
    noteLine line
    runSubshell interpreter last body redirections
  | .conditional test yes no => do
    if (← whileTested (interpreter.run test)) = 0 then interpreter (.command yes last)
    else match no with
      | some no => interpreter (.command no last)
      | none => return 0
  | .loop untilTrue test body =>
    inLoop (repeatWhile interpreter untilTrue test body 0 roundLimit)
  | .each line name words body => do
    noteLine line
    let values ← expandWords interpreter words
    inLoop (repeatFor interpreter name body 0 values)
  | .choice line subject arms => do
    noteLine line
    runChoice interpreter last (← expandText interpreter subject) arms
  | .define name body => do
    modify fun state => { state with
      functions := (name, body) :: state.functions.filter fun entry => entry.1 != name
      found := state.found.filter fun entry => entry.1 != name }
    return 0

/-- Whether a failure of a command can end a script. -/
private def endsScript : Command → Bool
  | .simple .. | .pipeline _ | .subshell .. => true
  | _ => false

/-- Runs a command, unless commands are only to be read. Signals that have arrived are received when
it ends, and a failure ends the script if that is asked for and nothing tests it. -/
private def runCommand (interpreter : Interpreter) (last : Bool) (command : Command) : Run Nat := do
  let before ← get
  if before.isIn .noexec then return before.status
  let status ← dispatch interpreter last command
  modify fun state => { state with status }
  receiveAll interpreter
  if status ≠ 0 && endsScript command && before.isIn .errexit && !before.tested then
    throw (.exit status)
  return (← get).status

private def firstLines (count : Nat) (text : Bytes) : Bytes :=
  ((Bytes.splitOn 10 text).take count).flatMap (· ++ [10])

/-- Shows the lines of a script that have been read, if that is asked for. -/
private def showLines (fromFile : Bool) (lines : Unit → Bytes) : Run Unit := do
  if fromFile && (← get).isIn .verbose then
    let _ ← say 2 (lines ())

/-- Runs a script line by line, so that a line can change how the next is read. -/
private def runLines (interpreter : Interpreter) (last fromFile : Bool) (status : Nat) :
    Nat → Reader → Run Nat
  | 0, _ => return status
  | lines + 1, reader => do
    let state ← get
    let reader := { reader with aliases := state.aliases, documents := state.documents }
    match Grammar.nextLine reader with
    | .error fault =>
      showLines fromFile fun _ => firstLines (fault.line + 1 - reader.line) reader.text
      failReading fault.line fault.reason
    | .ok (command?, after) =>
      showLines fromFile fun _ => reader.text.take (reader.text.length - after.text.length)
      modify fun state => { state with documents := after.documents, readLine := after.line }
      match command? with
      | none => return status
      | some (.sequence []) => runLines interpreter last fromFile status lines after
      | some command =>
        let ends := match after.last with
          | .scriptEnd => after.again
          | _ => false
        let status ← interpreter (.command command (last && ends))
        runLines interpreter last fromFile status lines after

private def runText (interpreter : Interpreter) (last fromFile : Bool) (text : Bytes) :
    Run Nat := do
  let readLine := (← get).readLine
  thenAlways (runLines interpreter last fromFile 0 (text.length + 1) (.ofText text 1 [] #[]))
    (modify fun state => { state with readLine })

/-- Does a task with the help of an interpreter. -/
private def step (interpreter : Interpreter) : Task → Run Nat
  | .command command last => runCommand interpreter last command
  | .source text last fromFile => runText interpreter last fromFile text

def interpret : Nat → Interpreter
  | 0 => fun _ => throw (.exit 2)
  | depth + 1 => step (interpret depth)

def depthLimit : Nat := 1000

/-- Runs a loaded program as a process to its end. -/
def runProcess (process : Process) (image : Image) (machine : Machine) : Ran :=
  runImage (interpret depthLimit) process image machine

end LineShell.Script
