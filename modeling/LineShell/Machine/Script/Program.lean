import LineShell.Machine.Image
import LineShell.Machine.Script.Child
import LineShell.Machine.Script.Directory
import LineShell.Machine.Script.Options
import LineShell.Machine.Tool.Environment
/-!
# Scripts as programs

A program of the machine does its work at once, with two exceptions. The command interpreter starts
a script: the text behind one of its options, or a file, or what it can read. Another program runs
the one that its arguments name.
-/

namespace LineShell.Script

/-- Opens the file that holds a script and reads it whole. A directory holds nothing. -/
def readScript (path : Bytes) : Run (Except Errno Bytes) := do
  let state ← get
  match state.machine.openPath state.process path .reading with
  | (.error errno, machine) =>
    set { state with machine }
    return .error errno
  | (.ok file, machine) =>
    set { state with machine }
    match machine.rest file with
    | .ok bytes => return .ok (bytes.toList.filter (· != 0))
    | .error _ => return .ok []

private def readInput : Run Bytes := do
  let state ← get
  match state.process.descriptors.lookup 0 with
  | none => return []
  | some file =>
    match state.machine.rest file with
    | .error _ => return []
    | .ok bytes =>
      set { state with machine := (state.machine.read file bytes.size).2 }
      return bytes.toList.filter (· != 0)

/-- The state in which the command interpreter starts. -/
private def startState (process : Process) (name : Bytes) (machine : Machine) : State :=
  let parent := Bytes.ofNat process.parent
  { machine, process, name, root := process.pid, parameters := [], optionPlace := .first,
    bindings := (Variables.ofEnvironment process.environment).set (str "PPID") parent,
    frames := [], functions := [], aliases := [], found := [], documents := #[],
    traps := [], status := 0, beforeTrap := none, inner := 0, line := 0, readLine := 0,
    acting := none, here := [], loops := 0, jobs := [], lastJob := none, modes := [], tested := false, tracing := false,
    stops := [] }

def cannotOpen {α : Type} (path : Bytes) (errno : Errno) : Run α :=
  fail (str "cannot open " ++ path ++ str ": " ++
    if errno = .noEntry ∨ errno = .notDirectory then str "No such file" else errno.libraryText)

/-- Runs what the arguments of the command interpreter ask for. -/
private def runRequest (interpreter : Interpreter) (arguments : List Bytes) : Run Nat := do
  Directory.start ((← get).process.value? (str "PWD"))
  let request ← Options.ofInvocation arguments
  match request.wantsText, request.rest with
  | true, [] => fail (str "-c requires an argument")
  | true, text :: rest =>
    modify fun state => { state with name := rest.headD state.name, parameters := rest.tail }
    interpreter (.source text true false)
  | false, rest =>
    match rest with
    | path :: rest =>
      if (← get).isIn .stdin then
        modify fun state => { state with parameters := path :: rest }
        interpreter (.source (← readInput) false true)
      else
        match ← readScript path with
        | .error errno => cannotOpen path errno
        | .ok text =>
          modify fun state => { state with name := path, parameters := rest }
          interpreter (.source text false true)
    | [] =>
      modify fun state => { state with modes := .stdin :: state.modes }
      interpreter (.source (← readInput) false true)

/-- Runs the command interpreter with arguments, its own name first. -/
private def runInterpreter (interpreter : Interpreter) (process : Process) (arguments : List Bytes)
    (machine : Machine) : Ran :=
  runToEnd interpreter (startState process (arguments.headD []) machine)
    (runRequest interpreter arguments.tail)

/-- How many programs can be run one by the other without a process of their own. -/
def hopLimit : Nat := 100

/-- Runs a program in a setting, by a function that runs a loaded program. -/
private def runSetting (run : Process → Image → Machine → Ran) (process : Process) (own : Bytes)
    (setting : Setting) (machine : Machine) : Ran :=
  let name := setting.command.headD []
  let process :=
    { process with environment := setting.environment, directory := setting.directory }
  match Image.find machine process setting.command with
  | .ok image => run process image machine
  | .error errno =>
    let refusal := own ++ str ": " ++ Quote.text name ++ str ": " ++ errno.libraryText ++ [10]
    let hint := if errno = .noEntry ∧ name.any [9, 10, 11, 12, 13, 32].contains then
        own ++ str ": use -[v]S to pass options in shebang lines\n"
      else []
    let machine := (process.write 2 (refusal ++ hint) machine).2
    ⟨.exited (if errno = .noEntry then 127 else 126), [], machine⟩

/-- Runs a loaded program as a process. Programs that run others are followed. -/
private def runFollowed (interpreter : Interpreter) :
    Nat → Process → Image → Machine → Ran
  | 0, _, _, machine => ⟨.exited 126, [], machine⟩
  | hops + 1, process, image, machine =>
    let own := image.arguments.headD []
    if image.tool = str "sh" ∨ image.tool = str "dash" then
      runInterpreter interpreter process image.arguments machine
    else if image.tool = str "env" then
      let prepared := Tool.prepareSetting image.arguments.tail
      match Tool.perform Tool.settingFailure prepared ⟨process, own⟩ machine with
      | (.ok setting, machine) =>
        runSetting (runFollowed interpreter hops) process own setting machine
      | (.error code, machine) => ⟨.exited code, [], machine⟩
    else
      let (code, machine) := Tool.run image.tool image.arguments.tail ⟨process, own⟩ machine
      ⟨.exited code, [], machine⟩

def runImage (interpreter : Interpreter) (process : Process) (image : Image) (machine : Machine) :
    Ran :=
  runFollowed interpreter hopLimit process image machine

/-- Looks for a program in directories, given the last error met. Programs that cannot be executed
are passed over. -/
private def locateIn (machine : Machine) (process : Process) (name : Bytes) (last : Errno) :
    List Bytes → Except Errno Bytes
  | [] => .error last
  | directory :: rest =>
    let path := if directory.isEmpty then name else directory ++ [47] ++ name
    match Image.refusal? machine process path with
    | none => .ok path
    | some errno =>
      let missing := errno = .noEntry || errno = .notDirectory
      locateIn machine process name (if missing then last else errno) rest

/-- The path of the program that a name stands for. A name with a slash is a path. -/
def locate (state : State) (searchPath name : Bytes) : Except Errno Bytes :=
  if name.contains 47 then .ok name
  else locateIn state.machine state.process name .noEntry (Bytes.splitOn 58 searchPath)

def searchPath (state : State) : Bytes :=
  (state.lookup? (str "PATH")).getD []

/-- Why a program cannot be run, in words. -/
def reasonOf (errno : Errno) : Bytes :=
  if errno = .noEntry ∨ errno = .notDirectory then str "not found" else errno.libraryText

def remember (name path : Bytes) : Run Unit :=
  modify fun state => { state with
    found := (state.found.filter fun entry => entry.1 != name) ++ [(name, path)] }

/-- Lets the process of a script go on as the program at a path, if one has been found. If that
fails, it ends. -/
def becomeProgram {α : Type} (interpreter : Interpreter) (path : Except Errno Bytes)
    (words : List Bytes) : Run α := do
  let state ← get
  let process := { state.process with environment := state.bindings.environment }
  match path.bind fun path => Image.atPath state.machine process path words with
  | .ok image =>
    let ran := runImage interpreter process image state.machine
    set { state with machine := ran.machine, stops := state.stops ++ ran.stops }
    throw (.gone ran.ending)
  | .error errno =>
    complain (words.headD [] ++ str ": " ++ reasonOf errno)
    let missing := [Errno.noEntry, .notDirectory, .tooManyLinks, .nameTooLong].contains errno
    throw (.exit (if missing then 127 else 126))

end LineShell.Script
