import LineShell.Machine.Script.Builtin.Basic
import LineShell.Machine.Script.Program
/-!
# Commands that change how a script goes on
-/

namespace LineShell.Script.Builtin

/-- Runs its arguments as a text of the script. -/
def eval (interpreter : Interpreter) : Builtin := fun arguments =>
  interpreter.runText (Bytes.joinWith [32] arguments)

/-- The file that a script is read from. A name without a slash is looked for on the search path. -/
private def scriptPath (name : Bytes) : Run Bytes := do
  if name.contains 47 then return name
  let state ← get
  let paths := (Bytes.splitOn 58 (searchPath state)).map fun directory =>
    if directory.isEmpty then name else directory ++ [47] ++ name
  let isFile (path : Bytes) : Bool :=
    match state.machine.tree.resolve state.process.directory path true with
    | .error _ => false
    | .ok id =>
      match state.machine.tree.node id with
      | .file .. | .tool _ => true
      | _ => false
  match paths.find? isFile with
  | some path => return path
  | none => fail (name ++ str ": not found")

/-- Runs the script in a file as a part of this one. -/
def source (interpreter : Interpreter) : Builtin := fun arguments => do
  let (_, arguments) ← Options.read "" arguments
  match arguments with
  | [] => return 0
  | name :: _ =>
    let path ← scriptPath name
    match ← readScript path with
    | .error errno => cannotOpen path errno
    | .ok text =>
      try actingAs (some path) (testing false (interpreter (.source text false true)))
      catch
        | .returned code => return code
        | halt => throw halt

/-- Runs a program in the place of the script. -/
def exec (interpreter : Interpreter) : Builtin := fun arguments => do
  match arguments with
  | [] => return 0
  | name :: _ =>
    let state ← get
    becomeProgram interpreter (locate state (searchPath state) name) arguments

def exit : Builtin := fun arguments => do
  match arguments with
  | [] =>
    let state ← get
    throw (.exit (state.beforeTrap.getD state.status))
  | argument :: _ => throw (.exit (← number argument))

def giveBack : Builtin := fun arguments => do
  match arguments with
  | [] => throw (.returned (← get).status)
  | argument :: _ => throw (.returned (← number argument))

/-- Leaves loops, by a jump that is given their number. Outside of loops there is nothing to
leave. -/
private def jump (halt : Nat → Halt) : Builtin := fun arguments => do
  let loops ← match arguments with
    | [] => pure 1
    | argument :: _ => do
      let n ← number argument
      if n = 0 then fail (str "Illegal number: " ++ argument)
      pure n
  let running := (← get).loops
  if running = 0 then return 0
  modify fun state => { state with status := 0 }
  throw (halt (min loops running))

def leave : Builtin := jump .leave

/-- Goes on with the next round of a loop. -/
def next : Builtin := jump .again

end LineShell.Script.Builtin
