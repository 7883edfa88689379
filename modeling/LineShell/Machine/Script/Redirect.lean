import LineShell.Machine.Script.Expand
/-!
# Redirections

The redirections of a command are expanded before the first of them is carried out. A failure of one
keeps the command from running, but those before it have been carried out.
-/

namespace LineShell.Script.Redirection

inductive Target where
  | file (descriptor : Nat) (opening : Opening) (path : Bytes)
  /-- To what another number refers to, or to nothing. -/
  | duplicate (descriptor : Nat) (source : Option Nat)
  | document (descriptor place : Nat)

def Target.descriptor : Target → Nat
  | .file descriptor .. | .duplicate descriptor _ | .document descriptor _ => descriptor

def expandAll (interpreter : Interpreter) : List Redirection → Run (List Target)
  | [] => return []
  | redirection :: rest => do
    let target : Target ← match redirection with
      | .file descriptor opening path => do
        pure (.file descriptor opening (← expandText interpreter path))
      | .duplicate descriptor source => do
        match ← expandText interpreter source with
        | [45] => pure (.duplicate descriptor none)
        | [byte] =>
          if isDigit byte then pure (.duplicate descriptor (some (byte.toNat - 48)))
          else failReading (← get).readLine (str "Bad fd number")
        | _ => failReading (← get).readLine (str "Bad fd number")
      | .document descriptor place => pure (.document descriptor place)
    return target :: (← expandAll interpreter rest)

/-- Reports that a file could not be opened or made. -/
private def refuse {α : Type} (makes : Bool) (path : Bytes) (errno : Errno) : Run α :=
  let missing := errno = .noEntry || errno = .notDirectory
  if makes then
    fail (str "cannot create " ++ path ++ str ": " ++
      if missing then str "Directory nonexistent" else errno.libraryText)
  else
    fail (str "cannot open " ++ path ++ str ": " ++
      if missing then str "No such file" else errno.libraryText)

private def openFile (access : Machine.Access) (makes : Bool) (path : Bytes) : Run Nat := do
  let state ← get
  let (result, machine) := state.machine.openPath state.process path access
  set { state with machine }
  match result with
  | .ok opened => return opened
  | .error errno => refuse makes path errno

/-- Opens a file that is to be written, if that spares a file that exists. -/
private def openSparing (path : Bytes) : Run Nat := do
  let state ← get
  match state.machine.tree.resolve state.process.directory path true with
  | .error _ => openFile .writing true path
  | .ok node =>
    match state.machine.tree.node node with
    | .file .. | .tool _ => refuse true path .fileExists
    | _ => openFile .updating false path

/-- Lets a number refer to an open file, or to nothing. -/
private def assign (descriptor : Nat) (target : Option Nat) : Run Unit :=
  modify fun state =>
    let process := match target with
      | some opened => state.process.assign descriptor opened
      | none => state.process.close descriptor
    { state with process }

private def carryOut (interpreter : Interpreter) : Target → Run Unit
  | .file descriptor opening path => do
    let opened ← match opening with
      | .read => openFile .reading false path
      | .readWrite => openFile .updating true path
      | .append => openFile .appending true path
      | .overwrite => openFile .writing true path
      | .write => do
        if (← get).isIn .noclobber then openSparing path else openFile .writing true path
    assign descriptor (some opened)
  | .duplicate descriptor none => assign descriptor none
  | .duplicate descriptor (some source) => do
    if source ≠ descriptor then
      match (← get).process.descriptors.lookup source with
      | some opened => assign descriptor (some opened)
      | none => fail (Bytes.ofNat source ++ str ": Bad file descriptor")
  | .document descriptor place => do
    let text ← expandDocument interpreter ((← get).documents.getD place [])
    let (opened, machine) := (← get).machine.openNameless (.file 0o600 text.toByteArray)
    modify fun state => { state with machine }
    assign descriptor (some opened)

def carryOutAll (interpreter : Interpreter) (targets : List Target) : Run Unit :=
  targets.forM (carryOut interpreter)

def succeeds (interpreter : Interpreter) (targets : List Target) : Run Bool := do
  try
    carryOutAll interpreter targets
    return true
  catch
    | .failed => return false
    | halt => throw halt

/-- What the numbers refer to that are redirected. -/
def former (targets : List Target) : Run (List (Nat × Option Nat)) := do
  let descriptors := (← get).process.descriptors
  return targets.map fun target => (target.descriptor, descriptors.lookup target.descriptor)

/-- Lets numbers refer to what they referred to. -/
def restore (former : List (Nat × Option Nat)) : Run Unit :=
  former.forM fun entry => assign entry.1 entry.2

/-- Does something with redirections, which do not outlast it. Its status is that of a failure if
one of them fails. -/
def around (interpreter : Interpreter) (redirections : List Redirection) (work : Run Nat) :
    Run Nat := do
  let targets ← expandAll interpreter redirections
  let former ← former targets
  thenAlways (do if ← succeeds interpreter targets then work else return (← get).status)
    (restore former)

end LineShell.Script.Redirection
