import LineShell.Machine.Script.State
/-!
# The working directory of a script

A script remembers by which path it came to its working directory. Steps to the directory above are
taken on that path, so they lead back over links.
-/

namespace LineShell.Script.Directory

/-- The names on a path after a step. -/
private def step (names : List Bytes) (name : Bytes) : List Bytes :=
  if name.isEmpty || name == [46] then names
  else if name = [46, 46] then names.dropLast
  else names ++ [name]

/-- A path without steps that lead nowhere or back, taken from another one if it is not absolute.
Two slashes at its start stay. -/
def straightened (here path : Bytes) : Bytes :=
  let (root, start) : Bytes × Bytes :=
    if path.head? = some 47 then
      (if path[1]? = some 47 && path[2]? != some 47 then [47, 47] else [47], [])
    else (if here.take 2 = [47, 47] then [47, 47] else [47], here)
  let names := (Bytes.splitOn 47 start ++ Bytes.splitOn 47 path).foldl step []
  root ++ Bytes.joinWith [47] names

/-- The path of the working directory, or nothing if it has lost its name. That is reported. -/
def actual : Run Bytes := do
  let state ← get
  match state.machine.tree.pathOf state.process.directory with
  | some path => return path
  | none =>
    complain (str "getcwd() failed: No such file or directory")
    return []

/-- Takes a path for that of the working directory. -/
def settle (path : Bytes) : Run Unit := do
  modify fun state => { state with here := path }
  changeVariable (str "PWD") fun held => { held with value := some path, exported := true }

/-- Changes the working directory. A physical change does not care how the script got there. Tells
whether it succeeds. -/
def change (physical : Bool) (target : Bytes) : Run Bool := do
  let state ← get
  let known : Option Bytes :=
    if physical || (state.here.isEmpty && target.head? != some 47) then none
    else some (straightened state.here target)
  match state.machine.tree.resolve state.process.directory (known.getD target) true with
  | .error _ => return false
  | .ok directory =>
    if !state.machine.tree.isDirectory directory then return false
    set { state with process := { state.process with directory } }
    changeVariable (str "OLDPWD") fun held =>
      { held with value := some state.here, exported := true }
    settle (← match known with
      | some path => pure path
      | none => actual)
    return true

/-- Sets out from the directory that a script starts in. -/
def start (given : Option Bytes) : Run Unit := do
  let state ← get
  let isHere (path : Bytes) : Bool :=
    path.head? == some 47 &&
      (state.machine.tree.resolve 0 path true).toOption == some state.process.directory
  match given.filter isHere with
  | some path => settle path
  | none =>
    modify fun state => { state with name := str "sh" }
    let path ← actual
    modify fun after => { after with name := state.name }
    settle path

end LineShell.Script.Directory
