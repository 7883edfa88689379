import LineShell.Machine.Script.Builtin.Basic
import LineShell.Machine.Script.Directory
import LineShell.Machine.Script.Options
/-!
# Commands for the working directory
-/

namespace LineShell.Script.Builtin

/-- Whether the last of the options given asks for the directory itself and not for the path to
it. -/
private def isPhysical (given : List Options.Given) : Bool :=
  given.getLast?.map Options.Given.letter == some 80

/-- Whether a path starts with a step that stays in place or leads up. -/
private def startsWithStep (path : Bytes) : Bool :=
  match Bytes.splitOn 47 path with
  | name :: _ => name == [46] || name == [46, 46]
  | [] => false

/-- The first directory on a search path that holds the target, and whether its path is to be
printed. -/
private def onPath? (state : State) (target : Bytes) (searchPath : Bytes) : Option (Bytes × Bool) :=
  (Bytes.splitOn 58 searchPath).findSome? fun entry =>
    let path := if entry.isEmpty then target else entry ++ [47] ++ target
    match state.machine.tree.resolve state.process.directory path true with
    | .ok id => if state.machine.tree.isDirectory id then some (path, !entry.isEmpty) else none
    | .error _ => none

def cd : Builtin := fun arguments => do
  let (given, arguments) ← Options.read "LP" arguments
  let state ← get
  let back := arguments.head? = some (str "-")
  let target := if back then (state.lookup? (str "OLDPWD")).getD []
    else match arguments with
      | [] => (state.lookup? (str "HOME")).getD []
      | target :: _ => target
  let fixed := target.head? = some 47 || startsWithStep target
  let target := if target.isEmpty then str "." else target
  let found? := if fixed then none else (state.lookup? (str "CDPATH")).bind (onPath? state target)
  let (path, prints) := found?.getD (target, false)
  if ← Directory.change (isPhysical given) path then
    if back || prints then put ((← get).here ++ [10]) else return 0
  else fail (str "can't cd to " ++ target)

def pwd : Builtin := fun arguments => do
  let (given, _) ← Options.read "LP" arguments
  let path ← if isPhysical given then Directory.actual else pure (← get).here
  put (path ++ [10])

end LineShell.Script.Builtin
