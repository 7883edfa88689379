import LineShell.Machine.Process
/-!
# Changes of the file tree

What a process can do to names: it makes and removes directories, removes and moves other names,
makes links, and sets permissions. Each change either succeeds or leaves the machine as it was, with
the error that the path deserves.
-/

namespace LineShell

namespace Tree

def wantsDirectory (path : Bytes) : Bool := path.getLast? == some 47

/-- The path of a name below a path. -/
def join (path name : Bytes) : Bytes :=
  if wantsDirectory path then path ++ name else path ++ 47 :: name

/-- The node with a name in a directory, a link not followed. -/
def child (tree : Tree) (directory : Nat) (name : Bytes) : Except Errno Nat :=
  tree.walk false 0 directory [name]

/-- Whether a name stands for the directory it is in, or for the one above. -/
def isDots (name : Bytes) : Bool := name == [46] || name == [46, 46]

/-- Whether a node is below a directory, or is the directory. -/
def isBelow (tree : Tree) (above : Nat) (id : Nat) : Bool :=
  climb tree.nodes.size id
where
  climb : Nat → Nat → Bool
    | 0, _ => false
    | steps + 1, id => id == above || (id != 0 && climb steps (tree.parent id))

/-- Gives a node a name in a directory. What had the name loses it. -/
def rename (tree : Tree) (directory : Nat) (name : Bytes) (id : Nat) : Tree :=
  match tree.node directory with
  | .directory mode parent entries =>
    let others := entries.filter fun entry => entry.1 != name
    let named := tree.setNode directory (.directory mode parent (others ++ [(name, id)]))
    match named.node id with
    | .directory own _ entries => named.setNode id (.directory own directory entries)
    | _ => named
  | _ => tree

/-- Takes a name out of a directory and leaves alone what had it. -/
def forget (tree : Tree) (directory : Nat) (name : Bytes) : Tree :=
  match tree.node directory with
  | .directory mode parent entries =>
    tree.setNode directory (.directory mode parent (entries.filter fun entry => entry.1 != name))
  | _ => tree

end Tree

namespace Machine

open LineShell.Tree (wantsDirectory isDots)

def permissions : Node → Nat
  | .directory mode _ _ | .file mode _ => mode
  | .null | .full => 0o666
  | .link _ => 0o777
  | .tool _ => 0o755

/-- The bit that directories hand down to those that are made in them. -/
def inherited : Nat := 0o2000

def makeDirectory (mode : Nat) (process : Process) (path : Bytes) (machine : Machine) :
    Except Errno Machine := do
  let (directory, name) ← machine.tree.resolveLast process.directory path
  match machine.tree.child directory name with
  | .ok _ => throw .fileExists
  | .error _ =>
    let mode := mode ||| (permissions (machine.tree.node directory) &&& inherited)
    return { machine with
      tree := (machine.tree.place directory name (.directory mode directory [])).1 }

def removeDirectory (process : Process) (path : Bytes) (machine : Machine) :
    Except Errno Machine := do
  let (directory, name) ← match machine.tree.resolveLast process.directory path with
    | .ok found => pure found
    | .error errno => throw (if errno = .fileExists then .busy else errno)
  if name = [46] then throw .invalid
  if name = [46, 46] then throw .notEmpty
  let id ← machine.tree.child directory name
  let entries ← machine.tree.entries id
  if !entries.isEmpty then throw .notEmpty
  return { machine with tree := machine.tree.unlink directory name }

/-- Removes a name that is not the name of a directory. -/
def removeName (process : Process) (path : Bytes) (machine : Machine) : Except Errno Machine := do
  let (directory, name) ← match machine.tree.resolveLast process.directory path with
    | .ok found => pure found
    | .error errno => throw (if errno = .fileExists then .isDirectory else errno)
  if isDots name then throw .isDirectory
  let id ← machine.tree.child directory name
  if machine.tree.isDirectory id then throw .isDirectory
  if wantsDirectory path then throw .notDirectory
  return { machine with tree := machine.tree.unlink directory name }

def makeLink (process : Process) (target path : Bytes) (machine : Machine) :
    Except Errno Machine := do
  if target.isEmpty then throw .noEntry
  let (directory, name) ← machine.tree.resolveLast process.directory path
  match machine.tree.child directory name with
  | .ok _ => throw .fileExists
  | .error _ =>
    if wantsDirectory path then throw .noEntry
    return { machine with tree := (machine.tree.place directory name (.link target)).1 }

/-- Gives something that is no directory another name beside its own. -/
def nameAgain (process : Process) (former path : Bytes) (machine : Machine) :
    Except Errno Machine := do
  let id ← machine.tree.resolve process.directory former false
  let (directory, name) ← machine.tree.resolveLast process.directory path
  match machine.tree.child directory name with
  | .ok _ => throw .fileExists
  | .error _ =>
    if wantsDirectory path then throw .noEntry
    if machine.tree.isDirectory id then throw .perm
    return { machine with tree := machine.tree.rename directory name id }

/-- Gives something another name in place of its own. What had that name is removed, if it is of the
same kind and empty. -/
def move (process : Process) (former path : Bytes) (machine : Machine) : Except Errno Machine := do
  let tree := machine.tree
  let last (path : Bytes) : Except Errno (Nat × Bytes) :=
    match tree.resolveLast process.directory path with
    | .ok found => if isDots found.2 then .error .busy else .ok found
    | .error errno => .error (if errno = .fileExists then .busy else errno)
  let (formerDirectory, formerName) ← last former
  let (directory, name) ← last path
  let id ← tree.child formerDirectory formerName
  let isDirectory := tree.isDirectory id
  if !isDirectory && (wantsDirectory former || wantsDirectory path) then throw .notDirectory
  if isDirectory && tree.isBelow id directory then throw .invalid
  match tree.child directory name with
  | .error _ => pure ()
  | .ok present =>
    if present = id then return machine
    match tree.entries present with
    | .ok entries =>
      if !isDirectory then throw .isDirectory
      if !entries.isEmpty then throw .notEmpty
    | .error _ => if isDirectory then throw .notDirectory
  return { machine with tree := (tree.forget formerDirectory formerName).rename directory name id }

/-- Sets the permissions of what a path leads to, if it is a file or a directory. -/
def setPermissions (process : Process) (path : Bytes) (mode : Nat) (machine : Machine) :
    Except Errno Machine := do
  let id ← machine.tree.resolve process.directory path true
  match machine.tree.node id with
  | .file _ content => return { machine with tree := machine.tree.setNode id (.file mode content) }
  | .directory _ parent entries =>
    return { machine with tree := machine.tree.setNode id (.directory mode parent entries) }
  | _ => return machine

end Machine

end LineShell
