import LineShell.Errno
/-!
# The file tree

Files, directories and links are nodes with numbers, and a directory gives names to nodes. A path is
walked from a directory, component by component; a link on the way is replaced by its target, at
most `Tree.linkLimit` times. The walk decides which error a bad path gets.

This is where the machine begins on which a `Station` runs a shell. The shell itself, which is `Session`
with all that it needs, imports no part of it.
-/

namespace LineShell

/-- What a name in the file tree can stand for. -/
inductive Node where
  /-- A directory, with its permission bits, the number of the one that holds it and the nodes it
  names. -/
  | directory (mode parent : Nat) (entries : List (Bytes × Nat))
  /-- A file with its permission bits and its content. -/
  | file (mode : Nat) (content : ByteArray)
  /-- A symbolic link. -/
  | link (target : Bytes)
  /-- An installed program. -/
  | tool (name : Bytes)
  /-- The device that takes everything and holds nothing. -/
  | null
  /-- The device that has no room. -/
  | full

/-- A file tree. Node 0 is the root. -/
structure Tree where
  nodes : Array Node

namespace Tree

def linkLimit : Nat := 40

def nameLimit : Nat := 255

/-- The longest path, with the NUL byte behind it. -/
def pathLimit : Nat := 4096

/-- The permissions of directories that nobody asked for. -/
def usualMode : Nat := 0o755

def empty : Tree := ⟨#[.directory usualMode 0 []]⟩

def node (tree : Tree) (id : Nat) : Node :=
  tree.nodes.getD id .null

def setNode (tree : Tree) (id : Nat) (node : Node) : Tree :=
  ⟨tree.nodes.setIfInBounds id node⟩

/-- The entries of a directory, or the error for a node that is none. -/
def entries (tree : Tree) (id : Nat) : Except Errno (List (Bytes × Nat)) :=
  match tree.node id with
  | .directory _ _ entries => .ok entries
  | _ => .error .notDirectory

def isDirectory (tree : Tree) (id : Nat) : Bool :=
  match tree.node id with
  | .directory .. => true
  | _ => false

/-- The directory that holds a directory; the root holds itself. -/
def parent (tree : Tree) (id : Nat) : Nat :=
  match tree.node id with
  | .directory _ parent _ => parent
  | _ => 0

private def slash : UInt8 := 47
private def here : Bytes := [46]
private def above : Bytes := [46, 46]

/-- The components of a path. A slash at the end asks for a directory, as one more component that
stays in place does. -/
def components (path : Bytes) : List Bytes :=
  let names := (Bytes.splitOn slash path).filter fun name => !name.isEmpty
  if path.getLast? = some slash then names ++ [here] else names

/-- Walks from a node along names. The last name is followed if it is a link and `follow` is set. -/
def walk (tree : Tree) (follow : Bool) (links : Nat) (current : Nat) (names : List Bytes) :
    Except Errno Nat :=
  match names with
  | [] => .ok current
  | name :: rest =>
    match tree.entries current with
    | .error errno => .error errno
    | .ok entries =>
      if name = here then tree.walk follow links current rest
      else if name = above then tree.walk follow links (tree.parent current) rest
      else if nameLimit < name.length then .error .nameTooLong
      else match entries.lookup name with
        | none => .error .noEntry
        | some id =>
          match tree.node id with
          | .link target =>
            if rest.isEmpty && !follow then .ok id
            else match links with
              | 0 => .error .tooManyLinks
              | links + 1 =>
                if target.isEmpty then .error .noEntry
                else
                  let start := if target.head? = some slash then 0 else current
                  tree.walk follow links start (components target ++ rest)
          | _ => tree.walk follow links id rest
termination_by (links, names.length)

/-- The node a path leads to from a directory. -/
def resolve (tree : Tree) (directory : Nat) (path : Bytes) (follow : Bool) :
    Except Errno Nat :=
  if path.isEmpty then .error .noEntry
  else if pathLimit ≤ path.length then .error .nameTooLong
  else
    let start := if path.head? = some slash then 0 else directory
    tree.walk follow linkLimit start (components path)

/-- The path of a directory, unless it or one above it has lost its name. -/
def pathOf (tree : Tree) (id : Nat) : Option Bytes :=
  if id = 0 then some [slash] else climb tree.nodes.size id []
where
  /-- Puts the names above a directory in front of a path. -/
  climb : Nat → Nat → Bytes → Option Bytes
    | 0, _, _ => none
    | steps + 1, id, path =>
      if id = 0 then some path
      else
        let above := tree.parent id
        match tree.entries above with
        | .error _ => none
        | .ok entries =>
          match entries.find? (fun entry => entry.2 == id) with
          | none => none
          | some (name, _) => climb steps above (slash :: name ++ path)

/-- The directory and the name that a path ends in, links at the end not followed. A directory that
has lost its own name holds no names. -/
def resolveLast (tree : Tree) (directory : Nat) (path : Bytes) : Except Errno (Nat × Bytes) :=
  if path.isEmpty then .error .noEntry
  else if pathLimit ≤ path.length then .error .nameTooLong
  else
    let start := if path.head? = some slash then 0 else directory
    let names := (Bytes.splitOn slash path).filter fun name => !name.isEmpty
    match names.getLast? with
    | none => .error .fileExists
    | some name =>
      match tree.walk true linkLimit start names.dropLast with
      | .error errno => .error errno
      | .ok id =>
        match tree.entries id with
        | .error errno => .error errno
        | .ok _ =>
          if nameLimit < name.length then .error .nameTooLong
          else if name ≠ here ∧ name ≠ above ∧ (tree.pathOf id).isNone then .error .noEntry
          else .ok (id, name)

/-- Gives a name in a directory to a new node. -/
def place (tree : Tree) (directory : Nat) (name : Bytes) (node : Node) : Tree × Nat :=
  let id := tree.nodes.size
  let grown : Tree := ⟨tree.nodes.push node⟩
  match grown.node directory with
  | .directory mode parent entries =>
    let others := entries.filter fun entry => entry.1 != name
    (grown.setNode directory (.directory mode parent (others ++ [(name, id)])), id)
  | _ => (grown, id)

/-- Empties the directories that have lost their names. -/
private def clear (tree : Tree) : Tree :=
  (List.range tree.nodes.size).foldl
    (fun cleared id =>
      match tree.node id with
      | .directory mode parent entries =>
        if !entries.isEmpty && (tree.pathOf id).isNone then
          cleared.setNode id (.directory mode parent [])
        else cleared
      | _ => cleared)
    tree

/-- Takes a name out of a directory, and with the name of a directory all that is in it. -/
def unlink (tree : Tree) (directory : Nat) (name : Bytes) : Tree :=
  match tree.node directory with
  | .directory mode parent entries =>
    let others := entries.filter fun entry => entry.1 != name
    let unlinked := tree.setNode directory (.directory mode parent others)
    match entries.lookup name with
    | some id => if tree.isDirectory id then unlinked.clear else unlinked
    | none => unlinked
  | _ => tree

/-- Makes the directories named one below the other, where they do not exist yet. -/
def makeDirectories (tree : Tree) (directory : Nat) : List Bytes → Tree × Nat
  | [] => (tree, directory)
  | name :: rest =>
    match tree.walk true linkLimit directory [name] with
    | .ok id => tree.makeDirectories id rest
    | .error _ =>
      let (tree', id) := tree.place directory name (.directory usualMode directory [])
      tree'.makeDirectories id rest

end Tree

end LineShell
