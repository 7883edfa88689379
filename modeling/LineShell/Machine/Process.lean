import LineShell.Machine.Tree
import LineShell.Signal
/-!
# Processes and their files

A process refers to open files by small numbers. An open file has a place in a node of the tree, and
processes that share it move that place for each other: what one of them has read, the others do not
read again.
-/

namespace LineShell

/-- A file that has been opened: its node and the place of the next byte. -/
structure OpenFile where
  node : Nat
  place : Nat
  /-- Whether everything is written at the end. -/
  appends : Bool

/-- A machine: its file tree, the files that were opened, and the last process number given. -/
structure Machine where
  tree : Tree
  files : Array OpenFile
  lastPid : Nat
  /-- The signals that were sent and have not arrived: the process and the number of the signal. -/
  posted : List (Nat × Nat)

structure Process where
  pid : Nat
  /-- The process that made this one. -/
  parent : Nat
  /-- The working directory. -/
  directory : Nat
  /-- Names and values, in the order in which they were set. -/
  environment : List (Bytes × Bytes)
  /-- The open files that numbers refer to. -/
  descriptors : List (Nat × Nat)
  /-- The signals the process was started to ignore. -/
  ignored : List Signal
  /-- The permissions that new files do not get. -/
  mask : Nat

namespace Machine

/-- Replaces the bytes of a content from a place on, with zeros in a gap before it. -/
def splice (content : ByteArray) (place : Nat) (bytes : ByteArray) : ByteArray :=
  let gap : ByteArray := ⟨Array.replicate (place - content.size) 0⟩
  content.extract 0 place ++ gap ++ bytes ++ content.extract (place + bytes.size) content.size

def write (machine : Machine) (file : Nat) (bytes : Bytes) : Except Errno Unit × Machine :=
  match machine.files[file]? with
  | none => (.error .badDescriptor, machine)
  | some opened =>
    match machine.tree.node opened.node with
    | .file mode content =>
      let data := bytes.toByteArray
      let place := if opened.appends then content.size else opened.place
      let content := if place = content.size then content ++ data else splice content place data
      (.ok (), { machine with
        tree := machine.tree.setNode opened.node (.file mode content)
        files := machine.files.setIfInBounds file { opened with place := place + data.size } })
    | .full => (if bytes.isEmpty then .ok () else .error .noSpace, machine)
    | .directory .. => (.error .isDirectory, machine)
    | _ => (.ok (), machine)

/-- Reads at most `most` bytes of an open file. -/
def read (machine : Machine) (file : Nat) (most : Nat) : Except Errno ByteArray × Machine :=
  match machine.files[file]? with
  | none => (.error .badDescriptor, machine)
  | some opened =>
    match machine.tree.node opened.node with
    | .file _ content =>
      let bytes := content.extract opened.place (opened.place + most)
      (.ok bytes, { machine with
        files := machine.files.setIfInBounds file { opened with place := opened.place + bytes.size } })
    | .directory .. => (.error .isDirectory, machine)
    | _ => (.ok .empty, machine)

/-- The bytes of an open file from its place on. -/
def rest (machine : Machine) (file : Nat) : Except Errno ByteArray :=
  match machine.files[file]? with
  | none => .error .badDescriptor
  | some opened =>
    match machine.tree.node opened.node with
    | .file _ content => .ok (content.extract opened.place content.size)
    | .directory .. => .error .isDirectory
    | _ => .ok .empty

def openNode (machine : Machine) (node : Nat) (appends : Bool) : Nat × Machine :=
  (machine.files.size, { machine with files := machine.files.push ⟨node, 0, appends⟩ })

/-- Adds a node without a name and opens it. -/
def openNameless (machine : Machine) (node : Node) : Nat × Machine :=
  { machine with tree := ⟨machine.tree.nodes.push node⟩ }.openNode machine.tree.nodes.size false

inductive Access where
  | reading
  | writing
  | appending
  /-- To read and to write what is there. -/
  | updating
  deriving DecidableEq

/-- Follows the links that a path to a new file ends in. -/
def newPlace (tree : Tree) (directory : Nat) (path : Bytes) : Nat → Except Errno (Nat × Bytes)
  | 0 => .error .tooManyLinks
  | links + 1 =>
    match tree.resolveLast directory path with
    | .error errno => .error errno
    | .ok (parent, name) =>
      match tree.walk false 0 parent [name] with
      | .ok id =>
        match tree.node id with
        | .link target => newPlace tree parent target links
        | _ => .ok (parent, name)
      | .error _ => .ok (parent, name)

/-- Opens the file that a path leads a process to. One that is to be written is made if it does not
exist. -/
def openPath (machine : Machine) (process : Process) (path : Bytes) (access : Access) :
    Except Errno Nat × Machine :=
  match machine.tree.resolve process.directory path true with
  | .ok node =>
    match access, machine.tree.node node with
    | .reading, _ =>
      let (file, machine) := machine.openNode node false
      (.ok file, machine)
    | _, .directory .. => (.error .isDirectory, machine)
    | .writing, .file mode _ =>
      let (file, machine) :=
        { machine with tree := machine.tree.setNode node (.file mode .empty) }.openNode node false
      (.ok file, machine)
    | _, _ =>
      let (file, machine) := machine.openNode node (access == Access.appending)
      (.ok file, machine)
  | .error errno =>
    let endsInSlash := path.getLast? == some 47
    if access = .reading ∨ (errno ≠ .noEntry ∧ !endsInSlash) then (.error errno, machine)
    else match newPlace machine.tree process.directory path Tree.linkLimit with
      | .error errno => (.error errno, machine)
      | .ok (parent, name) =>
        if endsInSlash then (.error .isDirectory, machine)
        else
          let mode := 0o666 - (0o666 &&& process.mask)
          let (tree, node) := machine.tree.place parent name (.file mode .empty)
          let (file, machine) := { machine with tree }.openNode node (access == Access.appending)
          (.ok file, machine)

/-- Sends a signal to a process. -/
def post (machine : Machine) (pid signal : Nat) : Machine :=
  { machine with posted := machine.posted ++ [(pid, signal)] }

/-- The signals that have arrived at a process. -/
def arrived (machine : Machine) (pid : Nat) : List Nat × Machine :=
  let (own, others) := machine.posted.partition fun entry => entry.1 == pid
  (own.map Prod.snd, { machine with posted := others })

def newPid (machine : Machine) : Nat × Machine :=
  (machine.lastPid + 1, { machine with lastPid := machine.lastPid + 1 })

end Machine

namespace Process

/-- The value of a name in the environment. -/
def value? (process : Process) (name : Bytes) : Option Bytes :=
  process.environment.lookup name

/-- Writes to the file that a number refers to. -/
def write (process : Process) (descriptor : Nat) (bytes : Bytes) (machine : Machine) :
    Except Errno Unit × Machine :=
  match process.descriptors.lookup descriptor with
  | none => (.error .badDescriptor, machine)
  | some file => machine.write file bytes

/-- Lets a number refer to an open file. -/
def assign (process : Process) (descriptor file : Nat) : Process :=
  { process with
    descriptors := (descriptor, file) :: process.descriptors.filter fun entry => entry.1 != descriptor }

def close (process : Process) (descriptor : Nat) : Process :=
  { process with descriptors := process.descriptors.filter fun entry => entry.1 != descriptor }

end Process

end LineShell
