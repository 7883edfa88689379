import LineShell.Machine.Station
/-!
# Scenes

A scene is where a shell starts: a machine with its installed programs and usual directories, a
directory of the shell's own with things in it, an environment, and what the standard files lead to.
-/

namespace LineShell

/-- Something that is put into a directory before a shell starts. -/
inductive Provision where
  /-- A directory, with those above it. -/
  | directory (path : Bytes)
  | link (path target : Bytes)
  | file (path : Bytes) (mode : Nat) (content : Bytes)

structure Scene where
  /-- The path of the directory that it starts in. -/
  home : Bytes
  provisions : List Provision
  environment : List (Bytes × Bytes)
  input : Bytes
  /-- Whether the standard input is the directory that the shell starts in. -/
  readsDirectory : Bool
  /-- Whether the standard output has no room. -/
  full : Bool
  /-- Whether the error output goes to the same file as the standard output. -/
  merged : Bool

namespace Tree

private def makePath (tree : Tree) (path : Bytes) : Tree :=
  (tree.makeDirectories 0 (components path)).1

private def placeAt (tree : Tree) (directory : Nat) (path : Bytes) (node : Node) : Tree :=
  match tree.resolveLast directory path with
  | .ok (parent, name) => (tree.place parent name node).1
  | .error _ => tree

private def usualDirectories : List Bytes :=
  ["/usr/bin", "/usr/lib", "/usr/sbin", "/usr/share", "/usr/local/bin", "/usr/local/lib",
    "/usr/local/share", "/usr/include", "/usr/src", "/usr/games", "/boot", "/dev", "/etc", "/home",
    "/media", "/mnt", "/opt", "/proc", "/root", "/run", "/srv", "/sys", "/tmp", "/var/cache",
    "/var/lib", "/var/log", "/var/tmp"].map Bytes.ofString

private def usualLinks : List (Bytes × Bytes) :=
  [("/bin", "usr/bin"), ("/lib", "usr/lib"), ("/sbin", "usr/sbin"), ("/usr/bin/sh", "dash")].map
    fun (path, target) => (Bytes.ofString path, Bytes.ofString target)

/-- A tree with the usual directories, the devices and the installed programs. -/
def standard : Tree :=
  let tree := usualDirectories.foldl makePath empty
  let tree := (Tool.names.filter (· != Bytes.ofString "sh")).foldl
    (fun tree name => tree.placeAt 0 (Bytes.ofString "/usr/bin/" ++ name) (.tool name)) tree
  let tree := usualLinks.foldl (fun tree link => tree.placeAt 0 link.1 (.link link.2)) tree
  let tree := tree.placeAt 0 (Bytes.ofString "/dev/null") .null
  let tree := tree.placeAt 0 (Bytes.ofString "/dev/full") .full
  tree.placeAt 0 (Bytes.ofString "/etc/passwd")
    (.file 0o644 (Bytes.ofString "root:x:0:0:root:/root:/bin/bash\n").toByteArray)

def provide (directory : Nat) (tree : Tree) : Provision → Tree
  | .directory path =>
    let start := if path.head? = some 47 then 0 else directory
    (tree.makeDirectories start (components path)).1
  | .link path target => tree.placeAt directory path (.link target)
  | .file path mode content => tree.placeAt directory path (.file mode content.toByteArray)

end Tree

namespace Scene

def firstPid : Nat := 4000

/-- The shell at its start. It ignores the signal for broken pipes. It shows no log lines and keeps
no log entries. -/
def station (scene : Scene) : Station :=
  let (tree, home) := Tree.standard.makeDirectories 0 (Tree.components scene.home)
  let tree := scene.provisions.foldl (Tree.provide home) tree
  let machine : Machine := ⟨tree, #[], firstPid, []⟩
  let (input, machine) := if scene.readsDirectory then machine.openNode home false
    else machine.openNameless (.file 0o600 scene.input.toByteArray)
  let (output, machine) := machine.openNameless (if scene.full then .full else .file 0o600 .empty)
  let (error, machine) := if scene.merged then (output, machine)
    else machine.openNameless (.file 0o600 .empty)
  let process : Process :=
    { pid := firstPid, parent := firstPid - 1, directory := home, environment := scene.environment,
      descriptors := [(0, input), (1, output), (2, error)], ignored := [.pipe], mask := 0o022 }
  { machine, process, held := [], ahead := [], filter := ⟨[]⟩, clock := none,
    logFailed := false }

end Scene

namespace Station

/-- Everything that has been written to the file of a descriptor. -/
def written (station : Station) (descriptor : Nat) : Bytes :=
  let file := station.process.descriptors.lookup descriptor
  match file.bind fun file => station.machine.files[file]? with
  | none => []
  | some opened =>
    match station.machine.tree.node opened.node with
    | .file _ content => content.toList
    | _ => []

/-- The path of the working directory, if it still has one. -/
def directory (station : Station) : Option Bytes :=
  station.machine.tree.pathOf station.process.directory

end Station

end LineShell
