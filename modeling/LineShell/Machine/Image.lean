import LineShell.Machine.Process
/-!
# Finding and loading programs

A program is named by a path, or by a word that is looked for in the directories of the search path.
A file can be executed if it has an execute permission; it is then a program of the machine itself,
or it names its interpreter in its first line, or it is of no known format. Files of no known format
are given to the command interpreter.
-/

namespace LineShell

/-- A program of the machine together with the arguments it gets, its name first. -/
structure Image where
  tool : Bytes
  arguments : List Bytes
  deriving DecidableEq

namespace Image

/-- The longest argument, with the NUL byte behind it. -/
def argumentLimit : Nat := 131072

/-- The room for all arguments and the environment together. -/
def totalLimit : Nat := 2097152

/-- How many interpreters can be named one by the other. -/
def interpreterLimit : Nat := 5

/-- How much of a file is looked at for the name of its interpreter. -/
def headLimit : Nat := 256

def interpreterPath : Bytes := Bytes.ofString "/bin/sh"

def defaultSearchPath : Bytes := Bytes.ofString "/bin:/usr/bin"

private def isBlank (byte : UInt8) : Bool := byte == 32 || byte == 9

private def trimEnd (bytes : Bytes) : Bytes :=
  (bytes.reverse.dropWhile isBlank).reverse

private def endsName (byte : UInt8) : Bool := isBlank byte || byte == 0

/-- The interpreter named in a line, and the argument named after it. Each of them ends where a NUL
byte stands. -/
private def interpreterIn (line : Bytes) : Option (Bytes × Option Bytes) :=
  match (trimEnd line).dropWhile isBlank with
  | [] => none
  | line =>
    let name := line.takeWhile fun byte => !endsName byte
    match line.dropWhile fun byte => !endsName byte with
    | [] | 0 :: _ => some (name, none)
    | rest => some (name, some ((rest.dropWhile isBlank).takeWhile (· != 0)))

/-- The interpreter named in the first line of a file, and the argument named after it. A file that
is short counts as if zeros followed. If the line does not end within what is looked at, the
argument may be cut off, but the name must not be. -/
def interpreterLine? (content : ByteArray) : Option (Bytes × Option Bytes) :=
  let bytes := (content.extract 0 headLimit).toList
  match bytes ++ List.replicate (headLimit - bytes.length) 0 with
  | 35 :: 33 :: rest =>
    let line := rest.takeWhile fun byte => byte != 10 && byte != 0
    if rest[line.length]? = some 10 then interpreterIn line
    else if (rest.dropWhile isBlank).any endsName then interpreterIn rest.dropLast
    else none
  | _ => none

/-- The room that the path, the arguments and the environment take, each argument and each variable
with a pointer to it, or nothing if one of them is too long. -/
def room? (process : Process) (path : Bytes) (arguments : List Bytes) : Option Nat :=
  let strings := arguments.map List.length
    ++ process.environment.map fun entry => entry.1.length + 1 + entry.2.length
  if strings.all (· < argumentLimit) then
    some (strings.foldl (fun total length => total + length + 9) (path.length + 1))
  else none

/-- The room taken when the name of a script gives way to its interpreter and that one's
argument. -/
def roomAfter (room : Nat) (path : Bytes) (arguments : List Bytes) (name : Bytes)
    (argument : Option Bytes) : Nat :=
  room + name.length + 1 + path.length + 1 + ((argument.map fun text => text.length + 1).getD 0)
    - ((arguments.headD []).length + 1)

/-- The error for a path to something that is no executable file, if it is none. -/
def refusal? (machine : Machine) (process : Process) (path : Bytes) : Option Errno :=
  match machine.tree.resolve process.directory path true with
  | .error errno => some errno
  | .ok node =>
    match machine.tree.node node with
    | .tool _ => none
    | .file mode _ => if mode &&& 0o111 = 0 then some .access else none
    | _ => some .access

/-- Loads the program at a path. The path, the arguments and the environment take some room. -/
def load (machine : Machine) (process : Process) (path : Bytes) (arguments : List Bytes)
    (room : Nat) : Nat → Except Errno Image
  | 0 => .error .tooManyLinks
  | depth + 1 =>
    match machine.tree.resolve process.directory path true with
    | .error errno => .error errno
    | .ok node =>
      match machine.tree.node node with
      | .tool name => .ok ⟨name, arguments⟩
      | .file mode content =>
        if mode &&& 0o111 = 0 then .error .access
        else match interpreterLine? content with
          | none => .error .notExecutable
          | some ([], _) => .error .access
          | some (name, argument) =>
            let room := roomAfter room path arguments name argument
            if totalLimit < room then .error .tooManyArguments
            else
              load machine process name (name :: argument.toList ++ path :: arguments.tail) room depth
      | _ => .error .access

def execute (machine : Machine) (process : Process) (path : Bytes) (arguments : List Bytes) :
    Except Errno Image :=
  match refusal? machine process path with
  | some errno => .error errno
  | none =>
    match (room? process path arguments).filter (· ≤ totalLimit) with
    | none => .error .tooManyArguments
    | some room => load machine process path arguments room (interpreterLimit + 1)

/-- Executes the program at a path, a file of no known format through the command interpreter. -/
def atPath (machine : Machine) (process : Process) (path : Bytes) (arguments : List Bytes) :
    Except Errno Image :=
  match execute machine process path arguments with
  | .error errno =>
    if errno = .notExecutable then
      execute machine process interpreterPath (interpreterPath :: path :: arguments.tail)
    else .error errno
  | .ok image => .ok image

/-- The errors that let the search go on in the next directory. -/
def searchesOn (errno : Errno) : Bool :=
  errno = .noEntry || errno = .notDirectory || errno = .access

/-- Looks for a program in directories. At the end of the search a denied permission, once met, is
reported before the last error. -/
def search (machine : Machine) (process : Process) (name : Bytes) (arguments : List Bytes)
    (denied : Bool) (last : Errno) : List Bytes → Except Errno Image
  | [] => .error (if denied then .access else last)
  | directory :: rest =>
    let path := if directory.isEmpty then name else directory ++ [47] ++ name
    match atPath machine process path arguments with
    | .ok image => .ok image
    | .error errno =>
      if searchesOn errno then
        search machine process name arguments (denied || errno = .access) errno rest
      else .error errno

/-- The directories of a search path. An empty entry is the working directory. One that is too long
for a path counts as empty, or not at all at the end. -/
def searchDirectories (path : Bytes) : List Bytes :=
  let entries := Bytes.splitOn 58 path
  let isShort (entry : Bytes) : Bool := entry.length < Tree.pathLimit
  entries.dropLast.map (fun entry => if isShort entry then entry else []) ++
    (entries.getLast?.filter isShort).toList

def find (machine : Machine) (process : Process) (arguments : List Bytes) : Except Errno Image :=
  match arguments with
  | [] => .error .noEntry
  | name :: _ =>
    if name.isEmpty then .error .noEntry
    else if name.contains 47 then atPath machine process name arguments
    else if Tree.nameLimit < name.length then .error .nameTooLong
    else
      let path := (process.value? (Bytes.ofString "PATH")).getD defaultSearchPath
      search machine process name arguments false .noEntry (searchDirectories path)

end Image

end LineShell
