import LineShell.Machine.Tool.Cat
import LineShell.Machine.Tool.Directories
import LineShell.Machine.Tool.Environment
import LineShell.Machine.Tool.Format
import LineShell.Machine.Tool.ListFiles
import LineShell.Machine.Tool.Placing
import LineShell.Machine.Tool.Removal
import LineShell.Machine.Tool.Test
import LineShell.Machine.Tool.Touch
/-!
# The programs of the machine

The programs that do their work without others. Which program a file of the machine is, is told by
its name.
-/

namespace LineShell.Tool

private structure EchoOptions where
  lineEnd : Bool
  escapes : Bool

private def echoOptions (options : EchoOptions) : List Bytes → EchoOptions × List Bytes
  | [] => (options, [])
  | argument :: rest =>
    match argument with
    | 45 :: flag :: flags =>
      if (flag :: flags).all (text "neE").contains then
        echoOptions ((flag :: flags).foldl
          (fun (options : EchoOptions) (flag : UInt8) =>
            if flag = 110 then { options with lineEnd := false }
            else { options with escapes := flag == 101 }) options) rest
      else (options, argument :: rest)
    | _ => (options, argument :: rest)

def echo (arguments : List Bytes) : Work Nat := do
  let (options, rest) := echoOptions ⟨true, false⟩ arguments
  let line := Bytes.joinWith [32] rest
  let lineEnd : Bytes := if options.lineEnd then [10] else []
  if options.escapes then
    let (shown, cut) := Escape.printed line
    put (shown ++ if cut then [] else lineEnd)
  else put (line ++ lineEnd)
  return 0

/-- Whether a path from the root has no steps in place or upwards in it. -/
private def isDirect (path : Bytes) : Bool :=
  path.head? == some 47 && !(Bytes.splitOn 47 path).any Tree.isDots

/-- Prints the path of the working directory: the one that the environment knows if that is asked
for, or the one without links. -/
def printDirectory (arguments : List Bytes) : Work Nat := do
  let arguments ← understand [.ofBoth 'L' "logical", .ofBoth 'P' "physical"] false 1 arguments
  if !arguments.operands.isEmpty then fail (text "ignoring non-option arguments")
  let process := (← read).process
  let isLogical := match arguments.last? ["logical", "physical"] with
    | some given => given.mark == "logical"
    | none => (process.value? (text "POSIXLY_CORRECT")).isSome
  let known ← look fun process machine =>
    (process.value? (text "PWD")).filter fun path =>
      isLogical && isDirect path &&
        (machine.tree.resolve process.directory path true).toOption == some process.directory
  match known.or (← look fun process machine => machine.tree.pathOf process.directory) with
  | some path =>
    putLine path
    return 0
  | none =>
    fail (text "couldn't find directory entry in '..' with matching i-node")
    return 1

/-- Prints its arguments as a format asks for. -/
def printFormatted (arguments : List Bytes) : Work Nat := do
  let arguments := if arguments.head? = some (text "--") then arguments.tail else arguments
  match arguments with
  | [] => refuse 1 (text "missing operand")
  | format :: arguments =>
    let output := Format.output .extended format arguments
    for piece in output.pieces do
      match piece with
      | .shown bytes => put bytes
      | .complaint reason => fail reason
    if let some fault := output.fault then die 1 fault
    if let some first := output.unused.head? then
      fail (text "warning: ignoring excess arguments, starting with " ++ Quote.text first)
    let isFailure (complaint : Bytes) : Bool := !(text "warning: ").isPrefixOf complaint
    return if output.complaints.any isFailure then 1 else 0

/-- Whether a text is a length of time: a number, and a letter for a unit or none. -/
private def isInterval (argument : Bytes) : Bool :=
  match Floating.read? .double argument with
  | none => false
  | some (n, rest) =>
    let isLength := n.magnitude ≠ .notNumber && (!n.negative || n.magnitude == .finite 0 0)
    isLength && (rest.isEmpty || (rest.length == 1 && rest.all (text "smhd").contains))

/-- Waits. Time does not pass on the machine. -/
def sleep (arguments : List Bytes) : Work Nat := do
  let arguments ← understand [] false 1 arguments
  let intervals ← needOperand arguments "missing operand"
  let invalid := intervals.filter (!isInterval ·)
  invalid.forM fun interval => fail (text "invalid time interval " ++ Quote.text interval)
  if invalid.isEmpty then return 0 else seeHelp 1

/-- A program of the machine: its name, its exit code when it cannot write, and what it does. -/
structure Program where
  name : String
  failure : Nat
  main : List Bytes → Work Nat

/-- Every program of the machine that does its work without others. -/
def programs : List Program :=
  [⟨"true", 1, fun _ => return 0⟩, ⟨"false", 1, fun _ => return 1⟩, ⟨"sleep", 1, sleep⟩,
    ⟨"echo", 1, echo⟩, ⟨"cat", 1, cat⟩, ⟨"pwd", 1, printDirectory⟩, ⟨"ls", 2, listLines⟩,
    ⟨"dir", 2, listColumns⟩, ⟨"vdir", 2, listLong⟩, ⟨"touch", 1, touch⟩,
    ⟨"mkdir", 1, makeDirectories⟩, ⟨"rmdir", 1, removeDirectories⟩, ⟨"rm", 1, removeFiles⟩,
    ⟨"cp", 1, copyFiles⟩, ⟨"mv", 1, moveFiles⟩, ⟨"ln", 1, linkFiles⟩,
    ⟨"chmod", 1, changePermissions⟩, ⟨"printenv", 2, printEnvironment⟩,
    ⟨"printf", 1, printFormatted⟩, ⟨"test", 2, test⟩, ⟨"[", 2, bracketTest⟩]

/-- Runs the program with a name. The result is its exit code. -/
def run (name : Bytes) (arguments : List Bytes) (call : Call) (machine : Machine) : Nat × Machine :=
  match programs.find? fun program => text program.name == name with
  | none => (0, machine)
  | some program =>
    match perform program.failure (program.main arguments) call machine with
    | (.ok code, machine) | (.error code, machine) => (code, machine)

/-- The names of the programs that a machine has. The last of them run others. -/
def names : List Bytes :=
  (programs.map Program.name ++ ["env", "sh", "dash"]).map text

end LineShell.Tool
