import LineShell.Machine.Change
import LineShell.Machine.Tool.Arguments
/-!
# The program that removes files

Files are removed, and directories with all that is in them if that is asked for. The program can
ask for each of them, and reads the answers from its input. A directory is left alone if something
in it could not be removed.
-/

namespace LineShell.Tool

private inductive Asking where
  | never
  /-- Before all, if there is much to remove. -/
  | once
  | always
  deriving DecidableEq

private structure RemovalOrders where
  asking : Asking
  /-- Whether it is no failure that there is nothing to remove. -/
  forced : Bool
  recursive : Bool
  /-- Whether empty directories are removed too. -/
  emptyToo : Bool
  verbose : Bool
  guardsRoot : Bool

private structure Outcome where
  code : Nat
  /-- Whether the directory around has to stay. -/
  blocks : Bool

private def Outcome.done : Outcome := ⟨0, false⟩
private def Outcome.failed : Outcome := ⟨1, true⟩

private def asks (orders : RemovalOrders) (question path : Bytes) : Work Bool := do
  if orders.asking = .always then ask (question ++ [32] ++ Quote.word path) else return true

private def kindOf : Node → Bytes
  | .file _ content => if content.isEmpty then text "regular empty file" else text "regular file"
  | .tool _ => text "regular file"
  | .directory .. => text "directory"
  | .link _ => text "symbolic link"
  | .null | .full => text "character special file"

private def isMissing (errno : Errno) : Bool :=
  errno = .noEntry || errno = .notDirectory || errno = .invalid

private def report (path : Bytes) (errno : Errno) : Work Outcome := do
  failFor (text "cannot remove " ++ Quote.word path) errno
  return .failed

private def remove (orders : RemovalOrders) (path : Bytes) (said : String)
    (change : Process → Bytes → Machine → Except Errno Machine) : Work Outcome := do
  match ← attempt fun process => change process path with
  | none =>
    if orders.verbose then putLine (text said ++ Quote.word path)
    return .done
  | some errno => if orders.forced && isMissing errno then return .done else report path errno

/-- Removes something, after asking if that is wanted. -/
private def removeAsked (orders : RemovalOrders) (path : Bytes) (node : Node) : Work Outcome := do
  if ← asks orders (text "remove " ++ kindOf node) path then
    match node with
    | .directory .. => remove orders path "removed directory " Machine.removeDirectory
    | _ => remove orders path "removed " Machine.removeName
  else return .done

/-- Removes what a path leads to, and all that is below. -/
private def removeTree (orders : RemovalOrders) : Nat → Bytes → Work Outcome
  | 0, path => report path .nameTooLong
  | depth + 1, path => do
    let found ← look fun process machine =>
      (machine.tree.resolve process.directory path false).map machine.tree.node
    match found with
    | .error errno => if orders.forced && isMissing errno then return .done else report path errno
    | .ok (.directory mode parent entries) =>
      if !entries.isEmpty then
        if !(← asks orders (text "descend into directory") path) then return ⟨0, true⟩
        let outcomes ← entries.mapM fun entry => removeTree orders depth (Tree.join path entry.1)
        if outcomes.any Outcome.blocks then return ⟨(outcomes.map Outcome.code).foldl max 0, true⟩
      removeAsked orders path (.directory mode parent [])
    | .ok node => removeAsked orders path node

private def lastName (path : Bytes) : Bytes :=
  ((Bytes.splitOn 47 path).filter fun name => !name.isEmpty).getLast?.getD []

/-- Whether a directory may be removed. Why not is reported. -/
private def mayRemove (orders : RemovalOrders) (path : Bytes) (id : Nat) (isEmpty : Bool) : Work Bool := do
  if !orders.recursive && !(orders.emptyToo && isEmpty) then
    failFor (text "cannot remove " ++ Quote.word path)
      (if orders.emptyToo then .notEmpty else .isDirectory)
    return false
  if Tree.isDots (lastName path) then
    fail (text "refusing to remove '.' or '..' directory: skipping " ++ Quote.word path)
    return false
  if id = 0 && orders.recursive && orders.guardsRoot then
    fail (text "it is dangerous to operate recursively on " ++ Quote.word path ++
      if path = [47] then [] else text " (same as '/')")
    fail (text "use --no-preserve-root to override this failsafe")
    return false
  return true

private def removeGiven (orders : RemovalOrders) (path : Bytes) : Work Nat := do
  let found ← look fun process machine =>
    (machine.tree.resolve process.directory path false).map fun id => (id, machine.tree.node id)
  if let .ok (id, .directory _ _ entries) := found then
    if !(← mayRemove orders path id entries.isEmpty) then return 1
  let size ← look fun _ machine => machine.tree.nodes.size
  return (← removeTree orders (size + 1) path).code

private def removalOptions : List Known :=
  [.ofBoth 'f' "force", .ofLetter 'i', .ofLetter 'I', (Known.ofName "interactive").admitting,
    .ofName "one-file-system", .ofName "no-preserve-root", (Known.ofName "preserve-root").admitting,
    .ofBoth 'r' "recursive", (Known.ofLetter 'R').meaning "recursive", .ofBoth 'd' "dir",
    .ofBoth 'v' "verbose"]

private def askingWords : Choice Asking :=
  [(["never", "no", "none"], .never), (["once"], .once), (["always", "yes"], .always)]

/-- Takes an option into account that says when to ask. -/
private def withRemovalOption (orders : RemovalOrders) (given : Given) : Work RemovalOrders := do
  match given.mark with
  | "force" => return { orders with asking := .never, forced := true }
  | "i" => return { orders with asking := .always, forced := false }
  | "I" => return { orders with asking := .once, forced := false }
  | "interactive" =>
    let asking ← match given.argument with
      | none => pure .always
      | some word => choose "interactive" askingWords word
    return { orders with asking, forced := orders.forced && asking = .never }
  | _ => return orders

/-- Reports that arguments cannot be understood. Some may have been meant as names of files. -/
private def misunderstood (arguments : List Bytes) (fault : ArgumentFault) : Work Arguments := do
  fail fault.message
  let name := (← read).name
  let isFile (path : Bytes) : Work Bool := look fun process machine =>
    (machine.tree.resolve process.directory path false).toOption.isSome
  for argument in arguments do
    if argument.head? = some 45 && 1 < argument.length && (← isFile argument) then
      let _ ← say 2 (text "Try '" ++ name ++ text " ./" ++ Quote.wordIfNeeded argument ++
        text "' to remove the file " ++ Quote.word argument ++ text ".\n")
  seeHelp 1

/-- Removes files, and directories with all they hold if that is asked for. -/
def removeFiles (arguments : List Bytes) : Work Nat := do
  let read ← understandOr removalOptions false arguments (misunderstood arguments)
  if read.has "no-preserve-root" && !arguments.contains (text "--no-preserve-root") then
    die 1 (text "you may not abbreviate the --no-preserve-root option")
  let plain : RemovalOrders := {
    asking := .never, forced := false, recursive := read.has "recursive", emptyToo := read.has "dir"
    verbose := read.has "verbose", guardsRoot := !read.has "no-preserve-root" }
  let orders ← read.options.foldlM withRemovalOption plain
  let paths := read.operands
  if paths.isEmpty then
    if orders.forced then return 0 else refuse 1 (text "missing operand")
  let count := Bytes.ofNat paths.length
  if orders.asking = .once && (orders.recursive || 3 < paths.length) then
    let plural := if paths.length = 1 then text " argument" else text " arguments"
    let depth := if orders.recursive then text " recursively" else []
    if !(← ask (text "remove " ++ count ++ plural ++ depth)) then return 0
  forAll paths (removeGiven orders)

end LineShell.Tool
