import LineShell.Machine.Change
import LineShell.Machine.Tool.Permissions
/-!
# Programs that copy, move and link

Things are placed under a new name, or under their own names in a directory. The last operand is
where they go to, unless an option tells.
-/

namespace LineShell.Tool

/-- The things to be placed, and where each of them goes to. -/
private abbrev Plan := List (Bytes × Bytes)

/-- The last name of a path, by which a thing is known in a directory. -/
private def ownName (path : Bytes) : Bytes :=
  match ((Bytes.splitOn 47 path).filter fun name => !name.isEmpty).getLast? with
  | some name => name
  | none => path

private def nodeAt (follow : Bool) (path : Bytes) : Work (Except Errno Nat) :=
  look fun process machine => machine.tree.resolve process.directory path follow

private def isDirectoryAt (follow : Bool) (path : Bytes) : Work Bool :=
  look fun process machine =>
    (machine.tree.resolve process.directory path follow).toOption.any machine.tree.isDirectory

private def into (directory : Bytes) (paths : List Bytes) : Plan :=
  paths.map fun path => (path, Tree.join directory (ownName path))

private def targetOptions : List Known :=
  [(Known.ofBoth 't' "target-directory").requiring, .ofBoth 'T' "no-target-directory"]

/-- The plan that operands stand for. A link at the end is taken for the directory it leads to if
that is said. -/
private def planOf (arguments : Arguments) (follow : Bool) : Work Plan := do
  let operands := arguments.operands
  let last := operands.getLast?.getD []
  match arguments.value? "target-directory" with
  | some directory =>
    if operands.isEmpty then refuse 1 (text "missing file operand")
    match ← look fun process machine => do
        machine.tree.entries (← machine.tree.resolve process.directory directory true) with
    | .ok _ => return into directory operands
    | .error errno => do
      failFor (text "target directory " ++ Quote.word directory) errno
      throw 1
  | none =>
    match operands with
    | [] => refuse 1 (text "missing file operand")
    | [path] => refuse 1 (text "missing destination file operand after " ++ Quote.word path)
    | [path, other] =>
      if !arguments.has "no-target-directory" && (← isDirectoryAt follow other) then
        return into other [path]
      else return [(path, other)]
    | _ =>
      if arguments.has "no-target-directory" then
        refuse 1 (text "extra operand " ++ Quote.word (operands.getD 2 []))
      if ← isDirectoryAt true last then return into last operands.dropLast
      let errno := match ← nodeAt true last with
        | .ok _ => Errno.notDirectory
        | .error errno => errno
      failFor (text "target " ++ Quote.word last) errno
      throw 1

private def arrow (sign : String) (left right : Bytes) : Bytes :=
  Quote.word left ++ text sign ++ Quote.word right

/-- Checks that something can take the place of what is at a path. Why not is reported. -/
private def mayReplace (id : Nat) (source target : Bytes) (present : Except Errno Nat) :
    Work Bool := do
  let isDirectory ← look fun _ machine => machine.tree.isDirectory id
  match present with
  | .error errno =>
    if errno = .notDirectory && Tree.wantsDirectory target then
      failFor (text "cannot stat " ++ Quote.word target) errno
      return false
    else return true
  | .ok other =>
    let isPlaceDirectory ← look fun _ machine => machine.tree.isDirectory other
    if id = other then
      fail (arrow " and " source target ++ text " are the same file")
      return false
    if isPlaceDirectory && !isDirectory then
      fail (text "cannot overwrite directory " ++ Quote.word target ++ text " with non-directory")
      return false
    if isDirectory && !isPlaceDirectory then
      fail (text "cannot overwrite non-directory " ++ Quote.word target ++ text " with directory " ++
        Quote.word source)
      return false
    return true

/-- What is done about something that is in the way. -/
private inductive Present where
  | replaced
  | kept
  /-- It is replaced if the answer to a question says so. -/
  | asked
  deriving DecidableEq

/-- Whether something may be done to what is at a path, which is asked if there is reason to. -/
private def agreed (asks : Bool) (question : String) (path : Bytes) : Work Bool :=
  if asks then ask (text question ++ Quote.word path) else return true

private def presentOf (arguments : Arguments) : Present :=
  match (arguments.last? ["force", "no-clobber", "interactive"]).map Given.mark with
  | some "no-clobber" => .kept
  | some "interactive" => .asked
  | _ => .replaced

private def moveOne (present : Present) (verbose : Bool) (source target : Bytes) : Work Nat := do
  match ← nodeAt false source with
  | .error errno =>
    failFor (text "cannot stat " ++ Quote.word source) errno
    return 1
  | .ok id =>
    let found ← nodeAt false target
    if !(← mayReplace id source target found) then return 1
    if found.toOption.isSome then
      if present = .kept then return 0
      if !(← agreed (present = .asked) "overwrite " target) then return 1
    match ← attempt fun process => Machine.move process source target with
    | none =>
      if verbose then putLine (text "renamed " ++ arrow " -> " source target)
      return 0
    | some errno =>
      if errno = .invalid then
        fail (text "cannot move " ++ Quote.word source ++ text " to a subdirectory of itself, " ++
          Quote.word target)
      else if errno = .notEmpty then failFor (text "cannot overwrite " ++ Quote.word target) errno
      else failFor (text "cannot move " ++ arrow " to " source target) errno
      return 1

private def movingOptions : List Known :=
  [(Known.ofName "backup").admitting, .ofLetter 'b', .ofBoth 'f' "force", .ofBoth 'i' "interactive",
    .ofBoth 'n' "no-clobber", .ofBoth 'u' "update", .ofBoth 'v' "verbose",
    .ofName "strip-trailing-slashes"] ++ targetOptions

def moveFiles (arguments : List Bytes) : Work Nat := do
  let arguments ← understand movingOptions false 1 arguments
  let plan ← planOf arguments true
  forAll plan fun (source, target) =>
    moveOne (presentOf arguments) (arguments.has "verbose") source target

private inductive CopiedMode where
  /-- Those of its model, if it is new and as far as the mask lets them through. -/
  | limited
  /-- Those of its model. -/
  | same
  /-- Those of any new file. -/
  | fresh
  deriving DecidableEq

private structure Copying where
  recursive : Bool
  verbose : Bool
  mode : CopiedMode
  /-- Whether links are copied as links. -/
  keepsLinks : Bool
  present : Present

/-- The permissions of a copy that is new or not, if they are to be set. -/
private def modeOfCopy (copying : Copying) (mask : Nat) (model : Node) (isNew : Bool) : Option Nat :=
  let mode := Machine.permissions model
  let (most, shared) := match model with
    | .directory .. => (0o777 ||| (mode &&& 0o1000), 0o1777)
    | _ => (0o666, 0o777)
  match copying.mode with
  | .same => some mode
  | .limited => if isNew then some (Permissions.without (mode &&& shared) mask) else none
  | .fresh => if isNew then some (Permissions.without most mask) else none

private def writeCopy (copying : Copying) (model : Node) (content : ByteArray) (target : Bytes)
    (isNew : Bool) : Work (Option Errno) :=
  act fun process machine =>
    match machine.openPath process target .writing with
    | (.error errno, machine) => (some errno, machine)
    | (.ok file, machine) =>
      let (_, machine) := machine.write file content.toList
      match modeOfCopy copying process.mask model isNew with
      | none => (none, machine)
      | some mode =>
        match Machine.setPermissions process target mode machine with
        | .ok machine => (none, machine)
        | .error errno => (some errno, machine)

private def copyTree (copying : Copying) : Nat → Bytes → Nat → Bytes → Work Nat
  | 0, _, _, _ => return 1
  | depth + 1, source, id, target => do
    let tell : Work Unit := do if copying.verbose then putLine (arrow " -> " source target)
    let present ← nodeAt true target
    let found ← nodeAt false target
    if !(← mayReplace id source target present) then return 1
    let node ← look fun _ machine => machine.tree.node id
    let isPlain := match node with
      | .directory .. => false
      | _ => true
    if found.toOption.isSome && isPlain then
      if copying.present = .kept then return 0
      if !(← agreed (copying.present = .asked) "overwrite " target) then return 1
    match node with
    | .directory _ _ entries =>
      let isNew := present.toOption.isNone
      let mode := modeOfCopy copying (← read).process.mask node isNew
      if isNew then
        if let some errno ← attempt fun process =>
            Machine.makeDirectory (mode.getD Tree.usualMode) process target then
          failFor (text "cannot create directory " ++ Quote.word target) errno
          return 1
        tell
      let code ← forAll entries fun (name, id) =>
        copyTree copying depth (Tree.join source name) id (Tree.join target name)
      if copying.mode = .same then
        let _ ← attempt fun process =>
          Machine.setPermissions process target (Machine.permissions node)
      return code
    | .link destination =>
      if let some errno ← attempt fun process machine =>
          Machine.makeLink process destination target
            ((Machine.removeName process target machine).toOption.getD machine) then
        failFor (text "cannot create symbolic link " ++ Quote.word target) errno
        return 1
      tell
      return 0
    | node =>
      let content := match node with
        | .file _ content => content
        | _ => .empty
      if present.toOption.isNone && found.toOption.isSome then
        fail (text "not writing through dangling symlink " ++ Quote.word target)
        return 1
      if let some errno ← writeCopy copying node content target found.toOption.isNone then
        let errno := if errno = .isDirectory then .notDirectory else errno
        failFor (text "cannot create regular file " ++ Quote.word target) errno
        return 1
      tell
      return 0

private def copyOne (copying : Copying) (source target : Bytes) : Work Nat := do
  match ← nodeAt (!copying.keepsLinks) source with
  | .error errno =>
    failFor (text "cannot stat " ++ Quote.word source) errno
    return 1
  | .ok id =>
    let isDirectory ← look fun _ machine => machine.tree.isDirectory id
    if isDirectory && !copying.recursive then
      fail (text "-r not specified; omitting directory " ++ Quote.word source)
      return 1
    let isInside ← look fun process machine =>
      match machine.tree.resolveLast process.directory target with
      | .ok (above, _) => machine.tree.isBelow id above
      | .error _ => false
    if isDirectory && isInside then
      fail (text "cannot copy a directory, " ++ Quote.word source ++ text ", into itself, " ++
        Quote.word target)
      return 1
    let size ← look fun _ machine => machine.tree.nodes.size
    copyTree copying (size + 1) source id target

private def copyingOptions : List Known :=
  [.ofBoth 'a' "archive", .ofLetter 'b', .ofLetter 'd', .ofBoth 'f' "force", .ofLetter 'H',
    .ofBoth 'i' "interactive", .ofBoth 'L' "dereference", .ofBoth 'n' "no-clobber",
    .ofBoth 'P' "no-dereference", .ofLetter 'p', (Known.ofName "preserve").admitting,
    (Known.ofName "no-preserve").requiring,
    .ofBoth 'R' "recursive", (Known.ofLetter 'r').meaning "recursive",
    .ofBoth 'u' "update", .ofBoth 'v' "verbose", .ofBoth 'x' "one-file-system"] ++ targetOptions

/-- What of a thing a copy can share, and whether that is its permissions. -/
private def sharedWords : Choice Bool :=
  [(["mode"], true), (["timestamps"], false), (["ownership"], false), (["links"], false),
    (["context"], false), (["xattr"], false), (["all"], true)]

/-- Which permissions copies get after an option has been taken into account. -/
private def withModeOption (mode : CopiedMode) (given : Given) : Work CopiedMode := do
  let named (words : Bytes) : Work Bool := do
    return ((← (Bytes.splitOn 44 words).mapM (choose given.mark sharedWords)).any id)
  match given.mark, given.argument with
  | "p", _ | "archive", _ | "preserve", none => return .same
  | "preserve", some words => return if ← named words then .same else mode
  | "no-preserve", some words => return if ← named words then .fresh else mode
  | _, _ => return mode

def copyFiles (arguments : List Bytes) : Work Nat := do
  let arguments ← understand copyingOptions false 1 arguments
  let recursive := arguments.has "recursive" || arguments.has "archive"
  let keepsLinks := match arguments.last? ["d", "H", "dereference", "no-dereference", "archive"] with
    | some given => !(["H", "dereference"].contains given.mark)
    | none => recursive
  let copying : Copying :=
    { recursive, keepsLinks, verbose := arguments.has "verbose", present := presentOf arguments
      mode := ← arguments.options.foldlM withModeOption .limited }
  let plan ← planOf arguments true
  forAll plan fun (source, target) => copyOne copying source target

private structure Linking where
  symbolic : Bool
  /-- Whether what is there is removed. -/
  forced : Bool
  /-- Whether that is asked first. -/
  asks : Bool
  verbose : Bool

private def linkFailure (linking : Linking) (source target : Bytes) (errno : Errno) : Bytes :=
  if linking.symbolic then
    if errno ≠ .nameTooLong && !source.isEmpty then
      text "failed to create symbolic link " ++ Quote.word target
    else text "failed to create symbolic link " ++ arrow " -> " target source
  else if errno = .fileExists || errno = .noSpace then
    text "failed to create hard link " ++ Quote.word target
  else text "failed to create hard link " ++ arrow " => " target source

private def linkOne (linking : Linking) (source target : Bytes) : Work Nat := do
  let found ← nodeAt false source
  if !linking.symbolic then
    match found with
    | .error errno =>
      failFor (text "failed to access " ++ Quote.word source) errno
      return 1
    | .ok _ =>
      if ← isDirectoryAt false source then
        fail (Quote.wordIfNeeded source ++ text ": hard link not allowed for directory")
        return 1
  if linking.forced then
    if let .ok present ← nodeAt false target then
      if found.toOption = some present then
        fail (arrow " and " source target ++ text " are the same file")
        return 1
      if ← isDirectoryAt false target then
        fail (Quote.wordIfNeeded target ++ text ": cannot overwrite directory")
        return 1
      if !(← agreed linking.asks "replace " target) then return 1
      let _ ← attempt fun process => Machine.removeName process target
  let change := if linking.symbolic then Machine.makeLink else Machine.nameAgain
  match ← attempt fun process => change process source target with
  | none =>
    if linking.verbose then putLine (arrow (if linking.symbolic then " -> " else " => ") target source)
    return 0
  | some errno =>
    failFor (linkFailure linking source target errno) errno
    return 1

private def linkingOptions : List Known :=
  [.ofLetter 'b', .ofBoth 'f' "force", .ofBoth 'i' "interactive", .ofBoth 'L' "logical",
    .ofBoth 'n' "no-dereference",
    .ofBoth 'P' "physical", .ofBoth 's' "symbolic", .ofBoth 'v' "verbose"] ++ targetOptions

/-- Makes links. One operand alone gets a link in the working directory. -/
def linkFiles (arguments : List Bytes) : Work Nat := do
  let arguments ← understand linkingOptions false 1 arguments
  let replacing := (arguments.last? ["force", "interactive"]).map Given.mark
  let linking : Linking := {
    symbolic := arguments.has "symbolic", forced := replacing.isSome
    asks := replacing == some "interactive", verbose := arguments.has "verbose" }
  if let some directory := arguments.value? "target-directory" then
    match ← nodeAt true directory with
    | .error errno =>
      failFor (text "failed to access " ++ Quote.word directory) errno
      return 1
    | .ok _ =>
      if !(← isDirectoryAt true directory) then
        die 1 (text "target " ++ Quote.word directory ++ text " is not a directory")
  let isAlone := arguments.operands.length = 1 && !arguments.has "no-target-directory" &&
    !arguments.has "target-directory"
  let plan ←
    if isAlone then pure (into [46] arguments.operands)
    else planOf arguments (!arguments.has "no-dereference")
  forAll plan fun (source, target) => linkOne linking source target

end LineShell.Tool
