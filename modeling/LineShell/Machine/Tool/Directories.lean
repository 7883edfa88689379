import LineShell.Machine.Tool.Permissions
/-!
# Programs that make and remove directories

A directory is made with those that lead to it, or removed with those that it leaves empty, if that
is asked for. Each path is dealt with for itself.
-/

namespace LineShell.Tool

private def dropSlashes (path : Bytes) : Bytes :=
  (path.reverse.dropWhile (· == 47)).reverse

/-- The path of what a path leads through last, if it leads through something but the root. -/
private def stem? (path : Bytes) : Option Bytes :=
  let above := ((dropSlashes path).reverse.dropWhile (· != 47)).reverse
  let stem := dropSlashes above
  if stem.isEmpty then none else some stem

/-- The paths that a path leads through, the last first. -/
private def stems : Nat → Bytes → List Bytes
  | 0, _ => []
  | steps + 1, path =>
    match stem? path with
    | none => []
    | some stem => stem :: stems steps stem

/-- The paths that a path leads through, the last first. -/
def stemsOf (path : Bytes) : List Bytes := stems path.length path

/-- Tells what the program does, under its name. -/
private def narrate (verbose : Bool) (line : Bytes) : Work Unit := do
  if verbose then putLine ((← read).name ++ text ": " ++ line)

private def foundDirectory (path : Bytes) : Work (Except Errno Bool) :=
  look fun process machine =>
    (machine.tree.resolve process.directory path true).map machine.tree.isDirectory

private def reportMaking (path : Bytes) (errno : Errno) : Work Nat := do
  failFor (text "cannot create directory " ++ Quote.word path) errno
  return 1

/-- The permissions of the directories that are made. -/
private structure MadeModes where
  /-- The permissions that a directory is made with. -/
  first : Nat
  /-- The permissions that it has in the end, by those that it has got. -/
  last : Nat → Nat
  /-- The permissions of the directories that lead to it. -/
  stem : Nat

/-- The permissions of new directories under a mask, if a change of the usual ones is asked for or
not. To write is granted to others in the end only, where a directory will have more than the usual
permissions. -/
private def MadeModes.of (mask : Nat) (change : Option (List PermissionStep)) : MadeModes :=
  let stem := Permissions.without Permissions.usual (Permissions.without mask 0o300)
  match change with
  | none => ⟨Permissions.without Permissions.usual mask, id, stem⟩
  | some change =>
    let ⟨mode, touched⟩ := Permissions.adjusted true mask Permissions.usual change
    let isPlain := touched &&& Permissions.borrowed = 0 ∧ mode &&& 0o1000 = 0
    let first := if isPlain then mode else Permissions.without mode 0o022
    let last (got : Nat) : Nat :=
      if Permissions.without (mode &&& touched) got ||| Permissions.without (got &&& touched) mode = 0
      then got
      else mode ||| Permissions.without got touched
    ⟨Permissions.without first Permissions.borrowed, last, stem⟩

/-- Makes a directory. One that is there already is good enough if that is said. -/
private def makeOne (modes : MadeModes) (verbose present : Bool) (path : Bytes) : Work Nat := do
  match ← attempt fun process => Machine.makeDirectory modes.first process path with
  | none =>
    let got ← look fun process machine =>
      match machine.tree.resolve process.directory path true with
      | .ok id => Machine.permissions (machine.tree.node id)
      | .error _ => modes.first
    let _ ← attempt fun process => Machine.setPermissions process path (modes.last got)
    narrate verbose (text "created directory " ++ Quote.word path)
    return 0
  | some errno =>
    match present, ← foundDirectory path with
    | true, .ok true => return 0
    | _, _ => reportMaking path errno

/-- Makes the directories that paths lead to, each below the one before it. -/
private def makeStems (mode : Nat) (verbose : Bool) : List Bytes → Work Nat
  | [] => return 0
  | path :: rest => do
    match ← attempt fun process => Machine.makeDirectory mode process path with
    | none =>
      narrate verbose (text "created directory " ++ Quote.word path)
      makeStems mode verbose rest
    | some errno =>
      match ← foundDirectory path with
      | .ok true => makeStems mode verbose rest
      | .ok false => reportMaking path .notDirectory
      | .error reason => reportMaking path (if reason = .noEntry then errno else reason)

private def makingOptions : List Known :=
  [(Known.ofName "context").admitting, .ofLetter 'Z', (Known.ofBoth 'm' "mode").requiring,
    .ofBoth 'p' "parents", .ofBoth 'v' "verbose"]

/-- Makes directories, those that lead to them too if that is asked for. -/
def makeDirectories (arguments : List Bytes) : Work Nat := do
  let arguments ← understand makingOptions false 1 arguments
  let paths ← needOperand arguments "missing operand"
  let change ← match arguments.value? "mode" with
    | none => pure none
    | some mode =>
      match Permissions.ofText? mode with
      | some change => pure (some change)
      | none => die 1 (text "invalid mode " ++ Quote.text mode)
  let modes := MadeModes.of (← read).process.mask change
  let verbose := arguments.has "verbose"
  forAll paths fun path => do
    if arguments.has "parents" then
      if (← makeStems modes.stem verbose (stemsOf path).reverse) = 0 then
        makeOne modes verbose true path
      else return 1
    else makeOne modes verbose false path

/-- What is to be done about directories that cannot be removed. -/
private structure Removing where
  verbose : Bool
  /-- Whether a directory that is not empty is no failure. -/
  lenient : Bool

/-- Whether a path is that of a link to a directory, but for a slash at its end. -/
private def isLinkWithSlash (path : Bytes) : Work Bool :=
  look fun process machine =>
    Tree.wantsDirectory path &&
      (machine.tree.resolve process.directory path true).toOption.any machine.tree.isDirectory &&
      match machine.tree.resolve process.directory (dropSlashes path) false with
      | .ok id => !machine.tree.isDirectory id
      | .error _ => false

/-- Removes directories one after the other, until one cannot be removed. -/
private def removeStems (removing : Removing) : List Bytes → Work Nat
  | [] => return 0
  | path :: rest => do
    narrate removing.verbose (text "removing directory, " ++ Quote.word path)
    match ← attempt fun process => Machine.removeDirectory process path with
    | none => removeStems removing rest
    | some errno =>
      if removing.lenient && errno = .notEmpty then return 0
      let what := if errno = .notDirectory then "failed to remove " else "failed to remove directory "
      failFor (text what ++ Quote.word path) errno
      return 1

private def removingOptions : List Known :=
  [.ofName "ignore-fail-on-non-empty", (Known.ofName "path").meaning "parents", .ofBoth 'p' "parents",
    .ofBoth 'v' "verbose"]

/-- Removes empty directories, and those above them if that is asked for. -/
def removeDirectories (arguments : List Bytes) : Work Nat := do
  let arguments ← understand removingOptions false 1 arguments
  let paths ← needOperand arguments "missing operand"
  let removing : Removing := ⟨arguments.has "verbose", arguments.has "ignore-fail-on-non-empty"⟩
  forAll paths fun path => do
    narrate removing.verbose (text "removing directory, " ++ Quote.word path)
    match ← attempt fun process => Machine.removeDirectory process path with
    | none => if arguments.has "parents" then removeStems removing (stemsOf path) else return 0
    | some errno =>
      if removing.lenient && errno = .notEmpty then return 0
      if errno = .notDirectory && (← isLinkWithSlash path) then
        fail (text "failed to remove " ++ Quote.word path ++ text ": Symbolic link not followed")
      else failFor (text "failed to remove " ++ Quote.word path) errno
      return 1

end LineShell.Tool
