import LineShell.Machine.Change
import LineShell.Machine.Numeral
import LineShell.Machine.Tool.Arguments
/-!
# Permissions

Permissions are twelve bits. A change of them is written as a number in octal, or as clauses that
say who gets or loses what. Where nobody is named, everybody is meant, but new files' permissions
set a limit.
-/

namespace LineShell

/-- What a step of a change is about. -/
inductive PermissionSource where
  | bits (bits : Nat)
  /-- The bits, and those to execute for what can be executed or searched already. -/
  | executable (bits : Nat)
  /-- What one of the three kinds of users has. -/
  | copied (bits : Nat)
  deriving DecidableEq

structure PermissionStep where
  /-- A plus, a minus or an equals sign. -/
  sign : UInt8
  /-- The bits that are concerned, if that is said. -/
  concerned : Option Nat
  /-- The bits that are asked for by name or number. Those that directories hand down stay as they
  are in a directory unless they are among these. -/
  named : Nat
  source : PermissionSource

def PermissionSource.written : PermissionSource → Nat
  | .bits own | .executable own | .copied own => own

namespace Permissions

def all : Nat := 0o7777

/-- The permissions to read, to write and to execute. -/
def usual : Nat := 0o777

/-- The permissions to act as the owner or the group of a file. -/
def borrowed : Nat := 0o6000

private def isSign (byte : UInt8) : Bool := byte == 43 || byte == 45 || byte == 61

private def users? : UInt8 → Option Nat
  | 117 => some 0o4700
  | 103 => some 0o2070
  | 111 => some 0o1007
  | 97 => some all
  | _ => none

private def kinds? : UInt8 → Option Nat
  | 114 => some 0o444
  | 119 => some 0o222
  | 120 => some 0o111
  | 115 => some 0o6000
  | 116 => some 0o1000
  | 88 => some 0
  | _ => none

private def union (bits : List Nat) : Nat := bits.foldl (· ||| ·) 0

/-- The bits that octal digits stand for, if they are not too many. -/
private def ofOctal? (digits : Bytes) : Option Nat :=
  match Numeral.unsigned .octal digits with
  | some (n, []) => if n ≤ all then some n else none
  | _ => none

/-- What stands behind a sign, and what follows it. -/
private def source (written : Bytes) : PermissionSource × Bytes :=
  match written with
  | 117 :: rest => (.copied 0o700, rest)
  | 103 :: rest => (.copied 0o070, rest)
  | 111 :: rest => (.copied 0o007, rest)
  | _ =>
    let letters := written.takeWhile fun byte => (kinds? byte).isSome
    let bits := union (letters.filterMap kinds?)
    (if letters.contains 88 then .executable bits else .bits bits, written.drop letters.length)

/-- The steps that signs ask for, one after the other. -/
private def steps (concerned : Option Nat) : Nat → Bytes → Option (List PermissionStep)
  | 0, _ => none
  | _, [] => some []
  | fuel + 1, sign :: written =>
    if !isSign sign then none
    else if (written.take 1).any fun byte => 48 ≤ byte && byte ≤ 57 then
      if concerned.isSome then none
      else (ofOctal? written).map fun bits => [⟨sign, some all, all, .bits bits⟩]
    else
      let (source, rest) := source written
      let named := source.written &&& concerned.getD all
      (steps concerned fuel rest).map (⟨sign, concerned, named, source⟩ :: ·)

private def clause (written : Bytes) : Option (List PermissionStep) :=
  let users := written.takeWhile fun byte => (users? byte).isSome
  let concerned := if users.isEmpty then none else some (union (users.filterMap users?))
  let rest := written.drop users.length
  if rest.isEmpty then none else steps concerned rest.length.succ rest

def ofText? (text : Bytes) : Option (List PermissionStep) :=
  match text with
  | [] => none
  | first :: _ =>
    if 48 ≤ first && first ≤ 57 then
      let named (bits : Nat) : Nat := if text.length < 5 then (bits &&& (all - usual)) ||| usual else all
      (ofOctal? text).map fun bits => [⟨61, some all, named bits, .bits bits⟩]
    else ((Bytes.splitOn 44 text).mapM clause).map List.flatten

/-- What the three kinds of users have if one of them has it. -/
private def spread (bits : Nat) : Nat :=
  let everywhere (kind : Nat) : Nat := if bits &&& kind = 0 then 0 else kind
  bits ||| everywhere 0o444 ||| everywhere 0o222 ||| everywhere 0o111

def without (bits lost : Nat) : Nat := bits - (bits &&& lost)

structure Adjusted where
  mode : Nat
  /-- The bits that the change is about, whether it made a difference to them or not. -/
  touched : Nat

private def step (isDirectory : Bool) (mask : Nat) (adjusted : Adjusted) (step : PermissionStep) :
    Adjusted :=
  let before := adjusted.mode
  let kept := if isDirectory then without borrowed step.named else 0
  let value := match step.source with
    | .bits bits => bits
    | .executable bits =>
      if isDirectory || before &&& 0o111 != 0 then bits ||| 0o111 else bits
    | .copied bits => spread (before &&& bits)
  let value := match step.concerned with
    | some concerned => value &&& concerned
    | none => without value mask
  let value := without value kept
  let replaced := without (step.concerned.getD all) kept
  if step.sign = 43 then ⟨before ||| value, adjusted.touched ||| value⟩
  else if step.sign = 45 then ⟨without before value, adjusted.touched ||| value⟩
  else ⟨without before replaced ||| value, adjusted.touched ||| replaced⟩

/-- The permissions after a change, and what it is about. Where nobody is named the mask sets a
limit. -/
def adjusted (isDirectory : Bool) (mask before : Nat) (change : List PermissionStep) : Adjusted :=
  change.foldl (step isDirectory mask) ⟨before, 0⟩

def changed (isDirectory : Bool) (mask before : Nat) (change : List PermissionStep) : Nat :=
  (adjusted isDirectory mask before change).mode

/-- The three letters for one kind of users. -/
private def triple (bits : Nat) (special : Bool) (mark : UInt8) : Bytes :=
  let letter (bit : Nat) (letter : UInt8) : UInt8 := if bits &&& bit = 0 then 45 else letter
  let last : UInt8 :=
    if special then if bits &&& 1 = 0 then mark - 32 else mark else letter 1 120
  [letter 4 114, letter 2 119, last]

def letters (bits : Nat) : Bytes :=
  triple (bits / 64) (bits &&& 0o4000 != 0) 115 ++ triple (bits / 8) (bits &&& 0o2000 != 0) 115 ++
    triple bits (bits &&& 0o1000 != 0) 116

def octal (bits : Nat) : Bytes :=
  let digits := (Nat.toDigits 8 bits).map fun digit => digit.toNat.toUInt8
  List.replicate (4 - digits.length) 48 ++ digits

end Permissions

namespace Tool

private inductive Telling where
  | nothing
  | changes
  | everything
  deriving DecidableEq

private structure ChangeOrders where
  change : List PermissionStep
  /-- Whether the limit for new files must not make a difference. -/
  strict : Bool
  telling : Telling
  quiet : Bool
  descends : Bool

private def tell (orders : ChangeOrders) (line : Bytes) : Work Unit := do
  if orders.telling = .everything then putLine line

/-- Changes the permissions of what a path leads to. -/
private def changeOne (orders : ChangeOrders) (path : Bytes) (id : Nat) : Work Nat := do
  let node ← look fun _ machine => machine.tree.node id
  let before := Machine.permissions node
  let isDirectory ← look fun _ machine => machine.tree.isDirectory id
  let mask := (← read).process.mask
  let after := Permissions.changed isDirectory mask before orders.change
  let _ ← attempt fun process => Machine.setPermissions process path after
  let shown (bits : Nat) : Bytes :=
    Permissions.octal bits ++ text " (" ++ Permissions.letters bits ++ text ")"
  if before ≠ after then
    if orders.telling ≠ .nothing then
      putLine (text "mode of " ++ Quote.word path ++ text " changed from " ++ shown before ++
        text " to " ++ shown after)
  else tell orders (text "mode of " ++ Quote.word path ++ text " retained as " ++ shown before)
  let naive := Permissions.changed isDirectory 0 before orders.change
  if orders.strict && after &&& naive ≠ after then
    fail (Quote.wordIfNeeded path ++ text ": new permissions are " ++ Permissions.letters after ++
      text ", not " ++ Permissions.letters naive)
    return 1
  return 0

/-- Changes the permissions of a node below a directory, and of all below it. -/
private def changeBelow (orders : ChangeOrders) : Nat → Bytes → Nat → Work Nat
  | 0, _, _ => return 0
  | depth + 1, path, id => do
    let node ← look fun _ machine => machine.tree.node id
    match node with
    | .link _ =>
      tell orders (text "neither symbolic link " ++ Quote.word path ++
        text " nor referent has been changed")
      return 0
    | .directory _ _ entries =>
      let code ← changeOne orders path id
      return max code (← forAll entries fun (name, id) =>
        changeBelow orders depth (Tree.join path name) id)
    | _ => changeOne orders path id

private def changeGiven (orders : ChangeOrders) (path : Bytes) : Work Nat := do
  match ← look fun process machine => machine.tree.resolve process.directory path true with
  | .ok id =>
    if orders.descends then
      let size ← look fun _ machine => machine.tree.nodes.size
      changeBelow orders size path id
    else changeOne orders path id
  | .error errno =>
    let isLink ← look fun process machine =>
      (machine.tree.resolve process.directory path false).toOption.isSome
    if !orders.quiet then
      if isLink then fail (text "cannot operate on dangling symlink " ++ Quote.word path)
      else failFor (text "cannot access " ++ Quote.word path) errno
    tell orders (Quote.word path ++ text " could not be accessed")
    return 1

private def permissionOptions : List Known :=
  [.ofBoth 'c' "changes", .ofBoth 'R' "recursive", .ofName "no-preserve-root",
    .ofName "preserve-root", .ofBoth 'f' "quiet", (Known.ofName "reference").requiring,
    (Known.ofName "silent").meaning "quiet", .ofBoth 'v' "verbose"] ++
    "rwxXstugoa,+=01234567".toList.map fun letter => (Known.ofLetter letter).admitting

/-- The changes that stand where options do: a sign that takes away, and who loses what. -/
private def changesIn (arguments : Arguments) : List Bytes :=
  arguments.options.filterMap fun given =>
    match given.mark.toList with
    | [letter] => some (45 :: letter.toNat.toUInt8 :: given.argument.getD [])
    | _ => none

def changePermissions (arguments : List Bytes) : Work Nat := do
  let arguments ← understand permissionOptions false 1 arguments
  let given := changesIn arguments
  let reference := arguments.value? "reference"
  let (written, paths) := match given, reference, arguments.operands with
    | [], none, written :: paths => (written, paths)
    | given, _, paths => (Bytes.joinWith [44] given, paths)
  if paths.isEmpty then
    if arguments.operands.isEmpty then refuse 1 (text "missing operand")
    else refuse 1 (text "missing operand after " ++ Quote.text written)
  let change ← match reference with
    | some path =>
      match ← look fun process machine => machine.tree.resolve process.directory path true with
      | .ok id =>
        let bits ← look fun _ machine => Machine.permissions (machine.tree.node id)
        pure [⟨61, some Permissions.all, Permissions.all, .bits bits⟩]
      | .error errno =>
        failFor (text "failed to get attributes of " ++ Quote.word path) errno
        throw 1
    | none =>
      match Permissions.ofText? written with
      | some change => pure change
      | none => refuse 1 (text "invalid mode: " ++ Quote.text written)
  let telling : Telling := match (arguments.last? ["changes", "verbose"]).map Given.mark with
    | some "changes" => .changes
    | some _ => .everything
    | none => .nothing
  let orders : ChangeOrders := {
    change, telling, strict := !given.isEmpty, quiet := arguments.has "quiet"
    descends := arguments.has "recursive" }
  forAll paths (changeGiven orders)

end Tool

end LineShell
