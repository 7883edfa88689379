import LineShell.Machine.Script.Arithmetic
import LineShell.Machine.Script.Child
import LineShell.Machine.Script.Pattern
import LineShell.Machine.Script.Tilde
/-!
# Expansion of words

A word is expanded into bytes that know whether they were quoted and whether they came out of a
parameter or a substitution. Those that did are cut into fields where they are not quoted, and a
field with unquoted signs of a pattern becomes the paths that fit it, if there are any.
-/

namespace LineShell.Script

/-- A part of an expanded word. -/
inductive Cell where
  | byte (byte : UInt8) (quoted splits : Bool)
  /-- Nothing, but enough to make a field. -/
  | present
  /-- The end of a field. -/
  | gap

/-- The bytes of a parameter or a substitution. -/
private def substituted (quoted : Bool) (bytes : Bytes) : List Cell :=
  let cells := bytes.map (Cell.byte · quoted true)
  if quoted then .present :: cells else cells

/-- The bytes of some cells, with a space in each gap. -/
def textOf (cells : List Cell) : Bytes :=
  cells.flatMap fun
    | .byte byte _ _ => [byte]
    | .present => []
    | .gap => [32]

def writtenOf (cells : List Cell) : Pattern.Written :=
  cells.filterMap fun
    | .byte byte quoted _ => some (byte, quoted)
    | _ => none

private def separators (state : State) : Bytes :=
  (state.lookup? (str "IFS")).getD [32, 9, 10]

/-- Whether a name stands for all positional parameters. -/
private def isAll (name : Bytes) : Bool := name == [42] || name == [64]

/-- The texts that a parameter has, if it is set. All positional parameters are as many texts where
the word is cut into fields, unless they are quoted and the name is not the at sign. Otherwise they
are one text, with the first separator of fields between them. -/
private def texts? (state : State) (cut : Bool) (name : Bytes) (quoted : Bool) :
    Option (List Bytes) :=
  if isAll name then
    let apart := cut && if quoted then name == [64] else (state.lookup? (str "IFS")).isSome
    some (if apart then state.parameters
      else [Bytes.joinWith ((separators state).take 1) state.parameters])
  else (state.value? name).map fun value => [value]

/-- How long some texts are with one byte between each two. -/
private def lengthOf (texts : List Bytes) : Nat :=
  texts.foldl (fun length text => length + text.length) (texts.length - 1)

/-- Those texts of a parameter that count as a value. -/
private def given? (emptyToo : Bool) (texts : Option (List Bytes)) : Option (List Bytes) :=
  if emptyToo then texts.filter fun texts => lengthOf texts != 0 else texts

/-- The fields that the texts of a parameter become. -/
private def apart (quoted : Bool) (texts : List Bytes) : List Cell :=
  ((texts.map (substituted quoted)).intersperse [.gap]).flatten

/-- Runs a command in a process of its own and collects what it writes, without the line ends behind
it. -/
private def outputOf (interpreter : Interpreter) (command : Command) : Run Bytes := do
  let (file, machine) := (← get).machine.openNameless (.file 0o600 .empty)
  modify fun state => { state with machine }
  let ending ← inChildAs interpreter (·.assign 1 file)
    (testing false (interpreter (.command command true)))
  modify fun state => { state with inner := statusOf ending }
  let machine := (← get).machine
  let written := match machine.files[file]? with
    | none => []
    | some opened => match machine.tree.node opened.node with
      | .file _ content => content.toList
      | _ => []
  return ((written.filter (· != 0)).reverse.dropWhile (· == 10)).reverse

/-- Cells as they are when they stand for a missing value: what is not quoted is cut into fields. -/
private def cutting (cells : List Cell) : List Cell :=
  cells.map fun
    | .byte byte quoted _ => .byte byte quoted true
    | cell => cell

/-- Checks that a parameter has a value, where that is asked for. -/
private def checkSet (name : Bytes) : Run Unit := do
  let state ← get
  if state.isIn .nounset && !isAll name && (state.value? name).isNone then
    fail (name ++ str ": parameter not set")

/-- The cells of an unquoted text. The home directories in it are quoted. -/
private def plainCells (scope : Tilde.Scope) (start final : Bool) (text : Bytes) :
    Run (List Cell) := do
  let state ← get
  let home? := Tilde.home? state.machine.tree (state.lookup? (str "HOME"))
  return (Tilde.pieces scope home? start final text).flatMap fun (bytes, isHome) =>
    let cells := bytes.map (Cell.byte · isHome false)
    if isHome then .present :: cells else cells

mutual

/-- Expands a part of a word, which will be cut into fields or not. -/
private def expandPart (interpreter : Interpreter) (cut : Bool) (scope : Tilde.Scope)
    (start final : Bool) : Part → Run (List Cell)
  | .text bytes true => pure (.present :: bytes.map (Cell.byte · true false))
  | .text bytes false => plainCells scope start final bytes
  | .output command quoted => do
    return substituted quoted (← outputOf interpreter command)
  | .arithmetic source quoted => do
    let text := textOf (← expandParts interpreter false .nowhere true source)
    let state ← get
    match Arithmetic.evaluate state.lookup? text with
    | .ok (n, given) =>
      given.forM fun (name, value) => setVariable name value
      return substituted quoted (Bytes.ofInt n)
    | .error fault => fail (fault.text text)
  | .parameter name operation argument quoted => do
    let inner : Tilde.Scope := if quoted then .nowhere else if scope = .value then .value else .word
    let value (cut : Bool) : Run (Option (List Bytes)) := do
      return texts? (← get) cut name quoted
    let plain : Run (List Cell) := do
      checkSet name
      return apart quoted ((← value cut).getD [[]])
    match operation with
    | .plain => plain
    | .unknown => fail (str "Bad substitution")
    | .length =>
      checkSet name
      return substituted quoted (Bytes.ofNat (lengthOf ((← value false).getD [])))
    | .otherwise emptyToo =>
      if (given? emptyToo (← value cut)).isSome then plain
      else return cutting (← expandParts interpreter cut inner true argument)
    | .instead emptyToo =>
      if (given? emptyToo (← value false)).isSome then
        return cutting (← expandParts interpreter cut inner true argument)
      else return substituted quoted []
    | .assign emptyToo =>
      if (given? emptyToo (← value cut)).isNone then
        let text := textOf (← expandParts interpreter false inner true argument)
        checkName name
        setVariable name text
      plain
    | .require emptyToo =>
      if (given? emptyToo (← value cut)).isNone then
        let reason := textOf (← expandParts interpreter false inner true argument)
        fail (name ++ str ": " ++
          if !reason.isEmpty then reason
          else if emptyToo then str "parameter not set or null"
          else str "parameter not set")
      plain
    | .trim atEnd longest =>
      checkSet name
      match ← value cut with
      | none => return substituted quoted []
      | some _ =>
        let written := writtenOf (← expandParts interpreter false inner true argument)
        let pattern := Pattern.ofWritten written
        let texts := (← value cut).getD [[]]
        return apart quoted
          (if atEnd then pattern.trimEnd longest texts else pattern.trimStart longest texts)

private def expandParts (interpreter : Interpreter) (cut : Bool) (scope : Tilde.Scope)
    (start : Bool) : List Part → Run (List Cell)
  | [] => pure []
  | part :: rest => do
    let cells ← expandPart interpreter cut scope start rest.isEmpty part
    return cells ++ (← expandParts interpreter cut scope false rest)

end

/-- Where a cutting into fields stands. -/
private structure Cutting where
  done : List (List Cell)
  /-- The field being read, its last cell first. -/
  field : Option (List Cell)
  /-- Whether blank separators have just ended a field. -/
  blank : Bool

private def Cutting.close (cutting : Cutting) (blank : Bool) : Cutting :=
  match cutting.field with
  | none => { cutting with blank := cutting.blank && blank }
  | some field => ⟨field.reverse :: cutting.done, none, blank⟩

private def Cutting.step (separators : Bytes) (cutting : Cutting) (cell : Cell) : Cutting :=
  let keep : Cutting := ⟨cutting.done, some (cell :: cutting.field.getD []), false⟩
  match cell with
  | .gap => cutting.close true
  | .byte byte false true =>
    if !separators.contains byte then keep
    else if [32, 9, 10].contains byte then cutting.close true
    else match cutting.field with
      | some _ => cutting.close false
      | none =>
        if cutting.blank then { cutting with blank := false }
        else { cutting with done := [] :: cutting.done }
  | _ => keep

private def fieldsOf (separators : Bytes) (cells : List Cell) : List (List Cell) :=
  ((cells.foldl (Cutting.step separators) ⟨[], none, false⟩).close false).done.reverse

def expandWord (interpreter : Interpreter) (word : Word) : Run (List Bytes) := do
  let cells ← expandParts interpreter true .word true word
  let state ← get
  return (fieldsOf (separators state) cells).flatMap fun field =>
    if state.isIn .noglob then [textOf field]
    else match Pattern.paths state.machine.tree state.process.directory (writtenOf field) with
      | [] => [textOf field]
      | paths => paths

def expandWords (interpreter : Interpreter) : List Word → Run (List Bytes)
  | [] => pure []
  | word :: rest => do
    let fields ← expandWord interpreter word
    return fields ++ (← expandWords interpreter rest)

/-- The text that a word becomes where it is not cut into fields. -/
def expandText (interpreter : Interpreter) (word : Word) : Run Bytes := do
  return textOf (← expandParts interpreter false .word true word)

/-- The text that becomes the value of a variable. -/
def expandValue (interpreter : Interpreter) (word : Word) : Run Bytes := do
  return textOf (← expandParts interpreter false .value true word)

/-- The text that the parts of a text within the script become. -/
def expandDocument (interpreter : Interpreter) (document : Word) : Run Bytes := do
  return textOf (← expandParts interpreter false .nowhere true document)

def expandPattern (interpreter : Interpreter) (word : Word) : Run Pattern := do
  return Pattern.ofWritten (writtenOf (← expandParts interpreter false .word true word))

end LineShell.Script
