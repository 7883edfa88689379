import LineShell.Machine.Script.Builtin.Basic
import LineShell.Machine.Script.Options
/-!
# Commands that declare variables
-/

namespace LineShell.Script.Builtin

/-- The name in a word that may give it a value, and that value. -/
private def declared (word : Bytes) : Bytes × Option Bytes :=
  match Bytes.cutAt 61 word with
  | some (name, value) => (name, some value)
  | none => (word, none)

/-- Gives variables a property, and values to those that words give values to. -/
private def declareAll (property : Variable → Variable) : List Bytes → Run Nat
  | [] => return 0
  | word :: rest => do
    let (name, value) := declared word
    if value.isNone && ((← get).bindings.lookup name).isSome then
      modify fun state => { state with bindings := state.bindings.change name property }
    else
      checkName name
      changeVariable name fun held => property { held with value }
    declareAll property rest

/-- Gives variables a property, or shows those that have it. -/
private def declare (has : Variable → Bool) (property : Variable → Variable) : Builtin :=
  fun arguments => do
    let (given, words) ← Options.read "p" arguments
    if given.isEmpty && !words.isEmpty then declareAll property words
    else
      let state ← get
      put (Variables.shown (state.bindings.filter fun entry => has entry.2)
        (state.acting.getD [] ++ [32]))

/-- Lets variables be handed down to programs. -/
def handDown : Builtin :=
  declare Variable.exported fun held => { held with exported := true }

/-- Keeps variables from being changed. -/
def fix : Builtin :=
  declare Variable.fixed fun held => { held with fixed := true }

/-- Makes a variable, or the modes of the script, the running function's own. -/
private def makeOwn (word : Bytes) : Run Unit := do
  if word = str "-" then
    modify fun state =>
      match state.frames with
      | [] => state
      | frame :: frames =>
        { state with frames := { frame with modes := frame.modes.or (some state.modes) } :: frames }
  else
    let (name, value) := declared word
    let known := ((← get).bindings.lookup name).isSome
    if value.isNone && !known then checkName name
    shadow name
    match value with
    | some value => setVariable name value
    | none => if !known then changeVariable name id

def localize : Builtin := fun words => do
  if (← get).frames.isEmpty then fail (str "not in a function")
  words.forM makeOwn
  return 0

private def unsetVariable (name : Bytes) : Run Unit := do
  checkName name
  checkChange name
  modify fun state =>
    State.noticing name { state with bindings := state.bindings.remove name }

def unset : Builtin := fun arguments => do
  let (given, names) ← Options.read "vf" arguments
  if given.getLast?.map Options.Given.letter = some 102 then
    modify fun state => { state with
      functions := state.functions.filter fun entry => !names.contains entry.1 }
  else names.forM unsetVariable
  return 0

end LineShell.Script.Builtin
