import LineShell.Machine.Script.Builtin
import LineShell.Machine.Script.Grammar
import LineShell.Machine.Script.Redirect
/-!
# Simple commands

A simple command is a function, a command of the interpreter or a program, by the first of its
words. One command of the interpreter tells that its first argument is no function. The words of a
simple command are expanded first, then its redirections are carried out, and then the variables in
front of it are given their values, for the time of the command only unless it is special.
-/

namespace LineShell.Script.Simple

/-- The words of a command as they are being expanded. -/
private structure Words where
  fields : List Bytes
  /-- The words that have not been expanded. -/
  rest : List Word

/-- Expands words until there are more fields than a number, or no more words. -/
private def fill (interpreter : Interpreter) (count : Nat) (fields : List Bytes) :
    List Word → Run Words
  | [] => return ⟨fields, []⟩
  | word :: rest => do
    if count < fields.length then return ⟨fields, word :: rest⟩
    fill interpreter count (fields ++ (← expandWord interpreter word)) rest

/-- What is known of a command by its first words. -/
private structure Choice where
  words : Words
  /-- How many words stand in front of the name. -/
  skipped : Nat
  /-- Whether the name is that of no function. -/
  direct : Bool
  /-- Whether a program is looked for on the standard search path. -/
  standard : Bool
  /-- What kind of command of the interpreter it is, if it is one. -/
  kind : Option Builtin.Kind
  /-- Whether the first word is that of a special command of the interpreter. -/
  special : Bool

/-- How many words are looked at in front of a name. -/
private def wordLimit : Nat := 1000

/-- Passes options that tell how a name is looked for. The result is missing if there are others, or
if no name follows. -/
private def passOptions (interpreter : Interpreter) (choice : Choice) (position : Nat) :
    Nat → Run (Words × Option Choice)
  | 0 => return (choice.words, none)
  | steps + 1 => do
    let words ← fill interpreter position choice.words.fields choice.words.rest
    let choice := { choice with words }
    match words.fields[position]? with
    | none => return (words, none)
    | some [45, 45] =>
      let words ← fill interpreter (position + 1) words.fields words.rest
      if words.fields.length ≤ position + 1 then return (words, none)
      else return (words, some { choice with words, skipped := position + 1 })
    | some (45 :: letter :: letters) =>
      if (letter :: letters).all (· == 112) then
        passOptions interpreter { choice with standard := true } (position + 1) steps
      else return (words, none)
    | some _ => return (words, some { choice with skipped := position })

/-- Finds out what the name of a command is. -/
private def identify (interpreter : Interpreter) (choice : Choice) : Nat → Run Choice
  | 0 => return choice
  | steps + 1 => do
    let name := choice.words.fields.getD choice.skipped []
    let isFunction := !choice.direct && ((← get).functions.lookup name).isSome
    match if isFunction then none else Builtin.kindOf? name with
    | none => return { choice with kind := none }
    | some kind =>
      let special := if choice.skipped = 0 then kind.special else choice.special
      let choice := { choice with kind := some kind, special }
      if name ≠ str "command" then return choice
      match ← passOptions interpreter choice (choice.skipped + 1) wordLimit with
      | (words, none) => return { choice with words }
      | (_, some passed) => identify interpreter { passed with direct := true } steps

/-- Expands the words of a command. Words that look like assignments are not cut into fields behind
a command that declares. -/
private def choose (interpreter : Interpreter) (words : List Word) : Run Choice := do
  let words ← fill interpreter 0 [] words
  let choice : Choice := ⟨words, 0, false, false, none, false⟩
  if words.fields.isEmpty then return choice
  let choice ← identify interpreter choice wordLimit
  let declares := (choice.kind.map Builtin.Kind.declares).getD false
  let more ← choice.words.rest.mapM fun word => do
    match if declares then assignment? word else none with
    | some (name, value) => return [name ++ [61] ++ (← expandValue interpreter value)]
    | none => expandWord interpreter word
  return { choice with words := ⟨choice.words.fields ++ more.flatten, []⟩ }

/-- Gives variables their values, for the time of the command or for good. -/
private def assign (interpreter : Interpreter) (own exported : Bool) :
    List (Bytes × Word) → Run (List Bytes)
  | [] => return []
  | (name, word) :: rest => do
    let value ← expandValue interpreter word
    if own then shadow name
    changeVariable name fun held =>
      { held with value := some value, exported := held.exported || exported }
    return (name ++ [61] ++ value) :: (← assign interpreter own exported rest)

private def traceHead (interpreter : Interpreter) : Run Bytes := do
  let state ← get
  let text := (state.lookup? (str "PS4")).getD []
  match Grammar.quotedWord (.ofText text 1 state.aliases state.documents) with
  | .error _ => return text
  | .ok word =>
    modify fun state => { state with tracing := true }
    thenAlways (expandDocument interpreter word)
      (modify fun after => { after with tracing := state.tracing })

/-- Shows a command, if commands are traced. It is shown where errors went before its
redirections. -/
private def trace (interpreter : Interpreter) (former : List (Nat × Option Nat))
    (words : List Bytes) : Run Unit := do
  let state ← get
  if state.isIn .xtrace && !state.tracing then
    let line := (← traceHead interpreter) ++ Bytes.joinWith [32] words ++ [10]
    match (former.lookup 2).join with
    | some file => modify fun state => { state with machine := (state.machine.write file line).2 }
    | none =>
      let _ ← say 2 line

private def call (interpreter : Interpreter) (body : Command) (arguments : List Bytes) :
    Run Nat := do
  let before ← get
  modify fun state =>
    { state with parameters := arguments, optionPlace := .first, loops := 0 }
  thenAlways
    (do
      try interpreter.run body
      catch
        | .returned code => return code
        | halt => throw halt)
    (modify fun state => { state with
      parameters := before.parameters, optionPlace := before.optionPlace, loops := before.loops })

/-- The path of the program with a name. One that is found on the search path of the script is
remembered. -/
private def programPath (standard : Bool) (name : Bytes) : Run (Except Errno Bytes) := do
  let state ← get
  if name.contains 47 then return .ok name
  else if standard then return locate state Variables.standardPath name
  else match state.found.lookup name with
    | some path => return .ok path
    | none =>
      match locate state (searchPath state) name with
      | .ok path =>
        remember name path
        return .ok path
      | .error errno => return .error errno

/-- Runs a program, in the place of the script if that has nothing more to do. -/
private def runProgram (interpreter : Interpreter) (last standard : Bool) (words : List Bytes) :
    Run Nat := do
  let name := words.headD []
  match ← programPath standard name with
  | .error errno =>
    complain (name ++ str ": " ++ reasonOf errno)
    return 127
  | .ok path =>
    let go : Run Nat := becomeProgram interpreter (.ok path) words
    if last && (← get).traps.all fun trap => trap.2.isEmpty then go else inChild interpreter go

/-- Runs a command of the interpreter. A failure of one that is not special is a status. -/
private def runBuiltin (interpreter : Interpreter) (special : Bool) (name : Bytes)
    (arguments : List Bytes) : Run Nat := do
  try actingAs (some name) (Builtin.run interpreter name arguments)
  catch
    | .failed => if special then throw .failed else return (← get).status
    | halt => throw halt

/-- Runs a command whose words have been expanded. -/
private def perform (interpreter : Interpreter) (last : Bool) (choice : Choice) : Run Nat := do
  match choice.words.fields.drop choice.skipped, choice.kind with
  | [], _ => return (← get).inner
  | name :: arguments, some _ => runBuiltin interpreter choice.special name arguments
  | name :: arguments, none =>
    let state ← get
    match if choice.direct then none else state.functions.lookup name with
    | some body => call interpreter body arguments
    | none => runProgram interpreter last choice.standard (name :: arguments)

def run (interpreter : Interpreter) (last : Bool) (assignments : List (Bytes × Word))
    (words : List Word) (redirections : List Redirection) : Run Nat := do
  modify fun state => { state with inner := 0 }
  let choice ← choose interpreter words
  let fields := choice.words.fields
  let special := choice.kind.isSome && choice.special
  let replaces := choice.kind.isSome && fields[choice.skipped]? == some (str "exec")
  let targets ← Redirection.expandAll interpreter redirections
  let former ← Redirection.former targets
  let work (own : Bool) : Run Nat := do
    let exported := own || (replaces && choice.skipped + 1 < fields.length)
    let assigned ← assign interpreter own exported assignments
    trace interpreter former (assigned ++ fields)
    perform interpreter last choice
  let guarded : Run Nat := do
    if ← Redirection.succeeds interpreter targets then
      if fields.isEmpty || special then work false else inFrame (work true)
    else if special then throw .failed
    else return 2
  if replaces then guarded else thenAlways guarded (Redirection.restore former)

end LineShell.Script.Simple
