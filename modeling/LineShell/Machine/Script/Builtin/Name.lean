import LineShell.Machine.Script.Builtin.Basic
import LineShell.Machine.Script.Program
/-!
# Commands for the names of commands

What a name stands for: a keyword, an alias, a function, a command of the interpreter or a program.
A program that has been found by its name is remembered.
-/

namespace LineShell.Script.Builtin

private inductive Meaning where
  | program (path : Bytes) (remembered : Bool)
  | function
  | builtin (kind : Kind)
  | nothing (errno : Errno)

/-- What a name stands for on a search path. -/
private def meaning (path? : Option Bytes) (name : Bytes) : Run Meaning := do
  let state ← get
  if name.contains 47 then
    match state.machine.tree.resolve state.process.directory name true with
    | .ok _ => return .program name false
    | .error errno => return .nothing errno
  else if (state.functions.lookup name).isSome then return .function
  else match kindOf? name with
    | some kind => return .builtin kind
    | none =>
      match if path?.isNone then state.found.lookup name else none with
      | some path => return .program path true
      | none =>
        match locate state (path?.getD (searchPath state)) name with
        | .error errno => return .nothing errno
        | .ok path =>
          if path?.isNone then remember name path
          return .program path false

/-- Tells what a name stands for, in a sentence or in a word. -/
private def describe (sentence : Bool) (path? : Option Bytes) (name : Bytes) :
    Run (Bytes × Nat) := do
  let state ← get
  let tell (text : String) (word : Bytes) : Bytes × Nat :=
    ((if sentence then name ++ str text else word) ++ [10], 0)
  if (Keyword.ofText? name).isSome then return tell " is a shell keyword" name
  match state.aliases.lookup name with
  | some text =>
    return if sentence then (name ++ str " is an alias for " ++ text ++ [10], 0)
      else (str "alias " ++ name ++ [61] ++ Variables.quoted text ++ [10], 0)
  | none =>
    match ← meaning path? name with
    | .program path remembered =>
      let link := if remembered then " is a tracked alias for " else " is "
      return if sentence then (name ++ str link ++ path ++ [10], 0) else (path ++ [10], 0)
    | .function => return tell " is a shell function" name
    | .builtin kind =>
      return tell (if kind.special then " is a special shell builtin" else " is a shell builtin") name
    | .nothing _ => return (if sentence then name ++ str ": not found\n" else [], 127)

def type : Builtin := fun names => do
  let told ← names.mapM (describe true none)
  let status ← put (told.flatMap Prod.fst)
  return if told.any fun entry => entry.2 ≠ 0 then 127 else status

/-- Tells what the name of a command stands for. -/
def command : Builtin := fun arguments => do
  let (given, names) ← Options.read "pvV" arguments
  let sentence := Options.has given 'V'
  let path? := if Options.has given 'p' then some Variables.standardPath else none
  match names with
  | [] => return 0
  | name :: _ =>
    if sentence || Options.has given 'v' then
      let (told, status) ← describe (sentence && !Options.has given 'v') path? name
      return max (← put told) status
    else return 0

/-- How many groups the names of programs are kept in. -/
private def programGroups : Nat := 31

private def programGroup (name : Bytes) : Nat :=
  name.foldl (fun total byte => total + byte.toNat) ((name.headD 0).toNat * 16) % programGroups

private def hashEach (status : Nat) : List Bytes → Run Nat
  | [] => return status
  | name :: rest => do
    modify fun state => { state with found := state.found.filter fun entry => entry.1 != name }
    match ← if name.contains 47 then pure (.program name false) else meaning none name with
    | .nothing errno =>
      complain (name ++ str ": " ++ reasonOf errno)
      hashEach 1 rest
    | _ => hashEach status rest

/-- Finds programs by their names, shows those found so far, or forgets them. -/
def hash : Builtin := fun arguments => do
  let (given, names) ← Options.read "r" arguments
  if !given.isEmpty then
    modify fun state => { state with found := [] }
    return 0
  else if names.isEmpty then
    let found := (← get).found
    put ((List.range programGroups).flatMap fun group =>
      (found.filter fun entry => programGroup entry.1 == group).flatMap fun entry => entry.2 ++ [10])
  else hashEach 0 names

private def shownAlias (entry : Bytes × Bytes) : Bytes :=
  entry.1 ++ [61] ++ Variables.quoted entry.2 ++ [10]

private def aliasOne (word : Bytes) : Run (Bytes × Nat) := do
  let aliases := (← get).aliases
  match Bytes.cutAt 61 word.tail with
  | some (name, text) =>
    let name := word.take 1 ++ name
    let kept := if (aliases.lookup name).isSome then
        aliases.map fun entry => if entry.1 = name then (name, text) else entry
      else aliases ++ [(name, text)]
    modify fun state => { state with aliases := kept }
    return ([], 0)
  | none =>
    match aliases.lookup word with
    | some text => return (shownAlias (word, text), 0)
    | none =>
      let _ ← say 2 (str "alias: " ++ word ++ str " not found\n")
      return ([], 1)

def setAlias : Builtin := fun words => do
  if words.isEmpty then
    let aliases := (← get).aliases
    put ((List.range Variables.groupCount).flatMap fun group =>
      (aliases.filter fun entry => Variables.groupOf entry.1 == group).flatMap shownAlias)
  else
    let results ← words.mapM aliasOne
    let status ← put (results.flatMap Prod.fst)
    return if results.any fun result => result.2 ≠ 0 then 1 else status

private def unaliasEach (status : Nat) : List Bytes → Run Nat
  | [] => return status
  | name :: rest => do
    let aliases := (← get).aliases
    if (aliases.lookup name).isSome then
      modify fun state => { state with aliases := aliases.filter fun entry => entry.1 != name }
      unaliasEach status rest
    else
      let _ ← say 2 (str "unalias: " ++ name ++ str " not found\n")
      unaliasEach 1 rest

def unalias : Builtin := fun arguments => do
  let (given, names) ← Options.read "a" arguments
  if given.isEmpty then unaliasEach 0 names
  else
    modify fun state => { state with aliases := [] }
    return 0

end LineShell.Script.Builtin
