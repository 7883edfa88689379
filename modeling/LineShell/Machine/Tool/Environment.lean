import LineShell.Machine.Tool.Arguments
/-!
# Running a program in another environment

The arguments of the program that runs another one in a changed environment: options, then names
with values, then the words of the program to run. Without such words the environment is printed.
One option holds arguments in its argument, which is cut into words as a command interpreter does
it.
-/

namespace LineShell

/-- Gives a name a value in an environment. A name that has one keeps its place. -/
def Environment.assign (name value : Bytes) (environment : List (Bytes × Bytes)) :
    List (Bytes × Bytes) :=
  if environment.any fun entry => entry.1 == name then
    environment.map fun entry => if entry.1 = name then (name, value) else entry
  else environment ++ [(name, value)]

def Environment.remove (name : Bytes) (environment : List (Bytes × Bytes)) : List (Bytes × Bytes) :=
  environment.filter fun entry => entry.1 != name

/-- What is to be run in which environment and where. -/
structure Setting where
  environment : List (Bytes × Bytes)
  directory : Nat
  command : List Bytes

namespace Words

private def text (text : String) : Bytes := Bytes.ofString text

/-- Why a text cannot be cut into words. -/
inductive Fault where
  | unclosed
  | endsInBackslash
  | unknownEscape (byte : UInt8)
  | cutInQuotes
  /-- A sign for a value stands here with no name in braces behind it. -/
  | noName (rest : Bytes)
  deriving DecidableEq

def Fault.message : Fault → Bytes
  | unclosed => text "no terminating quote in -S string"
  | endsInBackslash => text "invalid backslash at end of string in -S"
  | unknownEscape byte => text "invalid sequence '\\" ++ [byte] ++ text "' in -S"
  | cutInQuotes => text "'\\c' must not appear in double-quoted -S string"
  | noName rest => text "only $\x7bVARNAME\x7d expansion is supported, error at: " ++ rest

private inductive Quotes where
  | none
  | single
  | double
  deriving DecidableEq

/-- The words so far, and the last of them as long as it goes on. -/
private structure Cut where
  words : List Bytes
  last : Option Bytes

private def Cut.add (cut : Cut) (bytes : Bytes) : Cut :=
  { cut with last := some (cut.last.getD [] ++ bytes) }

private def Cut.separate (cut : Cut) : Cut := ⟨cut.words ++ cut.last.toList, none⟩

private def isBlank (byte : UInt8) : Bool := byte == 32 || (9 ≤ byte && byte ≤ 13)

private def escaped? : UInt8 → Option UInt8
  | 34 => some 34
  | 35 => some 35
  | 36 => some 36
  | 39 => some 39
  | 92 => some 92
  | 102 => some 12
  | 110 => some 10
  | 114 => some 13
  | 116 => some 9
  | 118 => some 11
  | _ => none

/-- The name in braces at the start of a text, and what follows. -/
private def nameAt (rest : Bytes) : Option (Bytes × Bytes) :=
  match rest with
  | 123 :: rest =>
    match Bytes.cutAt 125 rest with
    | some (name, rest) =>
      let isLetter (byte : UInt8) : Bool :=
        byte == 95 || (65 ≤ byte && byte ≤ 90) || (97 ≤ byte && byte ≤ 122)
      let isRest (byte : UInt8) : Bool := isLetter byte || (48 ≤ byte && byte ≤ 57)
      if (name.take 1).any isLetter && name.all isRest then some (name, rest) else none
    | none => none
  | _ => none

/-- Cuts a text into words, given the values of names. -/
private def cutFrom (value? : Bytes → Option Bytes) :
    Nat → Quotes → Cut → Bytes → Except Fault (List Bytes)
  | 0, _, cut, _ => .ok cut.separate.words
  | _, quotes, cut, [] => if quotes = .none then .ok cut.separate.words else .error .unclosed
  | steps + 1, quotes, cut, byte :: rest =>
    let go := cutFrom value? steps
    let plain := go quotes (cut.add [byte]) rest
    if byte = 39 && quotes ≠ .double then
      go (if quotes = .single then .none else .single) (cut.add []) rest
    else if byte = 34 && quotes ≠ .single then
      go (if quotes = .double then .none else .double) (cut.add []) rest
    else if isBlank byte && quotes = .none then go quotes cut.separate rest
    else if byte = 35 && cut.last.isNone then .ok cut.words
    else if byte = 92 then
      let next := rest.headD 0
      if quotes = .single && next ≠ 92 && next ≠ 39 then plain
      else if rest.isEmpty then .error .endsInBackslash
      else if next = 95 then
        go quotes (if quotes = .double then cut.add [32] else cut.separate) rest.tail
      else if next = 99 then
        if quotes = .double then .error .cutInQuotes else .ok cut.separate.words
      else match escaped? next with
        | some byte => go quotes (cut.add [byte]) rest.tail
        | none => .error (.unknownEscape next)
    else if byte = 36 && quotes ≠ .single then
      match nameAt rest with
      | none => .error (.noName (byte :: rest))
      | some (name, rest) =>
        match value? name with
        | some value => go quotes (cut.add value) rest
        | none => go quotes cut rest
    else plain

def ofText (value? : Bytes → Option Bytes) (text : Bytes) : Except Fault (List Bytes) :=
  cutFrom value? (text.length + 1) .none ⟨[], none⟩ text

end Words

namespace Tool

/-- The exit code of the program if it cannot run another one for a reason of its own. -/
def settingFailure : Nat := 125

/-- Letters that stand for nothing, but show that several arguments have come as one. -/
private def blanks : List Char := [' ', '\t', '\n', '\r', '\x0b', '\x0c']

private def settingOptions : List Known :=
  [.ofBoth 'i' "ignore-environment", .ofBoth '0' "null", (Known.ofBoth 'u' "unset").requiring,
    (Known.ofBoth 'C' "chdir").requiring, (Known.ofName "default-signal").admitting,
    (Known.ofName "ignore-signal").admitting, (Known.ofName "block-signal").admitting,
    .ofName "list-signal-handling", .ofBoth 'v' "debug",
    (Known.ofBoth 'S' "split-string").requiring.ending] ++
    blanks.map fun blank => (Known.ofLetter blank).ending

private def describe (verbose : Bool) (head : String) (what : Bytes) : Work Unit := do
  if verbose then
    let _ ← say 2 (text head ++ what ++ [10])

/-- Reads options, and those that are in the argument of one, up to a number of times. -/
private def readOptions : Nat → Bool → List Bytes → Work Arguments
  | 0, _, arguments => return ⟨[], arguments⟩
  | times + 1, verbose, arguments => do
    let found ← understand settingOptions true settingFailure arguments
    if let some blank := found.last? (blanks.map Char.toString) then
      fail (text ("invalid option -- '" ++ blank.mark ++ "'"))
      refuse settingFailure (text "use -[v]S to pass options in shebang lines")
    let verbose := verbose || found.has "debug"
    match found.options.getLast? with
    | some ⟨"split-string", some argument⟩ =>
      let process := (← read).process
      match Words.ofText process.value? argument with
      | .error fault => die settingFailure fault.message
      | .ok words =>
        describe verbose "split -S:  " (Quote.text argument)
        for (word, index) in words.zipIdx do
          describe verbose (if index = 0 then " into:    " else "     &    ") (Quote.text word)
        let others ← readOptions times verbose (words ++ found.operands)
        return ⟨found.options ++ others.options, others.operands⟩
    | _ => return found

/-- The names with values at the start of words, and what follows. -/
private def assignments : List Bytes → List (Bytes × Bytes) × List Bytes
  | [] => ([], [])
  | word :: rest =>
    match Bytes.cutAt 61 word with
    | some entry =>
      let (found, rest) := assignments rest
      (entry :: found, rest)
    | none => ([], word :: rest)

/-- The environment after the options have been followed. -/
private def cleared (verbose : Bool) (found : Arguments) (isEmpty : Bool) :
    Work (List (Bytes × Bytes)) := do
  if isEmpty then
    if verbose then
      let _ ← say 2 (text "cleaning environ\n")
    return []
  else
    let names := found.options.filterMap fun given =>
      if given.mark = "unset" then given.argument else none
    names.foldlM
      (fun environment name => do
        describe verbose "unset:    " name
        if name.isEmpty || name.contains 61 then
          failFor (text "cannot unset " ++ Quote.text name) .invalid
          throw settingFailure
        return Environment.remove name environment)
      (← read).process.environment

def environmentLines (lineEnd : UInt8) (environment : List (Bytes × Bytes)) : Bytes :=
  environment.flatMap fun entry => entry.1 ++ [61] ++ entry.2 ++ [lineEnd]

private def listIgnored (signal : Signal) : Work Unit := do
  let name := text signal.shortName
  let number := Bytes.ofNat signal.number
  let fill (width : Nat) (shown : Bytes) : Bytes := List.replicate (width - shown.length) 32
  let _ ← say 2 (name ++ fill 10 name ++ text " (" ++ fill 2 number ++ number ++ text "): IGNORE\n")

/-- The setting that arguments ask for. If they name no program, the environment is printed and that
is all. -/
def prepareSetting (arguments : List Bytes) : Work Setting := do
  let found ← readOptions 100 false arguments
  let (isEmpty, words) := match found.operands with
    | [45] :: words => (true, words)
    | words => (found.has "ignore-environment", words)
  let verbose := found.has "debug"
  let environment ← cleared verbose found isEmpty
  let (changes, command) := assignments words
  let environment ← changes.foldlM
    (fun environment (name, value) => do
      describe verbose "setenv:   " (name ++ [61] ++ value)
      return Environment.assign name value environment)
    environment
  let isNull := found.has "null"
  if isNull && !command.isEmpty then
    refuse settingFailure (text "cannot specify --null (-0) with command")
  let target := found.value? "chdir"
  if target.isSome && command.isEmpty then
    refuse settingFailure (text "must specify command with --chdir (-C)")
  if command.isEmpty then
    put (environmentLines (if isNull then 0 else 10) environment)
    throw 0
  let process := (← read).process
  if found.has "list-signal-handling" then process.ignored.forM listIgnored
  let directory ← match target with
    | none => pure process.directory
    | some path =>
      describe verbose "chdir:    " (Quote.text path)
      let found ← look fun _ machine => do
        let id ← machine.tree.resolve process.directory path true
        let _ ← machine.tree.entries id
        return id
      match found with
      | .ok id => pure id
      | .error errno =>
        failFor (text "cannot change directory to " ++ Quote.text path) errno
        throw settingFailure
  describe verbose "executing: " (command.headD [])
  for (word, index) in command.zipIdx do
    describe verbose ("   arg[" ++ toString index ++ "]= ") (Quote.text word)
  return ⟨environment, directory, command⟩

/-- Prints the whole environment, or the values of some names. -/
def printEnvironment (arguments : List Bytes) : Work Nat := do
  let arguments ← understand [.ofBoth '0' "null"] true 2 arguments
  let lineEnd : UInt8 := if arguments.has "null" then 0 else 10
  let process := (← read).process
  if arguments.operands.isEmpty then
    put (environmentLines lineEnd process.environment)
    return 0
  else
    let values := arguments.operands.map fun name =>
      if name.contains 61 then none else process.value? name
    put (values.flatMap fun value => (value.map (· ++ [lineEnd])).getD [])
    return if values.all Option.isSome then 0 else 1

end Tool

end LineShell
