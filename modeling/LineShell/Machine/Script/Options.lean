import LineShell.Machine.Script.State
/-!
# Options of a script

The modes of a script are set and cleared by options, when the interpreter is called and later.
Other commands have options of one letter each, some of which take an argument.
-/

namespace LineShell.Script.Options

/-- Sets or clears a mode. The two ways to edit lines exclude each other, and job control needs a
terminal, which there is none of. -/
private def put (mode : Mode) (on : Bool) : Run Unit := do
  if mode = .monitor ∧ on then complain (str "can't access tty; job control turned off")
  else
    modify fun state =>
      let others := state.modes.filter fun other =>
        other != mode && !(on && ((mode == .vi && other == .emacs) || (mode == .emacs && other == .vi)))
      { state with modes := if on then mode :: others else others }

private def putLetter (letter : UInt8) (on : Bool) : Run Unit := do
  match Mode.ofLetter? letter with
  | some mode => put mode on
  | none => fail (str "Illegal option -" ++ [letter])

private def put1 (bytes : Bytes) : Run Unit := do
  let _ ← say 1 bytes

/-- Shows all modes, as a table or as commands. -/
private def showAll (table : Bool) : Run Unit := do
  let state ← get
  let lines := Mode.all.map fun (mode, name, _) =>
    if table then
      str (name ++ "".pushn ' ' (16 - name.length)) ++
        (if state.isIn mode then str "on" else str "off") ++ [10]
    else str "set " ++ [if state.isIn mode then 45 else 43] ++ str ("o " ++ name) ++ [10]
  put1 ((if table then str "Current option settings\n" else []) ++ lines.flatten)

/-- What the arguments of the interpreter ask for. -/
structure Request where
  /-- Whether the first of the other arguments is a script. -/
  wantsText : Bool
  /-- The arguments behind the options. -/
  rest : List Bytes

/-- Reads the letters of an option. The result tells whether a script is asked for, and gives the
arguments that are left. -/
private def readLetters (calling on : Bool) (wantsText : Bool) (rest : List Bytes) :
    Bytes → Run (Bool × List Bytes)
  | [] => return (wantsText, rest)
  | letter :: letters => do
    if calling && letter = 99 then readLetters calling on true rest letters
    else if calling && letter = 108 then readLetters calling on wantsText rest letters
    else if letter = 111 then
      match rest with
      | [] =>
        showAll on
        readLetters calling on wantsText [] letters
      | name :: rest =>
        match Mode.ofName? name with
        | some mode => put mode on
        | none => fail (str "Illegal option -o " ++ name)
        readLetters calling on wantsText rest letters
    else
      putLetter letter on
      readLetters calling on wantsText rest letters

private def readAll (calling wantsText : Bool) : Nat → List Bytes → Run (Bool × List Bytes × Bool)
  | 0, rest => return (wantsText, rest, false)
  | _, [] => return (wantsText, [], false)
  | steps + 1, argument :: rest => do
    match argument with
    | [45] =>
      if !calling then
        modify fun state => { state with
          modes := state.modes.filter fun mode => mode != .xtrace && mode != .verbose }
      return (wantsText, rest, false)
    | [45, 45] => return (wantsText, rest, true)
    | 45 :: letters =>
      let (wantsText, rest) ← readLetters calling true wantsText rest letters
      readAll calling wantsText steps rest
    | 43 :: letters =>
      let (wantsText, rest) ← readLetters calling false wantsText rest letters
      readAll calling wantsText steps rest
    | _ => return (wantsText, argument :: rest, false)

/-- Reads the options that the interpreter is called with. -/
def ofInvocation (arguments : List Bytes) : Run Request := do
  let (wantsText, rest, _) ← readAll true false (arguments.length + 1) arguments
  return ⟨wantsText, rest⟩

/-- Reads the options that a script sets, and then the positional parameters, if there are any or if
they are to be none. -/
def set (arguments : List Bytes) : Run Unit := do
  let (_, rest, cleared) ← readAll false false (arguments.length + 1) arguments
  if !rest.isEmpty || cleared then
    modify fun state => { state with parameters := rest, optionPlace := .first }

/-- An option of a command, and its argument if it takes one. -/
structure Given where
  letter : UInt8
  argument : Bytes
  deriving DecidableEq

/-- Reads the options of a command: the letters that it knows, with a colon behind those that take
an argument. -/
private def readKnown (known : Bytes) : Nat → List Bytes → Run (List Given × List Bytes)
  | 0, rest => return ([], rest)
  | _, [] => return ([], [])
  | steps + 1, argument :: rest => do
    match argument with
    | [45, 45] => return ([], rest)
    | 45 :: letter :: letters =>
      if letter = 58 || !known.contains letter then fail (str "Illegal option -" ++ [letter])
      else if (known.dropWhile (· != letter))[1]? = some 58 then
        match letters, rest with
        | [], [] => fail (str "No arg for -" ++ [letter] ++ str " option")
        | [], value :: rest =>
          let (given, rest) ← readKnown known steps rest
          return (⟨letter, value⟩ :: given, rest)
        | value, rest =>
          let (given, rest) ← readKnown known steps rest
          return (⟨letter, value⟩ :: given, rest)
      else
        let rest := if letters.isEmpty then rest else (45 :: letters) :: rest
        let (given, rest) ← readKnown known steps rest
        return (⟨letter, []⟩ :: given, rest)
    | _ => return ([], argument :: rest)

/-- The options of a command and its other arguments. -/
def read (known : String) (arguments : List Bytes) : Run (List Given × List Bytes) :=
  readKnown (str known) (arguments.foldl (fun total argument => total + argument.length + 1) 1)
    arguments

def has (given : List Given) (letter : Char) : Bool :=
  given.any fun option => option.letter.toNat == letter.toNat

end LineShell.Script.Options
