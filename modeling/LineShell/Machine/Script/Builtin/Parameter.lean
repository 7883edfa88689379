import LineShell.Machine.Script.Builtin.Basic
import LineShell.Machine.Script.Options
/-!
# Commands for positional parameters and input
-/

namespace LineShell.Script.Builtin

/-- Sets modes and positional parameters, or shows the variables. -/
def setParameters : Builtin := fun arguments => do
  if arguments.isEmpty then
    put (Variables.shown ((← get).bindings.filter fun entry => entry.2.value.isSome) [])
  else
    Options.set arguments
    return 0

def shift : Builtin := fun arguments => do
  let count ← match arguments with
    | [] => pure 1
    | argument :: _ => number argument
  if (← get).parameters.length < count then fail (str "can't shift that many")
  modify fun state =>
    { state with parameters := state.parameters.drop count, optionPlace := .first }
  return 0

/-- What the reading of an option finds: its letter, its argument, and a message if it is a bad
one. -/
private structure Found where
  letter : UInt8
  argument : Option Bytes
  message : Option Bytes
  /-- How many words have been read. -/
  words : Nat
  /-- What is left of the last of them, if that is of use. -/
  rest : Option Bytes

/-- Whether a letter is among the known ones, and whether it takes an argument. -/
private def known? (letter : UInt8) : Bytes → Option Bool
  | [] => none
  | other :: rest =>
    if other = letter then some (rest.head? == some 58)
    else known? letter (if rest.head? = some 58 then rest.tail else rest)
termination_by known => known.length
decreasing_by
  split
  · simp only [List.length_tail, List.length_cons]
    omega
  · simp

/-- Reads an option whose letter starts a text, given how many words have been read. -/
private def readOption (known : Bytes) (words : List Bytes) (read : Nat) (text : Bytes) : Found :=
  let quiet := known.head? == some 58
  let letter := text.headD 0
  let rest := text.tail
  match known? letter known with
  | none =>
    if quiet then ⟨63, some [letter], none, read, some rest⟩
    else ⟨63, none, some (str "Illegal option -" ++ [letter]), read, some rest⟩
  | some false => ⟨letter, some [], none, read, some rest⟩
  | some true =>
    if !rest.isEmpty then ⟨letter, some rest, none, read, none⟩
    else match words[read]? with
      | some argument => ⟨letter, some argument, none, read + 1, none⟩
      | none =>
        if quiet then ⟨58, some [letter], none, read, some rest⟩
        else ⟨63, none, some (str "No arg for -" ++ [letter] ++ str " option"), read, some rest⟩

/-- Reads the next option of some words, or finds how many words the options take. -/
private def nextOption (known : Bytes) (words : List Bytes) (place : OptionPlace) :
    Except Nat Found :=
  let read := place.word - 1
  let begun := match place.offset, words[read - 1]? with
    | some offset, some word => if read = 0 then [] else word.drop offset
    | _, _ => []
  if !begun.isEmpty then .ok (readOption known words read begun)
  else match words[read]? with
    | some [45, 45] => .error (read + 1)
    | some (45 :: letter :: letters) => .ok (readOption known words (read + 1) (letter :: letters))
    | _ => .error read

/-- Takes note of how far options have been read. -/
private def noteOption (name : Bytes) (letter : UInt8) (words : List Bytes) (read : Nat)
    (rest : Option Bytes) : Run Unit := do
  setVariable (str "OPTIND") (Bytes.ofNat (read + 1))
  checkName name
  setVariable name [letter]
  let offset := rest.map fun rest => (words.getD (read - 1) []).length - rest.length
  modify fun state => { state with optionPlace := ⟨read + 1, offset⟩ }

/-- Reads the next option of the positional parameters, or of other words. -/
def getopts : Builtin := fun arguments => do
  let (_, arguments) ← Options.read "" arguments
  match arguments with
  | known :: name :: words =>
    let state ← get
    let words := if words.isEmpty then state.parameters else words
    let place := if words.length + 1 < state.optionPlace.word then .first else state.optionPlace
    match nextOption known words place with
    | .error read =>
      noteOption name 63 words read none
      return 1
    | .ok found =>
      match found.message with
      | some message =>
        let _ ← say 2 (message ++ [10])
        modify fun state => { state with bindings := state.bindings.remove (str "OPTARG") }
      | none => setVariable (str "OPTARG") (found.argument.getD [])
      noteOption name found.letter words found.words found.rest
      return 0
  | _ => fail (str "Usage: getopts optstring var [arg...]")

/-- A byte of a line of input, and whether it is quoted. -/
private abbrev Input := List (UInt8 × Bool)

/-- Reads a line byte by byte, so that what follows it is left to others. Tells whether it has an
end. In one that is not raw a backslash quotes the next byte, and takes a line end away. -/
private def takeLine (raw : Bool) (file : Nat) (quoted : Bool) (line : Input) : Nat →
    Run (Input × Bool)
  | 0 => return (line.reverse, false)
  | steps + 1 => do
    let state ← get
    let (result, machine) := state.machine.read file 1
    modify fun state => { state with machine }
    match result.toOption.bind fun bytes => bytes.toList.head? with
    | none => return (line.reverse, false)
    | some byte =>
      if byte = 0 then takeLine raw file quoted line steps
      else if quoted then
        takeLine raw file false (if byte = 10 then line else (byte, true) :: line) steps
      else if byte = 92 && !raw then takeLine raw file true line steps
      else if byte = 10 then return (line.reverse, true)
      else takeLine raw file false ((byte, false) :: line) steps

private def nextInput (raw : Bool) : Run (Input × Bool) := do
  let state ← get
  match state.process.descriptors.lookup 0 with
  | none => return ([], false)
  | some file =>
    let size := ((state.machine.rest file).toOption.map ByteArray.size).getD 0
    takeLine raw file false [] (size + 1)

private def trimEnd (isBlank : UInt8 × Bool → Bool) (line : Input) : Input :=
  (line.reverse.dropWhile isBlank).reverse

/-- The fields of a line of input, at most a number of them. The last one takes the rest of the
line, but for one separator if that is only a single field. -/
private def fieldsOfLine (separators : Bytes) : Nat → Input → List Bytes
  | 0, _ => []
  | count + 1, line =>
    let separates (byte : UInt8 × Bool) : Bool := !byte.2 && separators.contains byte.1
    let isBlank (byte : UInt8 × Bool) : Bool := separates byte && [32, 9, 10].contains byte.1
    let line := line.dropWhile isBlank
    if count = 0 then
      let trimmed := trimEnd isBlank line
      let single := trimEnd isBlank trimmed.dropLast
      let last := if (trimmed.getLast?.map separates).getD false && !single.any separates then single
        else trimmed
      [last.map Prod.fst]
    else
      let rest := (line.dropWhile (!separates ·)).dropWhile isBlank
      let rest := if (rest.head?.map separates).getD false then rest.tail else rest
      (line.takeWhile (!separates ·)).map Prod.fst :: fieldsOfLine separators count rest

/-- Gives the fields of the next line of input to variables. -/
def readFields : Builtin := fun arguments => do
  let (given, names) ← Options.read "p:r" arguments
  if names.isEmpty then fail (str "arg count")
  let (line, ended) ← nextInput (Options.has given 'r')
  let separators := ((← get).lookup? (str "IFS")).getD [32, 9, 10]
  (names.zip (fieldsOfLine separators names.length line)).forM fun (name, value) => do
    checkName name
    setVariable name value
  return if ended then 0 else 1

end LineShell.Script.Builtin
