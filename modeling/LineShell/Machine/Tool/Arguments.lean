import LineShell.Machine.Tool.Basic
import LineShell.Machine.Tool.Quote
/-!
# Arguments of programs

A program knows options by letters and by names. Options can stand behind operands, unless the
program wants them in front; an argument of two dashes ends them. A name can be cut short as long as
it is clear which one is meant.
-/

namespace LineShell.Tool

inductive Taking where
  | nothing
  | required
  | optional
  deriving DecidableEq

/-- An option that is known by a letter, by a name or by both. Its mark tells what it means. -/
structure Known where
  mark : String
  letter : Option Char
  name : Option String
  taking : Taking
  /-- Whether everything behind it is an operand. -/
  ends : Bool

namespace Known

def ofLetter (letter : Char) : Known := ⟨letter.toString, some letter, none, .nothing, false⟩

def ofLetters (letters : String) : List Known := letters.toList.map ofLetter

def ofName (name : String) : Known := ⟨name, none, some name, .nothing, false⟩

/-- An option with a letter and a name. -/
def ofBoth (letter : Char) (name : String) : Known := ⟨name, some letter, some name, .nothing, false⟩

/-- The option that means the same as another one. -/
def meaning (known : Known) (mark : String) : Known := { known with mark }

def requiring (known : Known) : Known := { known with taking := .required }

/-- The option with an argument that can be missing. A letter has it in the same word, a name behind
a sign. -/
def admitting (known : Known) : Known := { known with taking := .optional }

/-- The option that leaves what is behind it to the operands. -/
def ending (known : Known) : Known := { known with ends := true }

end Known

structure Given where
  mark : String
  argument : Option Bytes
  deriving DecidableEq

inductive ArgumentFault where
  | unknownLetter (letter : UInt8)
  | unknownName (option : Bytes)
  | ambiguous (option : Bytes) (possible : List String)
  | letterNeedsArgument (letter : UInt8)
  | nameNeedsArgument (name : String)
  | noArgumentAllowed (name : String)
  deriving DecidableEq

namespace ArgumentFault

/-- What is said about arguments that cannot be understood. -/
def message : ArgumentFault → Bytes
  | unknownLetter letter => text "invalid option -- '" ++ [letter, 39]
  | unknownName option => text "unrecognized option '" ++ option ++ [39]
  | ambiguous option possible =>
    text "option '" ++ option ++ text "' is ambiguous; possibilities:" ++
      possible.flatMap fun name => text (" '--" ++ name ++ "'")
  | letterNeedsArgument letter => text "option requires an argument -- '" ++ [letter, 39]
  | nameNeedsArgument name => text ("option '--" ++ name ++ "' requires an argument")
  | noArgumentAllowed name => text ("option '--" ++ name ++ "' doesn't allow an argument")

end ArgumentFault

structure Arguments where
  options : List Given
  operands : List Bytes

namespace Arguments

def has (arguments : Arguments) (mark : String) : Bool :=
  arguments.options.any fun given => given.mark == mark

/-- The last of some options that has been given. -/
def last? (arguments : Arguments) (marks : List String) : Option Given :=
  (arguments.options.filter fun given => marks.contains given.mark).getLast?

/-- The argument that an option was given last. -/
def value? (arguments : Arguments) (mark : String) : Option Bytes :=
  (arguments.last? [mark]).bind Given.argument

/-- The option that a name means, given the argument as it is written. -/
private def named (known : List Known) (option name : Bytes) : Except ArgumentFault Known :=
  let isName (test : Bytes → Bool) (entry : Known) : Bool :=
    match entry.name with
    | some own => test (Bytes.ofString own)
    | none => false
  match known.find? (isName (· == name)) with
  | some entry => .ok entry
  | none =>
    match known.filter (isName name.isPrefixOf) with
    | [] => .error (.unknownName option)
    | first :: others =>
      let isFirst (entry : Known) : Bool := entry.mark == first.mark && entry.taking == first.taking
      if others.all isFirst then .ok first
      else .error (.ambiguous option ((first :: others).filterMap Known.name))

private def readFrom (known : List Known) (leading : Bool) : Nat → List Bytes →
    Except ArgumentFault Arguments
  | 0, _ => .ok ⟨[], []⟩
  | _, [] => .ok ⟨[], []⟩
  | steps + 1, argument :: rest =>
    let found (entry : Known) (value : Option Bytes) (rest : List Bytes) :
        Except ArgumentFault Arguments := do
      let others ← if entry.ends then .ok ⟨[], rest⟩ else readFrom known leading steps rest
      return { others with options := ⟨entry.mark, value⟩ :: others.options }
    match argument with
    | [45, 45] => .ok ⟨[], rest⟩
    | 45 :: 45 :: option => do
      let (name, value) := match Bytes.cutAt 61 option with
        | some (name, value) => (name, some value)
        | none => (option, none)
      let entry ← named known argument name
      let own := entry.name.getD ""
      match entry.taking, value, rest with
      | .nothing, some _, _ => throw (.noArgumentAllowed own)
      | .required, none, [] => throw (.nameNeedsArgument own)
      | .required, none, value :: rest => found entry (some value) rest
      | _, value, rest => found entry value rest
    | 45 :: letter :: letters =>
      match known.find? fun entry => entry.letter.map Char.toNat == some letter.toNat with
      | none => .error (.unknownLetter letter)
      | some entry =>
        match entry.taking, letters, rest with
        | .nothing, [], rest => found entry none rest
        | .nothing, letters, rest => found entry none ((45 :: letters) :: rest)
        | .required, [], [] => .error (.letterNeedsArgument letter)
        | .required, [], value :: rest => found entry (some value) rest
        | .optional, [], rest => found entry none rest
        | _, value, rest => found entry (some value) rest
    | operand =>
      if leading then .ok ⟨[], operand :: rest⟩
      else (readFrom known leading steps rest).map fun arguments =>
        { arguments with operands := operand :: arguments.operands }

/-- Reads arguments by the options that are known. If these are to stand in front, an operand ends
them. -/
def read (known : List Known) (leading : Bool) (arguments : List Bytes) :
    Except ArgumentFault Arguments :=
  readFrom known leading (arguments.foldl (fun total argument => total + argument.length + 1) 1)
    arguments

end Arguments

/-- Tells where help can be found, and ends the program. -/
def seeHelp {α : Type} (code : Nat) : Work α := do
  let _ ← say 2 (Bytes.ofString "Try '" ++ (← read).name ++
    Bytes.ofString " --help' for more information.\n")
  throw code

/-- Reports that arguments make no sense, and ends the program. -/
def refuse {α : Type} (code : Nat) (message : Bytes) : Work α := do
  fail message
  seeHelp code

/-- Reads arguments, of which the options stand in front if that is asked for. Arguments that cannot
be understood are left to another piece of work. -/
def understandOr (known : List Known) (leading : Bool) (arguments : List Bytes)
    (otherwise : ArgumentFault → Work Arguments) : Work Arguments := do
  let leading := leading || ((← read).process.value? (Bytes.ofString "POSIXLY_CORRECT")).isSome
  match Arguments.read known leading arguments with
  | .ok arguments => return arguments
  | .error fault => otherwise fault

/-- Reads arguments. If they cannot be understood, the program ends. -/
def understand (known : List Known) (leading : Bool) (code : Nat) (arguments : List Bytes) :
    Work Arguments :=
  understandOr known leading arguments fun fault => refuse code fault.message

/-- The operands of a program that needs one at least. -/
def needOperand (arguments : Arguments) (message : String) : Work (List Bytes) := do
  if arguments.operands.isEmpty then refuse 1 (Bytes.ofString message) else return arguments.operands

/-- What an option can be given: words that mean the same, and what they mean. -/
abbrev Choice (α : Type) := List (List String × α)

/-- What the argument of an option means, which is one of some words or the start of one. -/
def choose {α : Type} (option : String) (choice : Choice α) (argument : Bytes) : Work α := do
  let isWord (test : Bytes → Bool) (entry : List String × α) : Bool :=
    entry.1.any fun word => test (Bytes.ofString word)
  match choice.find? (isWord (· == argument)), choice.filter (isWord argument.isPrefixOf) with
  | some entry, _ | none, [entry] => return entry.2
  | none, fits =>
    let kind := if fits.isEmpty then "invalid" else "ambiguous"
    fail (Bytes.ofString kind ++ Bytes.ofString " argument " ++ Quote.text argument ++
      Bytes.ofString (" for '--" ++ option ++ "'"))
    let line (entry : List String × α) : Bytes :=
      Bytes.ofString "  - " ++ Bytes.joinWith (Bytes.ofString ", ")
        (entry.1.map fun word => Quote.text (Bytes.ofString word)) ++ [10]
    let _ ← say 2 (Bytes.ofString "Valid arguments are:\n" ++ choice.flatMap line)
    seeHelp 1

end LineShell.Tool
