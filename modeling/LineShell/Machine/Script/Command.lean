import LineShell.Bytes
/-!
# Command scripts

The language of the machine's command interpreter: words made of quoted and unquoted parts, simple
commands with assignments and redirections, and the compound commands.
-/

namespace LineShell.Script

/-- What is made of the value of a parameter. -/
inductive Operation where
  /-- The value as it is. -/
  | plain
  /-- The value, or another text if there is none. -/
  | otherwise (emptyToo : Bool)
  /-- The same, and the other text becomes the value. -/
  | assign (emptyToo : Bool)
  /-- The value, or the end of the script if there is none. -/
  | require (emptyToo : Bool)
  /-- Another text, if there is a value. -/
  | instead (emptyToo : Bool)
  /-- The length of the value. -/
  | length
  /-- The value without the start or the end that a pattern fits. -/
  | trim (atEnd longest : Bool)
  /-- Something that the language does not know, which ends the script. -/
  | unknown
  deriving DecidableEq

inductive Opening where
  | read
  | write
  /-- The same, also if files are to be spared that exist. -/
  | overwrite
  | append
  | readWrite
  deriving DecidableEq

mutual

inductive Part where
  | text (bytes : Bytes) (quoted : Bool)
  | parameter (name : Bytes) (operation : Operation) (argument : List Part) (quoted : Bool)
  /-- What a command writes. -/
  | output (command : Command) (quoted : Bool)
  /-- The value of an arithmetic expression. -/
  | arithmetic (source : List Part) (quoted : Bool)

/-- A redirection of one of the numbers by which a process refers to files. -/
inductive Redirection where
  | file (descriptor : Nat) (opening : Opening) (path : List Part)
  /-- To the file that another number refers to. -/
  | duplicate (descriptor : Nat) (source : List Part)
  /-- To a text within the script, given by its place among all such texts. -/
  | document (descriptor place : Nat)

/-- A command. Those that can fail on their own know their line. -/
inductive Command where
  | simple (line : Nat) (assignments : List (Bytes × List Part)) (words : List (List Part))
      (redirections : List Redirection)
  | pipeline (commands : List Command)
  | negation (command : Command)
  | both (first second : Command)
  | either (first second : Command)
  | sequence (commands : List Command)
  | background (command : Command)
  | redirected (line : Nat) (body : Command) (redirections : List Redirection)
  | subshell (line : Nat) (body : Command) (redirections : List Redirection)
  | conditional (test yes : Command) (no : Option Command)
  | loop (untilTrue : Bool) (test body : Command)
  | each (line : Nat) (name : Bytes) (words : List (List Part)) (body : Command)
  | choice (line : Nat) (subject : List Part) (arms : List (List (List Part) × Command))
  | define (name : Bytes) (body : Command)

end

abbrev Word := List Part

def Command.nothing : Command := .sequence []

def startsName (byte : UInt8) : Bool :=
  (65 ≤ byte && byte ≤ 90) || (97 ≤ byte && byte ≤ 122) || byte == 95

def isDigit (byte : UInt8) : Bool := 48 ≤ byte && byte ≤ 57

/-- Whether a byte can stand in a name. -/
def continuesName (byte : UInt8) : Bool := startsName byte || isDigit byte

/-- Whether a text can be the name of a variable. -/
def isName (name : Bytes) : Bool :=
  match name with
  | [] => false
  | byte :: _ => startsName byte && name.all continuesName

/-- The assignment that a word is, if it starts with a name and an equals sign. -/
def assignment? : Word → Option (Bytes × Word)
  | .text bytes false :: rest =>
    match Bytes.cutAt 61 bytes with
    | none => none
    | some (name, value) =>
      if isName name then some (name, if value.isEmpty then rest else .text value false :: rest)
      else none
  | _ => none

end LineShell.Script
