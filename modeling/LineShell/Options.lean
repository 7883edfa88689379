import LineShell.Builtin.Basic
/-!
# Options

The arguments the shell itself is started with. They are read from left to right: two options take
the next argument as their value, whatever it looks like, one is a switch, two words ask for help,
and two dashes end the options. Nothing else is allowed, and the first argument that breaks the
rules decides the error.
-/

namespace LineShell

structure Options where
  /-- The text in front of every input line. -/
  prompt : Bytes
  /-- Which log entries are printed. -/
  log : Bytes
  /-- Whether plain lines are read even from a terminal. -/
  noEditor : Bool
  deriving DecidableEq, Repr

inductive OptionError where
  | unrecognized (argument : Bytes)
  | missingValue (option : Bytes)
  | duplicate (option value : Bytes)
  | afterHelp
  deriving DecidableEq, Repr

def OptionError.message : OptionError → Bytes
  | .unrecognized argument =>
    Bytes.ofString "Unrecognized argument: " ++ argument ++ Bytes.ofString "\n"
  | .missingValue option =>
    Bytes.ofString "No value provided for option '" ++ option ++ Bytes.ofString "'.\n"
  | .duplicate option value =>
    Bytes.ofString "Error parsing option '" ++ option ++ Bytes.ofString "' with value '" ++ value ++
      Bytes.ofString "': duplicate values provided\n"
  | .afterHelp => Bytes.ofString "Trailing arguments are not allowed after \x60help\x60."

/-- Why a shell does not run although it was started. -/
inductive EarlyExit where
  | help
  | refused (error : OptionError)
  deriving DecidableEq, Repr

namespace Options

def defaultPrompt : Bytes := Bytes.ofString "> "

def defaultLog : Bytes := Bytes.ofString "warn"

def promptOption : Bytes := Bytes.ofString "--prompt"

def logOption : Bytes := Bytes.ofString "--log"

def noEditorSwitch : Bytes := Bytes.ofString "--no-editor"

def helpWords : List Bytes := [Bytes.ofString "--help", Bytes.ofString "help"]

/-- What ends the options. -/
def endMark : Bytes := Bytes.ofString "--"

/-- What the arguments read so far have given. -/
structure Given where
  prompt : Option Bytes
  log : Option Bytes
  noEditor : Bool
  help : Bool
  ended : Bool
  deriving DecidableEq, Repr

def Given.nothing : Given := ⟨none, none, false, false, false⟩

/-- Reads the arguments after those that gave `given`. -/
def readArguments (given : Given) : List Bytes → Except OptionError Given
  | [] => .ok given
  | argument :: rest =>
    if given.ended then .error (.unrecognized argument)
    else if argument ∈ helpWords then readArguments { given with help := true } rest
    else if argument = endMark then readArguments { given with ended := true } rest
    else if argument.head? ≠ some 45 then .error (.unrecognized argument)
    else if given.help then .error .afterHelp
    else if argument = noEditorSwitch then readArguments { given with noEditor := true } rest
    else if argument = promptOption then
      match rest with
      | [] => .error (.missingValue argument)
      | value :: rest =>
        if given.prompt.isSome then .error (.duplicate argument value)
        else readArguments { given with prompt := some value } rest
    else if argument = logOption then
      match rest with
      | [] => .error (.missingValue argument)
      | value :: rest =>
        if given.log.isSome then .error (.duplicate argument value)
        else readArguments { given with log := some value } rest
    else .error (.unrecognized argument)

def ofArguments (arguments : List Bytes) : Except EarlyExit Options :=
  match readArguments .nothing arguments with
  | .error error => .error (.refused error)
  | .ok given =>
    if given.help then .error .help
    else .ok ⟨given.prompt.getD defaultPrompt, given.log.getD defaultLog, given.noEditor⟩

/-- Whether lines are read through the line editor. -/
def useEditor (options : Options) (terminal : Bool) : Bool :=
  !options.noEditor && terminal

/-- The help text for a program started by these words. -/
def usage (command : List Bytes) : Bytes :=
  Bytes.ofString "Usage: " ++ Bytes.joinWith (Bytes.ofString " ") command ++ Bytes.ofString
    (" [--prompt <prompt>] [--log <log>] [--no-editor]\n" ++
    "\n" ++
    "A minimal interactive shell: runs one command per line, with the builtins cd, help and exit.\n" ++
    "\n" ++
    "Options:\n" ++
    "  --prompt          text printed before every input line (default \"> \")\n" ++
    "  --log             log filter for diagnostics written to stderr, e.g. \"debug\"\n" ++
    "                    (default \"warn\")\n" ++
    "  --no-editor       read plain lines from stdin even when it is a terminal\n" ++
    "  --help, help      display usage information\n")

end Options

def EarlyExit.text (command : List Bytes) : EarlyExit → Bytes
  | .help => Options.usage command
  | .refused error => error.message

end LineShell
