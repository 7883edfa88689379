import LineShell.Log.Filter
import LineShell.Machine.Input
import LineShell.Options
import LineShell.Session
/-!
# The program

How the shell is started with arguments, and how it ends: with code 0 after a session or when it was
asked for help, and with code 1 if its arguments were refused or its input failed. A shell that
cannot print what it has to say of itself gives up, with a code of its own.
-/

namespace LineShell.Program

/-- The code of a shell that gave up. -/
def givenUp : Nat := 101

/-- The code of a shell that had something to say, unless that could not be printed. -/
def codeAfter (printed : Option IoError) (code : Nat) : Nat :=
  if printed.isSome then givenUp else code

/-- Ends the program after a session. A failure of the session is reported. -/
def conclude {ω : Type} [World ω] (result : Except ShellError Termination) : Act ω Nat :=
  match result with
  | .ok termination => do
    Act.log (.shellFinished termination)
    return 0
  | .error error => do
    return codeAfter (← Act.complain error.message) 1

def runSession {σ ω : Type} [World ω] [LineSource σ ω] (prompt : Bytes) (source : σ) : Act ω Nat := do
  let ended ← Session.run prompt source
  conclude ended.result

def leaveEarly {ω : Type} [World ω] (exit : EarlyExit) : Act ω Nat :=
  match exit with
  | .help => do
    return codeAfter (← Act.send .output (exit.text [programName] ++ Bytes.ofString "\n")) 0
  | .refused _ => do
    return codeAfter (← Act.send .error (exit.text [programName] ++ Bytes.ofString "\nRun " ++
      programName ++ Bytes.ofString " --help for more information.\n")) 1

/-- The filter that a text asks for. One that cannot be read is reported, and the standard one takes
its place. There is no filter if the report could not be printed, or if a part of the text would
split a character. -/
def filterOf {ω : Type} [World ω] (text : Bytes) : Act ω (Option Log.Filter) :=
  match Log.Filter.ofText text with
  | .ok filter => return some filter
  | .error .splitCharacter => return none
  | .error error => do
    match ← Act.complain (Bytes.ofString "invalid log filter " ++ Quoted.text text ++
      Bytes.ofString ": " ++ error.message) with
    | none => return some ((Log.Filter.ofText Options.defaultLog).toOption.getD .standard)
    | some _ => return none

def runWith (terminal : Bool) (options : Options) : Act Station Nat := do
  match ← filterOf options.log with
  | none => return givenUp
  | some filter =>
    Act.update fun station => ((), { station with filter })
    let station ← Act.update fun station => (station, station)
    if options.useEditor terminal then runSession options.prompt (EditedInput.ofStation station)
    else runSession options.prompt (PlainInput.ofStation station)

/-- Runs the shell on a station, with the arguments behind its name. What it still holds of its
output is written out at the end. -/
def run (terminal : Bool) (arguments : List Bytes) : Act Station Nat := do
  let code ← match arguments.find? fun argument => !Utf8.isValid argument with
    | some argument => do
      pure (codeAfter (← Act.send .error (Bytes.ofString "Invalid utf8: " ++ Utf8.shown argument ++
        Bytes.ofString "\n")) 1)
    | none =>
      match Options.ofArguments arguments with
      | .error exit => leaveEarly exit
      | .ok options => runWith terminal options
  let _ ← Act.flush .output
  let logFailed ← Act.update fun station => (station.logFailed, station)
  return if logFailed then givenUp else code

end LineShell.Program
