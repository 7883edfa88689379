import LineShell.Buffer
import LineShell.Builtin.Run
import LineShell.Source.Basic
import LineShell.Words
/-!
# Sessions

A line is cut into words and dispatched: an empty line does nothing, a builtin runs inside the
shell, and anything else is launched. A session reads lines from a source and runs them, until a
line says to stop or there are no more. Only a failure of the source ends it early.
-/

namespace LineShell.Session

variable {ω : Type} [World ω]

/-- The words of a line, collected in a list that grows in steps. -/
def tokenize (line : Bytes) : Act ω (List Bytes) := do
  let (words, capacities) := (Buffer.empty wordStep).extend wordStep (wordsOf line)
  Act.logAll (capacities.map .bufferGrown)
  Act.log (.lineTokenized words.items.size)
  return words.items.toList

/-- Launches a command and reports if that fails. What the shell still holds of its own output is
flushed first, or a child could write before it. -/
def launch (words : List Bytes) : Act ω Unit := do
  match ← Act.flush .output with
  | none => pure ()
  | some error => Act.log (.flushFailed error)
  match ← Act.launch words with
  | .ok completion => Act.log (.commandFinished completion)
  | .error failure =>
    match ← Act.complain failure.message with
    | none => pure ()
    | some refusal => Act.log (.launchReportFailed refusal failure)

def execute (words : List Bytes) : Act ω Flow :=
  match words with
  | [] => pure .next
  | name :: _ =>
    match Builtin.lookup name with
    | some builtin => do
      Act.log (.builtinRunning builtin)
      builtin.run words
    | none => do
      launch words
      return .next

def runLine (line : Bytes) : Act ω Flow := do
  let words ← tokenize line
  execute words

/-- How a session over a source ended, and what is left of the source. -/
structure End (σ : Type) where
  result : Except ShellError Termination
  source : σ

/-- Runs a session in a world: reads a line, runs it, and goes on with the rest of the source. -/
def runFrom {σ : Type} [LineSource σ ω] (prompt : Bytes) (source : σ) (world : ω) :
    Outcome ω (End σ) :=
  let reading := (LineSource.readLine prompt source).run world
  match _hreading : reading.value with
  | (.failed error, source') => ⟨⟨.error error, source'⟩, reading.events, reading.world⟩
  | (.endOfInput, source') =>
    let note := (Act.log .endOfInput).run reading.world
    ⟨⟨.ok .endOfInput, source'⟩, reading.events ++ note.events, note.world⟩
  | (.line line, source') =>
    let command := (runLine line.bytes).run reading.world
    match command.value with
    | .stop => ⟨⟨.ok .stopped, source'⟩, reading.events ++ command.events, command.world⟩
    | .next =>
      let rest := runFrom prompt source' command.world
      ⟨rest.value, reading.events ++ (command.events ++ rest.events), rest.world⟩
termination_by LineSource.remaining ω source
decreasing_by exact LineSource.remaining_lt prompt source world line source' _hreading

/-- A session that shows a prompt before each line. -/
def run {σ : Type} [LineSource σ ω] (prompt : Bytes) (source : σ) : Act ω (End σ) :=
  runFrom prompt source

end LineShell.Session
