import LineShell.Session
import LineShell.Source.Stream
import LineShell.Stage
/-!
# Plays

A play goes on over several steps on one stage: lines that are run by themselves, and sessions over
streams. Each session has a stream and a channel for prompts of its own. The other channels and the
host go from step to step.
-/

namespace LineShell

inductive Step where
  /-- A line is run by itself. -/
  | line (bytes : Bytes)
  /-- A session is run over a stream with these answers, and shows its prompts on this channel. -/
  | session (script : List Chunk) (prompts : Channel)

inductive StepResult where
  | flow (flow : Flow)
  | ended (result : Except ShellError Termination)

namespace Step

/-- Takes one step. Sessions show `prompt` in front of each line. -/
def run (prompt : Bytes) : Step → Act Stage StepResult
  | .line bytes => .flow <$> Session.runLine bytes
  | .session script prompts => do
    Act.update fun stage => ((), stage.withChannel .prompt prompts)
    return .ended (← Session.run prompt (Stream.ofChunks script)).result

/-- Takes steps one after the other. Each has an outcome of its own. -/
def runAll (prompt : Bytes) : List Step → Stage → List (Outcome Stage StepResult)
  | [], _ => []
  | step :: rest, stage =>
    let outcome := (step.run prompt).run stage
    outcome :: runAll prompt rest outcome.world

end Step

end LineShell
