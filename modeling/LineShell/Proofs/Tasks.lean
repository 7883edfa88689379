import LineShell.Proofs.Prompt
import LineShell.Proofs.Session
import LineShell.Source.Editor
/-!
# Tasks

What a shell is used for over time is a list of tasks on one world. A line is cut into words or run, lines
are read, or a session is run over a source of lines. Before a task the world may be made ready for it,
since each session has a channel for prompts of its own.

A session is long, and what is said of it is mostly said of the moments between its commands. So tasks
are taken apart into moves: a command with the world it is run in, or something aside of all commands,
such as the read of a line. The moves leave the events of the tasks, part by part.
-/

namespace LineShell

/-- Where the lines of a session come from. -/
inductive Supply where
  /-- A stream that gives these answers. -/
  | stream (script : List Chunk)
  /-- These readings. -/
  | readings (readings : List Reading)
  /-- A line editor that gives these answers. -/
  | editor (answers : List EditorAnswer)

/-- One use of a shell. -/
inductive Job where
  | tokenize (line : Bytes)
  /-- Lines of a stream are read, one after each of these prompts. -/
  | read (script : List Chunk) (prompts : List Bytes)
  | line (bytes : Bytes)
  | session (supply : Supply) (prompt : Bytes)

inductive Job.Result where
  | words (words : List Bytes)
  | readings (readings : List Reading)
  | flow (flow : Flow)
  | ended (result : Except ShellError Termination)

/-- A job, and what is done to the world to make it ready. -/
structure Task (ω : Type) where
  place : ω → ω
  job : Job

/-- A part of a task: a line that is run in a world, or events aside of all commands. -/
inductive Move (ω : Type) where
  | aside (events : Trace)
  | command (line : Bytes) (world : ω)

variable {ω : Type} [World ω]

def Move.events : Move ω → Trace
  | .aside events => events
  | .command line world => ((Session.runLine line).run world).events

/-! ### Running tasks -/

def Stream.readEach : List Bytes → Stream → Act ω (List Reading)
  | [], _ => pure []
  | prompt :: rest, stream => do
    let (reading, stream') ← stream.readLine prompt
    return reading :: (← readEach rest stream')

def Supply.session (prompt : Bytes) : Supply → Act ω (Except ShellError Termination)
  | .stream script => Session.End.result <$> Session.run prompt (Stream.ofChunks script)
  | .readings given => Session.End.result <$> Session.run prompt (⟨given⟩ : ScriptedSource)
  | .editor answers => Session.End.result <$> Session.run prompt (⟨answers⟩ : Editor)

def Job.run : Job → Act ω Job.Result
  | .tokenize text => .words <$> Session.tokenize text
  | .read script prompts => .readings <$> Stream.readEach prompts (Stream.ofChunks script)
  | .line bytes => .flow <$> Session.runLine bytes
  | .session supply prompt => .ended <$> supply.session prompt

namespace Task

def run (task : Task ω) : Act ω Job.Result := do
  Act.update fun world => ((), task.place world)
  task.job.run

def runAll : List (Task ω) → ω → List (Outcome ω Job.Result)
  | [], _ => []
  | task :: rest, world =>
    let outcome := task.run.run world
    outcome :: runAll rest outcome.world

end Task

/-! ### Taking tasks apart -/

/-- The moves of a session: the reads and the lines in turn, and at the end of the input a note. -/
def Session.movesFrom {σ : Type} [LineSource σ ω] (prompt : Bytes) (source : σ) (world : ω) :
    List (Move ω) :=
  let reading := (LineSource.readLine prompt source).run world
  match _hreading : reading.value with
  | (.failed _, _) => [.aside reading.events]
  | (.endOfInput, _) =>
    [.aside reading.events, .aside ((Act.log .endOfInput).run reading.world).events]
  | (.line line, source') =>
    let command := (runLine line.bytes).run reading.world
    .aside reading.events :: .command line.bytes reading.world ::
      match command.value with
      | .stop => []
      | .next => movesFrom prompt source' command.world
termination_by LineSource.remaining ω source
decreasing_by exact LineSource.remaining_lt prompt source world line source' _hreading

def Supply.moves (prompt : Bytes) (world : ω) : Supply → List (Move ω)
  | .stream script => Session.movesFrom prompt (Stream.ofChunks script) world
  | .readings given => Session.movesFrom prompt (⟨given⟩ : ScriptedSource) world
  | .editor answers => Session.movesFrom prompt (⟨answers⟩ : Editor) world

/-- The moves of a job. Cutting a line into words and reads without a session have no commands. -/
def Job.moves (world : ω) : Job → List (Move ω)
  | .line bytes => [.command bytes world]
  | .session supply prompt => supply.moves prompt world
  | job => [.aside (job.run.run world).events]

def Task.movesAll : List (Task ω) → ω → List (Move ω)
  | [], _ => []
  | task :: rest, world =>
    task.job.moves (task.place world) ++ movesAll rest (task.run.run world).world

namespace Session

section Turn

variable {σ : Type} [LineSource σ ω] {prompt : Bytes} {source rest : σ} {world : ω}

theorem movesFrom_of_failed {error : ShellError}
    (hreading : ((LineSource.readLine prompt source).run world).value = (.failed error, rest)) :
    movesFrom prompt source world = [.aside ((LineSource.readLine prompt source).run world).events] := by
  rw [movesFrom]
  split <;> simp_all

theorem movesFrom_of_endOfInput
    (hreading : ((LineSource.readLine prompt source).run world).value = (.endOfInput, rest)) :
    movesFrom prompt source world =
      let reading := (LineSource.readLine prompt source).run world
      [.aside reading.events, .aside ((Act.log .endOfInput).run reading.world).events] := by
  rw [movesFrom]
  split <;> simp_all

theorem movesFrom_of_line {line : Line}
    (hreading : ((LineSource.readLine prompt source).run world).value = (.line line, rest)) :
    movesFrom prompt source world =
      let reading := (LineSource.readLine prompt source).run world
      let command := (runLine line.bytes).run reading.world
      .aside reading.events :: .command line.bytes reading.world ::
        match command.value with
        | .stop => []
        | .next => movesFrom prompt rest command.world := by
  rw [movesFrom]
  split <;> simp_all

end Turn

theorem movesFrom_events {σ : Type} [LineSource σ ω] (prompt : Bytes) (source : σ) (world : ω) :
    (movesFrom prompt source world).flatMap Move.events = (runFrom prompt source world).events := by
  induction source, world using @turn_induction ω _ σ _ prompt with
  | failed source rest world error hvalue =>
    rw [movesFrom_of_failed hvalue, runFrom_of_failed hvalue]
    exact List.append_nil _
  | endOfInput source rest world hvalue =>
    rw [movesFrom_of_endOfInput hvalue, runFrom_of_endOfInput hvalue]
    exact congrArg _ (List.append_nil _)
  | stop source rest world line hvalue hflow =>
    rw [movesFrom_of_line hvalue, runFrom_of_stop hvalue hflow]
    dsimp only
    rw [hflow, List.flatMap_cons, List.flatMap_cons]
    exact congrArg _ (List.append_nil _)
  | next source rest world line hvalue hflow ih =>
    rw [movesFrom_of_line hvalue, runFrom_of_next hvalue hflow]
    dsimp only
    rw [hflow, List.flatMap_cons, List.flatMap_cons, ih]
    rfl

end Session

theorem Supply.moves_events (prompt : Bytes) (world : ω) (supply : Supply) :
    (supply.moves prompt world).flatMap Move.events = ((supply.session prompt).run world).events := by
  cases supply <;> exact Session.movesFrom_events prompt _ world

theorem Job.moves_events (world : ω) (job : Job) :
    (job.moves world).flatMap Move.events = (job.run.run world).events := by
  cases job with
  | session supply prompt => exact supply.moves_events prompt world
  | line bytes => exact List.append_nil _
  | tokenize line => exact List.append_nil _
  | read script prompts => exact List.append_nil _

theorem Task.movesAll_events (tasks : List (Task ω)) (world : ω) :
    (movesAll tasks world).flatMap Move.events = (runAll tasks world).flatMap Outcome.events := by
  induction tasks generalizing world with
  | nil => rfl
  | cons task rest ih =>
    have htask : (task.run.run world).events = (task.job.run.run (task.place world)).events := rfl
    rw [movesAll, runAll, List.flatMap_append, List.flatMap_cons, task.job.moves_events, htask, ih]

/-! ### What the moves keep to -/

/-- An aside does not touch what commands work on, and a command is run where an invariant holds. -/
def Move.Sound (invariant : World.Invariant ω) : Move ω → Prop
  | .aside events => ∀ event ∈ events, event.isOfEnvironment = false
  | .command _ world => invariant.holds world

omit [World ω] in
/-- What leaves commands alone may only be of the channel for prompts. -/
theorem Event.sink?_ne_of_not_isOfEnvironment {event : Event} (hevent : event.isOfEnvironment = false)
    {sink : Sink} (hprompt : sink ≠ .prompt) : event.sink? ≠ some sink := by
  cases event <;> simp_all [isOfEnvironment, sink?]
  all_goals exact Ne.symm hprompt

section Sound

variable {invariant : World.Invariant ω}

theorem Session.movesFrom_sound {σ : Type} [LineSource σ ω] {prompt : Bytes}
    (hread : ∀ source : σ, (LineSource.readLine prompt source : Act ω _).Within invariant
      (·.isOfEnvironment = false)) (source : σ) {world : ω} (hworld : invariant.holds world) :
    ∀ move ∈ movesFrom prompt source world, move.Sound invariant := by
  induction source, world using @turn_induction ω _ σ _ prompt with
  | failed source rest world error hvalue =>
    obtain ⟨-, hevents⟩ := hread source world hworld
    rw [movesFrom_of_failed hvalue]
    exact List.forall_mem_singleton.2 hevents
  | endOfInput source rest world hvalue =>
    obtain ⟨hafter, hevents⟩ := hread source world hworld
    have hnote : (Act.log .endOfInput : Act ω Unit).Within invariant (·.isOfEnvironment = false) :=
      Act.within_log (fun _ => rfl) _
    rw [movesFrom_of_endOfInput hvalue]
    exact List.forall_mem_cons.2 ⟨hevents, List.forall_mem_singleton.2 (hnote _ hafter).2⟩
  | stop source rest world line hvalue hflow =>
    obtain ⟨hafter, hevents⟩ := hread source world hworld
    rw [movesFrom_of_line hvalue]
    dsimp only
    rw [hflow]
    exact List.forall_mem_cons.2 ⟨hevents, List.forall_mem_singleton.2 hafter⟩
  | next source rest world line hvalue hflow ih =>
    obtain ⟨hafter, hevents⟩ := hread source world hworld
    obtain ⟨hnext, -⟩ := within_runLine line.bytes _ hafter
    rw [movesFrom_of_line hvalue]
    dsimp only
    rw [hflow]
    exact List.forall_mem_cons.2 ⟨hevents, List.forall_mem_cons.2 ⟨hafter, ih hnext⟩⟩

theorem Stream.apart_readLine (prompt : Bytes) (stream : Stream) :
    (stream.readLine prompt : Act ω _).Within invariant (·.isOfEnvironment = false) := by
  refine within_readLine (P := (·.isOfEnvironment = false)) (fun event hsink => ?_) rfl (fun _ => rfl)
    prompt stream
  cases event <;> simp_all [Event.isOfEnvironment, Event.sink?]

theorem ScriptedSource.apart_readLine (prompt : Bytes) (source : ScriptedSource) :
    (source.readLine prompt : Act ω _).Within invariant (·.isOfEnvironment = false) := by
  refine Act.Within.bind (Act.within_emit rfl) fun _ => ?_
  split <;> exact Act.within_pure _

theorem Editor.apart_readLine (prompt : Bytes) (editor : Editor) :
    (editor.readLine prompt : Act ω _).Within invariant (·.isOfEnvironment = false) := by
  have hreading : ∀ answer : EditorAnswer,
      (answer.reading : Act ω _).Within invariant (·.isOfEnvironment = false) := by
    intro answer
    unfold EditorAnswer.reading
    split
    case h_3 => exact (Act.within_log (fun _ => rfl) _).bind fun _ => Act.within_pure _
    all_goals exact Act.within_pure _
  refine Act.Within.bind (Act.within_emit rfl) fun _ => ?_
  split
  · exact Act.within_pure _
  · exact (hreading _).bind fun _ => Act.within_pure _

theorem Stream.apart_readEach (prompts : List Bytes) (stream : Stream) :
    (stream.readEach prompts : Act ω _).Within invariant (·.isOfEnvironment = false) := by
  induction prompts generalizing stream with
  | nil => exact Act.within_pure _
  | cons prompt rest ih =>
    refine (stream.apart_readLine prompt).bind fun value => ?_
    exact (ih value.2).bind fun _ => Act.within_pure _

theorem Supply.moves_sound (prompt : Bytes) {world : ω} (hworld : invariant.holds world)
    (supply : Supply) : ∀ move ∈ supply.moves prompt world, move.Sound invariant := by
  cases supply with
  | stream => exact Session.movesFrom_sound (Stream.apart_readLine prompt) _ hworld
  | readings => exact Session.movesFrom_sound (ScriptedSource.apart_readLine prompt) _ hworld
  | editor => exact Session.movesFrom_sound (Editor.apart_readLine prompt) _ hworld

theorem Job.moves_sound {world : ω} (hworld : invariant.holds world) (job : Job) :
    ∀ move ∈ job.moves world, move.Sound invariant := by
  cases job with
  | session supply prompt => exact supply.moves_sound prompt hworld
  | line bytes => exact List.forall_mem_singleton.2 hworld
  | tokenize line =>
    have hwords : (Session.tokenize line : Act ω _).Within invariant (·.isOfEnvironment = false) :=
      Session.within_tokenize (fun _ => rfl) line
    exact List.forall_mem_singleton.2 (hwords world hworld).2
  | read script prompts =>
    exact List.forall_mem_singleton.2 (Stream.apart_readEach prompts _ world hworld).2

theorem Job.within_run (job : Job) : (job.run : Act ω _).Within invariant fun _ => True := by
  have hsession : ∀ {σ : Type} [LineSource σ ω] {prompt : Bytes},
      (∀ source : σ, (LineSource.readLine prompt source : Act ω _).Within invariant
        (·.isOfEnvironment = false)) →
      ∀ source : σ, (Session.run prompt source : Act ω _).Within invariant fun _ => True :=
    fun hread source =>
      Session.within_run (fun source => (hread source).imp fun _ _ => trivial) (fun _ _ => trivial) source
  cases job with
  | tokenize line => exact (Session.within_tokenize (fun _ => trivial) line).map _
  | read script prompts => exact ((Stream.apart_readEach prompts _).imp fun _ _ => trivial).map _
  | line bytes => exact ((Session.within_runLine bytes).imp fun _ _ => trivial).map _
  | session supply prompt =>
    refine Act.Within.map ?_ _
    cases supply with
    | stream => exact (hsession (Stream.apart_readLine prompt) _).map _
    | readings => exact (hsession (ScriptedSource.apart_readLine prompt) _).map _
    | editor => exact (hsession (Editor.apart_readLine prompt) _).map _

/-- Where making the world ready ends no invariant, all moves of tasks are sound. -/
theorem Task.movesAll_sound {tasks : List (Task ω)}
    (hplace : ∀ task ∈ tasks, ∀ world, invariant.holds world → invariant.holds (task.place world))
    {world : ω} (hworld : invariant.holds world) :
    ∀ move ∈ movesAll tasks world, move.Sound invariant := by
  induction tasks generalizing world with
  | nil => exact List.forall_mem_nil _
  | cons task rest ih =>
    obtain ⟨htask, hrest⟩ := List.forall_mem_cons.1 hplace
    have hready := htask world hworld
    have hafter : invariant.holds (task.run.run world).world := (task.job.within_run _ hready).1
    exact List.forall_mem_append.2 ⟨task.job.moves_sound hready, ih hrest hafter⟩

end Sound

end LineShell
