import LineShell.Source.Scripted
import LineShell.Stage
import LineShell.Proofs.Command
/-!
# The loop of a session

A session is nothing but its lines run one after the other. `iterate` runs the lines of a list of
readings without a session around them, up to the first that says to stop, the first end of input or
the first failure. A session over the same readings ends in the same way and in the same world, and
it leaves the same events with one request for a line in front of each line, and one more at the end
unless a line has stopped it.

The loop keeps nothing from one line to the next, so what holds of a session over any source follows
from the equations of `runFrom` for one turn, by induction on the source.
-/

namespace LineShell

/-- Whether an event concerns what commands work on: standard output, the error channel or the host. -/
def Event.isOfEnvironment (event : Event) : Bool :=
  match event with
  | .readLine _ | .fetched | .log _ => false
  | _ => event.sink? != some .prompt

/-- The prompts with which a scripted source was asked for a line. -/
def Trace.prompts (trace : Trace) : List Bytes :=
  trace.filterMap fun
    | .readLine prompt => some prompt
    | _ => none

def Trace.environment (trace : Trace) : Trace := trace.filter Event.isOfEnvironment

theorem Trace.prompts_of_isOfCommand {trace : Trace} (htrace : ∀ event ∈ trace, event.isOfCommand) :
    trace.prompts = [] := by
  rw [prompts, List.filterMap_eq_nil_iff]
  intro event hevent
  have hcommand := htrace event hevent
  cases event <;> simp_all [Event.isOfCommand]

@[simp] theorem Trace.prompts_append (front rest : Trace) :
    Trace.prompts (front ++ rest) = front.prompts ++ rest.prompts := List.filterMap_append

@[simp] theorem Trace.environment_append (front rest : Trace) :
    Trace.environment (front ++ rest) = front.environment ++ rest.environment :=
  List.filter_append front rest

namespace Session

variable {ω : Type} [World ω]

/-! ### One turn -/

section Turn

variable {σ : Type} [LineSource σ ω] {prompt : Bytes} {source rest : σ} {world : ω}

theorem runFrom_of_failed {error : ShellError}
    (hreading : ((LineSource.readLine prompt source).run world).value = (.failed error, rest)) :
    runFrom prompt source world = ⟨⟨.error error, rest⟩,
      ((LineSource.readLine prompt source).run world).events,
      ((LineSource.readLine prompt source).run world).world⟩ := by
  rw [runFrom]
  split <;> simp_all

theorem runFrom_of_endOfInput
    (hreading : ((LineSource.readLine prompt source).run world).value = (.endOfInput, rest)) :
    runFrom prompt source world =
      let reading := (LineSource.readLine prompt source).run world
      let note := (Act.log .endOfInput).run reading.world
      ⟨⟨.ok .endOfInput, rest⟩, reading.events ++ note.events, note.world⟩ := by
  rw [runFrom]
  split <;> simp_all

theorem runFrom_of_stop {line : Line}
    (hreading : ((LineSource.readLine prompt source).run world).value = (.line line, rest))
    (hflow : ((runLine line.bytes).run ((LineSource.readLine prompt source).run world).world).value
      = .stop) :
    runFrom prompt source world =
      let reading := (LineSource.readLine prompt source).run world
      let command := (runLine line.bytes).run reading.world
      ⟨⟨.ok .stopped, rest⟩, reading.events ++ command.events, command.world⟩ := by
  rw [runFrom]
  split <;> simp_all

theorem runFrom_of_next {line : Line}
    (hreading : ((LineSource.readLine prompt source).run world).value = (.line line, rest))
    (hflow : ((runLine line.bytes).run ((LineSource.readLine prompt source).run world).world).value
      = .next) :
    runFrom prompt source world =
      let reading := (LineSource.readLine prompt source).run world
      let command := (runLine line.bytes).run reading.world
      let later := runFrom prompt rest command.world
      ⟨later.value, reading.events ++ (command.events ++ later.events), later.world⟩ := by
  rw [runFrom]
  split <;> simp_all

/-- A session takes one turn after the other. So what holds of a session that ends with its reading or its
command, and of one that goes on if it holds of the rest, holds of every session. -/
theorem turn_induction (prompt : Bytes) {motive : σ → ω → Prop}
    (failed : ∀ (source rest : σ) (world : ω) (error : ShellError),
      ((LineSource.readLine prompt source).run world).value = (.failed error, rest) → motive source world)
    (endOfInput : ∀ (source rest : σ) (world : ω),
      ((LineSource.readLine prompt source).run world).value = (.endOfInput, rest) → motive source world)
    (stop : ∀ (source rest : σ) (world : ω) (line : Line),
      ((LineSource.readLine prompt source).run world).value = (.line line, rest) →
      ((runLine line.bytes).run ((LineSource.readLine prompt source).run world).world).value = .stop →
        motive source world)
    (next : ∀ (source rest : σ) (world : ω) (line : Line),
      ((LineSource.readLine prompt source).run world).value = (.line line, rest) →
      ((runLine line.bytes).run ((LineSource.readLine prompt source).run world).world).value = .next →
      motive rest ((runLine line.bytes).run ((LineSource.readLine prompt source).run world).world).world →
        motive source world)
    (source : σ) (world : ω) : motive source world := by
  generalize hbound : LineSource.remaining ω source = bound
  induction bound using Nat.strong_induction_on generalizing source world with
  | _ bound ih =>
    obtain ⟨⟨reading, rest⟩, hvalue⟩ :
      ∃ value, ((LineSource.readLine prompt source).run world).value = value := ⟨_, rfl⟩
    cases reading with
    | failed error => exact failed source rest world error hvalue
    | endOfInput => exact endOfInput source rest world hvalue
    | line line =>
      cases hflow : ((runLine line.bytes).run
          ((LineSource.readLine prompt source).run world).world).value with
      | stop => exact stop source rest world line hvalue hflow
      | next =>
        have hless := LineSource.remaining_lt prompt source world line rest hvalue
        exact next source rest world line hvalue hflow (ih _ (hbound ▸ hless) rest _ rfl)

end Turn

/-- A session keeps an invariant if its reads do, and leaves the events of its reads and commands. -/
theorem within_run {σ : Type} [LineSource σ ω] {prompt : Bytes} {invariant : World.Invariant ω}
    {P : Event → Prop}
    (hread : ∀ source : σ, (LineSource.readLine prompt source : Act ω _).Within invariant P)
    (hcommand : ∀ event : Event, event.isOfCommand → P event) (source : σ) :
    (run prompt source : Act ω _).Within invariant P := by
  intro world hworld
  change invariant.holds (runFrom prompt source world).world ∧
    ∀ event ∈ (runFrom prompt source world).events, P event
  induction source, world using @turn_induction ω _ σ _ prompt with
  | failed source rest world error hvalue =>
    rw [runFrom_of_failed hvalue]
    exact hread source world hworld
  | endOfInput source rest world hvalue =>
    obtain ⟨hafter, hevents⟩ := hread source world hworld
    have hlog : (Act.log .endOfInput : Act ω Unit).Within invariant P :=
      Act.within_log (fun _ => hcommand _ rfl) _
    obtain ⟨hlast, hnote⟩ := hlog _ hafter
    rw [runFrom_of_endOfInput hvalue]
    exact ⟨hlast, List.forall_mem_append.2 ⟨hevents, hnote⟩⟩
  | stop source rest world line hvalue hflow =>
    obtain ⟨hafter, hevents⟩ := hread source world hworld
    obtain ⟨hnext, hline⟩ := within_runLine line.bytes _ hafter
    have hline := fun event hevent => hcommand event (hline event hevent)
    rw [runFrom_of_stop hvalue hflow]
    exact ⟨hnext, List.forall_mem_append.2 ⟨hevents, hline⟩⟩
  | next source rest world line hvalue hflow ih =>
    obtain ⟨hafter, hevents⟩ := hread source world hworld
    obtain ⟨hnext, hline⟩ := within_runLine line.bytes _ hafter
    have hline := fun event hevent => hcommand event (hline event hevent)
    obtain ⟨hlast, hlater⟩ := ih hnext
    rw [runFrom_of_next hvalue hflow]
    exact ⟨hlast, List.forall_mem_append.2 ⟨hevents, List.forall_mem_append.2 ⟨hline, hlater⟩⟩⟩

/-! ### Lines without a session -/

/-- What running lines one after the other comes to. -/
structure Iteration (ω : Type) where
  result : Except ShellError Termination
  /-- The events of each line that was run, in order. -/
  traces : List Trace
  world : ω
  /-- The readings behind the last one that was used. -/
  unread : List Reading

/-- Runs the lines of some readings one after the other, until one of them says to stop, the input
is at its end or a reading has failed. -/
def iterate : List Reading → ω → Iteration ω
  | [], world => ⟨.ok .endOfInput, [], world, []⟩
  | .endOfInput :: rest, world => ⟨.ok .endOfInput, [], world, rest⟩
  | .failed error :: rest, world => ⟨.error error, [], world, rest⟩
  | .line line :: rest, world =>
    let command := (runLine line.bytes).run world
    match command.value with
    | .stop => ⟨.ok .stopped, [command.events], command.world, rest⟩
    | .next =>
      let later := iterate rest command.world
      { later with traces := command.events :: later.traces }

namespace Iteration

/-- The requests for lines that a session makes: one for each line it runs, and one more unless a
line has stopped it. -/
def requests (alone : Iteration ω) : Nat :=
  match alone.result with
  | .ok .stopped => alone.traces.length
  | _ => alone.traces.length + 1

/-- The last request of a session, if it is not for a line that is run. -/
def lastRequest (prompt : Bytes) (alone : Iteration ω) : Trace :=
  match alone.result with
  | .ok .stopped => []
  | _ => [.readLine prompt]

/-- What a session does last: it logs that the input is at its end, if so. -/
def parting (alone : Iteration ω) : Outcome ω Unit :=
  match alone.result with
  | .ok .endOfInput => (Act.log .endOfInput).run alone.world
  | _ => ⟨(), [], alone.world⟩

/-- The events of a session, the requests for lines in their places. -/
def events (prompt : Bytes) (alone : Iteration ω) : Trace :=
  alone.traces.flatMap (.readLine prompt :: ·) ++ (alone.lastRequest prompt ++ alone.parting.events)

end Iteration

theorem iterate_line (line : Line) (rest : List Reading) (world : ω) :
    iterate (.line line :: rest) world =
      let command := (runLine line.bytes).run world
      if command.value = .stop then ⟨.ok .stopped, [command.events], command.world, rest⟩
      else
        let later := iterate rest command.world
        { later with traces := command.events :: later.traces } := by
  rw [iterate]
  dsimp only
  cases ((runLine line.bytes).run world).value <;> simp

/-- A session over readings is the iteration of its lines, with requests for lines in between. -/
theorem runFrom_scripted (prompt : Bytes) (readings : List Reading) (world : ω) :
    runFrom prompt (⟨readings⟩ : ScriptedSource) world =
      let alone := iterate readings world
      ⟨⟨alone.result, ⟨alone.unread⟩⟩, alone.events prompt, alone.parting.world⟩ := by
  induction readings generalizing world with
  | nil =>
    have hreading : ((LineSource.readLine prompt (⟨[]⟩ : ScriptedSource)).run world).value
        = (.endOfInput, ⟨[]⟩) := rfl
    rw [runFrom_of_endOfInput hreading]
    rfl
  | cons reading rest ih =>
    have hreading : ((LineSource.readLine prompt (⟨reading :: rest⟩ : ScriptedSource)).run world)
        = ⟨(reading, ⟨rest⟩), [.readLine prompt], world⟩ := rfl
    cases reading with
    | endOfInput =>
      rw [runFrom_of_endOfInput (congrArg Outcome.value hreading)]
      rfl
    | failed error =>
      rw [runFrom_of_failed (congrArg Outcome.value hreading)]
      rfl
    | line line =>
      cases hflow : ((runLine line.bytes).run world).value with
      | stop =>
        rw [runFrom_of_stop (congrArg Outcome.value hreading) hflow, iterate_line, if_pos hflow]
        simp [hreading, Iteration.events, Iteration.lastRequest, Iteration.parting]
      | next =>
        have hgoes : ((runLine line.bytes).run world).value ≠ .stop := by simp [hflow]
        rw [runFrom_of_next (congrArg Outcome.value hreading) hflow, iterate_line, if_neg hgoes]
        simp [hreading, ih, Iteration.events, Iteration.lastRequest, Iteration.parting]

theorem isOfCommand_of_mem_traces (readings : List Reading) (world : ω) :
    ∀ trace ∈ (iterate readings world).traces, ∀ event ∈ trace, event.isOfCommand := by
  induction readings generalizing world with
  | nil => exact fun _ htrace => absurd htrace List.not_mem_nil
  | cons reading rest ih =>
    cases reading with
    | endOfInput | failed => exact fun _ htrace => absurd htrace List.not_mem_nil
    | line line =>
      have hline := Act.Within.events (within_runLine line.bytes) world
      rw [iterate_line]
      dsimp only
      split
      · intro trace htrace
        rwa [List.mem_singleton.1 htrace]
      · intro trace htrace
        rcases List.mem_cons.1 htrace with rfl | htrace
        · exact hline
        · exact ih _ trace htrace

private theorem isLog_of_mem_parting (alone : Iteration ω) :
    ∀ event ∈ alone.parting.events, ∃ entry, event = .log entry := by
  unfold Iteration.parting
  split
  · exact (Act.within_log (P := fun event => ∃ entry, event = .log entry)
      (fun entry => ⟨entry, rfl⟩) .endOfInput).events alone.world
  · exact fun _ hevent => absurd hevent List.not_mem_nil

theorem Iteration.prompts_events (prompt : Bytes) {alone : Iteration ω}
    (hcommands : ∀ trace ∈ alone.traces, ∀ event ∈ trace, event.isOfCommand) :
    (alone.events prompt).prompts = List.replicate alone.requests prompt := by
  have htraces : ∀ traces : List Trace, (∀ trace ∈ traces, ∀ event ∈ trace, event.isOfCommand) →
      Trace.prompts (traces.flatMap (.readLine prompt :: ·)) = List.replicate traces.length prompt := by
    intro traces htraces
    induction traces with
    | nil => rfl
    | cons trace rest ih =>
      have htrace := Trace.prompts_of_isOfCommand (htraces trace List.mem_cons_self)
      have hrest := ih fun other hother => htraces other (List.mem_cons_of_mem _ hother)
      calc Trace.prompts ((trace :: rest).flatMap (.readLine prompt :: ·))
          = prompt :: (Trace.prompts trace
              ++ Trace.prompts (rest.flatMap (.readLine prompt :: ·))) := by
            rw [← Trace.prompts_append]
            rfl
        _ = List.replicate (trace :: rest).length prompt := by rw [htrace, hrest]; rfl
  have hparting : alone.parting.events.prompts = [] := by
    apply Trace.prompts_of_isOfCommand
    intro event hevent
    obtain ⟨entry, rfl⟩ := isLog_of_mem_parting alone event hevent
    rfl
  rw [events, Trace.prompts_append, Trace.prompts_append, htraces _ hcommands, hparting,
    List.append_nil, lastRequest, requests]
  split
  · exact List.append_nil _
  · exact List.replicate_succ'.symm

theorem Iteration.environment_events (prompt : Bytes) (alone : Iteration ω) :
    (alone.events prompt).environment = Trace.environment alone.traces.flatten := by
  have htraces : ∀ traces : List Trace,
      Trace.environment (traces.flatMap (.readLine prompt :: ·)) = Trace.environment traces.flatten := by
    intro traces
    induction traces with
    | nil => rfl
    | cons trace rest ih =>
      rw [List.flatMap_cons, List.flatten_cons, Trace.environment_append, Trace.environment_append, ih]
      rfl
  have hparting : alone.parting.events.environment = [] := by
    rw [Trace.environment, List.filter_eq_nil_iff]
    intro event hevent
    obtain ⟨entry, rfl⟩ := isLog_of_mem_parting alone event hevent
    exact Bool.false_ne_true
  have hlast : (alone.lastRequest prompt).environment = [] := by
    unfold lastRequest
    split <;> rfl
  rw [events, Trace.environment_append, Trace.environment_append, htraces, hparting, hlast,
    List.append_nil, List.append_nil]

/-- A session over readings is the iteration of its lines. It ends as the iteration does, and its
events are those of the lines in order, each behind one request for the line. All its requests show
its own prompt, none comes from a line, and nothing is left in the environment behind the last line.
Whatever part of the world is left alone by keeping a log is in the end that of the iteration. -/
theorem run_scripted (prompt : Bytes) (readings : List Reading) (world : ω) :
    let session := (run prompt (⟨readings⟩ : ScriptedSource)).run world
    let alone := iterate readings world
    session.value.result = alone.result ∧
      session.value.source.readings = alone.unread ∧
      session.events = alone.events prompt ∧
      (∀ trace ∈ alone.traces, trace.prompts = []) ∧
      session.events.environment = Trace.environment alone.traces.flatten ∧
      session.events.prompts = List.replicate alone.requests prompt ∧
      ∀ {ε : Type} (part : ω → ε),
        (∀ entry world, part (Logger.keep entry world) = part world) →
        part session.world = part alone.world := by
  intro session alone
  have hsession : session = ⟨⟨alone.result, ⟨alone.unread⟩⟩, alone.events prompt, alone.parting.world⟩ :=
    runFrom_scripted prompt readings world
  have hcommands := isOfCommand_of_mem_traces readings world
  rw [hsession]
  refine ⟨rfl, rfl, rfl, fun trace htrace => Trace.prompts_of_isOfCommand (hcommands trace htrace),
    alone.environment_events prompt, Iteration.prompts_events prompt hcommands, fun part hkeep => ?_⟩
  change part alone.parting.world = part alone.world
  unfold Iteration.parting
  split
  · rw [Act.run_log]
    split
    · exact hkeep _ _
    · rfl
  · rfl

/-- On a stage, where logs are kept outside, a session that a line stops leaves the whole stage as
its lines do, and has asked for as many lines as it has run. -/
theorem run_scripted_stopped :
    let readings : List Reading :=
      [.line ⟨Bytes.ofString "cd /a", 128⟩, .line ⟨Bytes.ofString "exit", 128⟩, .endOfInput]
    let session := (run [36] (⟨readings⟩ : ScriptedSource)).run Stage.plain
    (∀ entry (stage : Stage), id (Logger.keep entry stage) = id stage) ∧
      session.world = (iterate readings Stage.plain).world ∧
      session.events.prompts = [[36], [36]] := by
  intro readings session
  obtain ⟨-, -, -, -, -, hprompts, hworld⟩ := run_scripted [36] readings Stage.plain
  exact ⟨fun _ _ => rfl, hworld id fun _ _ => rfl, hprompts⟩

end Session

end LineShell
