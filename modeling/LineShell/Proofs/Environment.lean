import LineShell.Proofs.HostCalls
import LineShell.Proofs.Pairing
/-!
# The environment of a session

The part of a world that commands work on is its environment: standard output, the error channel and
the host. Prompts are shown beside it, and so are logs kept. So what a session does to its
environment is what its lines do to it, run one after the other without prompts and reads between
them, and a prompt that cannot be shown does no more than cut the lines short.

`Session.runFrom_iterate` says this of every session over a stream. It compares the session with
`iterate` on the readings that the marks of the stream give.
-/

namespace LineShell

/-- An environment: a part of the world that prompts and logs leave as it is, and on which alone it
depends how commands are answered. -/
structure World.Environment (ω ε : Type) [World ω] where
  part : ω → ε
  keep : ∀ entry world, part (Logger.keep entry world) = part world
  showing : ∀ message world, part (World.deliver .prompt message world).2 = part world
  shown : ∀ world, part (World.flush .prompt world).2 = part world
  deliver : ∀ sink message world world', sink ≠ .prompt → part world = part world' →
    (World.deliver sink message world).1 = (World.deliver sink message world').1 ∧
      part (World.deliver sink message world).2 = part (World.deliver sink message world').2
  flush : ∀ sink world world', sink ≠ .prompt → part world = part world' →
    (World.flush sink world).1 = (World.flush sink world').1 ∧
      part (World.flush sink world).2 = part (World.flush sink world').2
  changeDirectory : ∀ target world world', part world = part world' →
    (World.changeDirectory target world).1 = (World.changeDirectory target world').1 ∧
      part (World.changeDirectory target world).2 = part (World.changeDirectory target world').2
  launch : ∀ arguments world world', part world = part world' →
    ((World.launch arguments).run world).Agree Eq (part · = part ·) Event.isOfEnvironment
      ((World.launch arguments).run world')

def World.Environment.pairing {ω ε : Type} [World ω] (environment : World.Environment ω ε) :
    World.Pairing ω ω where
  alike world world' := environment.part world = environment.part world'
  watched := Event.isOfEnvironment
  fetched := rfl
  logLeft entry world _ hsame _ := ⟨rfl, (environment.keep entry world).trans hsame⟩
  logRight entry _ world' hsame _ := ⟨rfl, hsame.trans (environment.keep entry world').symm⟩
  deliver := environment.deliver
  flush := environment.flush
  changeDirectory := environment.changeDirectory
  launch := environment.launch

/-! ### Events of prompts -/

def Event.isOfPrompt (event : Event) : Bool := event.sink? == some .prompt

def Trace.ofPrompt (trace : Trace) : Trace := trace.filter Event.isOfPrompt

def Event.promptFailure? : Event → Option IoError
  | .writeFailed .prompt error | .flushFailed .prompt error => some error
  | _ => none

def shownPrompt (prompt : Bytes) : Trace := [.wrote .prompt prompt, .flushed .prompt]

def shownPrompts (count : Nat) (prompt : Bytes) : Trace :=
  (List.replicate count (shownPrompt prompt)).flatten

/-- What a prompt leaves that cannot be shown because its channel fails with `error`. -/
inductive FailedPrompt (error : IoError) : Trace → Prop where
  | write (accepted : Bytes) :
      FailedPrompt error [.wrote .prompt accepted, .writeFailed .prompt error]
  | flush (accepted : Bytes) :
      FailedPrompt error [.wrote .prompt accepted, .flushFailed .prompt error]

theorem FailedPrompt.environment {error : IoError} {ending : Trace}
    (hending : FailedPrompt error ending) : ending.environment = [] := by
  cases hending <;> rfl

theorem FailedPrompt.failure {error : IoError} {ending : Trace}
    (hending : FailedPrompt error ending) : ∃ event ∈ ending, event.promptFailure? = some error := by
  cases hending with
  | write | flush => exact ⟨_, List.mem_cons_of_mem _ List.mem_cons_self, rfl⟩

theorem FailedPrompt.ofPrompt {error : IoError} {ending : Trace}
    (hending : FailedPrompt error ending) : ending.ofPrompt = ending := by
  cases hending <;> rfl

@[simp] theorem Trace.ofPrompt_append (front rest : Trace) :
    Trace.ofPrompt (front ++ rest) = front.ofPrompt ++ rest.ofPrompt := List.filter_append front rest

theorem shownPrompts_succ (count : Nat) (prompt : Bytes) :
    shownPrompts (count + 1) prompt = shownPrompt prompt ++ shownPrompts count prompt := by
  rw [shownPrompts, List.replicate_succ, List.flatten_cons]
  rfl

theorem shownPrompts_add (count count' : Nat) (prompt : Bytes) :
    shownPrompts (count + count') prompt = shownPrompts count prompt ++ shownPrompts count' prompt := by
  rw [shownPrompts, ← List.replicate_append_replicate, List.flatten_append]
  rfl

theorem Trace.ofPrompt_of_isOfCommand {trace : Trace} (htrace : ∀ event ∈ trace, event.isOfCommand) :
    trace.ofPrompt = [] := by
  rw [ofPrompt, List.filter_eq_nil_iff]
  intro event hevent
  have hcommand := htrace event hevent
  cases event <;> simp_all [Event.isOfCommand, Event.isOfPrompt, Event.sink?]

theorem Event.promptFailure?_of_isOfCommand {event : Event} (hevent : event.isOfCommand) :
    event.promptFailure? = none := by
  cases event with
  | writeFailed sink | flushFailed sink =>
    cases sink <;> simp_all [isOfCommand, promptFailure?, sink?]
  | _ => rfl

/-- Whether an event is of a read without its prompt. -/
def Event.isOfRead : Event → Bool
  | .fetched | .log _ => true
  | _ => false

theorem Event.not_isOfEnvironment_of_isOfRead {event : Event} (hevent : event.isOfRead) :
    event.isOfEnvironment = false := by
  cases event <;> simp_all [isOfRead, isOfEnvironment]

theorem Event.not_isOfPrompt_of_isOfRead {event : Event} (hevent : event.isOfRead) :
    event.isOfPrompt = false := by
  cases event <;> simp_all [isOfRead, isOfPrompt, sink?]

theorem Event.promptFailure?_of_isOfRead {event : Event} (hevent : event.isOfRead) :
    event.promptFailure? = none := by
  cases event <;> simp_all [isOfRead, promptFailure?]

namespace Stream

variable {ω ε : Type} [World ω] (environment : World.Environment ω ε)

theorem showPrompt_cases (prompt : Bytes) (world : ω) :
    (((showPrompt prompt).run world).value = none ∧
        ((showPrompt prompt).run world).events = shownPrompt prompt) ∨
      ∃ error, ((showPrompt prompt).run world).value = some error ∧
        FailedPrompt error ((showPrompt prompt).run world).events := by
  simp only [showPrompt, Act.run_bind, Act.run_send]
  cases hfailure : (World.deliver .prompt prompt world).1.failure with
  | some error => exact .inr ⟨error, rfl, .write _⟩
  | none =>
    have haccepted := (World.deliver_failure .prompt prompt world).1 hfailure
    simp only [Act.run_flush]
    cases (World.flush .prompt (World.deliver .prompt prompt world).2).1 with
    | some error => exact .inr ⟨error, rfl, .flush _⟩
    | none =>
      refine .inl ⟨rfl, ?_⟩
      rw [haccepted]
      rfl

theorem part_showPrompt (prompt : Bytes) (world : ω) :
    environment.part ((showPrompt prompt).run world).world = environment.part world := by
  simp only [showPrompt, Act.run_bind, Act.run_send]
  cases (World.deliver .prompt prompt world).1.failure with
  | some error => exact environment.showing prompt world
  | none =>
    simp only [Act.run_flush]
    exact (environment.shown _).trans (environment.showing prompt world)

/-- A read leaves nothing but its fetches and its log, and the environment as it is. -/
theorem part_nextLine (stream : Stream) (world : ω) :
    environment.part (stream.nextLine.run world).world = environment.part world ∧
      ∀ event ∈ (stream.nextLine.run world).events, event.isOfRead := by
  have hlog : ∀ entry world', environment.part world' = environment.part world →
      Logger.wants entry world' → (Event.log entry).isOfRead = true ∧
        environment.part (Logger.keep entry world') = environment.part world :=
    fun entry world' hsame _ => ⟨rfl, (environment.keep entry world').trans hsame⟩
  have hleaves : (stream.nextLine : Act ω _).Leaves
      (fun world' => environment.part world' = environment.part world) (·.isOfRead = true) :=
    leaves_scan (P := (Event.isOfRead · = true)) rfl hlog _ _
  exact hleaves world rfl

/-- A read whose prompt cannot be shown ends there, and the stream is left as it was. -/
theorem readLine_of_failedPrompt {prompt : Bytes} {stream : Stream} {world : ω} {error : IoError}
    (hprompt : ((showPrompt prompt).run world).value = some error) :
    (stream.readLine prompt).run world =
      ⟨(.failed (.io error), stream), ((showPrompt prompt).run world).events,
        ((showPrompt prompt).run world).world⟩ := by
  simp [readLine, hprompt]

/-- What a read comes to behind a prompt that was shown. -/
structure Turned (environment : World.Environment ω ε) (prompt : Bytes) (stream : Stream) (world : ω)
    (turn : Outcome ω (Reading × Stream)) : Prop where
  value : readMarks [] stream.marks = (turn.value.1, turn.value.2.marks)
  events : turn.events.environment = []
  prompts : turn.events.ofPrompt = shownPrompt prompt
  shown : ∀ event ∈ turn.events, event.promptFailure? = none
  part : environment.part turn.world = environment.part world

theorem turned_of_shownPrompt {prompt : Bytes} (stream : Stream) {world : ω}
    (hprompt : ((showPrompt prompt).run world).value = none)
    (hshown : ((showPrompt prompt).run world).events = shownPrompt prompt) :
    Turned environment prompt stream world ((stream.readLine prompt).run world) := by
  obtain ⟨hpart, hread⟩ := part_nextLine environment stream ((showPrompt prompt).run world).world
  have hnone : ∀ {P : Event → Bool}, (∀ event : Event, event.isOfRead → P event = false) →
      (stream.nextLine.run ((showPrompt prompt).run world).world).events.filter P = [] := fun hP =>
    List.filter_eq_nil_iff.2 fun event hevent => Bool.eq_false_iff.1 (hP event (hread event hevent))
  have henvironment : Trace.environment
      (stream.nextLine.run ((showPrompt prompt).run world).world).events = [] :=
    hnone fun _ => Event.not_isOfEnvironment_of_isOfRead
  have hprompts : Trace.ofPrompt
      (stream.nextLine.run ((showPrompt prompt).run world).world).events = [] :=
    hnone fun _ => Event.not_isOfPrompt_of_isOfRead
  rw [readLine, Act.run_bind, hprompt, hshown]
  refine ⟨nextLine_marks stream _, ?_, ?_, fun event hevent => ?_, ?_⟩
  · dsimp only
    rw [Trace.environment_append, henvironment]
    rfl
  · dsimp only
    rw [Trace.ofPrompt_append, hprompts]
    rfl
  · rcases List.mem_append.1 hevent with hevent | hevent
    · rcases List.mem_cons.1 hevent with rfl | hevent
      · rfl
      · rw [List.mem_singleton.1 hevent]
        rfl
    · exact Event.promptFailure?_of_isOfRead (hread event hevent)
  · exact hpart.trans (part_showPrompt environment prompt world)

end Stream

/-! ### Readings, one after the other -/

/-- Whether a session goes on behind a reading: it is a line that does not leave the session. -/
def Reading.goesOn : Reading → Bool
  | .line content => !isExit content.bytes
  | .endOfInput | .failed _ => false

namespace Session

variable {ω ε : Type} [World ω]

theorem iterate_line_of_isExit {line : Line} (hexit : isExit line.bytes = true)
    (rest : List Reading) (world : ω) :
    iterate (.line line :: rest) world =
      ⟨.ok .stopped, [((runLine line.bytes).run world).events],
        ((runLine line.bytes).run world).world, rest⟩ := by
  rw [iterate_line]
  dsimp only
  rw [if_pos (flow_of_isExit hexit world)]

theorem iterate_line_of_not_isExit {line : Line} (hexit : isExit line.bytes = false)
    (rest : List Reading) (world : ω) :
    iterate (.line line :: rest) world =
      let later := iterate rest ((runLine line.bytes).run world).world
      { later with traces := ((runLine line.bytes).run world).events :: later.traces } := by
  rw [iterate_line]
  dsimp only
  rw [if_neg (by rw [flow_of_not_isExit hexit world]; decide)]

theorem iterate_append_of_goesOn {front : List Reading} (hfront : ∀ reading ∈ front, reading.goesOn)
    (back : List Reading) (world : ω) :
    iterate (front ++ back) world =
      let first := iterate front world
      let later := iterate back first.world
      { later with traces := first.traces ++ later.traces } := by
  induction front generalizing world with
  | nil => rfl
  | cons reading front ih =>
    have hreading := hfront reading List.mem_cons_self
    cases reading with
    | endOfInput | failed => exact absurd hreading Bool.false_ne_true
    | line line =>
      have hexit : isExit line.bytes = false := by simpa [Reading.goesOn] using hreading
      rw [List.cons_append, iterate_line_of_not_isExit hexit, iterate_line_of_not_isExit hexit,
        ih fun other hother => hfront other (List.mem_cons_of_mem _ hother)]
      rfl

theorem iterate_of_goesOn {front : List Reading} (hfront : ∀ reading ∈ front, reading.goesOn)
    (world : ω) :
    (iterate front world).result = .ok .endOfInput ∧
      (iterate front world).traces.length = front.length := by
  induction front generalizing world with
  | nil => exact ⟨rfl, rfl⟩
  | cons reading front ih =>
    have hreading := hfront reading List.mem_cons_self
    cases reading with
    | endOfInput | failed => exact absurd hreading Bool.false_ne_true
    | line line =>
      have hexit : isExit line.bytes = false := by simpa [Reading.goesOn] using hreading
      obtain ⟨hresult, hlength⟩ := ih (fun other hother => hfront other (List.mem_cons_of_mem _ hother))
        ((runLine line.bytes).run world).world
      rw [iterate_line_of_not_isExit hexit]
      exact ⟨hresult, congrArg (· + 1) hlength⟩

/-- Readings of which the last, and no other, is a line that leaves the session. -/
theorem iterate_of_isExit {front : List Reading} (hfront : ∀ reading ∈ front, reading.goesOn)
    {line : Line} (hexit : isExit line.bytes = true) (world : ω) :
    (iterate (front ++ [.line line]) world).result = .ok .stopped ∧
      (iterate (front ++ [.line line]) world).traces.length = front.length + 1 := by
  rw [iterate_append_of_goesOn hfront]
  dsimp only
  rw [iterate_line_of_isExit hexit]
  refine ⟨rfl, ?_⟩
  dsimp only
  rw [List.length_append, (iterate_of_goesOn hfront world).2]
  rfl

/-- What stands behind a reading that ends the iteration does not matter. -/
theorem iterate_append_of_ends {front : List Reading}
    (hfront : ∃ reading ∈ front, ¬ reading.goesOn) (back : List Reading) (world : ω) :
    iterate (front ++ back) world =
      { iterate front world with unread := (iterate front world).unread ++ back } := by
  induction front generalizing world with
  | nil =>
    obtain ⟨reading, hreading, -⟩ := hfront
    exact absurd hreading List.not_mem_nil
  | cons reading front ih =>
    cases reading with
    | endOfInput | failed => rfl
    | line line =>
      cases hexit : isExit line.bytes with
      | true => rw [List.cons_append, iterate_line_of_isExit hexit, iterate_line_of_isExit hexit]
      | false =>
        have hrest : ∃ reading ∈ front, ¬ reading.goesOn := by
          obtain ⟨other, hother, hends⟩ := hfront
          rcases List.mem_cons.1 hother with rfl | hother
          · exact absurd (by simp [Reading.goesOn, hexit]) hends
          · exact ⟨other, hother, hends⟩
        rw [List.cons_append, iterate_line_of_not_isExit hexit, iterate_line_of_not_isExit hexit,
          ih hrest]

theorem iterate_readings_of_endOfInput {marks rest : List Mark}
    (hread : Stream.readMarks [] marks = (.endOfInput, rest)) (world : ω) :
    let alone := iterate (Stream.readings [] marks) world
    alone.result = .ok .endOfInput ∧ alone.traces = [] ∧ alone.world = world := by
  rcases Stream.readings_cases [] marks with hreadings | ⟨hreadings, -⟩
  · rw [hreadings, hread]
    exact ⟨rfl, rfl, rfl⟩
  · rw [hreadings]
    exact ⟨rfl, rfl, rfl⟩

theorem readings_of_ne_endOfInput {marks rest : List Mark} {reading : Reading}
    (hread : Stream.readMarks [] marks = (reading, rest)) (hreading : reading ≠ .endOfInput) :
    Stream.readings [] marks = reading :: Stream.readings [] rest := by
  rcases Stream.readings_cases [] marks with hreadings | ⟨-, hended⟩
  · rw [hreadings, hread]
  · exact absurd (Prod.mk.inj (hread.symm.trans hended)).1 hreading

omit [World ω] in
theorem requests_append (front : List Trace) (later : Iteration ω) :
    ({ later with traces := front ++ later.traces } : Iteration ω).requests
      = front.length + later.requests := by
  obtain ⟨result, traces, world, unread⟩ := later
  unfold Iteration.requests
  dsimp only
  rw [List.length_append]
  split <;> rfl

omit [World ω] in
theorem requests_cons (trace : Trace) (later : Iteration ω) :
    ({ later with traces := trace :: later.traces } : Iteration ω).requests = later.requests + 1 :=
  (requests_append [trace] later).trans (Nat.add_comm 1 _)

theorem environment_log (entry : Log.Entry) (world : ω) :
    Trace.environment ((Act.log entry).run world).events = [] := by
  rw [Act.run_log]
  split <;> rfl

theorem part_log (environment : World.Environment ω ε) (entry : Log.Entry) (world : ω) :
    environment.part ((Act.log entry).run world).world = environment.part world := by
  rw [Act.run_log]
  split
  · exact environment.keep entry world
  · rfl

/-! ### Sessions over streams -/

/-- A session over a stream of which all prompts were shown. To the environment it is an iteration
of lines, and each of its requests has shown one prompt. -/
structure Sound (environment : World.Environment ω ε) (prompt : Bytes) (marks : List Mark)
    (alone : Iteration ω) (session : Outcome ω (End Stream)) : Prop where
  result : session.value.result = alone.result
  events : session.events.environment = Trace.environment alone.traces.flatten
  prompts : session.events.ofPrompt = shownPrompts alone.requests prompt
  shown : ∀ event ∈ session.events, event.promptFailure? = none
  part : environment.part session.world = environment.part alone.world
  source : session.value.source.marks = Stream.behind alone.requests marks

/-- A session over a stream that a prompt has cut short. Some prompts were shown before, and the
attempt to show the next one is the last thing that was done. -/
structure CutShort (environment : World.Environment ω ε) (prompt : Bytes) (marks : List Mark)
    (count : Nat) (error : IoError) (alone : Iteration ω) (session : Outcome ω (End Stream)) :
    Prop where
  result : session.value.result = .error (.io error)
  events : session.events.environment = Trace.environment alone.traces.flatten
  prompts : ∃ ending, FailedPrompt error ending ∧ ending <:+ session.events ∧
    session.events.ofPrompt = shownPrompts count prompt ++ ending
  part : environment.part session.world = environment.part alone.world
  source : session.value.source.marks = Stream.behind count marks

section Turn

variable {environment : World.Environment ω ε} {prompt : Bytes} {stream : Stream} {world : ω}
  {turn : Outcome ω (Reading × Stream)} {command : Trace}

theorem environment_of_turned (hturn : stream.Turned environment prompt world turn)
    (later : Trace) :
    Trace.environment (turn.events ++ (command ++ later))
      = Trace.environment command ++ Trace.environment later := by
  rw [Trace.environment_append, Trace.environment_append, hturn.events, List.nil_append]

theorem ofPrompt_of_turned (hturn : stream.Turned environment prompt world turn)
    (hcommand : ∀ event ∈ command, event.isOfCommand) (later : Trace) :
    Trace.ofPrompt (turn.events ++ (command ++ later)) = shownPrompt prompt ++ later.ofPrompt := by
  rw [Trace.ofPrompt_append, Trace.ofPrompt_append, hturn.prompts,
    Trace.ofPrompt_of_isOfCommand hcommand, List.nil_append]

theorem shown_of_turned (hturn : stream.Turned environment prompt world turn)
    (hcommand : ∀ event ∈ command, event.isOfCommand) {later : Trace}
    (hlater : ∀ event ∈ later, event.promptFailure? = none) :
    ∀ event ∈ turn.events ++ (command ++ later), event.promptFailure? = none := by
  intro event hevent
  rcases List.mem_append.1 hevent with hevent | hevent
  · exact hturn.shown event hevent
  · rcases List.mem_append.1 hevent with hevent | hevent
    · exact Event.promptFailure?_of_isOfCommand (hcommand event hevent)
    · exact hlater event hevent

theorem Sound.last (hturn : stream.Turned environment prompt world turn)
    (hcommand : ∀ event ∈ command, event.isOfCommand) {reading : Reading} {rest : Stream}
    (hread : Stream.readMarks [] stream.marks = (reading, rest.marks)) {alone : Iteration ω}
    {last : ω} (hrequests : alone.requests = 1)
    (hevents : Trace.environment command = Trace.environment alone.traces.flatten)
    (hpart : environment.part last = environment.part alone.world) :
    Sound environment prompt stream.marks alone
      ⟨⟨alone.result, rest⟩, turn.events ++ command, last⟩ := by
  rw [← List.append_nil command]
  refine ⟨rfl, ?_, ?_, shown_of_turned hturn hcommand (List.forall_mem_nil _), hpart, ?_⟩
  · dsimp only
    rw [environment_of_turned hturn, ← hevents]
    exact List.append_nil _
  · dsimp only
    rw [ofPrompt_of_turned hturn hcommand, hrequests]
    rfl
  · rw [hrequests]
    exact (congrArg Prod.snd hread).symm

variable {reading : Reading} {marks : List Mark} {alone : Iteration ω} {later : Outcome ω (End Stream)}

theorem Sound.withUnread {session : Outcome ω (End Stream)}
    (hsession : Sound environment prompt marks alone session) (unread : List Reading) :
    Sound environment prompt marks { alone with unread } session :=
  ⟨hsession.result, hsession.events, hsession.prompts, hsession.shown, hsession.part, hsession.source⟩

theorem Sound.cons (hlater : Sound environment prompt marks alone later)
    (hturn : stream.Turned environment prompt world turn)
    (hcommand : ∀ event ∈ command, event.isOfCommand)
    (hread : Stream.readMarks [] stream.marks = (reading, marks)) {trace : Trace}
    (htrace : Trace.environment command = Trace.environment trace) :
    Sound environment prompt stream.marks { alone with traces := trace :: alone.traces }
      ⟨later.value, turn.events ++ (command ++ later.events), later.world⟩ := by
  refine ⟨hlater.result, ?_, ?_, shown_of_turned hturn hcommand hlater.shown, hlater.part, ?_⟩
  · dsimp only
    rw [environment_of_turned hturn, htrace, hlater.events, List.flatten_cons,
      Trace.environment_append]
  · dsimp only
    rw [ofPrompt_of_turned hturn hcommand, hlater.prompts, requests_cons, shownPrompts_succ]
  · rw [requests_cons, Stream.behind, hread]
    exact hlater.source

theorem CutShort.cons {count : Nat} {error : IoError}
    (hlater : CutShort environment prompt marks count error alone later)
    (hturn : stream.Turned environment prompt world turn)
    (hcommand : ∀ event ∈ command, event.isOfCommand)
    (hread : Stream.readMarks [] stream.marks = (reading, marks)) {trace : Trace}
    (htrace : Trace.environment command = Trace.environment trace) :
    CutShort environment prompt stream.marks (count + 1) error
      { alone with traces := trace :: alone.traces }
      ⟨later.value, turn.events ++ (command ++ later.events), later.world⟩ := by
  obtain ⟨ending, hending, hlast, hprompts⟩ := hlater.prompts
  refine ⟨hlater.result, ?_, ⟨ending, hending, ?_, ?_⟩, hlater.part, ?_⟩
  · dsimp only
    rw [environment_of_turned hturn, htrace, hlater.events, List.flatten_cons,
      Trace.environment_append]
  · exact (hlast.trans (List.suffix_append _ _)).trans (List.suffix_append _ _)
  · dsimp only
    rw [ofPrompt_of_turned hturn hcommand, hprompts, shownPrompts_succ, List.append_assoc]
  · rw [Stream.behind, hread]
    exact hlater.source

end Turn

/-- To the environment, a session over a stream is the iteration of the readings of its marks. If a
prompt cannot be shown it is the iteration of those before, which all go on. -/
theorem runFrom_iterate (environment : World.Environment ω ε) (prompt : Bytes) {stream : Stream}
    {readings : List Reading} (hreadings : Stream.readings [] stream.marks = readings)
    {world before : ω} (hsame : environment.part world = environment.part before) :
    Sound environment prompt stream.marks (iterate readings before) (runFrom prompt stream world) ∨
      ∃ count error, count ≤ readings.length ∧ (∀ reading ∈ readings.take count, reading.goesOn) ∧
        CutShort environment prompt stream.marks count error (iterate (readings.take count) before)
          (runFrom prompt stream world) := by
  generalize hbound : LineSource.remaining ω stream = bound
  induction bound using Nat.strong_induction_on generalizing stream readings world before with
  | _ bound ih =>
    rcases Stream.showPrompt_cases prompt world with ⟨hprompt, hshown⟩ | ⟨error, hprompt, hfailed⟩
    · have hturn := Stream.turned_of_shownPrompt environment stream hprompt hshown
      obtain ⟨⟨reading, rest⟩, hvalue⟩ :
        ∃ value, ((LineSource.readLine prompt stream).run world).value = value := ⟨_, rfl⟩
      have hread : Stream.readMarks [] stream.marks = (reading, rest.marks) := by
        rw [hturn.value]
        exact congrArg (fun value : Reading × Stream => (value.1, value.2.marks)) hvalue
      have hpart := hturn.part.trans hsame
      cases reading with
      | failed error =>
        have hnone : ∀ event ∈ ([] : Trace), event.isOfCommand := List.forall_mem_nil _
        obtain rfl := (readings_of_ne_endOfInput hread (by simp)).symm.trans hreadings
        rw [runFrom_of_failed hvalue, ← List.append_nil (Outcome.events _)]
        exact .inl (.last hturn hnone hread rfl rfl hpart)
      | endOfInput =>
        obtain ⟨hresult, htraces, hworld⟩ := iterate_readings_of_endOfInput hread before
        rw [hreadings] at hresult htraces hworld
        rw [runFrom_of_endOfInput hvalue, ← hresult]
        have hnote := Act.Within.events
          (Act.within_log (P := (Event.isOfCommand · = true)) (fun _ => rfl) .endOfInput)
          ((LineSource.readLine prompt stream).run world).world
        refine .inl (.last hturn hnote hread ?_ ?_ ?_)
        · rw [Iteration.requests, hresult, htraces]
          rfl
        · rw [htraces]
          exact environment_log _ _
        · rw [hworld]
          exact (part_log environment _ _).trans hpart
      | line line =>
        have hcommand := Act.Within.events (within_runLine line.bytes)
          ((LineSource.readLine prompt stream).run world).world
        have hpaired : Act.Paired environment.pairing (runLine line.bytes) (runLine line.bytes) :=
          paired_runLine line.bytes
        obtain ⟨-, hevents, hafter⟩ := hpaired hpart
        obtain rfl := (readings_of_ne_endOfInput hread (by simp)).symm.trans hreadings
        cases hexit : isExit line.bytes with
        | true =>
          rw [runFrom_of_stop hvalue (flow_of_isExit hexit _), iterate_line_of_isExit hexit]
          refine .inl (.last hturn hcommand hread rfl ?_ hafter)
          rw [List.flatten_singleton]
          exact hevents
        | false =>
          have hless := LineSource.remaining_lt prompt stream world line rest hvalue
          rw [runFrom_of_next hvalue (flow_of_not_isExit hexit _), iterate_line_of_not_isExit hexit]
          rcases ih _ (hbound ▸ hless) rfl hafter rfl with
            hlater | ⟨count, error, hcount, hgo, hlater⟩
          · exact .inl (hlater.cons hturn hcommand hread hevents)
          · have hfirst : (Reading.line line).goesOn := by rw [Reading.goesOn, hexit, Bool.not_false]
            refine .inr ⟨count + 1, error, Nat.succ_le_succ hcount, ?_, ?_⟩
            · exact List.forall_mem_cons.2 ⟨hfirst, hgo⟩
            · rw [List.take_succ_cons, iterate_line_of_not_isExit hexit]
              exact hlater.cons hturn hcommand hread hevents
    · have hread : (LineSource.readLine prompt stream).run world = _ :=
        Stream.readLine_of_failedPrompt hprompt
      have hvalue : ((LineSource.readLine prompt stream).run world).value
          = (.failed (.io error), stream) := congrArg Outcome.value hread
      refine .inr ⟨0, error, Nat.zero_le _, List.forall_mem_nil _, ?_⟩
      rw [runFrom_of_failed hvalue, hread]
      refine ⟨rfl, hfailed.environment, ⟨_, hfailed, List.suffix_rfl, hfailed.ofPrompt⟩, ?_, rfl⟩
      exact (Stream.part_showPrompt environment prompt world).trans hsame

theorem within_readLine_shown (reliable : World.Reliable ω .prompt)
    (environment : World.Environment ω ε) (prompt : Bytes) (stream : Stream) :
    (LineSource.readLine prompt stream : Act ω _).Within reliable.toInvariant
      (·.promptFailure? = none) := by
  intro world hworld
  refine ⟨(within_readLine prompt stream world hworld).1, ?_⟩
  have hprompt := Stream.showPrompt_value reliable prompt hworld
  rcases Stream.showPrompt_cases prompt world with ⟨-, hshown⟩ | ⟨error, hfailed, -⟩
  · exact (Stream.turned_of_shownPrompt environment stream hprompt hshown).shown
  · exact absurd (hprompt.symm.trans hfailed) (Option.some_ne_none _).symm

theorem run_iterate (environment : World.Environment ω ε) (reliable : World.Reliable ω .prompt)
    (prompt : Bytes) {stream : Stream} {readings : List Reading}
    (hreadings : Stream.readings [] stream.marks = readings) {world before : ω}
    (hworld : reliable.holds world) (hsame : environment.part world = environment.part before) :
    Sound environment prompt stream.marks (iterate readings before) ((run prompt stream).run world) := by
  rcases runFrom_iterate environment prompt hreadings hsame with hsound | ⟨_, error, -, -, hcut⟩
  · exact hsound
  · obtain ⟨ending, hending, hlast, -⟩ := hcut.prompts
    obtain ⟨-, hshown⟩ := within_run (within_readLine_shown reliable environment prompt)
      (fun _ => Event.promptFailure?_of_isOfCommand) stream world hworld
    obtain ⟨event, hevent, hfailure⟩ := hending.failure
    exact absurd ((hshown event (hlast.mem hevent)).symm.trans hfailure) (Option.some_ne_none _).symm

end Session

namespace Stage

private theorem eq_of_same {stage stage' : Stage}
    (hsame : (stage.output, stage.error, stage.host) = (stage'.output, stage'.error, stage'.host)) :
    stage' = { stage with prompt := stage'.prompt, verbosity := stage'.verbosity } := by
  obtain ⟨houtput, hrest⟩ := Prod.mk.inj hsame
  obtain ⟨herror, hhost⟩ := Prod.mk.inj hrest
  rw [houtput, herror, hhost]

def environment : World.Environment Stage (Channel × Channel × HostScript) where
  part stage := (stage.output, stage.error, stage.host)
  keep _ _ := rfl
  showing _ _ := rfl
  shown _ := rfl
  deliver sink message stage stage' hsink hsame := by
    rw [eq_of_same hsame]
    cases sink with
    | output | error => exact ⟨rfl, rfl⟩
    | prompt => exact absurd rfl hsink
  flush sink stage stage' hsink hsame := by
    rw [eq_of_same hsame]
    cases sink with
    | output | error => exact ⟨rfl, rfl⟩
    | prompt => exact absurd rfl hsink
  changeDirectory target stage stage' hsame := by
    rw [eq_of_same hsame]
    simp only [World.changeDirectory, answerDirectory]
    cases stage.host.directories <;> exact ⟨rfl, rfl⟩
  launch arguments stage stage' hsame := by
    rw [eq_of_same hsame]
    simp only [World.launch, Act.run_update, answerLaunch]
    cases stage.host.launches <;> exact ⟨rfl, rfl, rfl⟩

end Stage

end LineShell
