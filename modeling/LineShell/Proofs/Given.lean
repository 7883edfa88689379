import LineShell.Source.Editor
import LineShell.Proofs.Environment
/-!
# What a source gives

To a session a line source is the readings that it gives, one for each request, as long as the session
goes on. Where a source leaves the environment alone while it reads, the session is to the environment
the iteration of these readings, and the source is asked once for each of them that is used.

Scripts, editors and streams whose prompts can be shown are such sources.
-/

namespace LineShell

/-- A line source with the number of requests that were made of it. -/
structure Counted (σ : Type) where
  source : σ
  requests : Nat

namespace Counted

variable {σ ω : Type} [LineSource σ ω]

instance : LineSource (Counted σ) ω where
  readLine prompt counted :=
    (fun value => (value.1, ⟨value.2, counted.requests + 1⟩)) <$>
      LineSource.readLine prompt counted.source
  remaining counted := LineSource.remaining ω counted.source
  remaining_lt := by
    intro prompt counted world line counted' hvalue
    obtain ⟨hreading, hrest⟩ := Prod.mk.inj hvalue
    rw [← hrest]
    exact LineSource.remaining_lt prompt counted.source world line _ (Prod.ext hreading rfl)

theorem run_readLine (prompt : Bytes) (source : σ) (count : Nat) (world : ω) :
    (LineSource.readLine prompt (⟨source, count⟩ : Counted σ)).run world =
      ⟨(((LineSource.readLine prompt source).run world).value.1,
          ⟨((LineSource.readLine prompt source).run world).value.2, count + 1⟩),
        ((LineSource.readLine prompt source).run world).events,
        ((LineSource.readLine prompt source).run world).world⟩ := rfl

theorem value_readLine {prompt : Bytes} {source rest : σ} {world : ω} {reading : Reading}
    (hvalue : ((LineSource.readLine prompt source).run world).value = (reading, rest)) (count : Nat) :
    ((LineSource.readLine prompt (⟨source, count⟩ : Counted σ)).run world).value
      = (reading, ⟨rest, count + 1⟩) := by
  rw [run_readLine, hvalue]

end Counted

namespace Session

variable {σ ω ε : Type} [World ω] [LineSource σ ω]

theorem runFrom_counted (prompt : Bytes) (source : σ) (count : Nat) (world : ω) :
    let counted := runFrom prompt (⟨source, count⟩ : Counted σ) world
    let plain := runFrom prompt source world
    counted.value.result = plain.value.result ∧ counted.value.source.source = plain.value.source ∧
      counted.events = plain.events ∧ counted.world = plain.world := by
  induction source, world using @turn_induction ω _ σ _ prompt generalizing count with
  | failed source rest world error hvalue =>
    rw [runFrom_of_failed hvalue, runFrom_of_failed (Counted.value_readLine hvalue count)]
    exact ⟨rfl, rfl, rfl, rfl⟩
  | endOfInput source rest world hvalue =>
    rw [runFrom_of_endOfInput hvalue, runFrom_of_endOfInput (Counted.value_readLine hvalue count)]
    exact ⟨rfl, rfl, rfl, rfl⟩
  | stop source rest world line hvalue hflow =>
    rw [runFrom_of_stop hvalue hflow, runFrom_of_stop (Counted.value_readLine hvalue count) hflow]
    exact ⟨rfl, rfl, rfl, rfl⟩
  | next source rest world line hvalue hflow ih =>
    obtain ⟨hresult, hsource, hevents, hworld⟩ := ih (count + 1)
    rw [runFrom_of_next hvalue hflow, runFrom_of_next (Counted.value_readLine hvalue count) hflow]
    refine ⟨hresult, hsource, ?_, hworld⟩
    rw [Counted.run_readLine]
    dsimp only
    rw [hevents]

def requestsOf (prompt : Bytes) (source : σ) (world : ω) : Nat :=
  (runFrom prompt (⟨source, 0⟩ : Counted σ) world).value.source.requests

/-- A request that gets a reading and leaves the environment as it is. -/
structure Answered (environment : World.Environment ω ε) (invariant : World.Invariant ω)
    (reading : Reading) (world : ω) (read : Outcome ω (Reading × σ)) : Prop where
  value : read.value.1 = reading
  events : read.events.environment = []
  part : environment.part read.world = environment.part world
  holds : invariant.holds read.world

/-- A source that gives these readings in whatever world the requests are made, and then an end of
input. What it gives behind a reading that ends the session does not matter. -/
def Gives (environment : World.Environment ω ε) (invariant : World.Invariant ω) (prompt : Bytes) :
    List Reading → σ → Prop
  | [], source => ∀ world, invariant.holds world →
    Answered environment invariant .endOfInput world ((LineSource.readLine prompt source).run world)
  | reading :: rest, source => ∀ world, invariant.holds world →
    let read := (LineSource.readLine prompt source).run world
    Answered environment invariant reading world read ∧
      (reading.goesOn → Gives environment invariant prompt rest read.value.2)

/-- A session that is to the environment the iteration of some readings, and has made the requests of
that iteration besides those counted before. -/
structure Follows (environment : World.Environment ω ε) (alone : Iteration ω) (count : Nat)
    (session : Outcome ω (End (Counted σ))) : Prop where
  result : session.value.result = alone.result
  events : session.events.environment = Trace.environment alone.traces.flatten
  part : environment.part session.world = environment.part alone.world
  requests : session.value.source.requests = count + alone.requests

section Turn

variable {environment : World.Environment ω ε} {invariant : World.Invariant ω} {prompt : Bytes}
  {source : σ} {reading : Reading} {world before : ω} {count : Nat}

theorem Answered.counted
    (hread : Answered environment invariant reading world ((LineSource.readLine prompt source).run world))
    (count : Nat) :
    ((LineSource.readLine prompt (⟨source, count⟩ : Counted σ)).run world).value =
      (reading, ⟨((LineSource.readLine prompt source).run world).value.2, count + 1⟩) := by
  rw [Counted.run_readLine, hread.value]

theorem follows_of_endOfInput
    (hread : Answered environment invariant .endOfInput world ((LineSource.readLine prompt source).run world))
    (hsame : environment.part world = environment.part before) (unread : List Reading) :
    Follows environment ⟨.ok .endOfInput, [], before, unread⟩ count
      (runFrom prompt (⟨source, count⟩ : Counted σ) world) := by
  rw [runFrom_of_endOfInput (hread.counted count)]
  refine ⟨rfl, ?_, ?_, rfl⟩
  · dsimp only
    rw [Trace.environment_append, environment_log, List.append_nil]
    exact hread.events
  · exact (part_log environment _ _).trans (hread.part.trans hsame)

/-- To the environment a session over a source is the iteration of what the source gives. -/
theorem runFrom_given {readings : List Reading}
    (hgives : Gives environment invariant prompt readings source) (hworld : invariant.holds world)
    (hsame : environment.part world = environment.part before) (count : Nat) :
    Follows environment (iterate readings before) count
      (runFrom prompt (⟨source, count⟩ : Counted σ) world) := by
  induction readings generalizing source world before count with
  | nil => exact follows_of_endOfInput (hgives world hworld) hsame []
  | cons reading rest ih =>
    obtain ⟨hread, hrest⟩ := hgives world hworld
    have hvalue := hread.counted count
    have hpart := hread.part.trans hsame
    cases reading with
    | endOfInput => exact follows_of_endOfInput hread hsame rest
    | failed error =>
      rw [runFrom_of_failed hvalue]
      exact ⟨rfl, hread.events, hpart, rfl⟩
    | line line =>
      have hpaired : Act.Paired environment.pairing (runLine line.bytes) (runLine line.bytes) :=
        paired_runLine line.bytes
      obtain ⟨-, hevents, hafter⟩ := hpaired hpart
      have hcommand : Trace.environment ((runLine line.bytes).run
          ((LineSource.readLine prompt source).run world).world).events
            = Trace.environment ((runLine line.bytes).run before).events := hevents
      cases hexit : isExit line.bytes with
      | true =>
        rw [runFrom_of_stop hvalue (flow_of_isExit hexit _), iterate_line_of_isExit hexit]
        refine ⟨rfl, ?_, hafter, rfl⟩
        dsimp only
        rw [Counted.run_readLine, Trace.environment_append, List.flatten_singleton]
        dsimp only
        rw [hread.events, hcommand, List.nil_append]
      | false =>
        have hgoes : (Reading.line line).goesOn := by rw [Reading.goesOn, hexit, Bool.not_false]
        have hnext := (within_runLine line.bytes _ hread.holds).1
        have hlater := ih (hrest hgoes) hnext hafter (count + 1)
        rw [runFrom_of_next hvalue (flow_of_not_isExit hexit _), iterate_line_of_not_isExit hexit]
        refine ⟨hlater.result, ?_, hlater.part, ?_⟩
        · dsimp only
          rw [Counted.run_readLine, Trace.environment_append, Trace.environment_append,
            List.flatten_cons, Trace.environment_append]
          dsimp only
          rw [hread.events, hcommand, List.nil_append]
          exact congrArg _ hlater.events
        · rw [requests_cons]
          exact hlater.requests.trans (by omega)

end Turn

/-! ### Sources -/

theorem gives_scripted (environment : World.Environment ω ε) (prompt : Bytes) (readings : List Reading) :
    Gives environment (.always ω) prompt readings (⟨readings⟩ : ScriptedSource) := by
  induction readings with
  | nil => exact fun world _ => ⟨rfl, rfl, rfl, trivial⟩
  | cons reading rest ih => exact fun world _ => ⟨⟨rfl, rfl, rfl, trivial⟩, fun _ => ih⟩

end Session

def EditorAnswer.given : EditorAnswer → Reading
  | .text bytes => .line ⟨bytes, bytes.length⟩
  | .failed .endOfFile => .endOfInput
  | .failed .interrupted => .line ⟨[], 0⟩
  | .failed (.io error) => .failed (.editor (.io error))

namespace Session

variable {ω ε : Type} [World ω]

theorem gives_editor (environment : World.Environment ω ε) (prompt : Bytes) (answers : List EditorAnswer) :
    Gives environment (.always ω) prompt (answers.map EditorAnswer.given) (⟨answers⟩ : Editor) := by
  induction answers with
  | nil => exact fun world _ => ⟨rfl, rfl, rfl, trivial⟩
  | cons answer rest ih =>
    intro world _
    refine ⟨?_, fun _ => ih⟩
    -- An abandoned line is the only answer of which something is logged.
    rcases answer with bytes | (_ | _ | error)
    · exact ⟨rfl, rfl, rfl, trivial⟩
    · exact ⟨rfl, rfl, rfl, trivial⟩
    · refine ⟨rfl, ?_, part_log environment .lineInterrupted world, trivial⟩
      simp only [LineSource.readLine, Editor.readLine, EditorAnswer.reading, Act.run_bind, Act.run_pure,
        Act.run_emit, Trace.environment_append, environment_log, List.append_nil]
      rfl
    · exact ⟨rfl, rfl, rfl, trivial⟩

theorem gives_stream (environment : World.Environment ω ε) (reliable : World.Reliable ω .prompt)
    (prompt : Bytes) {readings : List Reading} {stream : Stream}
    (hreadings : Stream.readings [] stream.marks = readings) :
    Gives environment reliable.toInvariant prompt readings stream := by
  have hanswered : ∀ (stream : Stream) (world : ω), reliable.holds world →
      Answered environment reliable.toInvariant (Stream.readMarks [] stream.marks).1 world
        ((stream.readLine prompt).run world) ∧
      ((stream.readLine prompt).run world).value.2.marks = (Stream.readMarks [] stream.marks).2 := by
    intro stream world hworld
    have hprompt := Stream.showPrompt_value reliable prompt hworld
    rcases Stream.showPrompt_cases prompt world with ⟨-, hshown⟩ | ⟨error, hfailed, -⟩
    · have hturn := Stream.turned_of_shownPrompt environment stream hprompt hshown
      rw [hturn.value]
      exact ⟨⟨rfl, hturn.events, hturn.part, (within_readLine prompt stream world hworld).1⟩, rfl⟩
    · exact absurd (hprompt.symm.trans hfailed) (Option.some_ne_none _).symm
  induction readings generalizing stream with
  | nil =>
    intro world hworld
    have hread := (hanswered stream world hworld).1
    rcases Stream.readings_cases [] stream.marks with hcons | ⟨-, hended⟩
    · rw [hreadings] at hcons
      exact absurd hcons.symm (List.cons_ne_nil _ _)
    · rwa [hended] at hread
  | cons reading rest ih =>
    intro world hworld
    obtain ⟨hread, hmarks⟩ := hanswered stream world hworld
    rcases Stream.readings_cases [] stream.marks with hcons | ⟨hnil, -⟩
    · obtain ⟨hfirst, hlater⟩ := List.cons.inj (hreadings.symm.trans hcons)
      rw [← hfirst] at hread
      exact ⟨hread, fun _ => ih (by rw [hlater, ← hmarks]; rfl)⟩
    · rw [hreadings] at hnil
      exact absurd hnil (List.cons_ne_nil _ _)

end Session

end LineShell
