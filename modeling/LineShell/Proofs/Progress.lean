import LineShell.Proofs.Given
/-!
# Reads make progress

A read of a stream asks for bytes at most once for each answer that is left and once more at the end, for
it goes on only behind an answer that passes. A line takes its bytes and its newline out of the stream. Any
other read takes at least one answer, if there is one.

So a session over a stream comes to an end: each request but the last has got a line, and a line uses up a
newline. This is so whatever the channels take and the host answers.
-/

namespace LineShell

theorem Act.Leaves.count_eq_zero {ω α : Type} {action : Act ω α} {event : Event}
    (haction : action.Leaves (fun _ => True) (· ≠ event)) (world : ω) :
    (action.run world).events.count event = 0 :=
  List.count_eq_zero.2 fun hevent => (haction world trivial).2 event hevent rfl

namespace Stream

section Reads

variable {ω : Type} [Logger ω]

/-- How often a read asks for bytes, and how many answers it leaves. -/
theorem fetched_scan (buffer : Buffer UInt8) (script : List Chunk) (world : ω) :
    let read := (scan buffer script).run world
    read.events.count .fetched + read.value.2.script.length ≤ script.length + 1 := by
  have hlog : ∀ (entry : Log.Entry) (world : ω), True → Logger.wants entry world →
      Event.log entry ≠ .fetched ∧ True := fun _ _ _ _ => ⟨Event.noConfusion, trivial⟩
  have hended : ∀ (buffer : Buffer UInt8) (script : List Chunk) (world : ω),
      ((ended buffer script).run world).events.count .fetched = 0 := fun buffer script =>
    (leaves_ended hlog buffer script).count_eq_zero
  have hstore : ∀ (buffer : Buffer UInt8) (content : Bytes) (world : ω),
      ((store buffer content).run world).events.count .fetched = 0 := fun buffer content =>
    (leaves_store hlog buffer content).count_eq_zero
  -- The answers left are counted as well: a read that ends early leaves them all for later ones.
  induction script generalizing buffer world with
  | nil =>
    simp only [scan, Act.run_bind, Act.run_emit, List.count_append, List.count_singleton_self, hended,
      ended_value, List.length_nil]
    omega
  | cons chunk script ih =>
    cases chunk with
    | failure error =>
      simp only [scan, Act.run_bind, Act.run_emit, List.count_append, List.count_singleton_self,
        List.length_cons]
      by_cases hinterrupts : error.interrupts
      · have hlater := ih buffer world
        rw [if_pos hinterrupts]
        omega
      · rw [if_neg hinterrupts]
        simp only [Act.run_pure, List.count_nil]
        omega
    | bytes content =>
      simp only [scan, Act.run_bind, Act.run_emit, List.count_append, List.count_singleton_self,
        List.length_cons]
      by_cases hempty : content.isEmpty
      · rw [if_pos hempty, hended, ended_value]
        dsimp only
        omega
      · rw [if_neg hempty]
        cases hcut : content.cutAt newline with
        | none =>
          have hlater := ih ((store buffer content).run world).value ((store buffer content).run world).world
          simp only [Act.run_bind, List.count_append, hstore]
          omega
        | some parts =>
          simp only [Act.run_bind, Act.run_pure, List.count_append, hstore, List.count_nil]
          omega

theorem fetched_nextLine (stream : Stream) (world : ω) :
    (stream.nextLine.run world).events.count .fetched
      ≤ (if stream.pending = [] then 0 else 1) + stream.script.length + 1 := by
  have hscan : (stream.nextLine.run world).events.count .fetched
      + (stream.nextLine.run world).value.2.script.length ≤ stream.answers.length + 1 :=
    fetched_scan (.empty lineStep) stream.answers world
  have hanswers : stream.answers.length
      = (if stream.pending = [] then 0 else 1) + stream.script.length := by
    unfold answers
    by_cases hpending : stream.pending = []
    · rw [if_pos hpending, if_pos (List.isEmpty_iff.2 hpending), Nat.zero_add]
    · rw [if_neg hpending, if_neg (mt List.isEmpty_iff.1 hpending), List.length_cons, Nat.add_comm]
  omega

/-- The answers behind one that is not the rest of the current chunk. -/
theorem script_lt_of_answers {stream : Stream} {passed rest : List Chunk} {chunk : Chunk}
    (hanswers : stream.answers = passed ++ chunk :: rest)
    (hchunk : stream.pending ≠ [] → chunk ≠ .bytes stream.pending) :
    rest.length < stream.script.length := by
  unfold answers at hanswers
  split at hanswers <;> rename_i hpending
  · rw [hanswers, List.length_append, List.length_cons]
    omega
  · cases passed with
    | nil =>
      have hnonempty : stream.pending ≠ [] := mt List.isEmpty_iff.2 hpending
      exact absurd (List.cons.inj hanswers).1.symm (hchunk hnonempty)
    | cons first passed =>
      have hscript : stream.script = passed ++ chunk :: rest := (List.cons.inj hanswers).2
      rw [hscript, List.length_append, List.length_cons]
      omega

/-- A read that gets no line takes an answer, as long as there is one. -/
theorem ReadsTo.script_lt {stream rest : Stream} {reading : Reading}
    (hreads : ReadsTo stream.answers reading rest) (hreading : ∀ line, reading ≠ .line line)
    (hscript : stream.script ≠ []) : rest.script.length < stream.script.length := by
  generalize hanswers : stream.answers = script at hreads
  cases hreads with
  | line => exact absurd rfl (hreading _)
  | failed => exact script_lt_of_answers hanswers fun _ => Chunk.noConfusion
  | paused =>
    refine script_lt_of_answers hanswers fun hpending heq => ?_
    exact hpending (Chunk.bytes.inj heq).symm
  | ended => exact List.length_pos_iff.2 hscript

/-- What a read has done for the end of its stream. It has asked for bytes at most once for the rest of the
chunk, once for each answer and once behind them. A line has used up its bytes and its newline, and any other
reading an answer, unless there was none. -/
structure Progresses (stream : Stream) (read : Outcome ω (Reading × Stream)) : Prop where
  calls : read.events.count .fetched
    ≤ (if stream.pending = [] then 0 else 1) + stream.script.length + 1
  line : ∀ line, read.value.1 = .line line →
    newline ∉ line.bytes ∧ stream.content = line.bytes ++ newline :: read.value.2.content
  other : (∀ line, read.value.1 ≠ .line line) → stream.script ≠ [] →
    read.value.2.script.length < stream.script.length

theorem progresses_nextLine (stream : Stream) (world : ω) :
    stream.Progresses (stream.nextLine.run world) := by
  obtain ⟨⟨reading, rest⟩, hvalue⟩ : ∃ value, (stream.nextLine.run world).value = value := ⟨_, rfl⟩
  have hreads := nextLine_value_iff.1 hvalue
  obtain ⟨taken, htaken, hcontent⟩ := hreads.takes
  rw [contentOf_answers] at hcontent
  refine ⟨fetched_nextLine stream world, ?_, ?_⟩ <;> rw [hvalue]
  · rintro line rfl
    obtain ⟨hline, rfl⟩ := htaken
    refine ⟨hline, ?_⟩
    rw [hcontent, List.append_assoc]
    rfl
  · exact hreads.script_lt

end Reads

theorem newlines_eq (stream : Stream) : stream.newlines = stream.content.count newline := by
  obtain ⟨pending, script⟩ := stream
  have hscript : newlinesInAll script = (contentOf script).count newline := by
    induction script with
    | nil => rfl
    | cons chunk script ih =>
      rw [newlinesInAll, contentOf_cons, List.count_append, ih]
      cases chunk <;> rfl
  rw [newlines, content, List.count_append, hscript]

end Stream

namespace Session

variable {σ ω : Type} [World ω] [LineSource σ ω]

/-- A session makes at most one request more than there are lines still to come. -/
theorem requests_le (prompt : Bytes) (source : σ) (count : Nat) (world : ω) :
    (runFrom prompt (⟨source, count⟩ : Counted σ) world).value.source.requests
      ≤ count + LineSource.remaining ω source + 1 := by
  induction source, world using @turn_induction ω _ σ _ prompt generalizing count with
  | failed source rest world error hvalue =>
    rw [runFrom_of_failed (Counted.value_readLine hvalue count)]
    dsimp only
    omega
  | endOfInput source rest world hvalue =>
    rw [runFrom_of_endOfInput (Counted.value_readLine hvalue count)]
    dsimp only
    omega
  | stop source rest world line hvalue hflow =>
    rw [runFrom_of_stop (Counted.value_readLine hvalue count) hflow]
    dsimp only
    omega
  | next source rest world line hvalue hflow ih =>
    have hless := LineSource.remaining_lt prompt source world line rest hvalue
    have hlater := ih (count + 1)
    rw [runFrom_of_next (Counted.value_readLine hvalue count) hflow]
    refine hlater.trans ?_
    omega

/-! ### Sessions with a number of requests -/

/-- A session that gives up where it would make more than this many requests. -/
def runWithin (prompt : Bytes) : Nat → σ → ω → Option (Outcome ω (End σ))
  | 0, _, _ => none
  | calls + 1, source, world =>
    let reading := (LineSource.readLine prompt source).run world
    match reading.value with
    | (.failed error, source') => some ⟨⟨.error error, source'⟩, reading.events, reading.world⟩
    | (.endOfInput, source') =>
      let note := (Act.log .endOfInput).run reading.world
      some ⟨⟨.ok .endOfInput, source'⟩, reading.events ++ note.events, note.world⟩
    | (.line line, source') =>
      let command := (runLine line.bytes).run reading.world
      match command.value with
      | .stop => some ⟨⟨.ok .stopped, source'⟩, reading.events ++ command.events, command.world⟩
      | .next => do
        let rest ← runWithin prompt calls source' command.world
        return ⟨rest.value, reading.events ++ (command.events ++ rest.events), rest.world⟩

theorem runWithin_of_lt {prompt : Bytes} {source : σ} {world : ω} {calls : Nat}
    (hcalls : LineSource.remaining ω source < calls) :
    runWithin prompt calls source world = some (runFrom prompt source world) := by
  induction calls generalizing source world with
  | zero => exact absurd hcalls (Nat.not_lt_zero _)
  | succ calls ih =>
    obtain ⟨⟨reading, rest⟩, hvalue⟩ :
      ∃ value, ((LineSource.readLine prompt source).run world).value = value := ⟨_, rfl⟩
    simp only [runWithin, hvalue]
    cases reading with
    | failed error => rw [runFrom_of_failed hvalue]
    | endOfInput => rw [runFrom_of_endOfInput hvalue]
    | line line =>
      have hless := LineSource.remaining_lt prompt source world line rest hvalue
      cases hexit : isExit line.bytes with
      | true =>
        have hflow := flow_of_isExit hexit ((LineSource.readLine prompt source).run world).world
        rw [runFrom_of_stop hvalue hflow]
        simp only [hflow]
      | false =>
        have hflow := flow_of_not_isExit hexit ((LineSource.readLine prompt source).run world).world
        have hlater : ∀ world' : ω,
            runWithin prompt calls rest world' = some (runFrom prompt rest world') := fun world' =>
          ih (by omega)
        rw [runFrom_of_next hvalue hflow]
        simp only [hflow, hlater]
        rfl

/-- Each read makes progress, whatever state the stream has reached, and a session over a stream ends: in any
world it makes at most one request more than there are newlines to come, and it comes to the same if it may
make no more than these. -/
theorem run_progresses (prompt : Bytes) (stream : Stream) (world : ω) :
    (∀ (reached : Stream) (world : ω), reached.Progresses (reached.nextLine.run world)) ∧
      let requests := stream.content.count Stream.newline + 1
      requestsOf prompt stream world ≤ requests ∧
        runWithin prompt requests stream world = some (runFrom prompt stream world) := by
  refine ⟨Stream.progresses_nextLine, ?_⟩
  have hremaining : LineSource.remaining ω stream = stream.content.count Stream.newline :=
    stream.newlines_eq
  rw [← hremaining]
  constructor
  · have hrequests := requests_le prompt stream 0 world
    rwa [Nat.zero_add] at hrequests
  · exact runWithin_of_lt (Nat.lt_succ_self _)

end Session

end LineShell
