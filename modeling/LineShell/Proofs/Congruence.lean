import LineShell.Proofs.Session
import LineShell.Source.Stream
/-!
# Relations that commands respect

To compare what two worlds make of the same command, one says what relates the two runs and shows that
everything a command asks of a world respects it. The rest is always the same walk through the code of
a command, so it is made here, once for all such relations. A relation that reads respect as well is
respected by whole sessions.

The value of the first of two actions is handed to the next one. A relation only has to hold for the
values that the first one really yields, since a session goes on with a source that has come closer to
its end and not with any source.
-/

namespace LineShell.Act

/-- A relation of actions that sequences respect, and with them all that a command asks of a world. -/
structure Congruence (ω ω' : Type) [World ω] [World ω'] where
  rel : ∀ {α : Type}, Act ω α → Act ω' α → Prop
  pure : ∀ {α : Type} (value : α), rel (pure value) (pure value)
  bind : ∀ {α β : Type} {first : Act ω α} {second : Act ω' α} {next : α → Act ω β}
    {next' : α → Act ω' β}, rel first second →
    (∀ world, rel (next (first.run world).value) (next' (first.run world).value)) →
    rel (first >>= next) (second >>= next')
  log : ∀ entry, rel (log entry) (log entry)
  send : ∀ sink message, sink ≠ .prompt → rel (send sink message) (send sink message)
  flush : ∀ sink, sink ≠ .prompt → rel (flush sink) (flush sink)
  changeDirectory : ∀ target, rel (changeDirectory target) (changeDirectory target)
  launch : ∀ arguments, rel (launch arguments) (launch arguments)

/-- A relation that reads of a stream respect, too. -/
structure Congruence.OfReads {ω ω' : Type} [World ω] [World ω'] (related : Congruence ω ω') : Prop where
  send : ∀ message, related.rel (Act.send .prompt message) (Act.send .prompt message)
  flush : related.rel (Act.flush .prompt) (Act.flush .prompt)
  fetched : related.rel (emit .fetched) (emit .fetched)

namespace Congruence

variable {ω ω' : Type} [World ω] [World ω'] (related : Congruence ω ω')

theorem map {α β : Type} {first : Act ω α} {second : Act ω' α} (hfirst : related.rel first second)
    (change : α → β) : related.rel (change <$> first) (change <$> second) := by
  rw [← bind_pure_comp, ← bind_pure_comp]
  exact related.bind hfirst fun _ => related.pure _

theorem logAll (entries : List Log.Entry) :
    related.rel (Act.logAll entries) (Act.logAll entries) := by
  induction entries with
  | nil => exact related.pure ()
  | cons entry rest ih => exact related.bind (related.log entry) fun _ => ih

theorem sendAll {sink : Sink} (hsink : sink ≠ .prompt) (messages : List Bytes) :
    related.rel (Act.sendAll sink messages) (Act.sendAll sink messages) := by
  induction messages with
  | nil => exact related.pure none
  | cons message rest ih =>
    refine related.bind (related.send sink message hsink) fun world => ?_
    cases ((Act.send sink message).run world).value with
    | none => exact ih
    | some error => exact related.pure _

theorem complain (message : Bytes) : related.rel (Act.complain message) (Act.complain message) :=
  related.sendAll (by decide) _

/-! ### Commands -/

theorem report (error : BuiltinError) :
    related.rel (Builtin.report error) (Builtin.report error) := by
  refine related.bind (related.complain error.message) fun world => ?_
  cases ((Act.complain error.message).run world).value with
  | none => exact related.pure _
  | some refusal => exact related.log _

theorem settle (result : Option BuiltinError) :
    related.rel (Builtin.settle result) (Builtin.settle result) := by
  cases result with
  | none => exact related.pure _
  | some error => exact related.bind (related.report error) fun _ => related.pure _

theorem goTo (words : List Bytes) : related.rel (Builtin.goTo words) (Builtin.goTo words) := by
  unfold Builtin.goTo
  split
  · exact related.pure _
  · exact related.bind (related.changeDirectory _) fun _ => related.pure _

theorem showHelp : related.rel Builtin.showHelp Builtin.showHelp := by
  refine related.bind (related.sendAll (by decide) Builtin.helpText) fun world => ?_
  cases ((Act.sendAll .output Builtin.helpText).run world).value with
  | none => exact related.bind (related.flush .output (by decide)) fun _ => related.pure _
  | some error => exact related.pure _

theorem runBuiltin (builtin : Builtin) (words : List Bytes) :
    related.rel (builtin.run words) (builtin.run words) := by
  cases builtin with
  | changeDirectory => exact related.bind (related.goTo words) fun _ => related.settle _
  | help => exact related.bind related.showHelp fun _ => related.settle _
  | exit => exact related.pure _

theorem tokenize (line : Bytes) :
    related.rel (Session.tokenize line) (Session.tokenize line) := by
  refine related.bind (related.logAll _) fun _ => ?_
  exact related.bind (related.log _) fun _ => related.pure _

theorem noteFlush (failure : Option IoError) :
    related.rel (Session.noteFlush failure) (Session.noteFlush failure) := by
  cases failure with
  | none => exact related.pure _
  | some error => exact related.log _

theorem reportLaunch (result : Except LaunchError Completion) :
    related.rel (Session.reportLaunch result) (Session.reportLaunch result) := by
  cases result with
  | ok completion => exact related.log _
  | error failure =>
    refine related.bind (related.complain failure.message) fun world => ?_
    cases ((Act.complain failure.message).run world).value with
    | none => exact related.pure _
    | some error => exact related.log _

theorem launchCommand (words : List Bytes) :
    related.rel (Session.launch words) (Session.launch words) := by
  rw [Session.launch_eq, Session.launch_eq]
  refine related.bind (related.flush .output (by decide)) fun _ => ?_
  refine related.bind (related.noteFlush _) fun _ => ?_
  exact related.bind (related.launch words) fun _ => related.reportLaunch _

theorem execute (words : List Bytes) :
    related.rel (Session.execute words) (Session.execute words) := by
  cases words with
  | nil => exact related.pure _
  | cons name arguments =>
    simp only [Session.execute]
    split
    · exact related.bind (related.log _) fun _ => related.runBuiltin _ _
    · exact related.bind (related.launchCommand _) fun _ => related.pure _

theorem runLine (line : Bytes) : related.rel (Session.runLine line) (Session.runLine line) :=
  related.bind (related.tokenize line) fun _ => related.execute _

end Congruence

end LineShell.Act

namespace LineShell.Session

variable {σ ω : Type} [World ω] [LineSource σ ω]

/-- What a session does with a reading, if it goes on by `next`. -/
def settleReading (next : σ → Act ω (End σ)) : Reading × σ → Act ω (End σ)
  | (.failed error, rest) => return ⟨.error error, rest⟩
  | (.endOfInput, rest) => do
    Act.log .endOfInput
    return ⟨.ok .endOfInput, rest⟩
  | (.line line, rest) => do
    match ← runLine line.bytes with
    | .stop => return ⟨.ok .stopped, rest⟩
    | .next => next rest

/-- A session is a read and what is done with the reading. -/
theorem run_eq (prompt : Bytes) (source : σ) :
    (run prompt source : Act ω (End σ))
      = LineSource.readLine prompt source >>= settleReading (run prompt) := by
  funext world
  change runFrom prompt source world
    = (LineSource.readLine prompt source >>= settleReading (run prompt)).run world
  rw [Act.run_bind]
  obtain ⟨⟨reading, rest⟩, hvalue⟩ :
    ∃ value, ((LineSource.readLine prompt source).run world).value = value := ⟨_, rfl⟩
  rw [hvalue]
  cases reading with
  | failed error => simp [runFrom_of_failed hvalue, settleReading]
  | endOfInput => simp [runFrom_of_endOfInput hvalue, settleReading]
  | line line =>
    cases hflow : ((runLine line.bytes).run
        ((LineSource.readLine prompt source).run world).world).value with
    | stop => simp [runFrom_of_stop hvalue hflow, settleReading, hflow]
    | next =>
      simp only [runFrom_of_next hvalue hflow, settleReading, Act.run_bind, hflow]
      rfl

end LineShell.Session

namespace LineShell.Act.Congruence

variable {ω ω' : Type} [World ω] [World ω'] (related : Congruence ω ω')

theorem run {σ : Type} [LineSource σ ω] [LineSource σ ω'] {prompt : Bytes}
    (hread : ∀ source : σ, related.rel (LineSource.readLine prompt source)
      (LineSource.readLine prompt source)) (source : σ) :
    related.rel (Session.run prompt source) (Session.run prompt source) := by
  generalize hbound : LineSource.remaining ω source = bound
  induction bound using Nat.strong_induction_on generalizing source with
  | _ bound ih =>
    rw [Session.run_eq, Session.run_eq]
    refine related.bind (hread source) fun world => ?_
    obtain ⟨⟨reading, rest⟩, hvalue⟩ :
      ∃ value, ((LineSource.readLine prompt source).run world).value = value := ⟨_, rfl⟩
    rw [hvalue]
    cases reading with
    | failed error => exact related.pure _
    | endOfInput => exact related.bind (related.log _) fun _ => related.pure _
    | line line =>
      have hless := LineSource.remaining_lt prompt source world line rest hvalue
      refine related.bind (related.runLine line.bytes) fun world' => ?_
      cases ((Session.runLine line.bytes).run world').value with
      | stop => exact related.pure _
      | next => exact ih _ (hbound ▸ hless) rest rfl

variable {related} (hreads : related.OfReads)

include hreads

theorem OfReads.showPrompt (prompt : Bytes) :
    related.rel (LineShell.showPrompt prompt) (LineShell.showPrompt prompt) := by
  refine related.bind (hreads.send prompt) fun world => ?_
  cases ((Act.send .prompt prompt).run world).value with
  | none => exact hreads.flush
  | some error => exact related.pure _

theorem OfReads.scan (buffer : Buffer UInt8) (script : List Chunk) :
    related.rel (Stream.scan buffer script) (Stream.scan buffer script) := by
  have hended : ∀ (buffer : Buffer UInt8) (script : List Chunk),
      related.rel (Stream.ended buffer script) (Stream.ended buffer script) := by
    intro buffer script
    unfold Stream.ended
    split
    · exact related.bind (related.log _) fun _ => related.pure _
    · exact related.pure _
  have hstore : ∀ (buffer : Buffer UInt8) (content : Bytes),
      related.rel (Stream.store buffer content) (Stream.store buffer content) := fun _ _ =>
    related.bind (related.logAll _) fun _ => related.pure _
  induction script generalizing buffer with
  | nil => exact related.bind hreads.fetched fun _ => hended _ _
  | cons chunk script ih =>
    cases chunk with
    | failure error =>
      refine related.bind hreads.fetched fun _ => ?_
      split
      · exact ih buffer
      · exact related.pure _
    | bytes content =>
      refine related.bind hreads.fetched fun _ => ?_
      split
      · exact hended _ _
      · split
        · exact related.bind (hstore _ _) fun _ => ih _
        · exact related.bind (hstore _ _) fun _ => related.pure _

theorem OfReads.readLine (prompt : Bytes) (stream : Stream) :
    related.rel (stream.readLine prompt) (stream.readLine prompt) := by
  refine related.bind (hreads.showPrompt prompt) fun world => ?_
  cases ((LineShell.showPrompt prompt).run world).value with
  | none => exact hreads.scan _ _
  | some error => exact related.pure _

end LineShell.Act.Congruence
