import LineShell.Proofs.Congruence
import LineShell.Proofs.Marks
import LineShell.Proofs.Prompt
/-!
# Two runs side by side

Some statements compare two runs: in worlds that differ only in ways that a command cannot notice,
or over sources that only look different. A pairing says which worlds count as alike and which
events are watched. It asks that alike worlds answer a command alike, and that nobody who watches
can see what is fetched or logged. Then the same command leaves the same watched events in alike
worlds, has the same value in both, and takes them to alike worlds again.

A pairing asks nothing of prompts, since the two runs may show them to different channels. Where
these answer alike too the pairing has prompts.
-/

namespace LineShell

/-- What two outcomes have in common: values of which `same` holds, the same watched events, and
worlds that are alike. -/
structure Outcome.Agree {ω ω' α β : Type} (same : α → β → Prop) (alike : ω → ω' → Prop)
    (watched : Event → Bool) (first : Outcome ω α) (second : Outcome ω' β) : Prop where
  value : same first.value second.value
  events : first.events.filter watched = second.events.filter watched
  world : alike first.world second.world

/-- Which worlds are alike for commands, and which events are watched. -/
structure World.Pairing (ω ω' : Type) [World ω] [World ω'] where
  alike : ω → ω' → Prop
  watched : Event → Bool
  fetched : watched .fetched = false
  logLeft : ∀ entry world world', alike world world' → Logger.wants entry world →
    watched (.log entry) = false ∧ alike (Logger.keep entry world) world'
  logRight : ∀ entry world world', alike world world' → Logger.wants entry world' →
    watched (.log entry) = false ∧ alike world (Logger.keep entry world')
  deliver : ∀ sink message world world', sink ≠ .prompt → alike world world' →
    (World.deliver sink message world).1 = (World.deliver sink message world').1 ∧
      alike (World.deliver sink message world).2 (World.deliver sink message world').2
  flush : ∀ sink world world', sink ≠ .prompt → alike world world' →
    (World.flush sink world).1 = (World.flush sink world').1 ∧
      alike (World.flush sink world).2 (World.flush sink world').2
  changeDirectory : ∀ target world world', alike world world' →
    (World.changeDirectory target world).1 = (World.changeDirectory target world').1 ∧
      alike (World.changeDirectory target world).2 (World.changeDirectory target world').2
  launch : ∀ arguments world world', alike world world' →
    ((World.launch arguments).run world).Agree Eq alike watched ((World.launch arguments).run world')

/-- The channels for prompts answer alike too. -/
structure World.Pairing.HasPrompts {ω ω' : Type} [World ω] [World ω'] (pairing : World.Pairing ω ω') :
    Prop where
  deliver : ∀ message world world', pairing.alike world world' →
    (World.deliver .prompt message world).1 = (World.deliver .prompt message world').1 ∧
      pairing.alike (World.deliver .prompt message world).2 (World.deliver .prompt message world').2
  flush : ∀ world world', pairing.alike world world' →
    (World.flush .prompt world).1 = (World.flush .prompt world').1 ∧
      pairing.alike (World.flush .prompt world).2 (World.flush .prompt world').2

namespace Act

variable {ω ω' α β : Type} [World ω] [World ω'] {pairing : World.Pairing ω ω'}

/-- Two actions agree in alike worlds. -/
def Paired (pairing : World.Pairing ω ω') (first : Act ω α) (second : Act ω' α) : Prop :=
  ∀ ⦃world world'⦄, pairing.alike world world' →
    (first.run world).Agree Eq pairing.alike pairing.watched (second.run world')

theorem paired_pure (value : α) : Paired pairing (pure value) (pure value) := fun _ _ halike =>
  ⟨rfl, rfl, halike⟩

theorem Paired.bind {first : Act ω α} {second : Act ω' α} {next : α → Act ω β}
    {next' : α → Act ω' β} (hfirst : Paired pairing first second)
    (hnext : ∀ world, Paired pairing (next (first.run world).value) (next' (first.run world).value)) :
    Paired pairing (first >>= next) (second >>= next') := by
  intro world world' halike
  obtain ⟨hvalue, hevents, hmiddle⟩ := hfirst halike
  have hlater := hnext world hmiddle
  rw [run_bind, run_bind, ← hvalue]
  refine ⟨hlater.value, ?_, hlater.world⟩
  dsimp only
  rw [List.filter_append, List.filter_append, hevents, hlater.events]

theorem paired_emit (event : Event) : Paired pairing (emit event) (emit event) := fun _ _ halike =>
  ⟨rfl, rfl, halike⟩

/-- An action that leaves nothing to watch and keeps the worlds alike from one side. -/
theorem agree_of_leaves {first : Act ω α} {second : Act ω' β} {same : α → β → Prop}
    (hfirst : ∀ world', first.Leaves (pairing.alike · world') (pairing.watched · = false))
    (hsecond : ∀ world, second.Leaves (pairing.alike world ·) (pairing.watched · = false))
    {world : ω} {world' : ω'} (hvalue : same (first.run world).value (second.run world').value)
    (halike : pairing.alike world world') :
    (first.run world).Agree same pairing.alike pairing.watched (second.run world') := by
  obtain ⟨hleft, hfirst⟩ := hfirst world' world halike
  obtain ⟨hright, hsecond⟩ := hsecond (first.run world).world world' hleft
  have hnone : ∀ {trace : Trace}, (∀ event ∈ trace, pairing.watched event = false) →
      trace.filter pairing.watched = [] := fun htrace =>
    List.filter_eq_nil_iff.2 fun event hevent => Bool.eq_false_iff.1 (htrace event hevent)
  exact ⟨hvalue, (hnone hfirst).trans (hnone hsecond).symm, hright⟩

theorem paired_log (entry : Log.Entry) : Paired pairing (log entry) (log entry) := fun _ _ =>
  agree_of_leaves (fun world' => leaves_log fun world => pairing.logLeft entry world world')
    (fun world => leaves_log fun world' => pairing.logRight entry world world') rfl

private theorem agree_send {sink : Sink} {message : Bytes} {world : ω} {world' : ω'}
    (hdeliver : (World.deliver sink message world).1 = (World.deliver sink message world').1 ∧
      pairing.alike (World.deliver sink message world).2 (World.deliver sink message world').2) :
    ((send sink message).run world).Agree Eq pairing.alike pairing.watched
      ((send sink message).run world') := by
  rw [run_send, run_send, hdeliver.1]
  exact ⟨rfl, rfl, hdeliver.2⟩

private theorem agree_flush {sink : Sink} {world : ω} {world' : ω'}
    (hflush : (World.flush sink world).1 = (World.flush sink world').1 ∧
      pairing.alike (World.flush sink world).2 (World.flush sink world').2) :
    ((flush sink).run world).Agree Eq pairing.alike pairing.watched ((flush sink).run world') := by
  rw [run_flush, run_flush, hflush.1]
  exact ⟨rfl, rfl, hflush.2⟩

theorem paired_send {sink : Sink} (hsink : sink ≠ .prompt) (message : Bytes) :
    Paired pairing (send sink message) (send sink message) := fun _ _ halike =>
  agree_send (pairing.deliver sink message _ _ hsink halike)

theorem paired_flush {sink : Sink} (hsink : sink ≠ .prompt) :
    Paired pairing (flush sink) (flush sink) := fun _ _ halike =>
  agree_flush (pairing.flush sink _ _ hsink halike)

theorem paired_showPrompt (hprompts : pairing.HasPrompts) (prompt : Bytes) :
    Paired pairing (showPrompt prompt) (showPrompt prompt) := by
  have hsend : Paired pairing (send .prompt prompt) (send .prompt prompt) := fun _ _ halike =>
    agree_send (hprompts.deliver prompt _ _ halike)
  refine hsend.bind fun world => ?_
  cases ((send .prompt prompt).run world).value with
  | none => exact fun _ _ halike => agree_flush (hprompts.flush _ _ halike)
  | some error => exact paired_pure _

theorem paired_changeDirectory (target : Bytes) :
    Paired pairing (changeDirectory target) (changeDirectory target) :=
  (paired_emit _).bind fun _ _ _ halike =>
    ⟨(pairing.changeDirectory target _ _ halike).1, rfl, (pairing.changeDirectory target _ _ halike).2⟩

theorem paired_launch (arguments : List Bytes) :
    Paired pairing (launch arguments) (launch arguments) :=
  (paired_emit _).bind fun _ _ _ halike => pairing.launch arguments _ _ halike

/-- That two actions agree in alike worlds is respected by all that a command asks of a world. -/
def agreement (pairing : World.Pairing ω ω') : Congruence ω ω' where
  rel := Paired pairing
  pure := paired_pure
  bind := Paired.bind
  log := paired_log
  send _ message hsink := paired_send hsink message
  flush _ hsink := paired_flush hsink
  changeDirectory := paired_changeDirectory
  launch := paired_launch

end Act

variable {ω ω' : Type} [World ω] [World ω'] {pairing : World.Pairing ω ω'}

theorem Session.paired_runLine (line : Bytes) : Act.Paired pairing (runLine line) (runLine line) :=
  (Act.agreement pairing).runLine line

/-! ### Sessions -/

/-- Readings of two sources that are the same, and leave sources of which `same` holds. -/
def SameReading {σ σ' : Type} (same : σ → σ' → Prop) (first : Reading × σ) (second : Reading × σ') :
    Prop :=
  first.1 = second.1 ∧ same first.2 second.2

def Session.SameEnd {σ σ' : Type} (same : σ → σ' → Prop) (first : Session.End σ)
    (second : Session.End σ') : Prop :=
  first.result = second.result ∧ same first.source second.source

theorem Session.runFrom_agree {σ σ' : Type} [LineSource σ ω] [LineSource σ' ω'] {prompt : Bytes}
    {same : σ → σ' → Prop}
    (hread : ∀ source source' world world', same source source' → pairing.alike world world' →
      ((LineSource.readLine prompt source).run world).Agree (SameReading same) pairing.alike
        pairing.watched ((LineSource.readLine prompt source').run world'))
    {source : σ} {source' : σ'} (hsource : same source source') {world : ω} {world' : ω'}
    (halike : pairing.alike world world') :
    (runFrom prompt source world).Agree (SameEnd same) pairing.alike pairing.watched
      (runFrom prompt source' world') := by
  generalize hbound : LineSource.remaining ω source = bound
  induction bound using Nat.strong_induction_on generalizing source source' world world' with
  | _ bound ih =>
    obtain ⟨⟨hreading, hrest⟩, hevents, hafter⟩ := hread source source' world world' hsource halike
    obtain ⟨⟨reading, rest⟩, hvalue⟩ :
      ∃ value, ((LineSource.readLine prompt source).run world).value = value := ⟨_, rfl⟩
    obtain ⟨⟨reading', rest'⟩, hvalue'⟩ :
      ∃ value, ((LineSource.readLine prompt source').run world').value = value := ⟨_, rfl⟩
    rw [hvalue, hvalue'] at hreading hrest
    obtain rfl : reading = reading' := hreading
    cases reading with
    | failed error =>
      rw [runFrom_of_failed hvalue, runFrom_of_failed hvalue']
      exact ⟨⟨rfl, hrest⟩, hevents, hafter⟩
    | endOfInput =>
      have hnote := Act.paired_log .endOfInput hafter
      rw [runFrom_of_endOfInput hvalue, runFrom_of_endOfInput hvalue']
      refine ⟨⟨rfl, hrest⟩, ?_, hnote.world⟩
      dsimp only
      rw [List.filter_append, List.filter_append, hevents, hnote.events]
    | line line =>
      have hline := paired_runLine line.bytes hafter
      cases hflow : ((runLine line.bytes).run
          ((LineSource.readLine prompt source).run world).world).value with
      | stop =>
        have hflow' := hline.value.symm.trans hflow
        rw [runFrom_of_stop hvalue hflow, runFrom_of_stop hvalue' hflow']
        refine ⟨⟨rfl, hrest⟩, ?_, hline.world⟩
        dsimp only
        rw [List.filter_append, List.filter_append, hevents, hline.events]
      | next =>
        have hflow' := hline.value.symm.trans hflow
        have hless := LineSource.remaining_lt prompt source world line rest hvalue
        have hlater := ih _ (hbound ▸ hless) hrest hline.world rfl
        rw [runFrom_of_next hvalue hflow, runFrom_of_next hvalue' hflow']
        refine ⟨hlater.value, ?_, hlater.world⟩
        dsimp only
        rw [List.filter_append, List.filter_append, List.filter_append, List.filter_append, hevents,
          hline.events, hlater.events]

namespace Stream

def SameMarks (stream stream' : Stream) : Prop := stream.marks = stream'.marks

theorem nextLine_agree {stream stream' : Stream} (hmarks : SameMarks stream stream') {world : ω}
    {world' : ω'} (halike : pairing.alike world world') :
    (stream.nextLine.run world).Agree (SameReading SameMarks) pairing.alike pairing.watched
      (stream'.nextLine.run world') := by
  have hsame := (nextLine_marks stream world).symm.trans
    ((congrArg (readMarks []) hmarks).trans (nextLine_marks stream' world'))
  have hvalue : SameReading SameMarks (stream.nextLine.run world).value
      (stream'.nextLine.run world').value := ⟨(Prod.mk.inj hsame).1, (Prod.mk.inj hsame).2⟩
  exact Act.agree_of_leaves
    (fun world' => leaves_scan pairing.fetched (fun entry world => pairing.logLeft entry world world') _ _)
    (fun world => leaves_scan pairing.fetched (fun entry world' => pairing.logRight entry world world') _ _)
    hvalue halike

theorem readLine_agree (hprompts : pairing.HasPrompts) (prompt : Bytes) {stream stream' : Stream}
    (hmarks : SameMarks stream stream') {world : ω} {world' : ω'}
    (halike : pairing.alike world world') :
    ((stream.readLine prompt).run world).Agree (SameReading SameMarks) pairing.alike pairing.watched
      ((stream'.readLine prompt).run world') := by
  obtain ⟨hvalue, hevents, hafter⟩ := Act.paired_showPrompt hprompts prompt halike
  rw [readLine, readLine, Act.run_bind, Act.run_bind, ← hvalue]
  cases ((showPrompt prompt).run world).value with
  | some error =>
    refine ⟨⟨rfl, hmarks⟩, ?_, hafter⟩
    simpa using hevents
  | none =>
    have hread := nextLine_agree hmarks hafter
    refine ⟨hread.value, ?_, hread.world⟩
    dsimp only
    rw [List.filter_append, List.filter_append, hevents, hread.events]

end Stream

/-- Sessions over streams with the same marks agree, where the channels for prompts do. -/
theorem Session.run_agree (hprompts : pairing.HasPrompts) (prompt : Bytes) {stream stream' : Stream}
    (hmarks : Stream.SameMarks stream stream') {world : ω} {world' : ω'}
    (halike : pairing.alike world world') :
    ((run prompt stream).run world).Agree (SameEnd Stream.SameMarks) pairing.alike pairing.watched
      ((run prompt stream').run world') :=
  runFrom_agree (fun _ _ _ _ hmarks halike => Stream.readLine_agree hprompts prompt hmarks halike)
    hmarks halike

end LineShell
