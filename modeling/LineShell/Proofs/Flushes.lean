import LineShell.Proofs.Reports
import LineShell.Proofs.Tasks
import Mathlib.Data.List.DropRight
/-!
# Bytes that no flush has pushed on

What a channel has accepted may still be held back until the channel is flushed. A trace is settled if
the channel holds nothing back, or has failed since it was last flushed. A trace that is settled in two
parts is settled as a whole, whatever the first part leaves held back, since a flush in the second part
pushes that on too and a failure in the first part is not forgotten before the next flush. So it is
enough to look at the commands one by one: only help writes to the output, and it flushes it unless a
write has failed.

In front of a launch there is one flush and nothing behind it but its own warning. Where the flush
succeeds the child starts with nothing held back, even if output has failed long before.
-/

namespace LineShell

def Event.isFailureOf (sink : Sink) : Event → Bool
  | .writeFailed sink' _ | .flushFailed sink' _ => sink' == sink
  | _ => false

def Event.ofFlush (sink : Sink) (failure : Option IoError) : Event :=
  failure.elim (.flushed sink) (.flushFailed sink ·)

def Event.isOfLog : Event → Bool
  | .log _ => true
  | _ => false

namespace Trace

def sinceFlush (sink : Sink) (trace : Trace) : Trace := trace.rtakeWhile (· != .flushed sink)

def unflushed (sink : Sink) (trace : Trace) : Bytes := (trace.sinceFlush sink).accepted sink

/-- A channel holds nothing back, unless it has failed since it was last flushed. -/
def Settled (sink : Sink) (trace : Trace) : Prop :=
  trace.unflushed sink ≠ [] → ∃ event ∈ trace.sinceFlush sink, event.isFailureOf sink

variable {sink : Sink} {front back trace : Trace}

/-! ### Traces in parts -/

theorem sinceFlush_subset (sink : Sink) (trace : Trace) : trace.sinceFlush sink ⊆ trace :=
  (List.rtakeWhile_suffix _ trace).subset

theorem sinceFlush_of_not_mem (hflush : .flushed sink ∉ trace) : trace.sinceFlush sink = trace := by
  rw [sinceFlush, List.rtakeWhile_eq_self_iff]
  intro event hevent
  have hne : event ≠ .flushed sink := fun heq => hflush (heq ▸ hevent)
  simpa using hne

theorem sinceFlush_concat_flushed (sink : Sink) (trace : Trace) :
    sinceFlush sink (trace ++ [.flushed sink]) = [] :=
  List.rtakeWhile_concat_neg _ _ _ (by simp)

theorem sinceFlush_append_of_mem (hflush : .flushed sink ∈ back) :
    sinceFlush sink (front ++ back) = back.sinceFlush sink := by
  induction back using List.reverseRecOn with
  | nil => exact absurd hflush List.not_mem_nil
  | append_singleton back event ih =>
    rw [← List.append_assoc]
    unfold sinceFlush at ih ⊢
    rw [List.rtakeWhile_concat, List.rtakeWhile_concat]
    by_cases hevent : event = .flushed sink
    · simp [hevent]
    · have hback : .flushed sink ∈ back := by
        simpa [Ne.symm hevent] using hflush
      rw [ih hback]

theorem sinceFlush_append_of_not_mem (hflush : .flushed sink ∉ back) :
    sinceFlush sink (front ++ back) = front.sinceFlush sink ++ back := by
  induction back using List.reverseRecOn with
  | nil => rw [List.append_nil, List.append_nil]
  | append_singleton back event ih =>
    have hevent : event ≠ .flushed sink := fun heq => hflush (by simp [heq])
    have hback : .flushed sink ∉ back := fun hmem => hflush (List.mem_append_left _ hmem)
    rw [← List.append_assoc]
    unfold sinceFlush at ih ⊢
    rw [List.rtakeWhile_concat_pos _ _ _ (by simpa using hevent), ih hback, List.append_assoc]

/-! ### Settled traces -/

theorem settled_of_unflushed (hunflushed : trace.unflushed sink = []) : trace.Settled sink :=
  fun hheld => absurd hunflushed hheld

theorem Settled.append (hfront : front.Settled sink) (hback : back.Settled sink) :
    Settled sink (front ++ back) := by
  intro hheld
  -- A flush in the second part makes the first one irrelevant. Without it, what is held back at the
  -- end was accepted in one of the parts, and that part has a failure.
  by_cases hflush : .flushed sink ∈ back
  · rw [unflushed, sinceFlush_append_of_mem hflush] at hheld
    rw [sinceFlush_append_of_mem hflush]
    exact hback hheld
  · rw [sinceFlush_append_of_not_mem hflush]
    by_cases hearlier : front.unflushed sink = []
    · have hsince : back.sinceFlush sink = back := sinceFlush_of_not_mem hflush
      have haccepted : back.unflushed sink ≠ [] := by
        rw [unflushed, sinceFlush_append_of_not_mem hflush, accepted_append] at hheld
        rw [unflushed] at hearlier ⊢
        rwa [hearlier, List.nil_append, ← hsince] at hheld
      obtain ⟨event, hevent, hfailure⟩ := hback haccepted
      exact ⟨event, List.mem_append_right _ (hsince ▸ hevent), hfailure⟩
    · obtain ⟨event, hevent, hfailure⟩ := hfront hearlier
      exact ⟨event, List.mem_append_left _ hevent, hfailure⟩

theorem settled_of_no_bytes (htrace : ∀ event ∈ trace, event.accepted sink = []) :
    trace.Settled sink :=
  settled_of_unflushed <| List.flatMap_eq_nil_iff.2 fun event hevent =>
    htrace event (sinceFlush_subset sink trace hevent)

theorem settled_of_ne (htrace : ∀ event ∈ trace, event.sink? ≠ some sink) : trace.Settled sink :=
  settled_of_no_bytes fun event hevent => by
    have hsink := htrace event hevent
    cases event <;> simp_all [Event.accepted, Event.sink?]

theorem settled_ofFlush (sink : Sink) (failure : Option IoError) :
    Settled sink [Event.ofFlush sink failure] := by
  refine settled_of_no_bytes fun event hevent => ?_
  rw [List.mem_singleton.1 hevent]
  cases failure <;> rfl

/-- Behind a flush all is settled: it has succeeded, or it is a failure itself. -/
theorem settled_concat_ofFlush (sink : Sink) (trace : Trace) (failure : Option IoError) :
    Settled sink (trace ++ [Event.ofFlush sink failure]) := by
  cases failure with
  | none => exact settled_of_unflushed (congrArg _ (sinceFlush_concat_flushed sink trace))
  | some error =>
    intro _
    have hnot : .flushed sink ∉ [Event.ofFlush sink (some error)] := by simp [Event.ofFlush]
    refine ⟨.flushFailed sink error, ?_, by simp [Event.isFailureOf]⟩
    rw [sinceFlush_append_of_not_mem hnot]
    exact List.mem_append_right _ (List.mem_singleton.2 rfl)

theorem settled_of_failure {event : Event} (hevent : event ∈ trace) (hfailure : event.isFailureOf sink)
    (hflush : .flushed sink ∉ trace) : trace.Settled sink := fun _ =>
  ⟨event, (sinceFlush_of_not_mem hflush).symm ▸ hevent, hfailure⟩

end Trace

/-! ### Commands -/

namespace Act

variable {ω α β : Type}

def Settles (sink : Sink) (action : Act ω α) : Prop := ∀ world, (action.run world).events.Settled sink

theorem settles_pure (sink : Sink) (value : α) : (pure value : Act ω α).Settles sink := fun _ =>
  Trace.settled_of_unflushed rfl

theorem Settles.bind {sink : Sink} {action : Act ω α} {next : α → Act ω β}
    (haction : action.Settles sink) (hnext : ∀ value, (next value).Settles sink) :
    (action >>= next).Settles sink := fun world =>
  (haction world).append (hnext _ _)

variable [World ω]

theorem Within.settles {sink : Sink} {action : Act ω α}
    (haction : action.Within (.always ω) (·.sink? ≠ some sink)) : action.Settles sink := fun world =>
  Trace.settled_of_ne (haction.events world)

theorem settles_flush (sink : Sink) : (flush sink : Act ω _).Settles sink := fun world => by
  rw [run_flush]
  exact Trace.settled_ofFlush sink (World.flush sink world).1

theorem flushed_not_mem_sendAll (sink : Sink) (messages : List Bytes) (world : ω) :
    .flushed sink ∉ ((sendAll sink messages).run world).events := by
  induction messages generalizing world with
  | nil => exact List.not_mem_nil
  | cons message rest ih =>
    have hsend : .flushed sink ∉ ((send sink message).run world).events := by
      rw [run_send]
      simp
    rw [sendAll, run_bind]
    refine List.not_mem_append hsend ?_
    cases ((send sink message).run world).value with
    | none => exact ih _
    | some error => exact List.not_mem_nil

end Act

variable {ω : Type} [World ω]

/-- Help flushes what it has written, unless a write has failed. -/
theorem Builtin.settles_showHelp : (showHelp : Act ω _).Settles .output := by
  intro world
  have hsent := Act.sent_sendAll .output helpText world
  have hflush := Act.flushed_not_mem_sendAll .output helpText world
  rw [showHelp, Act.run_bind]
  -- Either the flush is the last event, or a write has failed and there is no flush behind it.
  rcases hsent with ⟨hvalue, -⟩ | ⟨refusal, hvalue, -, -, hrefusal⟩
  · rw [hvalue]
    dsimp only
    rw [Act.run_bind, Act.run_flush]
    exact Trace.settled_concat_ofFlush .output _ _
  · rw [hvalue]
    dsimp only [Act.run_pure]
    rw [List.append_nil]
    exact Trace.settled_of_failure hrefusal rfl hflush

namespace Session

/-! The output is left alone by all but help, and by the flush in front of a launch. -/

theorem settles_builtin (builtin : Builtin) (words : List Bytes) :
    (builtin.run words : Act ω _).Settles .output := by
  have herror : ∀ event : Event, event.sink? = some .error → event.sink? ≠ some .output :=
    fun _ => Event.sink?_ne_of_eq (by decide)
  have hsettle : ∀ result, (Builtin.settle result : Act ω _).Settles .output := fun result =>
    (Builtin.within_settle (Event.sink?_log_ne .output) herror result).settles
  cases builtin with
  | changeDirectory =>
    have hgo : (Builtin.goTo words : Act ω _).Settles .output :=
      (Builtin.within_goTo (fun _ => (Option.some_ne_none _).symm) words).settles
    exact hgo.bind hsettle
  | help => exact Builtin.settles_showHelp.bind hsettle
  | exit => exact Act.settles_pure _ _

theorem within_launchCall (words : List Bytes) :
    (Act.launch words >>= reportLaunch : Act ω _).Within (.always ω) (·.sink? ≠ some .output) := by
  have herror : ∀ event : Event, event.sink? = some .error → event.sink? ≠ some .output :=
    fun _ => Event.sink?_ne_of_eq (by decide)
  have hlaunch : ∀ event : Event, event.isOfLaunch → event.sink? ≠ some .output :=
    fun _ => Event.sink?_ne_of_isOfLaunch .output
  refine Act.Within.bind (Act.within_launch (Option.some_ne_none _).symm hlaunch) fun result => ?_
  exact within_reportLaunch (Event.sink?_log_ne .output) herror result

theorem settles_launch (words : List Bytes) : (launch words : Act ω _).Settles .output := by
  rw [launch_eq]
  refine (Act.settles_flush .output).bind fun failure => ?_
  refine Act.Settles.bind (within_noteFlush (Event.sink?_log_ne .output) failure).settles fun _ => ?_
  exact (within_launchCall words).settles

/-- A line leaves the output flushed, or the output has failed. -/
theorem settles_runLine (line : Bytes) : (runLine line : Act ω _).Settles .output := by
  have hexecute : ∀ words, (execute words : Act ω _).Settles .output := by
    intro words
    cases words with
    | nil => exact Act.settles_pure _ _
    | cons name arguments =>
      simp only [execute]
      split
      · exact Act.Settles.bind (Act.within_log (Event.sink?_log_ne .output) _).settles fun _ => settles_builtin _ _
      · exact Act.Settles.bind (settles_launch _) fun _ => Act.settles_pure _ _
  exact Act.Settles.bind (within_tokenize (Event.sink?_log_ne .output) line).settles hexecute

end Session

/-! ### Launches -/

/-- Whether an event can follow the launch of its command: it is neither of the output nor a call. -/
def Event.FollowsLaunch (event : Event) : Prop := event.sink? ≠ some .output ∧ event.hostCall? = none

/-- Behind `before`, a trace with one launch: some log entries, one flush of the output, perhaps a note
about it, and the call to the host. Nothing of the output and no other call follows. If the flush has
succeeded, the output holds nothing back at the call. -/
def Trace.LaunchesFlushed (before : Trace) (words : List Bytes) (trace : Trace) : Prop :=
  ∃ (notes : Trace) (failure : Option IoError) (note rest : Trace),
    trace = notes ++ .ofFlush .output failure :: (note ++ .launch words :: rest) ∧
      (∀ event ∈ notes ++ note, event.isOfLog) ∧ (∀ event ∈ rest, event.FollowsLaunch) ∧
      (failure = none →
        Trace.unflushed .output (before ++ notes ++ .ofFlush .output failure :: note) = [])

theorem Trace.unflushed_flushed (sink : Sink) (before : Trace) {note : Trace}
    (hnote : ∀ event ∈ note, event.isOfLog) :
    Trace.unflushed sink (before ++ .flushed sink :: note) = [] := by
  have hne : ∀ event ∈ note, event.sink? ≠ some sink := by
    intro event hevent
    have hlog := hnote event hevent
    cases event <;> simp_all [Event.isOfLog, Event.sink?]
  have hflush : .flushed sink ∉ note := fun hmem => hne _ hmem rfl
  rw [← List.singleton_append, ← List.append_assoc, unflushed, sinceFlush_append_of_not_mem hflush,
    sinceFlush_concat_flushed, List.nil_append, accepted_of_ne sink hne]

namespace Session

private theorem followsLaunch_log (entry : Log.Entry) : (Event.log entry).FollowsLaunch :=
  ⟨Event.sink?_log_ne .output entry, rfl⟩

private theorem followsLaunch_error {event : Event} (hsink : event.sink? = some .error) :
    event.FollowsLaunch :=
  ⟨Event.sink?_ne_of_eq (by decide) hsink, Event.hostCall?_of_sink hsink⟩

/-- What the host does in a launch, and what is logged of it, follows the call. -/
theorem within_launched (words : List Bytes) :
    (World.launch words >>= failureOfLaunch : Act ω _).Within (.always ω) Event.FollowsLaunch := by
  have hlaunch : (World.launch words : Act ω _).Within (.always ω) Event.FollowsLaunch := by
    refine fun world _ => ⟨trivial, fun event hevent => ?_⟩
    have hkind := World.launch_events words world event hevent
    exact ⟨Event.sink?_ne_of_isOfLaunch .output hkind, Event.hostCall?_of_isOfLaunch hkind⟩
  refine hlaunch.bind fun result => ?_
  cases result with
  | ok completion => exact (Act.within_log followsLaunch_log _).bind fun _ => Act.within_pure _
  | error failure => exact Act.within_pure _

theorem within_tell (failure : Option Failure) :
    (tell failure : Act ω _).Within (.always ω) Event.FollowsLaunch := by
  cases failure with
  | none => exact Act.within_pure _
  | some failure =>
    refine Act.Within.bind (Act.within_complain (fun _ => followsLaunch_error) _) fun refusal => ?_
    cases refusal with
    | none => exact Act.within_pure _
    | some error => exact Act.within_log followsLaunch_log _

/-- A command that is no builtin is launched right behind one flush of the output. -/
theorem runLine_launchesFlushed (before : Trace) {line : Bytes} {words : List Bytes}
    (hcall : HostCall.ofWords? (wordsOf line) = some (.launch words)) (world : ω) :
    Trace.LaunchesFlushed before words ((runLine line).run world).events := by
  let begun := (tokenize line).run world
  let flushed := World.flush .output begun.world
  let noted := (noteFlush flushed.1).run flushed.2
  let launched := (World.launch words >>= failureOfLaunch).run noted.world
  let told := (tell ((attemptLine line).run world).value).run ((attemptLine line).run world).world
  have hnotes : ∀ event ∈ begun.events, event.isOfLog :=
    Act.Within.events (within_tokenize (fun _ => rfl) line) world
  have hnote : ∀ event ∈ noted.events, event.isOfLog :=
    Act.Within.events (within_noteFlush (fun _ => rfl) flushed.1) flushed.2
  have hattempted : ((attemptLine line).run world).events
      = begun.events ++ .ofFlush .output flushed.1 :: (noted.events ++ .launch words :: launched.events) := by
    rw [attemptLine, Act.run_bind, tokenize_value, attempt_of_launch hcall, attemptLaunch_eq,
      Act.run_bind, run_flush_noteFlush]
    rfl
  refine ⟨begun.events, flushed.1, noted.events, launched.events ++ told.events, ?_,
    List.forall_mem_append.2 ⟨hnotes, hnote⟩, List.forall_mem_append.2
      ⟨(within_launched words).events noted.world, (within_tell _).events _⟩, fun hflushed => ?_⟩
  · have hevents : ((runLine line).run world).events
        = ((attemptLine line).run world).events ++ told.events := run_runLine line world
    rw [hevents, hattempted, List.append_assoc, List.cons_append, List.append_assoc, List.cons_append]
  · rw [hflushed]
    exact Trace.unflushed_flushed .output _ hnote

theorem ofWords?_of_launch_mem {line : Bytes} {words : List Bytes} {world : ω}
    (hlaunch : .launch words ∈ ((runLine line).run world).events) :
    HostCall.ofWords? (wordsOf line) = some (.launch words) :=
  (runLine_event_mem_iff (.launch words)).1 hlaunch

end Session

/-! ### Tasks -/

theorem Move.Sound.settles {move : Move ω} (hmove : move.Sound (.always ω)) :
    move.events.Settled .output := by
  cases move with
  | command line world => exact Session.settles_runLine line world
  | aside events =>
    exact Trace.settled_of_ne fun event hevent =>
      Event.sink?_ne_of_not_isOfEnvironment (hmove event hevent) (by decide)

theorem Trace.settled_moves {past : Trace} (hpast : past.Settled .output) {moves : List (Move ω)}
    (hmoves : ∀ move ∈ moves, move.Sound (.always ω)) :
    Trace.Settled .output (past ++ moves.flatMap Move.events) := by
  induction moves generalizing past with
  | nil => rwa [List.flatMap_nil, List.append_nil]
  | cons move rest ih =>
    obtain ⟨hmove, hrest⟩ := List.forall_mem_cons.1 hmoves
    rw [List.flatMap_cons, ← List.append_assoc]
    exact ih (hpast.append hmove.settles) hrest

/-- If the output holds nothing back at first, then at every moment before, between and behind the
commands and the reads of any tasks it holds nothing back, or it has failed since it was last flushed.
Every launch comes right behind one flush of the output, and if that has succeeded the output holds
nothing back at the launch. -/
theorem Task.movesAll_flushed (tasks : List (Task ω)) (world : ω) {past : Trace}
    (hpast : past.unflushed .output = []) :
    let moves := movesAll tasks world
    moves.flatMap Move.events = (runAll tasks world).flatMap Outcome.events ∧
      ∀ front back, moves = front ++ back →
        let before := past ++ front.flatMap Move.events
        before.Settled .output ∧
          ∀ move rest, back = move :: rest → ∀ words, .launch words ∈ move.events →
            before.LaunchesFlushed words move.events := by
  intro moves
  have hsound : ∀ move ∈ moves, move.Sound (.always ω) :=
    movesAll_sound (fun _ _ _ _ => trivial) trivial
  refine ⟨movesAll_events tasks world, fun front back hsplit => ⟨?_, fun move rest hback words hlaunch => ?_⟩⟩
  · have hfront : ∀ move ∈ front, move.Sound (.always ω) := fun move hmove =>
      hsound move (hsplit ▸ List.mem_append_left back hmove)
    exact Trace.settled_moves (Trace.settled_of_unflushed hpast) hfront
  · have hmove : move.Sound (.always ω) :=
      hsound move (hsplit ▸ List.mem_append_right front (hback ▸ List.mem_cons_self))
    cases move with
    | aside events => exact Bool.noConfusion (hmove _ hlaunch)
    | command line world =>
      exact Session.runLine_launchesFlushed _ (Session.ofWords?_of_launch_mem hlaunch) world

/-- A stage whose output fails once, after ten bytes. -/
def Stage.faltering : Stage :=
  { plain with output := ⟨none, [⟨10, some (.plain .storageFull), some 1, by simp⟩], none⟩ }

/-- Help fails half way and leaves ten bytes held back. The flush in front of the next launch succeeds, so
the launch is settled again. -/
theorem Task.movesAll_flushed_faltering :
    let help := Move.command (Bytes.ofString "help") Stage.faltering
    let launch := Move.command (Bytes.ofString "ls")
      ((Session.runLine (Bytes.ofString "help")).run Stage.faltering).world
    Trace.unflushed .output [] = [] ∧ help.events.unflushed .output = Bytes.ofString "lish: a mi" ∧
      help.events.Settled .output ∧ help.events.LaunchesFlushed [Bytes.ofString "ls"] launch.events := by
  intro help launch
  let tasks : List (Task Stage) := [⟨id, .line (Bytes.ofString "help")⟩, ⟨id, .line (Bytes.ofString "ls")⟩]
  have hpast : Trace.unflushed .output [] = [] := rfl
  obtain ⟨-, hmoves⟩ := movesAll_flushed tasks Stage.faltering hpast
  have hsplit : movesAll tasks Stage.faltering = [help] ++ [launch] := rfl
  obtain ⟨hsettled, hlaunch⟩ := hmoves [help] [launch] hsplit
  have hevents : [] ++ [help].flatMap Move.events = help.events := List.append_nil _
  rw [hevents] at hsettled hlaunch
  have hlaunched : launch.events = [.flushed .output, .launch [Bytes.ofString "ls"]] := by
    decide +kernel
  have hcall : .launch [Bytes.ofString "ls"] ∈ launch.events := by simp [hlaunched]
  exact ⟨rfl, by decide +kernel, hsettled, hlaunch launch [] rfl _ hcall⟩

end LineShell
