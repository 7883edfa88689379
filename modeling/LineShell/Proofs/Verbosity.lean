import LineShell.Log.Filter
import LineShell.Proofs.Congruence
import LineShell.Proofs.Reports
import LineShell.Proofs.Tasks
import Mathlib.Data.List.Forall2
/-!
# Logs that keep more or less

A log keeps every entry down to some limit. What a shell does is the same whatever the limit is. The run
with the lower limit leaves the events of the run with the higher one, except for the entries that its
log does not keep: the others are the same, in the same order and at the same places. With nothing kept
at all this says that a log is only ever added to a run.

What can be seen of a run from outside has the writes between which nothing happened joined, so an entry
can keep two writes apart. Where it is left out they are joined again.
-/

namespace LineShell

/-- Whatever one limit lets through the other one lets through as well. -/
def Log.Limit.Below (least most : Log.Limit) : Prop :=
  ∀ level, least.admits level → most.admits level

def Event.isShown (limit : Log.Limit) : Event → Bool
  | .log entry => limit.admits entry.level
  | _ => true

def Trace.shown (limit : Log.Limit) (trace : Trace) : Trace := trace.filter (Event.isShown limit)

/-! ### Traces with entries left out -/

namespace Trace

theorem shown_append (limit : Log.Limit) (front rest : Trace) :
    shown limit (front ++ rest) = front.shown limit ++ rest.shown limit := List.filter_append front rest

theorem entries_shown (limit : Log.Limit) (trace : Trace) :
    (trace.shown limit).entries = trace.entries.filter fun entry => limit.admits entry.level := by
  induction trace with
  | nil => rfl
  | cons event rest ih =>
    have hevent : (shown limit [event]).entries
        = (entries [event]).filter fun entry => limit.admits entry.level := by
      cases event with
      | log entry => cases hshown : limit.admits entry.level <;> simp [shown, entries, Event.isShown, hshown]
      | _ => rfl
    have hcons : event :: rest = [event] ++ rest := rfl
    rw [hcons, shown_append, entries_append, entries_append, List.filter_append, hevent, ih]

theorem consMerged_wrote (sink : Sink) (bytes bytes' : Bytes) (trace : Trace) :
    consMerged (.wrote sink (bytes ++ bytes')) trace
      = consMerged (.wrote sink bytes) (consMerged (.wrote sink bytes') trace) := by
  cases trace with
  | nil => simp [consMerged]
  | cons event rest =>
    cases event with
    | wrote sink' bytes'' =>
      by_cases hsink : sink = sink'
      · simp [consMerged, hsink]
      · simp [consMerged, hsink]
    | _ => simp [consMerged]

theorem merged_shown_consMerged (limit : Log.Limit) (event : Event) (trace : Trace) :
    merged (shown limit (consMerged event trace)) = merged (shown limit (event :: trace)) := by
  -- Only writes are ever joined, and no write is left out.
  cases event with
  | wrote sink bytes =>
    cases trace with
    | nil => rfl
    | cons other rest =>
      cases other with
      | wrote sink' bytes' =>
        by_cases hsink : sink = sink'
        · subst hsink
          rw [consMerged, if_pos rfl]
          exact consMerged_wrote sink bytes bytes' (merged (shown limit rest))
        · rw [consMerged, if_neg hsink]
      | _ => rfl
  | _ => rfl

/-- Entries may be left out before writes are joined, if writes are joined behind that. -/
theorem merged_shown_merged (limit : Log.Limit) (trace : Trace) :
    merged (shown limit (merged trace)) = merged (trace.shown limit) := by
  have hcons : ∀ (event : Event) (rest : Trace), merged (shown limit (event :: rest))
      = if event.isShown limit then consMerged event (merged (shown limit rest))
        else merged (shown limit rest) := by
    intro event rest
    rw [shown, List.filter_cons]
    split <;> rfl
  induction trace with
  | nil => rfl
  | cons event rest ih =>
    calc merged (shown limit (merged (event :: rest)))
        = merged (shown limit (event :: merged rest)) := merged_shown_consMerged limit event _
      _ = merged (shown limit (event :: rest)) := by rw [hcons, hcons, ih]

theorem visible_shown (limit : Log.Limit) (trace : Trace) :
    visible (trace.shown limit) = merged (trace.visible.shown limit) := by
  rw [visible, visible, merged_shown_merged, shown, shown, List.filter_filter, List.filter_filter]
  simp only [Bool.and_comm]

end Trace

/-! ### Worlds that differ in their logs -/

/-- Worlds whose logs can be set to keep more or less, and on which nothing else depends on that. Only
the log of a launch that the host keeps may differ, and only in what is left out. -/
structure World.Dial (ω : Type) [World ω] where
  /-- That the log keeps to a limit. -/
  setTo : Log.Limit → World.Invariant ω
  /-- That two worlds are the same but for their logs. -/
  alike : ω → ω → Prop
  wants : ∀ {limit world}, (setTo limit).holds world → ∀ entry,
    Logger.wants entry world = limit.admits entry.level
  keepLeft : ∀ {world world'}, alike world world' → ∀ entry, alike (Logger.keep entry world) world'
  keepRight : ∀ {world world'}, alike world world' → ∀ entry, alike world (Logger.keep entry world')
  deliver : ∀ {world world'}, alike world world' → ∀ sink message,
    (World.deliver sink message world).1 = (World.deliver sink message world').1 ∧
      alike (World.deliver sink message world).2 (World.deliver sink message world').2
  flush : ∀ {world world'}, alike world world' → ∀ sink,
    (World.flush sink world).1 = (World.flush sink world').1 ∧
      alike (World.flush sink world).2 (World.flush sink world').2
  changeDirectory : ∀ {world world'}, alike world world' → ∀ target,
    (World.changeDirectory target world).1 = (World.changeDirectory target world').1 ∧
      alike (World.changeDirectory target world).2 (World.changeDirectory target world').2
  launch : ∀ {world world'}, alike world world' → ∀ {least most : Log.Limit}, least.Below most →
    (setTo least).holds world → (setTo most).holds world' → ∀ arguments,
      let quiet := (World.launch arguments).run world
      let loud := (World.launch arguments).run world'
      quiet.value = loud.value ∧ quiet.events = loud.events.shown least ∧ alike quiet.world loud.world

section Dimming

variable {ω : Type} [World ω] {dial : World.Dial ω} {least most : Log.Limit}

/-- That two worlds are the same but for their logs, which are set to these limits. -/
structure World.Dial.Apart (dial : World.Dial ω) (least most : Log.Limit) (world world' : ω) : Prop where
  quiet : (dial.setTo least).holds world
  loud : (dial.setTo most).holds world'
  alike : dial.alike world world'

/-- That an outcome is another one, but for the entries that a log with the lower limit leaves out. -/
structure Outcome.IsDimmed {α : Type} (dial : World.Dial ω) (least most : Log.Limit)
    (quiet loud : Outcome ω α) : Prop where
  value : quiet.value = loud.value
  events : quiet.events = loud.events.shown least
  world : dial.Apart least most quiet.world loud.world

namespace Act

variable {α β : Type}

/-- That an action does the same as another one but for such entries, in worlds that are the same but
for their logs. -/
def Dimmed (dial : World.Dial ω) (least most : Log.Limit) (quiet loud : Act ω α) : Prop :=
  ∀ ⦃world world'⦄, dial.Apart least most world world' →
    (quiet.run world).IsDimmed dial least most (loud.run world')

theorem dimmed_pure (value : α) : Dimmed dial least most (pure value) (pure value) := fun _ _ hapart =>
  ⟨rfl, rfl, hapart⟩

theorem Dimmed.bind {first second : Act ω α} {next next' : α → Act ω β}
    (hfirst : Dimmed dial least most first second)
    (hnext : ∀ world, Dimmed dial least most (next (first.run world).value)
      (next' (first.run world).value)) :
    Dimmed dial least most (first >>= next) (second >>= next') := by
  intro world world' hapart
  obtain ⟨hvalue, hevents, hmiddle⟩ := hfirst hapart
  have hlater := hnext world hmiddle
  rw [run_bind, run_bind, ← hvalue]
  refine ⟨hlater.value, ?_, hlater.world⟩
  dsimp only
  rw [Trace.shown_append, hevents, hlater.events]

theorem dimmed_emit {event : Event} (hevent : event.isShown least) :
    Dimmed dial least most (emit event) (emit event) := by
  intro world world' hapart
  refine ⟨rfl, ?_, hapart⟩
  simp [Trace.shown, hevent]

theorem dimmed_update {change change' : ω → α × ω}
    (hchange : ∀ {world world' : ω}, dial.Apart least most world world' →
      (change world).1 = (change' world').1 ∧ dial.Apart least most (change world).2 (change' world').2) :
    Dimmed dial least most (update change) (update change') := fun _ _ hapart =>
  ⟨(hchange hapart).1, rfl, (hchange hapart).2⟩

theorem dimmed_log (hbelow : least.Below most) (entry : Log.Entry) :
    Dimmed dial least most (log entry) (log entry) := by
  intro world world' hapart
  have hquiet := dial.wants hapart.quiet entry
  have hloud := dial.wants hapart.loud entry
  rw [run_log, run_log, hquiet, hloud]
  cases hleast : least.admits entry.level with
  | true =>
    rw [hbelow _ hleast]
    refine ⟨rfl, by simp [Trace.shown, Event.isShown, hleast], ?_⟩
    exact ⟨(dial.setTo least).keep _ _ hapart.quiet, (dial.setTo most).keep _ _ hapart.loud,
      dial.keepLeft (dial.keepRight hapart.alike entry) entry⟩
  | false =>
    cases hmost : most.admits entry.level with
    | true =>
      refine ⟨rfl, by simp [Trace.shown, Event.isShown, hleast], ?_⟩
      exact ⟨hapart.quiet, (dial.setTo most).keep _ _ hapart.loud, dial.keepRight hapart.alike entry⟩
    | false => exact ⟨rfl, rfl, hapart⟩

theorem dimmed_send (sink : Sink) (message : Bytes) :
    Dimmed dial least most (send sink message) (send sink message) := by
  intro world world' hapart
  obtain ⟨hdelivery, halike⟩ := dial.deliver hapart.alike sink message
  rw [run_send, run_send, hdelivery]
  refine ⟨rfl, ?_, ?_⟩
  · dsimp only
    cases (World.deliver sink message world').1.failure <;> rfl
  · exact ⟨(dial.setTo least).deliver _ _ _ hapart.quiet, (dial.setTo most).deliver _ _ _ hapart.loud, halike⟩

theorem dimmed_flush (sink : Sink) : Dimmed dial least most (flush sink) (flush sink) := by
  intro world world' hapart
  obtain ⟨hfailure, halike⟩ := dial.flush hapart.alike sink
  rw [run_flush, run_flush, hfailure]
  refine ⟨rfl, ?_, ?_⟩
  · cases (World.flush sink world').1 <;> rfl
  · exact ⟨(dial.setTo least).flush _ _ hapart.quiet, (dial.setTo most).flush _ _ hapart.loud, halike⟩

/-- The relation is respected by all that a command asks of a world. -/
def dimming (dial : World.Dial ω) (hbelow : least.Below most) : Congruence ω ω where
  rel := Dimmed dial least most
  pure := dimmed_pure
  bind := Dimmed.bind
  log := dimmed_log hbelow
  send sink message _ := dimmed_send sink message
  flush sink _ := dimmed_flush sink
  changeDirectory target := by
    refine Dimmed.bind (dimmed_emit rfl) fun _ => dimmed_update fun hapart => ?_
    obtain ⟨hfailure, halike⟩ := dial.changeDirectory hapart.alike target
    exact ⟨hfailure, (dial.setTo least).changeDirectory _ _ hapart.quiet,
      (dial.setTo most).changeDirectory _ _ hapart.loud, halike⟩
  launch arguments := by
    refine Dimmed.bind (dimmed_emit rfl) fun _ world world' hapart => ?_
    obtain ⟨hvalue, hevents, halike⟩ := dial.launch hapart.alike hbelow hapart.quiet hapart.loud arguments
    exact ⟨hvalue, hevents, (dial.setTo least).launch _ _ hapart.quiet,
      (dial.setTo most).launch _ _ hapart.loud, halike⟩

theorem dimming_ofReads (dial : World.Dial ω) (hbelow : least.Below most) :
    (dimming dial hbelow).OfReads where
  send message := dimmed_send .prompt message
  flush := dimmed_flush .prompt
  fetched := dimmed_emit rfl

end Act

/-! ### Tasks -/

section Tasks

variable (hbelow : least.Below most)

include hbelow

theorem Stream.dimmed_readEach (prompts : List Bytes) (stream : Stream) :
    (stream.readEach prompts : Act ω _).Dimmed dial least most (stream.readEach prompts) := by
  induction prompts generalizing stream with
  | nil => exact Act.dimmed_pure _
  | cons prompt rest ih =>
    refine Act.Dimmed.bind ((Act.dimming_ofReads dial hbelow).readLine prompt stream) fun world => ?_
    exact (ih _).bind fun _ => Act.dimmed_pure _

omit hbelow in
theorem ScriptedSource.dimmed_readLine (prompt : Bytes) (source : ScriptedSource) :
    (source.readLine prompt : Act ω _).Dimmed dial least most (source.readLine prompt) := by
  refine Act.Dimmed.bind (Act.dimmed_emit rfl) fun _ => ?_
  split <;> exact Act.dimmed_pure _

theorem Editor.dimmed_readLine (prompt : Bytes) (editor : Editor) :
    (editor.readLine prompt : Act ω _).Dimmed dial least most (editor.readLine prompt) := by
  have hreading : ∀ answer : EditorAnswer,
      (answer.reading : Act ω _).Dimmed dial least most answer.reading := by
    intro answer
    unfold EditorAnswer.reading
    split
    case h_3 => exact (Act.dimmed_log hbelow _).bind fun _ => Act.dimmed_pure _
    all_goals exact Act.dimmed_pure _
  refine Act.Dimmed.bind (Act.dimmed_emit rfl) fun _ => ?_
  split
  · exact Act.dimmed_pure _
  · exact (hreading _).bind fun _ => Act.dimmed_pure _

theorem Job.dimmed_run (job : Job) : (job.run : Act ω _).Dimmed dial least most job.run := by
  let dimming := Act.dimming dial hbelow
  cases job with
  | tokenize line => exact dimming.map (dimming.tokenize line) _
  | read script prompts => exact dimming.map (Stream.dimmed_readEach hbelow prompts _) _
  | line bytes => exact dimming.map (dimming.runLine bytes) _
  | session supply prompt =>
    refine dimming.map ?_ _
    cases supply with
    | stream => exact dimming.map (dimming.run ((Act.dimming_ofReads dial hbelow).readLine prompt) _) _
    | readings => exact dimming.map (dimming.run (ScriptedSource.dimmed_readLine prompt) _) _
    | editor => exact dimming.map (dimming.run (Editor.dimmed_readLine hbelow prompt) _) _

theorem Task.dimmed_runAll {tasks : List (Task ω)}
    (hplace : ∀ task ∈ tasks, ∀ world world', dial.Apart least most world world' →
      dial.Apart least most (task.place world) (task.place world'))
    {world world' : ω} (hapart : dial.Apart least most world world') :
    List.Forall₂ (Outcome.IsDimmed dial least most) (runAll tasks world) (runAll tasks world') := by
  induction tasks generalizing world world' with
  | nil => exact .nil
  | cons task rest ih =>
    obtain ⟨htask, hrest⟩ := List.forall_mem_cons.1 hplace
    have hready := htask world world' hapart
    have hstep : (task.run.run world).IsDimmed dial least most (task.run.run world') :=
      task.job.dimmed_run hbelow hready
    exact .cons hstep (ih hrest hstep.world)

omit hbelow in
theorem Outcome.events_of_dimmed {α : Type} {quiet loud : List (Outcome ω α)}
    (hdimmed : List.Forall₂ (IsDimmed dial least most) quiet loud) :
    quiet.flatMap Outcome.events = Trace.shown least (loud.flatMap Outcome.events) := by
  induction hdimmed with
  | nil => rfl
  | cons hfirst _ ih => rw [List.flatMap_cons, List.flatMap_cons, Trace.shown_append, hfirst.events, ih]

end Tasks

/-- Tasks do the same whatever is logged. Where one log keeps no more than the other one does, each task
has the same result. What can be seen of it, and of all tasks together, is what can be seen with the
other log once the entries are left out that the first one does not keep; nothing is left of the log if
that is none at all. The entries that are left are the same, in the same order and places. -/
theorem Task.runAll_dimmed (dial : World.Dial ω) (hbelow : least.Below most) {tasks : List (Task ω)}
    (hplace : ∀ task ∈ tasks, ∀ world world', dial.Apart least most world world' →
      dial.Apart least most (task.place world) (task.place world'))
    {world world' : ω} (hapart : dial.Apart least most world world') :
    let quiet := runAll tasks world
    let loud := runAll tasks world'
    let whole (outcomes : List (Outcome ω Job.Result)) : Trace := outcomes.flatMap Outcome.events
    quiet.map Outcome.value = loud.map Outcome.value ∧
      quiet.map (·.events.visible) = loud.map (fun outcome => (outcome.events.visible.shown least).merged) ∧
      (whole quiet).visible = ((whole loud).visible.shown least).merged ∧
      (whole quiet).entries = (whole loud).entries.filter fun entry => least.admits entry.level := by
  intro quiet loud whole
  have hdimmed : List.Forall₂ (Outcome.IsDimmed dial least most) quiet loud :=
    dimmed_runAll hbelow hplace hapart
  have hwhole : whole quiet = (whole loud).shown least := Outcome.events_of_dimmed hdimmed
  refine ⟨?_, ?_, ?_, ?_⟩
  · rw [← List.forall₂_eq_eq_eq, List.forall₂_map_left_iff, List.forall₂_map_right_iff]
    exact hdimmed.imp fun _ _ houtcome => houtcome.value
  · rw [← List.forall₂_eq_eq_eq, List.forall₂_map_left_iff, List.forall₂_map_right_iff]
    exact hdimmed.imp fun _ outcome houtcome => by
      rw [houtcome.events, Trace.visible_shown]
  · rw [hwhole, Trace.visible_shown]
  · rw [hwhole, Trace.entries_shown]

end Dimming

/-! ### Stages -/

namespace Stage

def logging (stage : Stage) (limit : Log.Limit) : Stage := { stage with verbosity := limit }

theorem deliver_logging (stage : Stage) (limit : Log.Limit) (sink : Sink) (message : Bytes) :
    (stage.logging limit).deliver sink message
      = ((stage.deliver sink message).1, (stage.deliver sink message).2.logging limit) := by
  cases sink <;> rfl

theorem answerDirectory_logging (stage : Stage) (limit : Log.Limit) :
    (stage.logging limit).answerDirectory
      = (stage.answerDirectory.1, stage.answerDirectory.2.logging limit) := by
  obtain ⟨output, error, prompt, ⟨directories, launches⟩, verbosity⟩ := stage
  cases directories <;> rfl

theorem answerLaunch_logging (stage : Stage) (limit : Log.Limit) :
    (stage.logging limit).answerLaunch = (stage.answerLaunch.1, stage.answerLaunch.2.logging limit) := by
  obtain ⟨output, error, prompt, ⟨directories, launches⟩, verbosity⟩ := stage
  cases launches <;> rfl

/-- The log of a stage can be set, and nothing else depends on it. -/
def dial : World.Dial Stage where
  setTo limit :=
    { holds := fun stage => stage.verbosity = limit
      keep := fun _ _ hstage => hstage
      deliver := fun sink message stage hstage => (verbosity_withChannel stage sink _).trans hstage
      flush := fun _ _ hstage => hstage
      changeDirectory := fun _ stage hstage => by
        change (answerDirectory stage).2.verbosity = limit
        unfold answerDirectory
        split <;> exact hstage
      launch := fun _ stage hstage => by
        change (answerLaunch stage).2.verbosity = limit
        unfold answerLaunch
        split <;> exact hstage }
  alike stage stage' := stage.logging none = stage'.logging none
  wants := by
    intro limit stage hstage entry
    change stage.logs entry.level = limit.admits entry.level
    rw [logs, hstage]
    rfl
  keepLeft halike _ := halike
  keepRight halike _ := halike
  deliver := by
    intro stage stage' halike sink message
    have hsame := congrArg (Stage.deliver sink message) halike
    rw [deliver_logging, deliver_logging] at hsame
    exact Prod.mk.inj hsame
  flush := by
    intro stage stage' halike sink
    refine ⟨?_, halike⟩
    have hsame := congrArg (Channel.flush <| channel · sink) halike
    cases sink <;> exact hsame
  changeDirectory := by
    intro stage stage' halike target
    have hsame := congrArg answerDirectory halike
    rw [answerDirectory_logging, answerDirectory_logging] at hsame
    exact Prod.mk.inj hsame
  launch := by
    intro stage stage' halike least most hbelow hquiet hloud arguments
    have hsame := congrArg answerLaunch halike
    rw [answerLaunch_logging, answerLaunch_logging] at hsame
    exact ⟨(Prod.mk.inj hsame).1, rfl, (Prod.mk.inj hsame).2⟩

end Stage

/-- A command and a session on a stage, with everything logged and with warnings only. The latter leaves
nothing of the entries in the log of the former. -/
theorem Task.runAll_dimmed_warnings :
    let tasks : List (Task Stage) := [⟨id, .line (Bytes.ofString "cd /a")⟩,
      ⟨(·.withChannel .prompt .whole), .session (.stream [.bytes (Bytes.ofString "ls\nexit\n")]) [36]⟩]
    let quiet := runAll tasks (Stage.plain.logging (some .warn))
    let loud := runAll tasks (Stage.plain.logging (some .trace))
    Log.Limit.Below (some .warn) (some .trace) ∧
      (∀ task ∈ tasks, ∀ stage stage', Stage.dial.Apart (some .warn) (some .trace) stage stage' →
        Stage.dial.Apart (some .warn) (some .trace) (task.place stage) (task.place stage')) ∧
      Stage.dial.Apart (some .warn) (some .trace) (Stage.plain.logging (some .warn))
        (Stage.plain.logging (some .trace)) ∧
      quiet.map Outcome.value = loud.map Outcome.value ∧
      quiet.map (·.events.visible)
        = loud.map (fun outcome => (outcome.events.visible.shown (some .warn)).merged) := by
  intro tasks quiet loud
  have hbelow : Log.Limit.Below (some .warn) (some .trace) := by
    intro level
    cases level <;> decide
  have hplace : ∀ task ∈ tasks, ∀ stage stage', Stage.dial.Apart (some .warn) (some .trace) stage stage' →
      Stage.dial.Apart (some .warn) (some .trace) (task.place stage) (task.place stage') := by
    intro task htask stage stage' hapart
    obtain ⟨hquiet, hloud, halike⟩ := hapart
    rcases List.mem_cons.1 htask with rfl | htask
    · exact ⟨hquiet, hloud, halike⟩
    · obtain rfl := List.mem_singleton.1 htask
      exact ⟨hquiet, hloud, congrArg (Stage.withChannel · .prompt .whole) halike⟩
  have hapart : Stage.dial.Apart (some .warn) (some .trace) (Stage.plain.logging (some .warn))
      (Stage.plain.logging (some .trace)) := ⟨rfl, rfl, rfl⟩
  obtain ⟨hvalues, hvisible, -⟩ := runAll_dimmed Stage.dial hbelow hplace hapart
  exact ⟨hbelow, hplace, hapart, hvalues, hvisible⟩

end LineShell
