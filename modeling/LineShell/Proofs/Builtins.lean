import LineShell.Proofs.Reports
import LineShell.Proofs.Utf8
import Mathlib.Data.List.Forall2
/-!
# What the builtins leave

A change of directory takes the bytes of its word as they are, and only what is said of a failure is
made a text. Help writes one page. What it leaves on the output is a start of that page, and the channel
is flushed once if the page is whole and not at all if it is not. Each failure of the two is told on the
error channel in one report, of which the channel may have taken a part only.

Nothing is asked of the channels here, so all of this holds of each builtin in whatever state the one
before it has left them.
-/

namespace LineShell

/-- An invariant under which a channel accepts every message. -/
structure World.Accepting (ω : Type) [World ω] (sink : Sink) extends World.Invariant ω where
  accepts : ∀ message world, holds world → (World.deliver sink message world).1.failure = none

def World.Reliable.accepting {ω : Type} [World ω] {sink : Sink} (reliable : World.Reliable ω sink) :
    World.Accepting ω sink := ⟨reliable.toInvariant, reliable.accepts⟩

def Event.isFlushOf (sink : Sink) : Event → Bool
  | .flushed sink' | .flushFailed sink' _ => sink' == sink
  | _ => false

/-- A trace with one report on the error channel: the whole of it, unless the channel has failed. -/
structure Trace.Tells (report : Bytes) (trace : Trace) : Prop where
  attempted : ∃ event ∈ trace, event.sink? = some .error
  begun : trace.accepted .error <+: report
  whole_iff : trace.accepted .error = report ↔ ∀ refusal, .writeFailed .error refusal ∉ trace

theorem Trace.Tells.append {report : Bytes} {trace front back : Trace} (htells : trace.Tells report)
    (hfront : ∀ event ∈ front, event.sink? ≠ some .error)
    (hback : ∀ event ∈ back, event.sink? ≠ some .error) : (front ++ trace ++ back).Tells report := by
  have haccepted : (front ++ trace ++ back).accepted .error = trace.accepted .error := by
    rw [accepted_append, accepted_append, accepted_of_ne .error hfront, accepted_of_ne .error hback,
      List.nil_append, List.append_nil]
  have hfailed : ∀ refusal, .writeFailed .error refusal ∈ front ++ trace ++ back ↔
      .writeFailed .error refusal ∈ trace := by
    intro refusal
    have hnotFront : .writeFailed .error refusal ∉ front := fun hevent => hfront _ hevent rfl
    have hnotBack : .writeFailed .error refusal ∉ back := fun hevent => hback _ hevent rfl
    simp [hnotFront, hnotBack]
  obtain ⟨event, hevent, hsink⟩ := htells.attempted
  refine ⟨⟨event, by simp [hevent], hsink⟩, ?_, ?_⟩
  · rw [haccepted]
    exact htells.begun
  · rw [haccepted, htells.whole_iff]
    simp only [hfailed]

namespace Act

variable {ω : Type} [World ω]

theorem eq_of_mem_sendAll {sink : Sink} {messages : List Bytes} {world : ω} {event : Event}
    (hevent : event ∈ ((sendAll sink messages).run world).events) :
    (∃ bytes, event = .wrote sink bytes) ∨
      ∃ refusal, event = .writeFailed sink refusal ∧
        ((sendAll sink messages).run world).value = some refusal := by
  induction messages generalizing world with
  | nil => exact absurd hevent List.not_mem_nil
  | cons message rest ih =>
    rw [sendAll, run_bind, run_send] at hevent ⊢
    dsimp only at hevent ⊢
    rcases List.mem_append.1 hevent with hfirst | hlater
    · rcases List.mem_cons.1 hfirst with rfl | hfailed
      · exact .inl ⟨_, rfl⟩
      · obtain ⟨refusal, hrefusal, rfl⟩ := List.mem_map.1 hfailed
        rw [Option.mem_toList.1 hrefusal]
        exact .inr ⟨refusal, rfl, rfl⟩
    · cases hfailure : (World.deliver sink message world).1.failure with
      | none =>
        rw [hfailure] at hlater
        exact ih hlater
      | some refusal =>
        rw [hfailure] at hlater
        exact absurd hlater List.not_mem_nil

theorem writeFailed_mem_sendAll_iff {sink : Sink} {messages : List Bytes} {world : ω}
    {refusal : IoError} :
    .writeFailed sink refusal ∈ ((sendAll sink messages).run world).events ↔
      ((sendAll sink messages).run world).value = some refusal := by
  constructor
  · intro hevent
    rcases eq_of_mem_sendAll hevent with ⟨bytes, heq⟩ | ⟨other, heq, hvalue⟩
    · exact Event.noConfusion heq
    · rwa [(Event.writeFailed.inj heq).2]
  · intro hvalue
    rcases sent_sendAll sink messages world with ⟨hnone, -⟩ | ⟨other, hother, -, -, hmem⟩
    · rw [hnone] at hvalue
      exact absurd hvalue.symm (Option.some_ne_none _)
    · rwa [← Option.some.inj (hother.symm.trans hvalue)]

/-- Messages are accepted as a whole exactly if there is no failure. -/
theorem accepted_sendAll_eq_iff (sink : Sink) (messages : List Bytes) (world : ω) :
    ((sendAll sink messages).run world).events.accepted sink = messages.flatten ↔
      ((sendAll sink messages).run world).value = none := by
  rcases sent_sendAll sink messages world with ⟨hnone, hwhole⟩ | ⟨refusal, hsome, -, hless, -⟩
  · exact iff_of_true hwhole hnone
  · refine iff_of_false (fun hwhole => ?_) fun hnone => ?_
    · exact absurd (congrArg List.length hwhole) (Nat.ne_of_lt hless)
    · exact absurd (hsome.symm.trans hnone) (Option.some_ne_none _)

theorem accepted_sendAll_prefix (sink : Sink) (messages : List Bytes) (world : ω) :
    ((sendAll sink messages).run world).events.accepted sink <+: messages.flatten := by
  rcases sent_sendAll sink messages world with ⟨-, hwhole⟩ | ⟨refusal, -, hbegun, -, -⟩
  · exact ⟨[], (List.append_nil _).trans hwhole⟩
  · exact hbegun

theorem sendAll_value_of_accepts {sink : Sink} (accepting : World.Accepting ω sink)
    (messages : List Bytes) {world : ω} (hworld : accepting.holds world) :
    ((sendAll sink messages).run world).value = none := by
  induction messages generalizing world with
  | nil => rfl
  | cons message rest ih =>
    have haccepts := accepting.accepts message world hworld
    rw [sendAll, run_bind, run_send]
    dsimp only
    rw [haccepts]
    exact ih (accepting.deliver sink message world hworld)

end Act

namespace Session

variable {ω : Type} [World ω]

theorem tells_complain (failure : Failure) (world : ω) :
    ((Act.complain failure.message).run world).events.Tells failure.report := by
  rw [failure.report_eq]
  refine ⟨⟨.wrote .error (World.deliver .error programName world).1.accepted, ?_, rfl⟩,
    Act.accepted_sendAll_prefix .error _ world, ?_⟩
  · rw [Act.complain, Act.sendAll, Act.run_bind, Act.run_send]
    exact List.mem_append_left _ List.mem_cons_self
  · have haccepted := Act.accepted_sendAll_eq_iff .error
      [programName, Bytes.ofString ": ", failure.message, Bytes.ofString "\n"] world
    refine haccepted.trans (Option.eq_none_iff_forall_ne_some.trans ?_)
    exact forall_congr' fun refusal => not_congr Act.writeFailed_mem_sendAll_iff.symm

theorem tells_tell (failure : Failure) (world : ω) :
    ((tell (some failure)).run world).events.Tells failure.report := by
  rw [tell, Act.run_bind]
  refine (tells_complain failure world).append (List.forall_mem_nil _) ?_
  cases ((Act.complain failure.message).run world).value with
  | none => exact List.forall_mem_nil _
  | some refusal =>
    exact (Act.within_log (Event.sink?_log_ne .error) (failure.warning refusal)).events _

theorem accepted_tell (failure : Failure) (accepting : World.Accepting ω .error) {world : ω}
    (hworld : accepting.holds world) :
    ((tell (some failure)).run world).events.accepted .error = failure.report := by
  have hvalue : ((Act.complain failure.message).run world).value = none :=
    Act.sendAll_value_of_accepts accepting _ hworld
  rw [tell, Act.run_bind, hvalue, failure.report_eq]
  dsimp only [Act.run_pure]
  rw [List.append_nil]
  exact (Act.accepted_sendAll_eq_iff .error _ _).2 hvalue

theorem told_output (failure : Option Failure) (world : ω) :
    ∀ event ∈ ((tell failure).run world).events, event.sink? ≠ some .output := by
  have hlog := Event.sink?_log_ne .output
  have htell : (tell failure : Act ω _).Within (.always ω) (·.sink? ≠ some .output) := by
    cases failure with
    | none => exact Act.within_pure _
    | some failure =>
      refine (Act.within_complain (fun _ => Event.sink?_ne_of_eq (by decide)) _).bind fun refusal => ?_
      cases refusal with
      | none => exact Act.within_pure _
      | some refusal => exact Act.within_log hlog _
  exact htell.events world

theorem run_settle (result : Option BuiltinError) (world : ω) :
    (Builtin.settle result).run world =
      ⟨.next, ((tell (result.map .builtin)).run world).events,
        ((tell (result.map .builtin)).run world).world⟩ := by
  rw [settle_eq]
  simp

end Session

/-! ### Changing the directory -/

namespace Builtin

variable {ω : Type} [World ω]

theorem run_goTo {words : List Bytes} {target : Bytes} (htarget : words[1]? = some target) (world : ω) :
    (goTo words).run world =
      let answer := World.changeDirectory target world
      ⟨answer.1.map (.badTarget target), [.changeDirectory target], answer.2⟩ := by
  rw [goTo, htarget]
  rfl

theorem run_changeDirectory {words : List Bytes} {target : Bytes} (htarget : words[1]? = some target)
    (world : ω) :
    let ran := (Builtin.changeDirectory.run words).run world
    let answer := (World.changeDirectory target world).1
    ran.value = .next ∧ ran.events.hostCalls = [.changeDirectory target] ∧
      (∀ event ∈ ran.events, event.sink? ≠ some .output) ∧
      (answer = none → ∀ event ∈ ran.events, event.sink? ≠ some .error) ∧
      (∀ error, answer = some error →
        let report := Bytes.ofString "lish: cd: " ++ Utf8.shown target ++ Bytes.ofString ": "
          ++ error.text ++ Bytes.ofString "\n"
        ran.events.Tells report ∧
          ∀ accepting : World.Accepting ω .error, accepting.holds world →
            ran.events.accepted .error = report) ∧
      Utf8.IsRepair Utf8.shown := by
  intro ran answer
  have hran : ran = ⟨.next,
      .changeDirectory target :: ((Session.tell ((answer.map (.badTarget target)).map .builtin)).run
        (World.changeDirectory target world).2).events,
      ((Session.tell ((answer.map (.badTarget target)).map .builtin)).run
        (World.changeDirectory target world).2).world⟩ := by
    change (goTo words >>= settle).run world = _
    rw [Act.run_bind, run_goTo htarget, Session.run_settle]
    rfl
  have hcalls : ran.events.hostCalls = [.changeDirectory target] := by
    rw [Builtin.run_hostCalls, htarget]
    rfl
  have houtput : (Builtin.changeDirectory.run words : Act ω _).Within (.always ω)
      (·.sink? ≠ some .output) := by
    have hlog := Event.sink?_log_ne .output
    have herror : ∀ event : Event, event.sink? = some .error → event.sink? ≠ some .output :=
      fun _ => Event.sink?_ne_of_eq (by decide)
    exact (within_goTo (fun _ => (Option.some_ne_none _).symm) words).bind (within_settle hlog herror)
  refine ⟨by rw [hran], hcalls, houtput.events world, fun hanswer => ?_, fun error hanswer => ?_,
    Utf8.isRepair_shown⟩
  · rw [hran, hanswer]
    simp [Session.tell, Event.sink?]
  · have hfront : ∀ event ∈ [Event.changeDirectory target], event.sink? ≠ some .error := by
      simp [Event.sink?]
    rw [hran, hanswer]
    refine ⟨?_, fun accepting hworld => ?_⟩
    · have htells := Session.tells_tell (.builtin (.badTarget target error))
        (World.changeDirectory target world).2
      have hwhole := htells.append hfront (List.forall_mem_nil _)
      rwa [List.append_nil] at hwhole
    · exact Session.accepted_tell (.builtin (.badTarget target error)) accepting
        (accepting.changeDirectory target world hworld)

/-- A directory whose name is not UTF-8 and is not there. -/
theorem run_changeDirectory_latin :
    let target := Bytes.ofString "caf" ++ [0xe9]
    let words := [Bytes.ofString "cd", target, Bytes.ofString "more"]
    let stage : Stage := ⟨.whole, .whole, .whole, ⟨[some (.plain .notFound)], []⟩, none⟩
    let ran := (Builtin.changeDirectory.run words).run stage
    words[1]? = some target ∧ ran.events.hostCalls = [.changeDirectory target] ∧
      ran.events.accepted .error = Bytes.ofString "lish: cd: caf\uFFFD: entity not found\n" := by
  intro target words stage ran
  have htarget : words[1]? = some target := rfl
  obtain ⟨-, hcalls, -, -, hreport, -⟩ := run_changeDirectory htarget stage
  obtain ⟨-, hwhole⟩ := hreport (.plain .notFound) rfl
  refine ⟨htarget, hcalls, (hwhole (Stage.reliable .error).accepting rfl).trans ?_⟩
  decide

/-! ### Help -/

def helpPage : Bytes :=
  Bytes.ofString "lish: a minimal interactive shell\n"
    ++ Bytes.ofString "Type program names and arguments, and hit enter.\n"
    ++ Bytes.ofString "The following are built in:\n"
    ++ all.flatMap (fun builtin => Bytes.ofString "  " ++ builtin.name ++ Bytes.ofString "\n")
    ++ Bytes.ofString "Use the man command for information on other programs.\n"

theorem flatten_helpText : helpText.flatten = helpPage := by
  have htitle : programName ++ Bytes.ofString ": a minimal interactive shell\n"
      = Bytes.ofString "lish: a minimal interactive shell\n" := by decide
  have hnames : ∀ builtins : List Builtin,
      (builtins.flatMap fun builtin => [Bytes.ofString "  ", builtin.name, Bytes.ofString "\n"]).flatten
        = builtins.flatMap fun builtin => Bytes.ofString "  " ++ builtin.name ++ Bytes.ofString "\n" := by
    intro builtins
    induction builtins with
    | nil => rfl
    | cons builtin rest ih =>
      rw [List.flatMap_cons, List.flatten_append, ih, List.flatMap_cons]
      simp
  rw [helpText, List.flatten_append, List.flatten_append, hnames, helpPage, ← htitle]
  simp

theorem run_showHelp_of_failed {world : ω} {error : IoError}
    (hvalue : ((Act.sendAll .output helpText).run world).value = some error) :
    showHelp.run world = ⟨some (.output error), ((Act.sendAll .output helpText).run world).events,
      ((Act.sendAll .output helpText).run world).world⟩ := by
  rw [showHelp, Act.run_bind, hvalue]
  simp

theorem run_showHelp_of_written {world : ω}
    (hvalue : ((Act.sendAll .output helpText).run world).value = none) :
    showHelp.run world =
      let written := (Act.sendAll .output helpText).run world
      let flushed := World.flush .output written.world
      ⟨flushed.1.map .output,
        written.events ++ [flushed.1.elim (.flushed .output) (.flushFailed .output ·)], flushed.2⟩ := by
  rw [showHelp, Act.run_bind, hvalue]
  simp [Act.run_flush]

end Builtin

/-- What a run of help leaves: a start of the page, one flush of the whole page and no flush of a part,
and one report of the failure if there is one. -/
structure Trace.OfHelp (trace : Trace) : Prop where
  begun : trace.accepted .output <+: Builtin.helpPage
  part_iff : trace.accepted .output ≠ Builtin.helpPage ↔ ∃ error, .writeFailed .output error ∈ trace
  flushes : trace.countP (Event.isFlushOf .output) =
    if trace.accepted .output = Builtin.helpPage then 1 else 0
  reports_iff : (∃ event ∈ trace, event.sink? = some .error) ↔
    trace.accepted .output ≠ Builtin.helpPage ∨ ∃ error, .flushFailed .output error ∈ trace
  tells : ∀ error, .writeFailed .output error ∈ trace ∨ .flushFailed .output error ∈ trace →
    trace.Tells (Bytes.ofString "lish: " ++ error.text ++ Bytes.ofString "\n")

/-- The parts of what help leaves: the writes, the flush if there is one, and the report. -/
structure Trace.HelpParts (written pushed told : Trace) : Prop where
  writes : ∀ event ∈ written, (∃ bytes, event = .wrote .output bytes) ∨
    ∃ error, event = .writeFailed .output error
  flush : ∀ event ∈ pushed, event = .flushed .output ∨ ∃ error, event = .flushFailed .output error
  others : ∀ event ∈ told, event.sink? ≠ some .output
  begun : written.accepted .output <+: Builtin.helpPage
  whole_iff : written.accepted .output = Builtin.helpPage ↔ ∀ error, .writeFailed .output error ∉ written
  length : pushed.length = if written.accepted .output = Builtin.helpPage then 1 else 0
  tells : ∀ error, .writeFailed .output error ∈ written ∨ .flushFailed .output error ∈ pushed →
    told.Tells (Bytes.ofString "lish: " ++ error.text ++ Bytes.ofString "\n")
  silent : (∀ error, .writeFailed .output error ∉ written ∧ .flushFailed .output error ∉ pushed) →
    told = []

namespace Trace.HelpParts

variable {written pushed told : Trace}

theorem accepted (hparts : HelpParts written pushed told) :
    (written ++ pushed ++ told).accepted .output = written.accepted .output := by
  have hpushed : pushed.accepted .output = [] := by
    refine List.flatMap_eq_nil_iff.2 fun event hevent => ?_
    rcases hparts.flush event hevent with rfl | ⟨error, rfl⟩ <;> rfl
  rw [accepted_append, accepted_append, hpushed, accepted_of_ne .output hparts.others, List.append_nil,
    List.append_nil]

theorem writeFailed_mem_iff (hparts : HelpParts written pushed told) (error : IoError) :
    .writeFailed .output error ∈ written ++ pushed ++ told ↔ .writeFailed .output error ∈ written := by
  have hpushed : .writeFailed .output error ∉ pushed := fun hevent => by
    simpa using hparts.flush _ hevent
  have htold : .writeFailed .output error ∉ told := fun hevent => hparts.others _ hevent rfl
  simp [hpushed, htold]

theorem flushFailed_mem_iff (hparts : HelpParts written pushed told) (error : IoError) :
    .flushFailed .output error ∈ written ++ pushed ++ told ↔ .flushFailed .output error ∈ pushed := by
  have hwritten : .flushFailed .output error ∉ written := fun hevent => by
    simpa using hparts.writes _ hevent
  have htold : .flushFailed .output error ∉ told := fun hevent => hparts.others _ hevent rfl
  simp [hwritten, htold]

theorem countP_isFlushOf (hparts : HelpParts written pushed told) :
    (written ++ pushed ++ told).countP (Event.isFlushOf .output) = pushed.length := by
  have hwritten : written.countP (Event.isFlushOf .output) = 0 := by
    refine List.countP_eq_zero.2 fun event hevent => ?_
    rcases hparts.writes event hevent with ⟨bytes, rfl⟩ | ⟨error, rfl⟩ <;> exact Bool.false_ne_true
  have hpushed : pushed.countP (Event.isFlushOf .output) = pushed.length := by
    refine List.countP_eq_length.2 fun event hevent => ?_
    rcases hparts.flush event hevent with rfl | ⟨error, rfl⟩ <;> rfl
  have htold : told.countP (Event.isFlushOf .output) = 0 := by
    refine List.countP_eq_zero.2 fun event hevent hflush => ?_
    have hother := hparts.others event hevent
    cases event <;> simp_all [Event.isFlushOf, Event.sink?]
  rw [List.countP_append, List.countP_append, hwritten, hpushed, htold]
  simp

theorem not_error (hparts : HelpParts written pushed told) :
    ∀ event ∈ written ++ pushed, event.sink? ≠ some .error := by
  intro event hevent
  rcases List.mem_append.1 hevent with hevent | hevent
  · rcases hparts.writes event hevent with ⟨bytes, rfl⟩ | ⟨error, rfl⟩ <;> simp [Event.sink?]
  · rcases hparts.flush event hevent with rfl | ⟨error, rfl⟩ <;> simp [Event.sink?]

theorem ofHelp (hparts : HelpParts written pushed told) : (written ++ pushed ++ told).OfHelp := by
  have hpart : written.accepted .output ≠ Builtin.helpPage ↔ ∃ error, .writeFailed .output error ∈ written := by
    rw [ne_eq, hparts.whole_iff]
    simp
  refine ⟨?_, ?_, ?_, ⟨?_, ?_⟩, fun error herror => ?_⟩
  · rw [hparts.accepted]
    exact hparts.begun
  · simp only [hparts.accepted, hparts.writeFailed_mem_iff]
    exact hpart
  · rw [hparts.countP_isFlushOf, hparts.accepted]
    exact hparts.length
  · rintro ⟨event, hevent, hsink⟩
    simp only [hparts.accepted, hparts.flushFailed_mem_iff, hpart]
    have hlast : event ∈ told := (List.mem_append.1 hevent).resolve_left fun hfront =>
      hparts.not_error event hfront hsink
    -- If nothing had failed nothing would be told.
    by_contra hnone
    obtain ⟨hwrites, hflush⟩ := not_or.1 hnone
    have hsilent := hparts.silent fun error =>
      ⟨fun hmem => hwrites ⟨error, hmem⟩, fun hmem => hflush ⟨error, hmem⟩⟩
    exact absurd (hsilent ▸ hlast) List.not_mem_nil
  · simp only [hparts.accepted, hparts.flushFailed_mem_iff, hpart]
    rw [← exists_or]
    rintro ⟨error, herror⟩
    obtain ⟨event, hevent, hsink⟩ := (hparts.tells error herror).attempted
    exact ⟨event, List.mem_append_right _ hevent, hsink⟩
  · rw [hparts.writeFailed_mem_iff, hparts.flushFailed_mem_iff] at herror
    have htells := (hparts.tells error herror).append hparts.not_error (List.forall_mem_nil _)
    rwa [List.append_nil] at htells

end Trace.HelpParts

namespace Builtin

variable {ω : Type} [World ω]

theorem ofHelp_run (words : List Bytes) (world : ω) :
    ((Builtin.help.run words).run world).events.OfHelp := by
  have hbegun := Act.accepted_sendAll_prefix .output helpText world
  have hwhole := Act.accepted_sendAll_eq_iff .output helpText world
  have hfailed : ∀ error, .writeFailed .output error ∈ ((Act.sendAll .output helpText).run world).events ↔
      ((Act.sendAll .output helpText).run world).value = some error := fun error =>
    Act.writeFailed_mem_sendAll_iff
  have hwritten : ∀ event ∈ ((Act.sendAll .output helpText).run world).events,
      (∃ bytes, event = .wrote .output bytes) ∨ ∃ error, event = .writeFailed .output error :=
    fun event hevent => (Act.eq_of_mem_sendAll hevent).imp_right fun ⟨error, heq, _⟩ => ⟨error, heq⟩
  rw [flatten_helpText] at hbegun hwhole
  change ((showHelp >>= settle).run world).events.OfHelp
  rw [Act.run_bind, Session.run_settle]
  dsimp only
  cases hvalue : ((Act.sendAll .output helpText).run world).value with
  | some error =>
    rw [run_showHelp_of_failed hvalue]
    simp only [hvalue, reduceCtorEq, iff_false, Option.some.injEq] at hwhole hfailed
    dsimp only [Option.map_some]
    have hparts : Trace.HelpParts ((Act.sendAll .output helpText).run world).events []
        ((Session.tell (some (.builtin (.output error)))).run
          ((Act.sendAll .output helpText).run world).world).events := by
      refine ⟨hwritten, List.forall_mem_nil _, Session.told_output _ _, hbegun, ?_, ?_, ?_, ?_⟩
      · simp [hwhole, hfailed]
      · simp [hwhole]
      · intro error' herror'
        simp only [hfailed, List.not_mem_nil, or_false] at herror'
        rw [← herror']
        exact Session.tells_tell (.builtin (.output error)) _
      · intro hnone
        exact absurd rfl (mt (hfailed error).2 (hnone error).1)
    rw [← List.append_nil ((Act.sendAll .output helpText).run world).events]
    exact hparts.ofHelp
  | none =>
    rw [run_showHelp_of_written hvalue]
    simp only [hvalue, iff_true, reduceCtorEq, iff_false] at hwhole hfailed
    dsimp only
    refine Trace.HelpParts.ofHelp ⟨hwritten, ?_, Session.told_output _ _, hbegun, ?_, ?_, ?_, ?_⟩
    · simp only [List.mem_singleton, forall_eq]
      cases (World.flush .output ((Act.sendAll .output helpText).run world).world).1 <;> simp
    · simp [hwhole, hfailed]
    · simp [hwhole]
    · intro error herror
      cases hflush : (World.flush .output ((Act.sendAll .output helpText).run world).world).1 with
      | none => simp [hflush, hfailed] at herror
      | some error' =>
        simp only [hflush, hfailed, false_or, Option.elim_some, List.mem_singleton,
          Event.flushFailed.injEq, true_and] at herror
        rw [herror]
        exact Session.tells_tell (.builtin (.output error')) _
    · intro hnone
      cases hflush : (World.flush .output ((Act.sendAll .output helpText).run world).world).1 with
      | none => rfl
      | some error =>
        rw [hflush] at hnone
        exact absurd (List.mem_singleton_self _) (hnone error).2

/-- Runs a builtin on lines of words one after the other, in the world that the one before has left. -/
def runEach (builtin : Builtin) : List (List Bytes) → ω → List (Outcome ω Flow)
  | [], _ => []
  | words :: rest, world =>
    let ran := (builtin.run words).run world
    ran :: runEach builtin rest ran.world

/-- However often help is asked for and whatever the output is like, each time it leaves a start of its
page on the output, flushes it once if it is the whole page and not at all if it is not, and reports one
failure if the page was cut short or could not be flushed. It calls no host and lets the session go on.
So all that was accepted is starts of the page one behind the other, and the page itself for each time
that nothing was reported. -/
theorem runEach_help (commands : List (List Bytes)) (world : ω) :
    let helps := Builtin.help.runEach commands world
    helps.length = commands.length ∧
      (∀ ran ∈ helps, ran.value = .next ∧ ran.events.hostCalls = [] ∧ ran.events.OfHelp) ∧
      ∃ parts : List Bytes,
        Trace.accepted .output (helps.flatMap Outcome.events) = parts.flatten ∧
        List.Forall₂ (fun ran part => part <+: helpPage ∧
          ((∀ event ∈ ran.events, event.sink? ≠ some .error) → part = helpPage)) helps parts := by
  intro helps
  have heach : helps.length = commands.length ∧
      ∀ ran ∈ helps, ran.value = .next ∧ ran.events.hostCalls = [] ∧ ran.events.OfHelp := by
    induction commands generalizing world with
    | nil => exact ⟨rfl, List.forall_mem_nil _⟩
    | cons words rest ih =>
      obtain ⟨hlength, hrest⟩ := ih ((Builtin.help.run words).run world).world
      have hcalls : ((Builtin.help.run words).run world).events.hostCalls = [] := run_hostCalls _ _ _
      refine ⟨congrArg (· + 1) hlength, List.forall_mem_cons.2 ⟨?_, hrest⟩⟩
      exact ⟨run_value _ _ _, hcalls, ofHelp_run words world⟩
  refine ⟨heach.1, heach.2, helps.map fun ran => ran.events.accepted .output, ?_, ?_⟩
  · rw [Trace.accepted, List.flatMap_assoc, List.flatMap_def]
    rfl
  · refine List.forall₂_map_right_iff.2 (List.forall₂_same.2 fun ran hran => ?_)
    obtain ⟨-, -, hhelp⟩ := heach.2 ran hran
    refine ⟨hhelp.begun, fun hsilent => ?_⟩
    by_contra hpart
    obtain ⟨event, hevent, hsink⟩ := hhelp.reports_iff.2 (.inl hpart)
    exact hsilent event hevent hsink

end Builtin

end LineShell
