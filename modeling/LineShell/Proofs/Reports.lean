import LineShell.Log.Line
import LineShell.Proofs.HostCalls
/-!
# Reports of failures

A failure is told on the error channel. If that channel refuses a part of the report, a warning is
logged instead, with the failure and with what the channel answered. So there is one trace of it: the
whole report, or a part of it and one warning.

A line is what it attempts, which may fail and has no part in any report, and then the report of that
failure (`Session.run_runLine`). When the attempt fails is not said here.
-/

namespace LineShell

inductive Failure where
  | builtin (error : BuiltinError)
  | launch (error : LaunchError)
  deriving DecidableEq, Repr

namespace Failure

def message : Failure → Bytes
  | .builtin error => error.message
  | .launch error => error.message

def report : Failure → Bytes
  | .builtin .missingTarget => Bytes.ofString "lish: expected argument to \"cd\"\n"
  | .builtin (.badTarget target cause) =>
    Bytes.ofString "lish: cd: " ++ Utf8.shown target ++ Bytes.ofString ": " ++ cause.text
      ++ Bytes.ofString "\n"
  | .builtin (.output cause) => Bytes.ofString "lish: " ++ cause.text ++ Bytes.ofString "\n"
  | .launch error => Bytes.ofString "lish: " ++ error.message ++ Bytes.ofString "\n"

theorem report_eq (failure : Failure) : failure.report =
    [programName, Bytes.ofString ": ", failure.message, Bytes.ofString "\n"].flatten := by
  have hname : programName ++ Bytes.ofString ": " = Bytes.ofString "lish: " := by decide
  have hcd : programName ++ Bytes.ofString ": " ++ Bytes.ofString "cd: " = Bytes.ofString "lish: cd: " := by
    decide
  cases failure with
  | builtin error =>
    cases error with
    | missingTarget => decide
    | badTarget target cause =>
      simp [report, message, BuiltinError.message, BuiltinError.headline, ← hcd]
    | output cause => simp [report, message, BuiltinError.message, BuiltinError.headline, ← hname]
  | launch error => simp [report, message, ← hname]

def warning (refusal : IoError) : Failure → Log.Entry
  | .builtin error => .builtinReportFailed refusal error
  | .launch error => .launchReportFailed refusal error

def warningText : Failure → Bytes
  | .builtin _ => Bytes.ofString "could not report builtin failure"
  | .launch _ => Bytes.ofString "could not report launch failure"

/-- What a warning shows of a failure. Of a change of directory that was refused this is the target, and
not why it was refused. -/
def original : Failure → Bytes
  | .builtin .missingTarget => Bytes.ofString "expected argument to \"cd\""
  | .builtin (.badTarget target _) => Bytes.ofString "cd: " ++ Utf8.shown target
  | .builtin (.output cause) => cause.text
  | .launch error => error.message

end Failure

/-- A warning that the report of a failure was refused. It carries the refusal and the failure, and the
fields that it shows are the refusal and the beginning of the failure. -/
structure Log.Entry.WarnsOf (refusal : IoError) (failure : Failure) (entry : Log.Entry) : Prop where
  carries : entry = failure.warning refusal
  level : entry.level = .warn
  message : entry.message = failure.warningText
  fields : entry.fields =
    [⟨Bytes.ofString "error", .plain refusal.text⟩,
      ⟨Bytes.ofString "original", .plain failure.original⟩]

theorem Failure.warning_warnsOf (refusal : IoError) (failure : Failure) :
    (failure.warning refusal).WarnsOf refusal failure := by
  cases failure with
  | builtin error => cases error <;> exact ⟨rfl, rfl, rfl, rfl⟩
  | launch error => exact ⟨rfl, rfl, rfl, rfl⟩

def Log.Entry.isOfReport : Log.Entry → Bool
  | .builtinReportFailed .. | .launchReportFailed .. => true
  | _ => false

/-- Whether an entry warns that the output could not be flushed before a launch. -/
def Log.Entry.isOfFlush : Log.Entry → Bool
  | .flushFailed _ => true
  | _ => false

theorem Log.Entry.isOfReport_iff (entry : Log.Entry) : entry.isOfReport ↔
    entry.message = Bytes.ofString "could not report builtin failure" ∨
      entry.message = Bytes.ofString "could not report launch failure" := by
  cases entry <;> simp only [isOfReport, message] <;> decide

theorem Log.Entry.isOfFlush_iff (entry : Log.Entry) : entry.isOfFlush ↔
    entry.message = Bytes.ofString "could not flush output before launch" := by
  cases entry <;> simp only [isOfFlush, message] <;> decide

def Event.accepted (sink : Sink) : Event → Bytes
  | .wrote sink' bytes => if sink' = sink then bytes else []
  | _ => []

namespace Trace

def accepted (sink : Sink) (trace : Trace) : Bytes := trace.flatMap (Event.accepted sink)

/-- The entries that say that a report was refused. -/
def reportWarnings (trace : Trace) : List Log.Entry :=
  trace.entries.filter fun entry =>
    entry.message = Bytes.ofString "could not report builtin failure" ∨
      entry.message = Bytes.ofString "could not report launch failure"

/-- The entries that say that the output could not be flushed before a launch. -/
def flushWarnings (trace : Trace) : List Log.Entry :=
  trace.entries.filter fun entry =>
    entry.message = Bytes.ofString "could not flush output before launch"

theorem reportWarnings_eq (trace : Trace) :
    trace.reportWarnings = trace.entries.filter Log.Entry.isOfReport :=
  List.filter_congr fun entry _ => by
    simp only [← entry.isOfReport_iff, Bool.decide_eq_true]

theorem flushWarnings_eq (trace : Trace) :
    trace.flushWarnings = trace.entries.filter Log.Entry.isOfFlush :=
  List.filter_congr fun entry _ => by
    simp only [← entry.isOfFlush_iff, Bool.decide_eq_true]

@[simp] theorem accepted_append (sink : Sink) (front rest : Trace) :
    accepted sink (front ++ rest) = front.accepted sink ++ rest.accepted sink := List.flatMap_append

theorem entries_append (front rest : Trace) :
    entries (front ++ rest) = front.entries ++ rest.entries := List.filterMap_append

@[simp] theorem reportWarnings_append (front rest : Trace) :
    reportWarnings (front ++ rest) = front.reportWarnings ++ rest.reportWarnings := by
  rw [reportWarnings, entries_append, List.filter_append]
  rfl

@[simp] theorem flushWarnings_append (front rest : Trace) :
    flushWarnings (front ++ rest) = front.flushWarnings ++ rest.flushWarnings := by
  rw [flushWarnings, entries_append, List.filter_append]
  rfl

end Trace

/-- Whether an event is neither of the error channel nor a warning. -/
def Event.isPlain : Event → Bool
  | .log entry => entry.level != .warn
  | event => event.sink? != some .error

/-- Whether an event is not a warning of some kind. -/
def Event.spares (warns : Log.Entry → Bool) : Event → Bool
  | .log entry => !warns entry
  | _ => true

/-- Whether an event has no part in a report: it is neither of the error channel nor the warning that
a report was refused. -/
def Event.IsQuiet (event : Event) : Prop :=
  event.sink? ≠ some .error ∧ event.spares Log.Entry.isOfReport

theorem Log.Entry.level_of_isOfReport {entry : Log.Entry} (hentry : entry.isOfReport) :
    entry.level = .warn := by
  cases entry with
  | launchReportFailed | builtinReportFailed => rfl
  | _ => exact absurd hentry Bool.false_ne_true

theorem Log.Entry.level_of_isOfFlush {entry : Log.Entry} (hentry : entry.isOfFlush) :
    entry.level = .warn := by
  cases entry with
  | flushFailed => rfl
  | _ => exact absurd hentry Bool.false_ne_true

namespace Event

theorem isPlain_of_sink {event : Event} {sink : Sink} (hsink : event.sink? = some sink)
    (herror : sink ≠ .error) : event.isPlain := by
  cases event <;> simp_all [isPlain, sink?]

theorem spares_of_sink {event : Event} {sink : Sink} (hsink : event.sink? = some sink)
    (warns : Log.Entry → Bool) : event.spares warns := by
  cases event <;> simp_all [spares, sink?]

theorem spares_of_isPlain {warns : Log.Entry → Bool}
    (hwarns : ∀ {entry : Log.Entry}, warns entry → entry.level = .warn) {event : Event}
    (hplain : event.isPlain) : event.spares warns := by
  cases event with
  | log entry =>
    have hlevel : entry.level ≠ .warn := bne_iff_ne.1 hplain
    have hnone : warns entry = false := Bool.eq_false_iff.2 fun hwarning => hlevel (hwarns hwarning)
    rw [spares, hnone, Bool.not_false]
  | _ => rfl

theorem isQuiet_of_isPlain {event : Event} (hplain : event.isPlain) : event.IsQuiet := by
  refine ⟨?_, spares_of_isPlain Log.Entry.level_of_isOfReport hplain⟩
  cases event <;> simp_all [isPlain, sink?]

end Event

namespace Trace

variable {trace : Trace}

theorem accepted_of_ne (sink : Sink) (htrace : ∀ event ∈ trace, event.sink? ≠ some sink) :
    trace.accepted sink = [] := by
  refine List.flatMap_eq_nil_iff.2 fun event hevent => ?_
  have hsink := htrace event hevent
  cases event <;> simp_all [Event.accepted, Event.sink?]

theorem filter_entries_of_spares {warns : Log.Entry → Bool}
    (htrace : ∀ event ∈ trace, event.spares warns) : trace.entries.filter warns = [] := by
  refine List.filter_eq_nil_iff.2 fun entry hentry hwarning => ?_
  obtain ⟨event, hevent, heq⟩ := List.mem_filterMap.1 hentry
  have hspares := htrace event hevent
  cases event <;> simp_all [Event.spares]

theorem reportWarnings_of_spares (htrace : ∀ event ∈ trace, event.spares Log.Entry.isOfReport) :
    trace.reportWarnings = [] := by
  rw [reportWarnings_eq, filter_entries_of_spares htrace]

theorem flushWarnings_of_spares (htrace : ∀ event ∈ trace, event.spares Log.Entry.isOfFlush) :
    trace.flushWarnings = [] := by
  rw [flushWarnings_eq, filter_entries_of_spares htrace]

theorem flushWarnings_of_isPlain (htrace : ∀ event ∈ trace, event.isPlain) :
    trace.flushWarnings = [] :=
  flushWarnings_of_spares fun event hevent =>
    Event.spares_of_isPlain Log.Entry.level_of_isOfFlush (htrace event hevent)

end Trace

/-! ### The report -/

/-- What a trace says of a failure: the whole report was accepted and there is no warning, or the
channel refused a part of the report, and there is one warning with what it answered. -/
inductive Reported (failure : Failure) (trace : Trace) : Prop where
  | whole (haccepted : trace.accepted .error = failure.report) (hwarnings : trace.reportWarnings = [])
  | part (refusal : IoError) (entry : Log.Entry) (hbegun : trace.accepted .error <+: failure.report)
      (hpart : (trace.accepted .error).length < failure.report.length)
      (hrefusal : .writeFailed .error refusal ∈ trace)
      (hwarnings : trace.reportWarnings = [entry]) (hentry : entry.WarnsOf refusal failure)

theorem Reported.append {failure : Failure} {trace : Trace} (htrace : Reported failure trace)
    {front : Trace} (hfront : ∀ event ∈ front, event.IsQuiet) : Reported failure (front ++ trace) := by
  have haccepted : (front ++ trace).accepted .error = trace.accepted .error := by
    rw [Trace.accepted_append, Trace.accepted_of_ne .error fun event hevent => (hfront event hevent).1,
      List.nil_append]
  have hwarnings : (front ++ trace).reportWarnings = trace.reportWarnings := by
    have hnone : front.reportWarnings = [] :=
      Trace.reportWarnings_of_spares fun event hevent => (hfront event hevent).2
    rw [Trace.reportWarnings_append, hnone, List.nil_append]
  cases htrace with
  | whole hwhole hnone => exact .whole (haccepted.trans hwhole) (hwarnings.trans hnone)
  | part refusal entry hbegun hpart hrefusal hone hentry =>
    exact .part refusal entry (haccepted ▸ hbegun) (haccepted ▸ hpart)
      (List.mem_append_right _ hrefusal) (hwarnings.trans hone) hentry

namespace Act

variable {ω : Type} [World ω]

/-- Whether messages were accepted as a whole, or the channel has failed within them. -/
def Sent (sink : Sink) (messages : Bytes) (sent : Outcome ω (Option IoError)) : Prop :=
  (sent.value = none ∧ sent.events.accepted sink = messages) ∨
    ∃ refusal, sent.value = some refusal ∧ sent.events.accepted sink <+: messages ∧
      (sent.events.accepted sink).length < messages.length ∧
      .writeFailed sink refusal ∈ sent.events

theorem sent_send (sink : Sink) (message : Bytes) (world : ω) :
    Sent sink message ((send sink message).run world) := by
  have hbegun := World.deliver_accepted sink message world
  have hfailure := World.deliver_failure sink message world
  rw [run_send]
  generalize World.deliver sink message world = answer at hbegun hfailure
  obtain ⟨⟨accepted, failure⟩, world'⟩ := answer
  have haccepted : ∀ failed : Trace, failed.accepted sink = [] →
      Trace.accepted sink (.wrote sink accepted :: failed) = accepted := fun failed hfailed => by
    rw [Trace.accepted, List.flatMap_cons, Event.accepted, if_pos rfl]
    exact (congrArg (accepted ++ ·) hfailed).trans (List.append_nil _)
  cases failure with
  | none => exact .inl ⟨rfl, (haccepted [] rfl).trans (hfailure.1 rfl)⟩
  | some refusal =>
    have hpart : accepted ≠ message := fun hwhole => absurd (hfailure.2 hwhole) (Option.some_ne_none _)
    have hless : accepted.length < message.length :=
      Nat.lt_of_le_of_ne hbegun.length_le fun hlength => hpart (hbegun.eq_of_length hlength)
    have hevents := haccepted [.writeFailed sink refusal] rfl
    refine .inr ⟨refusal, rfl, ?_, ?_, List.mem_cons_of_mem _ List.mem_cons_self⟩
    · exact Eq.subst (motive := (· <+: message)) hevents.symm hbegun
    · exact Eq.subst (motive := (List.length · < message.length)) hevents.symm hless

theorem sent_sendAll (sink : Sink) (messages : List Bytes) (world : ω) :
    Sent sink messages.flatten ((sendAll sink messages).run world) := by
  induction messages generalizing world with
  | nil => exact .inl ⟨rfl, rfl⟩
  | cons message rest ih =>
    have hlater := ih ((send sink message).run world).world
    rw [sendAll, run_bind, List.flatten_cons]
    rcases sent_send sink message world with ⟨hnone, hwhole⟩ | ⟨refusal, hsome, hbegun, hless, hrefusal⟩
    · rw [hnone]
      unfold Sent at hlater ⊢
      dsimp only
      rw [Trace.accepted_append, hwhole, List.prefix_append_right_inj, List.length_append,
        List.length_append, Nat.add_lt_add_iff_left]
      rcases hlater with ⟨hdone, haccepted⟩ | ⟨refusal, hsome, hpart, hless, hrefusal⟩
      · exact .inl ⟨hdone, congrArg _ haccepted⟩
      · exact .inr ⟨refusal, hsome, hpart, hless, List.mem_append_right _ hrefusal⟩
    · rw [hsome]
      unfold Sent
      dsimp only [run_pure]
      rw [List.append_nil, List.length_append]
      exact .inr ⟨refusal, rfl, hbegun.trans (List.prefix_append _ _), Nat.lt_add_right _ hless,
        hrefusal⟩

end Act

/-- An invariant under which all warnings are logged, in a world whose launches log none of their
own. -/
structure World.Warned (ω : Type) [World ω] extends World.Invariant ω where
  wants : ∀ entry world, holds world → entry.level = .warn → Logger.wants entry world
  launches : ∀ arguments (world : ω), ∀ event ∈ ((World.launch arguments).run world).events,
    event.isPlain

/-! ### What is attempted, and its report -/

namespace Session

variable {ω : Type} [World ω]

/-- What a builtin attempts. The result is its failure, if it fails. -/
def attemptBuiltin (builtin : Builtin) (words : List Bytes) : Act ω (Option Failure) := do
  Act.log (.builtinRunning builtin)
  match builtin with
  | .changeDirectory => Option.map .builtin <$> Builtin.goTo words
  | .help => Option.map .builtin <$> Builtin.showHelp
  | .exit => return none

/-- The failure of a launch. A program that was launched is only logged. -/
def failureOfLaunch : Except LaunchError Completion → Act ω (Option Failure)
  | .ok completion => do
    Act.log (.commandFinished completion)
    return none
  | .error failure => return some (.launch failure)

def attemptLaunch (words : List Bytes) : Act ω (Option Failure) := do
  noteFlush (← Act.flush .output)
  failureOfLaunch (← Act.launch words)

def attempt (words : List Bytes) : Act ω (Option Failure) :=
  match words with
  | [] => pure none
  | name :: _ =>
    match Builtin.lookup name with
    | some builtin => attemptBuiltin builtin words
    | none => attemptLaunch words

def attemptLine (line : Bytes) : Act ω (Option Failure) := tokenize line >>= attempt

def tell : Option Failure → Act ω Unit
  | none => pure ()
  | some failure => do
    match ← Act.complain failure.message with
    | none => pure ()
    | some refusal => Act.log (failure.warning refusal)

theorem settle_eq :
    (Builtin.settle : _ → Act ω _) = fun result => do
      tell (result.map .builtin)
      return .next := by
  funext result
  cases result with
  | none => simp [Builtin.settle, tell]
  | some error => rfl

theorem reportLaunch_eq :
    (reportLaunch : _ → Act ω _) = fun result => failureOfLaunch result >>= tell := by
  funext result
  cases result with
  | ok completion => simp [reportLaunch, failureOfLaunch, tell]
  | error failure => rfl

theorem execute_eq (words : List Bytes) :
    (execute words : Act ω Flow) = do
      tell (← attempt words)
      return if words.head? = some (Bytes.ofString "exit") then .stop else .next := by
  cases words with
  | nil => rfl
  | cons name arguments =>
    simp only [execute, attempt, List.head?_cons, Option.some.injEq]
    have hname : Builtin.lookup name = some .exit ↔ name = Builtin.exit.name :=
      Builtin.lookup_eq_some_iff
    have hexit : name = Bytes.ofString "exit" ↔ Builtin.lookup name = some .exit := hname.symm
    split <;> rename_i hlookup
    · rename_i builtin
      cases builtin with
      | changeDirectory | help => simp [attemptBuiltin, Builtin.run, settle_eq, hexit, hlookup]
      | exit => simp [attemptBuiltin, Builtin.run, tell, hexit, hlookup]
    · simp [launch_eq, reportLaunch_eq, attemptLaunch, hexit, hlookup]

/-- A line is what it attempts, and then the report. -/
theorem run_runLine (line : Bytes) (world : ω) :
    let attempted := (attemptLine line).run world
    let told := (tell attempted.value).run attempted.world
    ((runLine line).run world).events = attempted.events ++ told.events := by
  simp [runLine, attemptLine, execute_eq]

/-! ### What is left -/

variable {warned : World.Warned ω}

theorem tell_reported {failure : Failure} {world : ω} (hworld : warned.holds world) :
    Reported failure ((tell (some failure)).run world).events := by
  have hsent := Act.sent_sendAll .error
    [programName, Bytes.ofString ": ", failure.message, Bytes.ofString "\n"] world
  rw [← failure.report_eq] at hsent
  have hcomplain : (Act.complain failure.message : Act ω _).Within warned.toInvariant
      (·.sink? = some .error) := Act.within_complain (fun _ => id) _
  obtain ⟨hafter, hevents⟩ := hcomplain world hworld
  have hnone : Trace.reportWarnings ((Act.complain failure.message).run world).events = [] :=
    Trace.reportWarnings_of_spares fun event hevent => Event.spares_of_sink (hevents event hevent) _
  rw [tell, Act.run_bind]
  rcases hsent with ⟨hvalue, hwhole⟩ | ⟨refusal, hvalue, hbegun, hpart, hrefusal⟩
  · have hvalue : ((Act.complain failure.message).run world).value = none := hvalue
    rw [hvalue]
    dsimp only [Act.run_pure]
    rw [List.append_nil]
    exact .whole hwhole hnone
  · have hvalue : ((Act.complain failure.message).run world).value = some refusal := hvalue
    have hwarns := failure.warning_warnsOf refusal
    have hwants := warned.wants _ _ hafter hwarns.level
    rw [hvalue]
    dsimp only
    rw [Act.run_log, if_pos hwants]
    have haccepted : Trace.accepted .error (((Act.complain failure.message).run world).events
        ++ [.log (failure.warning refusal)])
          = Trace.accepted .error ((Act.complain failure.message).run world).events :=
      (Trace.accepted_append _ _ _).trans (List.append_nil _)
    have hwarning : Trace.reportWarnings [.log (failure.warning refusal)]
        = [failure.warning refusal] := by
      rw [Trace.reportWarnings_eq]
      cases failure <;> rfl
    refine .part refusal _ ?_ ?_ (List.mem_append_left _ hrefusal) ?_ hwarns
    · rw [haccepted]
      exact hbegun
    · rw [haccepted]
      exact hpart
    · rw [Trace.reportWarnings_append, hnone, hwarning, List.nil_append]

theorem plain_log {entry : Log.Entry} (hentry : Event.isPlain (.log entry)) :
    (Act.log entry : Act ω Unit).Within warned.toInvariant (·.isPlain) :=
  Act.leaves_log fun world hworld _ => ⟨hentry, warned.keep entry world hworld⟩

theorem plain_tokenize (line : Bytes) :
    (tokenize line : Act ω _).Within warned.toInvariant (·.isPlain) := by
  refine Act.Within.bind (Act.leaves_logAll fun entry hentry world hworld _ => ?_) fun _ =>
    (plain_log rfl).bind fun _ => Act.within_pure _
  obtain ⟨capacity, -, rfl⟩ := List.mem_map.1 hentry
  exact ⟨rfl, warned.keep _ world hworld⟩

theorem plain_attemptBuiltin (builtin : Builtin) (words : List Bytes) :
    (attemptBuiltin builtin words : Act ω _).Within warned.toInvariant (·.isPlain) := by
  have houtput : ∀ event : Event, event.sink? = some .output → event.isPlain := fun _ hsink =>
    Event.isPlain_of_sink hsink (by decide)
  refine (plain_log rfl).bind fun _ => ?_
  cases builtin with
  | changeDirectory => exact Builtin.within_goTo (fun _ => rfl) words
  | help => exact Builtin.within_showHelp houtput
  | exit => exact Act.within_pure _

theorem plain_failureOfLaunch (result : Except LaunchError Completion) :
    (failureOfLaunch result : Act ω _).Within warned.toInvariant (·.isPlain) := by
  cases result with
  | ok completion => exact (plain_log rfl).bind fun _ => Act.within_pure _
  | error failure => exact Act.within_pure _

theorem plain_launched (words : List Bytes) :
    (World.launch words >>= failureOfLaunch : Act ω _).Within warned.toInvariant (·.isPlain) := by
  have hlaunch : (World.launch words : Act ω _).Within warned.toInvariant (·.isPlain) :=
    fun world hworld => ⟨warned.launch words world hworld, warned.launches words world⟩
  exact hlaunch.bind plain_failureOfLaunch

theorem attemptLaunch_eq (words : List Bytes) :
    (attemptLaunch words : Act ω _) = (do
      Act.flush .output >>= noteFlush
      Act.emit (.launch words)
      World.launch words >>= failureOfLaunch) := by
  simp [attemptLaunch, Act.launch]

section Quiet

variable {α : Type} {action : Act ω α}

theorem quiet_of_plain (haction : action.Within warned.toInvariant (·.isPlain)) :
    action.Within warned.toInvariant Event.IsQuiet :=
  haction.imp fun _ => Event.isQuiet_of_isPlain

theorem quiet_flush : (Act.flush .output >>= noteFlush : Act ω _).Within warned.toInvariant
    Event.IsQuiet := by
  have hflush : (Act.flush .output : Act ω _).Within warned.toInvariant (·.isPlain) :=
    Act.within_flush fun _ hsink => Event.isPlain_of_sink hsink (by decide)
  refine (quiet_of_plain hflush).bind fun failure => ?_
  cases failure with
  | none => exact Act.within_pure _
  | some error =>
    exact Act.leaves_log fun world hworld _ =>
      ⟨⟨(Option.some_ne_none _).symm, rfl⟩, warned.keep _ world hworld⟩

theorem quiet_attemptLine (line : Bytes) :
    (attemptLine line : Act ω _).Within warned.toInvariant Event.IsQuiet := by
  refine (quiet_of_plain (plain_tokenize line)).bind fun words => ?_
  cases words with
  | nil => exact Act.within_pure _
  | cons name arguments =>
    rw [attempt]
    split
    · exact quiet_of_plain (plain_attemptBuiltin _ _)
    · rw [attemptLaunch_eq]
      refine Act.Within.bind quiet_flush fun _ => ?_
      exact (Act.within_emit ⟨(Option.some_ne_none _).symm, rfl⟩).bind fun _ =>
        quiet_of_plain (plain_launched _)

end Quiet

/-- What the flush in front of a launch leaves. -/
def flushTrace : Option IoError → Trace
  | none => [.flushed .output]
  | some error => [.flushFailed .output error, .log (.flushFailed error)]

theorem flushTrace_flushWarnings (flushed : Option IoError) :
    Trace.flushWarnings (flushTrace flushed) = flushed.toList.map .flushFailed := by
  rw [Trace.flushWarnings_eq]
  cases flushed <;> rfl

theorem flush_noteFlush {world : ω} (hworld : warned.holds world) :
    ((Act.flush .output >>= noteFlush : Act ω Unit).run world).events
      = flushTrace (World.flush .output world).1 := by
  rw [run_flush_noteFlush]
  dsimp only
  cases hflush : (World.flush .output world).1 with
  | none => rfl
  | some error =>
    have hwants := warned.wants (.flushFailed error) _ (warned.flush .output world hworld) rfl
    dsimp only [noteFlush]
    rw [Act.run_log, if_pos hwants]
    rfl

/-- A launch comes right behind the flush of the output, whether that fails or not. -/
theorem attemptLaunch_events (words : List Bytes) {world : ω} (hworld : warned.holds world) :
    ∃ rest, ((attemptLaunch words).run world).events
        = flushTrace (World.flush .output world).1 ++ .launch words :: rest ∧
      ∀ event ∈ rest, event.isPlain := by
  obtain ⟨hmiddle, -⟩ := quiet_flush world hworld
  obtain ⟨-, hplain⟩ := plain_launched words _ hmiddle
  refine ⟨_, ?_, hplain⟩
  rw [attemptLaunch_eq, Act.run_bind, flush_noteFlush hworld]
  rfl

theorem attempt_of_launch {given words : List Bytes}
    (hcall : HostCall.ofWords? given = some (.launch words)) :
    (attempt given : Act ω _) = attemptLaunch words := by
  cases given with
  | nil => exact absurd hcall.symm (Option.some_ne_none _)
  | cons name arguments =>
    rw [HostCall.ofWords?] at hcall
    split at hcall <;> rename_i hcd
    · cases arguments <;> simp at hcall
    · split at hcall <;> rename_i hother
      · exact absurd hcall.symm (Option.some_ne_none _)
      · obtain ⟨hhelp, hexit⟩ := not_or.1 hother
        have hlookup : Builtin.lookup name = none := by
          refine Option.eq_none_iff_forall_ne_some.2 fun builtin hlookup => ?_
          have hname := Builtin.lookup_eq_some_iff.1 hlookup
          cases builtin with
          | changeDirectory => exact hcd hname
          | help => exact hhelp hname
          | exit => exact hexit hname
        obtain rfl := HostCall.launch.inj (Option.some.inj hcall)
        rw [attempt, hlookup]

theorem tell_flushWarnings (failure : Option Failure) (world : ω) :
    Trace.flushWarnings ((tell failure).run world).events = [] := by
  have htell : (tell failure : Act ω _).Within (.always ω) (·.spares Log.Entry.isOfFlush) := by
    cases failure with
    | none => exact Act.within_pure _
    | some failure =>
      have hcomplain : (Act.complain failure.message : Act ω _).Within (.always ω)
          (·.spares Log.Entry.isOfFlush) :=
        Act.within_complain (fun _ hsink => Event.spares_of_sink hsink _) _
      refine hcomplain.bind fun refusal => ?_
      cases refusal with
      | none => exact Act.within_pure _
      | some refusal =>
        refine Act.leaves_log fun _ _ _ => ⟨?_, trivial⟩
        cases failure <;> rfl
  exact Trace.flushWarnings_of_spares (htell.events world)

end Session

end LineShell
