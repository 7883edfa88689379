import LineShell.Session
import LineShell.Proofs.Requests
import LineShell.Proofs.Words
/-!
# Commands

What running one line leaves and yields. A command is chosen by the first word of its line. It says
to stop exactly if that word is the one for leaving, whatever else goes wrong, and its events are of
a kind that no source of lines leaves: it shows no prompt and reads no line.
-/

namespace LineShell

/-- Whether an event can be left by a command: it is neither of a prompt nor of a read. -/
def Event.isOfCommand (event : Event) : Bool :=
  match event with
  | .readLine _ | .fetched => false
  | _ => event.sink? != some .prompt

theorem Event.isOfCommand_of_sink {event : Event} {sink : Sink} (hsink : event.sink? = some sink)
    (hprompt : sink ≠ .prompt) : event.isOfCommand := by
  cases event <;> simp_all [isOfCommand, sink?]

theorem Event.isOfCommand_of_isOfLaunch {event : Event} (hlaunch : event.isOfLaunch) :
    event.isOfCommand := by
  cases event <;> simp_all [isOfCommand, isOfLaunch, sink?]

/-! ### Builtins -/

namespace Builtin

theorem lookup_eq_some_iff {word : Bytes} {builtin : Builtin} :
    lookup word = some builtin ↔ word = builtin.name := by
  constructor
  · intro hlookup
    have hname := List.find?_some (p := fun other : Builtin => other.name == word) hlookup
    exact (beq_iff_eq.1 hname).symm
  · rintro rfl
    cases builtin <;> decide

variable {ω : Type} [World ω] {invariant : World.Invariant ω} {P : Event → Prop}

theorem within_showHelp (houtput : ∀ event : Event, event.sink? = some .output → P event) :
    (showHelp : Act ω _).Within invariant P := by
  have hshow : (showHelp : Act ω _).AsksOnly [.channel .output] := asksOnly_showHelp List.mem_cons_self
  refine hshow.within (List.forall_mem_singleton.2 fun event hevent => ?_)
  exact houtput event (Event.request?_eq_channel_iff.1 hevent)

theorem within_goTo (hchange : ∀ target, P (.changeDirectory target)) (words : List Bytes) :
    (goTo words : Act ω _).Within invariant P := by
  have hgo : (goTo words : Act ω _).AsksOnly [.changeDirectory] := asksOnly_goTo List.mem_cons_self words
  refine hgo.within (List.forall_mem_singleton.2 fun event hevent => ?_)
  obtain ⟨target, rfl⟩ := Event.request?_eq_changeDirectory_iff.1 hevent
  exact hchange target

theorem within_settle (hlog : ∀ entry, P (.log entry))
    (herror : ∀ event : Event, event.sink? = some .error → P event) (result : Option BuiltinError) :
    (settle result : Act ω _).Within invariant P := by
  have hsettle : (settle result : Act ω _).AsksOnly [.log, .channel .error] :=
    asksOnly_settle (by decide) (by decide) result
  refine hsettle.within (List.forall_mem_cons.2 ⟨fun event hevent => ?_,
    List.forall_mem_singleton.2 fun event hevent => ?_⟩)
  · obtain ⟨entry, rfl⟩ := Event.request?_eq_log_iff.1 hevent
    exact hlog entry
  · exact herror event (Event.request?_eq_channel_iff.1 hevent)

theorem within_run (builtin : Builtin) (words : List Bytes) :
    (builtin.run words : Act ω _).Within invariant (·.isOfCommand) := by
  have hlog : ∀ entry, Event.isOfCommand (.log entry) := fun _ => rfl
  have herror : ∀ event : Event, event.sink? = some .error → event.isOfCommand := fun _ hsink =>
    Event.isOfCommand_of_sink hsink (by decide)
  cases builtin with
  | changeDirectory => exact (within_goTo (fun _ => rfl) words).bind (within_settle hlog herror)
  | help =>
    refine (within_showHelp fun event hsink => ?_).bind (within_settle hlog herror)
    exact Event.isOfCommand_of_sink hsink (by decide)
  | exit => exact Act.within_pure _

theorem settle_value (result : Option BuiltinError) (world : ω) :
    ((settle result).run world).value = .next := by
  cases result <;> rfl

/-- No failure of a builtin shows in what the session does next. -/
theorem run_value (builtin : Builtin) (words : List Bytes) (world : ω) :
    ((builtin.run words).run world).value = if builtin = .exit then .stop else .next := by
  cases builtin with
  | changeDirectory => exact settle_value _ _
  | help => exact settle_value _ _
  | exit => rfl

end Builtin

/-! ### Lines -/

namespace Session

variable {ω : Type} [World ω] {invariant : World.Invariant ω} {P : Event → Prop}

theorem within_tokenize (hlog : ∀ entry, P (.log entry)) (line : Bytes) :
    (tokenize line : Act ω _).Within invariant P :=
  (Act.within_logAll hlog _).bind fun _ => (Act.within_log hlog _).bind fun _ => Act.within_pure _

def noteFlush : Option IoError → Act ω Unit
  | none => pure ()
  | some error => Act.log (.flushFailed error)

/-- Logs how a launched program ended, or reports why there was no launch. -/
def reportLaunch : Except LaunchError Completion → Act ω Unit
  | .ok completion => Act.log (.commandFinished completion)
  | .error failure => do
    match ← Act.complain failure.message with
    | none => pure ()
    | some refusal => Act.log (.launchReportFailed refusal failure)

theorem launch_eq (words : List Bytes) :
    (launch words : Act ω Unit) = (do
      noteFlush (← Act.flush .output)
      reportLaunch (← Act.launch words)) := by
  unfold launch
  refine bind_congr fun failure => ?_
  cases failure <;> rfl

theorem run_flush_noteFlush (world : ω) :
    (Act.flush .output >>= noteFlush : Act ω _).run world =
      let flushed := World.flush .output world
      let noted := (noteFlush flushed.1).run flushed.2
      ⟨(), flushed.1.elim (.flushed .output) (.flushFailed .output ·) :: noted.events, noted.world⟩ := by
  rw [Act.run_bind, Act.run_flush]
  rfl

theorem within_noteFlush (hlog : ∀ entry, P (.log entry)) (failure : Option IoError) :
    (noteFlush failure : Act ω _).Within invariant P := by
  cases failure with
  | none => exact Act.within_pure _
  | some error => exact Act.within_log hlog _

theorem within_reportLaunch (hlog : ∀ entry, P (.log entry))
    (herror : ∀ event : Event, event.sink? = some .error → P event)
    (result : Except LaunchError Completion) :
    (reportLaunch result : Act ω _).Within invariant P := by
  cases result with
  | ok completion => exact Act.within_log hlog _
  | error failure =>
    refine Act.Within.bind (Act.within_complain herror _) fun refusal => ?_
    cases refusal with
    | none => exact Act.within_pure _
    | some error => exact Act.within_log hlog _

theorem within_launch (words : List Bytes) :
    (launch words : Act ω _).Within invariant (·.isOfCommand) := by
  have hlog : ∀ entry, Event.isOfCommand (.log entry) := fun _ => rfl
  have hsink : ∀ sink : Sink, sink ≠ .prompt →
      ∀ event : Event, event.sink? = some sink → event.isOfCommand := fun _ hprompt _ hsink =>
    Event.isOfCommand_of_sink hsink hprompt
  have hlaunch : ∀ event : Event, event.isOfLaunch → event.isOfCommand := fun _ =>
    Event.isOfCommand_of_isOfLaunch
  rw [launch_eq]
  refine Act.Within.bind (Act.within_flush (hsink .output (by decide))) fun failure => ?_
  refine (within_noteFlush hlog failure).bind fun _ => ?_
  refine Act.Within.bind (Act.within_launch rfl hlaunch) fun result => ?_
  exact within_reportLaunch hlog (hsink .error (by decide)) result

theorem within_execute (words : List Bytes) :
    (execute words : Act ω _).Within invariant (·.isOfCommand) := by
  cases words with
  | nil => exact Act.within_pure _
  | cons name arguments =>
    simp only [execute]
    split
    · exact Act.Within.bind (Act.within_log (fun _ => rfl) _) fun _ => Builtin.within_run _ _
    · exact Act.Within.bind (within_launch _) fun _ => Act.within_pure _

theorem within_runLine (line : Bytes) :
    (runLine line : Act ω _).Within invariant (·.isOfCommand) :=
  (within_tokenize (fun _ => rfl) line).bind within_execute

theorem execute_value (words : List Bytes) (world : ω) :
    ((execute words).run world).value
      = if words.head? = some (Bytes.ofString "exit") then .stop else .next := by
  cases words with
  | nil => rfl
  | cons name arguments =>
    simp only [execute]
    have hname : Builtin.lookup name = some .exit ↔ name = Builtin.exit.name :=
      Builtin.lookup_eq_some_iff
    have hexit : name = Bytes.ofString "exit" ↔ Builtin.lookup name = some .exit := hname.symm
    cases hlookup : Builtin.lookup name with
    | some builtin => simp [Builtin.run_value, hexit, hlookup]
    | none => simp [hexit, hlookup]

theorem runLine_value (line : Bytes) (world : ω) :
    ((runLine line).run world).value
      = if (wordsOf line).head? = some (Bytes.ofString "exit") then .stop else .next := by
  rw [runLine, Act.run_bind, tokenize_value, execute_value]

end Session

end LineShell
