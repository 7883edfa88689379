import LineShell.Builtin.Run
import LineShell.Proofs.World
/-!
# What actions ask of a world

There are a few kinds of requests that can be made of a world. Once it is known of which kinds an action
makes any, both what it can leave and what it cannot change follow: its events tell of such requests only,
and whatever in the world these requests keep is kept by the action.
-/

namespace LineShell

/-- A kind of request to a world. To write to a channel and to flush it are of one kind. -/
inductive Request where
  | log
  | channel (sink : Sink)
  | changeDirectory
  | launch
  deriving DecidableEq, Repr

def Event.request? : Event → Option Request
  | .wrote sink _ | .flushed sink | .writeFailed sink _ | .flushFailed sink _ => some (.channel sink)
  | .changeDirectory _ => some .changeDirectory
  | .launch _ => some .launch
  | .log _ => some .log
  | .readLine _ | .fetched | .forked | .waited _ => none

theorem Event.request?_eq_channel_iff {event : Event} {sink : Sink} :
    event.request? = some (.channel sink) ↔ event.sink? = some sink := by
  cases event <;> simp [request?, sink?]

theorem Event.request?_eq_changeDirectory_iff {event : Event} :
    event.request? = some .changeDirectory ↔ ∃ target, event = .changeDirectory target := by
  cases event <;> simp [request?]

theorem Event.request?_eq_log_iff {event : Event} :
    event.request? = some .log ↔ ∃ entry, event = .log entry := by
  cases event <;> simp [request?]

variable {ω : Type} [World ω]

/-- No request of this kind ends a property of worlds. -/
def Request.Keeps (holds : ω → Prop) : Request → Prop
  | .log => ∀ entry world, holds world → holds (Logger.keep entry world)
  | .channel sink => (∀ message world, holds world → holds (World.deliver sink message world).2) ∧
      ∀ world, holds world → holds (World.flush sink world).2
  | .changeDirectory => ∀ target world, holds world → holds (World.changeDirectory target world).2
  | .launch => ∀ arguments world, holds world → holds ((World.launch arguments).run world).world

theorem World.Invariant.keeps (invariant : World.Invariant ω) (request : Request) :
    request.Keeps invariant.holds := by
  cases request with
  | log => exact invariant.keep
  | channel sink => exact ⟨invariant.deliver sink, invariant.flush sink⟩
  | changeDirectory => exact invariant.changeDirectory
  | launch => exact invariant.launch

namespace Act

variable {α β : Type} {requests : List Request}

/-- An action that makes no requests but those of some kinds. -/
def AsksOnly (requests : List Request) (action : Act ω α) : Prop :=
  ∀ ⦃holds : ω → Prop⦄ ⦃P : Event → Prop⦄,
    (∀ request ∈ requests, request.Keeps holds ∧ ∀ event : Event, event.request? = some request → P event) →
    action.Leaves holds P

theorem AsksOnly.within {action : Act ω α} (haction : action.AsksOnly requests)
    {invariant : World.Invariant ω} {P : Event → Prop}
    (hevents : ∀ request ∈ requests, ∀ event : Event, event.request? = some request → P event) :
    action.Within invariant P := by
  apply haction
  intro request hrequest
  exact ⟨invariant.keeps request, hevents request hrequest⟩

theorem asksOnly_pure (value : α) : (pure value : Act ω α).AsksOnly requests := fun _ _ _ =>
  leaves_pure value

theorem AsksOnly.bind {action : Act ω α} {next : α → Act ω β} (haction : action.AsksOnly requests)
    (hnext : ∀ value, (next value).AsksOnly requests) : (action >>= next).AsksOnly requests := by
  intro holds P hrequests
  exact (haction hrequests).bind fun value => hnext value hrequests

theorem asksOnly_log (hlog : .log ∈ requests) (entry : Log.Entry) :
    (log entry : Act ω Unit).AsksOnly requests := by
  intro holds P hrequests
  obtain ⟨hkeeps, hevents⟩ := hrequests _ hlog
  exact leaves_log fun world hworld _ => ⟨hevents _ rfl, hkeeps entry world hworld⟩

theorem asksOnly_sendAll {sink : Sink} (hsink : .channel sink ∈ requests) (messages : List Bytes) :
    (sendAll sink messages : Act ω _).AsksOnly requests := by
  intro holds P hrequests
  obtain ⟨⟨hdeliver, -⟩, hevents⟩ := hrequests _ hsink
  exact leaves_sendAll (fun event hevent => hevents event (Event.request?_eq_channel_iff.2 hevent))
    hdeliver messages

theorem asksOnly_flush {sink : Sink} (hsink : .channel sink ∈ requests) :
    (flush sink : Act ω _).AsksOnly requests := by
  intro holds P hrequests
  obtain ⟨⟨-, hflush⟩, hevents⟩ := hrequests _ hsink
  exact leaves_flush (fun event hevent => hevents event (Event.request?_eq_channel_iff.2 hevent)) hflush

theorem asksOnly_changeDirectory (hchange : .changeDirectory ∈ requests) (target : Bytes) :
    (changeDirectory target : Act ω _).AsksOnly requests := by
  intro holds P hrequests
  obtain ⟨hkeeps, hevents⟩ := hrequests _ hchange
  exact leaves_changeDirectory (hevents _ rfl) (hkeeps target)

end Act

/-! ### Requests of builtins -/

namespace Builtin

variable {requests : List Request}

theorem asksOnly_showHelp (houtput : .channel .output ∈ requests) :
    (showHelp : Act ω _).AsksOnly requests := by
  refine (Act.asksOnly_sendAll houtput _).bind fun failure => ?_
  cases failure with
  | none => exact (Act.asksOnly_flush houtput).bind fun _ => Act.asksOnly_pure _
  | some error => exact Act.asksOnly_pure _

theorem asksOnly_goTo (hchange : .changeDirectory ∈ requests) (words : List Bytes) :
    (goTo words : Act ω _).AsksOnly requests := by
  unfold goTo
  split
  · exact Act.asksOnly_pure _
  · exact (Act.asksOnly_changeDirectory hchange _).bind fun _ => Act.asksOnly_pure _

theorem asksOnly_report (hlog : .log ∈ requests) (herror : .channel .error ∈ requests)
    (error : BuiltinError) : (report error : Act ω _).AsksOnly requests := by
  refine Act.AsksOnly.bind (Act.asksOnly_sendAll herror _) fun failure => ?_
  cases failure with
  | none => exact Act.asksOnly_pure _
  | some refusal => exact Act.asksOnly_log hlog _

theorem asksOnly_settle (hlog : .log ∈ requests) (herror : .channel .error ∈ requests)
    (result : Option BuiltinError) : (settle result : Act ω _).AsksOnly requests := by
  cases result with
  | none => exact Act.asksOnly_pure _
  | some error => exact (asksOnly_report hlog herror error).bind fun _ => Act.asksOnly_pure _

/-- The kinds of requests that a builtin can make, those of its failures included. -/
def asks : Builtin → List Request
  | .changeDirectory => [.changeDirectory, .channel .error, .log]
  | .help => [.channel .output, .channel .error, .log]
  | .exit => []

theorem asksOnly_run (builtin : Builtin) (words : List Bytes) :
    (builtin.run words : Act ω _).AsksOnly builtin.asks := by
  cases builtin with
  | changeDirectory =>
    exact (asksOnly_goTo (by decide) words).bind (asksOnly_settle (by decide) (by decide))
  | help => exact (asksOnly_showHelp (by decide)).bind (asksOnly_settle (by decide) (by decide))
  | exit => exact Act.asksOnly_pure _

end Builtin

end LineShell
