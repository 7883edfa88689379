import LineShell.World
/-!
# What actions do to a world

Two things are asked of an action in most statements about it: which kinds of events it can leave,
and which properties of the world it cannot end. Both go through a sequence of actions part by part,
so they are said together, and once for everything that the shell asks of a world.

A channel that accepts everything is such a property: one under which the channel reports no failure.
-/

namespace LineShell

def Event.sink? : Event → Option Sink
  | .wrote sink _ | .flushed sink | .writeFailed sink _ | .flushFailed sink _ => some sink
  | _ => none

theorem Event.sink?_of_isOfLaunch {event : Event} (hlaunch : event.isOfLaunch) : event.sink? = none := by
  cases event <;> simp_all [isOfLaunch, sink?]

theorem Event.sink?_log_ne (sink : Sink) (entry : Log.Entry) : (Event.log entry).sink? ≠ some sink :=
  (Option.some_ne_none sink).symm

theorem Event.sink?_ne_of_eq {event : Event} {sink sink' : Sink} (hne : sink ≠ sink')
    (hsink : event.sink? = some sink) : event.sink? ≠ some sink' := by
  rw [hsink]
  exact fun hsame => hne (Option.some.inj hsame)

theorem Event.sink?_ne_of_isOfLaunch {event : Event} (sink : Sink) (hlaunch : event.isOfLaunch) :
    event.sink? ≠ some sink := by
  rw [sink?_of_isOfLaunch hlaunch]
  exact (Option.some_ne_none sink).symm

/-- A property of worlds that nothing the shell asks of a world can end. -/
structure World.Invariant (ω : Type) [World ω] where
  holds : ω → Prop
  keep : ∀ entry world, holds world → holds (Logger.keep entry world)
  deliver : ∀ sink message world, holds world → holds (World.deliver sink message world).2
  flush : ∀ sink world, holds world → holds (World.flush sink world).2
  changeDirectory : ∀ target world, holds world → holds (World.changeDirectory target world).2
  launch : ∀ arguments world, holds world → holds ((World.launch arguments).run world).world

/-- An invariant under which a channel accepts every message and can be flushed. -/
structure World.Reliable (ω : Type) [World ω] (sink : Sink) extends World.Invariant ω where
  accepts : ∀ message world, holds world → (World.deliver sink message world).1.failure = none
  flushes : ∀ world, holds world → (World.flush sink world).1 = none

def World.Invariant.always (ω : Type) [World ω] : World.Invariant ω where
  holds _ := True
  keep _ _ _ := trivial
  deliver _ _ _ _ := trivial
  flush _ _ _ := trivial
  changeDirectory _ _ _ := trivial
  launch _ _ _ := trivial

namespace Act

variable {ω α β : Type}

/-! ### What the actions on a world come to -/

theorem run_log [Logger ω] (entry : Log.Entry) (world : ω) :
    (log entry).run world =
      if Logger.wants entry world then ⟨(), [.log entry], Logger.keep entry world⟩
      else ⟨(), [], world⟩ := rfl

/-- Where a property of the world holds, the action keeps it, and every event that it leaves has a
property. Unlike `Within` this asks nothing of what other actions do to the world. -/
def Leaves (holds : ω → Prop) (P : Event → Prop) (action : Act ω α) : Prop :=
  ∀ world, holds world →
    holds (action.run world).world ∧ ∀ event ∈ (action.run world).events, P event

section Leaves

variable {holds : ω → Prop} {P : Event → Prop}

theorem leaves_pure (value : α) : (pure value : Act ω α).Leaves holds P := fun _ hworld =>
  ⟨hworld, fun _ hevent => absurd hevent List.not_mem_nil⟩

theorem Leaves.bind {action : Act ω α} {next : α → Act ω β} (haction : action.Leaves holds P)
    (hnext : ∀ value, (next value).Leaves holds P) : (action >>= next).Leaves holds P := by
  intro world hworld
  obtain ⟨hmiddle, hfirst⟩ := haction world hworld
  obtain ⟨hlast, hsecond⟩ := hnext (action.run world).value _ hmiddle
  refine ⟨hlast, fun event hevent => ?_⟩
  rw [run_bind, List.mem_append] at hevent
  exact hevent.elim (hfirst event) (hsecond event)

theorem leaves_emit {event : Event} (hevent : P event) :
    (emit event : Act ω Unit).Leaves holds P := by
  intro world hworld
  refine ⟨hworld, fun other hother => ?_⟩
  rw [run_emit, List.mem_singleton] at hother
  rwa [hother]

variable [Logger ω]

theorem leaves_log {entry : Log.Entry}
    (hlog : ∀ world, holds world → Logger.wants entry world →
      P (.log entry) ∧ holds (Logger.keep entry world)) :
    (log entry : Act ω Unit).Leaves holds P := by
  intro world hworld
  rw [run_log]
  split <;> rename_i hwants
  · obtain ⟨hevent, hkept⟩ := hlog world hworld hwants
    exact ⟨hkept, by simpa using hevent⟩
  · exact ⟨hworld, by simp⟩

theorem leaves_logAll {entries : List Log.Entry}
    (hlog : ∀ entry ∈ entries, ∀ world, holds world → Logger.wants entry world →
      P (.log entry) ∧ holds (Logger.keep entry world)) :
    (logAll entries : Act ω Unit).Leaves holds P := by
  induction entries with
  | nil => exact leaves_pure ()
  | cons entry rest ih =>
    obtain ⟨hentry, hrest⟩ := List.forall_mem_cons.1 hlog
    exact (leaves_log hentry).bind fun _ => ih hrest

end Leaves

variable [World ω]

theorem run_send (sink : Sink) (message : Bytes) (world : ω) :
    (send sink message).run world =
      let delivery := (World.deliver sink message world).1
      ⟨delivery.failure,
        .wrote sink delivery.accepted :: delivery.failure.toList.map (.writeFailed sink ·),
        (World.deliver sink message world).2⟩ := by
  cases hdelivery : World.deliver sink message world with
  | mk delivery world' =>
    cases hfailure : delivery.failure <;> simp [run, send, hdelivery, hfailure]

theorem run_flush (sink : Sink) (world : ω) :
    (flush sink).run world =
      ⟨(World.flush sink world).1,
        [(World.flush sink world).1.elim (.flushed sink) (.flushFailed sink ·)],
        (World.flush sink world).2⟩ := by
  cases hflush : World.flush sink world with
  | mk failure world' => cases failure <;> simp [run, flush, hflush]

section Leaves

variable {holds : ω → Prop} {P : Event → Prop}

theorem leaves_send {sink : Sink} (hsink : ∀ event : Event, event.sink? = some sink → P event)
    (hdeliver : ∀ message world, holds world → holds (World.deliver sink message world).2)
    (message : Bytes) : (send sink message : Act ω _).Leaves holds P := by
  intro world hworld
  rw [run_send]
  refine ⟨hdeliver message world hworld, fun event hevent => hsink event ?_⟩
  rcases List.mem_cons.1 hevent with rfl | hevent
  · rfl
  · obtain ⟨error, -, rfl⟩ := List.mem_map.1 hevent
    rfl

theorem leaves_sendAll {sink : Sink} (hsink : ∀ event : Event, event.sink? = some sink → P event)
    (hdeliver : ∀ message world, holds world → holds (World.deliver sink message world).2)
    (messages : List Bytes) : (sendAll sink messages : Act ω _).Leaves holds P := by
  induction messages with
  | nil => exact leaves_pure none
  | cons message rest ih =>
    refine (leaves_send hsink hdeliver message).bind fun failure => ?_
    cases failure with
    | none => exact ih
    | some error => exact leaves_pure _

theorem leaves_flush {sink : Sink} (hsink : ∀ event : Event, event.sink? = some sink → P event)
    (hflush : ∀ world, holds world → holds (World.flush sink world).2) :
    (flush sink : Act ω _).Leaves holds P := by
  intro world hworld
  rw [run_flush]
  refine ⟨hflush world hworld, fun event hevent => hsink event ?_⟩
  rw [List.mem_singleton.1 hevent]
  cases (World.flush sink world).1 <;> rfl

theorem leaves_changeDirectory {target : Bytes} (htarget : P (.changeDirectory target))
    (hchange : ∀ world, holds world → holds (World.changeDirectory target world).2) :
    (changeDirectory target : Act ω _).Leaves holds P := by
  refine (leaves_emit htarget).bind fun _ world hworld => ?_
  exact ⟨hchange world hworld, fun _ hevent => absurd hevent List.not_mem_nil⟩

end Leaves

/-! ### Kinds of events, and invariants -/

/-- Where an invariant holds, the action keeps it, and every event that it leaves has a property. -/
def Within (invariant : World.Invariant ω) (P : Event → Prop) (action : Act ω α) : Prop :=
  ∀ world, invariant.holds world →
    invariant.holds (action.run world).world ∧ ∀ event ∈ (action.run world).events, P event

variable {invariant : World.Invariant ω} {P : Event → Prop}

theorem Within.events {action : Act ω α} (haction : action.Within (.always ω) P) (world : ω) :
    ∀ event ∈ (action.run world).events, P event :=
  (haction world trivial).2

theorem within_pure (value : α) : (pure value : Act ω α).Within invariant P := leaves_pure value

theorem Within.bind {action : Act ω α} {next : α → Act ω β} (haction : action.Within invariant P)
    (hnext : ∀ value, (next value).Within invariant P) : (action >>= next).Within invariant P :=
  Leaves.bind haction hnext

theorem Within.map {action : Act ω α} (haction : action.Within invariant P) (change : α → β) :
    (change <$> action).Within invariant P := haction

theorem Within.imp {Q : Event → Prop} {action : Act ω α} (haction : action.Within invariant P)
    (hPQ : ∀ event, P event → Q event) : action.Within invariant Q := fun world hworld =>
  ⟨(haction world hworld).1, fun event hevent => hPQ event ((haction world hworld).2 event hevent)⟩

theorem within_emit {event : Event} (hevent : P event) :
    (emit event : Act ω Unit).Within invariant P := leaves_emit hevent

theorem within_log (hlog : ∀ entry, P (.log entry)) (entry : Log.Entry) :
    (log entry : Act ω Unit).Within invariant P :=
  leaves_log fun world hworld _ => ⟨hlog entry, invariant.keep entry world hworld⟩

theorem within_logAll (hlog : ∀ entry, P (.log entry)) (entries : List Log.Entry) :
    (logAll entries : Act ω Unit).Within invariant P :=
  leaves_logAll fun entry _ world hworld _ => ⟨hlog entry, invariant.keep entry world hworld⟩

theorem within_send {sink : Sink} (hsink : ∀ event : Event, event.sink? = some sink → P event)
    (message : Bytes) : (send sink message : Act ω _).Within invariant P :=
  leaves_send hsink (invariant.deliver sink) message

theorem within_sendAll {sink : Sink} (hsink : ∀ event : Event, event.sink? = some sink → P event)
    (messages : List Bytes) : (sendAll sink messages : Act ω _).Within invariant P :=
  leaves_sendAll hsink (invariant.deliver sink) messages

theorem within_flush {sink : Sink} (hsink : ∀ event : Event, event.sink? = some sink → P event) :
    (flush sink : Act ω _).Within invariant P :=
  leaves_flush hsink (invariant.flush sink)

theorem within_launch {arguments : List Bytes} (harguments : P (.launch arguments))
    (hlaunch : ∀ event : Event, event.isOfLaunch → P event) :
    (launch arguments : Act ω _).Within invariant P :=
  (within_emit harguments).bind fun _ world hworld =>
    ⟨invariant.launch arguments world hworld,
      fun event hevent => hlaunch event (World.launch_events arguments world event hevent)⟩

theorem within_complain (herror : ∀ event : Event, event.sink? = some .error → P event)
    (message : Bytes) : (complain message : Act ω _).Within invariant P :=
  within_sendAll herror _

end Act

end LineShell
