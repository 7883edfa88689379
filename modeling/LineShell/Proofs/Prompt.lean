import LineShell.Proofs.Stream
import LineShell.Proofs.World
/-!
# Prompts in front of reads

A line of a stream is read after a prompt. Where the prompt can be shown it has no part in what the
read comes to, and neither the prompt nor the read leaves anything but events of its own kind.
-/

namespace LineShell.Stream

section Logger

variable {ω : Type} [Logger ω] {holds : ω → Prop} {P : Event → Prop}

theorem leaves_ended
    (hlog : ∀ entry world, holds world → Logger.wants entry world →
      P (.log entry) ∧ holds (Logger.keep entry world))
    (buffer : Buffer UInt8) (script : List Chunk) :
    (ended buffer script : Act ω _).Leaves holds P := by
  unfold ended
  split
  · exact (Act.leaves_log (hlog _)).bind fun _ => Act.leaves_pure _
  · exact Act.leaves_pure _

theorem leaves_store
    (hlog : ∀ entry world, holds world → Logger.wants entry world →
      P (.log entry) ∧ holds (Logger.keep entry world))
    (buffer : Buffer UInt8) (content : Bytes) :
    (store buffer content : Act ω _).Leaves holds P :=
  (Act.leaves_logAll fun entry _ => hlog entry).bind fun _ => Act.leaves_pure _

theorem leaves_scan (hfetched : P .fetched)
    (hlog : ∀ entry world, holds world → Logger.wants entry world →
      P (.log entry) ∧ holds (Logger.keep entry world))
    (buffer : Buffer UInt8) (script : List Chunk) :
    (scan buffer script : Act ω _).Leaves holds P := by
  induction script generalizing buffer with
  | nil => exact (Act.leaves_emit hfetched).bind fun _ => leaves_ended hlog _ _
  | cons chunk script ih =>
    cases chunk with
    | failure error =>
      refine (Act.leaves_emit hfetched).bind fun _ => ?_
      split
      · exact ih buffer
      · exact Act.leaves_pure _
    | bytes content =>
      refine (Act.leaves_emit hfetched).bind fun _ => ?_
      split
      · exact leaves_ended hlog _ _
      · split
        · exact (leaves_store hlog _ _).bind fun buffer => ih buffer
        · exact (leaves_store hlog _ _).bind fun _ => Act.leaves_pure _

end Logger

variable {ω : Type} [World ω] {invariant : World.Invariant ω} {P : Event → Prop}

theorem within_showPrompt (hprompt : ∀ event : Event, event.sink? = some .prompt → P event)
    (prompt : Bytes) : (showPrompt prompt : Act ω _).Within invariant P := by
  refine Act.Within.bind (Act.within_send hprompt prompt) fun failure => ?_
  cases failure with
  | none => exact Act.within_flush hprompt
  | some error => exact Act.within_pure _

theorem within_readLine (hprompt : ∀ event : Event, event.sink? = some .prompt → P event)
    (hfetched : P .fetched) (hlog : ∀ entry, P (.log entry)) (prompt : Bytes) (stream : Stream) :
    (stream.readLine prompt : Act ω _).Within invariant P := by
  refine Act.Within.bind (within_showPrompt hprompt prompt) fun failure => ?_
  cases failure with
  | none =>
    exact leaves_scan hfetched (fun entry world hworld _ =>
      ⟨hlog entry, invariant.keep entry world hworld⟩) _ _
  | some error => exact Act.within_pure _

theorem showPrompt_value (reliable : World.Reliable ω .prompt) (prompt : Bytes) {world : ω}
    (hworld : reliable.holds world) : ((showPrompt prompt).run world).value = none := by
  have haccepts := reliable.accepts prompt world hworld
  have hflushes := reliable.flushes _ (reliable.deliver .prompt prompt world hworld)
  simp [showPrompt, Act.run_send, Act.run_flush, haccepts, hflushes]

/-- Where the prompt can be shown, what a read comes to is decided by the answers alone. -/
theorem readLine_value (reliable : World.Reliable ω .prompt) (prompt : Bytes) {world : ω}
    (hworld : reliable.holds world) {stream rest : Stream} {reading : Reading}
    (hreads : ReadsTo stream.answers reading rest) :
    ((stream.readLine prompt).run world).value = (reading, rest) := by
  simp only [readLine, Act.run_bind, showPrompt_value reliable prompt hworld]
  exact nextLine_value_of_readsTo hreads _

end LineShell.Stream
