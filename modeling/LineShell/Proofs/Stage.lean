import LineShell.Stage
import LineShell.Proofs.World
/-!
# Channels of a stage that accept everything

On a stage the channels and the host do not depend on each other, so whatever befalls the others, a
channel that takes everything goes on doing so.
-/

namespace LineShell

theorem Channel.deliver_whole (message : Bytes) :
    Channel.whole.deliver message = (⟨message, none⟩, .whole) := by
  cases message with
  | nil => rw [deliver, if_pos rfl]
  | cons byte message =>
    have hcall : Channel.whole.call (byte :: message).length = (.took (message.length + 1), .whole) := rfl
    have hrest : Channel.whole.deliver ((byte :: message).drop (message.length + 1))
        = (⟨[], none⟩, .whole) := by
      rw [← List.length_cons (a := byte), List.drop_length, deliver, if_pos rfl]
    rw [deliver, if_neg (List.cons_ne_nil _ _)]
    split <;> rename_i hanswer <;> rw [hcall] at hanswer
    · simp at hanswer
    · obtain ⟨hcount, rfl⟩ := Prod.mk.inj hanswer
      obtain rfl := Nat.succ.inj (Answer.took.inj hcount)
      rw [hrest, ← List.length_cons (a := byte), List.take_length]
      simp
    · simp at hanswer

namespace Stage

theorem channel_withChannel (stage : Stage) (sink sink' : Sink) (channel : Channel) :
    (stage.withChannel sink channel).channel sink'
      = if sink = sink' then channel else stage.channel sink' := by
  cases sink <;> cases sink' <;> rfl

theorem verbosity_withChannel (stage : Stage) (sink : Sink) (channel : Channel) :
    (stage.withChannel sink channel).verbosity = stage.verbosity := by
  cases sink <;> rfl

theorem host_withChannel (stage : Stage) (sink : Sink) (channel : Channel) :
    (stage.withChannel sink channel).host = stage.host := by
  cases sink <;> rfl

/-- A channel of a stage that takes everything at one time always will. -/
def reliable (sink : Sink) : World.Reliable Stage sink where
  holds stage := stage.channel sink = .whole
  keep _ _ hstage := hstage
  deliver sink' message stage hstage := by
    change (stage.withChannel sink' _).channel sink = .whole
    rw [channel_withChannel]
    split
    · rename_i heq
      rw [heq, hstage, Channel.deliver_whole]
    · exact hstage
  flush _ _ hstage := hstage
  changeDirectory target stage hstage := by
    change (answerDirectory stage).2.channel sink = .whole
    unfold answerDirectory
    split
    · exact hstage
    · cases sink <;> exact hstage
  launch arguments stage hstage := by
    change (answerLaunch stage).2.channel sink = .whole
    unfold answerLaunch
    split
    · exact hstage
    · cases sink <;> exact hstage
  accepts message stage hstage := by
    change ((stage.channel sink).deliver message).1.failure = none
    rw [hstage, Channel.deliver_whole]
  flushes stage hstage := by
    change (stage.channel sink).flush = none
    rw [hstage]
    rfl

/-- A stage on which prompts are shown and all else goes wrong: nothing can be written to standard
output, the error channel takes single bytes and then fails, and the host refuses what it is asked. -/
def refusing : Stage where
  output := ⟨none, [⟨0, none, none, by simp⟩], some (.plain .brokenPipe)⟩
  error := ⟨some 1, [⟨3, some (.plain .storageFull), none, by simp [IoError.interrupts]⟩], none⟩
  prompt := .whole
  host := ⟨[some (.plain .notFound)], [.error (.wait 2 .noChild)]⟩
  verbosity := none

end Stage

end LineShell
