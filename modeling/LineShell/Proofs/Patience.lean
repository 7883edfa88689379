import LineShell.Play
import LineShell.Proofs.Pairing
import LineShell.Proofs.Stage
/-!
# Channels that need patience

A channel may take a message in small parts, and its calls may be interrupted many times, at any
place in the message. As long as each call that is not interrupted takes something, the message is
delivered as a whole in the end. So on stages whose channels are like that a play goes as if they
took everything at once, and it goes the same whatever chunks its streams come in and however often
reads of them are interrupted.
-/

namespace LineShell

def Fault.Interrupts (fault : Fault) : Prop := ∃ error, fault.error = some error ∧ error.interrupts

/-- A channel that in the end takes every message: each call may take as little as one byte, and
calls may be interrupted for some time at any place. -/
structure Channel.Patient (channel : Channel) : Prop where
  takes : channel.perCall ≠ some 0
  interrupts : ∀ fault ∈ channel.faults, fault.Interrupts
  flushes : channel.flushFault = none

namespace Channel

theorem Patient.whole : whole.Patient := ⟨nofun, nofun, rfl⟩

theorem share_pos {perCall : Option Nat} (hperCall : perCall ≠ some 0) {offered : Nat}
    (hoffered : 0 < offered) : 0 < share perCall offered := by
  cases perCall with
  | none => exact hoffered
  | some most =>
    have hmost : most ≠ 0 := fun hzero => hperCall (congrArg some hzero)
    simp only [share]
    omega

theorem callFaults_of_interrupts {perCall : Option Nat} (hperCall : perCall ≠ some 0) {offered : Nat}
    (hoffered : 0 < offered) {faults : List Fault} (hfaults : ∀ fault ∈ faults, fault.Interrupts) :
    (∀ count, (callFaults perCall offered faults).1 = .took count → count ≠ 0) ∧
      (∀ error, (callFaults perCall offered faults).1 = .failed error → error.interrupts) ∧
      ∀ fault ∈ (callFaults perCall offered faults).2, fault.Interrupts := by
  have hshare := share_pos hperCall hoffered
  induction faults with
  | nil =>
    refine ⟨fun count hcount => ?_, fun _ => Answer.noConfusion, List.forall_mem_nil _⟩
    rw [← Answer.took.inj hcount]
    exact hshare.ne'
  | cons fault rest ih =>
    obtain ⟨error, herror, hinterrupts⟩ := hfaults fault List.mem_cons_self
    have hrest : ∀ other ∈ rest, other.Interrupts := fun other hother =>
      hfaults other (List.mem_cons_of_mem _ hother)
    unfold callFaults
    split
    · exact ih hrest
    · split <;> rename_i hafter
      · have hanswer : fault.answer = .failed error := by rw [Fault.answer, herror]
        refine ⟨fun count hcount => ?_, fun other hother => ?_, List.forall_mem_cons.2 ⟨?_, hrest⟩⟩
        · rw [hanswer] at hcount
          exact Answer.noConfusion hcount
        · rw [hanswer] at hother
          rwa [← Answer.failed.inj hother]
        · exact ⟨error, herror, hinterrupts⟩
      · refine ⟨fun count hcount => ?_, fun _ => Answer.noConfusion,
          List.forall_mem_cons.2 ⟨?_, hrest⟩⟩
        · rw [← Answer.took.inj hcount]
          omega
        · exact ⟨error, herror, hinterrupts⟩

theorem Patient.call {channel : Channel} (hpatient : channel.Patient) {offered : Nat}
    (hoffered : 0 < offered) :
    (∀ count, (channel.call offered).1 = .took count → count ≠ 0) ∧
      (∀ error, (channel.call offered).1 = .failed error → error.interrupts) ∧
      (channel.call offered).2.Patient := by
  obtain ⟨htook, hfailed, hfaults⟩ :=
    callFaults_of_interrupts hpatient.takes hoffered hpatient.interrupts
  exact ⟨htook, hfailed, hpatient.takes, hfaults, hpatient.flushes⟩

/-- A patient channel takes the whole message, and is patient after it. -/
theorem Patient.deliver {channel : Channel} (hpatient : channel.Patient) (message : Bytes) :
    (channel.deliver message).1 = ⟨message, none⟩ ∧ (channel.deliver message).2.Patient := by
  fun_induction Channel.deliver message channel with
  | case1 channel => exact ⟨rfl, hpatient⟩
  | case2 message channel hmessage channel' hcall =>
    have htook := (hpatient.call (List.length_pos_iff.2 hmessage)).1
    rw [hcall] at htook
    exact absurd rfl (htook 0 rfl)
  | case3 message channel hmessage n channel' hcall rest channel'' hrest ih =>
    have hafter := (hpatient.call (List.length_pos_iff.2 hmessage)).2.2
    rw [hcall] at hafter
    obtain ⟨hdelivery, hlast⟩ := ih hafter
    rw [hrest] at hdelivery hlast
    obtain rfl : rest = ⟨message.drop (n + 1), none⟩ := hdelivery
    exact ⟨by simp, hlast⟩
  | case4 message channel hmessage error channel' hcall hretry ih =>
    have hafter := (hpatient.call (List.length_pos_iff.2 hmessage)).2.2
    rw [hcall] at hafter
    exact ih hafter
  | case5 message channel hmessage error channel' hcall hretry =>
    have hfailed := (hpatient.call (List.length_pos_iff.2 hmessage)).2.1
    rw [hcall] at hfailed
    exact absurd (hfailed error rfl) hretry

end Channel

/-! ### Stages -/

namespace Stage

/-- A stage on which nothing is logged and all channels are patient. -/
structure Patient (stage : Stage) : Prop where
  quiet : stage.verbosity = none
  channel : ∀ sink, (stage.channel sink).Patient

/-- Patient stages with the same host. -/
structure Alike (stage stage' : Stage) : Prop where
  left : stage.Patient
  right : stage'.Patient
  host : stage.host = stage'.host

theorem Patient.withChannel {stage : Stage} (hstage : stage.Patient) (sink : Sink)
    {channel : Channel} (hchannel : channel.Patient) : (stage.withChannel sink channel).Patient := by
  refine ⟨(stage.verbosity_withChannel sink channel).trans hstage.quiet, fun other => ?_⟩
  rw [channel_withChannel]
  split
  · exact hchannel
  · exact hstage.channel other

theorem Alike.withChannel {stage stage' : Stage} (hstage : stage.Alike stage') (sink : Sink)
    {channel channel' : Channel} (hchannel : channel.Patient) (hchannel' : channel'.Patient) :
    (stage.withChannel sink channel).Alike (stage'.withChannel sink channel') := by
  refine ⟨hstage.left.withChannel sink hchannel, hstage.right.withChannel sink hchannel', ?_⟩
  rw [host_withChannel, host_withChannel, hstage.host]

theorem Alike.deliver {stage stage' : Stage} (hstage : stage.Alike stage') (sink : Sink)
    (message : Bytes) :
    (World.deliver sink message stage).1 = (World.deliver sink message stage').1 ∧
      (World.deliver sink message stage).2.Alike (World.deliver sink message stage').2 := by
  obtain ⟨hleft, hafter⟩ := (hstage.left.channel sink).deliver message
  obtain ⟨hright, hafter'⟩ := (hstage.right.channel sink).deliver message
  exact ⟨hleft.trans hright.symm, hstage.withChannel sink hafter hafter'⟩

theorem Alike.flush {stage stage' : Stage} (hstage : stage.Alike stage') (sink : Sink) :
    (World.flush sink stage).1 = (World.flush sink stage').1 ∧
      (World.flush sink stage).2.Alike (World.flush sink stage').2 :=
  ⟨(hstage.left.channel sink).flushes.trans (hstage.right.channel sink).flushes.symm, hstage⟩

theorem not_wants {stage : Stage} (hquiet : stage.verbosity = none) (entry : Log.Entry) :
    ¬ Logger.wants entry stage := by
  change ¬ stage.logs entry.level
  rw [logs, hquiet]
  exact Bool.false_ne_true

theorem Patient.withHost {stage : Stage} (hstage : stage.Patient) (host : HostScript) :
    ({ stage with host } : Stage).Patient :=
  ⟨hstage.quiet, fun
    | .output => hstage.channel .output
    | .error => hstage.channel .error
    | .prompt => hstage.channel .prompt⟩

def pairing : World.Pairing Stage Stage where
  alike := Alike
  watched := Event.isVisible
  fetched := rfl
  logLeft entry _ _ halike hwants := absurd hwants (not_wants halike.left.quiet entry)
  logRight entry _ _ halike hwants := absurd hwants (not_wants halike.right.quiet entry)
  deliver sink message _ _ _ halike := halike.deliver sink message
  flush sink _ _ _ halike := halike.flush sink
  changeDirectory target stage stage' halike := by
    change stage.answerDirectory.1 = stage'.answerDirectory.1 ∧
      stage.answerDirectory.2.Alike stage'.answerDirectory.2
    rw [answerDirectory, answerDirectory, ← halike.host]
    cases stage.host.directories with
    | nil => exact ⟨rfl, halike⟩
    | cons answer rest => exact ⟨rfl, halike.left.withHost _, halike.right.withHost _, rfl⟩
  launch arguments stage stage' halike := by
    change (Outcome.mk stage.answerLaunch.1 [] stage.answerLaunch.2).Agree Eq Alike Event.isVisible
      (Outcome.mk stage'.answerLaunch.1 [] stage'.answerLaunch.2)
    rw [answerLaunch, answerLaunch, ← halike.host]
    cases stage.host.launches with
    | nil => exact ⟨rfl, rfl, halike⟩
    | cons answer rest => exact ⟨rfl, rfl, halike.left.withHost _, halike.right.withHost _, rfl⟩

theorem pairing_hasPrompts : pairing.HasPrompts :=
  ⟨fun message _ _ halike => halike.deliver .prompt message, fun _ _ halike => halike.flush .prompt⟩

end Stage

/-! ### Plays -/

namespace Step

/-- The same line, or sessions over streams with the same marks and with patient channels for
prompts. -/
inductive Alike : Step → Step → Prop where
  | line (bytes : Bytes) : Alike (.line bytes) (.line bytes)
  | session {script script' : List Chunk} {prompts prompts' : Channel}
      (hmarks : Stream.marksOf script = Stream.marksOf script')
      (hprompts : prompts.Patient) (hprompts' : prompts'.Patient) :
      Alike (.session script prompts) (.session script' prompts')

theorem Alike.run_agree {step step' : Step} (hstep : step.Alike step') (prompt : Bytes)
    {stage stage' : Stage} (hstage : stage.Alike stage') :
    ((step.run prompt).run stage).Agree Eq Stage.Alike Event.isVisible
      ((step'.run prompt).run stage') := by
  cases hstep with
  | line bytes =>
    have hline : Act.Paired Stage.pairing (Session.runLine bytes) (Session.runLine bytes) :=
      Session.paired_runLine bytes
    obtain ⟨hvalue, hevents, hafter⟩ := hline hstage
    exact ⟨congrArg StepResult.flow hvalue, hevents, hafter⟩
  | @session script script' prompts prompts' hmarks hprompts hprompts' =>
    have hbegun := hstage.withChannel .prompt hprompts hprompts'
    have hsame : Stream.SameMarks (Stream.ofChunks script) (Stream.ofChunks script') := hmarks
    obtain ⟨hend, hevents, hafter⟩ := Session.run_agree Stage.pairing_hasPrompts prompt hsame hbegun
    refine ⟨congrArg StepResult.ended hend.1, ?_, hafter⟩
    simp only [run, Act.run_bind, Act.run_update, Act.run_pure, List.nil_append, List.append_nil]
    exact hevents

/-- What can be seen of a step: its result and its visible events. -/
def seen (outcome : Outcome Stage StepResult) : StepResult × Trace :=
  (outcome.value, outcome.events.visible)

theorem visible_congr {trace trace' : Trace}
    (htrace : trace.filter Event.isVisible = trace'.filter Event.isVisible) :
    trace.visible = trace'.visible := congrArg Trace.merged htrace

/-- Small parts, interruptions and chunks cannot be seen. Let two plays have the same host and
nothing logged, let every channel be patient, and let the streams of their sessions have the same
bytes between the same ends of input and failures, cut into chunks in whatever way and with whatever
interruptions. Then every step of theirs yields the same and shows the same, and so does the whole. -/
theorem runAll_alike (prompt : Bytes) {steps steps' : List Step}
    (hsteps : List.Forall₂ Alike steps steps') {stage stage' : Stage} (hstage : stage.Alike stage') :
    (runAll prompt steps stage).map seen = (runAll prompt steps' stage').map seen ∧
      Trace.visible ((runAll prompt steps stage).flatMap Outcome.events)
        = Trace.visible ((runAll prompt steps' stage').flatMap Outcome.events) := by
  suffices hfilter : (runAll prompt steps stage).map seen = (runAll prompt steps' stage').map seen ∧
      ((runAll prompt steps stage).flatMap Outcome.events).filter Event.isVisible
        = ((runAll prompt steps' stage').flatMap Outcome.events).filter Event.isVisible from
    ⟨hfilter.1, visible_congr hfilter.2⟩
  induction hsteps generalizing stage stage' with
  | nil => exact ⟨rfl, rfl⟩
  | cons hstep _ ih =>
    obtain ⟨hvalue, hevents, hafter⟩ := hstep.run_agree prompt hstage
    obtain ⟨hseen, hlater⟩ := ih hafter
    refine ⟨?_, ?_⟩
    · simp only [runAll, List.map_cons, seen, hvalue, visible_congr hevents]
      exact congrArg _ hseen
    · simp only [runAll, List.flatMap_cons, List.filter_append, hevents, hlater]

/-- Channels that take everything at once beside channels that take a byte or two at a time and
interrupt, and a stream in one chunk beside one that is cut within words and interrupted. -/
theorem runAll_alike_bytewise :
    let interrupt (after calls : Nat) : Fault :=
      ⟨after, some (.plain .interrupted), some calls, fun _ => nofun⟩
    let host : HostScript := ⟨[some (.plain .notFound)], [.error (.fork ⟨11⟩)]⟩
    let stage : Stage := ⟨.whole, .whole, .whole, host, none⟩
    let stage' : Stage := ⟨⟨some 2, [interrupt 3 2], none⟩, ⟨some 1, [interrupt 0 1, interrupt 5 4], none⟩,
      .whole, host, none⟩
    let steps : List Step := [.line (Bytes.ofString "help"),
      .session [.bytes (Bytes.ofString "cd /no
ls -l
exit
")] .whole]
    let steps' : List Step := [.line (Bytes.ofString "help"),
      .session [.failure (.plain .interrupted), .bytes (Bytes.ofString "cd /n"),
        .bytes (Bytes.ofString "o
l"), .failure (.plain .interrupted),
        .bytes (Bytes.ofString "s -l
exit
")] ⟨some 1, [interrupt 1 3], none⟩]
    List.Forall₂ Alike steps steps' ∧ stage.Alike stage' ∧
      (runAll [62, 32] steps stage).map seen = (runAll [62, 32] steps' stage').map seen ∧
      Trace.visible ((runAll [62, 32] steps stage).flatMap Outcome.events)
        = Trace.visible ((runAll [62, 32] steps' stage').flatMap Outcome.events) := by
  intro interrupt host stage stage' steps steps'
  have hinterrupt : ∀ after calls, (interrupt after calls).Interrupts := fun _ _ => ⟨_, rfl, rfl⟩
  have hchannel : ∀ most faults, most ≠ 0 → (∀ fault ∈ faults, fault.Interrupts) →
      (⟨some most, faults, none⟩ : Channel).Patient := fun most faults hmost hfaults =>
    ⟨fun hzero => hmost (Option.some.inj hzero), hfaults, rfl⟩
  have hsteps : List.Forall₂ Alike steps steps' := by
    refine .cons (.line _) (.cons (.session (by decide) .whole ?_) .nil)
    exact hchannel 1 _ (by decide) (by simp [hinterrupt])
  have hstage : stage.Alike stage' := by
    refine ⟨⟨rfl, fun sink => ?_⟩, ⟨rfl, fun sink => ?_⟩, rfl⟩
    · cases sink <;> exact .whole
    · cases sink with
      | output => exact hchannel 2 _ (by decide) (by simp [hinterrupt])
      | error => exact hchannel 1 _ (by decide) (by simp [hinterrupt])
      | prompt => exact .whole
  exact ⟨hsteps, hstage, runAll_alike [62, 32] hsteps hstage⟩

end Step

end LineShell
