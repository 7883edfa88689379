import LineShell.Machine.Station
import LineShell.Proofs.Arguments
import LineShell.Proofs.Dispatch
import LineShell.Proofs.Launch
import LineShell.Proofs.Record
/-!
# How the death of a child is told

A child dies by itself or by a signal. The kernel tells of it with a status word, behind any number of
stops, continuations and interrupted questions. A launch reads the word with the names that signals have,
and the real-time signals have none: where one of them has killed the child, the reading fails, and so
does the launch, although the child is gone. After any other death the launch comes to an end of the
program, and the error channel is left alone.
-/

namespace LineShell

/-- How a child can die: with an exit code, or by a signal, with a dump or without. The kernel numbers its
signals from 1 to 64. -/
inductive Death where
  | exited (code : Fin 256)
  | killed (number : Nat) (hfirst : 1 ≤ number) (hlast : number ≤ 64) (dumped : Bool)

/-- A world whose host launches programs through a kernel. -/
class NativeWorld (ω : Type) extends World ω, Kernel ω where
  launch_eq : ∀ words, (launch words : Act ω _) = Kernel.launch words

/-- A shell that runs as a process of a machine is in such a world. -/
example : NativeWorld Station :=
  { (inferInstance : World Station), (inferInstance : Kernel Station) with launch_eq := fun _ => rfl }

namespace Death

def word : Death → Nat
  | exited code => WaitStatus.exitWord code
  | killed number _ _ dumped => WaitStatus.killWord number + if dumped then 128 else 0

/-- The end of the program that a death means. A signal without a name means none. -/
def completion? : Death → Option Completion
  | exited code => some (.exited code.val)
  | killed number _ _ _ => (Signal.ofNumber? number).map .signaled

/-- Whether a child died by itself or by a signal that has a name. -/
def IsNamed : Death → Prop
  | exited _ => True
  | killed number _ _ _ => number ≤ 31

end Death

/-- An answer about a child that is not dead: the question was interrupted, or the child was stopped or
continued. -/
inductive Unfinished : Except Errno Nat → Prop
  | interrupted : Unfinished (.error .interrupted)
  | stopped (signal : Signal) : Unfinished (.ok (WaitStatus.stopWord signal.number))
  | continued : Unfinished (.ok 0xffff)

/-! ### Reading a status word -/

theorem Signal.ofNumber?_eq_none_iff {number : Nat} (hfirst : 1 ≤ number) :
    ofNumber? number = none ↔ 31 < number := by
  obtain ⟨place, rfl⟩ := Nat.exists_eq_add_of_le' hfirst
  have hlength : all.length = 31 := rfl
  rw [ofNumber?, List.getElem?_eq_none_iff, hlength]
  omega

namespace Death

theorem completion?_eq_none_iff (death : Death) : death.completion? = none ↔ ¬ death.IsNamed := by
  cases death with
  | exited code => simp [completion?, IsNamed]
  | killed number hfirst hlast dumped =>
    rw [completion?, Option.map_eq_none_iff, Signal.ofNumber?_eq_none_iff hfirst, IsNamed, Nat.not_le]

theorem decode_exited (code : Fin 256) :
    WaitStatus.decode (exited code).word = .ok (.exited code) := by
  have hlow : (exited code).word % 128 = 0 := by
    simp only [word, WaitStatus.exitWord]
    omega
  have hhigh : (exited code).word / 256 % 256 = code := by
    simp only [word, WaitStatus.exitWord]
    omega
  simp only [WaitStatus.decode, hlow, hhigh, if_true]

theorem decode_killed {number : Nat} (hfirst : 1 ≤ number) (hlast : number ≤ 64) (dumped : Bool) :
    WaitStatus.decode (killed number hfirst hlast dumped).word
      = (WaitStatus.signalOf number).map (.signaled · dumped) := by
  have hlow : (killed number hfirst hlast dumped).word % 128 = number := by
    cases dumped <;> simp [word, WaitStatus.killWord] <;> omega
  have hdumped : decide ((killed number hfirst hlast dumped).word / 128 % 2 = 1) = dumped := by
    cases dumped <;> simp [word, WaitStatus.killWord]
  have hkilled : number ≠ 0 ∧ number ≠ 127 := by omega
  simp only [WaitStatus.decode, hlow, hdumped, hkilled, if_false, if_true, ne_eq, not_false_eq_true]

end Death

namespace Kernel

theorem verdict?_death (pid : Nat) (death : Death) :
    verdict? pid (WaitStatus.decode death.word)
      = some (death.completion?.elim (.error (.wait pid .invalid)) .ok) := by
  cases death with
  | exited code =>
    rw [Death.decode_exited]
    rfl
  | killed number hfirst hlast dumped =>
    rw [Death.decode_killed, Death.completion?, WaitStatus.signalOf]
    cases Signal.ofNumber? number <;> rfl

theorem verdict?_unfinished (pid : Nat) {answer : Except Errno Nat} (hanswer : Unfinished answer) :
    verdict? pid (answer.bind WaitStatus.decode) = none := by
  cases hanswer with
  | interrupted => rfl
  | stopped signal => cases signal <;> rfl
  | continued => rfl

variable {ω : Type}

theorem awaitEnd_early [Logger ω] {pid : Nat} {early : List (Except Errno Nat)}
    (hearly : ∀ answer ∈ early, Unfinished answer) (rest : List (Except Errno Nat)) (world : ω) :
    ∃ world' : ω, ((awaitEnd pid (early ++ rest)).run world).value
      = ((awaitEnd pid rest).run world').value := by
  induction early generalizing world with
  | nil => exact ⟨world, rfl⟩
  | cons answer early ih =>
    obtain ⟨hanswer, hlater⟩ := List.forall_mem_cons.1 hearly
    obtain ⟨next, hnext, -⟩ :=
      awaitEnd_of_no_verdict (verdict?_unfinished pid hanswer) (early ++ rest) world
    obtain ⟨world', hvalue⟩ := ih hlater next
    exact ⟨world', hnext.trans hvalue⟩

variable [Kernel ω]

def answersOf (words : List Bytes) (pid : Nat) (world : ω) : List (Except Errno Nat) :=
  let noted := (Act.log (.launched pid (words.headD []))).run (Kernel.fork world).2
  (Kernel.life pid (preparedOf words) noted.world).1

/-- A launch comes to what the death of the child means, whatever was answered before it. -/
theorem launch_value_of_death {words : List Bytes} (hcommand : words ≠ [])
    (hwords : ∀ word ∈ words, 0 ∉ word) {world : ω} {pid : Nat} (hfork : (Kernel.fork world).1 = .ok pid)
    {early late : List (Except Errno Nat)} (hearly : ∀ answer ∈ early, Unfinished answer) {death : Death}
    (hanswers : answersOf words pid world = early ++ .ok death.word :: late) :
    ((launch words).run world).value = death.completion?.elim (.error (.wait pid .invalid)) .ok := by
  have hwaits : ∃ world' : ω, ((launch words).run world).value
      = ((awaitEnd pid (answersOf words pid world)).run world').value := by
    have hprogram : (preparedOf words).arguments.headD [] = words.headD [] := rfl
    rw [launch, prepare_of_no_nul hcommand hwords]
    simp only [execute, Act.run_bind, Act.run_emit, Act.run_update, hfork, hprogram]
    exact ⟨_, rfl⟩
  obtain ⟨asked, hasked⟩ := hwaits
  obtain ⟨last, hlast⟩ : ∃ last : ω, ((awaitEnd pid (early ++ .ok death.word :: late)).run asked).value
      = ((awaitEnd pid (.ok death.word :: late)).run last).value := awaitEnd_early hearly _ asked
  have hverdict : verdict? pid ((.ok death.word : Except Errno Nat).bind WaitStatus.decode) = _ :=
    verdict?_death pid death
  rw [hasked, hanswers, hlast, (awaitEnd_of_verdict hverdict late last).1]

end Kernel

namespace Session

variable {ω : Type} [World ω]

/-- A line leaves the error channel alone exactly if what it attempts does not fail. -/
theorem runLine_silent_iff (line : Bytes) (world : ω) :
    (∀ event ∈ ((runLine line).run world).events, event.sink? ≠ some .error) ↔
      ((attemptLine line).run world).value = none := by
  have hattempted : ∀ event ∈ ((attemptLine line).run world).events, event.sink? ≠ some .error :=
    Act.Within.events (within_attemptLine line) world
  have hevents : ((runLine line).run world).events = ((attemptLine line).run world).events
      ++ ((tell ((attemptLine line).run world).value).run ((attemptLine line).run world).world).events :=
    run_runLine line world
  rw [hevents, List.forall_mem_append, and_iff_right hattempted]
  cases ((attemptLine line).run world).value with
  | none => simp [tell]
  | some failure =>
    -- The name of the program is the first thing that is written.
    refine iff_of_false (fun hsilent => ?_) (Option.some_ne_none failure)
    have hwritten := hsilent (.wrote .error
      (World.deliver .error programName ((attemptLine line).run world).world).1.accepted) <| by
        simp [tell, Act.complain, Act.sendAll, Act.run_send]
    exact hwritten rfl

/-- The world in which the host is asked to launch the command of a line: the line is cut into words, and
the output is flushed. -/
def askedIn (line : Bytes) (world : ω) : ω :=
  ((do
    let _ ← tokenize line
    Act.flush .output >>= noteFlush : Act ω Unit).run world).world

theorem attemptLine_of_launch {line : Bytes} {words : List Bytes}
    (hcall : HostCall.ofWords? (wordsOf line) = some (.launch words)) (world : ω) :
    ((attemptLine line).run world).value =
      match ((World.launch words).run (askedIn line world)).value with
      | .ok _ => none
      | .error failure => some (.launch failure) := by
  have hasked : askedIn line world = flushedWorld ((tokenize line).run world).world :=
    run_flush_noteFlush_world _
  rw [attemptLine_value, ← attempt_value, attempt_of_launch hcall, hasked]
  exact attemptLaunch_value words _

end Session

namespace NativeWorld

open Session

/-- Whatever was answered about a child before its death, the launch comes to an end of the program and
the line leaves the error channel alone, unless the child was killed by a signal without a name. If it
was, the launch fails as if the kernel could not be asked about the child, and the line reports that. -/
theorem runLine_of_death {ω : Type} [NativeWorld ω] {line : Bytes} {words : List Bytes}
    (hcall : HostCall.ofWords? (wordsOf line) = some (.launch words)) (hline : 0 ∉ line) {world : ω}
    {pid : Nat} (hfork : (Kernel.fork (askedIn line world)).1 = .ok pid)
    {early late : List (Except Errno Nat)} (hearly : ∀ answer ∈ early, Unfinished answer) {death : Death}
    (hanswers : Kernel.answersOf words pid (askedIn line world) = early ++ .ok death.word :: late) :
    let launched := (Kernel.launch words).run (askedIn line world)
    let command := (runLine line).run world
    (∀ completion, death.completion? = some completion → launched.value = .ok completion) ∧
      (death.completion? = none → launched.value = .error (.wait pid .invalid)) ∧
      (death.completion? = none ↔ ¬ death.IsNamed) ∧
      command.value = .next ∧
      ((∀ event ∈ command.events, event.sink? ≠ some .error) ↔ death.IsNamed) := by
  intro launched command
  obtain ⟨hwordsOf, hcommand, hother⟩ := HostCall.ofWords?_eq_launch_iff.1 hcall
  have hnul : ∀ word ∈ words, 0 ∉ word := by
    intro word hword hmem
    rw [← hwordsOf] at hword
    exact hline ((exists_mem_wordsOf nul_not_mem_delimiters).1 ⟨word, hword, hmem⟩)
  have hvalue : launched.value = death.completion?.elim (.error (.wait pid .invalid)) .ok :=
    Kernel.launch_value_of_death (hwordsOf ▸ hcommand) hnul hfork hearly hanswers
  have hattempted : ((attemptLine line).run world).value = none ↔ death.IsNamed := by
    rw [attemptLine_of_launch hcall, launch_eq]
    change (match launched.value with
      | .ok _ => none
      | .error failure => some (Failure.launch failure)) = none ↔ _
    have hnamed := death.completion?_eq_none_iff
    cases hcompletion : death.completion? <;> simp_all
  refine ⟨fun completion hcompletion => ?_, fun hnone => ?_, death.completion?_eq_none_iff, ?_, ?_⟩
  · rw [hvalue, hcompletion, Option.elim_some]
  · rw [hvalue, hnone, Option.elim_none]
  · refine flow_of_not_isExit (decide_eq_false fun hexit => ?_) world
    exact hother _ hexit (by simp)
  · rw [runLine_silent_iff, hattempted]

end NativeWorld

/-- A stage with a kernel. All children get one number, and the same is answered about each. -/
structure Ward where
  stage : Stage
  answers : List (Except Errno Nat)

namespace Ward

instance : Kernel Ward where
  wants entry ward := ward.stage.logs entry.level
  keep _ ward := ward
  fork ward := (.ok 7, ward)
  life _ _ ward := (ward.answers, ward)

instance : NativeWorld Ward where
  toKernel := inferInstance
  deliver sink message ward :=
    let (delivery, stage) := ward.stage.deliver sink message
    (delivery, ⟨stage, ward.answers⟩)
  flush sink ward := ((ward.stage.channel sink).flush, ward)
  changeDirectory _ ward := (none, ward)
  launch := Kernel.launch
  deliver_accepted sink message ward := Channel.deliver_accepted message (ward.stage.channel sink)
  deliver_failure sink message ward := Channel.deliver_failure message (ward.stage.channel sink)
  launch_events := Kernel.launch_events
  launch_eq _ := rfl

end Ward

/-- A child that is stopped, asked about in vain and continued before it is killed. -/
theorem NativeWorld.runLine_of_death_stopped :
    let death : Death := .killed 9 (by decide) (by decide) true
    let ward : Ward := ⟨.plain, [.ok (WaitStatus.stopWord Signal.stop.number), .error .interrupted,
      .ok 0xffff, .ok death.word]⟩
    let line := Bytes.ofString "sleep 9"
    ((Kernel.launch (wordsOf line)).run (Session.askedIn line ward)).value = .ok (.signaled .kill) ∧
      ((Session.runLine line).run ward).value = .next ∧
      ∀ event ∈ ((Session.runLine line).run ward).events, event.sink? ≠ some .error := by
  intro death ward line
  have hcall : HostCall.ofWords? (wordsOf line) = some (.launch (wordsOf line)) := by decide
  have hearly : ∀ answer ∈ [.ok (WaitStatus.stopWord Signal.stop.number), .error .interrupted, .ok 0xffff],
      Unfinished answer := by
    simp only [List.forall_mem_cons]
    exact ⟨.stopped .stop, .interrupted, .continued, List.forall_mem_nil _⟩
  have hfork : (Kernel.fork (Session.askedIn line ward)).1 = .ok 7 := rfl
  have hanswers : Kernel.answersOf (wordsOf line) 7 (Session.askedIn line ward)
      = [.ok (WaitStatus.stopWord Signal.stop.number), .error .interrupted, .ok 0xffff]
        ++ .ok death.word :: [] := rfl
  obtain ⟨hended, -, -, hnext, hsilent⟩ := runLine_of_death hcall (by decide) hfork hearly hanswers
  exact ⟨hended _ rfl, hnext, hsilent.2 (by decide : 9 ≤ 31)⟩

/-- A child that a real-time signal has killed is dead, and is reported as one that cannot be waited
for. -/
theorem NativeWorld.runLine_of_death_unnamed :
    let death : Death := .killed 50 (by decide) (by decide) false
    let ward : Ward := ⟨.plain, [.ok death.word]⟩
    let line := Bytes.ofString "./k.sh"
    ((Kernel.launch (wordsOf line)).run (Session.askedIn line ward)).value = .error (.wait 7 .invalid) ∧
      ((Session.runLine line).run ward).events.accepted .error
        = Bytes.ofString "lish: waiting for process 7 failed: EINVAL: Invalid argument\n" := by
  decide +kernel

end LineShell
