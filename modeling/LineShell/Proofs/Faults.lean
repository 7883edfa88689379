import LineShell.Program
import LineShell.Proofs.Environment
/-!
# Faults that end a session

Two things end a session before its input does: a failure of the stream that is no interruption, and
a prompt that cannot be shown. Either comes at some place among the lines. The lines in front of it
are run as if it did not exist, the line it falls into is dropped, and nothing behind it is read. If
a line in front of it leaves the session, or the input is at its end there, the fault is never met.

No other failure ends a session, so the code of the program tells whether such a fault was met.
-/

namespace LineShell

namespace Program

variable {σ ω : Type} [World ω] [LineSource σ ω]

/-- Whether the failure that a session ended with, if any, has been told on the error channel. -/
def Told (session : Outcome ω (Session.End σ)) : Prop :=
  ∀ error, session.value.result = .error error →
    ((Act.complain error.message).run session.world).value = none

theorem runSession_code (prompt : Bytes) (source : σ) (world : ω) :
    let session := (Session.run prompt source).run world
    let code := ((runSession prompt source).run world).value
    (code = 0 ↔ ∃ termination, session.value.result = .ok termination) ∧
      (code = 1 ↔ (∃ error, session.value.result = .error error) ∧ Told session) ∧
      (code = givenUp ↔ ¬ Told session) := by
  intro session code
  have hcode : code = ((conclude session.value.result).run session.world).value := rfl
  unfold Told
  rw [hcode]
  cases session.value.result with
  | ok termination => simp [conclude, givenUp]
  | error error =>
    cases htold : ((Act.complain error.message).run session.world).value <;>
      simp [conclude, codeAfter, givenUp, htold]

end Program

namespace Session

variable {ω ε : Type} [World ω]

theorem iterate_result {readings : List Reading} (hreadings : ∀ error, .failed error ∉ readings)
    (world : ω) : ∃ termination, (iterate readings world).result = .ok termination := by
  induction readings generalizing world with
  | nil => exact ⟨_, rfl⟩
  | cons reading rest ih =>
    cases reading with
    | failed error => exact absurd List.mem_cons_self (hreadings error)
    | endOfInput => exact ⟨_, rfl⟩
    | line line =>
      have hrest : ∀ error, .failed error ∉ rest := fun error hmem =>
        hreadings error (List.mem_cons_of_mem _ hmem)
      cases hexit : isExit line.bytes with
      | true =>
        rw [iterate_line_of_isExit hexit]
        exact ⟨_, rfl⟩
      | false =>
        rw [iterate_line_of_not_isExit hexit]
        exact ih hrest _

theorem iterate_of_failed {front : List Reading} (hfront : ∀ reading ∈ front, reading.goesOn)
    (error : ShellError) (rest : List Reading) (world : ω) :
    iterate (front ++ .failed error :: rest) world =
      ⟨.error error, (iterate front world).traces, (iterate front world).world, rest⟩ := by
  rw [iterate_append_of_goesOn hfront]
  simp [iterate]

/-- How a session meets a fault behind a number of lines. Either the stream fails where `front` is
read and `back` is not, or a prompt cannot be shown and that is the last thing done. -/
inductive Meets (prompt : Bytes) (front back : List Mark) (fault : Option IoError)
    (session : Outcome ω (End Stream)) : Nat → IoError → Prop where
  | read {error : IoError} (hfault : fault = some error)
      (hprompts : session.events.ofPrompt
        = shownPrompts ((Stream.readings [] front).length + 1) prompt)
      (hback : session.value.source.marks = back) :
      Meets prompt front back fault session (Stream.readings [] front).length error
  | prompt {count : Nat} {error : IoError} {ending : Trace} (hending : FailedPrompt error ending)
      (hlast : ending <:+ session.events)
      (hprompts : session.events.ofPrompt = shownPrompts count prompt ++ ending)
      (hback : session.value.source.marks
        = Stream.behind count (front ++ (fault.toList.map .failure ++ back))) :
      Meets prompt front back fault session count error

/-- A session that has met a fault. It fails with just that error, and to the environment it is the
lines that were read before, which all go on. -/
structure Ended (environment : World.Environment ω ε) (lines : List Reading) (number : Nat)
    (error : IoError) (world : ω) (session : Outcome ω (End Stream)) : Prop where
  result : session.value.result = .error (.io error)
  enough : number ≤ lines.length
  goesOn : ∀ reading ∈ lines.take number, reading.goesOn
  events : session.events.environment
    = Trace.environment (iterate (lines.take number) world).traces.flatten
  part : environment.part session.world = environment.part (iterate (lines.take number) world).world

/-- A session that has met no fault although there may be one: its prompts were shown, and a line or
the end of the input has ended it before a failure of the stream. It goes as without the fault. -/
structure Unmet (environment : World.Environment ω ε) (front : List Mark) (fault : Option IoError)
    (sound cut : Outcome ω (End Stream)) : Prop where
  shown : ∀ event ∈ cut.events, event.promptFailure? = none
  ended : fault.isSome → ∃ reading ∈ Stream.readings [] front, ¬ reading.goesOn
  result : cut.value.result = sound.value.result
  events : cut.events.environment = sound.events.environment
  part : environment.part cut.world = environment.part sound.world

section Cases

variable {environment : World.Environment ω ε} {prompt : Bytes} {front back marks marks' : List Mark}
  {fault : Option IoError} {sound cut : Outcome ω (End Stream)} {alone : Iteration ω}

theorem unmet_of_sound
    (hended : fault.isSome → ∃ reading ∈ Stream.readings [] front, ¬ reading.goesOn)
    (hsound : Sound environment prompt marks alone sound)
    (hcut : Sound environment prompt marks' alone cut) : Unmet environment front fault sound cut :=
  ⟨hcut.shown, hended, hcut.result.trans hsound.result.symm, hcut.events.trans hsound.events.symm,
    hcut.part.trans hsound.part.symm⟩

/-- A failure of the stream behind lines that all go on. -/
theorem met_of_goesOn {error : IoError} {rest : List Reading} {world : ω}
    (hgo : ∀ reading ∈ Stream.readings [] front, reading.goesOn)
    (hcut : Sound environment prompt (front ++ .failure error :: back)
      (iterate (Stream.readings [] front ++ .failed (.io error) :: rest) world) cut)
    (later : List Reading) :
    Meets prompt front back (some error) cut (Stream.readings [] front).length error ∧
      Ended environment (Stream.readings [] front ++ later) (Stream.readings [] front).length error
        world cut := by
  obtain ⟨-, hlength⟩ := iterate_of_goesOn hgo world
  rw [iterate_of_failed hgo] at hcut
  have hprompts := hcut.prompts
  have hsource := hcut.source
  simp only [Iteration.requests, hlength] at hprompts hsource
  rw [Stream.behind_failure] at hsource
  refine ⟨.read rfl hprompts hsource, hcut.result, ?_, ?_, ?_, ?_⟩
  · rw [List.length_append]
    exact Nat.le_add_right _ _
  · rwa [List.take_left]
  · rw [List.take_left]
    exact hcut.events
  · rw [List.take_left]
    exact hcut.part

/-- Where all prompts are shown, either the session ends in front of the failure of its stream, or
that failure ends it. -/
theorem unmet_or_met_of_sound {error : IoError} {world : ω}
    (hsound : Sound environment prompt marks (iterate (Stream.readings [] (front ++ back)) world) sound)
    (hcut : Sound environment prompt (front ++ .failure error :: back)
      (iterate (Stream.readings [] (front ++ .failure error :: back)) world) cut) :
    Unmet environment front (some error) sound cut ∨
      ∃ number, Meets prompt front back (some error) cut number error ∧
        Ended environment (Stream.readings [] (front ++ back)) number error world cut := by
  rw [Stream.readings_append] at hsound hcut ⊢
  rw [Stream.readings_failure] at hcut
  by_cases hends : ∃ reading ∈ Stream.readings [] front, ¬ reading.goesOn
  · rw [iterate_append_of_ends hends] at hsound hcut
    exact .inl (unmet_of_sound (fun _ => hends) (hsound.withUnread []) (hcut.withUnread []))
  · have hgo : ∀ reading ∈ Stream.readings [] front, reading.goesOn := by simpa using hends
    exact .inr ⟨_, met_of_goesOn hgo hcut _⟩

/-- What was done before the fault is the first part of what is done without it. -/
theorem Ended.events_prefix {lines : List Reading} {number : Nat} {error : IoError} {world : ω}
    (hcut : Ended environment lines number error world cut)
    (hsound : Sound environment prompt marks (iterate lines world) sound) :
    cut.events.environment <+: sound.events.environment := by
  have hsplit := iterate_append_of_goesOn hcut.goesOn (lines.drop number) world
  rw [List.take_append_drop] at hsplit
  rw [hcut.events, hsound.events, hsplit]
  dsimp only
  rw [List.flatten_append, Trace.environment_append]
  exact List.prefix_append _ _

/-- Readings that go on stand in front of one that does not. -/
theorem le_length_of_goesOn {number : Nat} {lines rest : List Reading} {reading : Reading}
    (hreading : ¬ reading.goesOn)
    (hgo : ∀ other ∈ (lines ++ reading :: rest).take number, other.goesOn) :
    number ≤ lines.length := by
  by_contra hmore
  obtain ⟨more, hnumber⟩ := Nat.exists_eq_add_of_lt (Nat.lt_of_not_le hmore)
  refine hreading (hgo reading ?_)
  rw [hnumber, Nat.add_assoc, List.take_length_add_append, List.take_succ_cons]
  exact List.mem_append_right _ List.mem_cons_self

theorem take_readings_of_goesOn {number : Nat}
    (henough : number ≤ (Stream.readings [] (front ++ (fault.toList.map .failure ++ back))).length)
    (hgo : ∀ reading ∈ (Stream.readings [] (front ++ (fault.toList.map .failure ++ back))).take number,
      reading.goesOn) :
    number ≤ (Stream.readings [] (front ++ back)).length ∧
      (Stream.readings [] (front ++ (fault.toList.map .failure ++ back))).take number
        = (Stream.readings [] (front ++ back)).take number := by
  cases fault with
  | none => exact ⟨henough, rfl⟩
  | some error =>
    have hfailed : ¬ (Reading.failed (.io error)).goesOn := Bool.false_ne_true
    rw [Stream.readings_append] at hgo ⊢
    have hless := le_length_of_goesOn hfailed hgo
    rw [Stream.readings_append, List.length_append, List.take_append_of_le_length hless,
      List.take_append_of_le_length hless]
    exact ⟨Nat.le_add_right_of_le hless, rfl⟩

end Cases

/-- Take a session whose input does not fail and whose prompts are shown. It ends in good order,
whatever becomes of the output, the error channel and the host. Now let the stream fail for good at
any place, or the channel for prompts at any time. If the fault is not met, the session ends in the
same way and does the same to the environment. If it is met, the session fails with the error of the
fault, and to the environment it is the lines that were read completely before, a first part of what
was done without the fault. The code of the program is 1 exactly if its session has failed and that
could be told. -/
theorem run_of_fault (environment : World.Environment ω ε) (reliable : World.Reliable ω .prompt)
    (prompt : Bytes) {plain faulty : List Chunk} {front back : List Mark} {fault : Option IoError}
    (hplain : Stream.marksOf plain = front ++ back) (hnone : ∀ error, .failure error ∉ front ++ back)
    (hfaulty : Stream.marksOf faulty = front ++ (fault.toList.map .failure ++ back)) {world world' : ω}
    (hworld : reliable.holds world) (hsame : environment.part world' = environment.part world) :
    let lines := Stream.readings [] (front ++ back)
    let sound := (run prompt (Stream.ofChunks plain)).run world
    let cut := (run prompt (Stream.ofChunks faulty)).run world'
    let code := ((Program.runSession prompt (Stream.ofChunks faulty)).run world').value
    (∃ termination, sound.value.result = .ok termination) ∧
      (Unmet environment front fault sound cut ∨
        ∃ number error, Meets prompt front back fault cut number error ∧
          Ended environment lines number error world cut ∧
          cut.events.environment <+: sound.events.environment) ∧
      (code = 0 ↔ ∃ termination, cut.value.result = .ok termination) ∧
      (code = 1 ↔ (∃ error, cut.value.result = .error error) ∧ Program.Told cut) := by
  intro lines sound cut code
  have hreadings : Stream.readings [] (Stream.ofChunks plain).marks = lines :=
    congrArg (Stream.readings []) hplain
  have hsound := run_iterate environment reliable prompt hreadings hworld rfl
  obtain ⟨hzero, hone, -⟩ := Program.runSession_code prompt (Stream.ofChunks faulty) world'
  refine ⟨?_, ?_, hzero, hone⟩
  · have hgood : ∀ error, .failed error ∉ lines := fun error hmem => by
      obtain ⟨cause, hcause⟩ := Stream.exists_failure_mem hmem
      exact hnone cause hcause
    obtain ⟨termination, hresult⟩ := iterate_result hgood world
    exact ⟨termination, hsound.result.trans hresult⟩
  · have hmarks : (Stream.ofChunks faulty).marks
        = front ++ (fault.toList.map .failure ++ back) := hfaulty
    have hcuts := runFrom_iterate environment prompt (congrArg (Stream.readings []) hmarks) hsame
    rw [hmarks] at hcuts
    rcases hcuts with hcut | ⟨number, error, henough, hgo, hcut⟩
    · cases fault with
      | none => exact .inl (unmet_of_sound (absurd · Bool.false_ne_true) hsound hcut)
      | some error =>
        rcases unmet_or_met_of_sound hsound hcut with hunmet | ⟨number, hmet, hended⟩
        · exact .inl hunmet
        · exact .inr ⟨number, error, hmet, hended, hended.events_prefix hsound⟩
    · obtain ⟨hnumber, htake⟩ := take_readings_of_goesOn henough hgo
      rw [htake] at hgo hcut
      obtain ⟨ending, hending, hlast, hprompts⟩ := hcut.prompts
      have hended : Ended environment lines number error world cut :=
        ⟨hcut.result, hnumber, hgo, hcut.events, hcut.part⟩
      exact .inr ⟨number, error, .prompt hending hlast hprompts hcut.source, hended,
        hended.events_prefix hsound⟩

/-- A stream that fails within the second of its lines, where everything but the prompt fails too. No
line in front of the failure leaves the session, so the failure is met. -/
theorem run_of_fault_refusing :
    let front : List Mark := (Bytes.ofString "help\ncd").map .byte
    let back : List Mark := (Bytes.ofString " x\nls\n").map .byte
    let plain : List Chunk := [.bytes (Bytes.ofString "help\ncd x\nls\n")]
    let faulty : List Chunk := [.bytes (Bytes.ofString "hel"), .bytes (Bytes.ofString "p\ncd"),
      .failure (.plain .timedOut), .bytes (Bytes.ofString " x\nls\n")]
    let sound := (run [36] (Stream.ofChunks plain)).run Stage.refusing
    let cut := (run [36] (Stream.ofChunks faulty)).run Stage.refusing
    (∃ termination, sound.value.result = .ok termination) ∧
      ∃ number error, Meets [36] front back (some (.plain .timedOut)) cut number error ∧
        cut.value.result = .error (.io error) ∧
        cut.events.environment <+: sound.events.environment := by
  intro front back plain faulty sound cut
  have hplain : Stream.marksOf plain = front ++ back := by decide
  have hfaulty : Stream.marksOf faulty
      = front ++ ((some (IoError.plain .timedOut)).toList.map .failure ++ back) := by decide
  have hnone : ∀ error, .failure error ∉ front ++ back := by simp [front, back]
  have hgo : ∀ reading ∈ Stream.readings [] front, reading.goesOn := by decide
  have hstage : (Stage.reliable .prompt).holds .refusing := rfl
  obtain ⟨hgood, hmet, -⟩ := run_of_fault Stage.environment (Stage.reliable .prompt) [36] hplain hnone
    hfaulty hstage rfl
  refine ⟨hgood, ?_⟩
  rcases hmet with hunmet | ⟨number, error, hmeets, hended, hprefix⟩
  · obtain ⟨reading, hreading, hends⟩ := hunmet.ended rfl
    exact absurd (hgo reading hreading) hends
  · exact ⟨number, error, hmeets, hended.result, hprefix⟩

end Session

end LineShell
