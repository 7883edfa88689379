import LineShell.Proofs.Readback
/-!
# Reads whose prompt fails

A prompt that cannot be shown is the end of its read. Nothing has been fetched by then, so the stream is
still what it was, whatever part of its chunk has been used. The next read that gets its prompt out
therefore goes on where the last such read has stopped, and among any number of failures the reads that
get through are those of the stream read without prompts, one after the other.
-/

namespace LineShell

/-- What a channel fails with is never an interruption: an interrupted call is made again. -/
theorem Channel.not_interrupts_of_failure {message : Bytes} {channel : Channel} {error : IoError}
    (hfailure : (channel.deliver message).1.failure = some error) : ¬ error.interrupts := by
  fun_induction Channel.deliver message channel with
  | case1 channel => exact absurd hfailure.symm (Option.some_ne_none _)
  | case2 message channel hmessage channel' hcall =>
    rw [← Option.some.inj hfailure]
    decide
  | case3 message channel hmessage n channel' hcall rest channel'' hrest ih =>
    rw [hrest] at ih
    exact ih hfailure
  | case4 message channel hmessage error' channel' hcall hretry ih => exact ih hfailure
  | case5 message channel hmessage error' channel' hcall hretry =>
    rwa [← Option.some.inj hfailure]

namespace Stream

variable {ω : Type} [World ω]

/-! ### One read -/

theorem showPrompt_of_writeFailed {prompt : Bytes} {world : ω} {error : IoError}
    (hwrite : (World.deliver .prompt prompt world).1.failure = some error) :
    (showPrompt prompt).run world =
      ⟨some error, [.wrote .prompt (World.deliver .prompt prompt world).1.accepted,
        .writeFailed .prompt error], (World.deliver .prompt prompt world).2⟩ := by
  rw [showPrompt, Act.run_bind, Act.run_send]
  dsimp only
  rw [hwrite]
  rfl

theorem showPrompt_of_written {prompt : Bytes} {world : ω}
    (hwrite : (World.deliver .prompt prompt world).1.failure = none) :
    (showPrompt prompt).run world =
      let flushed := World.flush .prompt (World.deliver .prompt prompt world).2
      ⟨flushed.1, [.wrote .prompt prompt, flushed.1.elim (.flushed .prompt) (.flushFailed .prompt ·)],
        flushed.2⟩ := by
  have haccepted := (World.deliver_failure .prompt prompt world).1 hwrite
  rw [showPrompt, Act.run_bind, Act.run_send]
  dsimp only
  rw [hwrite, haccepted]
  dsimp only
  rw [Act.run_flush]
  rfl

/-- A read with its prompt, in each of the three ways that the prompt can go. -/
structure Prompted (prompt : Bytes) (stream : Stream) (world : ω)
    (read : Outcome ω (Reading × Stream)) : Prop where
  writeFailed : ∀ error, (World.deliver .prompt prompt world).1.failure = some error →
    read.value = (.failed (.io error), stream) ∧ ∃ accepted, accepted <+: prompt ∧
      read.events = [.wrote .prompt accepted, .writeFailed .prompt error]
  flushFailed : (World.deliver .prompt prompt world).1.failure = none →
    ∀ error, (World.flush .prompt (World.deliver .prompt prompt world).2).1 = some error →
      read.value = (.failed (.io error), stream) ∧
        read.events = [.wrote .prompt prompt, .flushFailed .prompt error]
  shown : (World.deliver .prompt prompt world).1.failure = none →
    (World.flush .prompt (World.deliver .prompt prompt world).2).1 = none →
      ReadsTo stream.answers read.value.1 read.value.2 ∧ ∃ trace : Trace, trace.IsRead ∧
        read.events = shownPrompt prompt ++ trace

theorem prompted_readLine (prompt : Bytes) (stream : Stream) (world : ω) :
    Prompted prompt stream world ((stream.readLine prompt).run world) := by
  refine ⟨fun error hwrite => ?_, fun hwrite error hflush => ?_, fun hwrite hflush => ?_⟩
  · have hprompt := showPrompt_of_writeFailed hwrite
    rw [readLine_of_failedPrompt (congrArg Outcome.value hprompt), hprompt]
    exact ⟨rfl, _, World.deliver_accepted .prompt prompt world, rfl⟩
  · have hprompt := showPrompt_of_written hwrite
    dsimp only at hprompt
    rw [hflush] at hprompt
    rw [readLine_of_failedPrompt (congrArg Outcome.value hprompt), hprompt]
    exact ⟨rfl, rfl⟩
  · have hprompt := showPrompt_of_written hwrite
    dsimp only at hprompt
    rw [hflush] at hprompt
    rw [readLine, Act.run_bind, hprompt]
    exact ⟨nextLine_value_iff.1 rfl, _, isRead_nextLine stream _, rfl⟩

/-! ### Many reads -/

/-- The reads for some prompts, each of the stream that the one before it has left. -/
def promptedReads : List Bytes → Stream → ω → List (Outcome ω (Reading × Stream))
  | [], _, _ => []
  | prompt :: prompts, stream, world =>
    let read := (stream.readLine prompt).run world
    read :: promptedReads prompts read.value.2 read.world

/-- Whether no channel has failed to show the prompt of a read. -/
def IsShown (read : Outcome ω (Reading × Stream)) : Bool :=
  read.events.all (·.promptFailure?.isNone)

def lastOf (stream : Stream) (reads : List (Outcome ω (Reading × Stream))) : Stream :=
  (reads.getLast?.map (·.value.2)).getD stream

omit [World ω] in
theorem lastOf_cons (stream : Stream) (read : Outcome ω (Reading × Stream))
    (reads : List (Outcome ω (Reading × Stream))) :
    lastOf stream (read :: reads) = lastOf read.value.2 reads := by
  rw [lastOf, List.getLast?_cons, lastOf]
  cases reads.getLast? <;> rfl

theorem Prompted.shown_or_failed {prompt : Bytes} {stream : Stream} {world : ω}
    {read : Outcome ω (Reading × Stream)} (hread : Prompted prompt stream world read) :
    (IsShown read ∧ ReadsTo stream.answers read.value.1 read.value.2) ∨
      (¬ IsShown read ∧ read.value.2 = stream) := by
  cases hwrite : (World.deliver .prompt prompt world).1.failure with
  | some error =>
    obtain ⟨hvalue, accepted, -, hevents⟩ := hread.writeFailed error hwrite
    exact .inr ⟨by simp [IsShown, hevents, Event.promptFailure?], congrArg Prod.snd hvalue⟩
  | none =>
    cases hflush : (World.flush .prompt (World.deliver .prompt prompt world).2).1 with
    | some error =>
      obtain ⟨hvalue, hevents⟩ := hread.flushFailed hwrite error hflush
      exact .inr ⟨by simp [IsShown, hevents, Event.promptFailure?], congrArg Prod.snd hvalue⟩
    | none =>
      obtain ⟨hreads, trace, htrace, hevents⟩ := hread.shown hwrite hflush
      have hnone : ∀ event ∈ trace, event.promptFailure?.isNone = true := fun event hevent => by
        rw [Event.promptFailure?_of_isOfRead (htrace.2 event hevent)]
        rfl
      refine .inl ⟨?_, hreads⟩
      rw [IsShown, hevents, List.all_append, List.all_eq_true.2 hnone]
      rfl

theorem readTimes_succ_value {stream rest : Stream} {reading : Reading}
    (hreads : ReadsTo stream.answers reading rest) (count : Nat) (world : ω) :
    ∃ world' : ω, ((readTimes (count + 1) stream).run world).value =
      (reading :: ((readTimes count rest).run world').value.1,
        ((readTimes count rest).run world').value.2) := by
  refine ⟨(stream.nextLine.run world).world, ?_⟩
  simp only [readTimes, Act.run_bind, Act.run_pure, nextLine_value_of_readsTo hreads]

/-- The reads that get through are the reads of the stream without prompts, in whatever world. -/
theorem promptedReads_filter (prompts : List Bytes) (stream : Stream) (world world' : ω) :
    ((readTimes ((promptedReads prompts stream world).filter IsShown).length stream).run world').value =
      (((promptedReads prompts stream world).filter IsShown).map (·.value.1),
        lastOf stream (promptedReads prompts stream world)) := by
  induction prompts generalizing stream world world' with
  | nil => rfl
  | cons prompt prompts ih =>
    rw [promptedReads, lastOf_cons]
    rcases (prompted_readLine prompt stream world).shown_or_failed with ⟨hshown, hreads⟩ | ⟨hfailed, hsame⟩
    · rw [List.filter_cons_of_pos hshown, List.length_cons, List.map_cons]
      obtain ⟨world'', hvalue⟩ := readTimes_succ_value hreads _ world'
      rw [hvalue, ih]
    · -- A failed read leaves the stream as it was, so it counts for nothing on either side.
      rw [List.filter_cons_of_neg hfailed, hsame, ih]

theorem length_promptedReads (prompts : List Bytes) (stream : Stream) (world : ω) :
    (promptedReads prompts stream world).length = prompts.length := by
  induction prompts generalizing stream world with
  | nil => rfl
  | cons prompt prompts ih => exact congrArg (· + 1) (ih _ _)

theorem readLines_eq (prompts : List Bytes) (stream : Stream) (world : ω) :
    let reads := promptedReads prompts stream world
    ((readLines prompts stream).run world).value = (reads.map (·.value.1), lastOf stream reads) ∧
      ((readLines prompts stream).run world).events = reads.flatMap Outcome.events := by
  induction prompts generalizing stream world with
  | nil => exact ⟨rfl, rfl⟩
  | cons prompt prompts ih =>
    obtain ⟨hvalue, hevents⟩ := ih ((stream.readLine prompt).run world).value.2
      ((stream.readLine prompt).run world).world
    intro reads
    have hreads : reads = (stream.readLine prompt).run world ::
      promptedReads prompts ((stream.readLine prompt).run world).value.2
        ((stream.readLine prompt).run world).world := rfl
    rw [hreads, lastOf_cons]
    simp only [readLines, Act.run_bind, Act.run_pure, List.append_nil, hvalue, hevents]
    exact ⟨rfl, rfl⟩

/-- A read whose prompt cannot be shown fails with the error of the channel, has fetched nothing and
leaves the stream as it was. The channel has taken a start of the prompt, and all of it if only the flush
has failed. A failed write is never an interruption, while any failure of a flush counts. Where the
prompt is shown it is out and flushed once before the first fetch. So of any reads with any failures among
them, those that get through give the readings of the stream read without prompts, and leave what those
leave. They are also the readings of as many reads with prompts that are all shown. -/
theorem promptedReads_shown (prompts : List Bytes) (stream : Stream) (world : ω) :
    let reads := promptedReads prompts stream world
    let through := reads.filter IsShown
    (∀ (prompt : Bytes) (stream : Stream) (world : ω),
        Prompted prompt stream world ((stream.readLine prompt).run world)) ∧
      (∀ (channel : Channel) (message : Bytes) (error : IoError),
        (channel.deliver message).1.failure = some error → ¬ error.interrupts) ∧
      (∀ world' : ω, ((readTimes through.length stream).run world').value =
        (through.map (·.value.1), lastOf stream reads)) ∧
      ∀ (prompts' : List Bytes) (world' : ω), prompts'.length = through.length →
        (∀ event ∈ ((readLines prompts' stream).run world').events, event.promptFailure? = none) →
          ((readLines prompts' stream).run world').value =
            (through.map (·.value.1), lastOf stream reads) := by
  intro reads through
  have hthrough : ∀ world' : ω, ((readTimes through.length stream).run world').value =
      (through.map (·.value.1), lastOf stream reads) :=
    promptedReads_filter prompts stream world
  refine ⟨prompted_readLine, fun _ _ _ => Channel.not_interrupts_of_failure, hthrough, ?_⟩
  intro prompts' world' hlength hshown
  obtain ⟨hvalue, hevents⟩ := readLines_eq prompts' stream world'
  have hall : (promptedReads prompts' stream world').filter IsShown = promptedReads prompts' stream world' := by
    refine List.filter_eq_self.2 fun read hread => List.all_eq_true.2 fun event hevent => ?_
    rw [hshown event (hevents ▸ List.mem_flatMap.2 ⟨read, hread, hevent⟩)]
    rfl
  have hothers := promptedReads_filter prompts' stream world' world'
  rw [hall, length_promptedReads, hlength, hthrough world'] at hothers
  exact hvalue.trans hothers.symm

end Stream

end LineShell
