import LineShell.Launch.Native
/-!
# Waiting for a child

A launch makes one child at most, and that child is all it ever waits for. Of the answers to its
questions the first one that ends the wait decides: the child has exited or was killed, or the kernel
has failed other than by an interruption. Any number of stops, continuations and interruptions may
come before, in any order, and each costs one more question. Behind the answer that decides nothing is
asked, since the child is gone and its number may belong to another process by then.

A command that has no words, or a word with a NUL byte, never comes as far as making a child.
-/

namespace LineShell

def Event.isOfKernel : Event → Bool
  | .forked | .waited _ => true
  | _ => false

def Trace.kernelCalls (trace : Trace) : Trace := trace.filter Event.isOfKernel

theorem Trace.kernelCalls_append (front rest : Trace) :
    Trace.kernelCalls (front ++ rest) = front.kernelCalls ++ rest.kernelCalls :=
  List.filter_append front rest

/-! ### Words that can be handed over -/

theorem firstNul_eq_none_iff {word : Bytes} : firstNul word = none ↔ 0 ∉ word := by
  rw [firstNul, List.findIdx?_eq_none_iff]
  constructor
  · intro hword hnul
    simpa using hword 0 hnul
  · intro hnul byte hbyte
    have hne : byte ≠ 0 := fun hzero => hnul (hzero ▸ hbyte)
    simpa using hne

theorem argumentList_of_no_nul {words : List Bytes} (hwords : ∀ word ∈ words, 0 ∉ word) :
    argumentList words = .ok words := by
  induction words with
  | nil => rfl
  | cons word rest ih =>
    obtain ⟨hword, hrest⟩ := List.forall_mem_cons.1 hwords
    rw [argumentList, firstNul_eq_none_iff.2 hword, ih hrest]
    rfl

theorem argumentList_of_nul {front : List Bytes} (hfront : ∀ word ∈ front, 0 ∉ word) {word : Bytes}
    {position : Nat} (hword : firstNul word = some position) (back : List Bytes) :
    argumentList (front ++ word :: back) = .error ⟨position⟩ := by
  induction front with
  | nil =>
    rw [List.nil_append, argumentList, hword]
  | cons other front ih =>
    obtain ⟨hother, hrest⟩ := List.forall_mem_cons.1 hfront
    rw [List.cons_append, argumentList, firstNul_eq_none_iff.2 hother, ih hrest]
    rfl

/-- The first of some words that holds a NUL byte, with the place of its first one. -/
theorem exists_first_nul {words : List Bytes} (hnul : ∃ word ∈ words, 0 ∈ word) :
    ∃ front word back position, words = front ++ word :: back ∧ (∀ other ∈ front, 0 ∉ other) ∧
      firstNul word = some position := by
  have hfound : (words.find? fun word => (firstNul word).isSome).isSome := by
    obtain ⟨word, hword, hbyte⟩ := hnul
    have hsome : firstNul word ≠ none := fun hnone => firstNul_eq_none_iff.1 hnone hbyte
    exact List.find?_isSome.2 ⟨word, hword, Option.isSome_iff_ne_none.2 hsome⟩
  obtain ⟨word, hword⟩ := Option.isSome_iff_exists.1 hfound
  obtain ⟨hsome, front, back, hsplit, hfront⟩ := List.find?_eq_some_iff_append.1 hword
  obtain ⟨position, hposition⟩ := Option.isSome_iff_exists.1 hsome
  refine ⟨front, word, back, position, hsplit, fun other hother => ?_, hposition⟩
  have hnone := hfront other hother
  apply firstNul_eq_none_iff.1
  simpa using hnone

namespace Kernel

/-- What an answer about a child makes of its launch, if it ends the wait. -/
def verdict? (pid : Nat) : Except Errno WaitStatus → Option (Except LaunchError Completion)
  | .ok (.exited code) => some (.ok (.exited code))
  | .ok (.signaled signal _) => some (.ok (.signaled signal))
  | .ok _ => none
  | .error errno => if errno = .interrupted then none else some (.error (.wait pid errno))

/-- All that the kernel answers about a child, with the status words decoded. In the end there is no
such child. -/
def outcomes (answers : List (Except Errno Nat)) : List (Except Errno WaitStatus) :=
  answers.map (·.bind WaitStatus.decode) ++ [.error .noChild]

variable {ω : Type}

theorem kernelCalls_log [Logger ω] (entry : Log.Entry) (world : ω) :
    Trace.kernelCalls ((Act.log entry).run world).events = [] := by
  change Trace.kernelCalls (Act.log entry world).events = []
  unfold Act.log
  split <;> rfl

section Wait

variable [Logger ω] {pid : Nat} {answer : Except Errno Nat}

/-- An answer that ends the wait is the last one asked for. -/
theorem awaitEnd_of_verdict {result : Except LaunchError Completion}
    (hanswer : verdict? pid (answer.bind WaitStatus.decode) = some result)
    (rest : List (Except Errno Nat)) (world : ω) :
    ((awaitEnd pid (answer :: rest)).run world).value = result ∧
      Trace.kernelCalls ((awaitEnd pid (answer :: rest)).run world).events = [.waited pid] := by
  simp only [awaitEnd, Act.run_bind, Act.run_emit, Trace.kernelCalls_append]
  generalize answer.bind WaitStatus.decode = outcome at hanswer ⊢
  cases outcome with
  | error errno =>
    simp only [verdict?] at hanswer
    split at hanswer <;> rename_i hretry
    · simp at hanswer
    · dsimp only
      rw [if_neg hretry]
      exact ⟨Option.some.inj hanswer, rfl⟩
  | ok status =>
    cases status with
    | exited | signaled =>
      simp only [Act.run_bind, Act.run_pure, List.append_nil, kernelCalls_log]
      exact ⟨Option.some.inj hanswer, rfl⟩
    | stopped | traced | tracedCall | continued => simp [verdict?] at hanswer

/-- Any other answer costs one question, and the wait goes on. -/
theorem awaitEnd_of_no_verdict (hanswer : verdict? pid (answer.bind WaitStatus.decode) = none)
    (rest : List (Except Errno Nat)) (world : ω) :
    ∃ world' : ω, ((awaitEnd pid (answer :: rest)).run world).value
        = ((awaitEnd pid rest).run world').value ∧
      Trace.kernelCalls ((awaitEnd pid (answer :: rest)).run world).events
        = .waited pid :: Trace.kernelCalls ((awaitEnd pid rest).run world').events := by
  simp only [awaitEnd, Act.run_bind, Act.run_emit, Trace.kernelCalls_append]
  generalize answer.bind WaitStatus.decode = outcome at hanswer ⊢
  cases outcome with
  | error errno =>
    simp only [verdict?] at hanswer
    split at hanswer <;> rename_i hretry
    · dsimp only
      rw [if_pos hretry]
      exact ⟨world, rfl, rfl⟩
    · simp at hanswer
  | ok status =>
    cases status with
    | exited | signaled => simp [verdict?] at hanswer
    | stopped | traced | tracedCall | continued =>
      simp only [Act.run_bind, Trace.kernelCalls_append, kernelCalls_log]
      exact ⟨_, rfl, rfl⟩

/-- The wait ends at the first answer that can end it, and has asked once for each answer up to
that one. -/
theorem awaitEnd_decided (pid : Nat) (answers : List (Except Errno Nat)) (world : ω) :
    ∃ early last late, outcomes answers = early ++ last :: late ∧
      (∀ outcome ∈ early, verdict? pid outcome = none) ∧
      verdict? pid last = some ((awaitEnd pid answers).run world).value ∧
      Trace.kernelCalls ((awaitEnd pid answers).run world).events
        = List.replicate (early.length + 1) (.waited pid) := by
  -- Each answer is used up by one question, until one of them ends the wait.
  induction answers generalizing world with
  | nil => exact ⟨[], .error .noChild, [], rfl, List.forall_mem_nil _, rfl, rfl⟩
  | cons answer rest ih =>
    cases hanswer : verdict? pid (answer.bind WaitStatus.decode) with
    | some result =>
      obtain ⟨hvalue, hcalls⟩ := awaitEnd_of_verdict hanswer rest world
      refine ⟨[], answer.bind WaitStatus.decode, outcomes rest, rfl, List.forall_mem_nil _, ?_, hcalls⟩
      rw [hanswer, hvalue]
    | none =>
      obtain ⟨world', hvalue, hcalls⟩ := awaitEnd_of_no_verdict hanswer rest world
      obtain ⟨early, last, late, hsplit, hearly, hlast, hlater⟩ := ih world'
      refine ⟨answer.bind WaitStatus.decode :: early, last, late, ?_,
        List.forall_mem_cons.2 ⟨hanswer, hearly⟩, ?_, ?_⟩
      · rw [List.cons_append, ← hsplit]
        rfl
      · rw [hlast, hvalue]
      · rw [hcalls, hlater]
        rfl

end Wait

def preparedOf (words : List Bytes) : Prepared :=
  ⟨words, programName ++ Bytes.ofString ": " ++ words.headD [] ++ Bytes.ofString ": "⟩

theorem prepare_of_no_nul {words : List Bytes} (hcommand : words ≠ [])
    (hwords : ∀ word ∈ words, 0 ∉ word) : prepare words = .ok (preparedOf words) := by
  cases words with
  | nil => exact absurd rfl hcommand
  | cons program arguments => rw [prepare, argumentList_of_no_nul hwords]; rfl

theorem prepare_of_nul {front : List Bytes} (hfront : ∀ word ∈ front, 0 ∉ word) {word : Bytes}
    {position : Nat} (hword : firstNul word = some position) (back : List Bytes) :
    prepare (front ++ word :: back) = .error (.nul ⟨position⟩) := by
  have hlist := argumentList_of_nul hfront hword back
  cases front with
  | nil =>
    rw [List.nil_append] at hlist ⊢
    rw [prepare, hlist]
  | cons program front =>
    rw [List.cons_append] at hlist ⊢
    rw [prepare, hlist]

variable [Kernel ω]

/-- All that the kernel answers about the child that a launch of a command makes. -/
def outcomesOf (words : List Bytes) (pid : Nat) (world : ω) : List (Except Errno WaitStatus) :=
  let noted := (Act.log (.launched pid (words.headD []))).run (Kernel.fork world).2
  outcomes (Kernel.life pid (preparedOf words) noted.world).1

/-- A launch that is refused beforehand does nothing at all. One for which no child can be made waits
for nothing. Any other waits for the child it has made, and only for that one: until the first answer
that ends the wait, which also decides what the launch comes to, and with one question for each
answer up to it. -/
theorem launch_waits (words : List Bytes) (world : ω) :
    let launched := (launch words).run world
    (words = [] → launched = ⟨.error .emptyCommand, [], world⟩) ∧
      ((∃ word ∈ words, 0 ∈ word) →
        ∃ front word back position, words = front ++ word :: back ∧ (∀ other ∈ front, 0 ∉ other) ∧
          firstNul word = some position ∧ launched = ⟨.error (.nul ⟨position⟩), [], world⟩) ∧
      (words ≠ [] → (∀ word ∈ words, 0 ∉ word) →
        (∀ errno, (Kernel.fork world).1 = .error errno →
          launched = ⟨.error (.fork errno), [.forked], (Kernel.fork world).2⟩) ∧
        ∀ pid, (Kernel.fork world).1 = .ok pid →
          ∃ early last late, outcomesOf words pid world = early ++ last :: late ∧
            (∀ outcome ∈ early, verdict? pid outcome = none) ∧
            verdict? pid last = some launched.value ∧
            launched.events.kernelCalls
              = .forked :: List.replicate (early.length + 1) (.waited pid)) := by
  intro launched
  refine ⟨fun hcommand => ?_, fun hnul => ?_, fun hcommand hwords => ⟨fun errno hfork => ?_,
    fun pid hfork => ?_⟩⟩
  · subst hcommand
    rfl
  · obtain ⟨front, word, back, position, rfl, hfront, hword⟩ := exists_first_nul hnul
    refine ⟨front, word, back, position, rfl, hfront, hword, ?_⟩
    have hprepare := prepare_of_nul hfront hword back
    simp only [launched, launch, hprepare, Act.run_pure]
  · have hprepare := prepare_of_no_nul hcommand hwords
    simp only [launched, launch, hprepare, execute, Act.run_bind, Act.run_emit, Act.run_update, hfork,
      Act.run_pure, List.append_nil]
  · have hprepare := prepare_of_no_nul hcommand hwords
    have hprogram : (preparedOf words).arguments.headD [] = words.headD [] := rfl
    obtain ⟨early, last, late, hsplit, hearly, hlast, hcalls⟩ := awaitEnd_decided pid
      (Kernel.life pid (preparedOf words)
        ((Act.log (.launched pid (words.headD []))).run (Kernel.fork world).2).world).1
      (Kernel.life pid (preparedOf words)
        ((Act.log (.launched pid (words.headD []))).run (Kernel.fork world).2).world).2
    refine ⟨early, last, late, hsplit, hearly, ?_, ?_⟩
    · rw [hlast]
      simp only [launched, launch, hprepare, execute, Act.run_bind, Act.run_emit, Act.run_update, hfork,
        hprogram]
    · simp only [launched, launch, hprepare, execute, Act.run_bind, Act.run_emit, Act.run_update, hfork,
        hprogram, List.nil_append, Trace.kernelCalls_append, kernelCalls_log, hcalls]
      rfl

/-- A child that is stopped, continued and asked about in vain before it exits. Its number answers once
more later, but nobody asks. -/
example :
    let _ : Kernel Unit :=
      { wants := fun _ _ => false
        keep := fun _ world => world
        fork := fun world => (.ok 7, world)
        life := fun _ _ world => ([.ok (WaitStatus.stopWord 19), .error .interrupted, .ok 0xffff,
          .ok (WaitStatus.exitWord 3), .ok (WaitStatus.exitWord 4)], world) }
    let launched := (launch [Bytes.ofString "ls"]).run ()
    launched.value = .ok (.exited 3) ∧
      launched.events = [.forked, .waited 7, .waited 7, .waited 7, .waited 7] :=
  ⟨rfl, rfl⟩

end Kernel

end LineShell
