import LineShell.Proofs.HostCalls
import LineShell.Proofs.Runs
/-!
# Dispatch of a line

What a line does is decided by its first run: whether it leaves the session, calls the host, writes, or
does nothing at all. The decision is told here of the bytes of the line and not of its words, so that no
padding, no prefix or extension of a name and no other letter case is left open.

An attempt is a write, a flush or a call to the host, whatever comes of it. A line without runs and one
that leaves the session make no attempt, and every other line makes one.
-/

namespace LineShell

def Event.isAttempt (event : Event) : Bool := event.sink?.isSome || event.hostCall?.isSome

/-! ### Calls and words -/

theorem HostCall.ofWords?_eq_launch_iff {words arguments : List Bytes} :
    ofWords? words = some (.launch arguments) ↔
      words = arguments ∧ words ≠ [] ∧ ∀ name ∈ words.head?,
        name ∉ [Bytes.ofString "cd", Bytes.ofString "help", Bytes.ofString "exit"] := by
  cases words with
  | nil => simp [ofWords?]
  | cons name later =>
    by_cases hcd : name = Bytes.ofString "cd"
    · cases later <;> simp [ofWords?, hcd]
    · by_cases hquiet : name = Bytes.ofString "help" ∨ name = Bytes.ofString "exit"
      · simp only [ofWords?, if_neg hcd, if_pos hquiet]
        rcases hquiet with rfl | rfl <;> simp
      · simp only [ofWords?, if_neg hcd, if_neg hquiet]
        simp [hcd, not_or.1 hquiet]

theorem HostCall.ofWords?_eq_changeDirectory_iff {words : List Bytes} {target : Bytes} :
    ofWords? words = some (.changeDirectory target) ↔
      ∃ later, words = Bytes.ofString "cd" :: target :: later := by
  cases words with
  | nil => simp [ofWords?]
  | cons name later =>
    by_cases hcd : name = Bytes.ofString "cd"
    · cases later <;> simp [ofWords?, hcd]
    · by_cases hquiet : name = Bytes.ofString "help" ∨ name = Bytes.ofString "exit"
      · simp [ofWords?, hcd, hquiet]
      · simp [ofWords?, hcd, hquiet]

/-- A line launches if its first run is the name of no builtin, and all its runs are the arguments. -/
theorem HostCall.ofWords?_wordsOf_eq_launch_iff {line : Bytes} {arguments : List Bytes} :
    ofWords? (wordsOf line) = some (.launch arguments) ↔
      arguments = (runsOf line).map Run.word ∧ (∃ byte ∈ line, byte ∉ delimiters) ∧
        ∀ first ∈ (runsOf line).head?,
          first.word ∉ [Bytes.ofString "cd", Bytes.ofString "help", Bytes.ofString "exit"] := by
  have hnonempty : wordsOf line ≠ [] ↔ ∃ byte ∈ line, byte ∉ delimiters := by
    rw [ne_eq, wordsOf_eq_nil_iff, IsGap]
    push Not
    rfl
  have hhead : (wordsOf line).head? = (runsOf line).head?.map Run.word := by
    rw [← map_word_runsOf, List.head?_map]
  rw [ofWords?_eq_launch_iff, hnonempty, hhead, map_word_runsOf, eq_comm]
  simp only [Option.mem_map, forall_exists_index, and_imp, forall_apply_eq_imp_iff₂]

/-- A line changes the directory if its first run is the name for that and there is a second run, which
is the target. -/
theorem HostCall.ofWords?_wordsOf_eq_changeDirectory_iff {line target : Bytes} :
    ofWords? (wordsOf line) = some (.changeDirectory target) ↔
      ∃ first second later, runsOf line = first :: second :: later ∧
        first.word = Bytes.ofString "cd" ∧ second.word = target := by
  rw [ofWords?_eq_changeDirectory_iff, ← map_word_runsOf]
  constructor
  · rintro ⟨later, hruns⟩
    obtain ⟨first, behind, hfirst, hname, hbehind⟩ := List.map_eq_cons_iff.1 hruns
    obtain ⟨second, rest, rfl, htarget, -⟩ := List.map_eq_cons_iff.1 hbehind
    exact ⟨first, second, rest, hfirst, hname, htarget⟩
  · rintro ⟨first, second, later, hruns, hname, htarget⟩
    exact ⟨later.map Run.word, by rw [hruns, List.map_cons, List.map_cons, hname, htarget]⟩

/-! ### Attempts -/

variable {ω : Type} [World ω]

namespace Act

variable {α β : Type}

/-- An action that makes an attempt, whatever the world does. -/
def Attempts (action : Act ω α) : Prop :=
  ∀ world, ∃ event ∈ (action.run world).events, event.isAttempt

/-- An action that makes no attempt, whatever the world does. -/
def Idle (action : Act ω α) : Prop := action.Within (.always ω) (·.isAttempt = false)

omit [World ω] in
theorem Attempts.bind {action : Act ω α} (haction : action.Attempts) (next : α → Act ω β) :
    (action >>= next).Attempts := by
  intro world
  obtain ⟨event, hevent, hattempt⟩ := haction world
  exact ⟨event, List.mem_append_left _ hevent, hattempt⟩

omit [World ω] in
theorem attempts_bind (action : Act ω α) {next : α → Act ω β} (hnext : ∀ value, (next value).Attempts) :
    (action >>= next).Attempts := by
  intro world
  obtain ⟨event, hevent, hattempt⟩ := hnext (action.run world).value (action.run world).world
  exact ⟨event, List.mem_append_right _ hevent, hattempt⟩

theorem attempts_send (sink : Sink) (message : Bytes) : (send sink message : Act ω _).Attempts := by
  intro world
  rw [run_send]
  exact ⟨_, List.mem_cons_self, rfl⟩

theorem attempts_sendAll (sink : Sink) (message : Bytes) (rest : List Bytes) :
    (sendAll sink (message :: rest) : Act ω _).Attempts :=
  (attempts_send sink message).bind _

theorem attempts_flush (sink : Sink) : (flush sink : Act ω _).Attempts := by
  intro world
  rw [run_flush]
  refine ⟨_, List.mem_singleton_self _, ?_⟩
  cases (World.flush sink world).1 <;> rfl

theorem attempts_changeDirectory (target : Bytes) : (changeDirectory target : Act ω _).Attempts := by
  intro world
  exact ⟨.changeDirectory target, List.mem_cons_self, rfl⟩

theorem idle_log (entry : Log.Entry) : (log entry : Act ω _).Idle := within_log (fun _ => rfl) entry

end Act

/-- A builtin that does not leave the session makes an attempt, if only to say what is wrong. -/
theorem Builtin.attempts_run {builtin : Builtin} (hexit : builtin ≠ .exit) (words : List Bytes) :
    (builtin.run words : Act ω _).Attempts := by
  cases builtin with
  | exit => exact absurd rfl hexit
  | help =>
    have hshow : (showHelp : Act ω _).Attempts := Act.Attempts.bind (Act.attempts_sendAll _ _ _) _
    exact hshow.bind settle
  | changeDirectory =>
    -- Without a target the report is the attempt, and with one it is the call to the host.
    rw [run, goTo]
    split
    · have hreport : (report .missingTarget : Act ω _).Attempts :=
        Act.Attempts.bind (Act.attempts_sendAll _ _ _) _
      rw [pure_bind]
      exact hreport.bind _
    · have hchange : ∀ target, (Act.changeDirectory target : Act ω _).Attempts :=
        Act.attempts_changeDirectory
      exact ((hchange _).bind _).bind settle

namespace Session

theorem attempts_execute {name : Bytes} (hexit : name ≠ Bytes.ofString "exit") (later : List Bytes) :
    (execute (name :: later) : Act ω _).Attempts := by
  rw [execute]
  split <;> rename_i hlookup
  · rename_i builtin
    obtain rfl := Builtin.lookup_eq_some_iff.1 hlookup
    have hother : builtin ≠ .exit := by
      rintro rfl
      exact hexit rfl
    exact Act.attempts_bind _ fun _ => Builtin.attempts_run hother _
  · -- The flush in front of a launch is an attempt, whatever becomes of the launch.
    have hlaunch : (launch (name :: later) : Act ω _).Attempts := by
      rw [launch_eq]
      exact (Act.attempts_flush .output).bind _
    exact hlaunch.bind _

theorem idle_execute_nil : (execute [] : Act ω _).Idle := Act.within_pure _

theorem idle_execute_exit (later : List Bytes) :
    (execute (Bytes.ofString "exit" :: later) : Act ω _).Idle := by
  have hlookup : Builtin.lookup (Bytes.ofString "exit") = some .exit :=
    Builtin.lookup_eq_some_iff.2 rfl
  rw [execute, hlookup]
  exact (Act.idle_log _).bind fun _ => Act.within_pure _

theorem runLine_idle_iff (line : Bytes) (world : ω) :
    (∀ event ∈ ((runLine line).run world).events, event.isAttempt = false) ↔
      IsGap line ∨ ((runLine line).run world).value = .stop := by
  have htokenize : (tokenize line : Act ω _).Idle := within_tokenize (fun _ => rfl) line
  obtain ⟨-, hwords⟩ := htokenize world trivial
  have hevents : ((runLine line).run world).events = ((tokenize line).run world).events
      ++ ((execute (wordsOf line)).run ((tokenize line).run world).world).events := by
    rw [runLine, Act.run_bind, tokenize_value]
  rw [hevents, List.forall_mem_append, and_iff_right hwords, runLine_value, ← wordsOf_eq_nil_iff]
  -- Cutting a line into words is no attempt, so its words decide.
  cases wordsOf line with
  | nil => exact iff_of_true (Act.Within.events idle_execute_nil _) (.inl rfl)
  | cons name later =>
    by_cases hexit : name = Bytes.ofString "exit"
    · subst hexit
      exact iff_of_true (Act.Within.events (idle_execute_exit later) _) (.inr rfl)
    · have hattempts : (execute (name :: later) : Act ω _).Attempts := attempts_execute hexit later
      obtain ⟨event, hevent, hattempt⟩ := hattempts ((tokenize line).run world).world
      refine iff_of_false (fun hidle => ?_) ?_
      · rw [hidle event hevent] at hattempt
        exact absurd hattempt (by decide)
      · simp [hexit]

/-- A line leaves the session exactly if the name for that stands in it with only delimiters in front and
nothing joined to it behind. -/
theorem runLine_stops_iff (line : Bytes) (world : ω) :
    ((runLine line).run world).value = .stop ↔
      ∃ lead rest, line = lead ++ (Bytes.ofString "exit" ++ rest) ∧ IsGap lead ∧
        ∀ byte ∈ rest.head?, byte ∈ delimiters := by
  have hstop : ((runLine line).run world).value = .stop ↔
      (wordsOf line).head? = some (Bytes.ofString "exit") := by
    rw [runLine_value]
    split <;> simp_all
  rw [hstop, head?_wordsOf_eq_some_iff]
  constructor
  · rintro ⟨run, rfl, hgap, hword⟩
    exact ⟨run.before, run.after, hword ▸ rfl, hgap, run.closes⟩
  · rintro ⟨lead, rest, rfl, hgap, hrest⟩
    have hword : IsWord (Bytes.ofString "exit") := by decide
    have hlead : ∀ byte ∈ lead.getLast?, byte ∈ delimiters := fun byte hbyte =>
      hgap byte (List.mem_of_getLast? hbyte)
    exact ⟨⟨lead, _, rest, hword, hlead, hrest⟩, rfl, hgap, rfl⟩

/-- What a line does, told of its bytes. It leaves the session exactly if its first run is the name for
that. It makes no attempt exactly if it has no run or leaves the session. It launches exactly if its
first run is the name of no builtin, and then that is its one call to the host, with all its runs as
arguments. It changes the directory exactly if its first run is the name for that and there is a second
run, and then that is its one call, with the second run. -/
theorem runLine_dispatch (line : Bytes) (world : ω) :
    let command := (runLine line).run world
    let runs := runsOf line
    (command.value = .stop ↔ ∃ lead rest, line = lead ++ (Bytes.ofString "exit" ++ rest) ∧
        IsGap lead ∧ ∀ byte ∈ rest.head?, byte ∈ delimiters) ∧
      ((∀ event ∈ command.events, event.isAttempt = false) ↔ IsGap line ∨ command.value = .stop) ∧
      ((∃ arguments, .launch arguments ∈ command.events) ↔
        (∃ byte ∈ line, byte ∉ delimiters) ∧ ∀ first ∈ runs.head?,
          first.word ∉ [Bytes.ofString "cd", Bytes.ofString "help", Bytes.ofString "exit"]) ∧
      (∀ arguments, .launch arguments ∈ command.events →
        arguments = runs.map Run.word ∧ command.events.hostCalls = [.launch arguments]) ∧
      ((∃ target, .changeDirectory target ∈ command.events) ↔
        ∃ first second later, runs = first :: second :: later ∧ first.word = Bytes.ofString "cd") ∧
      (∀ target, .changeDirectory target ∈ command.events →
        (∃ second ∈ runs[1]?, target = second.word) ∧
          command.events.hostCalls = [.changeDirectory target]) := by
  intro command runs
  have hcalls : ∀ {call}, HostCall.ofWords? (wordsOf line) = some call →
      command.events.hostCalls = [call] := by
    intro call hcall
    rw [runLine_hostCalls, hcall]
    rfl
  have hlaunch : ∀ arguments, .launch arguments ∈ command.events ↔
      HostCall.ofWords? (wordsOf line) = some (.launch arguments) := fun arguments =>
    runLine_event_mem_iff (.launch arguments)
  have hchange : ∀ target, .changeDirectory target ∈ command.events ↔
      HostCall.ofWords? (wordsOf line) = some (.changeDirectory target) := fun target =>
    runLine_event_mem_iff (.changeDirectory target)
  refine ⟨runLine_stops_iff line world, runLine_idle_iff line world, ?_, fun arguments hevent => ?_, ?_,
    fun target hevent => ?_⟩
  · simp only [hlaunch, HostCall.ofWords?_wordsOf_eq_launch_iff, exists_eq_left]
    rfl
  · have hcall := (hlaunch arguments).1 hevent
    exact ⟨(HostCall.ofWords?_wordsOf_eq_launch_iff.1 hcall).1, hcalls hcall⟩
  · simp only [hchange, HostCall.ofWords?_wordsOf_eq_changeDirectory_iff]
    constructor
    · rintro ⟨target, first, second, later, hruns, hname, -⟩
      exact ⟨first, second, later, hruns, hname⟩
    · rintro ⟨first, second, later, hruns, hname⟩
      exact ⟨second.word, first, second, later, hruns, hname, rfl⟩
  · have hcall := (hchange target).1 hevent
    obtain ⟨first, second, later, hruns, -, htarget⟩ :=
      HostCall.ofWords?_wordsOf_eq_changeDirectory_iff.1 hcall
    have hsecond : runs[1]? = some second := congrArg (·[1]?) hruns
    exact ⟨⟨second, hsecond, htarget.symm⟩, hcalls hcall⟩

end Session

end LineShell
