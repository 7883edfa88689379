import LineShell.Proofs.Bytes
import LineShell.Proofs.Failures
import LineShell.Proofs.Tasks
import LineShell.Proofs.Words
import Mathlib.Tactic.SplitIfs
/-!
# The record on the error channel

Where the error channel accepts everything, what is on it in the end is a list of lines: one for each
command that has failed, in the order in which the commands ran, and nothing else. Which commands those
are and what their lines say is a matter of their words and of what the output and the host answer, and
is said by `complaintOf` without any reference to how a command is run.

No input can break such a line in two or forge another one. A complaint quotes one word of a command,
and words hold no line break. What is shown of a word that is not UTF-8 has replacement characters in
it, but no byte that is neither of them nor of the word. So if the texts of errors hold no line break
either, the line breaks on the error channel count the failures.
-/

namespace LineShell

/-! ### Texts on one line -/

namespace Utf8

def Piece.bytes : Piece → Bytes
  | .whole bytes | .broken bytes => bytes

def Reading.bytes (reading : Reading) : Bytes := reading.pieces.flatMap Piece.bytes

theorem Reading.bytes_mk (found : List Piece) (opened : Option Partial) :
    Reading.bytes ⟨found, opened⟩ = found.reverse.flatMap Piece.bytes ++ (opened.map Partial.read).getD [] := by
  cases opened <;> simp [Reading.bytes, Reading.pieces, Piece.bytes]

theorem Reading.start_bytes (found : List Piece) (byte : UInt8) :
    (Reading.start found byte).bytes = found.reverse.flatMap Piece.bytes ++ [byte] := by
  unfold Reading.start
  split <;> simp [Reading.bytes_mk, Piece.bytes]

theorem Reading.step_bytes (reading : Reading) (byte : UInt8) :
    (reading.step byte).bytes = reading.bytes ++ [byte] := by
  obtain ⟨found, opened⟩ := reading
  cases opened with
  | none =>
    have hstart : Reading.step ⟨found, none⟩ byte = Reading.start found byte := rfl
    rw [hstart, Reading.start_bytes, Reading.bytes_mk]
    simp
  | some sequence =>
    simp only [Reading.step]
    split
    · split <;> simp [Reading.bytes_mk, Piece.bytes]
    · simp [Reading.start_bytes, Reading.bytes_mk, Piece.bytes]

theorem pieces_bytes (bytes : Bytes) : (pieces bytes).flatMap Piece.bytes = bytes := by
  have hfold : ∀ reading : Reading,
      (bytes.foldl Reading.step reading).bytes = reading.bytes ++ bytes := by
    induction bytes with
    | nil => intro reading; rw [List.foldl_nil, List.append_nil]
    | cons byte rest ih => intro reading; rw [List.foldl_cons, ih, Reading.step_bytes]; simp
  exact hfold ⟨[], none⟩

/-- What is shown of a string has no bytes but its own and those of the replacement character. -/
theorem mem_of_mem_shown {bytes : Bytes} {byte : UInt8} (hbyte : byte ∈ shown bytes) :
    byte ∈ bytes ∨ byte ∈ replacement := by
  obtain ⟨piece, hpiece, hmem⟩ := List.mem_flatMap.1 hbyte
  cases piece with
  | whole text =>
    refine .inl ?_
    rw [← pieces_bytes bytes]
    exact List.mem_flatMap.2 ⟨.whole text, hpiece, hmem⟩
  | broken text => exact .inr hmem

end Utf8

theorem newline_not_mem_word {line word : Bytes} (hword : word ∈ wordsOf line) : Stream.newline ∉ word := by
  intro hnewline
  have hmem : Stream.newline ∈ (wordsOf line).flatten := List.mem_flatten.2 ⟨word, hword, hnewline⟩
  rw [flatten_wordsOf] at hmem
  exact absurd (List.mem_filter.1 hmem).2 (by decide)

theorem newline_not_mem_shown {word : Bytes} (hword : Stream.newline ∉ word) : Stream.newline ∉ Utf8.shown word := by
  intro hnewline
  rcases Utf8.mem_of_mem_shown hnewline with hmem | hmem
  · exact hword hmem
  · exact absurd hmem (by decide)

theorem newline_not_mem_ofNat (n : Nat) : Stream.newline ∉ Bytes.ofNat n := by
  intro hnewline
  obtain ⟨digit, hdigit, heq⟩ := List.mem_map.1 hnewline
  have hrange : digit.isDigit := Nat.isDigit_of_mem_toDigits (by decide) (by decide) hdigit
  have hbyte := congrArg UInt8.toNat heq
  simp [Char.isDigit, Stream.newline, UInt32.le_iff_toNat_le] at hrange hbyte
  omega

theorem newline_not_mem_ofInt (n : Int) : Stream.newline ∉ Bytes.ofInt n := by
  cases n with
  | ofNat n => exact newline_not_mem_ofNat n
  | negSucc n => exact List.not_mem_cons_of_ne_of_not_mem (by decide) (newline_not_mem_ofNat (n + 1))

theorem newline_not_mem_wordings : ∀ entry ∈ Errno.wordings,
    Stream.newline ∉ Bytes.ofString entry.2.symbol ∧ Stream.newline ∉ Bytes.ofString entry.2.launcher := by
  simp only [Bytes.ofString_eq]
  decide +kernel

theorem newline_not_mem_errno (errno : Errno) : Stream.newline ∉ errno.text := by
  have hwords : Stream.newline ∉ errno.symbol ∧ Stream.newline ∉ errno.description := by
    unfold Errno.symbol Errno.description
    cases hwording : Errno.wording? errno.code with
    | none => exact ⟨by decide, by decide⟩
    | some wording =>
      -- A number that has a wording has one that stands in the table.
      obtain ⟨front, back, hsplit, -⟩ := List.lookup_eq_some_iff.1 hwording
      have hmem : (errno.code, wording) ∈ Errno.wordings := by
        rw [hsplit]
        exact List.mem_append_right _ List.mem_cons_self
      obtain ⟨hsymbol, hlauncher⟩ := newline_not_mem_wordings _ hmem
      exact ⟨hsymbol, hlauncher⟩
  exact List.not_mem_append (List.not_mem_append hwords.1 (by decide)) hwords.2

/-- No failure of a launch has a line break in its text, whatever the host answers. -/
theorem newline_not_mem_launchError (error : LaunchError) : Stream.newline ∉ error.message := by
  cases error with
  | emptyCommand => decide
  | nul error =>
    have htext : Stream.newline ∉ Bytes.ofString "argument contains a NUL byte" := by decide
    exact htext
  | fork errno => exact List.not_mem_append (by decide) (newline_not_mem_errno errno)
  | wait pid errno =>
    have hpid := List.not_mem_append (a := Stream.newline)
      (s := Bytes.ofString "waiting for process ") (by decide) (newline_not_mem_ofInt pid)
    exact List.not_mem_append (List.not_mem_append hpid (by decide)) (newline_not_mem_errno errno)

/-! ### What the record says -/

/-- An invariant under which the error channel accepts everything and nothing is logged, and under which
no failure of the output or of a change of directory has a line break in its text. -/
structure World.Candid (ω : Type) [World ω] extends World.Invariant ω where
  accepts : ∀ message world, holds world → (World.deliver .error message world).1.failure = none
  quiet : ∀ entry world, holds world → Logger.wants entry world = false
  writeText : ∀ message world error, holds world →
    (World.deliver .output message world).1.failure = some error → Stream.newline ∉ error.text
  flushText : ∀ world error, holds world →
    (World.flush .output world).1 = some error → Stream.newline ∉ error.text
  directoryText : ∀ target world error, holds world →
    (World.changeDirectory target world).1 = some error → Stream.newline ∉ error.text

variable {ω : Type} [World ω]

/-- The line that a command leaves on the error channel if it fails in a world, its line end aside. A
launch comes behind a flush of the output. -/
def complaintOf (words : List Bytes) (world : ω) : Option Bytes :=
  match words with
  | [] => none
  | name :: arguments =>
    if name = Bytes.ofString "cd" then
      match arguments with
      | [] => some (Bytes.ofString "lish: expected argument to \"cd\"")
      | target :: _ => (World.changeDirectory target world).1.map fun error =>
        Bytes.ofString "lish: cd: " ++ Utf8.shown target ++ Bytes.ofString ": " ++ error.text
    else if name = Bytes.ofString "help" then
      (helpFailure world).map fun error => Bytes.ofString "lish: " ++ error.text
    else if name = Bytes.ofString "exit" then none
    else match ((World.launch words).run (World.flush .output world).2).value with
      | .ok _ => none
      | .error failure => some (Bytes.ofString "lish: " ++ failure.message)

def Move.complaint? : Move ω → Option Bytes
  | .aside _ => none
  | .command line world => complaintOf (wordsOf line) world

section Lines

variable {candid : World.Candid ω} {world : ω}

theorem sendAll_failure {sink : Sink} {messages : List Bytes} {error : IoError}
    (hworld : candid.holds world) (herror : ((Act.sendAll sink messages).run world).value = some error) :
    ∃ message world', candid.holds world' ∧
      (World.deliver sink message world').1.failure = some error := by
  induction messages generalizing world with
  | nil => exact absurd herror.symm (Option.some_ne_none _)
  | cons message rest ih =>
    rw [Act.sendAll, Act.run_bind, Act.run_send] at herror
    dsimp only at herror
    cases hfailure : (World.deliver sink message world).1.failure with
    | none =>
      rw [hfailure] at herror
      exact ih (candid.deliver sink message world hworld) herror
    | some refusal =>
      rw [hfailure] at herror
      exact ⟨message, world, hworld, hfailure.trans herror⟩

theorem sendAll_error_value (hworld : candid.holds world) (messages : List Bytes) :
    ((Act.sendAll .error messages).run world).value = none := by
  refine Option.eq_none_iff_forall_ne_some.2 fun error herror => ?_
  obtain ⟨message, world', hworld', hfailure⟩ := sendAll_failure hworld herror
  exact absurd (hfailure.symm.trans (candid.accepts message world' hworld')) (Option.some_ne_none _)

theorem newline_not_mem_helpFailure {error : IoError} (hworld : candid.holds world)
    (herror : helpFailure world = some error) : Stream.newline ∉ error.text := by
  have hafter : candid.holds ((Act.sendAll .output Builtin.helpText).run world).world :=
    (Act.within_sendAll (P := fun _ => True) (fun _ _ => trivial) _ world hworld).1
  rcases Option.or_eq_some_iff.1 herror with hwrite | ⟨-, hflush⟩
  · obtain ⟨message, world', hworld', hfailure⟩ := sendAll_failure hworld hwrite
    exact candid.writeText message world' error hworld' hfailure
  · exact candid.flushText _ error hafter hflush

theorem newline_not_mem_complaint {line complaint : Bytes} (hworld : candid.holds world)
    (hcomplaint : complaintOf (wordsOf line) world = some complaint) : Stream.newline ∉ complaint := by
  have hwords : ∀ word ∈ wordsOf line, Stream.newline ∉ word := fun _ => newline_not_mem_word
  have hname : Stream.newline ∉ Bytes.ofString "lish: " := by decide
  generalize wordsOf line = words at hcomplaint hwords
  cases words with
  | nil => simp [complaintOf] at hcomplaint
  | cons name arguments =>
    unfold complaintOf at hcomplaint
    dsimp only at hcomplaint
    split_ifs at hcomplaint with hcd hhelp hexit
    · cases arguments with
      | nil =>
        rw [← Option.some.inj hcomplaint]
        decide
      | cons target rest =>
        obtain ⟨error, herror, rfl⟩ := Option.map_eq_some_iff.1 hcomplaint
        have htarget := newline_not_mem_shown (hwords target (by simp))
        have htext := candid.directoryText target world error hworld herror
        have hfront := List.not_mem_append (a := Stream.newline) (s := Bytes.ofString "lish: cd: ")
          (by decide) htarget
        exact List.not_mem_append (List.not_mem_append hfront (by decide)) htext
    · obtain ⟨error, herror, rfl⟩ := Option.map_eq_some_iff.1 hcomplaint
      exact List.not_mem_append hname (newline_not_mem_helpFailure hworld herror)
    · cases hlaunched : ((World.launch (name :: arguments)).run (World.flush .output world).2).value with
      | ok completion => simp [hlaunched] at hcomplaint
      | error failure =>
        rw [hlaunched] at hcomplaint
        rw [← Option.some.inj hcomplaint]
        exact List.not_mem_append hname (newline_not_mem_launchError failure)

/-! ### What a line leaves on the error channel -/

namespace Session

theorem within_attemptLine {invariant : World.Invariant ω} (line : Bytes) :
    (attemptLine line : Act ω _).Within invariant (·.sink? ≠ some .error) := by
  have hlog := Event.sink?_log_ne .error
  have houtput : ∀ event : Event, event.sink? = some .output → event.sink? ≠ some .error :=
    fun _ => Event.sink?_ne_of_eq (by decide)
  have hlaunch : ∀ event : Event, event.isOfLaunch → event.sink? ≠ some .error :=
    fun _ => Event.sink?_ne_of_isOfLaunch .error
  refine Act.Within.bind (within_tokenize hlog line) fun words => ?_
  cases words with
  | nil => exact Act.within_pure _
  | cons name arguments =>
    rw [attempt]
    split
    · refine Act.Within.bind (Act.within_log hlog _) fun _ => ?_
      split
      · exact Act.Within.map (Builtin.within_goTo (fun _ => (Option.some_ne_none _).symm) _) _
      · exact Act.Within.map (Builtin.within_showHelp houtput) _
      · exact Act.within_pure _
    · refine Act.Within.bind (Act.within_flush houtput) fun failure => ?_
      refine (within_noteFlush hlog failure).bind fun _ => ?_
      refine Act.Within.bind (Act.within_launch (Option.some_ne_none _).symm hlaunch) fun result => ?_
      cases result with
      | ok completion => exact Act.Within.bind (Act.within_log hlog _) fun _ => Act.within_pure _
      | error failure => exact Act.within_pure _

/-! Where nothing is logged, a log entry does nothing at all. -/

theorem run_log_of_quiet (hworld : candid.holds world) (entry : Log.Entry) :
    (Act.log entry : Act ω Unit).run world = ⟨(), [], world⟩ := by
  rw [Act.run_log, candid.quiet entry world hworld]
  rfl

theorem run_logAll_of_quiet (hworld : candid.holds world) (entries : List Log.Entry) :
    (Act.logAll entries : Act ω Unit).run world = ⟨(), [], world⟩ := by
  induction entries with
  | nil => rfl
  | cons entry rest ih =>
    have hcons : (Act.logAll (entry :: rest) : Act ω Unit) = Act.log entry >>= fun _ => Act.logAll rest := rfl
    rw [hcons, Act.run_bind, run_log_of_quiet hworld, ih]
    rfl

theorem run_tokenize_of_quiet (hworld : candid.holds world) (line : Bytes) :
    ((tokenize line).run world).world = world := by
  rw [tokenize]
  simp only [Act.run_bind, run_logAll_of_quiet hworld, run_log_of_quiet hworld, Act.run_pure]

end Session

def Failure.complaint (failure : Failure) : Bytes := Bytes.ofString "lish: " ++ failure.message

theorem Failure.report_eq_complaint (failure : Failure) :
    failure.report = failure.complaint ++ [Stream.newline] := by
  have hname : programName ++ Bytes.ofString ": " = Bytes.ofString "lish: " := by decide
  have hend : Bytes.ofString "\n" = [Stream.newline] := by decide
  simp [report_eq, complaint, ← hname, ← hend]

namespace Session

theorem noted_of_quiet (hworld : candid.holds world) (entry : Log.Entry) :
    Logger.noted entry world = world :=
  congrArg Outcome.world (run_log_of_quiet hworld entry)

theorem flushedWorld_of_quiet (hworld : candid.holds world) :
    flushedWorld world = (World.flush .output world).2 := by
  rw [flushedWorld]
  cases (World.flush .output world).1 with
  | none => rfl
  | some error => exact noted_of_quiet (candid.flush .output world hworld) _

/-- What a command complains of is why it fails. -/
theorem complaintOf_eq (hworld : candid.holds world) (words : List Bytes) :
    complaintOf words world = (failureOf words world).map Failure.complaint := by
  cases words with
  | nil => rfl
  | cons name arguments =>
    unfold complaintOf failureOf
    simp only [noted_of_quiet hworld, flushedWorld_of_quiet hworld]
    split_ifs with hcd hhelp hexit
    · cases arguments with
      | nil => rfl
      | cons target rest =>
        have hname : Bytes.ofString "lish: cd: " = Bytes.ofString "lish: " ++ Bytes.ofString "cd: " := by
          decide
        dsimp only
        cases (World.changeDirectory target world).1 with
        | none => rfl
        | some error =>
          simp [Failure.complaint, Failure.message, BuiltinError.message, BuiltinError.headline, hname]
    · rw [Option.map_map]
      rfl
    · rfl
    · cases ((World.launch (name :: arguments)).run (World.flush .output world).2).value <;> rfl

/-- A line leaves its complaint on the error channel as one line, or nothing. -/
theorem runLine_accepted (hworld : candid.holds world) (line : Bytes) :
    Trace.accepted .error ((runLine line).run world).events
      = (complaintOf (wordsOf line) world).elim [] (· ++ [Stream.newline]) := by
  obtain ⟨hafter, hattempted⟩ := within_attemptLine line world hworld
  have hevents : ((runLine line).run world).events = ((attemptLine line).run world).events
      ++ ((tell ((attemptLine line).run world).value).run ((attemptLine line).run world).world).events :=
    run_runLine line world
  have hvalue : ((attemptLine line).run world).value.map Failure.complaint
      = complaintOf (wordsOf line) world := by
    rw [attemptLine_value, run_tokenize_of_quiet hworld, complaintOf_eq hworld]
  rw [hevents, Trace.accepted_append, Trace.accepted_of_ne .error hattempted, List.nil_append, ← hvalue]
  cases ((attemptLine line).run world).value with
  | none => rfl
  | some failure =>
    have hnone := sendAll_error_value hafter
      [programName, Bytes.ofString ": ", failure.message, Bytes.ofString "\n"]
    have hcomplain : ((Act.complain failure.message).run ((attemptLine line).run world).world).value
        = none := hnone
    rw [tell, Act.run_bind, hcomplain]
    dsimp only [Act.run_pure, Option.map_some, Option.elim_some]
    rw [List.append_nil, ← failure.report_eq_complaint, failure.report_eq]
    rcases Act.sent_sendAll .error
      [programName, Bytes.ofString ": ", failure.message, Bytes.ofString "\n"]
      ((attemptLine line).run world).world with ⟨-, hwhole⟩ | ⟨refusal, hsome, -⟩
    · exact hwhole
    · exact absurd (hnone.symm.trans hsome) (Option.some_ne_none _).symm

end Session

/-! ### What tasks leave on it -/

theorem Move.Sound.accepted {move : Move ω} (hmove : move.Sound candid.toInvariant) :
    move.events.accepted .error = move.complaint?.elim [] (· ++ [Stream.newline]) := by
  cases move with
  | command line world => exact Session.runLine_accepted hmove line
  | aside events =>
    exact Trace.accepted_of_ne .error fun event hevent =>
      Event.sink?_ne_of_not_isOfEnvironment (hmove event hevent) (by decide)

theorem accepted_moves {moves : List (Move ω)} (hmoves : ∀ move ∈ moves, move.Sound candid.toInvariant) :
    Trace.accepted .error (moves.flatMap Move.events)
      = (moves.filterMap Move.complaint?).flatMap (· ++ [Stream.newline]) := by
  induction moves with
  | nil => rfl
  | cons move rest ih =>
    obtain ⟨hmove, hrest⟩ := List.forall_mem_cons.1 hmoves
    rw [List.flatMap_cons, Trace.accepted_append, hmove.accepted, ih hrest, List.filterMap_cons]
    cases move.complaint? with
    | none => rfl
    | some complaint => rw [Option.elim_some, List.flatMap_cons]

theorem count_newline_lines {lines : List Bytes} (hlines : ∀ line ∈ lines, Stream.newline ∉ line) :
    (lines.flatMap (· ++ [Stream.newline])).count Stream.newline = lines.length := by
  induction lines with
  | nil => rfl
  | cons line rest ih =>
    obtain ⟨hline, hrest⟩ := List.forall_mem_cons.1 hlines
    rw [List.flatMap_cons, List.count_append, List.count_append, List.count_eq_zero.2 hline, ih hrest,
      List.count_singleton_self, List.length_cons]
    omega

end Lines

/-- Where the error channel accepts everything, nothing is logged and no text of a failure holds a line
break, the error channel holds in the end the complaints of the commands that have failed, each as one
line, in the order in which the commands ran, and nothing of any other command. There are as many line
breaks on it as complaints. -/
theorem Task.movesAll_record (candid : World.Candid ω) {tasks : List (Task ω)}
    (hplace : ∀ task ∈ tasks, ∀ world, candid.holds world → candid.holds (task.place world))
    {world : ω} (hworld : candid.holds world) :
    let moves := movesAll tasks world
    let trace : Trace := (runAll tasks world).flatMap Outcome.events
    let complaints := moves.filterMap Move.complaint?
    moves.flatMap Move.events = trace ∧
      (∀ move ∈ moves, move.events.accepted .error = move.complaint?.elim [] (· ++ [Stream.newline])) ∧
      trace.accepted .error = complaints.flatMap (· ++ [Stream.newline]) ∧
      (∀ complaint ∈ complaints, Stream.newline ∉ complaint) ∧
      (trace.accepted .error).count Stream.newline = complaints.length := by
  intro moves trace complaints
  have hevents : moves.flatMap Move.events = trace := movesAll_events tasks world
  have hsound : ∀ move ∈ moves, move.Sound candid.toInvariant := movesAll_sound hplace hworld
  have haccepted : trace.accepted .error = complaints.flatMap (· ++ [Stream.newline]) :=
    hevents ▸ accepted_moves hsound
  have hlines : ∀ complaint ∈ complaints, Stream.newline ∉ complaint := by
    intro complaint hcomplaint
    obtain ⟨move, hmove, heq⟩ := List.mem_filterMap.1 hcomplaint
    cases move with
    | aside events => exact absurd heq.symm (Option.some_ne_none _)
    | command line world => exact newline_not_mem_complaint (hsound _ hmove) heq
  refine ⟨hevents, fun move hmove => (hsound move hmove).accepted, haccepted, hlines, ?_⟩
  rw [haccepted, count_newline_lines hlines]

/-! ### Stages -/

structure Channel.FailsWith (P : IoError → Prop) (channel : Channel) : Prop where
  faults : ∀ fault ∈ channel.faults, ∀ error ∈ fault.error, P error
  flush : ∀ error ∈ channel.flushFault, P error

namespace Channel

variable {P : IoError → Prop}

theorem callFaults_failsWith (perCall : Option Nat) (offered : Nat) {faults : List Fault}
    (hfaults : ∀ fault ∈ faults, ∀ error ∈ fault.error, P error) :
    (∀ fault ∈ (callFaults perCall offered faults).2, ∀ error ∈ fault.error, P error) ∧
      ∀ error, (callFaults perCall offered faults).1 = .failed error → P error := by
  induction faults with
  | nil => exact ⟨List.forall_mem_nil _, fun error hfailed => Answer.noConfusion hfailed⟩
  | cons fault rest ih =>
    obtain ⟨hfault, hrest⟩ := List.forall_mem_cons.1 hfaults
    unfold callFaults
    split
    · exact ih hrest
    · split
      · refine ⟨List.forall_mem_cons.2 ⟨hfault, hrest⟩, fun error hfailed => hfault error ?_⟩
        unfold Fault.answer at hfailed
        cases herror : fault.error with
        | none => simp [herror] at hfailed
        | some cause => simpa [herror] using hfailed
      · exact ⟨List.forall_mem_cons.2 ⟨hfault, hrest⟩, fun error hfailed => Answer.noConfusion hfailed⟩

theorem call_failsWith {channel : Channel} (hchannel : channel.FailsWith P) {offered : Nat}
    {answer : Answer} {channel' : Channel} (hcall : channel.call offered = (answer, channel')) :
    channel'.FailsWith P ∧ ∀ error, answer = .failed error → P error := by
  obtain ⟨hfaults, hanswer⟩ := callFaults_failsWith channel.perCall offered hchannel.faults
  obtain ⟨rfl, rfl⟩ := Prod.mk.inj hcall
  exact ⟨⟨hfaults, hchannel.flush⟩, hanswer⟩

/-- A message fails as one of its calls does, or because a call has taken nothing. -/
theorem deliver_failsWith (hwhole : P .wholeBuffer) {channel : Channel} (hchannel : channel.FailsWith P)
    (message : Bytes) : (channel.deliver message).2.FailsWith P ∧
      ∀ error, (channel.deliver message).1.failure = some error → P error := by
  fun_induction deliver message channel with
  | case1 channel => exact ⟨hchannel, fun error herror => absurd herror.symm (Option.some_ne_none _)⟩
  | case2 channel message hmessage channel' hcall =>
    refine ⟨(call_failsWith hchannel hcall).1, fun error herror => ?_⟩
    exact Option.some.inj herror ▸ hwhole
  | case3 message channel _ n channel' hcall rest channel'' hrest ih =>
    rw [hrest] at ih
    exact ih (call_failsWith hchannel hcall).1
  | case4 message channel _ error channel' hcall _ ih => exact ih (call_failsWith hchannel hcall).1
  | case5 message channel _ error channel' hcall _ =>
    obtain ⟨hafter, hanswer⟩ := call_failsWith hchannel hcall
    exact ⟨hafter, fun error' herror => Option.some.inj herror ▸ hanswer error rfl⟩

end Channel

namespace Stage

/-- That nothing is logged on a stage, that its error channel takes everything, and that the failures of
its output and of changes of directory have texts without a line break. -/
structure IsCandid (stage : Stage) : Prop where
  verbosity : stage.verbosity = none
  error : stage.error = .whole
  output : stage.output.FailsWith (Stream.newline ∉ ·.text)
  directories : ∀ answer ∈ stage.host.directories, ∀ error ∈ answer, Stream.newline ∉ error.text

theorem IsCandid.deliver {stage : Stage} (hstage : stage.IsCandid) (sink : Sink) (message : Bytes) :
    (stage.deliver sink message).2.IsCandid := by
  obtain ⟨hverbosity, herror, houtput, hdirectories⟩ := hstage
  have hwhole : Stream.newline ∉ IoError.wholeBuffer.text := by decide
  cases sink with
  | output => exact ⟨hverbosity, herror, (Channel.deliver_failsWith hwhole houtput message).1, hdirectories⟩
  | error =>
    refine ⟨hverbosity, ?_, houtput, hdirectories⟩
    change (stage.error.deliver message).2 = .whole
    rw [herror, Channel.deliver_whole]
  | prompt => exact ⟨hverbosity, herror, houtput, hdirectories⟩

theorem IsCandid.answerDirectory {stage : Stage} (hstage : stage.IsCandid) :
    stage.answerDirectory.2.IsCandid ∧
      ∀ error, stage.answerDirectory.1 = some error → Stream.newline ∉ error.text := by
  obtain ⟨hverbosity, herror, houtput, hdirectories⟩ := hstage
  unfold Stage.answerDirectory
  split <;> rename_i hscript
  · exact ⟨⟨hverbosity, herror, houtput, hdirectories⟩,
      fun error hnone => absurd hnone.symm (Option.some_ne_none _)⟩
  · rw [hscript] at hdirectories
    obtain ⟨hanswer, hrest⟩ := List.forall_mem_cons.1 hdirectories
    exact ⟨⟨hverbosity, herror, houtput, hrest⟩, hanswer⟩

/-- A stage without line breaks in its failures stays one. -/
def candid : World.Candid Stage where
  holds := IsCandid
  keep _ _ hstage := hstage
  deliver sink message _ hstage := hstage.deliver sink message
  flush _ _ hstage := hstage
  changeDirectory _ _ hstage := hstage.answerDirectory.1
  launch _ stage hstage := by
    change (answerLaunch stage).2.IsCandid
    unfold answerLaunch
    split
    · exact hstage
    · exact ⟨hstage.verbosity, hstage.error, hstage.output, hstage.directories⟩
  accepts message stage hstage := by
    change (stage.error.deliver message).1.failure = none
    rw [hstage.error, Channel.deliver_whole]
  quiet entry stage hstage := by
    change stage.logs entry.level = false
    rw [logs, hstage.verbosity]
  writeText message stage error hstage :=
    (Channel.deliver_failsWith (by decide) hstage.output message).2 error
  flushText stage error hstage := hstage.output.flush error
  directoryText _ _ error hstage := hstage.answerDirectory.2 error

end Stage

/-- Three commands that fail. The first one has a byte that is no text and a line break with a forged
message behind it, of which nothing gets into the record. -/
theorem Task.movesAll_record_refused :
    let stage : Stage :=
      { Stage.plain with host := ⟨[some (.plain .notFound)], [.error (.fork ⟨11⟩)]⟩ }
    let tasks : List (Task Stage) :=
      [Bytes.ofString "cd " ++ 255 :: Bytes.ofString "\nlish: forged", Bytes.ofString "ls", Bytes.ofString "cd"].map
        fun line => ⟨id, .line line⟩
    let trace : Trace := (runAll tasks stage).flatMap Outcome.events
    Stage.candid.holds stage ∧
      (∀ task ∈ tasks, ∀ stage, Stage.candid.holds stage → Stage.candid.holds (task.place stage)) ∧
      trace.accepted .error = Bytes.ofString ("lish: cd: \uFFFD: entity not found\n" ++
        "lish: fork failed: EAGAIN: Try again\nlish: expected argument to \"cd\"\n") ∧
      (trace.accepted .error).count Stream.newline = 3 := by
  intro stage tasks trace
  have hstage : Stage.candid.holds stage := by
    refine ⟨rfl, rfl, ⟨List.forall_mem_nil _, fun _ hnone => absurd hnone (Option.not_mem_none _)⟩, ?_⟩
    decide
  have hplace : ∀ task ∈ tasks, ∀ stage, Stage.candid.holds stage → Stage.candid.holds (task.place stage) := by
    intro task htask stage hstage
    obtain ⟨line, -, rfl⟩ := List.mem_map.1 htask
    exact hstage
  have hcomplaints : (movesAll tasks stage).filterMap Move.complaint? =
      [Bytes.ofString "lish: cd: \uFFFD: entity not found", Bytes.ofString "lish: fork failed: EAGAIN: Try again",
        Bytes.ofString "lish: expected argument to \"cd\""] := by
    decide +kernel
  obtain ⟨-, -, haccepted, -, hcount⟩ := movesAll_record Stage.candid hplace hstage
  refine ⟨hstage, hplace, haccepted.trans ?_, hcount.trans (congrArg List.length hcomplaints)⟩
  rw [hcomplaints]
  decide

end LineShell
