import LineShell.Proofs.Reports
import LineShell.Proofs.Stage
/-!
# Why commands fail

Whether a command fails is a matter of its words and of the answers that it gets. A change of directory
needs a target and a host that agrees, help an output that takes the page and can be flushed, and a
launch fails as the host says. `failureOf` reads this off the words and the answers, without any
reference to how a command is run.

No failure is silent and no report is about nothing (`Session.runLine_reports`): a line whose command
fails leaves one trace of the failure, and any other line leaves the error channel alone.
-/

namespace LineShell

variable {ω : Type} [World ω]

/-- The world once an entry has been offered to the log. -/
def Logger.noted (entry : Log.Entry) (world : ω) : ω := ((Act.log entry).run world).world

def Logger.notedAll (entries : List Log.Entry) (world : ω) : ω :=
  entries.foldl (fun world entry => Logger.noted entry world) world

/-- Why help fails in a world, if it does: a write to the output has failed, or the flush behind the
last one. -/
def helpFailure (world : ω) : Option IoError :=
  let written := (Act.sendAll .output Builtin.helpText).run world
  written.value.or (World.flush .output written.world).1

/-- The world in which a program is launched: the output has been flushed, and a failure of that has
been noted. -/
def flushedWorld (world : ω) : ω :=
  let flushed := World.flush .output world
  flushed.1.elim flushed.2 fun error => Logger.noted (.flushFailed error) flushed.2

/-- Why a command fails in a world, if it does. -/
def failureOf (words : List Bytes) (world : ω) : Option Failure :=
  match words with
  | [] => none
  | name :: arguments =>
    if name = Bytes.ofString "cd" then
      match arguments with
      | [] => some (.builtin .missingTarget)
      | target :: _ =>
        (World.changeDirectory target (Logger.noted (.builtinRunning .changeDirectory) world)).1.map
          fun cause => .builtin (.badTarget target cause)
    else if name = Bytes.ofString "help" then
      (helpFailure (Logger.noted (.builtinRunning .help) world)).map fun cause => .builtin (.output cause)
    else if name = Bytes.ofString "exit" then none
    else match ((World.launch words).run (flushedWorld world)).value with
      | .ok _ => none
      | .error error => some (.launch error)

namespace Session

/-! ### What is attempted fails for these reasons -/

theorem showHelp_value (world : ω) :
    (Builtin.showHelp.run world).value = (helpFailure world).map .output := by
  unfold Builtin.showHelp helpFailure
  rw [Act.run_bind]
  dsimp only
  cases ((Act.sendAll .output Builtin.helpText).run world).value with
  | none =>
    rw [Option.none_or]
    dsimp only
    rw [Act.run_bind, Act.run_flush]
    rfl
  | some error => rfl

theorem attemptBuiltin_value (builtin : Builtin) (arguments : List Bytes) (world : ω) :
    ((attemptBuiltin builtin (builtin.name :: arguments)).run world).value
      = failureOf (builtin.name :: arguments) world := by
  unfold attemptBuiltin failureOf
  rw [Act.run_bind]
  cases builtin with
  | changeDirectory =>
    have hcd : Builtin.changeDirectory.name = Bytes.ofString "cd" := rfl
    dsimp only
    rw [if_pos hcd]
    cases arguments with
    | nil => rfl
    | cons target rest =>
      rw [Act.run_map]
      exact Option.map_map _ _ _
  | help =>
    have hcd : Builtin.help.name ≠ Bytes.ofString "cd" := by decide
    have hhelp : Builtin.help.name = Bytes.ofString "help" := rfl
    dsimp only
    rw [if_neg hcd, if_pos hhelp, Act.run_map, showHelp_value]
    exact Option.map_map _ _ _
  | exit => rfl

theorem run_flush_noteFlush_world (world : ω) :
    ((Act.flush .output >>= noteFlush : Act ω Unit).run world).world = flushedWorld world := by
  rw [run_flush_noteFlush, flushedWorld]
  dsimp only
  cases (World.flush .output world).1 <;> rfl

theorem attemptLaunch_value (words : List Bytes) (world : ω) :
    ((attemptLaunch words).run world).value
      = match ((World.launch words).run (flushedWorld world)).value with
        | .ok _ => none
        | .error error => some (.launch error) := by
  rw [attemptLaunch_eq, Act.run_bind, Act.run_bind, run_flush_noteFlush_world]
  dsimp only [Act.run_emit]
  rw [Act.run_bind]
  cases ((World.launch words).run (flushedWorld world)).value <;> rfl

theorem attempt_value (words : List Bytes) (world : ω) :
    ((attempt words).run world).value = failureOf words world := by
  cases words with
  | nil => rfl
  | cons name arguments =>
    rw [attempt]
    cases hlookup : Builtin.lookup name with
    | some builtin =>
      obtain rfl := Builtin.lookup_eq_some_iff.1 hlookup
      exact attemptBuiltin_value builtin arguments world
    | none =>
      have hname : ∀ builtin : Builtin, name ≠ builtin.name := fun builtin heq =>
        absurd (hlookup.symm.trans (Builtin.lookup_eq_some_iff.2 heq)) (Option.some_ne_none _).symm
      have hcd : name ≠ Bytes.ofString "cd" := hname .changeDirectory
      have hhelp : name ≠ Bytes.ofString "help" := hname .help
      have hexit : name ≠ Bytes.ofString "exit" := hname .exit
      unfold failureOf
      dsimp only
      rw [if_neg hcd, if_neg hhelp, if_neg hexit, attemptLaunch_value]

theorem logAll_world (entries : List Log.Entry) (world : ω) :
    ((Act.logAll entries).run world).world = Logger.notedAll entries world := by
  induction entries generalizing world with
  | nil => rfl
  | cons entry rest ih => exact ih (Logger.noted entry world)

/-- A line is cut into words without asking the world for anything but its log. -/
theorem exists_tokenize_world (line : Bytes) (world : ω) :
    ∃ entries, ((tokenize line).run world).world = Logger.notedAll entries world := by
  refine ⟨((Buffer.empty wordStep).extend wordStep (wordsOf line)).2.map .bufferGrown ++
    [.lineTokenized ((Buffer.empty wordStep).extend wordStep (wordsOf line)).1.items.size], ?_⟩
  rw [Logger.notedAll, List.foldl_append]
  exact congrArg (Logger.noted _) (logAll_world _ world)

theorem attemptLine_value (line : Bytes) (world : ω) :
    ((attemptLine line).run world).value
      = failureOf (wordsOf line) ((tokenize line).run world).world := by
  rw [attemptLine, Act.run_bind, tokenize_value]
  exact attempt_value _ _

/-- A line that launches flushes the output right in front of the launch, and warns if that fails. -/
theorem runLine_flushed (warned : World.Warned ω) {line : Bytes} {words : List Bytes}
    (hcall : HostCall.ofWords? (wordsOf line) = some (.launch words)) {world : ω}
    (hworld : warned.holds world) :
    let command := (runLine line).run world
    let flushed := (World.flush .output ((tokenize line).run world).world).1
    (∃ front rest, command.events = front ++ flushTrace flushed ++ .launch words :: rest) ∧
      command.events.flushWarnings = flushed.toList.map .flushFailed := by
  intro command flushed
  obtain ⟨hbegun, hplain⟩ := plain_tokenize line world hworld
  obtain ⟨rest, hlaunch, hrest⟩ := attemptLaunch_events words hbegun
  let told := (tell ((attemptLine line).run world).value).run ((attemptLine line).run world).world
  have hattempted : ((attemptLine line).run world).events
      = ((tokenize line).run world).events ++ (flushTrace flushed ++ .launch words :: rest) := by
    rw [attemptLine, Act.run_bind, tokenize_value, attempt_of_launch hcall]
    exact congrArg _ hlaunch
  have hevents : command.events = ((tokenize line).run world).events
      ++ (flushTrace flushed ++ .launch words :: rest) ++ told.events := by
    rw [← hattempted]
    exact run_runLine line world
  refine ⟨⟨((tokenize line).run world).events, rest ++ told.events, ?_⟩, ?_⟩
  · rw [hevents, ← List.append_assoc, List.append_assoc, List.cons_append]
  · have hbefore := Trace.flushWarnings_of_isPlain hplain
    have hbehind : Trace.flushWarnings (.launch words :: rest) = [] :=
      Trace.flushWarnings_of_isPlain (List.forall_mem_cons.2 ⟨rfl, hrest⟩)
    rw [hevents, Trace.flushWarnings_append, Trace.flushWarnings_append, Trace.flushWarnings_append,
      hbefore, hbehind, tell_flushWarnings, flushTrace_flushWarnings, List.append_nil, List.append_nil,
      List.nil_append]

/-- No failure of a line is silent and no report is about nothing. Nothing but log entries comes before
the command. If it fails by its words and the answers of the output and the host, the whole report of
that is accepted on the error channel, or else a part of it is and one warning tells of the failure and of
the refusal. If it does not fail, the error channel is not touched and there is no such warning. A launch
is called for once, right behind a flush of the output, and there is one warning about that flush if it
fails. None of this shows in what the session does next. -/
theorem runLine_reports (warned : World.Warned ω) (line : Bytes) {world : ω}
    (hworld : warned.holds world) :
    let command := (runLine line).run world
    let begun := ((tokenize line).run world).world
    let failed := failureOf (wordsOf line) begun
    let flushed := (World.flush .output begun).1
    (∃ entries, begun = Logger.notedAll entries world) ∧
      (∀ failure, failed = some failure → Reported failure command.events) ∧
      (failed = none → (∀ event ∈ command.events, event.sink? ≠ some .error) ∧
        command.events.reportWarnings = []) ∧
      (∀ words, HostCall.ofWords? (wordsOf line) = some (.launch words) →
        command.events.hostCalls = [.launch words] ∧
          (∃ front rest, command.events = front ++ flushTrace flushed ++ .launch words :: rest) ∧
          command.events.flushWarnings = flushed.toList.map .flushFailed) ∧
      ∀ {ω' : Type} [World ω'] (world' : ω'), ((runLine line).run world').value = command.value := by
  intro command begun failed flushed
  have hfailed : ((attemptLine line).run world).value = failed := attemptLine_value line world
  have hevents : command.events = ((attemptLine line).run world).events
      ++ ((tell failed).run ((attemptLine line).run world).world).events := by
    rw [← hfailed]
    exact run_runLine line world
  obtain ⟨hafter, hquiet⟩ := quiet_attemptLine line world hworld
  refine ⟨exists_tokenize_world line world, fun failure hfailure => ?_, fun hnone => ?_,
    fun words hcall => ⟨?_, runLine_flushed warned hcall hworld⟩, fun world' => ?_⟩
  · rw [hevents, hfailure]
    exact (tell_reported hafter).append hquiet
  · have hnothing : command.events = ((attemptLine line).run world).events := by
      rw [hevents, hnone]
      exact List.append_nil _
    rw [hnothing]
    exact ⟨fun event hevent => (hquiet event hevent).1,
      Trace.reportWarnings_of_spares fun event hevent => (hquiet event hevent).2⟩
  · rw [runLine_hostCalls, hcall]
    rfl
  · rw [runLine_value, runLine_value]

end Session

namespace Stage

/-- On a stage that logs warnings at one time they always are. -/
def warned : World.Warned Stage where
  holds stage := stage.logs .warn
  keep _ _ hstage := hstage
  deliver sink message stage hstage := by
    change (stage.withChannel sink _).logs .warn
    rwa [logs, verbosity_withChannel]
  flush _ _ hstage := hstage
  changeDirectory _ stage hstage := by
    change (answerDirectory stage).2.logs .warn
    unfold answerDirectory
    split <;> exact hstage
  launch _ stage hstage := by
    change (answerLaunch stage).2.logs .warn
    unfold answerLaunch
    split <;> exact hstage
  wants entry stage hstage hentry := by
    change stage.logs entry.level
    rwa [hentry]
  launches _ _ := List.forall_mem_nil _

end Stage

/-- Commands that fail on a stage where all goes wrong, of whose reports the error channel takes three
bytes, and a line on it that attempts nothing. Then help where the page can be written but not flushed. -/
theorem Session.runLine_reports_refused :
    let refusing : Stage := { Stage.refusing with verbosity := some .warn }
    let unflushed : Stage := { Stage.plain with
      output := ⟨none, [], some (.plain .brokenPipe)⟩, verbosity := some .warn }
    let ran (stage : Stage) (line : String) : Trace := ((runLine (Bytes.ofString line)).run stage).events
    Stage.warned.holds refusing ∧ Stage.warned.holds unflushed ∧
      Reported (.builtin .missingTarget) (ran refusing "cd") ∧
      Reported (.builtin (.badTarget (Bytes.ofString "/nope") (.plain .notFound)))
        (ran refusing "cd /nope") ∧
      (ran refusing "cd /nope").accepted .error = Bytes.ofString "lis" ∧
      (ran refusing "cd /nope").reportWarnings.map Log.Entry.fields =
        [[⟨Bytes.ofString "error", .plain (Bytes.ofString "no storage space")⟩,
          ⟨Bytes.ofString "original", .plain (Bytes.ofString "cd: /nope")⟩]] ∧
      Reported (.builtin (.output .wholeBuffer)) (ran refusing "help") ∧
      Reported (.launch (.wait 2 .noChild)) (ran refusing "ls") ∧
      (ran refusing "ls").hostCalls = [.launch [Bytes.ofString "ls"]] ∧
      (ran refusing "ls").flushWarnings = [.flushFailed (.plain .brokenPipe)] ∧
      (ran refusing " ").reportWarnings = [] ∧
      Reported (.builtin (.output (.plain .brokenPipe))) (ran unflushed "help") := by
  intro refusing unflushed ran
  have hrefusing : Stage.warned.holds refusing := by
    have hlogs : refusing.logs .warn := by decide
    exact hlogs
  have hunflushed : Stage.warned.holds unflushed := by
    have hlogs : unflushed.logs .warn := by decide
    exact hlogs
  have hfails := fun line failure =>
    (runLine_reports Stage.warned (Bytes.ofString line) hrefusing).2.1 failure
  obtain ⟨-, -, -, hlaunch, -⟩ := runLine_reports Stage.warned (Bytes.ofString "ls") hrefusing
  obtain ⟨hcall, -, hflush⟩ := hlaunch [Bytes.ofString "ls"] (by decide)
  obtain ⟨-, -, hsilent, -⟩ := runLine_reports Stage.warned (Bytes.ofString " ") hrefusing
  obtain ⟨-, hhelp, -⟩ := runLine_reports Stage.warned (Bytes.ofString "help") hunflushed
  refine ⟨hrefusing, hunflushed, hfails "cd" _ (by decide), hfails "cd /nope" _ (by decide),
    by decide +kernel, by decide +kernel, hfails "help" _ (by decide +kernel),
    hfails "ls" _ (by decide), hcall, hflush.trans (by decide), (hsilent (by decide)).2,
    hhelp _ (by decide +kernel)⟩

end LineShell
