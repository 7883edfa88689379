import LineShell.Proofs.Prompt
import LineShell.Proofs.Session
import LineShell.Proofs.Stage
/-!
# Host calls of a session

What a session asks of the host is a matter of the text it reads. The lines of the text are those
that a newline ends. Each of them makes one call or none, as its words say, and the first line that
leaves the session is the last one looked at. Neither the way the text comes in nor any failure of
the output, the error channel or the host has a part in it.
-/

namespace LineShell

inductive HostCall where
  | changeDirectory (target : Bytes)
  | launch (arguments : List Bytes)
  deriving DecidableEq, Repr

def Event.hostCall? : Event → Option HostCall
  | .changeDirectory target => some (.changeDirectory target)
  | .launch arguments => some (.launch arguments)
  | _ => none

def HostCall.event : HostCall → Event
  | .changeDirectory target => .changeDirectory target
  | .launch arguments => .launch arguments

def Trace.hostCalls (trace : Trace) : List HostCall := trace.filterMap Event.hostCall?

def HostCall.ofWords? : List Bytes → Option HostCall
  | [] => none
  | name :: arguments =>
    if name = Bytes.ofString "cd" then arguments.head?.map .changeDirectory
    else if name = Bytes.ofString "help" ∨ name = Bytes.ofString "exit" then none
    else some (.launch (name :: arguments))

/-- Whether a line leaves the session. -/
def isExit (line : Bytes) : Bool := (wordsOf line).head? = some (Bytes.ofString "exit")

/-- The calls to the host that some lines make, up to the first line that leaves the session. -/
def HostCall.ofLines (lines : List Bytes) : List HostCall :=
  (lines.takeWhile fun line => !isExit line).filterMap fun line => ofWords? (wordsOf line)

/-- How a session over some lines ends. -/
def Termination.ofLines (lines : List Bytes) : Termination :=
  if lines.any isExit then .stopped else .endOfInput

/-! ### Lines, one by one -/

theorem HostCall.ofLines_of_isExit {line : Bytes} (hexit : isExit line = true) (lines : List Bytes) :
    ofLines (line :: lines) = [] := by
  simp [ofLines, hexit]

theorem HostCall.ofLines_of_not_isExit {line : Bytes} (hexit : isExit line = false)
    (lines : List Bytes) :
    ofLines (line :: lines) = (ofWords? (wordsOf line)).toList ++ ofLines lines := by
  rw [ofLines, List.takeWhile_cons_of_pos (by rw [hexit, Bool.not_false])]
  cases hcall : ofWords? (wordsOf line) <;> simp [ofLines, hcall]

theorem Termination.ofLines_of_isExit {line : Bytes} (hexit : isExit line = true)
    (lines : List Bytes) : ofLines (line :: lines) = .stopped := by
  simp [ofLines, hexit]

theorem Termination.ofLines_of_not_isExit {line : Bytes} (hexit : isExit line = false)
    (lines : List Bytes) : ofLines (line :: lines) = ofLines lines := by
  simp [ofLines, hexit]

theorem HostCall.ofWords?_of_isExit {line : Bytes} (hexit : isExit line = true) :
    ofWords? (wordsOf line) = none := by
  obtain ⟨arguments, hwords⟩ := List.head?_eq_some_iff.1 (of_decide_eq_true hexit)
  have hcd : Bytes.ofString "exit" ≠ Bytes.ofString "cd" := by decide
  rw [hwords, ofWords?, if_neg hcd, if_pos (Or.inr rfl)]

/-! ### Calls of a command -/

@[simp] theorem Trace.hostCalls_append (front rest : Trace) :
    Trace.hostCalls (front ++ rest) = front.hostCalls ++ rest.hostCalls := List.filterMap_append

theorem Trace.hostCalls_of_none {trace : Trace} (htrace : ∀ event ∈ trace, event.hostCall? = none) :
    trace.hostCalls = [] := List.filterMap_eq_nil_iff.2 htrace

theorem HostCall.event_mem_iff (call : HostCall) {trace : Trace} :
    call.event ∈ trace ↔ call ∈ trace.hostCalls := by
  rw [Trace.hostCalls, List.mem_filterMap]
  constructor
  · intro hevent
    refine ⟨call.event, hevent, ?_⟩
    cases call <;> rfl
  · rintro ⟨event, hevent, hcall⟩
    cases event <;> simp [Event.hostCall?] at hcall <;> subst hcall <;> exact hevent

theorem Event.hostCall?_of_sink {event : Event} {sink : Sink} (hsink : event.sink? = some sink) :
    event.hostCall? = none := by
  cases event <;> simp_all [hostCall?, sink?]

theorem Event.hostCall?_of_isOfLaunch {event : Event} (hlaunch : event.isOfLaunch) :
    event.hostCall? = none := by
  cases event <;> simp_all [hostCall?, isOfLaunch]

variable {ω : Type}

theorem Act.hostCalls_bind {α β : Type} (action : Act ω α) (next : α → Act ω β) (world : ω) :
    ((action >>= next).run world).events.hostCalls =
      (action.run world).events.hostCalls ++
        ((next (action.run world).value).run (action.run world).world).events.hostCalls :=
  Trace.hostCalls_append _ _

variable [World ω]

/-- An action that makes no call to the host, whatever the world does. -/
def Act.Silent {α : Type} (action : Act ω α) : Prop :=
  action.Within (.always ω) (·.hostCall? = none)

theorem Act.Silent.hostCalls {α : Type} {action : Act ω α} (haction : action.Silent) (world : ω) :
    (action.run world).events.hostCalls = [] :=
  Trace.hostCalls_of_none (haction.events world)

theorem Act.launch_hostCalls (words : List Bytes) (world : ω) :
    ((Act.launch words).run world).events.hostCalls = [.launch words] := by
  have hquiet : ((World.launch words).run world).events.hostCalls = [] :=
    Trace.hostCalls_of_none fun event hevent =>
      Event.hostCall?_of_isOfLaunch (World.launch_events words world event hevent)
  rw [Act.launch, Act.hostCalls_bind]
  exact congrArg (HostCall.launch words :: ·) hquiet

theorem Builtin.settle_silent (result : Option BuiltinError) : (settle result : Act ω _).Silent :=
  within_settle (fun _ => rfl) (fun _ => Event.hostCall?_of_sink) result

theorem Builtin.run_hostCalls (builtin : Builtin) (words : List Bytes) (world : ω) :
    ((builtin.run words).run world).events.hostCalls =
      if builtin = .changeDirectory then words[1]?.toList.map .changeDirectory else [] := by
  cases builtin with
  | changeDirectory =>
    rw [run, if_pos rfl, Act.hostCalls_bind, (settle_silent _).hostCalls, List.append_nil, goTo]
    cases words[1]? <;> rfl
  | help =>
    have hshow : (showHelp : Act ω _).Silent := within_showHelp fun _ => Event.hostCall?_of_sink
    exact Act.Silent.hostCalls (Act.Within.bind hshow settle_silent) world
  | exit => rfl

namespace Session

theorem launch_hostCalls (words : List Bytes) (world : ω) :
    ((launch words).run world).events.hostCalls = [.launch words] := by
  have hflush : (Act.flush .output : Act ω _).Silent := Act.within_flush fun _ => Event.hostCall?_of_sink
  have hnote : ∀ failure, (noteFlush failure : Act ω _).Silent := within_noteFlush fun _ => rfl
  have hreport : ∀ result, (reportLaunch result : Act ω _).Silent :=
    within_reportLaunch (fun _ => rfl) fun _ => Event.hostCall?_of_sink
  rw [launch_eq]
  simp only [Act.hostCalls_bind, hflush.hostCalls, (hnote _).hostCalls, (hreport _).hostCalls,
    Act.launch_hostCalls, List.nil_append, List.append_nil]

theorem execute_hostCalls (words : List Bytes) (world : ω) :
    ((execute words).run world).events.hostCalls = (HostCall.ofWords? words).toList := by
  have hlog : ∀ entry : Log.Entry, (Act.log entry : Act ω _).Silent := Act.within_log fun _ => rfl
  cases words with
  | nil => rfl
  | cons name arguments =>
    simp only [execute, HostCall.ofWords?]
    have hlookup : ∀ builtin, Builtin.lookup name = some builtin ↔ name = builtin.name := fun _ =>
      Builtin.lookup_eq_some_iff
    split <;> rename_i hname
    · rename_i builtin
      obtain rfl := (hlookup builtin).1 hname
      rw [Act.hostCalls_bind, (hlog _).hostCalls, List.nil_append, Builtin.run_hostCalls]
      cases builtin with
      | changeDirectory => cases arguments <;> rfl
      | help => rfl
      | exit => rfl
    · have hother : ∀ builtin : Builtin, name ≠ builtin.name := fun builtin heq => by
        rw [(hlookup builtin).2 heq] at hname
        exact absurd hname (Option.some_ne_none _)
      have hcd : name ≠ Bytes.ofString "cd" := hother .changeDirectory
      have hrest : ¬ (name = Bytes.ofString "help" ∨ name = Bytes.ofString "exit") :=
        not_or.2 ⟨hother .help, hother .exit⟩
      rw [if_neg hcd, if_neg hrest, Act.hostCalls_bind, launch_hostCalls]
      rfl

/-- A line makes the call that its words say, and no other. -/
theorem runLine_hostCalls (line : Bytes) (world : ω) :
    ((runLine line).run world).events.hostCalls = (HostCall.ofWords? (wordsOf line)).toList := by
  have htokenize : (tokenize line : Act ω _).Silent := within_tokenize (fun _ => rfl) line
  rw [runLine, Act.hostCalls_bind, htokenize.hostCalls, tokenize_value, execute_hostCalls,
    List.nil_append]

theorem runLine_event_mem_iff (call : HostCall) {line : Bytes} {world : ω} :
    call.event ∈ ((runLine line).run world).events ↔
      HostCall.ofWords? (wordsOf line) = some call := by
  rw [HostCall.event_mem_iff, runLine_hostCalls, Option.mem_toList]

/-! ### Calls of a session -/

theorem flow_of_isExit {line : Bytes} (hexit : isExit line = true) (world : ω) :
    ((runLine line).run world).value = .stop := by
  rw [runLine_value, if_pos (of_decide_eq_true hexit)]

theorem flow_of_not_isExit {line : Bytes} (hexit : isExit line = false) (world : ω) :
    ((runLine line).run world).value = .next := by
  rw [runLine_value, if_neg (of_decide_eq_false hexit)]

theorem within_readLine {invariant : World.Invariant ω} (prompt : Bytes) (stream : Stream) :
    (LineSource.readLine prompt stream : Act ω _).Within invariant (·.hostCall? = none) :=
  Stream.within_readLine (fun _ => Event.hostCall?_of_sink) rfl (fun _ => rfl) prompt stream

theorem readLine_hostCalls (prompt : Bytes) (stream : Stream) (world : ω) :
    ((LineSource.readLine prompt stream).run world).events.hostCalls = [] :=
  Act.Silent.hostCalls (within_readLine prompt stream) world

/-- What a session over a stream asks of the host, and how it ends, is said by the lines to come. -/
theorem runFrom_flowing (reliable : World.Reliable ω .prompt) (prompt : Bytes) {lines : List Bytes}
    {stream : Stream} (hflowing : stream.Flowing) (hlines : Stream.linesOf stream.content = lines)
    {world : ω} (hworld : reliable.holds world) :
    (runFrom prompt stream world).events.hostCalls = HostCall.ofLines lines ∧
      (runFrom prompt stream world).value.result = .ok (Termination.ofLines lines) := by
  -- The lines to come decide when the session ends, so the induction is on them.
  induction lines generalizing stream world with
  | nil =>
    rcases hflowing.readsTo with ⟨line, rest, hline, hcontent, -⟩ | ⟨-, rest, hreads⟩
    · rw [hcontent, Stream.linesOf_append hline] at hlines
      exact absurd hlines (List.cons_ne_nil _ _)
    · have hnote : (Act.log .endOfInput : Act ω Unit).Silent := Act.within_log (fun _ => rfl) _
      rw [runFrom_of_endOfInput (Stream.readLine_value reliable prompt hworld hreads)]
      refine ⟨?_, rfl⟩
      dsimp only
      rw [Trace.hostCalls_append, readLine_hostCalls, hnote.hostCalls]
      rfl
  | cons line lines ih =>
    rcases hflowing.readsTo with ⟨first, rest, hfirst, hcontent, hrest, hreads⟩ | ⟨hnone, -⟩
    · rw [hcontent, Stream.linesOf_append hfirst] at hlines
      obtain ⟨rfl, hlater⟩ := List.cons.inj hlines
      have hreading := Stream.readLine_value reliable prompt hworld hreads
      cases hexit : isExit first with
      | true =>
        rw [runFrom_of_stop hreading (flow_of_isExit hexit _), HostCall.ofLines_of_isExit hexit,
          Termination.ofLines_of_isExit hexit]
        refine ⟨?_, rfl⟩
        dsimp only
        rw [Trace.hostCalls_append, readLine_hostCalls, runLine_hostCalls,
          HostCall.ofWords?_of_isExit hexit]
        rfl
      | false =>
        have hmiddle : reliable.holds ((LineSource.readLine prompt stream).run world).world :=
          (within_readLine prompt stream world hworld).1
        have hnext := (within_runLine first _ hmiddle).1
        obtain ⟨hcalls, hresult⟩ := ih hrest hlater hnext
        rw [runFrom_of_next hreading (flow_of_not_isExit hexit _),
          HostCall.ofLines_of_not_isExit hexit, Termination.ofLines_of_not_isExit hexit]
        refine ⟨?_, hresult⟩
        dsimp only
        rw [Trace.hostCalls_append, Trace.hostCalls_append, readLine_hostCalls, runLine_hostCalls,
          hcalls, List.nil_append]
    · rw [Stream.linesOf_of_not_mem hnone] at hlines
      exact absurd hlines.symm (List.cons_ne_nil _ _)

/-- A session over any chunks of a text asks the host for what the lines of the text say, in their
order, and for nothing else: the lines that a newline ends, up to the first one that leaves. It ends
by that line or else at the end of the text. The chunks and the interruptions between them have no
part in it, and of all channels and answers of the host only the prompt must be shown. -/
theorem run_chunks_hostCalls (reliable : World.Reliable ω .prompt) (prompt : Bytes) {script : List Chunk}
    (hscript : ∀ chunk ∈ script, chunk.Flows) {world : ω} (hworld : reliable.holds world) :
    let session := (run prompt (Stream.ofChunks script)).run world
    let lines := Stream.linesOf (Stream.contentOf script)
    session.events.hostCalls = HostCall.ofLines lines ∧
      session.value.result = .ok (Termination.ofLines lines) := by
  have hflowing : (Stream.ofChunks script).Flowing := hscript
  exact runFrom_flowing reliable prompt hflowing rfl hworld

/-- Two chunks that cut a word, with an interruption between them, where every channel but that of
the prompt fails and the host refuses. -/
theorem run_chunks_hostCalls_refusing :
    let script : List Chunk := [.bytes (Bytes.ofString "ls -l\nhelp\ncd\nc"),
      .failure (.plain .interrupted), .bytes (Bytes.ofString "d /tmp\n exit 1\nls\n")]
    let session := (run [36] (Stream.ofChunks script)).run Stage.refusing
    (∀ chunk ∈ script, chunk.Flows) ∧ (Stage.reliable .prompt).holds .refusing ∧
      session.events.hostCalls = [.launch [Bytes.ofString "ls", Bytes.ofString "-l"],
        .changeDirectory (Bytes.ofString "/tmp")] ∧
      session.value.result = .ok .stopped := by
  intro script session
  have hscript : ∀ chunk ∈ script, chunk.Flows := by decide
  have hstage : (Stage.reliable .prompt).holds .refusing := rfl
  obtain ⟨hcalls, hresult⟩ := run_chunks_hostCalls (Stage.reliable .prompt) [36] hscript hstage
  refine ⟨hscript, hstage, hcalls.trans ?_, hresult.trans (congrArg Except.ok ?_)⟩
  · decide
  · decide

end Session

end LineShell
