import LineShell.Proofs.Given
import LineShell.Proofs.Runs
/-!
# Blank lines

A line without words is read and forgotten. It does nothing to the environment, and a session keeps
nothing from one line to the next, so blank lines may stand anywhere among the readings of a source: to
the environment it is the session without them. All that they cost is a request each, as far as they are
read. A line that is abandoned in the editor is such a line.
-/

namespace LineShell

/-- A reading that a source gives, or a blank line that is put among its readings. -/
inductive Slot where
  | given (reading : Reading)
  | blank (line : Line) (isGap : IsGap line.bytes)

namespace Slot

def reading : Slot → Reading
  | .given reading => reading
  | .blank line _ => .line line

def given? : Slot → Option Reading
  | .given reading => some reading
  | .blank .. => none

def isBlank (slot : Slot) : Bool := slot.given?.isNone

def goesOn (slot : Slot) : Bool := slot.reading.goesOn

/-- How many blank lines are read: those in front of the reading that ends the session. -/
def blanksRead (slots : List Slot) : Nat := (slots.takeWhile goesOn).countP isBlank

theorem isExit_of_isGap {line : Bytes} (hgap : IsGap line) : isExit line = false := by
  rw [isExit, wordsOf_eq_nil_iff.2 hgap]
  rfl

theorem blanksRead_blank {line : Line} (hgap : IsGap line.bytes) (rest : List Slot) :
    blanksRead (.blank line hgap :: rest) = blanksRead rest + 1 := by
  have hgoes : goesOn (.blank line hgap) := by
    rw [goesOn, reading, Reading.goesOn, isExit_of_isGap hgap, Bool.not_false]
  rw [blanksRead, List.takeWhile_cons_of_pos hgoes]
  exact List.countP_cons_of_pos rfl

theorem blanksRead_given (reading : Reading) (rest : List Slot) :
    blanksRead (.given reading :: rest) = if reading.goesOn then blanksRead rest else 0 := by
  rw [blanksRead, List.takeWhile_cons]
  have hgoes : goesOn (.given reading) = reading.goesOn := rfl
  rw [hgoes]
  split
  · exact List.countP_cons_of_neg Bool.false_ne_true
  · rfl

end Slot

namespace Session

variable {ω ε : Type} [World ω]

/-- A blank line is cut into no words, which is logged, and that is all. -/
theorem runLine_blank (environment : World.Environment ω ε) {line : Bytes} (hgap : IsGap line) (world : ω) :
    Trace.environment ((runLine line).run world).events = [] ∧
      environment.part ((runLine line).run world).world = environment.part world := by
  have hlog : ∀ entry world', environment.part world' = environment.part world →
      Logger.wants entry world' → (Event.log entry).isOfEnvironment = false ∧
        environment.part (Logger.keep entry world') = environment.part world :=
    fun entry world' hsame _ => ⟨rfl, (environment.keep entry world').trans hsame⟩
  have htokenize : (tokenize line : Act ω _).Leaves
      (fun world' => environment.part world' = environment.part world) (·.isOfEnvironment = false) :=
    (Act.leaves_logAll fun entry _ => hlog entry).bind fun _ =>
      (Act.leaves_log (hlog _)).bind fun _ => Act.leaves_pure _
  obtain ⟨hpart, hevents⟩ := htokenize world rfl
  have hnothing : Trace.environment ((tokenize line).run world).events = [] :=
    List.filter_eq_nil_iff.2 fun event hevent => Bool.eq_false_iff.1 (hevents event hevent)
  rw [runLine, Act.run_bind, tokenize_value, wordsOf_eq_nil_iff.2 hgap]
  refine ⟨?_, hpart⟩
  rw [Trace.environment_append, hnothing]
  rfl

theorem iterate_slots (environment : World.Environment ω ε) (slots : List Slot) {world world' : ω}
    (hsame : environment.part world' = environment.part world) :
    let plain := iterate (slots.filterMap Slot.given?) world
    let spaced := iterate (slots.map Slot.reading) world'
    spaced.result = plain.result ∧
      Trace.environment spaced.traces.flatten = Trace.environment plain.traces.flatten ∧
      environment.part spaced.world = environment.part plain.world ∧
      spaced.requests = plain.requests + Slot.blanksRead slots := by
  induction slots generalizing world world' with
  | nil => exact ⟨rfl, rfl, hsame, rfl⟩
  | cons slot rest ih =>
    cases slot with
    | blank line hgap =>
      obtain ⟨hnothing, hpart⟩ := runLine_blank environment hgap world'
      obtain ⟨hresult, hevents, hlast, hrequests⟩ := ih (hpart.trans hsame)
      intro plain spaced
      have hspaced : spaced = _ := iterate_line_of_not_isExit (Slot.isExit_of_isGap hgap) _ world'
      rw [hspaced]
      refine ⟨hresult, ?_, hlast, ?_⟩
      · dsimp only
        rw [List.flatten_cons, Trace.environment_append, hnothing]
        exact hevents
      · rw [requests_cons, hrequests, Slot.blanksRead_blank, Nat.add_assoc]
        rfl
    | given reading =>
      intro plain spaced
      rw [Slot.blanksRead_given]
      cases reading with
      | endOfInput | failed => exact ⟨rfl, rfl, hsame, rfl⟩
      | line line =>
        have hpaired : Act.Paired environment.pairing (runLine line.bytes) (runLine line.bytes) :=
          paired_runLine line.bytes
        obtain ⟨-, hwatched, hafter⟩ := hpaired hsame
        have hcommand : Trace.environment ((runLine line.bytes).run world').events
            = Trace.environment ((runLine line.bytes).run world).events := hwatched
        cases hexit : isExit line.bytes with
        | true =>
          have hplain : plain = _ := iterate_line_of_isExit hexit _ world
          have hspaced : spaced = _ := iterate_line_of_isExit hexit _ world'
          rw [hplain, hspaced]
          refine ⟨rfl, ?_, hafter, ?_⟩
          · rw [List.flatten_singleton, List.flatten_singleton, hcommand]
          · simp [Iteration.requests, Reading.goesOn, hexit]
        | false =>
          have hplain : plain = _ := iterate_line_of_not_isExit hexit _ world
          have hspaced : spaced = _ := iterate_line_of_not_isExit hexit _ world'
          rw [hplain, hspaced]
          obtain ⟨hresult, hevents, hlast, hrequests⟩ := ih hafter
          refine ⟨hresult, ?_, hlast, ?_⟩
          · dsimp only
            rw [List.flatten_cons, List.flatten_cons, Trace.environment_append, Trace.environment_append,
              hcommand]
            exact congrArg _ hevents
          · have hgoes : (Reading.line line).goesOn := by rw [Reading.goesOn, hexit, Bool.not_false]
            rw [requests_cons, requests_cons, hrequests, if_pos hgoes]
            omega

/-- A session that does the same as another one to the environment and ends in the same way, and makes a
number of requests more. -/
structure SameBut {σ σ' : Type} [LineSource σ ω] [LineSource σ' ω] (environment : World.Environment ω ε)
    (more : Nat) (prompt : Bytes) (source : σ) (world : ω) (prompt' : Bytes) (source' : σ') (world' : ω) :
    Prop where
  result : ((run prompt' source').run world').value.result = ((run prompt source).run world).value.result
  events : ((run prompt' source').run world').events.environment
    = ((run prompt source).run world).events.environment
  part : environment.part ((run prompt' source').run world').world
    = environment.part ((run prompt source).run world).world
  requests : requestsOf prompt' source' world' = requestsOf prompt source world + more

theorem run_follows {σ : Type} [LineSource σ ω] {environment : World.Environment ω ε}
    {invariant : World.Invariant ω} {prompt : Bytes} {readings : List Reading} {source : σ}
    (hgives : Gives environment invariant prompt readings source) {world : ω}
    (hworld : invariant.holds world) :
    let session := (run prompt source).run world
    let alone := iterate readings world
    session.value.result = alone.result ∧
      session.events.environment = Trace.environment alone.traces.flatten ∧
      environment.part session.world = environment.part alone.world ∧
      requestsOf prompt source world = alone.requests := by
  intro session alone
  have hfollows := runFrom_given hgives hworld rfl 0
  obtain ⟨hresult, -, hevents, hlast⟩ := runFrom_counted prompt source 0 world
  refine ⟨hresult.symm.trans hfollows.result, ?_, ?_, hfollows.requests.trans (Nat.zero_add _)⟩
  · exact (congrArg Trace.environment hevents).symm.trans hfollows.events
  · exact (congrArg environment.part hlast).symm.trans hfollows.part

theorem sameBut_of_gives {σ σ' : Type} [LineSource σ ω] [LineSource σ' ω]
    {environment : World.Environment ω ε} {invariant invariant' : World.Invariant ω}
    {prompt prompt' : Bytes} {slots : List Slot} {source : σ} {source' : σ'}
    (hgives : Gives environment invariant prompt (slots.filterMap Slot.given?) source)
    (hgives' : Gives environment invariant' prompt' (slots.map Slot.reading) source') {world world' : ω}
    (hworld : invariant.holds world) (hworld' : invariant'.holds world')
    (hsame : environment.part world' = environment.part world) :
    SameBut environment (Slot.blanksRead slots) prompt source world prompt' source' world' := by
  obtain ⟨hresult, hevents, hpart, hrequests⟩ := run_follows hgives hworld
  obtain ⟨hresult', hevents', hpart', hrequests'⟩ := run_follows hgives' hworld'
  obtain ⟨hends, htraces, hlast, hmore⟩ := iterate_slots environment slots hsame
  refine ⟨hresult'.trans (hends.trans hresult.symm), hevents'.trans (htraces.trans hevents.symm),
    hpart'.trans (hlast.trans hpart.symm), ?_⟩
  rw [hrequests', hmore, hrequests]

end Session

namespace EditorAnswer

def isInterrupted (answer : EditorAnswer) : Bool := answer = .failed .interrupted

def slot (answer : EditorAnswer) : Slot :=
  if answer.isInterrupted then .blank ⟨[], 0⟩ (List.forall_mem_nil _) else .given answer.given

theorem reading_slot (answer : EditorAnswer) : answer.slot.reading = answer.given := by
  unfold slot
  split <;> rename_i hanswer
  · rw [of_decide_eq_true hanswer]
    rfl
  · rfl

theorem filterMap_slot (answers : List EditorAnswer) :
    (answers.map slot).filterMap Slot.given? = (answers.filter (!·.isInterrupted)).map given := by
  induction answers with
  | nil => rfl
  | cons answer rest ih =>
    rw [List.map_cons, slot]
    cases hanswer : answer.isInterrupted with
    | true =>
      rw [List.filter_cons_of_neg (by simp [hanswer])]
      exact ih
    | false =>
      rw [List.filter_cons_of_pos (by simp [hanswer]), List.map_cons, ← ih]
      rfl

end EditorAnswer

namespace Session

variable {ω ε : Type} [World ω]

/-- Blank lines are neutral. Take a source, and another one that gives the same readings with blank lines
anywhere among them. Sessions over the two end in the same way, leave the same writes, flushes and calls
to the host in the same order and the same environment, and make the same requests but for one to each
blank line that is read. So abandoned lines of an editor can be left out. -/
theorem run_blanks (environment : World.Environment ω ε) {world world' : ω}
    (hsame : environment.part world' = environment.part world) :
    (∀ {σ σ' : Type} [LineSource σ ω] [LineSource σ' ω] (invariant invariant' : World.Invariant ω)
        (prompt prompt' : Bytes) (slots : List Slot) (source : σ) (source' : σ'),
      invariant.holds world → invariant'.holds world' →
        Gives environment invariant prompt (slots.filterMap Slot.given?) source →
        Gives environment invariant' prompt' (slots.map Slot.reading) source' →
          SameBut environment (Slot.blanksRead slots) prompt source world prompt' source' world') ∧
      ∀ (prompt prompt' : Bytes) (answers : List EditorAnswer),
        let plain : Editor := ⟨answers.filter (!·.isInterrupted)⟩
        SameBut environment (Slot.blanksRead (answers.map EditorAnswer.slot)) prompt plain world prompt'
          (⟨answers⟩ : Editor) world' := by
  refine ⟨fun invariant invariant' prompt prompt' slots source source' hworld hworld' hgives hgives' =>
    sameBut_of_gives hgives hgives' hworld hworld' hsame, fun prompt prompt' answers => ?_⟩
  have hplain := gives_editor environment prompt (answers.filter (!·.isInterrupted))
  have hspaced := gives_editor environment prompt' answers
  have hreadings : answers.map EditorAnswer.given = (answers.map EditorAnswer.slot).map Slot.reading := by
    simp [EditorAnswer.reading_slot]
  rw [← EditorAnswer.filterMap_slot] at hplain
  rw [hreadings] at hspaced
  exact sameBut_of_gives hplain hspaced trivial trivial hsame

/-- Blank lines in front of a command, behind one that fails, in front of the line that leaves the session
and behind it, where everything is refused and in one of the two sessions all is logged. -/
theorem run_blanks_refusing :
    let line (text : String) : Reading := .line ⟨Bytes.ofString text, 128⟩
    let empty : Slot := .blank ⟨[], 0⟩ (List.forall_mem_nil _)
    let spaces : Slot := .blank ⟨[32, 9, 13], 128⟩ (by simp [IsGap, delimiters])
    let slots : List Slot := [empty, .given (line "help"), .given (line "cd /no"), spaces, empty,
      .given (line "ls -l"), spaces, .given (line "exit"), empty]
    let plain : ScriptedSource := ⟨["help", "cd /no", "ls -l", "exit"].map line⟩
    let spaced : ScriptedSource := ⟨slots.map Slot.reading⟩
    let stage : Stage := { Stage.refusing with verbosity := some .trace }
    Stage.environment.part stage = Stage.environment.part .refusing ∧
      SameBut Stage.environment 4 [36] plain .refusing [36] spaced stage := by
  intro line empty spaces slots plain spaced stage
  have hsame : Stage.environment.part stage = Stage.environment.part .refusing := rfl
  obtain ⟨hsources, -⟩ := run_blanks Stage.environment hsame
  exact ⟨hsame, hsources (.always _) (.always _) [36] [36] slots plain spaced trivial trivial
    (gives_scripted _ _ _) (gives_scripted _ _ _)⟩

end Session

end LineShell
