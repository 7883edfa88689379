import LineShell.Proofs.BlankLines
import LineShell.Proofs.Joining
import LineShell.Proofs.Texts
/-!
# Lines from an editor and lines from a stream

Without a terminal an editor and a stream take the same text apart at the same newlines. They do not give
the same lines: the editor takes the carriage return in front of a newline for a part of the line end, and
the stream leaves it in the line. But it is a delimiter, so the words are the same, and a session sees no
more of a line than its words.
-/

namespace LineShell

/-! ### What is rubbed out -/

namespace Editor

/-- One cluster: it is put behind what is left of those before it, in reverse, or rubs out the last. -/
def rubStep (state : Bytes × List Nat) (cluster : Bytes) : Bytes × List Nat :=
  if cluster = [8] then
    match state.2 with
    | [] => state
    | size :: rest => (state.1.drop size, rest)
  else (cluster.reverse ++ state.1, cluster.length % 256 :: state.2)

theorem rubOut_eq (text : Bytes) : rubOut text = ((Text.clusters text).foldl rubStep ([], [])).1.reverse := rfl

theorem rubOut_of_not_mem {text : Bytes} (htext : Utf8.IsText text) (hbackspace : 8 ∉ text) :
    rubOut text = text := by
  have hfold : ∀ (clusters : List Bytes) (state : Bytes × List Nat), 8 ∉ clusters.flatten →
      (clusters.foldl rubStep state).1 = clusters.flatten.reverse ++ state.1 := by
    intro clusters
    induction clusters with
    | nil => intro state _; rfl
    | cons cluster clusters ih =>
      intro state hnone
      rw [List.flatten_cons, List.mem_append, not_or] at hnone
      have hcluster : cluster ≠ [8] := by
        rintro rfl
        exact hnone.1 List.mem_cons_self
      rw [List.foldl_cons, ih _ hnone.2, rubStep, if_neg hcluster]
      simp
  rw [rubOut_eq, hfold _ _ (by rwa [Text.flatten_clusters htext]), Text.flatten_clusters htext]
  simp

/-! ### What an editor is relied on for -/

/-- The line with its line end as a text and without that, or the failure if it is no text. -/
def lineAnswer (line : Bytes) : EditorAnswer :=
  if Utf8.isValid line then .text (withoutLineEnd line) else .failed (.io .notUtf8)

/-- What an editor without a terminal is relied on to answer: the lines of a text, one after the other,
each without its line end, and then that the input is at its end. The last line need not be ended. -/
inductive Takes : Bytes → List EditorAnswer → Prop
  | atEnd : Takes [] []
  | ended (later : List EditorAnswer) : Takes [] (.failed .endOfFile :: later)
  | line {line rest : Bytes} {answers : List EditorAnswer} (hline : Stream.newline ∉ line)
      (hrest : Takes rest answers) :
      Takes (line ++ Stream.newline :: rest) (lineAnswer (line ++ [Stream.newline]) :: answers)
  | fragment {line : Bytes} {answers : List EditorAnswer} (hsome : line ≠ [])
      (hline : Stream.newline ∉ line) (hrest : Takes [] answers) :
      Takes line (lineAnswer line :: answers)

theorem withoutLineEnd_concat (line : Bytes) : withoutLineEnd (line ++ [Stream.newline])
    = if line.getLast? = some 13 then line.dropLast else line := by
  simp [withoutLineEnd, Stream.newline]

theorem wordsOf_withoutLineEnd (line : Bytes) :
    wordsOf (withoutLineEnd (line ++ [Stream.newline])) = wordsOf line := by
  rw [withoutLineEnd_concat]
  split
  · rename_i hlast
    obtain ⟨front, rfl⟩ := List.getLast?_eq_some_iff.1 hlast
    rw [List.dropLast_concat, wordsOf_concat front (by decide)]
  · rfl

theorem withoutLineEnd_subset (line : Bytes) : withoutLineEnd line ⊆ line := by
  have hdrop : ∀ bytes : Bytes, bytes.dropLast ⊆ bytes := fun bytes => (List.dropLast_sublist bytes).subset
  unfold withoutLineEnd
  split
  · split
    · exact fun byte hbyte => hdrop line (hdrop line.dropLast hbyte)
    · exact hdrop line
  · exact List.Subset.refl line

theorem isText_withoutLineEnd {line : Bytes} (htext : Utf8.IsText line) :
    Utf8.IsText (withoutLineEnd line) := by
  have hdrop : ∀ {bytes : Bytes} {last : UInt8}, last < 0x80 → bytes.getLast? = some last →
      Utf8.IsText bytes → Utf8.IsText bytes.dropLast := by
    intro bytes last hascii hlast hbytes
    obtain ⟨front, rfl⟩ := List.getLast?_eq_some_iff.1 hlast
    rw [List.dropLast_concat]
    exact (hbytes.of_append_ascii hascii).1
  unfold withoutLineEnd
  split
  · rename_i hnewline
    have hline := hdrop (by decide) hnewline htext
    split
    · rename_i hreturn
      exact hdrop (by decide) hreturn hline
    · exact hline
  · exact htext

/-- Where there is nothing to rub out the editor answers as it is relied on to do. -/
theorem answerTo_of_not_mem {line : Bytes} (hsome : line ≠ []) (hbackspace : 8 ∉ line) :
    answerTo line = lineAnswer line := by
  rw [answerTo, if_neg (by simpa using hsome), lineAnswer]
  by_cases hvalid : Utf8.isValid line
  · have hnone : 8 ∉ withoutLineEnd line := fun hmem => hbackspace (withoutLineEnd_subset line hmem)
    have htext := isText_withoutLineEnd (Utf8.isValid_iff.1 hvalid)
    rw [if_pos hvalid, if_pos hvalid, rubOut_of_not_mem htext hnone]
  · rw [if_neg hvalid, if_neg hvalid]

theorem takes_textOf {lines : List Bytes} (hlines : ∀ line ∈ lines, Stream.newline ∉ line ∧ 8 ∉ line) :
    Takes (Stream.textOf lines) (lines.map fun line => answerTo (line ++ [Stream.newline])) := by
  induction lines with
  | nil => exact .atEnd
  | cons line lines ih =>
    obtain ⟨⟨hline, hbackspace⟩, hrest⟩ := List.forall_mem_cons.1 hlines
    have hnone : 8 ∉ line ++ [Stream.newline] := by
      simp [hbackspace, Stream.newline]
    rw [List.map_cons, Stream.textOf_cons, answerTo_of_not_mem (by simp) hnone]
    exact .line hline (ih hrest)

end Editor

/-! ### Readings that a session cannot tell apart -/

namespace Session

/-- Lines with the same words, one by one. Behind them there is no more to read. -/
inductive Alike : List Reading → List Reading → Prop
  | nil : Alike [] []
  | ended (later : List Reading) : Alike [] (.endOfInput :: later)
  | line {line line' : Line} {rest rest' : List Reading} (hwords : wordsOf line'.bytes = wordsOf line.bytes)
      (hrest : Alike rest rest') : Alike (.line line :: rest) (.line line' :: rest')

variable {ω ε : Type} [World ω]

theorem runLine_congr {line line' : Bytes} (hwords : wordsOf line' = wordsOf line) :
    (runLine line' : Act ω _) = runLine line := by
  rw [runLine, runLine, tokenize, tokenize, hwords]

theorem iterate_alike {readings readings' : List Reading} (halike : Alike readings readings') (world : ω) :
    (iterate readings' world).result = (iterate readings world).result ∧
      (iterate readings' world).traces = (iterate readings world).traces ∧
      (iterate readings' world).world = (iterate readings world).world := by
  induction halike generalizing world with
  | nil => exact ⟨rfl, rfl, rfl⟩
  | ended later => exact ⟨rfl, rfl, rfl⟩
  | @line line line' rest rest' hwords _ ih =>
    rw [iterate_line, iterate_line, runLine_congr hwords]
    dsimp only
    split
    · exact ⟨rfl, rfl, rfl⟩
    · obtain ⟨hresult, htraces, hworld⟩ := ih ((runLine line.bytes).run world).world
      exact ⟨hresult, by rw [htraces], hworld⟩

theorem iterate_of_same (environment : World.Environment ω ε) (readings : List Reading) {world world' : ω}
    (hsame : environment.part world' = environment.part world) :
    (iterate readings world').result = (iterate readings world).result ∧
      Trace.environment (iterate readings world').traces.flatten
        = Trace.environment (iterate readings world).traces.flatten ∧
      environment.part (iterate readings world').world = environment.part (iterate readings world).world ∧
      (iterate readings world').requests = (iterate readings world).requests := by
  have hgiven : (readings.map Slot.given).filterMap Slot.given? = readings := by
    rw [List.filterMap_map]
    exact List.filterMap_some
  have hreading : (readings.map Slot.given).map Slot.reading = readings := by
    rw [List.map_map]
    exact List.map_id _
  have hblanks : Slot.blanksRead (readings.map Slot.given) = 0 := by
    refine List.countP_eq_zero.2 fun slot hslot => ?_
    obtain ⟨reading, -, rfl⟩ := List.mem_map.1 ((List.takeWhile_prefix _).mem hslot)
    exact Bool.false_ne_true
  have hslots := iterate_slots environment (readings.map Slot.given) hsame
  rwa [hgiven, hreading, hblanks] at hslots

theorem sameBut_of_alike {σ σ' : Type} [LineSource σ ω] [LineSource σ' ω]
    {environment : World.Environment ω ε} {invariant invariant' : World.Invariant ω}
    {prompt prompt' : Bytes} {readings readings' : List Reading} (halike : Alike readings readings')
    {source : σ} {source' : σ'} (hgives : Gives environment invariant prompt readings source)
    (hgives' : Gives environment invariant' prompt' readings' source') {world world' : ω}
    (hworld : invariant.holds world) (hworld' : invariant'.holds world')
    (hsame : environment.part world' = environment.part world) :
    SameBut environment 0 prompt source world prompt' source' world' := by
  obtain ⟨hresult, hevents, hpart, hrequests⟩ := run_follows hgives hworld
  obtain ⟨hresult', hevents', hpart', hrequests'⟩ := run_follows hgives' hworld'
  obtain ⟨hmoved, hshown, hlast, hcount⟩ := iterate_of_same environment readings' hsame
  obtain ⟨hends, htraces, hafter⟩ := iterate_alike halike world
  have hasked : (iterate readings' world).requests = (iterate readings world).requests := by
    rw [Iteration.requests, Iteration.requests, hends, htraces]
  refine ⟨?_, ?_, ?_, ?_⟩
  · rw [hresult', hmoved, hends, hresult]
  · rw [hevents', hshown, htraces, hevents]
  · rw [hpart', hlast, hafter, hpart]
  · rw [hrequests', hcount, hasked, hrequests, Nat.add_zero]

end Session

namespace Editor

/-- What an editor takes from a text is to a session what a stream reads of it. -/
theorem Takes.alike {text : Bytes} {answers : List EditorAnswer} (htakes : Takes text answers)
    (htext : Utf8.IsText text) (hended : text = [] ∨ text.getLast? = some Stream.newline) :
    Session.Alike (Stream.readings [] (text.map .byte)) (answers.map EditorAnswer.given) := by
  induction htakes with
  | atEnd => exact .nil
  | ended later => exact .ended _
  | @line line rest answers hline _ ih =>
    have hcut : Utf8.IsText line ∧ Utf8.IsText rest := htext.of_append_ascii (by decide)
    have hwhole : Utf8.IsText (line ++ [Stream.newline]) :=
      hcut.1.append (Utf8.IsCharacter.isText (Utf8.isCharacter_one_iff.2 (by decide)))
    have hrest : rest = [] ∨ rest.getLast? = some Stream.newline := by
      cases rest with
      | nil => exact .inl rfl
      | cons byte rest =>
        refine .inr ?_
        simpa using hended
    have hreadings : Stream.readings [] ((line ++ Stream.newline :: rest).map .byte)
        = Stream.lineReading line :: Stream.readings [] (rest.map .byte) := by
      have hlines := Stream.readings_textOf (List.forall_mem_singleton.2 hline) (rest.map .byte)
      simpa using hlines
    rw [hreadings, List.map_cons, lineAnswer, if_pos (Utf8.isValid_iff.2 hwhole)]
    exact .line (wordsOf_withoutLineEnd line) (ih hcut.2 hrest)
  | fragment hsome hline _ _ =>
    rcases hended with hnil | hlast
    · exact absurd hnil hsome
    · exact absurd (List.mem_of_getLast? hlast) hline

end Editor

/-! ### What the environment sees -/

namespace Trace

theorem hostCalls_environment (trace : Trace) : Trace.hostCalls trace.environment = trace.hostCalls := by
  rw [Trace.hostCalls, Trace.environment, List.filterMap_filter]
  refine List.filterMap_congr fun event _ => ?_
  cases event <;> first | rfl | (split <;> rfl)

theorem accepted_environment {sink : Sink} (hsink : sink ≠ .prompt) (trace : Trace) :
    Trace.accepted sink trace.environment = Trace.accepted sink trace := by
  induction trace with
  | nil => rfl
  | cons event trace ih =>
    have hcons : Trace.accepted sink (event :: trace) = event.accepted sink ++ Trace.accepted sink trace :=
      List.flatMap_cons
    rw [hcons, ← ih, Trace.environment, List.filter_cons]
    split <;> rename_i henvironment
    · exact List.flatMap_cons
    · have hnothing : event.accepted sink = [] := by
        cases event with
        | wrote other bytes =>
          cases other with
          | output | error => exact absurd rfl henvironment
          | prompt => exact if_neg hsink.symm
        | _ => rfl
      rw [hnothing, List.nil_append]
      rfl

end Trace

namespace Session

variable {ω ε : Type} [World ω]

/-- The two kinds of line sources agree. Take a text whose lines are all ended, a stream of its bytes in
whatever chunks, and an editor that takes the text as it is relied on to do. To an environment that is the
same for both, sessions over the two are the same: they end in the same way, do the same writes, flushes
and calls to the host in the same order, and leave the same environment. -/
theorem run_edited (environment : World.Environment ω ε) (reliable : World.Reliable ω .prompt)
    {text : Bytes} (htext : Utf8.IsText text) (hended : text = [] ∨ text.getLast? = some Stream.newline)
    {script : List Chunk} (hflows : ∀ chunk ∈ script, chunk.Flows) (hscript : Stream.contentOf script = text)
    {answers : List EditorAnswer} (htakes : Editor.Takes text answers) (prompt prompt' : Bytes)
    {world world' : ω} (hworld : reliable.holds world)
    (hsame : environment.part world' = environment.part world) :
    let read := (run prompt (Stream.ofChunks script)).run world
    let edited := (run prompt' (⟨answers⟩ : Editor)).run world'
    SameBut environment 0 prompt (Stream.ofChunks script) world prompt' (⟨answers⟩ : Editor) world' ∧
      edited.events.hostCalls = read.events.hostCalls ∧
      ∀ sink, sink ≠ .prompt → edited.events.accepted sink = read.events.accepted sink := by
  intro read edited
  have hmarks : (Stream.ofChunks script).marks = text.map .byte := by
    rw [Stream.marks_ofChunks, Stream.marksOf_of_flows hflows, hscript]
  have hstream : Gives environment reliable.toInvariant prompt (Stream.readings [] (text.map .byte))
      (Stream.ofChunks script) := gives_stream environment reliable prompt (by rw [hmarks])
  have hedited : SameBut environment 0 prompt (Stream.ofChunks script) world prompt' (⟨answers⟩ : Editor) world' :=
    sameBut_of_alike (htakes.alike htext hended) hstream (gives_editor environment prompt' answers) hworld
      trivial hsame
  refine ⟨hedited, ?_, fun sink hsink => ?_⟩
  · rw [← Trace.hostCalls_environment edited.events, hedited.events, Trace.hostCalls_environment]
  · rw [← Trace.accepted_environment hsink edited.events, hedited.events, Trace.accepted_environment hsink]

/-- Lines that end in one carriage return, in several and in none, on a stage that refuses what it is
asked. The editor is the one that rubs out, and has nothing to rub out here. -/
theorem run_edited_returns :
    let lines := ["ls -l\r", "\r", "cd /no\r\r", "a\rb", "help", "exit\r", "ls"].map Bytes.ofString
    let text := Stream.textOf lines
    let script : List Chunk := [.bytes (text.take 6), .failure (.plain .interrupted), .bytes (text.drop 6)]
    let answers := lines.map fun line => Editor.answerTo (line ++ [Stream.newline])
    let stage : Stage := { Stage.refusing with verbosity := some .trace }
    let read := (run [36] (Stream.ofChunks script)).run Stage.refusing
    let edited := (run [62] (⟨answers⟩ : Editor)).run stage
    Utf8.IsText text ∧ Editor.Takes text answers ∧
      SameBut Stage.environment 0 [36] (Stream.ofChunks script) .refusing [62] (⟨answers⟩ : Editor) stage ∧
      edited.events.hostCalls = read.events.hostCalls := by
  intro lines text script answers stage read edited
  have htext : Utf8.IsText text := Utf8.isValid_iff.1 (by decide +kernel)
  have htakes : Editor.Takes text answers := Editor.takes_textOf (by decide +kernel)
  have hflows : ∀ chunk ∈ script, chunk.Flows := by decide +kernel
  have hscript : Stream.contentOf script = text := by decide +kernel
  have hended : text = [] ∨ text.getLast? = some Stream.newline := .inr (by decide +kernel)
  have hprompt : (Stage.reliable .prompt).holds Stage.refusing := rfl
  have hpart : Stage.environment.part stage = Stage.environment.part .refusing := rfl
  obtain ⟨hsame, hcalls, -⟩ := run_edited Stage.environment (Stage.reliable .prompt) htext hended hflows
    hscript htakes [36] [62] hprompt hpart
  exact ⟨htext, htakes, hsame, hcalls⟩

end Session

end LineShell
