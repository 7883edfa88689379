import LineShell.Proofs.Environment
import LineShell.Proofs.Reports
import LineShell.Proofs.Stage
/-!
# Texts read back

Lines that are put one behind the other, each with its newline, are read back as they are. In which
chunks their text comes, and where a read is interrupted, has no part in it. Behind the last of them a
read comes to the end of input, and so does every later one.

Each of these reads has a prompt of its own. What all reads leave is one prompt and one read in turn, and
the prompt is out before the read fetches anything.
-/

namespace LineShell

/-- What a read leaves behind its prompt: it begins with a fetch, and nothing is in it but fetches and
log entries. -/
def Trace.IsRead (trace : Trace) : Prop :=
  trace.head? = some .fetched ∧ ∀ event ∈ trace, event.isOfRead

theorem Trace.IsRead.accepted {trace : Trace} (htrace : trace.IsRead) (sink : Sink) :
    trace.accepted sink = [] := by
  rw [Trace.accepted, List.flatMap_eq_nil_iff]
  intro event hevent
  have hread := htrace.2 event hevent
  cases event with
  | fetched | log => rfl
  | _ => exact absurd hread Bool.false_ne_true

theorem accepted_shownPrompt (prompt : Bytes) :
    (shownPrompt prompt).accepted .prompt = prompt := List.append_nil prompt

namespace Stream

variable {ω : Type} [World ω]

/-- Reads one line for each prompt, one read after the other. -/
def readLines : List Bytes → Stream → Act ω (List Reading × Stream)
  | [], stream => return ([], stream)
  | prompt :: prompts, stream => do
    let (reading, rest) ← stream.readLine prompt
    let (readings, last) ← readLines prompts rest
    return (reading :: readings, last)

/-! ### What one read takes -/

theorem Flowing.readsTo_line {stream : Stream} (hflowing : stream.Flowing) {line after : Bytes}
    (hline : newline ∉ line) (hcontent : stream.content = line ++ newline :: after) :
    ∃ rest, rest.content = after ∧ ReadsTo stream.answers (lineReading line) rest := by
  rcases hflowing.readsTo with ⟨line', rest, hline', hcontent', -, hreads⟩ | ⟨hnone, -⟩
  · -- There is one way only to cut a text at its first newline.
    have hcut : some (line, after) = some (line', rest.content) := by
      rw [← Bytes.cutAt_append hline, ← Bytes.cutAt_append hline', ← hcontent, hcontent']
    obtain ⟨rfl, rfl⟩ := Prod.mk.inj (Option.some.inj hcut)
    exact ⟨rest, rfl, hreads⟩
  · rw [hcontent] at hnone
    exact absurd (List.mem_append_right _ List.mem_cons_self) hnone

theorem Flowing.readsTo_endOfInput {stream : Stream} (hflowing : stream.Flowing)
    (hnone : newline ∉ stream.content) :
    ∃ rest, newline ∉ rest.content ∧ ReadsTo stream.answers .endOfInput rest := by
  rcases hflowing.readsTo with ⟨line, rest, -, hcontent, -, -⟩ | ⟨-, rest, hreads⟩
  · rw [hcontent] at hnone
    exact absurd (List.mem_append_right _ List.mem_cons_self) hnone
  · obtain ⟨taken, -, hcontent⟩ := hreads.takes
    rw [contentOf_answers] at hcontent
    rw [hcontent] at hnone
    exact ⟨rest, fun hmem => hnone (List.mem_append_right _ hmem), hreads⟩

/-! ### What one read leaves -/

theorem head?_scan (buffer : Buffer UInt8) (script : List Chunk) (world : ω) :
    ((scan buffer script).run world).events.head? = some .fetched := by
  cases script with
  | nil => rfl
  | cons chunk script => cases chunk <;> rfl

theorem isRead_nextLine (stream : Stream) (world : ω) :
    Trace.IsRead (stream.nextLine.run world).events := by
  refine ⟨head?_scan _ _ world, ?_⟩
  have hleaves : (stream.nextLine : Act ω _).Leaves (fun _ => True) (·.isOfRead = true) :=
    leaves_scan (P := (Event.isOfRead · = true)) rfl (fun _ _ _ _ => ⟨rfl, trivial⟩) _ _
  exact (hleaves world trivial).2

variable (reliable : World.Reliable ω .prompt)

theorem holds_readLine (prompt : Bytes) (stream : Stream) {world : ω} (hworld : reliable.holds world) :
    reliable.holds ((stream.readLine prompt).run world).world := by
  have hwithin : (stream.readLine prompt : Act ω _).Within reliable.toInvariant fun _ => True :=
    within_readLine (fun _ _ => trivial) trivial (fun _ => trivial) prompt stream
  exact (hwithin world hworld).1

theorem readLine_events (prompt : Bytes) (stream : Stream) {world : ω} (hworld : reliable.holds world) :
    ∃ read : Trace, read.IsRead ∧
      ((stream.readLine prompt).run world).events = shownPrompt prompt ++ read := by
  have hvalue := showPrompt_value reliable prompt hworld
  rcases showPrompt_cases prompt world with ⟨-, hshown⟩ | ⟨error, hfailed, -⟩
  · refine ⟨_, isRead_nextLine stream ((showPrompt prompt).run world).world, ?_⟩
    rw [readLine, Act.run_bind, hvalue, hshown]
  · rw [hvalue] at hfailed
    simp at hfailed

/-! ### Many reads -/

theorem readLines_events (prompts : List Bytes) (stream : Stream) {world : ω}
    (hworld : reliable.holds world) :
    ∃ reads : List Trace, reads.length = prompts.length ∧ (∀ read ∈ reads, read.IsRead) ∧
      ((readLines prompts stream).run world).events
        = (List.zipWith (shownPrompt · ++ ·) prompts reads).flatten := by
  induction prompts generalizing stream world with
  | nil => exact ⟨[], rfl, List.forall_mem_nil _, rfl⟩
  | cons prompt prompts ih =>
    obtain ⟨read, hread, hevents⟩ := readLine_events reliable prompt stream hworld
    obtain ⟨reads, hlength, hreads, hlater⟩ :=
      ih ((stream.readLine prompt).run world).value.2 (holds_readLine reliable prompt stream hworld)
    refine ⟨read :: reads, congrArg (· + 1) hlength, List.forall_mem_cons.2 ⟨hread, hreads⟩, ?_⟩
    simp only [readLines, Act.run_bind, Act.run_pure, List.append_nil, hevents, hlater]
    rfl

theorem accepted_zipWith_shownPrompt {prompts : List Bytes} {reads : List Trace}
    (hlength : reads.length = prompts.length) (hreads : ∀ read ∈ reads, read.IsRead) :
    Trace.accepted .prompt (List.zipWith (shownPrompt · ++ ·) prompts reads).flatten
      = prompts.flatten := by
  induction prompts generalizing reads with
  | nil => rfl
  | cons prompt prompts ih =>
    obtain ⟨read, reads, rfl⟩ := List.exists_cons_of_length_eq_add_one hlength
    obtain ⟨hread, hrest⟩ := List.forall_mem_cons.1 hreads
    rw [List.zipWith_cons_cons, List.flatten_cons, List.flatten_cons, Trace.accepted_append,
      Trace.accepted_append, accepted_shownPrompt, hread.accepted, List.append_nil,
      ih (Nat.succ.inj hlength) hrest]

theorem readLines_cons_value {prompt : Bytes} {stream rest : Stream} {reading : Reading} {world : ω}
    (hworld : reliable.holds world) (hreads : ReadsTo stream.answers reading rest)
    (prompts : List Bytes) :
    ∃ world', reliable.holds world' ∧
      ((readLines (prompt :: prompts) stream).run world).value
        = (reading :: ((readLines prompts rest).run world').value.1,
          ((readLines prompts rest).run world').value.2) := by
  refine ⟨_, holds_readLine reliable prompt stream hworld, ?_⟩
  simp only [readLines, Act.run_bind, Act.run_pure, readLine_value reliable prompt hworld hreads]

theorem readLines_of_no_newline {stream : Stream} (hflowing : stream.Flowing)
    (hnone : newline ∉ stream.content) (prompts : List Bytes) {world : ω}
    (hworld : reliable.holds world) :
    ((readLines prompts stream).run world).value.1 = List.replicate prompts.length .endOfInput ∧
      ((readLines prompts stream).run world).value.2.script <:+ stream.script := by
  induction prompts generalizing stream world with
  | nil => exact ⟨rfl, List.suffix_rfl⟩
  | cons prompt prompts ih =>
    obtain ⟨rest, hrest, hreads⟩ := hflowing.readsTo_endOfInput hnone
    obtain ⟨world', hworld', hvalue⟩ := readLines_cons_value reliable hworld hreads prompts
    obtain ⟨hreadings, hscript⟩ := ih (hflowing.of_readsTo hreads) hrest hworld'
    rw [hvalue]
    exact ⟨congrArg (.endOfInput :: ·) hreadings, hscript.trans hreads.suffix⟩

theorem readLines_value {lines : List Bytes} {tail : Bytes} (hlines : ∀ line ∈ lines, newline ∉ line)
    (htail : newline ∉ tail) {stream : Stream} (hflowing : stream.Flowing)
    (hcontent : stream.content = textOf lines ++ tail) (prompts : List Bytes) {world : ω}
    (hworld : reliable.holds world) :
    let reads := ((readLines prompts stream).run world).value
    reads.1 = (lines.take prompts.length).map lineReading
        ++ List.replicate (prompts.length - lines.length) .endOfInput ∧
      reads.2.script <:+ stream.script ∧
      (prompts.length ≤ lines.length →
        reads.2.content = textOf (lines.drop prompts.length) ++ tail) := by
  -- One prompt and one line at a time, until one of them runs out.
  induction lines generalizing stream prompts world with
  | nil =>
    obtain ⟨hreadings, hscript⟩ :=
      readLines_of_no_newline reliable hflowing (hcontent ▸ htail) prompts hworld
    refine ⟨by simpa using hreadings, hscript, fun hle => ?_⟩
    obtain rfl := List.length_eq_zero_iff.1 (Nat.le_zero.1 hle)
    exact hcontent
  | cons line lines ih =>
    cases prompts with
    | nil => exact ⟨by simp [readLines], List.suffix_rfl, fun _ => hcontent⟩
    | cons prompt prompts =>
      obtain ⟨hline, hrest⟩ := List.forall_mem_cons.1 hlines
      rw [textOf_cons, List.append_assoc] at hcontent
      obtain ⟨rest, hafter, hreads⟩ := hflowing.readsTo_line hline hcontent
      obtain ⟨world', hworld', hvalue⟩ := readLines_cons_value reliable hworld hreads prompts
      obtain ⟨hreadings, hscript, hleft⟩ :=
        ih hrest (hflowing.of_readsTo hreads) hafter prompts hworld'
      rw [hvalue]
      refine ⟨?_, hscript.trans hreads.suffix, fun hle => hleft (Nat.le_of_succ_le_succ hle)⟩
      simp [hreadings]

/-- The lines of a text come back in order, as many as there are prompts, and with more prompts than
lines each read behind the last line comes to the end of input. What is left of the text is left in
the stream. The channel for prompts takes the prompts in order, and each is flushed before the read
behind it begins to fetch. -/
theorem readLines_textOf {lines : List Bytes} {tail : Bytes} (hlines : ∀ line ∈ lines, newline ∉ line)
    (htail : newline ∉ tail) {script : List Chunk} (hscript : ∀ chunk ∈ script, chunk.Flows)
    (hcontent : contentOf script = textOf lines ++ tail) (prompts : List Bytes) {world : ω}
    (hworld : reliable.holds world) :
    let reads := (readLines prompts (ofChunks script)).run world
    reads.value.1 = (lines.take prompts.length).map lineReading
        ++ List.replicate (prompts.length - lines.length) .endOfInput ∧
      reads.value.2.script <:+ script ∧
      (prompts.length ≤ lines.length →
        reads.value.2.content = textOf (lines.drop prompts.length) ++ tail) ∧
      reads.events.accepted .prompt = prompts.flatten ∧
      ∃ traces : List Trace, traces.length = prompts.length ∧ (∀ trace ∈ traces, trace.IsRead) ∧
        reads.events = (List.zipWith (shownPrompt · ++ ·) prompts traces).flatten := by
  intro reads
  have hflowing : (ofChunks script).Flowing := hscript
  have hstream : (ofChunks script).content = textOf lines ++ tail := hcontent
  obtain ⟨hreadings, hsuffix, hleft⟩ :=
    readLines_value reliable hlines htail hflowing hstream prompts hworld
  obtain ⟨traces, hlength, htraces, hevents⟩ :=
    readLines_events reliable prompts (ofChunks script) hworld
  have haccepted : reads.events.accepted .prompt = prompts.flatten := by
    rw [hevents, accepted_zipWith_shownPrompt hlength htraces]
  exact ⟨hreadings, hsuffix, hleft, haccepted, traces, hlength, htraces, hevents⟩

/-- Two lines, the second of them empty, and something behind them, in chunks that are cut anywhere and
with an interruption between two of them. The third prompt and the fourth get no line. -/
theorem readLines_textOf_chunks :
    let script : List Chunk := [.bytes (Bytes.ofString "l"), .failure (.plain .interrupted),
      .bytes (Bytes.ofString "s\n\nec"), .bytes (Bytes.ofString "ho")]
    let prompts := ["a", "b", "c", "d"].map Bytes.ofString
    let reads := (readLines prompts (ofChunks script)).run Stage.refusing
    (∀ chunk ∈ script, chunk.Flows) ∧
      contentOf script = textOf [Bytes.ofString "ls", []] ++ Bytes.ofString "echo" ∧
      reads.value.1 = [lineReading (Bytes.ofString "ls"), lineReading [], .endOfInput, .endOfInput] ∧
      reads.events.accepted .prompt = Bytes.ofString "abcd" := by
  intro script prompts reads
  have hscript : ∀ chunk ∈ script, chunk.Flows := by decide
  have hcontent : contentOf script = textOf [Bytes.ofString "ls", []] ++ Bytes.ofString "echo" := by
    decide
  have hstage : (Stage.reliable .prompt).holds .refusing := rfl
  have hlines : ∀ line ∈ [Bytes.ofString "ls", []], newline ∉ line := by decide
  have htail : newline ∉ Bytes.ofString "echo" := by decide
  obtain ⟨hreadings, -, -, haccepted, -⟩ :=
    readLines_textOf (Stage.reliable .prompt) hlines htail hscript hcontent prompts hstage
  exact ⟨hscript, hcontent, hreadings, haccepted⟩

end Stream

end LineShell
