import LineShell.Proofs.Environment
/-!
# Texts one behind the other

A session keeps nothing between two lines but what is left of its stream. So a session over two
texts, one behind the other, is a session over the first and then one over the second, if the first
is made of whole lines and none of them leaves the session. Only the prompt at the end of the first
is not shown. If a line of the first leaves the session, what stands behind that line is not read,
and the second text makes no difference.

The chunks of the two texts together need not be those of each: one of them may hold the end of the
first and the beginning of the second.
-/

namespace LineShell.Session

variable {ω ε : Type} [World ω]

theorem goesOn_of_not_isExit {lines : List Bytes} (hlines : ∀ line ∈ lines, isExit line = false) :
    ∀ reading ∈ lines.map Stream.lineReading, reading.goesOn := by
  intro reading hreading
  obtain ⟨line, hline, rfl⟩ := List.mem_map.1 hreading
  rw [Stream.lineReading, Reading.goesOn, hlines line hline, Bool.not_false]

/-- The first line that leaves a session, with the lines in front of it and the text behind it. -/
theorem exists_first_isExit {text : Bytes} (hexit : ∃ line ∈ Stream.linesOf text, isExit line = true) :
    ∃ front line after, text = Stream.textOf (front ++ [line]) ++ after ∧
      (∀ other ∈ front, isExit other = false) ∧ isExit line = true ∧
      ∀ other ∈ front ++ [line], Stream.newline ∉ other := by
  obtain ⟨fragment, htext, -, hlines⟩ := Stream.exists_linesOf text
  obtain ⟨found, hfound⟩ := Option.isSome_iff_exists.1 (List.find?_isSome.2 hexit)
  obtain ⟨hfound, front, behind, hsplit, hfront⟩ := List.find?_eq_some_iff_append.1 hfound
  refine ⟨front, found, Stream.textOf behind ++ fragment, ?_, ?_, hfound, ?_⟩
  · rw [htext, hsplit, List.append_cons, Stream.textOf_append, List.append_assoc]
  · exact fun other hother => by simpa using hfront other hother
  · intro other hother
    have hmem : other ∈ front ++ [found] ++ behind := List.mem_append_left _ hother
    rw [← List.append_cons, ← hsplit] at hmem
    exact hlines other hmem

section Stopped

variable {environment : World.Environment ω ε} {reliable : World.Reliable ω .prompt} {prompt : Bytes}
  {front : List Bytes} {line : Bytes} {script : List Chunk} {after : Bytes} {world : ω}

/-- A session over chunks of lines of which the last, and no other, leaves the session. Whatever
stands behind that line is left. -/
theorem run_of_isExit (hfront : ∀ other ∈ front, isExit other = false) (hexit : isExit line = true)
    (hlines : ∀ other ∈ front ++ [line], Stream.newline ∉ other)
    (hscript : ∀ chunk ∈ script, chunk.Flows)
    (hcontent : Stream.contentOf script = Stream.textOf (front ++ [line]) ++ after)
    (hworld : reliable.holds world) :
    let session := (run prompt (Stream.ofChunks script)).run world
    let alone := iterate ((front ++ [line]).map Stream.lineReading) world
    (∃ marks, Sound environment prompt marks alone session) ∧ alone.result = .ok .stopped ∧
      session.value.source.content = after := by
  intro session alone
  have hmarks : (Stream.ofChunks script).marks
      = (Stream.textOf (front ++ [line])).map .byte ++ after.map .byte := by
    rw [Stream.marks_ofChunks, Stream.marksOf_of_flows hscript, hcontent, List.map_append]
  have hreadings : Stream.readings [] (Stream.ofChunks script).marks
      = (front ++ [line]).map Stream.lineReading ++ Stream.readings [] (after.map .byte) := by
    rw [hmarks, Stream.readings_textOf hlines]
  have hends : ∃ reading ∈ (front ++ [line]).map Stream.lineReading, ¬ reading.goesOn := by
    refine ⟨Stream.lineReading line, by simp, ?_⟩
    rw [Stream.lineReading, Reading.goesOn, hexit]
    exact Bool.false_ne_true
  have hsound := run_iterate environment reliable prompt hreadings hworld rfl
  rw [iterate_append_of_ends hends] at hsound
  have hsound : Sound environment prompt (Stream.ofChunks script).marks alone session :=
    hsound.withUnread alone.unread
  obtain ⟨hstopped, hlength⟩ : alone.result = .ok .stopped ∧
      alone.traces.length = (front.map Stream.lineReading).length + 1 := by
    have halone : alone = iterate (front.map Stream.lineReading ++ [Stream.lineReading line]) world :=
      congrArg (iterate · world) List.map_append
    rw [halone]
    exact iterate_of_isExit (goesOn_of_not_isExit hfront) hexit world
  refine ⟨⟨_, hsound⟩, hstopped, Stream.content_of_marks ?_⟩
  have hrequests : alone.requests = (front ++ [line]).length := by
    rw [Iteration.requests, hstopped]
    simpa using hlength
  rw [hsound.source, hrequests, hmarks, Stream.behind_textOf hlines]

end Stopped

/-- A session over two texts, in any chunks. If the first is made of whole lines that do not leave the
session, the session does to the environment what one session over the first and then another over
the second do, ends as the other does, and shows one prompt less than these. If a line of the first
leaves the session, the session goes as over the first alone, and what is behind the newline of the
first such line is left unread. -/
theorem run_concatenation (environment : World.Environment ω ε) (reliable : World.Reliable ω .prompt)
    (prompt : Bytes) {first second whole : List Chunk} (hfirst : ∀ chunk ∈ first, chunk.Flows)
    (hsecond : ∀ chunk ∈ second, chunk.Flows) (hwhole : ∀ chunk ∈ whole, chunk.Flows)
    (hcontent : Stream.contentOf whole = Stream.contentOf first ++ Stream.contentOf second)
    {world : ω} (hworld : reliable.holds world) :
    let lines := Stream.linesOf (Stream.contentOf first)
    let one := (run prompt (Stream.ofChunks first)).run world
    let two := (run prompt (Stream.ofChunks second)).run one.world
    let both := (run prompt (Stream.ofChunks whole)).run world
    (Stream.textOf lines = Stream.contentOf first → (∀ line ∈ lines, isExit line = false) →
      one.value.result = .ok .endOfInput ∧ both.value.result = two.value.result ∧
        both.events.environment = one.events.environment ++ two.events.environment ∧
        environment.part both.world = environment.part two.world ∧
        one.events.ofPrompt ++ two.events.ofPrompt = shownPrompt prompt ++ both.events.ofPrompt) ∧
    ((∃ line ∈ lines, isExit line = true) →
      one.value.result = .ok .stopped ∧ both.value.result = .ok .stopped ∧
        both.events.environment = one.events.environment ∧
        environment.part both.world = environment.part one.world ∧
        both.events.ofPrompt = one.events.ofPrompt ∧
        ∃ front line after, Stream.contentOf first = Stream.textOf (front ++ [line]) ++ after ∧
          (∀ other ∈ front, isExit other = false) ∧ isExit line = true ∧
          (∀ other ∈ front ++ [line], Stream.newline ∉ other) ∧
          one.value.source.content = after ∧
          both.value.source.content = after ++ Stream.contentOf second) := by
  intro lines one two both
  refine ⟨fun htext hnone => ?_, fun hexit => ?_⟩
  · have hlines : ∀ line ∈ lines, Stream.newline ∉ line := by
      obtain ⟨-, -, -, hlines⟩ := Stream.exists_linesOf (Stream.contentOf first)
      exact hlines
    have hgo := goesOn_of_not_isExit hnone
    have hmarks : (Stream.ofChunks first).marks = (Stream.textOf lines).map .byte ++ [] := by
      rw [Stream.marks_ofChunks, Stream.marksOf_of_flows hfirst, htext, List.append_nil]
    have hmarks' : (Stream.ofChunks whole).marks
        = (Stream.textOf lines).map .byte ++ (Stream.ofChunks second).marks := by
      rw [Stream.marks_ofChunks, Stream.marks_ofChunks, Stream.marksOf_of_flows hwhole,
        Stream.marksOf_of_flows hsecond, hcontent, htext, List.map_append]
    have hreadings : Stream.readings [] (Stream.ofChunks first).marks
        = lines.map Stream.lineReading := by
      rw [hmarks, Stream.readings_textOf hlines]
      exact List.append_nil _
    have hreadings' : Stream.readings [] (Stream.ofChunks whole).marks
        = lines.map Stream.lineReading ++ Stream.readings [] (Stream.ofChunks second).marks := by
      rw [hmarks', Stream.readings_textOf hlines]
    obtain ⟨hafter, -⟩ := within_run (within_readLine_shown reliable environment prompt)
      (fun _ => Event.promptFailure?_of_isOfCommand) (Stream.ofChunks first) world hworld
    have hone := run_iterate environment reliable prompt hreadings hworld rfl
    have hrest : Stream.readings [] (Stream.ofChunks second).marks = _ := rfl
    have htwo := run_iterate environment reliable prompt hrest hafter hone.part
    have hboth := run_iterate environment reliable prompt hreadings' hworld rfl
    rw [iterate_append_of_goesOn hgo] at hboth
    obtain ⟨hresult, -⟩ := iterate_of_goesOn hgo world
    have hrequests : (iterate (lines.map Stream.lineReading) world).requests
        = (iterate (lines.map Stream.lineReading) world).traces.length + 1 := by
      rw [Iteration.requests, hresult]
    refine ⟨hone.result.trans hresult, hboth.result.trans htwo.result.symm, ?_,
      hboth.part.trans htwo.part.symm, ?_⟩
    · rw [hboth.events, hone.events, htwo.events, ← Trace.environment_append, ← List.flatten_append]
    · rw [hone.prompts, htwo.prompts, hboth.prompts, requests_append, hrequests, shownPrompts_succ,
        shownPrompts_add, List.append_assoc]
  · obtain ⟨front, line, after, htext, hfront, hexit, hlines⟩ := exists_first_isExit hexit
    have hwhole' : Stream.contentOf whole
        = Stream.textOf (front ++ [line]) ++ (after ++ Stream.contentOf second) := by
      rw [hcontent, htext, List.append_assoc]
    obtain ⟨⟨_, hone⟩, hstopped, hafter⟩ := run_of_isExit hfront hexit hlines hfirst htext hworld
    obtain ⟨⟨_, hboth⟩, -, hbehind⟩ := run_of_isExit hfront hexit hlines hwhole hwhole' hworld
    exact ⟨hone.result.trans hstopped, hboth.result.trans hstopped, hboth.events.trans hone.events.symm,
      hboth.part.trans hone.part.symm, hboth.prompts.trans hone.prompts.symm,
      front, line, after, htext, hfront, hexit, hlines, hafter, hbehind⟩

/-- With all but the prompt failing: a chunk that holds the end of the first text and the beginning of
the second, and then a first text with a line that leaves the session. -/
theorem run_concatenation_refusing :
    let first : List Chunk := [.bytes (Bytes.ofString "cd /a\nls"), .bytes (Bytes.ofString " b\n")]
    let leaving : List Chunk := [.bytes (Bytes.ofString "help\nexit 1\ncd")]
    let second : List Chunk := [.bytes (Bytes.ofString "help\nexit\nls\n")]
    let whole : List Chunk := [.bytes (Bytes.ofString "cd /a\nls b\nhe"), .failure (.plain .interrupted),
      .bytes (Bytes.ofString "lp\nexit\nls\n")]
    let session (script : List Chunk) (stage : Stage) := (run [36] (Stream.ofChunks script)).run stage
    let one := session first .refusing
    let two := session second one.world
    let both := session whole .refusing
    both.value.result = two.value.result ∧
      both.events.environment = one.events.environment ++ two.events.environment ∧
      one.events.ofPrompt ++ two.events.ofPrompt = shownPrompt [36] ++ both.events.ofPrompt ∧
      (session (leaving ++ second) .refusing).value.result = .ok .stopped ∧
      (session (leaving ++ second) .refusing).events.environment
        = (session leaving .refusing).events.environment := by
  intro first leaving second whole session one two both
  have hfirst : ∀ chunk ∈ first, chunk.Flows := by decide
  have hleaving : ∀ chunk ∈ leaving, chunk.Flows := by decide
  have hsecond : ∀ chunk ∈ second, chunk.Flows := by decide
  have hwhole : ∀ chunk ∈ whole, chunk.Flows := by decide
  have hbehind : ∀ chunk ∈ leaving ++ second, chunk.Flows := by decide
  have hstage : (Stage.reliable .prompt).holds .refusing := rfl
  obtain ⟨hgo, -⟩ := run_concatenation Stage.environment (Stage.reliable .prompt) [36] hfirst hsecond
    hwhole (by decide) hstage
  obtain ⟨-, hresult, hevents, -, hprompts⟩ := hgo (by decide) (by decide)
  obtain ⟨-, hstop⟩ := run_concatenation Stage.environment (Stage.reliable .prompt) [36] hleaving
    hsecond hbehind (by decide) hstage
  obtain ⟨-, hstopped, hsame, -⟩ := hstop (by decide)
  exact ⟨hresult, hevents, hprompts, hstopped, hsame⟩

end LineShell.Session
