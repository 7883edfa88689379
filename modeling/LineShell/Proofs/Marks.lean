import LineShell.Proofs.Stream
/-!
# Streams without their chunks

What counts in a stream is which bytes come, and where between them the input ends or fails. How the
bytes are cut into chunks does not count, and interruptions do not. The marks of a stream are what
is left if both are forgotten, and what a read comes to can be said of them alone: two streams with
the same marks give the same readings, and after each reading they have the same marks again.

`Stream.readings` are all the readings that a stream gives, one read after the other. They are those
of a first part of the marks followed by those of the rest, where the line that the first part has
begun goes on.
-/

namespace LineShell

/-- What counts in a stream: a byte, an end of input that more may follow, or a failure for good. -/
inductive Mark where
  | byte (byte : UInt8)
  | pause
  | failure (error : IoError)
  deriving DecidableEq, Repr

/-- The marks of an answer. An interruption has none. -/
def Chunk.marks : Chunk → List Mark
  | .bytes content => if content = [] then [.pause] else content.map .byte
  | .failure error => if error.interrupts then [] else [.failure error]

def Mark.byte? : Mark → Option UInt8
  | .byte value => some value
  | .pause | .failure _ => none

theorem Chunk.Passes.flows {chunk : Chunk} (hchunk : chunk.Passes) : chunk.Flows := by
  cases chunk with
  | bytes content => exact hchunk.1
  | failure error => exact hchunk

namespace Stream

def marksOf (script : List Chunk) : List Mark := script.flatMap Chunk.marks

def marks (stream : Stream) : List Mark := marksOf stream.answers

/-- What one read comes to, if `begun` is read of its line already, and the marks it leaves. -/
def readMarks (begun : Bytes) : List Mark → Reading × List Mark
  | [] => (.endOfInput, [])
  | .byte byte :: marks =>
    if byte = newline then (lineReading begun, marks) else readMarks (begun ++ [byte]) marks
  | .pause :: marks => (.endOfInput, marks)
  | .failure error :: marks => (.failed (.io error), marks)

/-- The readings that marks give, one after the other, if `begun` is read of the first line already.
Behind the last of them the input is at its end. -/
def readings (begun : Bytes) : List Mark → List Reading
  | [] => []
  | .byte byte :: marks =>
    if byte = newline then lineReading begun :: readings [] marks
    else readings (begun ++ [byte]) marks
  | .pause :: marks => .endOfInput :: readings [] marks
  | .failure error :: marks => .failed (.io error) :: readings [] marks

/-- What is begun of a line behind the last reading that marks give. -/
def fragment (begun : Bytes) : List Mark → Bytes
  | [] => begun
  | .byte byte :: marks =>
    if byte = newline then fragment [] marks else fragment (begun ++ [byte]) marks
  | .pause :: marks | .failure _ :: marks => fragment [] marks

/-- The marks behind a number of reads. -/
def behind : Nat → List Mark → List Mark
  | 0, marks => marks
  | count + 1, marks => behind count (readMarks [] marks).2

/-! ### Marks of answers -/

@[simp] theorem marksOf_nil : marksOf [] = [] := rfl

@[simp] theorem marksOf_cons (chunk : Chunk) (script : List Chunk) :
    marksOf (chunk :: script) = chunk.marks ++ marksOf script := List.flatMap_cons

@[simp] theorem marksOf_append (front rest : List Chunk) :
    marksOf (front ++ rest) = marksOf front ++ marksOf rest := List.flatMap_append

theorem marks_ofChunks (script : List Chunk) : (ofChunks script).marks = marksOf script := rfl

theorem marks_mk (pending : Bytes) (script : List Chunk) :
    (⟨pending, script⟩ : Stream).marks = pending.map .byte ++ marksOf script := by
  unfold marks answers
  split <;> rename_i hpending
  · have hnil : pending = [] := List.isEmpty_iff.1 hpending
    simp [hnil]
  · have hne : pending ≠ [] := fun hnil => hpending (List.isEmpty_iff.2 hnil)
    simp [Chunk.marks, hne]

theorem marksOf_of_flows {script : List Chunk} (hscript : ∀ chunk ∈ script, chunk.Flows) :
    marksOf script = (contentOf script).map .byte := by
  induction script with
  | nil => rfl
  | cons chunk script ih =>
    have hchunk := hscript chunk List.mem_cons_self
    rw [marksOf_cons, contentOf_cons, List.map_append,
      ih fun other hother => hscript other (List.mem_cons_of_mem _ hother)]
    cases chunk with
    | bytes content => rw [Chunk.marks, if_neg hchunk, Chunk.content]
    | failure error =>
      change error.interrupts = true at hchunk
      rw [Chunk.marks, if_pos hchunk, Chunk.content, List.map_nil]

theorem marksOf_of_passes {passed : List Chunk} (hpassed : ∀ chunk ∈ passed, chunk.Passes) :
    marksOf passed = (contentOf passed).map .byte :=
  marksOf_of_flows fun chunk hchunk => (hpassed chunk hchunk).flows

/-! ### One read -/

theorem readMarks_bytes {bytes : Bytes} (hbytes : newline ∉ bytes) (begun : Bytes)
    (marks : List Mark) :
    readMarks begun (bytes.map .byte ++ marks) = readMarks (begun ++ bytes) marks := by
  induction bytes generalizing begun with
  | nil => simp
  | cons byte bytes ih =>
    obtain ⟨hbyte, hrest⟩ := not_or.1 (mt List.mem_cons.2 hbytes)
    rw [List.map_cons, List.cons_append, readMarks, if_neg (Ne.symm hbyte), ih hrest,
      List.append_assoc]
    rfl

theorem readMarks_line {line : Bytes} (hline : newline ∉ line) (marks : List Mark) :
    readMarks [] ((line ++ [newline]).map .byte ++ marks) = (lineReading line, marks) := by
  rw [List.map_append, List.append_assoc, readMarks_bytes hline]
  simp [readMarks]

/-- What a read comes to is decided by the marks. -/
theorem ReadsTo.readMarks {script : List Chunk} {reading : Reading} {rest : Stream}
    (hreads : ReadsTo script reading rest) :
    Stream.readMarks [] (marksOf script) = (reading, rest.marks) := by
  cases hreads with
  | @line passed before after rest hpassed hbefore =>
    have hnewline := newline_not_mem_contentOf hpassed
    have hchunk : (Chunk.bytes (before ++ newline :: after)).marks
        = before.map .byte ++ .byte newline :: after.map .byte := by
      simp [Chunk.marks]
    rw [marksOf_append, marksOf_cons, marksOf_of_passes hpassed, hchunk, readMarks_bytes hnewline,
      List.append_assoc, readMarks_bytes hbefore, marks_mk]
    simp [Stream.readMarks]
  | @failed passed error rest hpassed herror =>
    rw [marksOf_append, marksOf_cons, marksOf_of_passes hpassed,
      readMarks_bytes (newline_not_mem_contentOf hpassed), Chunk.marks, if_neg herror, marks_mk]
    rfl
  | @paused passed rest hpassed =>
    rw [marksOf_append, marksOf_cons, marksOf_of_passes hpassed,
      readMarks_bytes (newline_not_mem_contentOf hpassed), Chunk.marks, if_pos rfl, marks_mk]
    rfl
  | ended hpassed =>
    have hread := readMarks_bytes (newline_not_mem_contentOf hpassed) [] []
    rw [List.append_nil] at hread
    rw [marksOf_of_passes hpassed, hread]
    rfl

/-- A read of a stream is a read of its marks, whatever is logged meanwhile. -/
theorem nextLine_marks {ω : Type} [Logger ω] (stream : Stream) (world : ω) :
    Stream.readMarks [] stream.marks =
      ((stream.nextLine.run world).value.1, (stream.nextLine.run world).value.2.marks) := by
  obtain ⟨reading, rest, hreads⟩ := exists_readsTo stream.answers
  rw [nextLine_value_of_readsTo hreads world]
  exact hreads.readMarks

/-! ### All readings -/

/-- The readings are what the next read comes to and those behind it. There are none only if the
input ends before the next newline. -/
theorem readings_cases (begun : Bytes) (marks : List Mark) :
    readings begun marks = (readMarks begun marks).1 :: readings [] (readMarks begun marks).2 ∨
      (readings begun marks = [] ∧ readMarks begun marks = (.endOfInput, [])) := by
  induction marks generalizing begun with
  | nil => exact .inr ⟨rfl, rfl⟩
  | cons mark marks ih =>
    cases mark with
    | pause | failure => exact .inl rfl
    | byte byte =>
      simp only [readings, readMarks]
      split
      · exact .inl rfl
      · exact ih _

/-- Readings of a first part and of the rest, where the line that was begun goes on. -/
theorem readings_append (begun : Bytes) (front back : List Mark) :
    readings begun (front ++ back) = readings begun front ++ readings (fragment begun front) back := by
  induction front generalizing begun with
  | nil => rfl
  | cons mark front ih =>
    cases mark with
    | pause | failure => simp [readings, fragment, ih]
    | byte byte =>
      simp only [List.cons_append, readings, fragment]
      split
      · rw [ih, List.cons_append]
      · exact ih _

theorem readMarks_of_readings_eq_nil {begun : Bytes} {front : List Mark}
    (hfront : readings begun front = []) (back : List Mark) :
    readMarks begun (front ++ back) = readMarks (fragment begun front) back := by
  induction front generalizing begun with
  | nil => rfl
  | cons mark front ih =>
    cases mark with
    | pause | failure => exact absurd hfront (List.cons_ne_nil _ _)
    | byte byte =>
      rw [readings] at hfront
      rw [List.cons_append, readMarks, fragment]
      split <;> rename_i hbyte
      · rw [if_pos hbyte] at hfront
        exact absurd hfront (List.cons_ne_nil _ _)
      · rw [if_neg hbyte] at hfront
        exact ih hfront

/-- A read that some mark decides leaves the marks behind that one. -/
theorem readMarks_append {begun : Bytes} {front : List Mark} (hfront : readings begun front ≠ [])
    (back : List Mark) :
    readMarks begun (front ++ back)
      = ((readMarks begun front).1, (readMarks begun front).2 ++ back) := by
  induction front generalizing begun with
  | nil => exact absurd rfl hfront
  | cons mark front ih =>
    cases mark with
    | pause | failure => rfl
    | byte byte =>
      rw [readings] at hfront
      rw [List.cons_append, readMarks, readMarks]
      split <;> rename_i hbyte
      · rfl
      · rw [if_neg hbyte] at hfront
        exact ih hfront

/-- The read behind all readings of a first part is that of the failure behind it. -/
theorem behind_failure (front : List Mark) (error : IoError) (back : List Mark) :
    behind ((readings [] front).length + 1) (front ++ .failure error :: back) = back := by
  generalize hcount : (readings [] front).length = count
  induction count generalizing front with
  | zero =>
    rw [behind, readMarks_of_readings_eq_nil (List.length_eq_zero_iff.1 hcount)]
    rfl
  | succ count ih =>
    have hne : readings [] front ≠ [] := List.ne_nil_of_length_eq_add_one hcount
    rcases readings_cases [] front with hreadings | ⟨hnil, -⟩
    · rw [hreadings, List.length_cons] at hcount
      rw [behind, readMarks_append hne]
      exact ih _ (Nat.succ.inj hcount)
    · exact absurd hnil hne

theorem exists_failure_mem {begun : Bytes} {marks : List Mark} {error : ShellError}
    (hfailed : .failed error ∈ readings begun marks) : ∃ error, .failure error ∈ marks := by
  induction marks generalizing begun with
  | nil => exact absurd hfailed List.not_mem_nil
  | cons mark marks ih =>
    have hlater : ∀ {begun}, Reading.failed error ∈ readings begun marks →
        ∃ error, .failure error ∈ mark :: marks := fun hmem =>
      (ih hmem).imp fun _ => List.mem_cons_of_mem _
    cases mark with
    | failure cause => exact ⟨cause, List.mem_cons_self⟩
    | pause => exact hlater ((List.mem_cons.1 hfailed).resolve_left nofun)
    | byte byte =>
      rw [readings] at hfailed
      split at hfailed
      · exact hlater ((List.mem_cons.1 hfailed).resolve_left nofun)
      · exact hlater hfailed

theorem readings_failure (begun : Bytes) (error : IoError) (marks : List Mark) :
    readings begun (.failure error :: marks) = .failed (.io error) :: readings [] marks := rfl

theorem readMarks_textOf {line : Bytes} (hline : newline ∉ line) (lines : List Bytes)
    (marks : List Mark) :
    readMarks [] ((textOf (line :: lines)).map .byte ++ marks)
      = (lineReading line, (textOf lines).map .byte ++ marks) := by
  rw [← readMarks_line hline, ← List.append_assoc, ← List.map_append, textOf_cons, List.append_assoc]
  rfl

theorem readings_textOf {lines : List Bytes} (hlines : ∀ line ∈ lines, newline ∉ line)
    (marks : List Mark) :
    readings [] ((textOf lines).map .byte ++ marks) = lines.map lineReading ++ readings [] marks := by
  induction lines with
  | nil => rfl
  | cons line lines ih =>
    obtain ⟨hline, hrest⟩ := List.forall_mem_cons.1 hlines
    have hread := readMarks_textOf hline lines marks
    rcases readings_cases [] ((textOf (line :: lines)).map .byte ++ marks) with
      hreadings | ⟨-, hended⟩
    · rw [hreadings, hread, ih hrest]
      rfl
    · exact absurd (Prod.mk.inj (hread.symm.trans hended)).1 nofun

theorem behind_textOf {lines : List Bytes} (hlines : ∀ line ∈ lines, newline ∉ line)
    (marks : List Mark) : behind lines.length ((textOf lines).map .byte ++ marks) = marks := by
  induction lines with
  | nil => rfl
  | cons line lines ih =>
    obtain ⟨hline, hrest⟩ := List.forall_mem_cons.1 hlines
    rw [List.length_cons, behind, readMarks_textOf hline]
    exact ih hrest

/-! ### Bytes among the marks -/

theorem filterMap_byte?_map (bytes : Bytes) : (bytes.map .byte).filterMap Mark.byte? = bytes := by
  rw [List.filterMap_map]
  exact List.filterMap_some

theorem filterMap_byte?_marksOf (script : List Chunk) :
    (marksOf script).filterMap Mark.byte? = contentOf script := by
  induction script with
  | nil => rfl
  | cons chunk script ih =>
    have hchunk : chunk.marks.filterMap Mark.byte? = chunk.content := by
      cases chunk with
      | bytes content =>
        rw [Chunk.marks]
        split <;> rename_i hcontent
        · rw [hcontent]
          rfl
        · exact filterMap_byte?_map content
      | failure error =>
        rw [Chunk.marks]
        split <;> rfl
    rw [marksOf_cons, contentOf_cons, List.filterMap_append, hchunk, ih]

theorem content_of_marks {stream : Stream} {bytes : Bytes} (hmarks : stream.marks = bytes.map .byte) :
    stream.content = bytes := by
  rw [← contentOf_answers, ← filterMap_byte?_marksOf, ← filterMap_byte?_map bytes, ← hmarks]
  rfl

end Stream

end LineShell
