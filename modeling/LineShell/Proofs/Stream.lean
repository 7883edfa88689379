import LineShell.Source.Stream
import LineShell.Proofs.Buffer
import LineShell.Proofs.Bytes
/-!
# Reads of a stream

A read takes answers from its stream until one of them decides it: a newline, a failure that is no
interruption, or an end of input. The answers in front of that one have only added to the line. What
a read comes to is a matter of this first deciding answer alone, and nothing behind it is touched.

A read takes a first part of the bytes still to come and leaves the others, so over any number of
reads no byte is lost, doubled or moved. If no answer ends the input or fails, the lines read are
those of the text that the bytes make up, whatever chunks they come in.
-/

namespace LineShell

def Chunk.content : Chunk → Bytes
  | .bytes content => content
  | .failure _ => []

/-- An answer that decides nothing: some bytes without a newline, or an interruption. -/
def Chunk.Passes : Chunk → Prop
  | .bytes content => content ≠ [] ∧ Stream.newline ∉ content
  | .failure error => error.interrupts

/-- An answer that is neither an end of input nor a failure for good. -/
def Chunk.Flows : Chunk → Prop
  | .bytes content => content ≠ []
  | .failure error => error.interrupts

instance : DecidablePred Chunk.Flows
  | .bytes content => inferInstanceAs (Decidable (content ≠ []))
  | .failure error => inferInstanceAs (Decidable (error.interrupts = true))

namespace Stream

def contentOf (script : List Chunk) : Bytes := script.flatMap Chunk.content

def content (stream : Stream) : Bytes := stream.pending ++ contentOf stream.script

/-- The reading of a line, in a buffer with the room that the line needs. -/
def lineReading (bytes : Bytes) : Reading :=
  .line ⟨bytes, Buffer.room lineStep bytes.length⟩

/-- What one read of these answers comes to, and the stream it leaves. Answers that pass stand in
front of the one that decides. -/
inductive ReadsTo : List Chunk → Reading → Stream → Prop where
  /-- At a newline the line is all that came before it, and what is behind it is left. -/
  | line {passed : List Chunk} {before after : Bytes} {rest : List Chunk}
      (hpassed : ∀ chunk ∈ passed, chunk.Passes) (hbefore : newline ∉ before) :
      ReadsTo (passed ++ .bytes (before ++ newline :: after) :: rest)
        (lineReading (contentOf passed ++ before)) ⟨after, rest⟩
  /-- A failure is the answer of the read. It is used up, and the line begun is dropped. -/
  | failed {passed : List Chunk} {error : IoError} {rest : List Chunk}
      (hpassed : ∀ chunk ∈ passed, chunk.Passes) (herror : ¬ error.interrupts) :
      ReadsTo (passed ++ .failure error :: rest) (.failed (.io error)) ⟨[], rest⟩
  /-- An end of input that more may follow is used up, and the line begun is dropped. -/
  | paused {passed : List Chunk} {rest : List Chunk} (hpassed : ∀ chunk ∈ passed, chunk.Passes) :
      ReadsTo (passed ++ .bytes [] :: rest) .endOfInput ⟨[], rest⟩
  /-- Behind the last answer the input is at its end. -/
  | ended {passed : List Chunk} (hpassed : ∀ chunk ∈ passed, chunk.Passes) :
      ReadsTo passed .endOfInput ⟨[], []⟩

@[simp] theorem contentOf_nil : contentOf [] = [] := rfl

@[simp] theorem contentOf_cons (chunk : Chunk) (script : List Chunk) :
    contentOf (chunk :: script) = chunk.content ++ contentOf script := List.flatMap_cons

@[simp] theorem contentOf_append (front rest : List Chunk) :
    contentOf (front ++ rest) = contentOf front ++ contentOf rest := List.flatMap_append

theorem contentOf_answers (stream : Stream) : contentOf stream.answers = stream.content := by
  unfold answers content
  split <;> rename_i hpending
  · rw [List.isEmpty_iff.1 hpending, List.nil_append]
  · rfl

theorem newline_not_mem_contentOf {passed : List Chunk} (hpassed : ∀ chunk ∈ passed, chunk.Passes) :
    newline ∉ contentOf passed := by
  intro hmem
  obtain ⟨chunk, hchunk, hbyte⟩ := List.mem_flatMap.1 hmem
  cases chunk with
  | bytes content => exact (hpassed _ hchunk).2 hbyte
  | failure error => exact List.not_mem_nil hbyte

/-! ### One read -/

theorem exists_readsTo (script : List Chunk) : ∃ reading rest, ReadsTo script reading rest := by
  induction script with
  | nil => exact ⟨_, _, .ended (by simp)⟩
  | cons chunk script ih =>
    by_cases hchunk : chunk.Passes
    · have hpassed : ∀ passed : List Chunk, (∀ other ∈ passed, other.Passes) →
          ∀ other ∈ chunk :: passed, other.Passes := fun passed hpassed other hother =>
        (List.mem_cons.1 hother).elim (fun heq => heq ▸ hchunk) (hpassed other)
      obtain ⟨reading, rest, hreads⟩ := ih
      cases hreads with
      | line hpasses hbefore => exact ⟨_, _, .line (hpassed _ hpasses) hbefore⟩
      | failed hpasses herror => exact ⟨_, _, .failed (hpassed _ hpasses) herror⟩
      | paused hpasses => exact ⟨_, _, .paused (hpassed _ hpasses)⟩
      | ended hpasses => exact ⟨_, _, .ended (hpassed _ hpasses)⟩
    · have hnone : ∀ other ∈ ([] : List Chunk), other.Passes := by simp
      cases chunk with
      | failure error => exact ⟨_, _, .failed hnone hchunk⟩
      | bytes content =>
        by_cases hempty : content = []
        · subst hempty
          exact ⟨_, _, .paused hnone⟩
        · have hnewline : newline ∈ content := by
            by_contra hnewline
            exact hchunk ⟨hempty, hnewline⟩
          obtain ⟨before, after, rfl, hbefore⟩ := List.eq_append_cons_of_mem hnewline
          exact ⟨_, _, .line hnone hbefore⟩

variable {ω : Type} [Logger ω]

theorem store_value (buffer : Buffer UInt8) (content : Bytes) (world : ω) :
    ((store buffer content).run world).value = (buffer.extend lineStep content).1 := rfl

/-- A buffer in which a line is begun: it has the room that the line needs. -/
def Begun (buffer : Buffer UInt8) (begun : Bytes) : Prop :=
  buffer.Fits lineStep ∧ buffer.items.toList = begun

theorem Begun.empty : Begun (.empty lineStep) [] := ⟨Buffer.empty_fits _, rfl⟩

theorem Begun.extend {buffer : Buffer UInt8} {begun : Bytes} (hbuffer : Begun buffer begun)
    (content : Bytes) : Begun (buffer.extend lineStep content).1 (begun ++ content) := by
  obtain ⟨hfits, rfl⟩ := hbuffer
  exact ⟨Buffer.extend_fits Buffer.lineStep_pos hfits content,
    Buffer.extend_items Buffer.lineStep_pos hfits content⟩

theorem Begun.reading {buffer : Buffer UInt8} {begun : Bytes} (hbuffer : Begun buffer begun) :
    Reading.line ⟨buffer.items.toList, buffer.capacity⟩ = lineReading begun := by
  obtain ⟨hfits, rfl⟩ := hbuffer
  rw [lineReading, hfits.capacity_eq]

theorem scan_passed {passed : List Chunk} (hpassed : ∀ chunk ∈ passed, chunk.Passes)
    {buffer : Buffer UInt8} {begun : Bytes} (hbuffer : Begun buffer begun) (script : List Chunk)
    (world : ω) :
    ∃ (buffer' : Buffer UInt8) (world' : ω), Begun buffer' (begun ++ contentOf passed) ∧
      ((scan buffer (passed ++ script)).run world).value = ((scan buffer' script).run world').value := by
  induction passed generalizing buffer begun world with
  | nil => exact ⟨buffer, world, by simpa using hbuffer, rfl⟩
  | cons chunk passed ih =>
    have hrest : ∀ other ∈ passed, other.Passes := fun other hother =>
      hpassed other (List.mem_cons_of_mem _ hother)
    have hchunk := hpassed chunk List.mem_cons_self
    cases chunk with
    | failure error =>
      obtain ⟨buffer', world', hbuffer', hvalue⟩ := ih hrest hbuffer world
      refine ⟨buffer', world', hbuffer', ?_⟩
      change error.interrupts = true at hchunk
      simpa [scan, hchunk] using hvalue
    | bytes content =>
      obtain ⟨hnonempty, hnewline⟩ := hchunk
      have hcut := Bytes.cutAt_of_not_mem hnewline
      obtain ⟨buffer', world', hbuffer', hvalue⟩ := ih hrest (hbuffer.extend content)
        ((store buffer content).run world).world
      refine ⟨buffer', world', by rwa [contentOf_cons, Chunk.content, ← List.append_assoc], ?_⟩
      have hisEmpty : content.isEmpty = false := by rwa [List.isEmpty_eq_false_iff]
      rw [← hvalue]
      simp [scan, hisEmpty, hcut, store_value]

theorem nextLine_value_of_readsTo {stream : Stream} {reading : Reading} {rest : Stream}
    (hreads : ReadsTo stream.answers reading rest) (world : ω) :
    (stream.nextLine.run world).value = (reading, rest) := by
  unfold nextLine
  generalize stream.answers = script at hreads
  cases hreads with
  | @line passed before after rest hpassed hbefore =>
    obtain ⟨buffer, world', hbuffer, hvalue⟩ := scan_passed hpassed .empty
      (.bytes (before ++ newline :: after) :: rest) world
    have hcut : (before ++ newline :: after : Bytes).cutAt newline = some (before, after) :=
      Bytes.cutAt_append hbefore
    have hreading := (hbuffer.extend before).reading
    rw [List.nil_append] at hreading
    rw [hvalue, ← hreading]
    simp [scan, hcut, store_value]
  | @failed passed error rest hpassed herror =>
    obtain ⟨buffer, world', -, hvalue⟩ := scan_passed hpassed .empty (.failure error :: rest) world
    rw [hvalue]
    simp [scan, herror]
  | @paused passed rest hpassed =>
    obtain ⟨buffer, world', -, hvalue⟩ := scan_passed hpassed .empty (.bytes [] :: rest) world
    rw [hvalue]
    simp [scan]
  | @ended _ hpassed =>
    obtain ⟨buffer, world', -, hvalue⟩ := scan_passed hpassed .empty [] world
    rw [List.append_nil] at hvalue
    rw [hvalue]
    simp [scan]

/-- What a read comes to is decided by the answers, whatever is logged meanwhile. -/
theorem nextLine_value_iff {stream : Stream} {reading : Reading} {rest : Stream} {world : ω} :
    (stream.nextLine.run world).value = (reading, rest) ↔ ReadsTo stream.answers reading rest := by
  refine ⟨fun hvalue => ?_, fun hreads => nextLine_value_of_readsTo hreads world⟩
  obtain ⟨reading', rest', hreads⟩ := exists_readsTo stream.answers
  rw [nextLine_value_of_readsTo hreads world] at hvalue
  obtain ⟨rfl, rfl⟩ := Prod.mk.inj hvalue
  exact hreads

/-! ### Any number of reads -/

def readTimes : Nat → Stream → Act ω (List Reading × Stream)
  | 0, stream => return ([], stream)
  | count + 1, stream => do
    let (reading, rest) ← stream.nextLine
    let (readings, last) ← readTimes count rest
    return (reading :: readings, last)

/-- Which bytes a read may take: a line and its newline, or else bytes without a newline, which are
dropped. -/
def Takes : Reading → Bytes → Prop
  | .line line, taken => newline ∉ line.bytes ∧ taken = line.bytes ++ [newline]
  | .endOfInput, taken | .failed _, taken => newline ∉ taken

theorem ReadsTo.takes {script : List Chunk} {reading : Reading} {rest : Stream}
    (hreads : ReadsTo script reading rest) :
    ∃ taken, Takes reading taken ∧ contentOf script = taken ++ rest.content := by
  cases hreads with
  | @line passed before after rest hpassed hbefore =>
    have hline : newline ∉ contentOf passed ++ before := fun hmem =>
      (List.mem_append.1 hmem).elim (newline_not_mem_contentOf hpassed) hbefore
    exact ⟨_, ⟨hline, rfl⟩, by simp [Chunk.content, content]⟩
  | @failed passed error rest hpassed herror =>
    exact ⟨contentOf passed, newline_not_mem_contentOf hpassed, by simp [Chunk.content, content]⟩
  | @paused passed rest hpassed =>
    exact ⟨contentOf passed, newline_not_mem_contentOf hpassed, by simp [Chunk.content, content]⟩
  | @ended _ hpassed =>
    exact ⟨contentOf script, newline_not_mem_contentOf hpassed, by simp [content]⟩

private theorem suffix_of_answers {stream : Stream} {passed rest : List Chunk} {chunk : Chunk}
    (hanswers : stream.answers = passed ++ chunk :: rest) : rest <:+ stream.script := by
  unfold answers at hanswers
  split at hanswers
  · exact ⟨passed ++ [chunk], by rw [hanswers, List.append_assoc]; rfl⟩
  · cases passed with
    | nil => exact (List.cons.inj hanswers).2 ▸ List.suffix_rfl
    | cons first passed =>
      refine ⟨passed ++ [chunk], ?_⟩
      rw [(List.cons.inj hanswers).2, List.append_assoc]
      rfl

theorem ReadsTo.suffix {stream : Stream} {reading : Reading} {rest : Stream}
    (hreads : ReadsTo stream.answers reading rest) : rest.script <:+ stream.script := by
  generalize hanswers : stream.answers = script at hreads
  cases hreads with
  | line | failed | paused => exact suffix_of_answers hanswers
  | ended => exact List.nil_suffix

theorem readTimes_conserves (count : Nat) (stream : Stream) (world : ω) :
    ∃ pieces, List.Forall₂ Takes ((readTimes count stream).run world).value.1 pieces ∧
      stream.content = pieces.flatten ++ ((readTimes count stream).run world).value.2.content ∧
      ((readTimes count stream).run world).value.2.script <:+ stream.script := by
  induction count generalizing stream world with
  | zero => exact ⟨[], .nil, rfl, List.suffix_rfl⟩
  | succ count ih =>
    obtain ⟨⟨reading, rest⟩, hvalue⟩ : ∃ value, (stream.nextLine.run world).value = value := ⟨_, rfl⟩
    have hreads := nextLine_value_iff.1 hvalue
    obtain ⟨taken, htaken, hcontent⟩ := hreads.takes
    obtain ⟨pieces, hpieces, hrest, hscript⟩ := ih rest (stream.nextLine.run world).world
    have hlater : ((readTimes (count + 1) stream).run world).value
        = (reading :: ((readTimes count rest).run (stream.nextLine.run world).world).value.1,
          ((readTimes count rest).run (stream.nextLine.run world).world).value.2) := by
      simp [readTimes, hvalue]
    rw [hlater]
    refine ⟨taken :: pieces, .cons htaken hpieces, ?_, hscript.trans hreads.suffix⟩
    rw [← contentOf_answers, hcontent, hrest, List.flatten_cons, List.append_assoc]

/-- One read comes to what the first deciding answer says, and to nothing else. Over any number of
reads the bytes taken and those left are the bytes there were, and the answers left are the last. -/
theorem nextLine_decided (stream : Stream) (world : ω) :
    (∀ reading rest, (stream.nextLine.run world).value = (reading, rest) ↔
      ReadsTo stream.answers reading rest) ∧
    ∀ count, ∃ pieces, List.Forall₂ Takes ((readTimes count stream).run world).value.1 pieces ∧
      stream.content = pieces.flatten ++ ((readTimes count stream).run world).value.2.content ∧
      ((readTimes count stream).run world).value.2.script <:+ stream.script :=
  ⟨fun _ _ => nextLine_value_iff, fun count => readTimes_conserves count stream world⟩

/-! ### Streams that are not cut short -/

/-- The lines of a text that a newline ends, in order. -/
def linesOf (text : Bytes) : List Bytes := (text.splitOn newline).dropLast

/-- Whether no answer to come ends the input or fails. -/
def Flowing (stream : Stream) : Prop := ∀ chunk ∈ stream.script, chunk.Flows

theorem linesOf_of_not_mem {text : Bytes} (htext : newline ∉ text) : linesOf text = [] := by
  rw [linesOf, Bytes.splitOn_of_not_mem htext]
  rfl

theorem linesOf_append {line : Bytes} (hline : newline ∉ line) (after : Bytes) :
    linesOf (line ++ newline :: after) = line :: linesOf after := by
  rw [linesOf, Bytes.splitOn_append hline, List.dropLast_cons_of_ne_nil (Bytes.splitOn_ne_nil _ _)]
  rfl

/-- The text of some lines, each with its newline. -/
def textOf (lines : List Bytes) : Bytes := lines.flatMap (· ++ [newline])

@[simp] theorem textOf_nil : textOf [] = [] := rfl

@[simp] theorem textOf_cons (line : Bytes) (lines : List Bytes) :
    textOf (line :: lines) = line ++ newline :: textOf lines := by
  rw [textOf, List.flatMap_cons, List.append_assoc]
  rfl

@[simp] theorem textOf_append (front rest : List Bytes) :
    textOf (front ++ rest) = textOf front ++ textOf rest := List.flatMap_append

theorem exists_linesOf (text : Bytes) :
    ∃ fragment, text = textOf (linesOf text) ++ fragment ∧ newline ∉ fragment ∧
      ∀ line ∈ linesOf text, newline ∉ line := by
  generalize hlength : text.length = length
  induction length using Nat.strong_induction_on generalizing text with
  | _ length ih =>
    by_cases hnewline : newline ∈ text
    · obtain ⟨line, after, rfl, hline⟩ := List.eq_append_cons_of_mem hnewline
      have hless : after.length < length := by
        rw [← hlength, List.length_append, List.length_cons]
        omega
      obtain ⟨fragment, hafter, hfragment, hlines⟩ := ih _ hless after rfl
      refine ⟨fragment, ?_, hfragment, ?_⟩
      · rw [linesOf_append hline, textOf_cons, List.append_assoc, List.cons_append, ← hafter]
      · rw [linesOf_append hline]
        exact List.forall_mem_cons.2 ⟨hline, hlines⟩
    · rw [linesOf_of_not_mem hnewline]
      exact ⟨text, rfl, hnewline, nofun⟩

theorem Flowing.answers {stream : Stream} (hflowing : stream.Flowing) :
    ∀ chunk ∈ stream.answers, chunk.Flows := by
  unfold Stream.answers
  split <;> rename_i hpending
  · exact hflowing
  · intro chunk hchunk
    rcases List.mem_cons.1 hchunk with rfl | hchunk
    · exact fun hempty => hpending (List.isEmpty_iff.2 hempty)
    · exact hflowing chunk hchunk

theorem Flowing.of_readsTo {stream rest : Stream} {reading : Reading} (hflowing : stream.Flowing)
    (hreads : ReadsTo stream.answers reading rest) : rest.Flowing := by
  intro chunk hchunk
  exact hflowing chunk (hreads.suffix.mem hchunk)

theorem Flowing.readsTo {stream : Stream} (hflowing : stream.Flowing) :
    (∃ line rest, newline ∉ line ∧ stream.content = line ++ newline :: rest.content ∧
      rest.Flowing ∧ ReadsTo stream.answers (lineReading line) rest) ∨
    (newline ∉ stream.content ∧ ∃ rest, ReadsTo stream.answers .endOfInput rest) := by
  obtain ⟨reading, rest, hreads⟩ := exists_readsTo stream.answers
  obtain ⟨taken, htaken, hcontent⟩ := hreads.takes
  have hrest : rest.Flowing := hflowing.of_readsTo hreads
  have hanswers := hflowing.answers
  rw [contentOf_answers] at hcontent
  generalize stream.answers = script at hreads hanswers ⊢
  cases hreads with
  | @line passed before after later hpassed hbefore =>
    obtain ⟨hline, rfl⟩ := htaken
    rw [List.append_assoc] at hcontent
    exact .inl ⟨_, _, hline, hcontent, hrest, .line hpassed hbefore⟩
  | @failed passed error later hpassed herror =>
    exact absurd (hanswers (.failure error) (by simp)) herror
  | @paused passed later hpassed => exact absurd rfl (hanswers (.bytes []) (by simp))
  | ended hpassed =>
    refine .inr ⟨?_, _, .ended hpassed⟩
    change newline ∉ taken at htaken
    rw [hcontent]
    simpa [content] using htaken

end Stream

end LineShell
