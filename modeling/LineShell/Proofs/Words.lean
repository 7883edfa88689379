import LineShell.Session
import LineShell.Proofs.Buffer
/-!
# The grammar of a line

A line is laid out as words with gaps around them. The gap in front of the first word and the one
behind the last may be empty, the others may not. Cutting a line into words undoes this: the words
of a line are those of its layouts, every line has a layout, and so the words are all that layouts
of one line have in common. Which delimiters the gaps are made of, and how many words there are,
does not come into it.
-/

namespace LineShell

def IsGap (bytes : Bytes) : Prop := ∀ byte ∈ bytes, byte ∈ delimiters

/-- A string of one byte or more, none of which is a delimiter. -/
def IsWord (bytes : Bytes) : Prop := bytes ≠ [] ∧ ∀ byte ∈ bytes, byte ∉ delimiters

/-- A word and the gap behind it. -/
structure Segment where
  word : Bytes
  gap : Bytes
  isWord : IsWord word
  isGap : IsGap gap

def Segment.bytes (segment : Segment) : Bytes := segment.word ++ segment.gap

/-- Words with gaps around them. Only the first gap and the last may be empty. -/
structure Layout where
  lead : Bytes
  segments : List Segment
  isGap : IsGap lead
  apart : ∀ segment ∈ segments.dropLast, segment.gap ≠ []

namespace Layout

def words (layout : Layout) : List Bytes := layout.segments.map Segment.word

def line (layout : Layout) : Bytes := layout.lead ++ layout.segments.flatMap Segment.bytes

end Layout

@[simp] theorem isDelimiter_iff (byte : UInt8) : isDelimiter byte ↔ byte ∈ delimiters :=
  List.contains_iff_mem

theorem IsGap.nil : IsGap [] := fun _ hbyte => absurd hbyte List.not_mem_nil

theorem IsGap.cons {byte : UInt8} {bytes : Bytes} (hbyte : byte ∈ delimiters) (hbytes : IsGap bytes) :
    IsGap (byte :: bytes) := by
  intro other hother
  rcases List.mem_cons.1 hother with rfl | hother
  · exact hbyte
  · exact hbytes other hother

theorem IsWord.singleton {byte : UInt8} (hbyte : byte ∉ delimiters) : IsWord [byte] := by
  refine ⟨List.cons_ne_nil _ _, fun other hother => ?_⟩
  rw [List.mem_singleton] at hother
  rwa [hother]

theorem IsWord.cons {byte : UInt8} {bytes : Bytes} (hbyte : byte ∉ delimiters) (hbytes : IsWord bytes) :
    IsWord (byte :: bytes) := by
  refine ⟨List.cons_ne_nil _ _, fun other hother => ?_⟩
  rcases List.mem_cons.1 hother with rfl | hother
  · exact hbyte
  · exact hbytes.2 other hother

/-! ### Cutting, byte by byte -/

theorem wordsOf_delimiter_cons {byte : UInt8} (hbyte : byte ∈ delimiters) (line : Bytes) :
    wordsOf (byte :: line) = wordsOf line := by
  have hdelimiter : isDelimiter byte = true := (isDelimiter_iff byte).2 hbyte
  simp only [wordsOf, List.foldr_cons, Suffix.before, hdelimiter, if_true]
  rfl

theorem wordsOf_gap_append {gap : Bytes} (hgap : IsGap gap) (line : Bytes) :
    wordsOf (gap ++ line) = wordsOf line := by
  induction gap with
  | nil => rfl
  | cons byte gap ih =>
    rw [List.cons_append, wordsOf_delimiter_cons (hgap byte List.mem_cons_self)]
    exact ih fun other hother => hgap other (List.mem_cons_of_mem _ hother)

private theorem foldr_before_append {bytes : Bytes} (hbytes : ∀ byte ∈ bytes, byte ∉ delimiters)
    (suffix : Suffix) :
    bytes.foldr Suffix.before suffix = ⟨bytes ++ suffix.word, suffix.later⟩ := by
  induction bytes with
  | nil => rfl
  | cons byte bytes ih =>
    have hbyte : isDelimiter byte = false := by
      rw [Bool.eq_false_iff, ne_eq, isDelimiter_iff]
      exact hbytes byte List.mem_cons_self
    rw [List.foldr_cons, ih fun other hother => hbytes other (List.mem_cons_of_mem _ hother),
      Suffix.before, hbyte]
    rfl

/-- At a gap or at the end of the line no word is under way. -/
private theorem suffix_of_apart {line : Bytes} (hline : ∀ byte ∈ line.head?, byte ∈ delimiters) :
    line.foldr Suffix.before .atEnd = ⟨[], wordsOf line⟩ := by
  cases line with
  | nil => rfl
  | cons byte line =>
    have hbyte : byte ∈ delimiters := hline byte rfl
    rw [wordsOf_delimiter_cons hbyte, List.foldr_cons, Suffix.before,
      if_pos ((isDelimiter_iff byte).2 hbyte)]
    rfl

/-- A word ends where a gap or the end of the line follows. -/
theorem wordsOf_word_append {word : Bytes} (hword : IsWord word) {line : Bytes}
    (hline : ∀ byte ∈ line.head?, byte ∈ delimiters) :
    wordsOf (word ++ line) = word :: wordsOf line := by
  have hnonempty : ¬ word.isEmpty := by
    rw [List.isEmpty_iff]
    exact hword.1
  rw [wordsOf, List.foldr_append, suffix_of_apart hline, foldr_before_append hword.2,
    List.append_nil, Suffix.words, if_neg hnonempty]

/-! ### Layouts -/

private theorem wordsOf_segments (segments : List Segment)
    (hapart : ∀ segment ∈ segments.dropLast, segment.gap ≠ []) :
    wordsOf (segments.flatMap Segment.bytes) = segments.map Segment.word := by
  induction segments with
  | nil => rfl
  | cons segment rest ih =>
    have hrest : ∀ other ∈ rest.dropLast, other.gap ≠ [] := by
      intro other hother
      cases rest with
      | nil => exact absurd hother List.not_mem_nil
      | cons next rest =>
        exact hapart other (List.mem_cons_of_mem _ hother)
    -- Unless the gap is empty it separates; it may be empty only if nothing follows.
    have hend : ∀ byte ∈ (segment.gap ++ rest.flatMap Segment.bytes).head?, byte ∈ delimiters := by
      intro byte hbyte
      cases hgap : segment.gap with
      | nil =>
        cases rest with
        | nil => simp [hgap] at hbyte
        | cons next rest => exact absurd hgap (hapart segment List.mem_cons_self)
      | cons first gap =>
        have hfirst : first = byte := by simpa [hgap] using hbyte
        rw [← hfirst]
        exact segment.isGap first (by rw [hgap]; exact List.mem_cons_self)
    rw [List.flatMap_cons, Segment.bytes, List.append_assoc, wordsOf_word_append segment.isWord hend,
      wordsOf_gap_append segment.isGap, ih hrest, List.map_cons]

theorem Layout.wordsOf_line (layout : Layout) : wordsOf layout.line = layout.words := by
  rw [line, wordsOf_gap_append layout.isGap]
  exact wordsOf_segments layout.segments layout.apart

def Layout.consDelimiter {byte : UInt8} (hbyte : byte ∈ delimiters) (layout : Layout) : Layout :=
  ⟨byte :: layout.lead, layout.segments, layout.isGap.cons hbyte, layout.apart⟩

def Segment.consByte {byte : UInt8} (hbyte : byte ∉ delimiters) (segment : Segment) : Segment :=
  ⟨byte :: segment.word, segment.gap, segment.isWord.cons hbyte, segment.isGap⟩

theorem exists_layout (line : Bytes) : ∃ layout : Layout, layout.line = line := by
  induction line with
  | nil => exact ⟨⟨[], [], .nil, by simp⟩, rfl⟩
  | cons byte line ih =>
    obtain ⟨layout, rfl⟩ := ih
    by_cases hbyte : byte ∈ delimiters
    · exact ⟨layout.consDelimiter hbyte, rfl⟩
    obtain ⟨lead, segments, hlead, hapart⟩ := layout
    -- The byte begins a word of its own, unless it stands right in front of one.
    by_cases hjoins : lead = [] ∧ segments ≠ []
    · obtain ⟨rfl, hsegments⟩ := hjoins
      obtain ⟨segment, rest, rfl⟩ := List.exists_cons_of_ne_nil hsegments
      refine ⟨⟨[], segment.consByte hbyte :: rest, .nil, ?_⟩, rfl⟩
      cases rest with
      | nil => simp
      | cons next rest =>
        intro other hother
        rcases List.mem_cons.1 hother with rfl | hother
        · exact hapart segment List.mem_cons_self
        · exact hapart other (List.mem_cons_of_mem _ hother)
    · refine ⟨⟨[], ⟨[byte], lead, .singleton hbyte, hlead⟩ :: segments, .nil, ?_⟩, rfl⟩
      cases segments with
      | nil => simp
      | cons next rest =>
        intro other hother
        rcases List.mem_cons.1 hother with rfl | hother
        · exact fun hempty => hjoins ⟨hempty, List.cons_ne_nil _ _⟩
        · exact hapart other hother

theorem wordsOf_eq_iff {line : Bytes} {words : List Bytes} :
    wordsOf line = words ↔ ∃ layout : Layout, layout.words = words ∧ layout.line = line := by
  constructor
  · rintro rfl
    obtain ⟨layout, rfl⟩ := exists_layout line
    exact ⟨layout, layout.wordsOf_line.symm, rfl⟩
  · rintro ⟨layout, rfl, rfl⟩
    exact layout.wordsOf_line

/-- The words hold the bytes of the line that are no delimiters, each once and in order. -/
theorem flatten_wordsOf (line : Bytes) :
    (wordsOf line).flatten = line.filter fun byte => !isDelimiter byte := by
  have hwords : ∀ suffix : Suffix, suffix.words.flatten = suffix.word ++ suffix.later.flatten := by
    rintro ⟨word, later⟩
    cases word <;> rfl
  rw [wordsOf, hwords]
  induction line with
  | nil => rfl
  | cons byte line ih =>
    rw [List.foldr_cons, List.filter_cons, Suffix.before]
    cases hbyte : isDelimiter byte with
    | true => simp [hwords, ih]
    | false => simp [ih]

/-! ### Tokenizing -/

namespace Session

variable {ω : Type} [World ω]

/-- The list that the words are collected in holds all of them, however often it grows. -/
@[simp] theorem tokenize_value (line : Bytes) (world : ω) :
    ((tokenize line).run world).value = wordsOf line := by
  have hitems := Buffer.extend_items Buffer.wordStep_pos (Buffer.empty_fits wordStep) (wordsOf line)
  simpa [tokenize, Buffer.empty] using hitems

/-- Tokenizing a line yields the words of its layouts. Two lines have the same words exactly if they
differ only in their gaps, and no byte but delimiters is lost. -/
theorem tokenize_layout (line : Bytes) (world : ω) :
    (∀ words, ((tokenize line).run world).value = words ↔
      ∃ layout : Layout, layout.words = words ∧ layout.line = line) ∧
    (∀ other, ((tokenize line).run world).value = ((tokenize other).run world).value ↔
      ∃ layout layout' : Layout, layout.words = layout'.words ∧
        layout.line = line ∧ layout'.line = other) ∧
    ((tokenize line).run world).value.flatten = line.filter fun byte => !isDelimiter byte := by
  simp only [tokenize_value]
  refine ⟨fun words => wordsOf_eq_iff, fun other => ?_, flatten_wordsOf line⟩
  constructor
  · intro hsame
    obtain ⟨layout, rfl⟩ := exists_layout line
    obtain ⟨layout', rfl⟩ := exists_layout other
    rw [Layout.wordsOf_line, Layout.wordsOf_line] at hsame
    exact ⟨layout, layout', hsame, rfl, rfl⟩
  · rintro ⟨layout, layout', hwords, rfl, rfl⟩
    rw [Layout.wordsOf_line, Layout.wordsOf_line, hwords]

end Session

end LineShell
