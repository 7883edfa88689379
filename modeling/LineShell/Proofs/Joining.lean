import LineShell.Proofs.Runs
/-!
# Words of lines put together

Two lines put one behind the other have the words of the first and then those of the second, unless the
place where they meet lies within a word. There the last word of the first line and the first word of the
second become one, and no other word notices. Words written with a gap between them are found again as
they are, so a line written anew from its words with single spaces keeps them.
-/

namespace LineShell

/-- Two lines that do not meet within a word: one of them is empty, or there is a delimiter on one side
of the place where they meet. -/
def MeetApart (front back : Bytes) : Prop :=
  front = [] ∨ back = [] ∨ (∃ last ∈ front.getLast?, last ∈ delimiters) ∨
    ∃ first ∈ back.head?, first ∈ delimiters

instance (front back : Bytes) : Decidable (MeetApart front back) :=
  inferInstanceAs (Decidable (_ ∨ _))

/-- The words of two lines put together, where the last word of the one and the first word of the other
have become one. -/
def WordsMerge (ofFront ofBack ofBoth : List Bytes) : Prop :=
  ∃ earlier last first later, ofFront = earlier ++ [last] ∧ ofBack = first :: later ∧
    ofBoth = earlier ++ (last ++ first) :: later

/-- Words as one line, with a space between neighbours. -/
def spaced (words : List Bytes) : Bytes := Bytes.joinWith [32] words

theorem meetApart_iff {front back : Bytes} :
    MeetApart front back ↔ opensRun front ∨ ∀ first ∈ back.head?, first ∈ delimiters := by
  rw [opensRun_iff, MeetApart]
  cases hlast : front.getLast? with
  | none =>
    have hempty : front = [] := List.getLast?_eq_none_iff.1 hlast
    simp [hempty]
  | some last =>
    have hfront : front ≠ [] := by
      rintro rfl
      simp at hlast
    cases back <;> simp [hfront]

/-! ### Cutting a line in two places -/

/-- What is found further along stays behind all that a line adds in front of it, while the word under
way is a matter of the line alone. -/
private theorem foldr_before_later (line : Bytes) (later : List Bytes) :
    line.foldr Suffix.before ⟨[], later⟩ =
      ⟨(line.foldr Suffix.before .atEnd).word, (line.foldr Suffix.before .atEnd).later ++ later⟩ := by
  induction line with
  | nil => rfl
  | cons byte line ih =>
    rw [List.foldr_cons, List.foldr_cons, ih]
    obtain ⟨word, found⟩ := line.foldr Suffix.before .atEnd
    by_cases hbyte : isDelimiter byte
    · cases word <;> simp [Suffix.before, Suffix.words, hbyte]
    · simp [Suffix.before, hbyte]

theorem wordsOf_delimiter_append (front : Bytes) {byte : UInt8} (hbyte : byte ∈ delimiters)
    (back : Bytes) : wordsOf (front ++ byte :: back) = wordsOf front ++ wordsOf back := by
  have hrest : (byte :: back).foldr Suffix.before .atEnd = ⟨[], wordsOf back⟩ := by
    rw [List.foldr_cons, Suffix.before, if_pos ((isDelimiter_iff byte).2 hbyte)]
    rfl
  rw [wordsOf, List.foldr_append, hrest, foldr_before_later]
  unfold wordsOf
  obtain ⟨word, later⟩ := front.foldr Suffix.before .atEnd
  cases word <;> rfl

theorem wordsOf_append_of_head? (front : Bytes) {back : Bytes}
    (hback : ∀ first ∈ back.head?, first ∈ delimiters) :
    wordsOf (front ++ back) = wordsOf front ++ wordsOf back := by
  cases back with
  | nil => rw [List.append_nil, wordsOf_eq_nil_iff.2 .nil, List.append_nil]
  | cons first back =>
    have hfirst : first ∈ delimiters := hback first rfl
    rw [wordsOf_delimiter_append front hfirst, wordsOf_delimiter_cons hfirst]

theorem wordsOf_concat (front : Bytes) {byte : UInt8} (hbyte : byte ∈ delimiters) :
    wordsOf (front ++ [byte]) = wordsOf front := by
  rw [wordsOf_delimiter_append front hbyte, wordsOf_eq_nil_iff.2 .nil, List.append_nil]

theorem wordsOf_append_of_opensRun {front : Bytes} (hfront : opensRun front) (back : Bytes) :
    wordsOf (front ++ back) = wordsOf front ++ wordsOf back := by
  cases front using List.reverseRecOn with
  | nil => rfl
  | append_singleton front last =>
    rw [opensRun_concat, isDelimiter_iff] at hfront
    rw [wordsOf_concat front hfront, List.append_assoc]
    exact wordsOf_delimiter_append front hfront back

theorem wordsOf_append_of_meetApart {front back : Bytes} (hmeet : MeetApart front back) :
    wordsOf (front ++ back) = wordsOf front ++ wordsOf back := by
  rcases meetApart_iff.1 hmeet with hfront | hback
  · exact wordsOf_append_of_opensRun hfront back
  · exact wordsOf_append_of_head? front hback

/-- Only the word at the end of the first line and the one at the beginning of the second are touched. -/
theorem wordsOf_append_of_not_meetApart {front back : Bytes} (hmeet : ¬ MeetApart front back) :
    WordsMerge (wordsOf front) (wordsOf back) (wordsOf (front ++ back)) := by
  rw [meetApart_iff, not_or] at hmeet
  obtain ⟨hopen, hclosed⟩ := hmeet
  have hfront : front.rdropWhile isOfWord ++ sinceDelimiter front = front :=
    List.rdropWhile_append_rtakeWhile
  have hback : back.takeWhile isOfWord ++ back.dropWhile isOfWord = back :=
    List.takeWhile_append_dropWhile
  have hopens : opensRun (front.rdropWhile isOfWord) := (opensRun_iff _).2 getLast?_rdropWhile_isOfWord
  have hlast : IsWord (sinceDelimiter front) := by
    refine ⟨fun hnone => hopen ?_, mem_sinceDelimiter⟩
    rw [hnone, List.append_nil] at hfront
    rwa [hfront] at hopens
  have hfirst : IsWord (back.takeWhile isOfWord) := by
    refine ⟨fun hnone => hclosed ?_, mem_takeWhile_isOfWord⟩
    rw [hnone, List.nil_append] at hback
    rw [← hback]
    exact head?_dropWhile_isOfWord
  have hmerged : IsWord (sinceDelimiter front ++ back.takeWhile isOfWord) :=
    ⟨by simp [hlast.1], List.forall_mem_append.2 ⟨hlast.2, hfirst.2⟩⟩
  refine ⟨wordsOf (front.rdropWhile isOfWord), sinceDelimiter front, back.takeWhile isOfWord,
    wordsOf (back.dropWhile isOfWord), ?_, ?_, ?_⟩
  · have halone := wordsOf_word_append hlast fun first (hnone : first ∈ ([] : Bytes).head?) =>
      nomatch hnone
    rw [List.append_nil] at halone
    conv_lhs => rw [← hfront, wordsOf_append_of_opensRun hopens, halone]
    rfl
  · conv_lhs => rw [← hback, wordsOf_word_append hfirst head?_dropWhile_isOfWord]
  · have hparts : front ++ back = front.rdropWhile isOfWord ++
        ((sinceDelimiter front ++ back.takeWhile isOfWord) ++ back.dropWhile isOfWord) := by
      conv_lhs => rw [← hfront, ← hback]
      simp only [List.append_assoc]
    rw [hparts, wordsOf_append_of_opensRun hopens, wordsOf_word_append hmerged head?_dropWhile_isOfWord]

theorem WordsMerge.length {ofFront ofBack ofBoth : List Bytes} (hmerge : WordsMerge ofFront ofBack ofBoth) :
    ofBoth.length + 1 = ofFront.length + ofBack.length := by
  obtain ⟨earlier, last, first, later, rfl, rfl, rfl⟩ := hmerge
  simp only [List.length_append, List.length_cons, List.length_nil]
  omega

theorem wordsOf_append_iff {front back : Bytes} :
    wordsOf (front ++ back) = wordsOf front ++ wordsOf back ↔ MeetApart front back := by
  refine ⟨fun hsame => ?_, wordsOf_append_of_meetApart⟩
  by_contra hmeet
  -- A merger costs a word.
  have hlength := (wordsOf_append_of_not_meetApart hmeet).length
  rw [hsame, List.length_append] at hlength
  omega

/-! ### Writing a line anew from its words -/

/-- Words are found again when they are written with a gap between neighbours. -/
theorem wordsOf_joinWith {gap : Bytes} (hgap : IsGap gap) (hne : gap ≠ []) {words : List Bytes}
    (hwords : ∀ word ∈ words, IsWord word) : wordsOf (Bytes.joinWith gap words) = words := by
  induction words with
  | nil => rfl
  | cons word rest ih =>
    obtain ⟨hword, hrest⟩ := List.forall_mem_cons.1 hwords
    have hbehind : wordsOf (rest.flatMap (gap ++ ·)) = rest := by
      cases rest with
      | nil => rfl
      | cons next rest =>
        rw [List.flatMap_cons, List.append_assoc, wordsOf_gap_append hgap]
        exact ih hrest
    have hopens : ∀ first ∈ (rest.flatMap (gap ++ ·)).head?, first ∈ delimiters := by
      intro first hfirst
      obtain ⟨byte, gap, rfl⟩ := List.exists_cons_of_ne_nil hne
      cases rest with
      | nil => exact nomatch hfirst
      | cons next rest =>
        obtain rfl : byte = first := Option.some.inj hfirst
        exact hgap byte List.mem_cons_self
    rw [Bytes.joinWith, wordsOf_word_append hword hopens, hbehind]

theorem wordsOf_spaced_wordsOf (line : Bytes) : wordsOf (spaced (wordsOf line)) = wordsOf line :=
  wordsOf_joinWith (IsGap.nil.cons (by decide)) (by decide) fun _ hword => isWord_of_mem_wordsOf hword

/-! ### Tokenizing -/

namespace Session

variable {ω : Type} [World ω]

def tokens (world : ω) (line : Bytes) : List Bytes := ((tokenize line).run world).value

/-- Tokenizing turns a delimiter between two lines into an append. Without one, the words are those of
the one line and then those of the other exactly if the lines do not meet within a word; if they do, the
two words that meet are merged. The words of a line, written with single spaces, make a line that has
them again and that is written in no other way when this is done once more. -/
theorem tokens_append (world : ω) :
    (∀ front back : Bytes, ∀ byte ∈ delimiters,
      tokens world (front ++ [byte] ++ back) = tokens world front ++ tokens world back) ∧
    (∀ front back : Bytes,
      tokens world (front ++ back) = tokens world front ++ tokens world back ↔ MeetApart front back) ∧
    (∀ front back : Bytes, ¬ MeetApart front back →
      WordsMerge (tokens world front) (tokens world back) (tokens world (front ++ back)) ∧
      (tokens world (front ++ back)).length + 1
        = (tokens world front).length + (tokens world back).length) ∧
    ∀ line : Bytes, tokens world (spaced (tokens world line)) = tokens world line ∧
      spaced (tokens world (spaced (tokens world line))) = spaced (tokens world line) := by
  simp only [tokens, tokenize_value]
  refine ⟨fun front back byte hbyte => ?_, fun front back => wordsOf_append_iff,
    fun front back hmeet => ?_, fun line => ?_⟩
  · rw [List.append_assoc]
    exact wordsOf_delimiter_append front hbyte back
  · have hmerge := wordsOf_append_of_not_meetApart hmeet
    exact ⟨hmerge, hmerge.length⟩
  · have hsame := wordsOf_spaced_wordsOf line
    exact ⟨hsame, congrArg spaced hsame⟩

end Session

end LineShell
