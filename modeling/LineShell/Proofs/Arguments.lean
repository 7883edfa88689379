import LineShell.Proofs.Bytes
import LineShell.Proofs.Launch
import LineShell.Proofs.Runs
import LineShell.Stage
/-!
# Arguments of a line

A launch is prepared from the words of a line. Whether that succeeds can be seen from the line: there
must be something in it besides delimiters, and no NUL byte. What is prepared holds every word as it is,
and the block in which the arguments are handed over, each with a NUL byte behind it, tells them apart
again.

If there is a NUL byte, the search for it goes through the words and then through the bytes of one word.
It comes to the first NUL byte of the line all the same, counted from the beginning of its run.
-/

namespace LineShell

/-- The arguments one behind the other, each with a NUL byte behind it. -/
def Prepared.block (prepared : Prepared) : Bytes := prepared.arguments.flatMap (· ++ [0])

/-! ### What can be prepared -/

section Prepare

open Kernel

variable {words : List Bytes}

theorem prepare_cases (words : List Bytes) :
    (words = [] ∧ prepare words = .error .emptyCommand) ∨
      ((∃ word ∈ words, 0 ∈ word) ∧ ∃ error, prepare words = .error (.nul error)) ∨
      (words ≠ [] ∧ (∀ word ∈ words, 0 ∉ word) ∧ prepare words = .ok (preparedOf words)) := by
  by_cases hempty : words = []
  · exact .inl ⟨hempty, by rw [hempty]; rfl⟩
  by_cases hnul : ∃ word ∈ words, 0 ∈ word
  · obtain ⟨front, word, back, position, hsplit, hfront, hword⟩ := exists_first_nul hnul
    exact .inr (.inl ⟨hnul, ⟨position⟩, by rw [hsplit, prepare_of_nul hfront hword back]⟩)
  · have hwords : ∀ word ∈ words, 0 ∉ word := fun word hword hbyte => hnul ⟨word, hword, hbyte⟩
    exact .inr (.inr ⟨hempty, hwords, prepare_of_no_nul hempty hwords⟩)

theorem prepare_eq_emptyCommand_iff : prepare words = .error .emptyCommand ↔ words = [] := by
  rcases prepare_cases words with ⟨hempty, hprepare⟩ | ⟨⟨word, hword, -⟩, error, hprepare⟩ |
    ⟨hempty, -, hprepare⟩
  · rw [hprepare]
    simp [hempty]
  · rw [hprepare]
    simp [List.ne_nil_of_mem hword]
  · rw [hprepare]
    simp [hempty]

theorem exists_prepare_eq_nul_iff :
    (∃ error, prepare words = .error (.nul error)) ↔ ∃ word ∈ words, 0 ∈ word := by
  rcases prepare_cases words with ⟨hempty, hprepare⟩ | ⟨hnul, hprepare⟩ | ⟨-, hwords, hprepare⟩
  · rw [hprepare]
    simp [hempty]
  · exact iff_of_true hprepare hnul
  · refine iff_of_false (by simp [hprepare]) ?_
    rintro ⟨word, hword, hbyte⟩
    exact hwords word hword hbyte

theorem prepare_eq_ok_iff {prepared : Prepared} :
    prepare words = .ok prepared ↔
      (words ≠ [] ∧ ∀ word ∈ words, 0 ∉ word) ∧ prepared = preparedOf words := by
  rcases prepare_cases words with ⟨hempty, hprepare⟩ | ⟨⟨word, hword, hbyte⟩, error, hprepare⟩ |
    ⟨hempty, hwords, hprepare⟩
  · rw [hprepare]
    simp [hempty]
  · refine iff_of_false (by simp [hprepare]) ?_
    rintro ⟨⟨-, hwords⟩, -⟩
    exact hwords word hword hbyte
  · rw [hprepare, Except.ok.injEq, eq_comm]
    exact (and_iff_right ⟨hempty, hwords⟩).symm

theorem splitOn_block (hwords : ∀ word ∈ words, 0 ∉ word) :
    Bytes.splitOn 0 (preparedOf words).block = words ++ [[]] := by
  have hsplit := Bytes.splitOn_flatMap_append hwords []
  rwa [List.append_nil] at hsplit

theorem block_injective {words' : List Bytes} (hwords : ∀ word ∈ words, 0 ∉ word)
    (hwords' : ∀ word ∈ words', 0 ∉ word)
    (hblock : (preparedOf words').block = (preparedOf words).block) : words' = words := by
  have hsame : words' ++ [[]] = words ++ [[]] := by
    rw [← splitOn_block hwords, ← splitOn_block hwords', hblock]
  exact List.append_cancel_right hsame

end Prepare

/-! ### From the line -/

theorem nul_not_mem_delimiters : (0 : UInt8) ∉ delimiters := by decide

variable {ω : Type} [World ω]

/-- The launch of a line can be prepared exactly if the line is neither a gap nor holds a NUL byte, and
each of these has an error of its own. What is prepared has one argument for each word, byte for byte,
and at least one. No argument is empty or holds a NUL byte or a delimiter, the block splits into the
words again and no other words have it, and the message for a failure begins with the first word. -/
theorem prepare_tokenize (line : Bytes) (world : ω) :
    let words := ((Session.tokenize line).run world).value
    (prepare words = .error .emptyCommand ↔ IsGap line) ∧
      ((∃ error, prepare words = .error (.nul error)) ↔ 0 ∈ line) ∧
      ((∃ prepared, prepare words = .ok prepared) ↔ ¬ IsGap line ∧ 0 ∉ line) ∧
      ∀ prepared : Prepared, prepare words = .ok prepared →
        prepared.arguments.length = words.length ∧ 1 ≤ prepared.arguments.length ∧
          (∀ place : Nat, prepared.arguments[place]? = words[place]?) ∧
          (∀ argument ∈ prepared.arguments,
            argument ≠ [] ∧ 0 ∉ argument ∧ ∀ byte ∈ argument, byte ∉ delimiters) ∧
          Bytes.splitOn 0 prepared.block = words ++ [[]] ∧
          (∀ (words' : List Bytes) (prepared' : Prepared), prepare words' = .ok prepared' →
            prepared'.block = prepared.block → words' = words) ∧
          ∃ program, words[0]? = some program ∧
            prepared.failureHead = Bytes.ofString "lish: " ++ program ++ Bytes.ofString ": " := by
  intro words
  have hwordsOf : words = wordsOf line := Session.tokenize_value line world
  have hempty : words = [] ↔ IsGap line := by rw [hwordsOf, wordsOf_eq_nil_iff]
  have hnul : (∃ word ∈ words, 0 ∈ word) ↔ 0 ∈ line := by
    rw [hwordsOf, exists_mem_wordsOf nul_not_mem_delimiters]
  have hnone : (∀ word ∈ words, 0 ∉ word) ↔ 0 ∉ line := by
    rw [← hnul]
    push Not
    rfl
  refine ⟨prepare_eq_emptyCommand_iff.trans hempty, exists_prepare_eq_nul_iff.trans hnul, ?_,
    fun prepared hprepare => ?_⟩
  · simp only [prepare_eq_ok_iff, exists_and_left, exists_eq, and_true]
    rw [ne_eq, hempty, hnone]
  · obtain ⟨⟨hcommand, hwords⟩, rfl⟩ := prepare_eq_ok_iff.1 hprepare
    refine ⟨rfl, List.length_pos_iff.2 hcommand, fun _ => rfl, fun argument hargument => ?_,
      splitOn_block hwords, fun words' prepared' hprepare' hblock => ?_, ?_⟩
    · have hword : IsWord argument := isWord_of_mem_wordsOf (hwordsOf ▸ hargument)
      exact ⟨hword.1, hwords argument hargument, hword.2⟩
    · obtain ⟨⟨-, hwords'⟩, rfl⟩ := prepare_eq_ok_iff.1 hprepare'
      exact block_injective hwords hwords' hblock
    · obtain ⟨program, later, hsplit⟩ := List.exists_cons_of_ne_nil hcommand
      rw [hsplit]
      exact ⟨program, rfl, rfl⟩

/-! ### The first NUL byte -/

theorem firstNul_append {front : Bytes} (hfront : 0 ∉ front) (back : Bytes) :
    firstNul (front ++ 0 :: back) = some front.length := by
  rw [firstNul, List.findIdx?_append]
  have hnone : front.findIdx? (· == 0) = none := firstNul_eq_none_iff.2 hfront
  have hbyte : (0 :: back).findIdx? (· == 0) = some 0 := by simp [List.findIdx?_cons]
  rw [hnone, hbyte]
  simp

/-- The runs of a line around its first NUL byte: those in front of it hold none, and the one that covers
it holds none in front of it. -/
theorem exists_run_of_nul {front : Bytes} (hfront : 0 ∉ front) (back : Bytes) :
    ∃ earlier run later, runsOf (front ++ 0 :: back) = earlier ++ run :: later ∧
      (∀ other ∈ earlier, 0 ∉ other.word) ∧ run.Covers front.length ∧
      run.start + (sinceDelimiter front).length = front.length ∧
      firstNul run.word = some (sinceDelimiter front).length := by
  let run := Run.around front nul_not_mem_delimiters back
  have hline : run.line = front ++ 0 :: back := Run.around_line nul_not_mem_delimiters
  have hsince : 0 ∉ sinceDelimiter front := fun hbyte =>
    hfront ((List.rtakeWhile_suffix isOfWord front).subset hbyte)
  obtain ⟨earlier, later, hruns⟩ := List.append_of_mem (mem_runsOf.2 hline)
  refine ⟨earlier, run, later, hruns, fun other hother hbyte => ?_,
    Run.around_covers nul_not_mem_delimiters, Run.around_start nul_not_mem_delimiters,
    firstNul_append hsince _⟩
  -- An earlier run stands in front of this one, so in front of the NUL byte too.
  have hpairwise := pairwise_runsOf (front ++ 0 :: back)
  rw [hruns, List.pairwise_append] at hpairwise
  have hstart : other.start < run.start := hpairwise.2.2 other hother run List.mem_cons_self
  have hother' : other.line = front ++ 0 :: back := by
    rw [← mem_runsOf, hruns]
    exact List.mem_append_left _ hother
  have hbefore : 0 ∈ run.before := Run.word_subset_before (hother'.trans hline.symm) hstart hbyte
  exact hfront ((List.rdropWhile_prefix isOfWord front).subset hbefore)

theorem argumentList_wordsOf_of_nul {front : Bytes} (hfront : 0 ∉ front) (back : Bytes) :
    argumentList (wordsOf (front ++ 0 :: back)) = .error ⟨(sinceDelimiter front).length⟩ := by
  obtain ⟨earlier, run, later, hruns, hearlier, -, -, hfirst⟩ := exists_run_of_nul hfront back
  rw [← map_word_runsOf, hruns, List.map_append, List.map_cons]
  exact argumentList_of_nul (List.forall_mem_map.2 hearlier) hfirst _

/-- With a NUL byte in the line, the error is that of the first word with one. This word is the run that
covers the first NUL byte of the line, and the position is that of this byte behind the last delimiter
in front of it. Nothing behind this byte has any part in it. -/
theorem argumentList_tokenize {line : Bytes} (hnul : 0 ∈ line) (world : ω) :
    let place := line.idxOf 0
    let words := ((Session.tokenize line).run world).value
    let position := (sinceDelimiter (line.take place)).length
    (∃ earlier run later, runsOf line = earlier ++ run :: later ∧ run.Covers place ∧
      (∀ other ∈ earlier, 0 ∉ other.word) ∧
      words = earlier.map Run.word ++ run.word :: later.map Run.word ∧
      argumentList words = argumentList [run.word] ∧ argumentList [run.word] = .error ⟨position⟩ ∧
      place = run.start + position) ∧
      ∀ (rest : Bytes) (world' : ω),
        argumentList ((Session.tokenize (line.take (place + 1) ++ rest)).run world').value
          = .error ⟨position⟩ := by
  intro place words position
  obtain ⟨front, back, rfl, hfront⟩ := List.eq_append_cons_of_mem hnul
  have hplace : place = front.length := by
    change (front ++ 0 :: back).idxOf 0 = front.length
    rw [List.idxOf_append_of_notMem hfront, List.idxOf_cons_self, Nat.add_zero]
  have htake : (front ++ 0 :: back).take place = front := by rw [hplace, List.take_left]
  have hnext : (front ++ 0 :: back).take (place + 1) = front ++ [0] := by
    rw [hplace, List.take_length_add_append]
    rfl
  have hposition : position = (sinceDelimiter front).length := by rw [← htake]
  have hwords : words = wordsOf (front ++ 0 :: back) := Session.tokenize_value _ world
  constructor
  · obtain ⟨earlier, run, later, hruns, hearlier, hcovers, hstart, hfirst⟩ :=
      exists_run_of_nul hfront back
    have hparts : words = earlier.map Run.word ++ run.word :: later.map Run.word := by
      rw [hwords, ← map_word_runsOf, hruns, List.map_append, List.map_cons]
    have hone : argumentList [run.word] = .error ⟨position⟩ := by
      rw [hposition]
      exact argumentList_of_nul (List.forall_mem_nil _) hfirst []
    have hall : argumentList words = .error ⟨position⟩ := by
      rw [hwords, hposition, argumentList_wordsOf_of_nul hfront]
    exact ⟨earlier, run, later, hruns, hplace ▸ hcovers, hearlier, hparts, hall.trans hone.symm, hone,
      by rw [hplace, hposition, hstart]⟩
  · intro rest world'
    rw [Session.tokenize_value, hnext, List.append_assoc, hposition]
    exact argumentList_wordsOf_of_nul hfront rest

/-- A line with NUL bytes in two of its words. The first stands behind one byte of the second word. -/
theorem argumentList_tokenize_two_words :
    let line := Bytes.ofString "ls \ta" ++ 0 :: (Bytes.ofString "b c" ++ [0])
    0 ∈ line ∧ argumentList ((Session.tokenize line).run Stage.plain).value = .error ⟨1⟩ := by
  intro line
  have hnul : 0 ∈ line := by decide
  obtain ⟨⟨earlier, run, later, -, -, -, -, hall, hone, -⟩, -⟩ := argumentList_tokenize hnul Stage.plain
  have hposition : (sinceDelimiter (line.take (line.idxOf 0))).length = 1 := by decide
  rw [hall, hone, hposition]
  exact ⟨hnul, rfl⟩

end LineShell
