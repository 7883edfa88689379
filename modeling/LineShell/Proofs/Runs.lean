import LineShell.Proofs.Words
import Mathlib.Data.List.DropRight
/-!
# Runs of a line

A run is a longest string of bytes in a line that are no delimiters, together with its place: all that
stands in front of it and all that stands behind it. The words of a line are its runs in the order of
their places, so of each word it can be said where it stands, and of each place that is no delimiter
which word covers it.

Nothing here looks at how a line is cut into words. `runsOf` goes through the places of a line from the
front and asks at each of them whether a run begins there, while the words are found from the back.
-/

namespace LineShell

/-- A longest string of bytes that are no delimiters, and the two parts of its line around it. -/
structure Run where
  before : Bytes
  word : Bytes
  after : Bytes
  isWord : IsWord word
  opens : ∀ byte ∈ before.getLast?, byte ∈ delimiters
  closes : ∀ byte ∈ after.head?, byte ∈ delimiters

namespace Run

def line (run : Run) : Bytes := run.before ++ (run.word ++ run.after)

def start (run : Run) : Nat := run.before.length

def Covers (run : Run) (place : Nat) : Prop :=
  run.start ≤ place ∧ place < run.start + run.word.length

end Run

def isOfWord (byte : UInt8) : Bool := !isDelimiter byte

/-- Whether a part of a line is empty or ends in a delimiter, so that a run can begin behind it. -/
def opensRun (before : Bytes) : Bool := before.getLast?.all isDelimiter

/-- The bytes at the end of a line that stand behind its last delimiter. -/
def sinceDelimiter (line : Bytes) : Bytes := line.rtakeWhile isOfWord

/-! ### Bytes of a word and what ends it -/

@[simp] theorem isOfWord_iff (byte : UInt8) : isOfWord byte ↔ byte ∉ delimiters := by
  rw [isOfWord, Bool.not_eq_true', Bool.eq_false_iff, ne_eq, isDelimiter_iff]

theorem opensRun_iff (before : Bytes) :
    opensRun before ↔ ∀ last ∈ before.getLast?, last ∈ delimiters := by
  rw [opensRun, Option.all_eq_true]
  exact forall₂_congr fun last _ => isDelimiter_iff last

@[simp] theorem opensRun_nil : opensRun [] = true := rfl

@[simp] theorem opensRun_concat (before : Bytes) (byte : UInt8) :
    opensRun (before ++ [byte]) = isDelimiter byte := by
  rw [opensRun, List.getLast?_concat]
  rfl

instance : DecidablePred IsWord := fun word =>
  decidable_of_iff (word ≠ [] ∧ word.all isOfWord) <| and_congr_right fun _ => by
    simp only [List.all_eq_true, isOfWord_iff]

theorem mem_takeWhile_isOfWord {line : Bytes} :
    ∀ byte ∈ line.takeWhile isOfWord, byte ∉ delimiters := by
  intro byte hbyte
  exact (isOfWord_iff byte).1 (List.mem_takeWhile_imp hbyte)

theorem mem_sinceDelimiter {line : Bytes} : ∀ byte ∈ sinceDelimiter line, byte ∉ delimiters := by
  intro byte hbyte
  exact (isOfWord_iff byte).1 (List.mem_rtakeWhile_imp hbyte)

theorem head?_dropWhile_isOfWord {line : Bytes} :
    ∀ byte ∈ (line.dropWhile isOfWord).head?, byte ∈ delimiters := by
  intro byte hbyte
  have hfirst := List.head?_dropWhile_not isOfWord line
  rw [hbyte] at hfirst
  change isOfWord byte = false at hfirst
  by_contra hother
  rw [(isOfWord_iff byte).2 hother] at hfirst
  exact absurd hfirst (by decide)

theorem getLast?_rdropWhile_isOfWord {line : Bytes} :
    ∀ byte ∈ (line.rdropWhile isOfWord).getLast?, byte ∈ delimiters := by
  intro byte hbyte
  rw [List.rdropWhile, List.getLast?_reverse] at hbyte
  exact head?_dropWhile_isOfWord byte hbyte

theorem takeWhile_word_append {word after : Bytes} (hword : ∀ byte ∈ word, byte ∉ delimiters)
    (hafter : ∀ byte ∈ after.head?, byte ∈ delimiters) :
    (word ++ after).takeWhile isOfWord = word ∧ (word ++ after).dropWhile isOfWord = after := by
  have hall : ∀ byte ∈ word, isOfWord byte := fun byte hbyte => (isOfWord_iff byte).2 (hword byte hbyte)
  rw [List.takeWhile_append_of_pos hall, List.dropWhile_append_of_pos hall]
  cases after with
  | nil => simp
  | cons byte after =>
    have hbyte : byte ∈ delimiters := hafter byte rfl
    simp [hbyte]

/-! ### From the front of a line -/

/-- The run that begins with `byte` between two parts of a line, if one does. -/
def beginning? (before : Bytes) (byte : UInt8) (rest : Bytes) : Option Run :=
  if hbegins : isOfWord byte ∧ opensRun before then
    some
      { before
        word := byte :: rest.takeWhile isOfWord
        after := rest.dropWhile isOfWord
        isWord := ⟨List.cons_ne_nil _ _,
          List.forall_mem_cons.2 ⟨(isOfWord_iff byte).1 hbegins.1, mem_takeWhile_isOfWord⟩⟩
        opens := (opensRun_iff before).1 hbegins.2
        closes := head?_dropWhile_isOfWord }
  else none

/-- The runs that begin behind the first part of a line, in the order of their places. -/
def runsBehind (before : Bytes) : Bytes → List Run
  | [] => []
  | byte :: rest => (beginning? before byte rest).toList ++ runsBehind (before ++ [byte]) rest

/-- All runs of a line, in the order of their places. -/
def runsOf (line : Bytes) : List Run := runsBehind [] line

theorem beginning?_eq_some_iff {before : Bytes} {byte : UInt8} {rest : Bytes} {run : Run} :
    beginning? before byte rest = some run ↔
      run.before = before ∧ run.word ++ run.after = byte :: rest := by
  unfold beginning?
  constructor
  · intro hrun
    split at hrun
    · obtain rfl := Option.some.inj hrun
      exact ⟨rfl, congrArg (byte :: ·) List.takeWhile_append_dropWhile⟩
    · simp at hrun
  · obtain ⟨front, word, after, hword, hopens, hcloses⟩ := run
    rintro ⟨rfl, hparts⟩
    obtain ⟨first, word, rfl⟩ := List.exists_cons_of_ne_nil hword.1
    obtain ⟨rfl, rfl⟩ := List.cons.inj hparts
    obtain ⟨hfirst, hrest⟩ := List.forall_mem_cons.1 hword.2
    obtain ⟨htake, hdrop⟩ := takeWhile_word_append hrest hcloses
    rw [dif_pos ⟨(isOfWord_iff first).2 hfirst, (opensRun_iff front).2 hopens⟩]
    simp [htake, hdrop]

theorem mem_runsBehind {run : Run} {before behind : Bytes} :
    run ∈ runsBehind before behind ↔
      ∃ between, run.before = before ++ between ∧ behind = between ++ (run.word ++ run.after) := by
  -- What stands between the first part and the run is used up byte by byte.
  induction behind generalizing before with
  | nil =>
    have hword := run.isWord.1
    simp [runsBehind, hword]
  | cons byte rest ih =>
    rw [runsBehind, List.mem_append, Option.mem_toList, beginning?_eq_some_iff, ih]
    constructor
    · rintro (⟨hbefore, hparts⟩ | ⟨between, hbefore, hrest⟩)
      · exact ⟨[], by rw [hbefore, List.append_nil], hparts.symm⟩
      · exact ⟨byte :: between, by rw [hbefore, List.append_assoc]; rfl, by rw [hrest]; rfl⟩
    · rintro ⟨between, hbefore, hbehind⟩
      cases between with
      | nil => exact .inl ⟨by rw [hbefore, List.append_nil], hbehind.symm⟩
      | cons first between =>
        obtain ⟨rfl, hrest⟩ := List.cons.inj hbehind
        exact .inr ⟨between, by rw [hbefore, List.append_assoc]; rfl, hrest⟩

@[simp] theorem mem_runsOf {run : Run} {line : Bytes} : run ∈ runsOf line ↔ run.line = line := by
  rw [runsOf, mem_runsBehind]
  constructor
  · rintro ⟨between, hbefore, rfl⟩
    rw [Run.line, hbefore, List.nil_append]
  · rintro rfl
    exact ⟨run.before, rfl, rfl⟩

theorem pairwise_runsBehind (before behind : Bytes) :
    (runsBehind before behind).Pairwise fun run later => run.start < later.start := by
  induction behind generalizing before with
  | nil => exact List.Pairwise.nil
  | cons byte rest ih =>
    rw [runsBehind, List.pairwise_append]
    refine ⟨by cases beginning? before byte rest <;> simp, ih _, fun run hrun later hlater => ?_⟩
    rw [Option.mem_toList, beginning?_eq_some_iff] at hrun
    obtain ⟨between, hlater, -⟩ := mem_runsBehind.1 hlater
    rw [Run.start, Run.start, hrun.1, hlater]
    simp only [List.length_append, List.length_singleton]
    omega

theorem pairwise_runsOf (line : Bytes) :
    (runsOf line).Pairwise fun run later => run.start < later.start := pairwise_runsBehind [] line

/-! ### Runs and words -/

private theorem foldr_before_word (line : Bytes) :
    (line.foldr Suffix.before .atEnd).word = line.takeWhile isOfWord := by
  induction line with
  | nil => rfl
  | cons byte line ih =>
    rw [List.foldr_cons, Suffix.before, List.takeWhile_cons, isOfWord]
    cases isDelimiter byte with
    | true => rfl
    | false => simp [ih]

private theorem foldr_before_cons (byte : UInt8) (line : Bytes) :
    (byte :: line).foldr Suffix.before .atEnd =
      if isDelimiter byte then ⟨[], wordsOf line⟩
      else ⟨byte :: line.takeWhile isOfWord, (line.foldr Suffix.before .atEnd).later⟩ := by
  rw [List.foldr_cons, Suffix.before, ← foldr_before_word]
  rfl

/-- Behind a delimiter the runs are the words of what follows. Behind any other byte the word that is
under way there belongs to a run that has begun before. -/
private theorem map_word_runsBehind (before behind : Bytes) :
    (runsBehind before behind).map Run.word =
      if opensRun before then wordsOf behind else (behind.foldr Suffix.before .atEnd).later := by
  -- The words are found from the back, so what counts of the first part is only how it ends.
  induction behind generalizing before with
  | nil => split <;> rfl
  | cons byte rest ih =>
    have hwords : wordsOf (byte :: rest) = ((byte :: rest).foldr Suffix.before .atEnd).words := rfl
    rw [runsBehind, List.map_append, ih, opensRun_concat, hwords, foldr_before_cons, beginning?]
    by_cases hbyte : isDelimiter byte
    · simp [hbyte, isOfWord, Suffix.words]
    · by_cases hbefore : opensRun before
      · have hbegins : isOfWord byte ∧ opensRun before :=
          ⟨(isOfWord_iff byte).2 (mt (isDelimiter_iff byte).2 hbyte), hbefore⟩
        rw [dif_pos hbegins, if_neg hbyte, if_neg hbyte, if_pos hbefore]
        rfl
      · have hnone : ¬ (isOfWord byte ∧ opensRun before) := fun hbegins => hbefore hbegins.2
        rw [dif_neg hnone, if_neg hbyte, if_neg hbyte, if_neg hbefore]
        rfl

theorem map_word_runsOf (line : Bytes) : (runsOf line).map Run.word = wordsOf line := by
  rw [runsOf, map_word_runsBehind, if_pos opensRun_nil]

example : (runsOf (Bytes.ofString " ls\t-l ")).map Run.start = [1, 4] := by decide

theorem isWord_of_mem_wordsOf {line word : Bytes} (hword : word ∈ wordsOf line) : IsWord word := by
  rw [← map_word_runsOf] at hword
  obtain ⟨run, -, rfl⟩ := List.mem_map.1 hword
  exact run.isWord

theorem exists_mem_wordsOf {line : Bytes} {byte : UInt8} (hbyte : byte ∉ delimiters) :
    (∃ word ∈ wordsOf line, byte ∈ word) ↔ byte ∈ line := by
  have hflatten : byte ∈ (wordsOf line).flatten ↔ byte ∈ line := by
    rw [flatten_wordsOf, List.mem_filter]
    exact and_iff_left ((isOfWord_iff byte).2 hbyte)
  rw [← hflatten, List.mem_flatten]

theorem wordsOf_eq_nil_iff {line : Bytes} : wordsOf line = [] ↔ IsGap line := by
  constructor
  · intro hnone byte hmem
    by_contra hbyte
    obtain ⟨word, hword, -⟩ := (exists_mem_wordsOf hbyte).2 hmem
    rw [hnone] at hword
    exact List.not_mem_nil hword
  · intro hgap
    have hwords := wordsOf_gap_append hgap []
    rwa [List.append_nil] at hwords

/-- Unless a line is a gap, one of its runs has nothing but delimiters in front of it. -/
theorem exists_first_run {line : Bytes} (hline : ¬ IsGap line) :
    ∃ run : Run, run.line = line ∧ IsGap run.before := by
  have hsplit : line.takeWhile isDelimiter ++ line.dropWhile isDelimiter = line :=
    List.takeWhile_append_dropWhile
  have hgap : IsGap (line.takeWhile isDelimiter) := fun byte hbyte =>
    (isDelimiter_iff byte).1 (List.mem_takeWhile_imp hbyte)
  have hfirst := List.head?_dropWhile_not isDelimiter line
  generalize line.takeWhile isDelimiter = lead at hsplit hgap
  cases hrest : line.dropWhile isDelimiter with
  | nil =>
    rw [hrest, List.append_nil] at hsplit
    exact absurd (hsplit ▸ hgap) hline
  | cons byte rest =>
    rw [hrest] at hsplit hfirst
    have hbyte : byte ∉ delimiters := by
      intro hmem
      change isDelimiter byte = false at hfirst
      rw [(isDelimiter_iff byte).2 hmem] at hfirst
      exact absurd hfirst (by decide)
    have hbegins : isOfWord byte ∧ opensRun lead := ⟨(isOfWord_iff byte).2 hbyte,
      (opensRun_iff lead).2 fun last hlast => hgap last (List.mem_of_getLast? hlast)⟩
    obtain ⟨run, hrun⟩ : ∃ run, beginning? lead byte rest = some run := ⟨_, dif_pos hbegins⟩
    obtain ⟨rfl, hparts⟩ := beginning?_eq_some_iff.1 hrun
    exact ⟨run, by rw [Run.line, hparts, hsplit], hgap⟩

theorem Run.wordsOf_line {run : Run} (hgap : IsGap run.before) :
    wordsOf run.line = run.word :: wordsOf run.after := by
  rw [line, wordsOf_gap_append hgap, wordsOf_word_append run.isWord run.closes]

theorem head?_wordsOf_eq_some_iff {line word : Bytes} :
    (wordsOf line).head? = some word ↔
      ∃ run : Run, run.line = line ∧ IsGap run.before ∧ run.word = word := by
  constructor
  · intro hhead
    have hline : ¬ IsGap line := by
      intro hgap
      simp [wordsOf_eq_nil_iff.2 hgap] at hhead
    obtain ⟨run, rfl, hgap⟩ := exists_first_run hline
    rw [Run.wordsOf_line hgap] at hhead
    exact ⟨run, rfl, hgap, Option.some.inj hhead⟩
  · rintro ⟨run, rfl, hgap, rfl⟩
    rw [Run.wordsOf_line hgap]
    rfl

/-! ### Runs and places -/

namespace Run

/-- The run that covers a byte, with what stands before that byte and behind it. -/
def around (front : Bytes) {byte : UInt8} (hbyte : byte ∉ delimiters) (back : Bytes) : Run where
  before := front.rdropWhile isOfWord
  word := sinceDelimiter front ++ byte :: back.takeWhile isOfWord
  after := back.dropWhile isOfWord
  isWord := by
    refine ⟨by simp, List.forall_mem_append.2 ⟨mem_sinceDelimiter, ?_⟩⟩
    exact List.forall_mem_cons.2 ⟨hbyte, mem_takeWhile_isOfWord⟩
  opens := getLast?_rdropWhile_isOfWord
  closes := head?_dropWhile_isOfWord

variable {front back : Bytes} {byte : UInt8}

theorem around_line (hbyte : byte ∉ delimiters) :
    (around front hbyte back).line = front ++ byte :: back := by
  have hfront : front.rdropWhile isOfWord ++ sinceDelimiter front = front :=
    List.rdropWhile_append_rtakeWhile
  have hback : back.takeWhile isOfWord ++ back.dropWhile isOfWord = back :=
    List.takeWhile_append_dropWhile
  simp only [line, around, List.append_assoc, List.cons_append, hback]
  rw [← List.append_assoc, hfront]

theorem around_start (hbyte : byte ∉ delimiters) :
    (around front hbyte back).start + (sinceDelimiter front).length = front.length := by
  rw [start, around, ← List.length_append]
  exact congrArg List.length List.rdropWhile_append_rtakeWhile

theorem around_covers (hbyte : byte ∉ delimiters) : (around front hbyte back).Covers front.length := by
  have hstart : (around front hbyte back).start + (sinceDelimiter front).length = front.length :=
    around_start hbyte
  have hword : (around front hbyte back).word.length
      = (sinceDelimiter front).length + ((back.takeWhile isOfWord).length + 1) := by
    simp [around]
  constructor <;> omega

/-- Of two runs of one line, the first ends in front of the second. -/
theorem word_subset_before {run later : Run} (hline : run.line = later.line)
    (hstart : run.start < later.start) : run.word ⊆ later.before := by
  rw [line, line, List.append_eq_append_iff] at hline
  obtain ⟨between, hbefore, hrest⟩ : ∃ between, later.before = run.before ++ between ∧
      run.word ++ run.after = between ++ (later.word ++ later.after) := by
    rcases hline with ⟨between, hbefore, hrest⟩ | ⟨between, hbefore, -⟩
    · exact ⟨between, hbefore, hrest⟩
    · have hlength := congrArg List.length hbefore
      rw [List.length_append] at hlength
      simp only [start] at hstart
      omega
  rw [List.append_eq_append_iff] at hrest
  rcases hrest with ⟨gap, hbetween, -⟩ | ⟨joined, hword, -⟩
  · intro byte hbyte
    simp [hbefore, hbetween, hbyte]
  · -- What stands between the two beginnings ends in a delimiter, so it is no part of the first word.
    have hne : between ≠ [] := by
      rintro rfl
      rw [List.append_nil] at hbefore
      simp only [start, hbefore] at hstart
      omega
    have hlast : between.getLast hne ∈ delimiters := by
      apply later.opens
      rw [hbefore, List.getLast?_append, List.getLast?_eq_some_getLast hne]
      rfl
    have hmem : between.getLast hne ∈ run.word := by
      rw [hword]
      exact List.mem_append_left _ (List.getLast_mem hne)
    exact absurd hlast (run.isWord.2 _ hmem)

end Run

end LineShell
