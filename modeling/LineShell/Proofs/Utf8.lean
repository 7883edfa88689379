import LineShell.Text.Utf8
import Mathlib.Tactic.SplitIfs
/-!
# Texts within bytes

What is shown of a byte string is described here without the machine that reads it. A string falls into
characters and broken parts, and a broken part is a single byte or a start of a character that the byte
behind it does not continue. There is one way only to take a string apart like that, and what is shown is
what the reading of `Utf8.shown` comes to (`shows_iff`).

That no character is the start of another one, and which bytes can follow which, comes from the ranges
in which the bytes of a character lie. They are those of the encoder of the library, case by case of its
length, and from there on only `isCharacter_cons_iff` is used of them.
-/

namespace LineShell.Utf8

def IsCharacter (bytes : Bytes) : Prop := ∃ char : Char, String.utf8EncodeChar char = bytes

def IsText (bytes : Bytes) : Prop := ∃ text : String, Bytes.ofString text = bytes

/-- The first bytes of a character, or all of them. -/
def Begins (bytes : Bytes) : Prop := ∃ rest, IsCharacter (bytes ++ rest)

/-! ### The bytes of a character -/

def encoded (code : Nat) : Bytes :=
  if code ≤ 0x7f then [.ofNat code]
  else if code ≤ 0x7ff then [.ofNat (code / 64 % 32 + 0xc0), .ofNat (code % 64 + 0x80)]
  else if code ≤ 0xffff then
    [.ofNat (code / 4096 % 16 + 0xe0), .ofNat (code / 64 % 64 + 0x80), .ofNat (code % 64 + 0x80)]
  else
    [.ofNat (code / 262144 % 8 + 0xf0), .ofNat (code / 4096 % 64 + 0x80),
      .ofNat (code / 64 % 64 + 0x80), .ofNat (code % 64 + 0x80)]

theorem isCharacter_iff {bytes : Bytes} :
    IsCharacter bytes ↔ ∃ code : Nat, code.isValidChar ∧ encoded code = bytes := by
  constructor
  · rintro ⟨char, rfl⟩
    exact ⟨char.val.toNat, char.valid, rfl⟩
  · rintro ⟨code, hvalid, rfl⟩
    have hcode : (Char.ofNat code).val.toNat = code := by
      rw [Char.ofNat, dif_pos hvalid]
      rfl
    exact ⟨.ofNat code, congrArg encoded hcode⟩

section Ranges

variable {first second third fourth : UInt8}

theorem isCharacter_one_iff : IsCharacter [first] ↔ first.toNat < 0x80 := by
  rw [isCharacter_iff]
  constructor
  · rintro ⟨code, -, hcode⟩
    unfold encoded at hcode
    split_ifs at hcode <;> simp only [List.cons.injEq, reduceCtorEq, and_false, and_true] at hcode
    rw [← hcode, UInt8.toNat_ofNat']
    omega
  · intro hfirst
    refine ⟨first.toNat, by rw [Nat.isValidChar]; omega, ?_⟩
    rw [encoded, if_pos (by omega), UInt8.ofNat_toNat]

theorem isCharacter_two_iff :
    IsCharacter [first, second] ↔ (0xc2 ≤ first.toNat ∧ first.toNat < 0xe0) ∧
      (0x80 ≤ second.toNat ∧ second.toNat ≤ 0xbf) := by
  rw [isCharacter_iff]
  constructor
  · rintro ⟨code, -, hcode⟩
    unfold encoded at hcode
    split_ifs at hcode <;> simp only [List.cons.injEq, reduceCtorEq, and_false, and_true] at hcode
    rw [← hcode.1, ← hcode.2, UInt8.toNat_ofNat', UInt8.toNat_ofNat']
    omega
  · intro hrange
    refine ⟨(first.toNat - 0xc0) * 64 + (second.toNat - 0x80), by rw [Nat.isValidChar]; omega, ?_⟩
    rw [encoded, if_neg (by omega), if_pos (by omega)]
    simp only [List.cons.injEq, ← UInt8.toNat_inj, UInt8.toNat_ofNat', and_true]
    omega

theorem isCharacter_three_iff :
    IsCharacter [first, second, third] ↔ (0xe0 ≤ first.toNat ∧ first.toNat < 0xf0) ∧
      (0x80 ≤ second.toNat ∧ second.toNat ≤ 0xbf) ∧ (0x80 ≤ third.toNat ∧ third.toNat ≤ 0xbf) ∧
      (first.toNat = 0xe0 → 0xa0 ≤ second.toNat) ∧ (first.toNat = 0xed → second.toNat ≤ 0x9f) := by
  rw [isCharacter_iff]
  constructor
  · rintro ⟨code, hvalid, hcode⟩
    rw [Nat.isValidChar] at hvalid
    unfold encoded at hcode
    split_ifs at hcode <;> simp only [List.cons.injEq, reduceCtorEq, and_false, and_true] at hcode
    rw [← hcode.1, ← hcode.2.1, ← hcode.2.2]
    simp only [UInt8.toNat_ofNat']
    omega
  · intro hrange
    refine ⟨(first.toNat - 0xe0) * 4096 + (second.toNat - 0x80) * 64 + (third.toNat - 0x80),
      by rw [Nat.isValidChar]; omega, ?_⟩
    rw [encoded, if_neg (by omega), if_neg (by omega), if_pos (by omega)]
    simp only [List.cons.injEq, ← UInt8.toNat_inj, UInt8.toNat_ofNat', and_true]
    omega

theorem isCharacter_four_iff :
    IsCharacter [first, second, third, fourth] ↔ (0xf0 ≤ first.toNat ∧ first.toNat < 0xf5) ∧
      (0x80 ≤ second.toNat ∧ second.toNat ≤ 0xbf) ∧ (0x80 ≤ third.toNat ∧ third.toNat ≤ 0xbf) ∧
      (0x80 ≤ fourth.toNat ∧ fourth.toNat ≤ 0xbf) ∧
      (first.toNat = 0xf0 → 0x90 ≤ second.toNat) ∧ (first.toNat = 0xf4 → second.toNat ≤ 0x8f) := by
  rw [isCharacter_iff]
  constructor
  · rintro ⟨code, hvalid, hcode⟩
    rw [Nat.isValidChar] at hvalid
    unfold encoded at hcode
    split_ifs at hcode <;> simp only [List.cons.injEq, reduceCtorEq, and_false, and_true] at hcode
    rw [← hcode.1, ← hcode.2.1, ← hcode.2.2.1, ← hcode.2.2.2]
    simp only [UInt8.toNat_ofNat']
    omega
  · intro hrange
    refine ⟨(first.toNat - 0xf0) * 262144 + (second.toNat - 0x80) * 4096 + (third.toNat - 0x80) * 64
      + (fourth.toNat - 0x80), by rw [Nat.isValidChar]; omega, ?_⟩
    rw [encoded, if_neg (by omega), if_neg (by omega), if_neg (by omega)]
    simp only [List.cons.injEq, ← UInt8.toNat_inj, UInt8.toNat_ofNat', and_true]
    omega

theorem length_le_four_of_isCharacter {bytes : Bytes} (hbytes : IsCharacter bytes) : bytes.length ≤ 4 := by
  obtain ⟨code, -, rfl⟩ := isCharacter_iff.1 hbytes
  unfold encoded
  split_ifs <;> simp

end Ranges

theorem not_isCharacter_nil : ¬ IsCharacter [] := by
  rintro ⟨char, hchar⟩
  exact String.utf8EncodeChar_ne_nil hchar

/-! ### What a first byte asks for -/

def Need.Met (need : Need) : Bytes → Prop
  | [] => need.count = 0
  | byte :: rest => need.count = rest.length + 1 ∧ (need.low ≤ byte ∧ byte ≤ need.high) ∧
      ∀ other ∈ rest, 0x80 ≤ other ∧ other ≤ 0xbf

theorem Need.met_nil_iff {need : Need} : need.Met [] ↔ need.count = 0 := Iff.rfl

theorem Need.met_cons_iff {need : Need} {byte : UInt8} {rest : Bytes} :
    need.Met (byte :: rest) ↔ need.count = rest.length + 1 ∧
      (need.low.toNat ≤ byte.toNat ∧ byte.toNat ≤ need.high.toNat) ∧
      ∀ other ∈ rest, 0x80 ≤ other.toNat ∧ other.toNat ≤ 0xbf := Iff.rfl

theorem Need.Met.length {need : Need} {bytes : Bytes} (hmet : need.Met bytes) :
    bytes.length = need.count := by
  cases bytes with
  | nil => exact Eq.symm hmet
  | cons byte rest => exact hmet.1.symm

theorem Need.ofLead_eq_none_iff {lead : UInt8} :
    Need.ofLead lead = none ↔ (0x80 ≤ lead.toNat ∧ lead.toNat < 0xc2) ∨ 0xf5 ≤ lead.toNat := by
  simp only [Need.ofLead, UInt8.lt_iff_toNat_lt, ← UInt8.toNat_inj, UInt8.reduceToNat]
  grind

/-- What a first byte asks for, in numbers. -/
theorem Need.table {lead : UInt8} {need : Need} (hneed : Need.ofLead lead = some need) :
    (lead.toNat < 0x80 ∧ need.count = 0 ∧ need.low.toNat = 0x80 ∧ need.high.toNat = 0xbf) ∨
      ((0xc2 ≤ lead.toNat ∧ lead.toNat < 0xe0) ∧
        need.count = 1 ∧ need.low.toNat = 0x80 ∧ need.high.toNat = 0xbf) ∨
      (lead.toNat = 0xe0 ∧ need.count = 2 ∧ need.low.toNat = 0xa0 ∧ need.high.toNat = 0xbf) ∨
      (lead.toNat = 0xed ∧ need.count = 2 ∧ need.low.toNat = 0x80 ∧ need.high.toNat = 0x9f) ∨
      ((0xe1 ≤ lead.toNat ∧ lead.toNat < 0xf0 ∧ lead.toNat ≠ 0xed) ∧
        need.count = 2 ∧ need.low.toNat = 0x80 ∧ need.high.toNat = 0xbf) ∨
      (lead.toNat = 0xf0 ∧ need.count = 3 ∧ need.low.toNat = 0x90 ∧ need.high.toNat = 0xbf) ∨
      ((0xf1 ≤ lead.toNat ∧ lead.toNat < 0xf4) ∧
        need.count = 3 ∧ need.low.toNat = 0x80 ∧ need.high.toNat = 0xbf) ∨
      (lead.toNat = 0xf4 ∧ need.count = 3 ∧ need.low.toNat = 0x80 ∧ need.high.toNat = 0x8f) := by
  simp only [Need.ofLead, UInt8.lt_iff_toNat_lt, ← UInt8.toNat_inj, UInt8.reduceToNat] at hneed
  split_ifs at hneed
  all_goals
    obtain rfl := Option.some.inj hneed
    simp
    omega

/-- The first byte of a character says which bytes can follow it. -/
theorem isCharacter_cons_iff {lead : UInt8} {rest : Bytes} :
    IsCharacter (lead :: rest) ↔ ∃ need, Need.ofLead lead = some need ∧ need.Met rest := by
  have hshort := fun hchar : IsCharacter (lead :: rest) => length_le_four_of_isCharacter hchar
  cases hlead : Need.ofLead lead with
  | none =>
    have hrange := Need.ofLead_eq_none_iff.1 hlead
    have hnone : ¬ IsCharacter (lead :: rest) := by
      rcases rest with _ | ⟨second, _ | ⟨third, _ | ⟨fourth, _ | ⟨fifth, rest⟩⟩⟩⟩
      · rw [isCharacter_one_iff]
        omega
      · rw [isCharacter_two_iff]
        omega
      · rw [isCharacter_three_iff]
        omega
      · rw [isCharacter_four_iff]
        omega
      · intro hchar
        have hlength := hshort hchar
        simp only [List.length_cons] at hlength
        omega
    simp [hnone]
  | some need =>
    have htable := Need.table hlead
    simp only [Option.some.injEq, exists_eq_left']
    rcases rest with _ | ⟨second, _ | ⟨third, _ | ⟨fourth, _ | ⟨fifth, rest⟩⟩⟩⟩
    · rw [isCharacter_one_iff, Need.met_nil_iff]
      omega
    · rw [isCharacter_two_iff]
      simp [Need.met_cons_iff]
      omega
    · rw [isCharacter_three_iff]
      simp [Need.met_cons_iff]
      omega
    · rw [isCharacter_four_iff]
      simp [Need.met_cons_iff]
      omega
    · refine iff_of_false (fun hchar => ?_) fun hmet => ?_
      · have hlength := hshort hchar
        simp only [List.length_cons] at hlength
        omega
      · have hlength := hmet.length
        simp only [List.length_cons] at hlength
        omega

theorem IsCharacter.eq_of_isPrefix {char char' : Bytes} (hchar : IsCharacter char)
    (hchar' : IsCharacter char') (hle : char <+: char') : char = char' := by
  cases char with
  | nil => exact absurd hchar not_isCharacter_nil
  | cons lead rest =>
    obtain ⟨more, rfl⟩ := hle
    rw [List.cons_append] at hchar' ⊢
    obtain ⟨need, hneed, hmet⟩ := isCharacter_cons_iff.1 hchar
    obtain ⟨need', hneed', hmet'⟩ := isCharacter_cons_iff.1 hchar'
    obtain rfl : need = need' := Option.some.inj (hneed.symm.trans hneed')
    have hlength := hmet.length.trans hmet'.length.symm
    rw [List.length_append] at hlength
    have hmore : more = [] := List.eq_nil_of_length_eq_zero (by omega)
    rw [hmore, List.append_nil]

theorem IsCharacter.not_ascii {front rest : Bytes} {byte : UInt8}
    (hchar : IsCharacter (front ++ byte :: rest)) (hfront : front ≠ []) : ¬ byte < 0x80 := by
  cases front with
  | nil => exact absurd rfl hfront
  | cons lead front =>
    obtain ⟨need, hneed, hmet⟩ := isCharacter_cons_iff.1 hchar
    have htable := Need.table hneed
    rw [UInt8.lt_iff_toNat_lt]
    change ¬ byte.toNat < 128
    cases front with
    | nil =>
      have hrange := (Need.met_cons_iff.1 hmet).2.1
      omega
    | cons second front =>
      have hrange := (Need.met_cons_iff.1 hmet).2.2 byte (by simp)
      omega

/-! ### Texts -/

theorem isText_nil : IsText [] := ⟨"", rfl⟩

theorem IsText.append {bytes bytes' : Bytes} (hbytes : IsText bytes) (hbytes' : IsText bytes') :
    IsText (bytes ++ bytes') := by
  obtain ⟨text, rfl⟩ := hbytes
  obtain ⟨text', rfl⟩ := hbytes'
  refine ⟨text ++ text', ?_⟩
  simp [Bytes.ofString]

theorem IsCharacter.isText {char : Bytes} (hchar : IsCharacter char) : IsText char := by
  obtain ⟨char, rfl⟩ := hchar
  refine ⟨String.singleton char, ?_⟩
  simp [Bytes.ofString]

theorem isText_replacement : IsText replacement := IsCharacter.isText ⟨'\uFFFD', by decide⟩

theorem IsText.induction {P : Bytes → Prop} (hnil : P [])
    (hcons : ∀ char rest, IsCharacter char → P rest → P (char ++ rest)) {bytes : Bytes}
    (hbytes : IsText bytes) : P bytes := by
  obtain ⟨text, rfl⟩ := hbytes
  unfold Bytes.ofString
  induction text.toList with
  | nil => exact hnil
  | cons char rest ih => exact hcons _ _ ⟨char, rfl⟩ ih

/-! ### Broken parts -/

/-- A part that is broken by what comes after it: it is a single byte or a start of a character, no
character stands where it does, and none can begin with more than it. -/
structure IsBroken (part after : Bytes) : Prop where
  begins : (∃ byte, part = [byte]) ∨ Begins part
  nonempty : part ≠ []
  stops : ∀ char, IsCharacter char → ¬ char <+: part ++ after
  longest : ∀ more, more ≠ [] → more <+: after → ¬ Begins (part ++ more)

/-- A byte string with what is shown of it: characters as they are, and the replacement character in the
place of each broken part. -/
inductive Shows : Bytes → Bytes → Prop where
  | nil : Shows [] []
  | character {char rest shown : Bytes} (hchar : IsCharacter char) (hrest : Shows rest shown) :
    Shows (char ++ rest) (char ++ shown)
  | broken {part rest shown : Bytes} (hpart : IsBroken part rest) (hrest : Shows rest shown) :
    Shows (part ++ rest) (replacement ++ shown)

theorem IsBroken.isPrefix {part part' after after' : Bytes} (hpart : IsBroken part after)
    (hpart' : IsBroken part' after') (heq : part ++ after = part' ++ after') : part' <+: part := by
  obtain ⟨more, hmore, hafter⟩ | ⟨more, hmore, -⟩ := List.append_eq_append_iff.1 heq
  · by_cases hne : more = []
    · exact ⟨[], by rw [hmore, hne, List.append_nil, List.append_nil]⟩
    · have hlonger : ¬ Begins part' := by
        rw [hmore]
        exact hpart.longest more hne ⟨after', hafter.symm⟩
      obtain ⟨byte, hbyte⟩ := hpart'.begins.resolve_right hlonger
      -- So the other part is a single byte, which leaves no room for the rest.
      have hlength := congrArg List.length (hmore.symm.trans hbyte)
      have hfirst := List.length_pos_iff.2 hpart.nonempty
      have hrest := List.length_pos_iff.2 hne
      rw [List.length_append, List.length_singleton] at hlength
      omega
  · exact ⟨more, hmore.symm⟩

theorem Shows.of_character {char rest shown : Bytes} (hchar : IsCharacter char)
    (hshows : Shows (char ++ rest) shown) : ∃ later, shown = char ++ later ∧ Shows rest later := by
  generalize hbytes : char ++ rest = bytes at hshows
  cases hshows with
  | nil =>
    obtain rfl := (List.append_eq_nil_iff.1 hbytes).1
    exact absurd hchar not_isCharacter_nil
  | @character char' rest' later hchar' hrest =>
    have hsame : char = char' := by
      rcases List.prefix_or_prefix_of_prefix ⟨rest, hbytes⟩ ⟨rest', rfl⟩ with hle | hle
      · exact hchar.eq_of_isPrefix hchar' hle
      · exact (hchar'.eq_of_isPrefix hchar hle).symm
    subst hsame
    obtain rfl := List.append_cancel_left hbytes
    exact ⟨later, rfl, hrest⟩
  | broken hpart hrest => exact absurd ⟨rest, hbytes⟩ (hpart.stops char hchar)

theorem Shows.of_broken {part rest shown : Bytes} (hpart : IsBroken part rest)
    (hshows : Shows (part ++ rest) shown) :
    ∃ later, shown = replacement ++ later ∧ Shows rest later := by
  generalize hbytes : part ++ rest = bytes at hshows
  cases hshows with
  | nil => exact absurd (List.append_eq_nil_iff.1 hbytes).1 hpart.nonempty
  | @character char rest' later hchar hrest => exact absurd ⟨rest', hbytes.symm⟩ (hpart.stops char hchar)
  | @broken part' rest' later hpart' hrest =>
    have hsame : part = part' :=
      (hpart'.isPrefix hpart hbytes.symm).eq_of_length_le (hpart.isPrefix hpart' hbytes).length_le
    subst hsame
    obtain rfl := List.append_cancel_left hbytes
    exact ⟨later, rfl, hrest⟩

/-- A string can be taken apart in one way only. -/
theorem Shows.unique {bytes shown shown' : Bytes} (hshows : Shows bytes shown)
    (hshows' : Shows bytes shown') : shown = shown' := by
  induction hshows generalizing shown' with
  | nil =>
    generalize hbytes : ([] : Bytes) = bytes at hshows'
    cases hshows' with
    | nil => rfl
    | character hchar _ =>
      obtain ⟨rfl, -⟩ := List.append_eq_nil_iff.1 hbytes.symm
      exact absurd hchar not_isCharacter_nil
    | broken hpart _ => exact absurd (List.append_eq_nil_iff.1 hbytes.symm).1 hpart.nonempty
  | character hchar _ ih =>
    obtain ⟨later, rfl, hrest⟩ := Shows.of_character hchar hshows'
    rw [ih hrest]
  | broken hpart _ ih =>
    obtain ⟨later, rfl, hrest⟩ := Shows.of_broken hpart hshows'
    rw [ih hrest]

/-! ### The reading -/

/-- What is shown of the bytes to come, with the sequence that is open in front of them. -/
def shownFrom (opened : Option Partial) (bytes : Bytes) : Bytes :=
  (bytes.foldl Reading.step ⟨[], opened⟩).pieces.flatMap Piece.shown

theorem Reading.step_append (found earlier : List Piece) (opened : Option Partial) (byte : UInt8) :
    Reading.step ⟨found ++ earlier, opened⟩ byte =
      ⟨(Reading.step ⟨found, opened⟩ byte).found ++ earlier, (Reading.step ⟨found, opened⟩ byte).opened⟩ := by
  have hstart : ∀ found : List Piece, Reading.start (found ++ earlier) byte =
      ⟨(Reading.start found byte).found ++ earlier, (Reading.start found byte).opened⟩ := by
    intro found
    unfold Reading.start
    split <;> rfl
  cases opened with
  | none => exact hstart found
  | some sequence =>
    simp only [Reading.step]
    split
    · split <;> rfl
    · exact hstart (.broken sequence.read :: found)

theorem shown_foldl (found : List Piece) (opened : Option Partial) (bytes : Bytes) :
    (bytes.foldl Reading.step ⟨found, opened⟩).pieces.flatMap Piece.shown =
      found.reverse.flatMap Piece.shown ++ shownFrom opened bytes := by
  have hfold : ∀ found' : List Piece, ∀ opened' : Option Partial,
      bytes.foldl Reading.step ⟨found' ++ found, opened'⟩ =
        ⟨(bytes.foldl Reading.step ⟨found', opened'⟩).found ++ found,
          (bytes.foldl Reading.step ⟨found', opened'⟩).opened⟩ := by
    induction bytes with
    | nil => exact fun _ _ => rfl
    | cons byte rest ih =>
      intro found' opened'
      rw [List.foldl_cons, Reading.step_append, ih]
      rfl
  rw [← List.nil_append found, hfold [] opened, List.nil_append, shownFrom]
  unfold Reading.pieces
  cases (bytes.foldl Reading.step ⟨[], opened⟩).opened <;> simp

section Equations

variable {byte : UInt8} {need : Need} {sequence : Partial}

theorem shownFrom_of_ofLead_none (hlead : Need.ofLead byte = none) (rest : Bytes) :
    shownFrom none (byte :: rest) = replacement ++ shownFrom none rest := by
  have hstep : Reading.step ⟨[], none⟩ byte = ⟨[.broken [byte]], none⟩ := by
    simp [Reading.step, Reading.start, hlead]
  rw [shownFrom, List.foldl_cons, hstep, shown_foldl]
  rfl

theorem shownFrom_of_ofLead (hlead : Need.ofLead byte = some need) (rest : Bytes) :
    shownFrom none (byte :: rest) =
      if need.count = 0 then [byte] ++ shownFrom none rest
      else shownFrom (some ⟨[byte], need⟩) rest := by
  obtain ⟨count, low, high⟩ := need
  cases count with
  | zero =>
    have hstep : Reading.step ⟨[], none⟩ byte = ⟨[.whole [byte]], none⟩ := by
      simp [Reading.step, Reading.start, hlead]
    rw [shownFrom, List.foldl_cons, hstep, shown_foldl]
    rfl
  | succ count =>
    have hstep : Reading.step ⟨[], none⟩ byte = ⟨[], some ⟨[byte], ⟨count + 1, low, high⟩⟩⟩ := by
      simp [Reading.step, Reading.start, hlead]
    rw [shownFrom, List.foldl_cons, hstep, shown_foldl]
    rfl

theorem shownFrom_of_continues
    (hrange : sequence.need.low ≤ byte ∧ byte ≤ sequence.need.high) (rest : Bytes) :
    shownFrom (some sequence) (byte :: rest) =
      if sequence.need.count ≤ 1 then sequence.read ++ [byte] ++ shownFrom none rest
      else shownFrom (some ⟨sequence.read ++ [byte], ⟨sequence.need.count - 1, 0x80, 0xbf⟩⟩) rest := by
  rw [shownFrom, List.foldl_cons]
  simp only [Reading.step, if_pos hrange]
  split <;> rw [shown_foldl] <;> simp [Piece.shown]

/-- A byte that breaks the open sequence is read as if none were open. -/
theorem shownFrom_of_breaks
    (hrange : ¬ (sequence.need.low ≤ byte ∧ byte ≤ sequence.need.high)) (rest : Bytes) :
    shownFrom (some sequence) (byte :: rest) = replacement ++ shownFrom none (byte :: rest) := by
  have hstep : Reading.step ⟨[], some sequence⟩ byte
      = Reading.step ⟨[.broken sequence.read], none⟩ byte := by
    simp only [Reading.step, if_neg hrange]
  rw [shownFrom, List.foldl_cons, hstep, ← List.foldl_cons, shown_foldl]
  rfl

end Equations

structure Partial.Sound (sequence : Partial) : Prop where
  nonempty : sequence.read ≠ []
  completes : ∀ rest, IsCharacter (sequence.read ++ rest) ↔ sequence.need.Met rest
  count : 0 < sequence.need.count
  range : sequence.need.low ≤ sequence.need.high

namespace Partial.Sound

variable {sequence : Partial} {byte : UInt8}

theorem of_ofLead {need : Need} (hlead : Need.ofLead byte = some need) (hcount : need.count ≠ 0) :
    (⟨[byte], need⟩ : Partial).Sound where
  nonempty := List.cons_ne_nil _ _
  completes rest := by
    rw [List.singleton_append, isCharacter_cons_iff, hlead]
    simp
  count := Nat.pos_of_ne_zero hcount
  range := by
    have htable := Need.table hlead
    change need.low.toNat ≤ need.high.toNat
    omega

theorem continues (hsound : sequence.Sound)
    (hrange : sequence.need.low ≤ byte ∧ byte ≤ sequence.need.high) (hcount : ¬ sequence.need.count ≤ 1) :
    (⟨sequence.read ++ [byte], ⟨sequence.need.count - 1, 0x80, 0xbf⟩⟩ : Partial).Sound where
  nonempty := by simp
  completes rest := by
    rw [List.append_assoc, List.singleton_append, hsound.completes]
    cases rest with
    | nil =>
      refine iff_of_false (fun hmet => hcount (Nat.le_of_eq hmet.1)) fun hmet => hcount ?_
      exact Nat.sub_eq_zero_iff_le.1 hmet
    | cons second rest =>
      have hless : sequence.need.count = rest.length + 1 + 1 ↔ sequence.need.count - 1 = rest.length + 1 := by
        omega
      simp only [Need.Met, List.length_cons, List.forall_mem_cons, hrange, true_and, hless]
  count := by
    dsimp only
    omega
  range := by
    dsimp only
    decide

theorem exists_rest (hsound : sequence.Sound) :
    ∃ rest, rest ≠ [] ∧ IsCharacter (sequence.read ++ rest) := by
  refine ⟨sequence.need.low :: List.replicate (sequence.need.count - 1) 0x80, List.cons_ne_nil _ _, ?_⟩
  rw [hsound.completes]
  refine ⟨?_, ⟨UInt8.le_refl _, hsound.range⟩, fun other hother => ?_⟩
  · have hcount := hsound.count
    rw [List.length_replicate]
    omega
  · rw [List.eq_of_mem_replicate hother]
    decide

/-- What is open is broken where nothing continues it. -/
theorem isBroken (hsound : sequence.Sound) {after : Bytes}
    (hafter : ∀ byte rest, after = byte :: rest →
      ¬ (sequence.need.low ≤ byte ∧ byte ≤ sequence.need.high)) :
    IsBroken sequence.read after := by
  obtain ⟨rest, hrest, hwhole⟩ := hsound.exists_rest
  have hlongest : ∀ more, more ≠ [] → more <+: after → ¬ Begins (sequence.read ++ more) := by
    rintro more hmore ⟨behind, rfl⟩ ⟨later, hchar⟩
    cases more with
    | nil => exact hmore rfl
    | cons byte more =>
      rw [List.append_assoc, hsound.completes] at hchar
      exact hafter byte (more ++ behind) rfl hchar.2.1
  refine ⟨.inr ⟨rest, hwhole⟩, hsound.nonempty, fun char hchar hle => ?_, hlongest⟩
  rcases List.prefix_or_prefix_of_prefix hle (List.prefix_append _ after) with hshort | ⟨more, rfl⟩
  · -- A character within what is read would be the start of the whole one.
    have hsame := hchar.eq_of_isPrefix hwhole (hshort.trans (List.prefix_append _ _))
    have hlength := hshort.length_le
    have hpositive := List.length_pos_iff.2 hrest
    rw [hsame, List.length_append] at hlength
    omega
  · by_cases hmore : more = []
    · have hmet := (hsound.completes more).1 hchar
      have hcount := hsound.count
      rw [hmore, Need.met_nil_iff] at hmet
      omega
    · refine hlongest more hmore ((List.prefix_append_right_inj _).1 hle) ⟨[], ?_⟩
      rwa [List.append_nil]

end Partial.Sound

theorem isBroken_singleton {byte : UInt8} (hlead : Need.ofLead byte = none) (after : Bytes) :
    IsBroken [byte] after := by
  have hnone : ∀ rest, ¬ IsCharacter (byte :: rest) := by
    intro rest hchar
    obtain ⟨need, hneed, -⟩ := isCharacter_cons_iff.1 hchar
    rw [hlead] at hneed
    exact absurd hneed.symm (Option.some_ne_none _)
  refine ⟨.inl ⟨byte, rfl⟩, List.cons_ne_nil _ _, fun char hchar hle => ?_, ?_⟩
  · cases char with
    | nil => exact not_isCharacter_nil hchar
    | cons first rest =>
      obtain rfl := (List.cons_prefix_cons.1 hle).1
      exact hnone rest hchar
  · rintro more - - ⟨rest, hchar⟩
    exact hnone _ hchar

theorem shows_shownFrom (bytes : Bytes) :
    Shows bytes (shownFrom none bytes) ∧
      ∀ sequence : Partial, sequence.Sound →
        Shows (sequence.read ++ bytes) (shownFrom (some sequence) bytes) := by
  -- Both readings at once, since a byte that breaks a sequence is then read with none open.
  induction bytes with
  | nil =>
    refine ⟨.nil, fun sequence hsound => ?_⟩
    exact .broken (hsound.isBroken fun _ _ heq => absurd heq.symm (List.cons_ne_nil _ _)) .nil
  | cons byte rest ih =>
    obtain ⟨hclosed, hopened⟩ := ih
    have hstart : Shows (byte :: rest) (shownFrom none (byte :: rest)) := by
      cases hlead : Need.ofLead byte with
      | none =>
        rw [shownFrom_of_ofLead_none hlead]
        exact .broken (isBroken_singleton hlead rest) hclosed
      | some need =>
        rw [shownFrom_of_ofLead hlead]
        split <;> rename_i hcount
        · exact .character (isCharacter_cons_iff.2 ⟨need, hlead, Need.met_nil_iff.2 hcount⟩) hclosed
        · exact hopened _ (.of_ofLead hlead hcount)
    refine ⟨hstart, fun sequence hsound => ?_⟩
    by_cases hrange : sequence.need.low ≤ byte ∧ byte ≤ sequence.need.high
    · have hread : sequence.read ++ byte :: rest = sequence.read ++ [byte] ++ rest := by simp
      rw [shownFrom_of_continues hrange, hread]
      split <;> rename_i hcount
      · refine .character ((hsound.completes [byte]).2 ⟨?_, hrange, List.forall_mem_nil _⟩) hclosed
        have hpositive := hsound.count
        rw [List.length_nil]
        omega
      · exact hopened _ (hsound.continues hrange hcount)
    · rw [shownFrom_of_breaks hrange]
      refine .broken (hsound.isBroken ?_) hstart
      rintro _ _ ⟨⟩
      exact hrange

theorem shows_iff {bytes text : Bytes} : Shows bytes text ↔ text = shown bytes := by
  have hshows : Shows bytes (shown bytes) := (shows_shownFrom bytes).1
  constructor
  · exact fun htext => htext.unique hshows
  · rintro rfl
    exact hshows

/-! ### Laws of what is shown -/

theorem isText_shown (bytes : Bytes) : IsText (shown bytes) := by
  have hshows : Shows bytes (shown bytes) := shows_iff.2 rfl
  generalize shown bytes = text at hshows ⊢
  induction hshows with
  | nil => exact isText_nil
  | character hchar _ ih => exact hchar.isText.append ih
  | broken _ _ ih => exact isText_replacement.append ih

theorem shown_append_of_isText {bytes : Bytes} (hbytes : IsText bytes) (rest : Bytes) :
    shown (bytes ++ rest) = bytes ++ shown rest := by
  refine (shows_iff.1 ?_).symm
  refine hbytes.induction (P := fun bytes => Shows (bytes ++ rest) (bytes ++ shown rest)) ?_ ?_
  · exact shows_iff.2 rfl
  · intro char later hchar hlater
    rw [List.append_assoc, List.append_assoc]
    exact .character hchar hlater

theorem shown_eq_self_iff {bytes : Bytes} : shown bytes = bytes ↔ IsText bytes := by
  constructor
  · intro hsame
    rw [← hsame]
    exact isText_shown bytes
  · intro hbytes
    have hshown := shown_append_of_isText hbytes []
    rw [List.append_nil] at hshown
    exact hshown.trans (List.append_nil bytes)

/-- An ASCII byte behind a broken part leaves it as it is: nothing can continue into that byte. -/
theorem IsBroken.append_ascii {part after : Bytes} {byte : UInt8} (hbyte : byte < 0x80)
    (hpart : IsBroken part after) (behind : Bytes) : IsBroken part (after ++ byte :: behind) := by
  have hascii : ∀ more, ¬ IsCharacter (part ++ after ++ byte :: more) := fun more hchar =>
    hchar.not_ascii (fun hnil => hpart.nonempty (List.append_eq_nil_iff.1 hnil).1) hbyte
  have hsplit : after ++ byte :: behind = after ++ [byte] ++ behind := by simp
  refine ⟨hpart.begins, hpart.nonempty, fun char hchar hle => ?_, fun more hmore hle => ?_⟩
  · rw [hsplit, ← List.append_assoc] at hle
    rcases List.prefix_or_prefix_of_prefix hle (List.prefix_append _ behind) with hshort | ⟨later, rfl⟩
    · rw [← List.append_assoc, List.prefix_concat_iff] at hshort
      rcases hshort with rfl | hshort
      · exact hascii [] hchar
      · exact hpart.stops char hchar hshort
    · simp only [List.append_assoc, List.singleton_append] at hchar
      exact hascii later (by rwa [List.append_assoc])
  · rw [hsplit] at hle
    rintro ⟨rest, hchar⟩
    rcases List.prefix_or_prefix_of_prefix hle (List.prefix_append _ behind) with hshort | ⟨later, rfl⟩
    · rw [List.prefix_concat_iff] at hshort
      rcases hshort with rfl | hshort
      · exact hascii rest (by simpa using hchar)
      · exact hpart.longest more hmore hshort ⟨rest, hchar⟩
    · exact hascii (later ++ rest) (by simpa using hchar)

theorem shown_append_ascii {byte : UInt8} (hbyte : byte < 0x80) (bytes rest : Bytes) :
    shown (bytes ++ [byte] ++ rest) = shown bytes ++ [byte] ++ shown rest := by
  have hchar : IsCharacter [byte] := isCharacter_one_iff.2 hbyte
  have hshows : Shows bytes (shown bytes) := shows_iff.2 rfl
  refine (shows_iff.1 ?_).symm
  generalize shown bytes = text at hshows ⊢
  induction hshows with
  | nil => exact .character hchar (shows_iff.2 rfl)
  | character hfirst _ ih =>
    simp only [List.append_assoc] at ih ⊢
    exact .character hfirst ih
  | broken hpart _ ih =>
    simp only [List.append_assoc, List.singleton_append] at ih ⊢
    exact .broken (hpart.append_ascii hbyte rest) ih

/-- A way to show any bytes as a text: each longest broken part becomes one replacement character, and
all else stays as it is. -/
structure IsRepair (repair : Bytes → Bytes) : Prop where
  shows : ∀ bytes, Shows bytes (repair bytes)
  isText : ∀ bytes, IsText (repair bytes)
  eq_self_iff : ∀ bytes, repair bytes = bytes ↔ IsText bytes
  append_of_isText : ∀ bytes rest, IsText bytes → repair (bytes ++ rest) = bytes ++ repair rest
  append_ascii : ∀ bytes rest (byte : UInt8), byte < 0x80 →
    repair (bytes ++ [byte] ++ rest) = repair bytes ++ [byte] ++ repair rest
  idempotent : ∀ bytes, repair (repair bytes) = repair bytes

theorem isRepair_shown : IsRepair shown where
  shows _ := shows_iff.2 rfl
  isText := isText_shown
  eq_self_iff _ := shown_eq_self_iff
  append_of_isText _ rest hbytes := shown_append_of_isText hbytes rest
  append_ascii bytes rest _ hbyte := shown_append_ascii hbyte bytes rest
  idempotent bytes := shown_eq_self_iff.2 (isText_shown bytes)

end LineShell.Utf8
