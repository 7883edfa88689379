import LineShell.Proofs.Record
import LineShell.Proofs.Utf8
import Mathlib.Data.List.Basic
/-!
# Texts and their parts

A byte string that the reading finds valid is a text, and every text is found valid. A text is made up of
its characters and of its clusters, with nothing left out, and a byte of ASCII within it cuts it into two
texts.
-/

namespace LineShell

namespace Utf8

theorem IsText.of_append_ascii {byte : UInt8} (hbyte : byte < 0x80) {front back : Bytes}
    (htext : IsText (front ++ byte :: back)) : IsText front ∧ IsText back := by
  have hcuts : IsText (front ++ byte :: back) ∧ ∀ before, before ++ byte :: back = front ++ byte :: back →
      IsText before ∧ IsText back := by
    refine IsText.induction (P := fun bytes => IsText bytes ∧ ∀ before, before ++ byte :: back = bytes →
      IsText before ∧ IsText back) ⟨isText_nil, fun before hbefore => ?_⟩ ?_ htext
    · simp at hbefore
    · rintro char rest hchar ⟨hrest, ih⟩
      refine ⟨hchar.isText.append hrest, fun before hbefore => ?_⟩
      rcases List.append_eq_append_iff.1 hbefore with ⟨between, rfl, hafter⟩ | ⟨later, rfl, hlater⟩
      · -- The byte is no later one of the character, so the character is that byte or stands in front.
        cases between with
        | nil =>
          obtain ⟨-, hback⟩ := ih [] hafter
          rw [List.append_nil] at hchar
          exact ⟨hchar.isText, hback⟩
        | cons first between =>
          obtain ⟨rfl, hbetween⟩ := List.cons.inj hafter
          have hempty : before = [] := by
            by_contra hne
            exact hchar.not_ascii hne hbyte
          subst hempty
          have hwhole : [byte] = byte :: between :=
            IsCharacter.eq_of_isPrefix (isCharacter_one_iff.2 hbyte) hchar ⟨between, rfl⟩
          obtain rfl := (List.cons.inj hwhole).2
          rw [hbetween]
          exact ⟨isText_nil, hrest⟩
      · obtain ⟨hfront, hback⟩ := ih later hlater.symm
        exact ⟨hchar.isText.append hfront, hback⟩
  exact hcuts.2 front rfl

/-- The bytes that complete a sequence close it, and no byte behind them is read. -/
theorem foldl_step_of_met {need : Need} {rest : Bytes} (hmet : need.Met rest) (hopen : need.count ≠ 0)
    (found : List Piece) (read : Bytes) :
    rest.foldl Reading.step ⟨found, some ⟨read, need⟩⟩ = ⟨.whole (read ++ rest) :: found, none⟩ := by
  induction rest generalizing need read with
  | nil => exact absurd hmet hopen
  | cons byte rest ih =>
    obtain ⟨hcount, hrange, hrest⟩ := hmet
    rw [List.foldl_cons, Reading.step]
    dsimp only
    rw [if_pos hrange]
    -- The last byte closes the sequence, any other leaves a need for one byte less.
    cases rest with
    | nil =>
      rw [if_pos (by simp [hcount])]
      rfl
    | cons next rest =>
      obtain ⟨hnext, hlater⟩ := List.forall_mem_cons.1 hrest
      have hmore : ¬ need.count ≤ 1 := by
        rw [hcount, List.length_cons]
        omega
      have hleft : need.count - 1 = rest.length + 1 := by
        rw [hcount, List.length_cons]
        omega
      have hneed : Need.Met ⟨need.count - 1, 0x80, 0xbf⟩ (next :: rest) := ⟨hleft, hnext, hlater⟩
      rw [if_neg hmore, ih hneed (by simp [hleft])]
      simp

theorem foldl_step_of_isCharacter {char : Bytes} (hchar : IsCharacter char) (found : List Piece) :
    char.foldl Reading.step ⟨found, none⟩ = ⟨.whole char :: found, none⟩ := by
  cases char with
  | nil => exact absurd hchar not_isCharacter_nil
  | cons lead rest =>
    obtain ⟨need, hlead, hmet⟩ := isCharacter_cons_iff.1 hchar
    have hstart : Reading.step ⟨found, none⟩ lead = Reading.start found lead := rfl
    rw [List.foldl_cons, hstart, Reading.start, hlead]
    obtain ⟨count, low, high⟩ := need
    cases count with
    | zero =>
      have hnone : rest = [] := List.eq_nil_of_length_eq_zero hmet.length
      rw [hnone]
      rfl
    | succ count => exact foldl_step_of_met hmet (Nat.succ_ne_zero count) found [lead]

theorem isValid_iff {bytes : Bytes} : isValid bytes ↔ IsText bytes := by
  constructor
  · intro hvalid
    have hshown : shown bytes = (pieces bytes).flatMap Piece.bytes := by
      refine List.flatMap_congr fun piece hpiece => ?_
      have hwhole : piece.isWhole := List.all_eq_true.1 hvalid piece hpiece
      cases piece with
      | whole text => rfl
      | broken text => exact absurd hwhole Bool.false_ne_true
    rw [← shown_eq_self_iff, hshown, pieces_bytes]
  · intro htext
    have hfold : ∀ found : List Piece, found.all Piece.isWhole →
        (bytes.foldl Reading.step ⟨found, none⟩).pieces.all Piece.isWhole := by
      refine IsText.induction (P := fun bytes => ∀ found : List Piece, found.all Piece.isWhole →
        (bytes.foldl Reading.step ⟨found, none⟩).pieces.all Piece.isWhole) (fun found hfound => ?_) ?_ htext
      · simpa [Reading.pieces] using hfound
      · intro char rest hchar ih found hfound
        rw [List.foldl_append, foldl_step_of_isCharacter hchar]
        refine ih _ ?_
        simpa [Piece.isWhole] using hfound
    exact hfold [] rfl

theorem scalars_bytes {bytes : Bytes} (htext : IsText bytes) : (scalars bytes).flatMap Scalar.bytes = bytes := by
  have hvalid := List.all_eq_true.1 (isValid_iff.2 htext)
  conv_rhs => rw [← pieces_bytes bytes]
  rw [scalars]
  generalize pieces bytes = parts at hvalid
  induction parts with
  | nil => rfl
  | cons piece parts ih =>
    obtain ⟨hwhole, hrest⟩ := List.forall_mem_cons.1 hvalid
    cases piece with
    | broken text => exact absurd hwhole Bool.false_ne_true
    | whole text =>
      rw [List.flatMap_cons, ← ih hrest]
      rfl

end Utf8

/-! ### Clusters -/

namespace Text

/-- The bytes of the clusters found and of the one being read. -/
def ClusterReading.bytes (reading : ClusterReading) : Bytes :=
  reading.found.reverse.flatten ++ (reading.opened.map Prod.fst).getD []

theorem ClusterReading.step_bytes (reading : ClusterReading) (character : Utf8.Scalar) :
    (reading.step character).bytes = reading.bytes ++ character.bytes := by
  obtain ⟨found, opened⟩ := reading
  rcases opened with _ | ⟨cluster, context⟩
  · simp [step, bytes]
  · simp only [step]
    split <;> simp [bytes]

theorem flatten_clusters {text : Bytes} (htext : Utf8.IsText text) : (clusters text).flatten = text := by
  have hfold : ∀ (characters : List Utf8.Scalar) (reading : ClusterReading),
      (characters.foldl ClusterReading.step reading).bytes
        = reading.bytes ++ characters.flatMap Utf8.Scalar.bytes := by
    intro characters
    induction characters with
    | nil => intro reading; simp
    | cons character characters ih =>
      intro reading
      rw [List.foldl_cons, ih, ClusterReading.step_bytes, List.append_assoc, List.flatMap_cons]
  have hread := hfold (Utf8.scalars text) ⟨[], none⟩
  rw [Utf8.scalars_bytes htext] at hread
  have hbytes : (clusters text).flatten
      = ((Utf8.scalars text).foldl ClusterReading.step ⟨[], none⟩).bytes := by
    unfold clusters
    generalize (Utf8.scalars text).foldl ClusterReading.step ⟨[], none⟩ = reading
    obtain ⟨found, _ | ⟨cluster, context⟩⟩ := reading <;> simp [ClusterReading.bytes]
  exact hbytes.trans hread

end Text

end LineShell
