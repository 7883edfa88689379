import LineShell.Buffer
import Mathlib.Data.Nat.Basic
import Mathlib.Tactic.Ring
/-!
# Room in buffers

A buffer that has only ever been extended has the room that its items need, in whole steps and no
step more. What it holds are the items in order of arrival; growing changes none of them. So of a
buffer only its items have to be known.
-/

namespace LineShell.Buffer

variable {α : Type}

/-- The least positive multiple of `step` that is room enough for `count` items. -/
def room (step count : Nat) : Nat :=
  step * ((count - 1) / step + 1)

/-- A buffer with the room that its items need. -/
def Fits (step : Nat) (buffer : Buffer α) : Prop :=
  buffer.capacity = room step buffer.items.size

theorem room_eq_self_iff {step count : Nat} :
    room step (count + 1) = count + 1 ↔ step ∣ count + 1 := by
  unfold room
  rw [Nat.add_sub_cancel]
  constructor
  · intro heq
    exact ⟨_, heq.symm⟩
  · intro hdvd
    have hquotient : (count + 1) / step = count / step + 1 := by
      rw [Nat.succ_div, if_pos hdvd]
    rw [← hquotient]
    exact Nat.mul_div_cancel' hdvd

/-- One more item needs one more step exactly if there is no room left. -/
theorem room_succ {step : Nat} (hstep : 0 < step) (count : Nat) :
    room step (count + 1) = if count = room step count then count + step else room step count := by
  cases count with
  | zero =>
    have hroom : room step 0 = step := by simp [room]
    rw [hroom, if_neg (by omega)]
    simp [room]
  | succ count =>
    have hquotient := Nat.succ_div (a := count) (b := step)
    by_cases hdvd : step ∣ count + 1
    · have hfull := room_eq_self_iff.2 hdvd
      rw [if_pos hfull.symm]
      rw [if_pos hdvd] at hquotient
      calc room step (count + 1 + 1)
          = step * (count / step + 1) + step := by
            unfold room
            rw [Nat.add_sub_cancel, hquotient]
            ring
        _ = room step (count + 1) + step := by rw [room, Nat.add_sub_cancel]
        _ = count + 1 + step := by rw [hfull]
    · have hspare : count + 1 ≠ room step (count + 1) := fun heq =>
        hdvd (room_eq_self_iff.1 heq.symm)
      rw [if_neg hspare]
      rw [if_neg hdvd] at hquotient
      unfold room
      rw [Nat.add_sub_cancel, Nat.add_sub_cancel, hquotient, Nat.add_zero]

theorem empty_fits (step : Nat) : (empty step : Buffer α).Fits step := by
  simp [Fits, empty, room]

/-- One push adds its item at the end and keeps the room right. -/
theorem Grown.push_buffer {step : Nat} (hstep : 0 < step) {grown : Grown α}
    (hfits : grown.buffer.Fits step) (item : α) :
    (grown.push step item).buffer.items = grown.buffer.items.push item ∧
      (grown.push step item).buffer.Fits step := by
  obtain ⟨⟨items, capacity⟩, capacities⟩ := grown
  change capacity = room step items.size at hfits
  have hroom := room_succ hstep items.size
  rw [← hfits] at hroom
  simp only [Grown.push]
  split <;> rename_i hfull
  · rw [if_pos hfull] at hroom
    refine ⟨rfl, ?_⟩
    change capacity + step = room step (items.push item).size
    rw [Array.size_push, hroom, hfull]
  · rw [if_neg hfull] at hroom
    refine ⟨rfl, ?_⟩
    change capacity = room step (items.push item).size
    rw [Array.size_push, hroom]

theorem Grown.foldl_push_buffer {step : Nat} (hstep : 0 < step) (items : List α)
    {grown : Grown α} (hfits : grown.buffer.Fits step) :
    (items.foldl (Grown.push step) grown).buffer.items.toList
        = grown.buffer.items.toList ++ items ∧
      (items.foldl (Grown.push step) grown).buffer.Fits step := by
  induction items generalizing grown with
  | nil => simpa using hfits
  | cons item rest ih =>
    obtain ⟨hitems, hfits'⟩ := Grown.push_buffer hstep hfits item
    obtain ⟨hrest, hfits''⟩ := ih hfits'
    refine ⟨?_, hfits''⟩
    rw [List.foldl_cons, hrest, hitems, Array.toList_push, List.append_assoc]
    rfl

theorem extend_items {step : Nat} (hstep : 0 < step) {buffer : Buffer α}
    (hfits : buffer.Fits step) (items : List α) :
    (buffer.extend step items).1.items.toList = buffer.items.toList ++ items := by
  have hgrown : (⟨buffer, []⟩ : Grown α).buffer.Fits step := hfits
  exact (Grown.foldl_push_buffer hstep items hgrown).1

theorem extend_fits {step : Nat} (hstep : 0 < step) {buffer : Buffer α}
    (hfits : buffer.Fits step) (items : List α) :
    (buffer.extend step items).1.Fits step := by
  have hgrown : (⟨buffer, []⟩ : Grown α).buffer.Fits step := hfits
  exact (Grown.foldl_push_buffer hstep items hgrown).2

theorem Fits.capacity_eq {step : Nat} {buffer : Buffer α} (hfits : buffer.Fits step) :
    buffer.capacity = room step buffer.items.toList.length := by
  rw [Array.length_toList]
  exact hfits

theorem lineStep_pos : 0 < lineStep := by decide

theorem wordStep_pos : 0 < wordStep := by decide

end LineShell.Buffer
