import LineShell.Bytes
import Mathlib.Data.List.TakeWhile
/-!
# Cutting byte strings

A byte string is cut at the first of the bytes that are equal to a given one, or at each of them.
What the parts are is said by how they make up the string again.
-/

namespace LineShell.Bytes

variable {stop : UInt8} {bytes before after : Bytes}

theorem ofString_eq (text : String) : ofString text = text.toByteArray.data.toList := by
  rw [← String.utf8Encode_toList]
  simp [ofString, List.utf8Encode]

theorem cutAt_of_not_mem (hbytes : stop ∉ bytes) : bytes.cutAt stop = none := by
  have hall : ∀ byte ∈ bytes, (byte != stop) = true := fun byte hbyte =>
    bne_iff_ne.2 fun heq => hbytes (heq ▸ hbyte)
  rw [cutAt, List.dropWhile_eq_nil_iff.2 hall]

theorem cutAt_append (hbefore : stop ∉ before) :
    (before ++ stop :: after : Bytes).cutAt stop = some (before, after) := by
  have hall : ∀ byte ∈ before, (byte != stop) = true := fun byte hbyte =>
    bne_iff_ne.2 fun heq => hbefore (heq ▸ hbyte)
  have hdrop : (before ++ stop :: after).dropWhile (· != stop) = stop :: after := by
    rw [List.dropWhile_append_of_pos hall, List.dropWhile_cons_of_neg (by simp)]
  have htake : (before ++ stop :: after).takeWhile (· != stop) = before := by
    rw [List.takeWhile_append_of_pos hall, List.takeWhile_cons_of_neg (by simp), List.append_nil]
  rw [cutAt, hdrop, htake]

theorem splitOn_cons (stop byte : UInt8) (bytes : Bytes) :
    splitOn stop (byte :: bytes) =
      if byte = stop then [] :: splitOn stop bytes
      else match splitOn stop bytes with
        | [] => [[byte]]
        | part :: rest => (byte :: part) :: rest := rfl

theorem splitOn_of_not_mem (hbytes : stop ∉ bytes) : splitOn stop bytes = [bytes] := by
  induction bytes with
  | nil => rfl
  | cons byte bytes ih =>
    obtain ⟨hbyte, hrest⟩ := not_or.1 (mt List.mem_cons.2 hbytes)
    rw [splitOn_cons, if_neg (Ne.symm hbyte), ih hrest]

theorem splitOn_append (hbefore : stop ∉ before) :
    splitOn stop (before ++ stop :: after) = before :: splitOn stop after := by
  induction before with
  | nil => rw [List.nil_append, splitOn_cons, if_pos rfl]
  | cons byte before ih =>
    obtain ⟨hbyte, hrest⟩ := not_or.1 (mt List.mem_cons.2 hbefore)
    rw [List.cons_append, splitOn_cons, if_neg (Ne.symm hbyte), ih hrest]

/-- Parts that each have a separator behind them are split off one by one. -/
theorem splitOn_flatMap_append {parts : List Bytes} (hparts : ∀ part ∈ parts, stop ∉ part)
    (rest : Bytes) :
    splitOn stop (parts.flatMap (· ++ [stop]) ++ rest) = parts ++ splitOn stop rest := by
  induction parts with
  | nil => rfl
  | cons part parts ih =>
    obtain ⟨hpart, hlater⟩ := List.forall_mem_cons.1 hparts
    have hsplit : (part :: parts).flatMap (· ++ [stop]) ++ rest
        = part ++ stop :: (parts.flatMap (· ++ [stop]) ++ rest) := by simp
    rw [hsplit, splitOn_append hpart, ih hlater]
    rfl

theorem splitOn_ne_nil (stop : UInt8) (bytes : Bytes) : splitOn stop bytes ≠ [] := by
  cases bytes with
  | nil => exact List.cons_ne_nil _ _
  | cons byte bytes =>
    rw [splitOn_cons]
    split
    · exact List.cons_ne_nil _ _
    · split <;> exact List.cons_ne_nil _ _

end LineShell.Bytes
