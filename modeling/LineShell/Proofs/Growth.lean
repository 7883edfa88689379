import LineShell.Stage
import LineShell.Proofs.Words
import LineShell.Proofs.Prompt
import Mathlib.Algebra.Order.Floor.Div
/-!
# Growth of buffers

A buffer grows by one step, and only when an item arrives while it is full. So the room of a buffer is a
whole number of steps and a matter of how many items it holds, and the growths that are logged tell all
these numbers from two on, whatever the chunks in which a line came.

A growth is asked for as so much room beyond the items that the buffer holds, and an item is put into room
that is there. `Buffer.Grown.push?` does both as they are asked for, and fails where the buffer is not in
order, where the amount to ask for would be negative and where there is no room for an item. A read and the
cutting of a line never fail in this way.
-/

namespace LineShell

namespace Buffer

variable {α : Type} {step : Nat}

/-! ### Room and growths by the number of items -/

theorem room_eq_ceilDiv (hstep : 0 < step) (count : Nat) :
    room step count = step * max 1 (count ⌈/⌉ step) := by
  rw [room, Nat.ceilDiv_eq_add_pred_div]
  cases count with
  | zero =>
    have hnone : (0 + step - 1) / step = 0 := Nat.div_eq_of_lt (by omega)
    rw [hnone, Nat.zero_sub, Nat.zero_div]
    rfl
  | succ count =>
    have hquotient : (count + 1 + step - 1) / step = count / step + 1 := by
      rw [Nat.add_right_comm, Nat.add_sub_cancel, Nat.add_div_right count hstep]
    rw [hquotient, Nat.add_sub_cancel, Nat.max_eq_right (Nat.le_add_left 1 _)]

theorem le_room (hstep : 0 < step) (count : Nat) : count ≤ room step count := by
  cases count with
  | zero => exact Nat.zero_le _
  | succ count => exact Nat.lt_mul_div_succ count hstep

/-- The capacities that a buffer has grown to, in order, when it has come to hold `count` items. -/
def growths (step count : Nat) : List Nat :=
  (List.range' 2 (max 1 (count ⌈/⌉ step) - 1)).map (step * ·)

theorem growths_zero (step : Nat) : growths step 0 = [] := by
  rw [growths, zero_ceilDiv]
  rfl

theorem growths_succ (hstep : 0 < step) (count : Nat) :
    growths step (count + 1) =
      growths step count ++ if count = room step count then [count + step] else [] := by
  have hroom := room_succ hstep count
  rw [room_eq_ceilDiv hstep (count + 1)] at hroom
  have hpositive : 1 ≤ max 1 (count ⌈/⌉ step) := Nat.le_max_left _ _
  rw [growths, growths]
  -- Rooms are whole numbers of steps, so that the numbers compare as the rooms do.
  by_cases hfull : count = room step count
  · rw [if_pos hfull] at hroom ⊢
    have hcount : count + step = step * (max 1 (count ⌈/⌉ step) + 1) := by
      rw [Nat.mul_succ, ← room_eq_ceilDiv hstep, ← hfull]
    have hsteps : max 1 ((count + 1) ⌈/⌉ step) = max 1 (count ⌈/⌉ step) + 1 :=
      Nat.eq_of_mul_eq_mul_left hstep (hroom.trans hcount)
    have hlast : 2 + (max 1 (count ⌈/⌉ step) - 1) = max 1 (count ⌈/⌉ step) + 1 := by omega
    rw [hsteps, Nat.sub_add_comm hpositive, List.range'_1_concat, List.map_append, List.map_singleton,
      hlast, hcount]
  · rw [if_neg hfull, room_eq_ceilDiv hstep] at hroom
    rw [if_neg hfull, List.append_nil, Nat.eq_of_mul_eq_mul_left hstep hroom]

/-! ### Growth as it is asked for -/

/-- A buffer in order: it does not hold more than there is room for, and the room is a positive number of
steps. -/
structure Sound (step : Nat) (buffer : Buffer α) : Prop where
  size_le : buffer.items.size ≤ buffer.capacity
  positive : 0 < buffer.capacity
  steps : step ∣ buffer.capacity

instance (step : Nat) (buffer : Buffer α) : Decidable (buffer.Sound step) :=
  decidable_of_iff (buffer.items.size ≤ buffer.capacity ∧ 0 < buffer.capacity ∧ step ∣ buffer.capacity)
    ⟨fun ⟨hsize, hpositive, hsteps⟩ => ⟨hsize, hpositive, hsteps⟩,
      fun hsound => ⟨hsound.size_le, hsound.positive, hsound.steps⟩⟩

/-- Makes room for a number of items beyond those held, and for no more, unless there is as much. -/
def reserve (buffer : Buffer α) (additional : Nat) : Buffer α :=
  if buffer.items.size + additional ≤ buffer.capacity then buffer
  else ⟨buffer.items, buffer.items.size + additional⟩

/-- Makes room for one step more than there is. The room that is left has to be known for that. -/
def grow? (step : Nat) (buffer : Buffer α) : Option (Buffer α) :=
  if buffer.capacity < buffer.items.size then none
  else some (buffer.reserve (buffer.capacity - buffer.items.size + step))

def put? (buffer : Buffer α) (item : α) : Option (Buffer α) :=
  if buffer.items.size < buffer.capacity then some ⟨buffer.items.push item, buffer.capacity⟩ else none

/-- Adds an item to a buffer that is in order, and notes the new capacity if the buffer had to grow. -/
def Grown.push? (step : Nat) (grown : Grown α) (item : α) : Option (Grown α) :=
  if ¬ grown.buffer.Sound step then none
  else if grown.buffer.items.size = grown.buffer.capacity then do
    let larger ← grown.buffer.grow? step
    let buffer ← larger.put? item
    return ⟨buffer, larger.capacity :: grown.capacities⟩
  else do
    let buffer ← grown.buffer.put? item
    return ⟨buffer, grown.capacities⟩

/-- Adds items one after the other, with the capacities grown to in order, and ends with a buffer that is
in order. -/
def extend? (step : Nat) (buffer : Buffer α) (items : List α) : Option (Buffer α × List Nat) := do
  let grown ← items.foldlM (Grown.push? step) ⟨buffer, []⟩
  if grown.buffer.Sound step then return (grown.buffer, grown.capacities.reverse) else none

theorem Fits.sound {buffer : Buffer α} (hstep : 0 < step) (hfits : buffer.Fits step) :
    buffer.Sound step where
  size_le := by
    rw [hfits]
    exact le_room hstep _
  positive := by
    rw [hfits]
    exact Nat.mul_pos hstep (Nat.succ_pos _)
  steps := by
    rw [hfits]
    exact Nat.dvd_mul_right _ _

theorem empty_eq_reserve (hstep : 0 < step) : (empty step : Buffer α) = reserve ⟨#[], 0⟩ step := by
  have hnone : ¬ (#[] : Array α).size + step ≤ 0 := by
    rw [Array.size_empty]
    omega
  rw [reserve, if_neg hnone, Array.size_empty, Nat.zero_add]
  rfl

theorem grow?_of_full {buffer : Buffer α} (hstep : 0 < step)
    (hfull : buffer.items.size = buffer.capacity) :
    buffer.grow? step = some ⟨buffer.items, buffer.capacity + step⟩ := by
  have hmore : ¬ buffer.items.size + (buffer.capacity - buffer.items.size + step) ≤ buffer.capacity := by
    omega
  have hroom : buffer.items.size + (buffer.capacity - buffer.items.size + step)
      = buffer.capacity + step := by omega
  rw [grow?, if_neg (Nat.not_lt.2 hfull.le), reserve, if_neg hmore, hroom]

theorem Grown.push?_eq {grown : Grown α} (hstep : 0 < step) (hfits : grown.buffer.Fits step) (item : α) :
    grown.push? step item = some (grown.push step item) := by
  have hsound := hfits.sound hstep
  obtain ⟨⟨items, capacity⟩, capacities⟩ := grown
  simp only [push?, push, hsound, not_true_eq_false, if_false]
  split <;> rename_i hfull
  · have hspare : items.size < capacity + step := by omega
    rw [grow?_of_full hstep hfull]
    simp [put?, hspare]
  · have hspare : items.size < capacity := Nat.lt_of_le_of_ne hsound.size_le hfull
    simp [put?, hspare]

theorem Grown.foldlM_push?_eq {grown : Grown α} (hstep : 0 < step) (hfits : grown.buffer.Fits step)
    (items : List α) :
    items.foldlM (Grown.push? step) grown = some (items.foldl (Grown.push step) grown) := by
  induction items generalizing grown with
  | nil => rfl
  | cons item rest ih =>
    rw [List.foldlM_cons, push?_eq hstep hfits, List.foldl_cons]
    exact ih (push_buffer hstep hfits item).2

theorem extend?_eq {buffer : Buffer α} (hstep : 0 < step) (hfits : buffer.Fits step) (items : List α) :
    buffer.extend? step items = some (buffer.extend step items) := by
  have hgrown : (⟨buffer, []⟩ : Grown α).buffer.Fits step := hfits
  have hsound := (extend_fits hstep hfits items).sound hstep
  rw [extend?, Grown.foldlM_push?_eq hstep hgrown]
  exact if_pos hsound

/-! ### The growths of an extension -/

theorem Grown.push_capacities {grown : Grown α} (hstep : 0 < step) (hfits : grown.buffer.Fits step)
    (item : α) {before : List Nat}
    (hgrowths : before ++ grown.capacities.reverse = growths step grown.buffer.items.size) :
    before ++ (grown.push step item).capacities.reverse
      = growths step (grown.push step item).buffer.items.size := by
  obtain ⟨hitems, -⟩ := push_buffer hstep hfits item
  rw [hitems, Array.size_push, growths_succ hstep, ← hgrowths, ← hfits]
  obtain ⟨⟨items, capacity⟩, capacities⟩ := grown
  simp only [push]
  split <;> rename_i hfull
  · rw [List.reverse_cons, List.append_assoc, hfull]
  · rw [List.append_nil]

theorem Grown.foldl_push_capacities {grown : Grown α} (hstep : 0 < step)
    (hfits : grown.buffer.Fits step) (items : List α) {before : List Nat}
    (hgrowths : before ++ grown.capacities.reverse = growths step grown.buffer.items.size) :
    before ++ (items.foldl (Grown.push step) grown).capacities.reverse
      = growths step (grown.buffer.items.size + items.length) := by
  induction items generalizing grown with
  | nil => exact hgrowths
  | cons item rest ih =>
    obtain ⟨hitems, hfits'⟩ := push_buffer hstep hfits item
    have hlater := ih hfits' (push_capacities hstep hfits item hgrowths)
    rw [hitems, Array.size_push, Nat.add_right_comm] at hlater
    exact hlater

theorem growths_extend {buffer : Buffer α} (hstep : 0 < step) (hfits : buffer.Fits step)
    (items : List α) :
    growths step buffer.items.size ++ (buffer.extend step items).2
      = growths step (buffer.items.size + items.length) := by
  have hgrown : (⟨buffer, []⟩ : Grown α).buffer.Fits step := hfits
  exact Grown.foldl_push_capacities hstep hgrown items (List.append_nil _)

theorem extend_empty (hstep : 0 < step) (items : List α) :
    (empty step).extend step items
      = (⟨items.toArray, step * max 1 (items.length ⌈/⌉ step)⟩, growths step items.length) := by
  have hitems : ((empty step).extend step items).1.items.toList = items :=
    extend_items hstep (empty_fits step) items
  have hfits := extend_fits hstep (empty_fits step) items
  have hgrowths := growths_extend hstep (empty_fits step) items
  refine Prod.ext ?_ ?_
  · have hheld : ((empty step).extend step items).1.items = items.toArray := by
      conv_rhs => rw [← hitems]
    have hcapacity : ((empty step).extend step items).1.capacity
        = step * max 1 (items.length ⌈/⌉ step) := by
      rw [hfits.capacity_eq, hitems, room_eq_ceilDiv hstep]
    rw [← hheld, ← hcapacity]
  · have hnone : (empty step : Buffer α).items.size = 0 := rfl
    rwa [hnone, growths_zero, List.nil_append, Nat.zero_add] at hgrowths

end Buffer

def Trace.growths (trace : Trace) : List Nat :=
  trace.filterMap fun
    | .log (.bufferGrown capacity) => some capacity
    | _ => none

@[simp] theorem Trace.growths_append (front rest : Trace) :
    Trace.growths (front ++ rest) = front.growths ++ rest.growths := List.filterMap_append

/-- A property of the world under which the log wants every growth. -/
structure Logger.Tracing (ω : Type) [Logger ω] where
  holds : ω → Prop
  keep : ∀ entry world, holds world → holds (Logger.keep entry world)
  wants : ∀ capacity world, holds world → Logger.wants (.bufferGrown capacity) world

section Logger

variable {ω : Type} [Logger ω]

theorem Act.growths_log {entry : Log.Entry} (hentry : ∀ capacity, entry ≠ .bufferGrown capacity)
    (world : ω) : ((log entry).run world).events.growths = [] := by
  rw [run_log]
  split
  · cases entry <;> simp_all [Trace.growths]
  · rfl

theorem Act.growths_logAll (tracing : Logger.Tracing ω) (capacities : List Nat) {world : ω}
    (hworld : tracing.holds world) :
    ((logAll (capacities.map .bufferGrown)).run world).events.growths = capacities := by
  induction capacities generalizing world with
  | nil => rfl
  | cons capacity rest ih =>
    have hlater := ih (tracing.keep (.bufferGrown capacity) world hworld)
    change ((log (.bufferGrown capacity) >>= fun _ =>
      logAll (rest.map .bufferGrown)).run world).events.growths = _
    rw [run_bind, run_log, if_pos (tracing.wants capacity world hworld), Trace.growths_append]
    exact congrArg (capacity :: ·) hlater

/-! ### The read of a line -/

namespace Stream

def store? (buffer : Buffer UInt8) (content : Bytes) : Act ω (Option (Buffer UInt8)) :=
  match buffer.extend? lineStep content with
  | none => return none
  | some (buffer', capacities) => do
    Act.logAll (capacities.map .bufferGrown)
    return some buffer'

def scan? (buffer : Buffer UInt8) (script : List Chunk) : Act ω (Option (Reading × Stream)) :=
  if ¬ buffer.Sound lineStep then return none
  else match script with
    | [] => do
      Act.emit .fetched
      some <$> ended buffer []
    | .failure error :: script => do
      Act.emit .fetched
      if error.interrupts then scan? buffer script
      else return some (.failed (.io error), ⟨[], script⟩)
    | .bytes content :: script => do
      Act.emit .fetched
      if content.isEmpty then some <$> ended buffer script
      else match content.cutAt newline with
        | none =>
          match ← store? buffer content with
          | none => return none
          | some buffer' => scan? buffer' script
        | some (before, after) =>
          match ← store? buffer before with
          | none => return none
          | some buffer' => return some (.line ⟨buffer'.items.toList, buffer'.capacity⟩, ⟨after, script⟩)

/-- Reads the next line in checked steps, beginning with a buffer without any room. -/
def nextLine? (stream : Stream) : Act ω (Option (Reading × Stream)) :=
  scan? (.reserve ⟨#[], 0⟩ lineStep) stream.answers

theorem store_eq (buffer : Buffer UInt8) (content : Bytes) :
    (store buffer content : Act ω _) = do
      Act.logAll ((buffer.extend lineStep content).2.map .bufferGrown)
      return (buffer.extend lineStep content).1 := rfl

theorem store?_eq {buffer : Buffer UInt8} (hfits : buffer.Fits lineStep) (content : Bytes) :
    (store? buffer content : Act ω _) = do
      Act.logAll ((buffer.extend lineStep content).2.map .bufferGrown)
      return some (buffer.extend lineStep content).1 := by
  rw [store?, Buffer.extend?_eq Buffer.lineStep_pos hfits]

theorem scan?_eq {buffer : Buffer UInt8} (hfits : buffer.Fits lineStep) (script : List Chunk) :
    (scan? buffer script : Act ω _) = some <$> scan buffer script := by
  induction script generalizing buffer with
  | nil =>
    have hsound : ¬ ¬ buffer.Sound lineStep := not_not_intro (hfits.sound Buffer.lineStep_pos)
    rw [scan?, if_neg hsound, scan, map_bind]
  | cons chunk script ih =>
    have hsound : ¬ ¬ buffer.Sound lineStep := not_not_intro (hfits.sound Buffer.lineStep_pos)
    cases chunk with
    | failure error =>
      rw [scan?, if_neg hsound, scan, map_bind]
      congr 1
      funext _
      by_cases hinterrupts : error.interrupts
      · rw [if_pos hinterrupts, if_pos hinterrupts, ih hfits]
      · rw [if_neg hinterrupts, if_neg hinterrupts, map_pure]
    | bytes content =>
      rw [scan?, if_neg hsound, scan, map_bind]
      congr 1
      funext _
      by_cases hempty : content.isEmpty
      · rw [if_pos hempty, if_pos hempty]
      · rw [if_neg hempty, if_neg hempty]
        cases content.cutAt newline with
        | none =>
          -- The read goes on with a buffer that fits again, which the value of an action does not tell.
          have hfits' := Buffer.extend_fits Buffer.lineStep_pos hfits content
          simp only [store_eq, store?_eq hfits, map_bind, bind_assoc, pure_bind, ih hfits']
        | some parts =>
          simp only [store_eq, store?_eq hfits, map_bind, bind_assoc, pure_bind, map_pure]

theorem nextLine?_eq (stream : Stream) : (stream.nextLine? : Act ω _) = some <$> stream.nextLine := by
  rw [nextLine?, ← Buffer.empty_eq_reserve Buffer.lineStep_pos, scan?_eq (Buffer.empty_fits _)]
  rfl

/-- What a read has stored of its line: bytes without a newline, with what is left of the stream behind
them, and behind the newline if there is a line. The growths are those that these bytes have needed. -/
structure Stores (begun : Bytes) (script : List Chunk) (world : ω) (stored : Bytes)
    (read : Outcome ω (Reading × Stream)) : Prop where
  noNewline : newline ∉ stored
  line : ∀ line, read.value.1 = .line line → line = ⟨begun ++ stored,
      lineStep * max 1 ((begun ++ stored).length ⌈/⌉ lineStep)⟩ ∧
    contentOf script = stored ++ newline :: read.value.2.content
  other : (∀ line, read.value.1 ≠ .line line) → contentOf script = stored ++ read.value.2.content
  growths : ∀ tracing : Logger.Tracing ω, tracing.holds world →
    Buffer.growths lineStep begun.length ++ read.events.growths
      = Buffer.growths lineStep (begun ++ stored).length

theorem Stores.dropped {script : List Chunk} {world : ω} {read : Outcome ω (Reading × Stream)}
    (begun : Bytes) (hreading : ∀ line, read.value.1 ≠ .line line)
    (hcontent : contentOf script = read.value.2.content) (hgrowths : read.events.growths = []) :
    Stores begun script world [] read where
  noNewline := List.not_mem_nil
  line line hline := absurd hline (hreading line)
  other _ := hcontent
  growths _ _ := by rw [hgrowths, List.append_nil, List.append_nil]

/-- Events that tell the growths which some bytes behind those begun have needed, where growths were logged
before and are logged after them. -/
def Traced (begun content : Bytes) (world : ω) (front : Trace) (world' : ω) : Prop :=
  ∀ tracing : Logger.Tracing ω, tracing.holds world → tracing.holds world' ∧
    Buffer.growths lineStep begun.length ++ front.growths
      = Buffer.growths lineStep (begun ++ content).length

/-- An answer that passes is stored in front of what is stored later. -/
theorem Stores.behind {begun stored : Bytes} {chunk : Chunk} {script : List Chunk} {front : Trace}
    {world world' : ω} {later : Outcome ω (Reading × Stream)}
    (hlater : Stores (begun ++ chunk.content) script world' stored later)
    (hchunk : newline ∉ chunk.content) (hfront : Traced begun chunk.content world front world') :
    Stores begun (chunk :: script) world (chunk.content ++ stored)
      ⟨later.value, front ++ later.events, later.world⟩ where
  noNewline hmem := (List.mem_append.1 hmem).elim hchunk hlater.noNewline
  line line hline := by
    obtain ⟨hbytes, hcontent⟩ := hlater.line line hline
    rw [← List.append_assoc, contentOf_cons, hcontent, List.append_assoc chunk.content]
    exact ⟨hbytes, rfl⟩
  other hother := by
    rw [contentOf_cons, hlater.other hother, List.append_assoc]
  growths tracing hworld := by
    obtain ⟨hworld', hgrowths⟩ := hfront tracing hworld
    rw [Trace.growths_append, ← List.append_assoc, hgrowths, hlater.growths tracing hworld',
      List.append_assoc]

theorem growths_ended (buffer : Buffer UInt8) (script : List Chunk) (world : ω) :
    ((ended buffer script).run world).events.growths = [] := by
  unfold ended
  split
  · rw [Act.run_bind, Trace.growths_append, Act.growths_log (fun _ => Log.Entry.noConfusion)]
    rfl
  · rfl

theorem traced_store {buffer : Buffer UInt8} {begun : Bytes} (hbuffer : Begun buffer begun)
    (content : Bytes) (world : ω) :
    let stored := (store buffer content).run world
    Traced begun content world (.fetched :: stored.events) stored.world := by
  obtain ⟨hfits, rfl⟩ := hbuffer
  intro stored tracing hworld
  constructor
  · have hleaves : (store buffer content : Act ω _).Leaves tracing.holds fun _ => True :=
      leaves_store (fun entry world hholds _ => ⟨trivial, tracing.keep entry world hholds⟩) buffer content
    exact (hleaves world hworld).1
  · have hextend := Buffer.growths_extend Buffer.lineStep_pos hfits content
    have hlogged : stored.events.growths = (buffer.extend lineStep content).2 := by
      change ((store buffer content).run world).events.growths = _
      rw [store_eq, Act.run_bind, Trace.growths_append, Act.growths_logAll tracing _ hworld]
      exact List.append_nil _
    rw [List.length_append, Array.length_toList, ← hextend, ← hlogged]
    rfl

/-- Behind an answer that passes the read goes on with what it brings in the buffer. -/
theorem scan_passing {buffer : Buffer UInt8} {begun : Bytes} (hbuffer : Begun buffer begun) {chunk : Chunk}
    (hchunk : chunk.Passes) (script : List Chunk) (world : ω) :
    ∃ (buffer' : Buffer UInt8) (front : Trace) (world' : ω),
      Begun buffer' (begun ++ chunk.content) ∧ Traced begun chunk.content world front world' ∧
      let later := (scan buffer' script).run world'
      (scan buffer (chunk :: script)).run world
        = ⟨later.value, front ++ later.events, later.world⟩ := by
  cases chunk with
  | failure error =>
    change error.interrupts = true at hchunk
    refine ⟨buffer, [.fetched], world, ?_, ?_, ?_⟩
    · rwa [Chunk.content, List.append_nil]
    · intro tracing hworld
      rw [Chunk.content, List.append_nil]
      exact ⟨hworld, List.append_nil _⟩
    · simp [scan, hchunk]
  | bytes content =>
    obtain ⟨hnonempty, hnewline⟩ := hchunk
    have hisEmpty : ¬ content.isEmpty := mt List.isEmpty_iff.1 hnonempty
    have hcut := Bytes.cutAt_of_not_mem hnewline
    refine ⟨_, _, _, hbuffer.extend content, traced_store hbuffer content world, ?_⟩
    simp [scan, hisEmpty, hcut, store_value]

theorem stores_line {buffer : Buffer UInt8} {begun before : Bytes} (hbuffer : Begun buffer begun)
    (hbefore : newline ∉ before) (after : Bytes) (script : List Chunk) (world : ω) :
    Stores begun (.bytes (before ++ newline :: after) :: script) world before
      ((scan buffer (.bytes (before ++ newline :: after) :: script)).run world) := by
  have hcut : Bytes.cutAt newline (before ++ newline :: after) = some (before, after) :=
    Bytes.cutAt_append hbefore
  have hreading := (hbuffer.extend before).reading
  have hrun : (scan buffer (.bytes (before ++ newline :: after) :: script)).run world
      = ⟨(lineReading (begun ++ before), ⟨after, script⟩),
        .fetched :: ((store buffer before).run world).events,
        ((store buffer before).run world).world⟩ := by
    rw [← hreading]
    simp [scan, hcut, store_value]
  rw [hrun]
  refine ⟨hbefore, fun line hline => ⟨?_, ?_⟩, fun hother => absurd rfl (hother _), ?_⟩
  · rw [← Reading.line.inj hline, Buffer.room_eq_ceilDiv Buffer.lineStep_pos]
  · rw [contentOf_cons, Chunk.content, List.append_assoc]
    rfl
  · intro tracing hworld
    exact (traced_store hbuffer before world tracing hworld).2

theorem exists_stores {buffer : Buffer UInt8} {begun : Bytes} (hbuffer : Begun buffer begun)
    (script : List Chunk) (world : ω) :
    ∃ stored, Stores begun script world stored ((scan buffer script).run world) := by
  -- An answer that passes is added to the line begun, and any other one ends the read.
  induction script generalizing buffer begun world with
  | nil =>
    refine ⟨[], .dropped begun ?_ ?_ ?_⟩
    · simp [scan]
    · simp [scan, content]
    · simp only [scan, Act.run_bind, Trace.growths_append, growths_ended]
      rfl
  | cons chunk script ih =>
    by_cases hchunk : chunk.Passes
    · obtain ⟨buffer', front, world', hbuffer', hfront, hrun⟩ := scan_passing hbuffer hchunk script world
      obtain ⟨stored, hlater⟩ := ih hbuffer' world'
      have hnewline : newline ∉ chunk.content := by
        cases chunk with
        | failure error => exact List.not_mem_nil
        | bytes content => exact hchunk.2
      rw [hrun]
      exact ⟨_, hlater.behind hnewline hfront⟩
    · cases chunk with
      | failure error =>
        have hfatal : ¬ error.interrupts := hchunk
        refine ⟨[], .dropped begun ?_ ?_ ?_⟩
        · simp [scan, hfatal]
        · simp [scan, hfatal, content, Chunk.content]
        · simp only [scan, Act.run_bind, if_neg hfatal]
          rfl
      | bytes content =>
        by_cases hempty : content = []
        · subst hempty
          refine ⟨[], .dropped begun ?_ ?_ ?_⟩
          · simp [scan]
          · simp [scan, Stream.content, Chunk.content]
          · simp only [scan, Act.run_bind, List.isEmpty_nil, if_true, Trace.growths_append, growths_ended]
            rfl
        · have hnewline : newline ∈ content := by
            by_contra hnewline
            exact hchunk ⟨hempty, hnewline⟩
          obtain ⟨before, after, rfl, hbefore⟩ := List.eq_append_cons_of_mem hnewline
          exact ⟨before, stores_line hbuffer hbefore after script world⟩

end Stream

end Logger

def Stage.tracing : Logger.Tracing Stage where
  holds stage := stage.verbosity = some .trace
  keep _ _ hstage := hstage
  wants capacity stage hstage := by
    change stage.logs (Log.Entry.bufferGrown capacity).level = true
    rw [Stage.logs, hstage]
    rfl

/-! ### The words of a line -/

namespace Session

variable {ω : Type} [World ω]

/-- The words of a line, collected in checked steps, beginning with a list without any room. -/
def tokenize? (line : Bytes) : Act ω (Option (List Bytes)) :=
  match (Buffer.reserve ⟨#[], 0⟩ wordStep).extend? wordStep (wordsOf line) with
  | none => return none
  | some (words, capacities) => do
    Act.logAll (capacities.map .bufferGrown)
    Act.log (.lineTokenized words.items.size)
    return some words.items.toList

theorem tokenize?_eq (line : Bytes) : (tokenize? line : Act ω _) = some <$> tokenize line := by
  rw [tokenize?, ← Buffer.empty_eq_reserve Buffer.wordStep_pos,
    Buffer.extend?_eq Buffer.wordStep_pos (Buffer.empty_fits _), tokenize]
  simp only [map_bind, map_pure]

theorem growths_tokenize (tracing : Logger.Tracing ω) (line : Bytes) {world : ω}
    (hworld : tracing.holds world) :
    ((tokenize line).run world).events.growths = Buffer.growths wordStep (wordsOf line).length := by
  rw [tokenize, Buffer.extend_empty Buffer.wordStep_pos, Act.run_bind, Trace.growths_append,
    Act.growths_logAll tracing _ hworld, Act.run_bind, Trace.growths_append,
    Act.growths_log (fun _ => Log.Entry.noConfusion)]
  exact List.append_nil _

/-- A line is read, and its words are collected, into a buffer that is in order at every step and has room
for each item that is put into it. It grows when it is full, by one step, so that in the end it has the least
positive number of steps that its items need, and the growths logged are those up to this number. What it
holds are the items as they came. -/
theorem grows_when_full (stream : Stream) (line : Bytes) (world : ω) :
    let read := stream.nextLine.run world
    let words := wordsOf line
    let collected := (tokenize line).run world
    (stream.nextLine? : Act ω _) = some <$> stream.nextLine ∧
      (∃ stored, Stream.newline ∉ stored ∧
        (∀ got, read.value.1 = .line got →
          got = ⟨stored, lineStep * max 1 (stored.length ⌈/⌉ lineStep)⟩ ∧
            stream.content = stored ++ Stream.newline :: read.value.2.content) ∧
        ((∀ got, read.value.1 ≠ .line got) → stream.content = stored ++ read.value.2.content) ∧
        ∀ tracing : Logger.Tracing ω, tracing.holds world →
          read.events.growths = Buffer.growths lineStep stored.length) ∧
      (tokenize? line : Act ω _) = some <$> tokenize line ∧
      (Buffer.empty wordStep).extend wordStep words =
        (⟨words.toArray, wordStep * max 1 (words.length ⌈/⌉ wordStep)⟩,
          Buffer.growths wordStep words.length) ∧
      collected.value = words ∧
      ∀ tracing : Logger.Tracing ω, tracing.holds world →
        collected.events.growths = Buffer.growths wordStep words.length := by
  intro read words collected
  obtain ⟨stored, hstores⟩ := Stream.exists_stores .empty stream.answers world
  have hcontent := Stream.contentOf_answers stream
  refine ⟨Stream.nextLine?_eq stream, ⟨stored, hstores.noNewline, ?_, ?_, ?_⟩, tokenize?_eq line,
    Buffer.extend_empty Buffer.wordStep_pos words, tokenize_value line world,
    fun tracing => growths_tokenize tracing line⟩
  · intro got hgot
    rw [← hcontent]
    exact hstores.line got hgot
  · intro hother
    rw [← hcontent]
    exact hstores.other hother
  · intro tracing hworld
    have hgrowths := hstores.growths tracing hworld
    rwa [List.length_nil, Buffer.growths_zero, List.nil_append, List.nil_append] at hgrowths

/-- A line of one byte more than a step, of which the last comes in another chunk. -/
theorem grows_when_full_chunks :
    let stage : Stage := { Stage.plain with verbosity := some .trace }
    let passed : List Chunk := [.bytes (List.replicate 1024 120), .failure (.plain .interrupted)]
    let stream := Stream.ofChunks (passed ++ [.bytes [121, 10, 122]])
    let read := stream.nextLine.run stage
    Stage.tracing.holds stage ∧ read.events.growths = [2048] ∧
      ((tokenize [99, 100]).run stage).events.growths = [] := by
  intro stage passed stream read
  have hstage : Stage.tracing.holds stage := rfl
  have hpassed : ∀ chunk ∈ passed, chunk.Passes := by
    refine List.forall_mem_cons.2 ⟨⟨?_, ?_⟩, List.forall_mem_singleton.2 rfl⟩
    · exact mt (List.replicate_eq_nil_iff _).1 (by decide : ¬ 1024 = 0)
    · intro hnewline
      exact absurd (List.mem_replicate.1 hnewline).2 (by decide)
  have hreads : Stream.ReadsTo stream.answers
      (Stream.lineReading (Stream.contentOf passed ++ [121])) ⟨[122], []⟩ :=
    @Stream.ReadsTo.line passed [121] [122] [] hpassed (by decide)
  have hvalue := Stream.nextLine_value_of_readsTo hreads stage
  obtain ⟨-, ⟨stored, -, hline, -, hgrowths⟩, -, -, -, htokens⟩ := grows_when_full stream [99, 100] stage
  refine ⟨hstage, ?_, htokens Stage.tracing hstage⟩
  rw [hvalue] at hline
  obtain ⟨hstored, -⟩ := hline _ rfl
  have hlength : stored.length = 1025 := by
    rw [← (Line.mk.inj hstored).1]
    simp only [passed, Stream.contentOf_cons, Stream.contentOf_nil, Chunk.content, List.length_append,
      List.length_replicate, List.length_nil, List.length_singleton]
  rw [hgrowths Stage.tracing hstage, hlength]
  decide

end Session

end LineShell
