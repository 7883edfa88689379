import LineShell.World
/-!
# Buffering by lines

The standard output of a process is held back until a line is complete. A message is written out up
to its last line end, and what follows that is held; a message without a line end is held whole, as
long as there is room. What could not be written out is held on, and stands in the way of what comes
after it. Writing itself takes everything or fails.
-/

namespace LineShell.LineBuffer

/-- How much can be held. -/
def room : Nat := 1024

/-- A way to write all of some bytes. -/
abbrev Writer (ω : Type) := Bytes → ω → Option IoError × ω

/-- What a step of a buffer leads to: a failure, if there is one, what is held, and the world. -/
structure Step (ω : Type) where
  failure : Option IoError
  held : Bytes
  world : ω

variable {ω : Type} (write : Writer ω)

def drain (held : Bytes) (world : ω) : Step ω :=
  if held.isEmpty then ⟨none, held, world⟩
  else match write held world with
    | (none, world) => ⟨none, [], world⟩
    | (some error, world) => ⟨some error, held, world⟩

/-- Writes out what is held if it ends a line. -/
def drainLines (held : Bytes) (world : ω) : Step ω :=
  if held.getLast? = some 10 then drain write held world else ⟨none, held, world⟩

/-- Holds bytes. What is held already is written out first if there is no room for both, and bytes
that could fill all the room are not held but written. -/
def hold (bytes held : Bytes) (world : ω) : Step ω :=
  if bytes = [] then ⟨none, held, world⟩
  else
    let before := if room < held.length + bytes.length then drain write held world
      else ⟨none, held, world⟩
    match before.failure with
    | some error => ⟨some error, before.held, before.world⟩
    | none =>
      if bytes.length < room then ⟨none, before.held ++ bytes, before.world⟩
      else
        let (failure, world) := write bytes before.world
        ⟨failure, before.held, world⟩

/-- Writes out complete lines, behind what is held. -/
def writeLines (lines held : Bytes) (world : ω) : Step ω :=
  if held.isEmpty then
    let (failure, world) := write lines world
    ⟨failure, held, world⟩
  else
    let joined := hold write lines held world
    match joined.failure with
    | some _ => joined
    | none => drain write joined.held joined.world

/-- How much of a message stands behind its last line end. -/
def tailLength (message : Bytes) : Nat :=
  (message.reverse.takeWhile (· != 10)).length

/-- Writes a message given as its complete lines and what stands behind them. -/
def deliverParts (lines tail held : Bytes) (world : ω) : Delivery × Step ω :=
  let first := if lines = [] then drainLines write held world else writeLines write lines held world
  match first.failure with
  | some error => (⟨[], some error⟩, first)
  | none =>
    let second := hold write tail first.held first.world
    match second.failure with
    | some error => (⟨lines, some error⟩, second)
    | none => (⟨lines ++ tail, none⟩, second)

def deliver (message held : Bytes) (world : ω) : Delivery × Step ω :=
  if message = [] then (⟨[], none⟩, ⟨none, held, world⟩)
  else
    let length := message.length - tailLength message
    deliverParts write (message.take length) (message.drop length) held world

theorem hold_nil (held : Bytes) (world : ω) : (hold write [] held world).failure = none := by
  simp [hold]

private theorem deliverParts_accepted (lines tail held : Bytes) (world : ω) :
    (deliverParts write lines tail held world).1.accepted <+: lines ++ tail := by
  simp only [deliverParts]
  split
  · exact List.nil_prefix
  · split
    · exact List.prefix_append lines tail
    · exact List.prefix_refl _

private theorem deliverParts_failure (lines tail held : Bytes) (world : ω)
    (hmessage : lines ++ tail ≠ []) :
    (deliverParts write lines tail held world).1.failure = none ↔
      (deliverParts write lines tail held world).1.accepted = lines ++ tail := by
  simp only [deliverParts]
  split
  · simpa using fun hlines htail => hmessage (by simp [hlines, htail])
  · split
    · rename_i hsecond
      simp only [reduceCtorEq, false_iff]
      intro hlines
      have htail : tail = [] := by simpa using hlines
      simp [htail, hold_nil] at hsecond
    · simp

theorem deliver_accepted (message held : Bytes) (world : ω) :
    (deliver write message held world).1.accepted <+: message := by
  unfold deliver
  split
  · exact List.nil_prefix
  · simpa using deliverParts_accepted write (message.take (message.length - tailLength message))
      (message.drop (message.length - tailLength message)) held world

theorem deliver_failure (message held : Bytes) (world : ω) :
    (deliver write message held world).1.failure = none ↔
      (deliver write message held world).1.accepted = message := by
  unfold deliver
  split
  · rename_i hempty
    simp [hempty]
  · rename_i hmessage
    simpa using deliverParts_failure write (message.take (message.length - tailLength message))
      (message.drop (message.length - tailLength message)) held world (by simpa using hmessage)

end LineShell.LineBuffer
