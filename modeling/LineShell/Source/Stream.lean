import LineShell.Buffer
import LineShell.Source.Basic
/-!
# Lines of a byte stream

A stream arrives in chunks, and a chunk may be followed by an error or by an end that need not be
the last. A line is everything up to the next newline, over as many chunks as it takes; what follows
the newline in its chunk stays for the next line. An end of input drops a line that no newline has
ended, and so does an error, but an interruption is as if it had not happened.
-/

namespace LineShell

/-- What a stream answers when it is asked for more bytes. No bytes at all are an end of input. -/
inductive Chunk where
  | bytes (content : Bytes)
  | failure (error : IoError)
  deriving DecidableEq, Repr

/-- A stream of bytes: the part of the current chunk that has not been used, and the answers to
come. After the last of these the input is at its end for good. -/
structure Stream where
  pending : Bytes
  script : List Chunk
  deriving DecidableEq, Repr

namespace Stream

/-- The byte that ends a line. -/
def newline : UInt8 := 10

/-- A stream of which nothing has been fetched. -/
def ofChunks (script : List Chunk) : Stream := ⟨[], script⟩

/-- The answers still to come, with what is left of the current chunk in front. -/
def answers (stream : Stream) : List Chunk :=
  if stream.pending.isEmpty then stream.script else .bytes stream.pending :: stream.script

def newlinesIn : Chunk → Nat
  | .bytes content => content.count newline
  | .failure _ => 0

def newlinesInAll : List Chunk → Nat
  | [] => 0
  | chunk :: script => newlinesIn chunk + newlinesInAll script

def newlines (stream : Stream) : Nat :=
  stream.pending.count newline + newlinesInAll stream.script

variable {ω : Type} [Logger ω]

/-- Puts bytes into a line buffer and logs how it grew. -/
def store (buffer : Buffer UInt8) (content : Bytes) : Act ω (Buffer UInt8) := do
  let (buffer', capacities) := buffer.extend lineStep content
  Act.logAll (capacities.map .bufferGrown)
  return buffer'

/-- The end of input with `script` behind it. A line that was begun is dropped. -/
def ended (buffer : Buffer UInt8) (script : List Chunk) : Act ω (Reading × Stream) := do
  if buffer.items.size ≠ 0 then Act.log (.fragmentDiscarded buffer.items.size)
  return (.endOfInput, ⟨[], script⟩)

@[simp] theorem ended_value (buffer : Buffer UInt8) (script : List Chunk) (world : ω) :
    ((ended buffer script).run world).value = (.endOfInput, ⟨[], script⟩) := by
  unfold ended
  split <;> simp

/-- Reads on, with the begun line in `buffer`. -/
def scan (buffer : Buffer UInt8) : List Chunk → Act ω (Reading × Stream)
  | [] => do
    Act.emit .fetched
    ended buffer []
  | .failure error :: script => do
    Act.emit .fetched
    if error.interrupts then scan buffer script
    else return (.failed (.io error), ⟨[], script⟩)
  | .bytes content :: script => do
    Act.emit .fetched
    if content.isEmpty then ended buffer script
    else match content.cutAt newline with
      | none =>
        let buffer ← store buffer content
        scan buffer script
      | some (before, after) =>
        let buffer ← store buffer before
        return (.line ⟨buffer.items.toList, buffer.capacity⟩, ⟨after, script⟩)

def nextLine (stream : Stream) : Act ω (Reading × Stream) :=
  scan (.empty lineStep) stream.answers

end Stream

/-- Shows a prompt on the channel for prompts and flushes it. -/
def showPrompt {ω : Type} [World ω] (prompt : Bytes) : Act ω (Option IoError) := do
  match ← Act.send .prompt prompt with
  | some error => return some error
  | none => Act.flush .prompt

namespace Stream

variable {ω : Type} [World ω]

/-- Shows the prompt and reads the next line. If the prompt cannot be shown, the stream is left as
it was. -/
def readLine (prompt : Bytes) (stream : Stream) : Act ω (Reading × Stream) := do
  match ← showPrompt prompt with
  | some error => return (.failed (.io error), stream)
  | none => stream.nextLine

private theorem count_newline_of_cutAt {content before after : Bytes}
    (hcut : content.cutAt newline = some (before, after)) :
    after.count newline + 1 ≤ content.count newline := by
  have hsplit := List.takeWhile_append_dropWhile (p := (· != newline)) (l := content)
  unfold Bytes.cutAt at hcut
  split at hcut
  · simp at hcut
  · rename_i stop rest hdrop
    obtain ⟨-, rfl⟩ := Prod.mk.inj (Option.some.inj hcut)
    have hstop : stop = newline := by
      have hne : content.dropWhile (· != newline) ≠ [] := by simp [hdrop]
      have := List.head_dropWhile_not (p := (· != newline)) (l := content) hne
      simpa [hdrop] using this
    rw [← hsplit, hdrop, hstop]
    simp [List.count_append]

private theorem newlines_of_scan (buffer : Buffer UInt8) (script : List Chunk) (world : ω)
    (line : Line) (stream : Stream)
    (hvalue : ((scan buffer script).run world).value = (.line line, stream)) :
    stream.newlines < newlinesInAll script := by
  induction script generalizing buffer world with
  | nil => simp [scan] at hvalue
  | cons chunk script ih =>
    cases chunk with
    | failure error =>
      simp only [scan, Act.run_bind] at hvalue
      split at hvalue
      · have := ih _ _ hvalue
        simpa [newlinesInAll, newlinesIn] using this
      · simp at hvalue
    | bytes content =>
      simp only [scan, Act.run_bind] at hvalue
      split at hvalue
      · simp at hvalue
      · split at hvalue
        · simp only [Act.run_bind] at hvalue
          have := ih _ _ hvalue
          simp only [newlinesInAll]
          omega
        · rename_i before after hcut
          simp only [Act.run_bind, Act.run_pure, Prod.mk.injEq] at hvalue
          have := count_newline_of_cutAt hcut
          rw [← hvalue.2]
          simp only [newlines, newlinesInAll, newlinesIn]
          omega

private theorem newlinesInAll_answers (stream : Stream) :
    newlinesInAll stream.answers = stream.newlines := by
  unfold answers newlines
  split <;> rename_i hpending
  · simp [List.isEmpty_iff.1 hpending]
  · simp [newlinesInAll, newlinesIn]

instance : LineSource Stream ω where
  readLine := readLine
  remaining := newlines
  remaining_lt := by
    intro prompt stream world line stream' hvalue
    simp only [readLine, Act.run_bind] at hvalue
    split at hvalue
    · simp at hvalue
    · rw [← newlinesInAll_answers stream]
      exact newlines_of_scan _ _ _ _ _ hvalue

end Stream

end LineShell
