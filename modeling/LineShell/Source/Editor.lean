import LineShell.Source.Stream
import LineShell.Text.Cluster
/-!
# The line editor

An editor answers with a text, or that the line was abandoned, or that the input is at its end. An
abandoned line counts as an empty one, so the session goes on.

Without a terminal there is nothing to edit. The editor then takes the next line of the input as it
is, up to its line end or the end of the input, and only removes the line end and what backspaces
rub out.
-/

namespace LineShell

/-- What an editor answers when it is asked for a line. -/
inductive EditorAnswer where
  | text (bytes : Bytes)
  | failed (error : EditorError)
  deriving DecidableEq, Repr

namespace EditorAnswer

variable {ω : Type} [Logger ω]

def reading : EditorAnswer → Act ω Reading
  | .text bytes => return .line ⟨bytes, bytes.length⟩
  | .failed .endOfFile => return .endOfInput
  | .failed .interrupted => do
    Act.log .lineInterrupted
    return .line ⟨[], 0⟩
  | .failed (.io error) => return .failed (.editor (.io error))

end EditorAnswer

/-- An editor whose answers are given, the next one first. At last its input is at the end. -/
structure Editor where
  answers : List EditorAnswer
  deriving DecidableEq, Repr

namespace Editor

variable {ω : Type} [Logger ω]

def readLine (prompt : Bytes) (editor : Editor) : Act ω (Reading × Editor) := do
  Act.emit (.readLine prompt)
  match editor.answers with
  | [] => return (.endOfInput, ⟨[]⟩)
  | answer :: rest => return (← answer.reading, ⟨rest⟩)

instance : LineSource Editor ω where
  readLine := readLine
  remaining editor := editor.answers.length
  remaining_lt := by
    intro prompt editor world line editor' hvalue
    obtain ⟨answers⟩ := editor
    cases answers with
    | nil => simp [readLine] at hvalue
    | cons answer rest =>
      simp only [readLine, Act.run_bind, Act.run_pure, Prod.mk.injEq] at hvalue
      simp [← hvalue.2]

/-- Rubs out: a backspace takes away the cluster before it, and itself. The size of a cluster is
counted in one byte. -/
def rubOut (text : Bytes) : Bytes :=
  let (reversed, _) := (Text.clusters text).foldl
    (fun (state : Bytes × List Nat) (cluster : Bytes) =>
      let (reversed, sizes) := state
      if cluster = [8] then
        match sizes with
        | [] => state
        | size :: rest => (reversed.drop size, rest)
      else (cluster.reverse ++ reversed, cluster.length % 256 :: sizes))
    ([], [])
  reversed.reverse

/-- A line without its line end, a carriage return in front of which belongs to it. -/
def withoutLineEnd (line : Bytes) : Bytes :=
  if line.getLast? = some 10 then
    if line.dropLast.getLast? = some 13 then line.dropLast.dropLast else line.dropLast
  else line

/-- The answer to a line of the input, its line end included. No bytes at all are the end. -/
def answerTo (line : Bytes) : EditorAnswer :=
  if line.isEmpty then .failed .endOfFile
  else if Utf8.isValid line then .text (rubOut (withoutLineEnd line))
  else .failed (.io .notUtf8)

end Editor

/-- Takes bytes up to and with the next newline, or up to the end of the input, after those in
`taken`. -/
def Stream.takeLine (taken : Bytes) : List Chunk → Except IoError Bytes × Stream
  | [] => (.ok taken, ⟨[], []⟩)
  | .failure error :: script =>
    if error.interrupts then takeLine taken script else (.error error, ⟨[], script⟩)
  | .bytes content :: script =>
    if content.isEmpty then (.ok taken, ⟨[], script⟩)
    else match content.cutAt newline with
      | none => takeLine (taken ++ content) script
      | some (before, after) => (.ok (taken ++ before ++ [newline]), ⟨after, script⟩)

end LineShell
