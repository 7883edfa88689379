import LineShell.Machine.Station
import LineShell.Source.Editor
/-!
# The standard input of a station

The standard input is read in blocks, and what of a block has not been used is kept for the next
line. Lines come from it as they are, or by way of the line editor. No more lines come than the
input had when the source was made.
-/

namespace LineShell

namespace Station

def blockSize : Nat := 8192

def blocks (bytes : ByteArray) : List Bytes :=
  (List.range ((bytes.size + blockSize - 1) / blockSize)).map fun i =>
    (bytes.extract (i * blockSize) ((i + 1) * blockSize)).toList

/-- What the standard input answers from here on. -/
def inputAnswers (station : Station) : List Chunk :=
  match station.process.descriptors.lookup 0 with
  | none => []
  | some file =>
    match station.machine.rest file with
    | .ok bytes => (blocks bytes).map .bytes
    | .error errno => [.failure (.system errno)]

def inputStream (station : Station) : Stream := ⟨station.ahead, station.inputAnswers⟩

private def totalSize : List Chunk → Nat
  | [] => 0
  | .bytes content :: rest => content.length + totalSize rest
  | .failure _ :: rest => totalSize rest

/-- Goes on in the standard input to where a stream that was read from it stands. -/
def advanceTo (stream : Stream) (station : Station) : Station :=
  let read := totalSize station.inputAnswers - totalSize stream.script
  let machine := match station.process.descriptors.lookup 0 with
    | none => station.machine
    | some file => (station.machine.read file read).2
  { station with machine, ahead := stream.pending }

/-- How many line ends the standard input still brings. -/
def linesAhead (station : Station) : Nat := station.inputStream.newlines

end Station

/-- The lines of the standard input as they are, at most a number of them. -/
structure PlainInput where
  allowance : Nat

/-- The lines of the standard input by way of the editor, at most a number of them. -/
structure EditedInput where
  allowance : Nat

/-- Lets a reading pass as long as lines may come. -/
private def Reading.within (reading : Reading) (allowance : Nat) : Reading × Nat :=
  match reading, allowance with
  | .line _, 0 => (.endOfInput, 0)
  | .line content, allowance + 1 => (.line content, allowance)
  | reading, allowance => (reading, allowance)

private theorem allowance_of_within (reading : Reading) (allowance : Nat) (line : Line)
    (hline : (reading.within allowance).1 = .line line) :
    (reading.within allowance).2 < allowance := by
  cases allowance <;> cases reading <;> simp_all [Reading.within]

namespace PlainInput

/-- The lines that the standard input of a station still holds. -/
def ofStation (station : Station) : PlainInput := ⟨station.linesAhead⟩

/-- Shows the prompt and reads the next line. -/
def readLine (prompt : Bytes) (input : PlainInput) : Act Station (Reading × PlainInput) := do
  match ← showPrompt prompt with
  | some error => return (.failed (.io error), input)
  | none =>
    let stream ← Act.update fun station => (station.inputStream, station)
    let (reading, stream) ← stream.nextLine
    Act.update fun station => ((), station.advanceTo stream)
    let (reading, allowance) := reading.within input.allowance
    return (reading, ⟨allowance⟩)

instance : LineSource PlainInput Station where
  readLine := readLine
  remaining := allowance
  remaining_lt := by
    intro prompt input station line input' hvalue
    simp only [readLine, Act.run_bind] at hvalue
    split at hvalue
    · simp at hvalue
    · simp only [Act.run_bind, Act.run_pure, Prod.mk.injEq] at hvalue
      rw [← hvalue.2]
      exact allowance_of_within _ _ line hvalue.1

end PlainInput

namespace EditedInput

/-- What the standard input of a station still holds. Its last line need not be ended. -/
def ofStation (station : Station) : EditedInput := ⟨station.linesAhead + 1⟩

/-- The terminals that an editor cannot edit lines on. -/
def plainTerminals : List Bytes :=
  ["dumb", "cons25", "emacs"].map Bytes.ofString

/-- Whether the environment tells that lines cannot be edited. The editor then shows the prompt. -/
def showsPrompt (station : Station) : Bool :=
  match station.process.value? (Bytes.ofString "TERM") with
  | none => false
  | some terminal => plainTerminals.contains (Bytes.toAsciiLower terminal)

/-- The failure of the prompt, where it is shown. -/
def prompted (prompt : Bytes) : Act Station (Option IoError) := do
  if ← Act.update fun station => (showsPrompt station, station) then showPrompt prompt
  else return none

def answer (prompt : Bytes) : Act Station EditorAnswer := do
  match ← prompted prompt with
  | some error => return .failed (.io error)
  | none =>
    Act.update fun station =>
      let (line, stream) := Stream.takeLine [] station.inputStream.answers
      (match line with
        | .ok line => Editor.answerTo line
        | .error error => .failed (.io error),
        station.advanceTo stream)

def readLine (prompt : Bytes) (input : EditedInput) : Act Station (Reading × EditedInput) := do
  let answer ← answer prompt
  let reading ← answer.reading
  let (reading, allowance) := reading.within input.allowance
  return (reading, ⟨allowance⟩)

instance : LineSource EditedInput Station where
  readLine := readLine
  remaining := allowance
  remaining_lt := by
    intro prompt input station line input' hvalue
    simp only [readLine, Act.run_bind, Act.run_pure, Prod.mk.injEq] at hvalue
    rw [← hvalue.2]
    exact allowance_of_within _ _ line hvalue.1

end EditedInput

end LineShell
