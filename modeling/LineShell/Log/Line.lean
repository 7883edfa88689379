import LineShell.Log.Entry
import LineShell.Text.Quoted
/-!
# Log entries in words

An entry has a message and fields, and is printed as one line: the time, the level right-aligned in
five columns, the message, and each field as a name and a value. On request the time is dimmed, the
level has a colour, and the names of fields are slanted.
-/

namespace LineShell.Log

inductive Value where
  | number (n : Int)
  /-- A text, which a line shows in quotes. -/
  | quoted (text : Bytes)
  /-- A text that a line shows as it is. -/
  | plain (text : Bytes)
  deriving DecidableEq, Repr

/-- The text of a value without quotes around it. -/
def Value.text : Value → Bytes
  | .number n => Bytes.ofInt n
  | .quoted text => text
  | .plain text => text

/-- The text of a value in a line. -/
def Value.inLine : Value → Bytes
  | .quoted text => Quoted.text text
  | value => value.text

structure Field where
  name : Bytes
  value : Value
  deriving DecidableEq, Repr

/-- How lines are printed: the time they show, and whether they are coloured. -/
structure Style where
  time : Bytes
  coloured : Bool
  deriving DecidableEq, Repr

namespace Style

/-- Text in a rendition that has a number. -/
def paint (style : Style) (rendition : Nat) (text : Bytes) : Bytes :=
  if style.coloured then
    [27, 91] ++ Bytes.ofNat rendition ++ [109] ++ text ++ [27, 91, 48, 109]
  else text

def dim : Nat := 2
def slanted : Nat := 3

def ofLevel : Level → Nat
  | .error => 31
  | .warn => 33
  | .info => 32
  | .debug => 34
  | .trace => 35

/-- A level, right-aligned. -/
def level (style : Style) (level : Level) : Bytes :=
  style.paint (ofLevel level) (List.replicate (5 - level.name.length) 32 ++ level.name)

/-- A field, behind a space. -/
def field (style : Style) (field : Field) : Bytes :=
  [32] ++ style.paint slanted field.name ++ style.paint dim [61] ++ field.value.inLine

end Style

namespace Entry

/-- The part of the shell an entry comes from. -/
def origin : Entry → Bytes
  | .lineTokenized _ => Bytes.ofString "lish::lexer"
  | .bufferGrown _ | .fragmentDiscarded _ | .lineInterrupted => Bytes.ofString "lish::reader"
  | .builtinReportFailed .. => Bytes.ofString "lish::builtin"
  | .launched .. | .processExited .. | .processKilled .. | .processUnfinished .. =>
    Bytes.ofString "lish::external"
  | .shellFinished _ => Bytes.ofString "lish"
  | _ => Bytes.ofString "lish::interpreter"

def message (entry : Entry) : Bytes :=
  Bytes.ofString <| match entry with
    | .lineTokenized _ => "tokenized line"
    | .bufferGrown _ => "buffer grown"
    | .fragmentDiscarded _ => "discarding unterminated line at end of input"
    | .lineInterrupted => "line interrupted"
    | .builtinRunning _ => "running builtin"
    | .commandFinished _ => "external command finished"
    | .endOfInput => "end of input"
    | .flushFailed _ => "could not flush output before launch"
    | .launchReportFailed .. => "could not report launch failure"
    | .builtinReportFailed .. => "could not report builtin failure"
    | .launched .. => "launched"
    | .processExited .. => "process exited"
    | .processKilled .. => "process killed by signal"
    | .processUnfinished .. => "process not finished yet"
    | .shellFinished _ => "shell finished"

private def field (name : String) (value : Value) : Field := ⟨Bytes.ofString name, value⟩

private def child (pid : Nat) : Field := field "child" (.plain (Bytes.ofNat pid))

/-- The details of an entry, in the order in which a line shows them. -/
def fields : Entry → List Field
  | .lineTokenized count => [field "count" (.number count)]
  | .bufferGrown capacity => [field "capacity" (.number capacity)]
  | .fragmentDiscarded length => [field "len" (.number length)]
  | .lineInterrupted => []
  | .builtinRunning builtin => [field "builtin" (.quoted builtin.name)]
  | .commandFinished completion => [field "completion" (.plain completion.text)]
  | .endOfInput => []
  | .flushFailed error => [field "error" (.plain error.text)]
  | .launchReportFailed error cause =>
    [field "error" (.plain error.text), field "original" (.plain cause.message)]
  | .builtinReportFailed error cause =>
    [field "error" (.plain error.text), field "original" (.plain cause.headline)]
  | .launched pid program => [child pid, field "program" (.plain (Quoted.bytes program))]
  | .processExited pid code => [child pid, field "code" (.number code)]
  | .processKilled pid signal => [child pid, field "signal" (.plain signal.name)]
  | .processUnfinished pid status => [child pid, field "status" (.plain (status.text pid))]
  | .shellFinished termination => [field "termination" (.plain termination.text)]

def line (style : Style) (entry : Entry) : Bytes :=
  style.paint Style.dim style.time ++ [32] ++ style.level entry.level ++ [32] ++ entry.message
    ++ entry.fields.flatMap style.field ++ [10]

end Entry

end LineShell.Log
