import LineShell.Machine.Script.Command
/-!
# Reading a script

A script is read byte by byte. A backslash in front of a line end joins the lines, wherever nothing
else is said. The text of an alias is read in the place of its name, and while that lasts the alias
is not used again. Texts within the script, which start on the line after the one that asks for
them, are read when that line ends.
-/

namespace LineShell.Script

/-- A script that breaks the rules: the line, and what was wrong there. -/
structure Fault where
  line : Nat
  reason : Bytes

/-- An alias whose text is being read in the place of its name. -/
structure Substituted where
  name : Bytes
  /-- How much is left of the script when the text has been read. -/
  rest : Nat
  /-- Whether the word behind it can be an alias as well. -/
  opensNext : Bool

/-- A text within a script that has been asked for and not been reached. -/
structure Awaited where
  /-- Its place among all such texts. -/
  place : Nat
  /-- The line that ends it. -/
  mark : Bytes
  /-- Whether tabs at the start of a line are left out. -/
  indented : Bool
  /-- Whether nothing in it is expanded. -/
  plain : Bool

/-- The words of the language that are no names of commands where a command starts. -/
inductive Keyword where
  | not | case | do | done | elif | else | esac | fi | for | if | in | then | until | while | begin
  | end
  deriving DecidableEq

inductive Token where
  | scriptEnd
  | lineEnd
  | semicolon
  | ampersand
  | and
  | or
  | pipe
  | left
  | right
  | armEnd
  | word (word : Word)
  | keyword (keyword : Keyword)
  /-- The sign of a redirection that opens a file. -/
  | file (descriptor : Option Nat) (opening : Opening)
  /-- The sign of a redirection to what another number refers to. -/
  | duplicate (descriptor : Nat)
  /-- The sign of a redirection to a text within the script. -/
  | document (descriptor : Nat) (indented : Bool)

structure Reader where
  /-- The text that has not been read. -/
  text : Bytes
  /-- A number of bytes that the text does not exceed. -/
  bound : Nat
  line : Nat
  aliases : List (Bytes × Bytes)
  /-- The aliases whose texts are being read. -/
  substituted : List Substituted
  awaited : List Awaited
  /-- The texts within the script that have been read or asked for. -/
  documents : Array Word
  /-- The last token. -/
  last : Token
  /-- Whether the last token is to be read once more. -/
  again : Bool

abbrev Read (α : Type) := StateT Reader (Except Fault) α

namespace Reader

/-- The reader of a text from a line on. -/
def ofText (text : Bytes) (line : Nat) (aliases : List (Bytes × Bytes)) (documents : Array Word) :
    Reader :=
  { text, bound := text.length, line, aliases, substituted := [], awaited := [], documents,
    last := .scriptEnd, again := false }

def fail {α : Type} (reason : String) : Read α := do
  throw ⟨(← get).line, Bytes.ofString reason⟩

def next : Read (Option UInt8) := do
  let reader ← get
  match reader.text with
  | [] => return none
  | byte :: text =>
    set { reader with text }
    return some byte

def unread (byte : Option UInt8) : Read Unit :=
  match byte with
  | none => return
  | some byte => modify fun reader => { reader with text := byte :: reader.text }

def countLine : Read Unit :=
  modify fun reader => { reader with line := reader.line + 1 }

/-- A text without the joints of lines at its start, and how many there were. -/
private def pastJoints (count : Nat) : Bytes → Nat × Bytes
  | 92 :: 10 :: rest => pastJoints (count + 1) rest
  | text => (count, text)

/-- Passes the joints of lines that come next. -/
def passJoints : Read Unit :=
  modify fun reader =>
    let (count, text) := pastJoints 0 reader.text
    { reader with text, line := reader.line + count }

/-- The next byte behind joints of lines. -/
def nextJoined : Read (Option UInt8) := do
  passJoints
  next

/-- A number of bytes that what is left of the script does not exceed. -/
def left : Read Nat := return (← get).bound

end Reader

namespace Keyword

/-- The keywords as they are written, in the order of their names. -/
def all : List (Keyword × String) :=
  [(.not, "!"), (.case, "case"), (.do, "do"), (.done, "done"), (.elif, "elif"), (.else, "else"),
    (.esac, "esac"), (.fi, "fi"), (.for, "for"), (.if, "if"), (.in, "in"), (.then, "then"),
    (.until, "until"), (.while, "while"), (.begin, "\x7b"), (.end, "\x7d")]

def text (keyword : Keyword) : String :=
  (all.lookup keyword).getD ""

def ofText? (text : Bytes) : Option Keyword :=
  (all.find? fun entry => Bytes.ofString entry.2 == text).map Prod.fst

end Keyword

namespace Token

private def quoted (text : String) : String := "\"" ++ text ++ "\""

/-- How a token is named in a message. -/
def shown : Token → String
  | .scriptEnd => "end of file"
  | .lineEnd => "newline"
  | .semicolon => quoted ";"
  | .ampersand => quoted "&"
  | .and => quoted "&&"
  | .or => quoted "||"
  | .pipe => quoted "|"
  | .left => quoted "("
  | .right => quoted ")"
  | .armEnd => quoted ";;"
  | .word _ => "word"
  | .keyword found => quoted found.text
  | .file .. | .duplicate _ | .document .. => "redirection"

/-- Whether a list of commands ends in front of a token. -/
def endsList : Token → Bool
  | .scriptEnd | .right | .armEnd => true
  | .keyword found => [.do, .done, .elif, .else, .esac, .fi, .then, .end].contains found
  | _ => false

end Token

end LineShell.Script
