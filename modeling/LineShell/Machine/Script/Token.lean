import LineShell.Machine.Script.Word
/-!
# Tokens of a script

A script is cut into words, signs and line ends. What a word can be besides a word depends on where
it stands: a keyword, or the name of an alias, whose text is then read instead.
-/

namespace LineShell.Script.Token

/-- What is looked for besides words and signs. -/
structure Checks where
  keywords : Bool
  aliases : Bool
  /-- Whether line ends are passed over. -/
  passing : Bool

def Checks.nothing : Checks := ⟨false, false, false⟩

/-- What is looked for where a command starts. -/
def Checks.command : Checks := ⟨true, true, false⟩

/-- What is looked for where a command starts, perhaps on a later line. -/
def Checks.laterCommand : Checks := ⟨true, true, true⟩

private def skipComment : Read Unit :=
  modify fun reader => { reader with text := reader.text.dropWhile (· != 10) }

/-- One of two tokens: the first if a byte follows, which then belongs to it. -/
private def ifNext (byte : UInt8) (yes no : Token) : Read Token := do
  let next ← Reader.nextJoined
  if next = some byte then return yes
  else
    Reader.unread next
    return no

/-- The sign of a redirection, whose first byte and number have been read. -/
private def redirection (output : Bool) (descriptor : Option Nat) : Read Token := do
  let next ← Reader.nextJoined
  if output then
    match next with
    | some 62 => return .file descriptor .append
    | some 124 => return .file descriptor .overwrite
    | some 38 => return .duplicate (descriptor.getD 1)
    | _ =>
      Reader.unread next
      return .file descriptor .write
  else
    match next with
    | some 60 => ifNext 45 (.document (descriptor.getD 0) true) (.document (descriptor.getD 0) false)
    | some 38 => return .duplicate (descriptor.getD 0)
    | some 62 => return .file descriptor .readWrite
    | _ =>
      Reader.unread next
      return .file descriptor .read

/-- Reads a word, or a redirection if the word is nothing but the number in front of its sign. -/
private def wordOrRedirection (list : Read Command) (purpose : Word.Purpose) : Read Token := do
  let scan ← Word.read list purpose .none
  let number : Option (Option Nat) := match scan.parts with
    | [] => if scan.quoted then none else some none
    | [.text [digit] false] =>
      if isDigit digit then some (some (digit.toNat - 48)) else none
    | _ => none
  match number, (← get).text with
  | some descriptor, 60 :: _ =>
    let _ ← Reader.next
    redirection false descriptor
  | some descriptor, 62 :: _ =>
    let _ ← Reader.next
    redirection true descriptor
  | _, _ => return .word (if scan.parts.isEmpty then [.text [] false] else scan.parts)

/-- Reads a token, whatever stands in front of it. -/
private def fresh (list : Read Command) (purpose : Word.Purpose) : Nat → Read Token
  | 0 => return .scriptEnd
  | steps + 1 => do
    match ← Reader.nextJoined with
    | none => return .scriptEnd
    | some 32 | some 9 => fresh list purpose steps
    | some 35 =>
      skipComment
      fresh list purpose steps
    | some 10 =>
      Reader.countLine
      return .lineEnd
    | some 38 => ifNext 38 .and .ampersand
    | some 124 => ifNext 124 .or .pipe
    | some 59 => ifNext 59 .armEnd .semicolon
    | some 40 => return .left
    | some 41 => return .right
    | some byte =>
      Reader.unread byte
      wordOrRedirection list purpose

/-- Reads one of the texts within the script that have been asked for. -/
private def readDocument (list : Read Command) (awaited : Awaited) : Read Unit := do
  let purpose := Word.Purpose.document awaited.mark awaited.indented
  let scan ← Word.read list purpose (if awaited.plain then .single else .double)
  modify fun reader => { reader with
    documents := reader.documents.setIfInBounds awaited.place scan.parts }

/-- Reads the texts within the script that have been asked for. -/
def readDocuments (list : Read Command) : Read Unit := do
  let awaited := (← get).awaited
  modify fun reader => { reader with awaited := [] }
  awaited.forM (readDocument list)

/-- The next token, line ends passed over if they are to be. -/
private def passing (list : Read Command) (pass : Bool) (purpose : Word.Purpose) : Nat → Read Token
  | 0 => return .scriptEnd
  | steps + 1 => do
    let reader ← get
    let token ← if reader.again then
        set { reader with again := false }
        pure reader.last
      else fresh list purpose (reader.bound + 1)
    match token with
    | .lineEnd =>
      if pass then
        readDocuments list
        passing list pass purpose steps
      else return token
    | _ => return token

/-- The text that a word is, if nothing in it is quoted or expanded. -/
def plain? : Token → Option Bytes
  | .word [.text bytes false] => some bytes
  | _ => none

/-- Takes the aliases out of use whose texts have been read, and tells if the word behind one of
them can be an alias too. -/
private def settle : Read Bool := do
  let reader ← get
  if reader.substituted.isEmpty then return false
  else
    let left := reader.text.length
    let (ended, active) := reader.substituted.partition fun entry => left < entry.rest
    set { reader with substituted := active }
    return ended.any Substituted.opensNext

private def endsBlank (text : Bytes) : Bool :=
  text.getLast? == some 32 || text.getLast? == some 9

/-- Lets the text of an alias be read in the place of its name, if a text is that of an alias that
is not in use. -/
private def substitute (name : Bytes) : Read Bool := do
  let reader ← get
  if reader.substituted.any fun entry => entry.name == name then return false
  else match reader.aliases.lookup name with
    | none => return false
    | some text =>
      let entry : Substituted := ⟨name, reader.text.length, endsBlank text⟩
      set { reader with
        text := text ++ reader.text
        bound := text.length + reader.bound
        substituted := if text.isEmpty then reader.substituted else entry :: reader.substituted }
      return true

private def readUpTo (list : Read Command) (purpose : Word.Purpose) : Nat → Checks → Read Token
  | 0, _ => return .scriptEnd
  | steps + 1, checks => do
    let token ← passing list checks.passing purpose ((← Reader.left) + 2)
    let opened ← settle
    let checks := { checks with aliases := checks.aliases || opened }
    match plain? token with
    | none => return token
    | some text =>
      match if checks.keywords then Keyword.ofText? text else none with
      | some found => return .keyword found
      | none =>
        if checks.aliases then
          if ← substitute text then readUpTo list purpose steps checks else return token
        else return token

/-- How many aliases can stand for each other in one place. -/
def aliasLimit : Nat := 1000

/-- Reads a token, with the help of a way to read the commands inside words. -/
def read (list : Read Command) (checks : Checks) : Read Token := do
  let token ← readUpTo list .word aliasLimit checks
  modify fun reader => { reader with last := token }
  return token

/-- Reads the word that is the mark of a text within the script. -/
def readMark (list : Read Command) : Read Token := do
  let token ← readUpTo list .mark aliasLimit .nothing
  modify fun reader => { reader with last := token }
  return token

/-- Lets the last token be read once more. -/
def back : Read Unit :=
  modify fun reader => { reader with again := true }

end LineShell.Script.Token
