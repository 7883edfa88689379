import LineShell.Machine.Script.Token
/-!
# The grammar of scripts

Commands are read token by token. A script is read a line at a time, since it runs each line before
the next is looked at. A rule of the grammar is given a parser for the commands inside the one that
it reads. The parser of a depth is the rules over the parser of the depth below.
-/

namespace LineShell.Script.Grammar

/-- Gives up the script at a token that has no place. -/
private def unexpected {α : Type} (expected : Option Token) : Read α := do
  let found := (← get).last.shown ++ " unexpected"
  Reader.fail <| match expected with
    | none => found
    | some token => found ++ " (expecting " ++ token.shown ++ ")"

/-- The commands whose failure ends a script. Functions cannot have their names. -/
def specialNames : List Bytes :=
  [":", ".", "break", "continue", "eval", "exec", "exit", "export", "local", "readonly", "return",
    "set", "shift", "times", "trap", "unset"].map Bytes.ofString

inductive Place where
  /-- At the start of a line of the script, which ends it. -/
  | line
  /-- Within a command that needs one at least. -/
  | body
  /-- Where no command is needed. -/
  | optional
  deriving DecidableEq

inductive Goal where
  | list (place : Place)
  | command (checks : Token.Checks)

/-- A parser reads the command that is asked for. -/
abbrev Parser := Goal → Read Command

def Parser.inWords (parser : Parser) : Read Command := parser (.list .optional)

/-- The parser for the parts of a compound command. -/
def Parser.body (parser : Parser) : Read Command := parser (.list .body)

private def join (commands : List Command) : Command :=
  match commands with
  | [command] => command
  | commands => .sequence commands

/-- The text of a word without its quotes. -/
private def textOf (word : Word) : Bytes :=
  word.flatMap fun (part : Part) =>
    match part with
    | .text bytes _ => bytes
    | _ => []

private def await (indented : Bool) (mark : Word) : Read Nat := do
  let reader ← get
  let place := reader.documents.size
  let isQuoted : Part → Bool
    | .text _ quoted => quoted
    | _ => false
  let awaited : Awaited := ⟨place, textOf mark, indented, mark.any isQuoted⟩
  set { reader with
    documents := reader.documents.push [], awaited := reader.awaited ++ [awaited] }
  return place

/-- Reads what a redirection leads to, whose sign has been read. -/
private def redirection (parser : Parser) (sign : Token) : Read Redirection := do
  match sign with
  | .document descriptor indented =>
    match ← Token.readMark parser.inWords with
    | .word mark => return .document descriptor (← await indented mark)
    | _ => unexpected none
  | _ =>
    match ← Token.read parser.inWords .nothing, sign with
    | .word path, .file descriptor opening =>
      let standard := match opening with
        | .read | .readWrite => 0
        | _ => 1
      return .file (descriptor.getD standard) opening path
    | .word source, .duplicate descriptor => return .duplicate descriptor source
    | _, _ => unexpected none

private def isRedirection : Token → Bool
  | .file .. | .duplicate _ | .document .. => true
  | _ => false

private def redirections (parser : Parser) (found : List Redirection) : Nat →
    Read (List Redirection)
  | 0 => return found.reverse
  | steps + 1 => do
    let token ← Token.read parser.inWords .command
    if isRedirection token then
      let next ← redirection parser token
      redirections parser (next :: found) steps
    else
      Token.back
      return found.reverse

/-- What has been read of a simple command, the last of each first. -/
private structure Begun where
  assignments : List (Bytes × Word)
  words : List Word
  redirections : List Redirection

/-- Whether all that has been read is one word, so that parentheses make it the name of a
function. -/
private def Begun.name? (begun : Begun) : Option Word :=
  match begun with
  | ⟨[], [word], []⟩ => some word
  | _ => none

/-- Reads a simple command up to a token that is no part of it. -/
private def simple (parser : Parser) (begun : Begun) : Nat → Read Begun
  | 0 => return begun
  | steps + 1 => do
    let opening := begun.words.isEmpty
    match ← Token.read parser.inWords ⟨false, opening, false⟩ with
    | .word word =>
      match if opening then assignment? word else none with
      | some assignment =>
        simple parser { begun with assignments := assignment :: begun.assignments } steps
      | none => simple parser { begun with words := word :: begun.words } steps
    | token =>
      if isRedirection token then
        let next ← redirection parser token
        simple parser { begun with redirections := next :: begun.redirections } steps
      else return begun

private def words (parser : Parser) (found : List Word) : Nat → Read (List Word)
  | 0 => return found.reverse
  | steps + 1 => do
    match ← Token.read parser.inWords .nothing with
    | .word word => words parser (word :: found) steps
    | _ => return found.reverse

/-- A token as the word that it is written as. -/
private def wordOf : Token → Word
  | .word word => word
  | .keyword found => [.text (Bytes.ofString found.text) false]
  | _ => []

/-- Reads the patterns of an arm, of which the first is given. -/
private def patterns (parser : Parser) (found : List Word) : Nat → Token → Read (List Word)
  | 0, _ => return found.reverse
  | steps + 1, token => do
    let found := wordOf token :: found
    match ← Token.read parser.inWords .nothing with
    | .pipe => patterns parser found steps (← Token.read parser.inWords .nothing)
    | .right => return found.reverse
    | _ => unexpected (some .right)

/-- All positional parameters, each a word of its own. -/
private def allParameters : Word := [.parameter [64] .plain [] true]

private def isKeyword (keyword : Keyword) : Token → Bool
  | .keyword found => found == keyword
  | _ => false

/-- Reads further commands joined by pipes, and the last of those read first. -/
private def piped (command : Token.Checks → Read Command) (parser : Parser)
    (found : List Command) : Nat → Read Command
  | 0 => return .pipeline found.reverse
  | steps + 1 => do
    match ← Token.read parser.inWords .nothing, found with
    | .pipe, found => piped command parser ((← command .laterCommand) :: found) steps
    | _, [only] =>
      Token.back
      return only
    | _, found =>
      Token.back
      return .pipeline found.reverse

/-- A number that no text takes more steps than to be read. -/
private def bound : Read Nat := return (← Reader.left) + 2

/-- Reads the parts of a conditional behind its first word. -/
private def branches (parser : Parser) : Nat → Read Command
  | 0 => return .nothing
  | steps + 1 => do
    let test ← parser.body
    if !isKeyword .then (← Token.read parser.inWords .nothing) then
      unexpected (some (.keyword .then))
    let yes ← parser.body
    match ← Token.read parser.inWords .nothing with
    | .keyword .elif => return .conditional test yes (some (← branches parser steps))
    | .keyword .else => return .conditional test yes (some (← parser.body))
    | _ =>
      Token.back
      return .conditional test yes none

/-- Reads the test and the body of a loop. -/
private def loop (parser : Parser) (untilTrue : Bool) : Read Command := do
  let test ← parser.body
  if !isKeyword .do (← Token.read parser.inWords .nothing) then unexpected (some (.keyword .do))
  return .loop untilTrue test (← parser.body)

/-- Reads a loop over words behind its first word. -/
private def each (parser : Parser) (line : Nat) : Read Command := do
  match Token.plain? (← Token.read parser.inWords .nothing) with
  | none => Reader.fail "Bad for loop variable"
  | some name =>
    if !isName name then Reader.fail "Bad for loop variable"
    let values ←
      match ← Token.read parser.inWords .laterCommand with
      | .keyword .in =>
        let values ← words parser [] (← bound)
        match (← get).last with
        | .lineEnd | .semicolon => pure values
        | _ => unexpected none
      | .semicolon => pure [allParameters]
      | _ =>
        Token.back
        pure [allParameters]
    if !isKeyword .do (← Token.read parser.inWords .laterCommand) then
      unexpected (some (.keyword .do))
    return .each line name values (← parser.body)

/-- Reads the arms of a choice up to its end. -/
private def arms (parser : Parser) (found : List (List Word × Command)) : Nat →
    Read (List (List Word × Command))
  | 0 => return found.reverse
  | steps + 1 => do
    match ← Token.read parser.inWords ⟨true, false, true⟩ with
    | .keyword .esac => return found.reverse
    | token =>
      let first ← match token with
        | .left => Token.read parser.inWords .nothing
        | _ => pure token
      let fitting ← patterns parser [] (← bound) first
      let found := (fitting, ← parser.inWords) :: found
      match ← Token.read parser.inWords ⟨true, false, true⟩ with
      | .keyword .esac => return found.reverse
      | .armEnd => arms parser found steps
      | _ => unexpected (some .armEnd)

private def choice (parser : Parser) (line : Nat) : Read Command := do
  match ← Token.read parser.inWords .nothing with
  | .word subject =>
    if !isKeyword .in (← Token.read parser.inWords .laterCommand) then
      unexpected (some (.keyword .in))
    return .choice line subject (← arms parser [] (← bound))
  | _ => unexpected (some (.word []))

/-- Reads a simple command or the definition of a function. -/
private def simpleCommand (parser : Parser) (line : Nat) : Read Command := do
  let begun ← simple parser ⟨[], [], []⟩ (← bound)
  match (← get).last, begun.name? with
  | .left, some word =>
    match ← Token.read parser.inWords .nothing, word with
    | .right, [.text name false] =>
      if !isName name || specialNames.contains name then Reader.fail "Bad function name"
      return .define name (← parser (.command .laterCommand))
    | .right, _ => Reader.fail "Bad function name"
    | _, _ => unexpected (some .right)
  | _, _ =>
    Token.back
    return .simple line begun.assignments.reverse begun.words.reverse begun.redirections.reverse

/-- Reads the token that closes a compound command. -/
private def closing (parser : Parser) (token : Token) (found : Command) : Read Command := do
  let same := match ← Token.read parser.inWords .nothing, token with
    | .right, .right => true
    | .keyword a, .keyword b => a == b
    | _, _ => false
  if same then return found else unexpected (some token)

private def redirected (parser : Parser) (line : Nat) (found : Command) : Read Command := do
  match ← redirections parser [] (← bound), found with
  | [], found => return found
  | more, .subshell line body _ => return .subshell line body more
  | more, found => return .redirected line found more

private def command (parser : Parser) (checks : Token.Checks) : Read Command := do
  let line := (← get).line
  let compound (close : Keyword) (found : Command) : Read Command := do
    redirected parser line (← closing parser (.keyword close) found)
  match ← Token.read parser.inWords checks with
  | .left =>
    let found ← parser.body
    redirected parser line (← closing parser .right (.subshell line found []))
  | .keyword .begin => compound .end (← parser.body)
  | .keyword .if => compound .fi (← branches parser (← bound))
  | .keyword .while => compound .done (← loop parser false)
  | .keyword .until => compound .done (← loop parser true)
  | .keyword .for => compound .done (← each parser line)
  | .keyword .case => redirected parser line (← choice parser line)
  | .word _ | .file .. | .duplicate _ | .document .. =>
    Token.back
    simpleCommand parser line
  | _ => unexpected none

private def pipeline (parser : Parser) (checks : Token.Checks) : Read Command := do
  if isKeyword .not (← Token.read parser.inWords checks) then
    return .negation (← piped (command parser) parser [← command parser .command] (← bound))
  else
    Token.back
    piped (command parser) parser [← command parser .nothing] (← bound)

private def conjoined (parser : Parser) (first : Command) : Nat → Read Command
  | 0 => return first
  | steps + 1 => do
    match ← Token.read parser.inWords .nothing with
    | .and => conjoined parser (.both first (← pipeline parser .laterCommand)) steps
    | .or => conjoined parser (.either first (← pipeline parser .laterCommand)) steps
    | _ =>
      Token.back
      return first

/-- Reads commands up to a token that ends a list. There may be none in front of the end of the
script. -/
private def list (parser : Parser) (place : Place) (found : List Command) : Nat →
    Read (Option Command)
  | 0 => return some (join found.reverse)
  | steps + 1 => do
    let isLine := place == .line
    let finished : Option Command := if found.isEmpty then none else some (join found.reverse)
    let token ← Token.read parser.inWords ⟨true, true, !isLine⟩
    match token with
    | .lineEnd =>
      Token.readDocuments parser.inWords
      return some (join found.reverse)
    | .scriptEnd =>
      Token.readDocuments parser.inWords
      Token.back
      return finished
    | _ =>
      Token.back
      if (place == .optional || !found.isEmpty) && token.endsList && !isLine then return finished
      let command ← conjoined parser (← pipeline parser .nothing) (← bound)
      match ← Token.read parser.inWords .nothing with
      | .ampersand => list parser place (.background command :: found) steps
      | .semicolon => list parser place (command :: found) steps
      | .lineEnd =>
        Token.back
        list parser place (command :: found) steps
      | .scriptEnd =>
        Token.readDocuments parser.inWords
        Token.back
        return some (join (command :: found).reverse)
      | _ =>
        if isLine then unexpected none
        Token.back
        return some (join (command :: found).reverse)

/-- The rules, given a parser for the commands inside. -/
private def rules (parser : Parser) : Parser
  | .list place => do return (← list parser place [] (← bound)).getD .nothing
  | .command checks => command parser checks

def parse : Nat → Parser
  | 0 => fun _ => Reader.fail "commands are nested too deeply"
  | depth + 1 => rules (parse depth)

def depthLimit : Nat := 1000

/-- The commands of the next line, or nothing at the end of the script, and what is left. -/
def nextLine (reader : Reader) : Except Fault (Option Command × Reader) :=
  (do list (parse depthLimit) .line [] (← bound)).run { reader with again := false }

/-- The word that a text is between double quotes. -/
def quotedWord (reader : Reader) : Except Fault Word :=
  let purpose := Word.Purpose.document [0] false
  (Word.read (parse depthLimit).inWords purpose .double).run' reader |>.map Word.Scan.parts

end LineShell.Script.Grammar
