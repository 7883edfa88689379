import LineShell.Machine.Script.Reader
/-!
# Reading words

A word is read byte by byte. Quotes, parameters in braces and arithmetic can stand inside each
other, so the reading keeps levels of quoting, and the parts of the word that have been opened and
not been closed. The texts within a script are read in the same way.
-/

namespace LineShell.Script.Word

inductive Quoting where
  | none
  | single
  | double
  | arithmetic
  deriving DecidableEq

/-- A level of quoting. Braces that leave the quoting as it is do not make a level of their own. -/
structure Level where
  quoting : Quoting
  /-- Whether parameters are quoted here. -/
  doubled : Bool
  /-- Whether quotes are open within braces. -/
  inner : Bool
  /-- How many braces are open. -/
  braces : Nat
  /-- How many of them were opened between quotes. -/
  doubledBraces : Nat
  /-- Whether the level was made for a brace and ends with it. -/
  forBrace : Bool
  parentheses : Nat

/-- The level of some quoting, in which nothing is open. -/
def Level.start (quoting : Quoting) : Level :=
  { quoting, doubled := quoting == .double || quoting == .arithmetic, inner := false, braces := 0,
    doubledBraces := 0, forBrace := false, parentheses := 0 }

/-- Something that has been opened: what is made of its parts, and the parts so far, the last one
first. -/
structure Opened where
  close : List Part → Part
  parts : List Part
  /-- The bytes of the part being read, the last one first. -/
  bytes : Bytes
  quoted : Bool

inductive Between where
  | nothing
  /-- The positional parameters, each for itself. -/
  | parameters
  | other
  deriving DecidableEq

/-- Where the reading of a word stands. -/
structure Scan where
  level : Level
  outer : List Level
  opened : Opened
  around : List Opened
  /-- Whether there were quotes. -/
  quoted : Bool
  /-- What stands between the quotes that were opened last. -/
  between : Between

namespace Scan

/-- The start of a word in some quoting. -/
def start (quoting : Quoting) : Scan :=
  { level := .start quoting, outer := [], opened := ⟨fun _ => .text [] false, [], [], false⟩,
    around := [], quoted := false, between := .other }

private def flush (opened : Opened) : Opened :=
  if opened.bytes.isEmpty then opened
  else { opened with
    parts := .text opened.bytes.reverse opened.quoted :: opened.parts, bytes := [] }

/-- Whether a byte that is read now is quoted. -/
def quotes (scan : Scan) : Bool :=
  scan.level.doubled || scan.level.quoting == .single

def putAs (quoted : Bool) (byte : UInt8) (scan : Scan) : Scan :=
  let opened := if scan.opened.quoted == quoted then scan.opened
    else { flush scan.opened with quoted }
  { scan with opened := { opened with bytes := byte :: opened.bytes }, between := .other }

/-- Adds a byte that is quoted as the level asks for. -/
def put (byte : UInt8) (scan : Scan) : Scan :=
  scan.putAs scan.quotes byte

def add (part : Part) (scan : Scan) : Scan :=
  let opened := flush scan.opened
  let between := match scan.between, part with
    | .nothing, .parameter [64] .plain _ _ => Between.parameters
    | _, _ => .other
  { scan with opened := { opened with parts := part :: opened.parts }, between }

def push (close : List Part → Part) (scan : Scan) : Scan :=
  { scan with
    opened := ⟨close, [], [], false⟩
    around := scan.opened :: scan.around
    between := .other }

def pop (scan : Scan) : Scan :=
  match scan.around with
  | [] => scan
  | opened :: around =>
    let inner := flush scan.opened
    { scan with opened, around }.add (inner.close inner.parts.reverse)

def enter (level : Level) (scan : Scan) : Scan :=
  { scan with level, outer := scan.level :: scan.outer }

def leave (scan : Scan) : Scan :=
  match scan.outer with
  | [] => scan
  | level :: outer => { scan with level, outer }

def parts (scan : Scan) : Word :=
  (flush scan.opened).parts.reverse

def toggle (scan : Scan) : Scan :=
  if scan.level.braces = 0 then scan
  else { scan with level := { scan.level with inner := !scan.level.inner } }

end Scan

inductive Purpose where
  | word
  /-- The mark that ends a text within the script. Nothing in it is expanded. -/
  | mark
  | document (mark : Bytes) (indented : Bool)
  deriving DecidableEq

def Purpose.isDocument : Purpose → Bool
  | .document .. => true
  | _ => false

/-- The parameters with a sign for a name. -/
private def isSign (byte : UInt8) : Bool :=
  isDigit byte || (Bytes.ofString "#?$!-*@").contains byte

/-- The bytes that continue a name, and the byte behind them. -/
private def nameFrom (continues : UInt8 → Bool) (name : Bytes) : Nat → UInt8 →
    Read (Bytes × Option UInt8)
  | 0, _ => return (name, none)
  | steps + 1, byte => do
    let name := name ++ [byte]
    match ← Reader.nextJoined with
    | none => return (name, none)
    | some byte =>
      if continues byte then nameFrom continues name steps byte else return (name, some byte)

/-- The name of a parameter that starts with a byte, and the byte behind it. The name is missing if
it cannot be one. -/
private def nameAt (severalDigits : Bool) (byte : Option UInt8) :
    Read (Option Bytes × Option UInt8) := do
  match byte with
  | none => return (none, none)
  | some byte =>
    let steps := (← Reader.left) + 1
    if startsName byte then
      let (name, after) ← nameFrom continuesName [] steps byte
      return (some name, after)
    else if isDigit byte then
      let (name, after) ← nameFrom (fun byte => severalDigits && isDigit byte) [] steps byte
      return (some name, after)
    else if byte = 125 then return (none, some byte)
    else
      let after ← Reader.nextJoined
      return (if isSign byte then some [byte] else none, after)

/-- The operation that stands behind the name of a parameter in braces, whose first byte is given,
and whether the brace ends with it. -/
private def operationAt (byte : Option UInt8) : Read (Operation × Bool) := do
  let isColon := byte == some 58
  let sign ← if isColon then Reader.nextJoined else pure byte
  match sign with
  | some 125 => return (.plain, !isColon)
  | some 45 => return (.otherwise isColon, false)
  | some 61 => return (.assign isColon, false)
  | some 63 => return (.require isColon, false)
  | some 43 => return (.instead isColon, false)
  | some sign =>
    if !isColon && (sign = 37 || sign = 35) then
      let again ← Reader.nextJoined
      if again = some sign then return (.trim (sign == 37) true, false)
      else
        Reader.unread again
        return (.trim (sign == 37) false, false)
    else return (.unknown, false)
  | none => return (.unknown, false)

/-- The name and the operation of a parameter, whose opening brace has been read, and whether the
closing one has been read too. -/
private def bracedAt : Read (Bytes × Operation × Bool) := do
  let first ← Reader.nextJoined
  let named (name : Option Bytes) (after : Option UInt8) : Read (Bytes × Operation × Bool) := do
    match name with
    | none =>
      Reader.unread after
      return ([], .unknown, false)
    | some name =>
      let (operation, closed) ← operationAt after
      return (name, operation, closed)
  let measured (name : Option Bytes) (after : Option UInt8) : Read (Bytes × Operation × Bool) := do
    Reader.unread after
    return (name.getD [], if name.isSome && after = some 125 then .length else .unknown, false)
  if first = some 35 then
    match ← Reader.nextJoined with
    | none => named (some [35]) none
    | some second =>
      if continuesName second then
        let (name, after) ← nameAt true (some second)
        measured name after
      else
        let third ← Reader.nextJoined
        if second = 125 || third != some 125 then
          Reader.unread third
          named (some [35]) (some second)
        else measured (if isSign second then some [second] else none) third
  else
    let (name, after) ← nameAt true first
    named name after

/-- Opens the braces of a parameter. A pattern in them is read as if there were no quotes
outside. -/
private def openBraces (scan : Scan) (name : Bytes) (operation : Operation) : Scan :=
  let quoted := scan.level.doubled
  let quoting := match operation with
    | .trim .. => Quoting.none
    | _ => if scan.level.quoting = .arithmetic then .double else scan.level.quoting
  let scan := if quoting ≠ scan.level.quoting || scan.level.inner then
      scan.enter { Level.start quoting with forBrace := true }
    else scan
  let level := { scan.level with
    braces := scan.level.braces + 1
    doubledBraces := scan.level.doubledBraces + (if scan.level.doubled then 1 else 0) }
  { scan with level }.push fun argument => .parameter name operation argument quoted

/-- Reads a script up to the back quote that closes it. -/
private def toBackQuote (doubled : Bool) (read : Bytes) : Nat → Read Bytes
  | 0 => Reader.fail "EOF in backquote substitution"
  | steps + 1 => do
    match ← Reader.nextJoined with
    | none => Reader.fail "EOF in backquote substitution"
    | some 96 => return read.reverse
    | some 92 =>
      match ← Reader.next with
      | none => Reader.fail "EOF in backquote substitution"
      | some byte =>
        let kept := byte = 92 || byte = 96 || byte = 36 || (doubled && byte = 34)
        toBackQuote doubled (if kept then byte :: read else byte :: 92 :: read) steps
    | some byte =>
      if byte = 10 then Reader.countLine
      toBackQuote doubled (byte :: read) steps

/-- Reads a script between back quotes, whose lines count from one. -/
private def betweenBackQuotes (list : Read Command) (doubled : Bool) : Read Command := do
  let source ← toBackQuote doubled [] ((← Reader.left) + 1)
  let reader ← get
  match list.run { reader with
      text := source, bound := source.length, line := 1, substituted := [], awaited := [], again := false } with
  | .error fault => throw fault
  | .ok (command, inner) =>
    set { reader with documents := inner.documents }
    return command

private def betweenParentheses (list : Read Command) : Read Command := do
  let awaited := (← get).awaited
  modify fun reader => { reader with awaited := [] }
  let command ← list
  match (← get).last with
  | .right =>
    modify fun reader => { reader with awaited, again := false }
    return command
  | other => Reader.fail (other.shown ++ " unexpected (expecting \")\")")

private def afterDollar (list : Read Command) (scan : Scan) : Read Scan := do
  let byte ← Reader.nextJoined
  match byte with
  | some 40 =>
    let second ← Reader.nextJoined
    if second = some 40 then
      let quoted := scan.level.doubled
      return (scan.enter (.start .arithmetic)).push fun source => .arithmetic source quoted
    else
      Reader.unread second
      let command ← betweenParentheses list
      return scan.add (.output command scan.level.doubled)
  | some 123 =>
    let (name, operation, closed) ← bracedAt
    if closed then return scan.add (.parameter name operation [] scan.level.doubled)
    else return openBraces scan name operation
  | some found =>
    if startsName found || isSign found then
      let (name, after) ← nameAt false byte
      Reader.unread after
      return scan.add (.parameter (name.getD []) .plain [] scan.level.doubled)
    else
      Reader.unread byte
      return scan.put 36
  | none => return scan.put 36

private def afterBackslash (purpose : Purpose) (scan : Scan) : Read Scan := do
  match ← Reader.next with
  | none => return scan.putAs true 92
  | some byte =>
    let scan := { scan with quoted := true }
    if byte = 10 then Reader.countLine
    let braces := scan.level.braces != 0
    let kept := byte = 92 || byte = 96 || byte = 36 ||
      (byte = 34 && (!purpose.isDocument || braces)) || (byte = 125 && braces)
    return (if scan.level.doubled && !kept then scan.putAs true 92 else scan).putAs true byte

/-- Goes on behind a quote that closes quotes. What stands between quotes makes a field, though
nothing may be left of it, unless it is the positional parameters. -/
private def closeQuotes (purpose : Purpose) (byte : UInt8) (scan : Scan) : Scan :=
  if purpose.isDocument && scan.level.braces = 0 then scan.put byte
  else
    let scan := if scan.between = .parameters then scan else scan.add (.text [] true)
    let scan := if scan.level.doubledBraces = 0 then
        { scan with level := { scan.level with quoting := .none, doubled := false } }
      else scan
    let scan := { scan with quoted := true }
    if byte = 34 then scan.toggle else scan

private def closeBrace (scan : Scan) : Scan :=
  let level := scan.level
  if level.inner || level.braces = 0 then scan.put 125
  else
    let scan := { scan with level := { level with braces := level.braces - 1 } }
    let scan := if level.braces = 1 && level.forBrace then scan.leave
      else { scan with level := { scan.level with doubledBraces := level.doubledBraces - 1 } }
    scan.pop

/-- Goes on behind a closing parenthesis in arithmetic. -/
private def closeParenthesis (scan : Scan) : Read Scan := do
  let level := scan.level
  if level.parentheses ≠ 0 then
    return { scan with level := { level with parentheses := level.parentheses - 1 } }.put 41
  else
    let second ← Reader.nextJoined
    if second = some 41 then return scan.leave.pop
    else
      Reader.unread second
      return scan.put 41

private def endsWord (byte : UInt8) : Bool :=
  (Bytes.ofString "<>();&| \t").contains byte

/-- Goes on behind a byte, or not if the word ends in front of it. -/
private def step (list : Read Command) (purpose : Purpose) (scan : Scan) (byte : UInt8) :
    Read (Option Scan) := do
  let quoting := scan.level.quoting
  if byte = 10 then
    if quoting = .none && scan.level.braces = 0 then return none
    Reader.countLine
    return scan.put byte
  else if quoting = .single then
    return some (if byte = 39 then closeQuotes purpose byte scan else scan.put byte)
  else if byte = 92 then return some (← afterBackslash purpose scan)
  else if byte = 36 && purpose != .mark then return some (← afterDollar list scan)
  else if byte = 96 then
    if purpose = .mark then return some ({ scan with quoted := true }.put byte)
    let command ← betweenBackQuotes list scan.level.doubled
    return scan.add (.output command scan.level.doubled)
  else if byte = 125 then return some (closeBrace scan)
  else
    match quoting with
    | .none =>
      if byte = 39 then
        return some { scan with level := { scan.level with quoting := .single }, between := .nothing }
      else if byte = 34 then
        return some { scan with
          level := { scan.level with quoting := .double, doubled := true }, between := .nothing }.toggle
      else if endsWord byte && scan.level.braces = 0 then return none
      else return scan.put byte
    | .double => return some (if byte = 34 then closeQuotes purpose byte scan else scan.put byte)
    | .arithmetic =>
      if byte = 40 then
        let level := { scan.level with parentheses := scan.level.parentheses + 1 }
        return some ({ scan with level }.put byte)
      else if byte = 41 then return some (← closeParenthesis scan)
      else return scan.put byte
    | .single => return scan.put byte

/-- Whether a text within the script ends here. If it does, the line that ends it is passed, and if
not, the tabs that are left out are. -/
private def documentEnds (mark : Bytes) (indented : Bool) : Read Bool := do
  let reader ← get
  let text := if indented then reader.text.dropWhile (· == 9) else reader.text
  let rest := text.drop mark.length
  if mark.isPrefixOf text && (rest.isEmpty || rest.head? == some 10) then
    set { reader with text := rest.tail, line := reader.line + min 1 rest.length }
    return true
  else
    set { reader with text }
    return false

/-- Reads on, at the start of a line or not. Lines of a text within the script are joined before it is
seen whether the text ends, but not behind tabs that are left out. -/
private def scanFrom (list : Read Command) (purpose : Purpose) : Nat → Bool → Scan → Read Scan
  | 0, _, scan => return scan
  | steps + 1, lineStart, scan => do
    let joins := scan.level.quoting != .single
    let opens := lineStart && purpose.isDocument
    if opens && joins then Reader.passJoints
    if opens then
      if let .document mark indented := purpose then
        if ← documentEnds mark indented then return scan
    let byte ← if joins && !opens then Reader.nextJoined else Reader.next
    match byte with
    | none => return scan
    | some found =>
      match ← step list purpose scan found with
      | some scan => scanFrom list purpose steps (found == 10) scan
      | none =>
        Reader.unread byte
        return scan

/-- Checks that everything is closed at the end of a word. -/
private def checkClosed (purpose : Purpose) (scan : Scan) : Read Unit := do
  if scan.level.quoting = .arithmetic then Reader.fail "Missing '))'"
  if scan.level.quoting != .none && !purpose.isDocument then
    Reader.fail "Unterminated quoted string"
  if scan.level.braces ≠ 0 then Reader.fail "Missing '\x7d'"

/-- Reads a word, with the help of a way to read the commands inside it. -/
def read (list : Read Command) (purpose : Purpose) (quoting : Quoting) : Read Scan := do
  let steps := 2 * (← Reader.left) + 2
  let scan ← scanFrom list purpose steps purpose.isDocument (.start quoting)
  checkClosed purpose scan
  return scan

end LineShell.Script.Word
