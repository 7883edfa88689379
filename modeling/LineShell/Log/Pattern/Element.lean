import LineShell.Text.Alphanumeric
/-!
# Elements of expressions

A character, an escape, and the modes in which both are read. Nothing is known here about letter
cases, nor about digits, blanks and word characters beyond ASCII, so an expression that depends on
them is not accepted: in the usual mode no escape stands for a set of characters, and no character
can be read in both its cases.
-/

namespace LineShell.Log.Pattern

/-- How the characters of an expression are read. -/
structure Modes where
  /-- Whether blanks and comments are left out. -/
  extended : Bool
  /-- Whether a character is one of all scripts, and not a single byte. -/
  unicode : Bool
  /-- Whether a letter stands for both its cases. -/
  foldsCase : Bool

/-- The modes at the start of an expression. -/
def Modes.usual : Modes := ⟨false, true, false⟩

/-- What a character or an escape asks for. -/
inductive Element where
  | one (character : Char)
  | set
  | place
  | wordEdge

/-- Whether a character can stand for itself. -/
def Modes.admitsLiteral (modes : Modes) : Bool := !(modes.unicode && modes.foldsCase)

/-- Whether a character can be a member of a class. One byte is needed for it where characters are
bytes. -/
def Modes.admitsMember (modes : Modes) (character : Char) : Bool :=
  if modes.unicode then !modes.foldsCase else character.toNat < 128

def isBlank (c : Char) : Bool := Text.blank.holds c.toNat

/-- The text after blanks and comments, where these are left out. -/
private def afterGap (modes : Modes) (comment : Bool) : List Char → List Char
  | [] => []
  | c :: rest =>
    if comment then afterGap modes (c != '\n') rest
    else if modes.extended && isBlank c then afterGap modes false rest
    else if modes.extended && c == '#' then afterGap modes true rest
    else c :: rest

/-- The text from the next character on that is not left out. -/
def Modes.skip (modes : Modes) : List Char → List Char := afterGap modes false

private def hexDigit? (c : Char) : Option Nat :=
  if c.isDigit then some (c.toNat - 48)
  else if 'a' ≤ c ∧ c ≤ 'f' then some (c.toNat - 87)
  else if 'A' ≤ c ∧ c ≤ 'F' then some (c.toNat - 55)
  else none

/-- The number in a given count of hexadecimal digits. -/
private def hex (modes : Modes) : Nat → Nat → List Char → Option (Nat × List Char)
  | 0, total, text => some (total, text)
  | count + 1, total, text =>
    match modes.skip text with
    | [] => none
    | c :: rest => do hex modes count (total * 16 + (← hexDigit? c)) rest

/-- A character by its number in hexadecimal. A number of two digits is a byte where characters
are bytes, and only an ASCII byte is a character by itself. -/
private def byNumber (modes : Modes) (count : Nat) (text : List Char) :
    Option (Element × List Char) := do
  let (code, rest) ← hex modes count 0 text
  if Nat.isValidChar code && (modes.unicode || count != 2 || code < 128) then
    some (.one (Char.ofNat code), rest)
  else none

/-- What follows a backslash. The sets of characters are known for bytes only, and without their
complements, which hold bytes that are no characters. -/
def Modes.escape (modes : Modes) : List Char → Option (Element × List Char)
  | [] => none
  | c :: rest =>
    match c with
    | 'x' => byNumber modes 2 rest
    | 'u' => byNumber modes 4 rest
    | 'U' => byNumber modes 8 rest
    | 'd' | 's' | 'w' => if modes.unicode then none else some (.set, rest)
    | 'a' => some (.one '\x07', rest)
    | 'f' => some (.one '\x0c', rest)
    | 't' => some (.one '\t', rest)
    | 'n' => some (.one '\n', rest)
    | 'r' => some (.one '\x0d', rest)
    | 'v' => some (.one '\x0b', rest)
    | 'A' | 'z' => some (.place, rest)
    | 'b' | 'B' | '<' | '>' => some (if modes.unicode then .wordEdge else .place, rest)
    | _ => if c.toNat < 128 && !c.isAlphanum then some (.one c, rest) else none

/-- The height of a list of things in the tree of an expression, by the heights of the things. A
thing by itself makes no list. -/
def joined : List Nat → Nat
  | [] => 0
  | [height] => height
  | heights => heights.foldl max 0 + 1

end LineShell.Log.Pattern
