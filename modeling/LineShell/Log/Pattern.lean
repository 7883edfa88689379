import LineShell.Text.Utf8
import LineShell.Log.Pattern.Class
/-!
# Patterns for values

A filter may ask that a field has a certain value. The value is a number or a regular expression
that matches it. No entry of the shell is ever matched against one, but a filter with an expression
that cannot be used is refused, so this module tells which can: an expression is read from left to
right, group by group, and nothing of it is kept besides what the rest depends on.
-/

namespace LineShell.Log.Pattern

/-- Why an expression cannot be used. -/
inductive Fault where
  /-- It is no regular expression, or one that asks for more than is known of characters. -/
  | malformed
  /-- It asks about the edges of words in all scripts, which the matching by tables cannot tell. -/
  | wordEdge
  deriving DecidableEq, Repr

/-- The greatest height of the tree of an expression. -/
def heightLimit : Nat := 250

private def flags : List Char → List Char → Option (List Char) → Bool → Option
    (Char × List Char × List Char × List Char)
  | [], _, _, _ => none
  | c :: rest, set, cleared, dangling =>
    if c = ':' ∨ c = ')' then
      if dangling then none else some (c, set, cleared.getD [], rest)
    else if c = '-' then
      if cleared.isSome then none else flags rest set (some []) true
    else if !(['i', 'm', 's', 'U', 'u', 'R', 'x'].contains c) || set.contains c ||
        (cleared.getD []).contains c then none
    else
      match cleared with
      | none => flags rest (set ++ [c]) none false
      | some others => flags rest set (some (others ++ [c])) false

private def Modes.after (modes : Modes) (set cleared : List Char) : Modes :=
  let flag (c : Char) (value : Bool) : Bool := (value || set.contains c) && !cleared.contains c
  ⟨flag 'x' modes.extended, flag 'u' modes.unicode, flag 'i' modes.foldsCase⟩

/-- The name of a group up to the angle bracket that closes it. -/
private def groupName (text : List Char) : Option (List Char × List Char) :=
  let isFirst (c : Char) : Bool := c == '_' || Text.isAlphabetic c.toNat
  let isLater (c : Char) : Bool :=
    ['_', '.', '[', ']'].contains c || Text.alphanumeric.holds c.toNat
  let name := text.takeWhile (· != '>')
  match name, text.dropWhile (· != '>') with
  | first :: later, _ :: rest =>
    if isFirst first && later.all isLater then some (name, rest) else none
  | _, _ => none

structure Part where
  height : Nat
  /-- Whether it can be repeated, as all but flags can. -/
  repeatable : Bool

/-- A group whose closing bracket has not been read, or the expression itself. -/
structure OpenGroup where
  /-- The parts of the last alternative so far, the latest first. -/
  parts : List Part
  /-- The heights of the alternatives in front of it. -/
  alternatives : List Nat

namespace OpenGroup

private def heightOfLast (group : OpenGroup) : Nat := joined (group.parts.map Part.height)

private def height (group : OpenGroup) : Nat := joined (group.heightOfLast :: group.alternatives)

private def add (group : OpenGroup) (height : Nat) : OpenGroup :=
  { group with parts := ⟨height, true⟩ :: group.parts }

end OpenGroup

/-- Where the reading of an expression stands. -/
structure Reading where
  modes : Modes
  group : OpenGroup
  /-- The groups around it with the modes outside of each that they surround. -/
  outer : List (Modes × OpenGroup)
  /-- The names of groups so far. -/
  names : List (List Char)
  /-- Whether the edge of a word has been asked for. -/
  wordEdge : Bool

/-- Opens a group, whose bracket has been read, or takes flags that hold up to the end of the group
around them. -/
private def openGroup (reading : Reading) (text : List Char) : Option (Reading × List Char) :=
  let opened (modes : Modes) (names : List (List Char)) : Reading :=
    { reading with
      modes, names
      group := ⟨[], []⟩
      outer := (reading.modes, reading.group) :: reading.outer }
  let named (text : List Char) : Option (Reading × List Char) := do
    let (name, rest) ← groupName text
    if reading.names.contains name then none
    else some (opened reading.modes (name :: reading.names), rest)
  match reading.modes.skip text with
  | '?' :: '=' :: _ | '?' :: '!' :: _ | '?' :: '<' :: '=' :: _ | '?' :: '<' :: '!' :: _ => none
  | '?' :: 'P' :: '<' :: rest | '?' :: '<' :: rest => named rest
  | '?' :: rest => do
    let (last, set, cleared, rest) ← flags rest [] none false
    let modes := reading.modes.after set cleared
    if last = ':' then some (opened modes reading.names, rest)
    else if set.isEmpty && cleared.isEmpty then none
    else
      let group := { reading.group with parts := ⟨0, false⟩ :: reading.group.parts }
      some ({ reading with modes, group }, rest)
  | text => some (opened reading.modes reading.names, text)

/-- Goes on behind a part that can be repeated. -/
private def Reading.add (reading : Reading) (height : Nat) : Reading :=
  { reading with group := reading.group.add height }

/-- Goes on behind a character or an escape. -/
private def Reading.element (reading : Reading) (element : Element) : Option Reading :=
  match element with
  | .one _ => if reading.modes.admitsLiteral then some (reading.add 0) else none
  | .set | .place => some (reading.add 0)
  | .wordEdge => some { reading.add 0 with wordEdge := true }

/-- Reads the next part of an expression, whose first character is given. Where characters are bytes
the point would match bytes that are none. -/
private def step (reading : Reading) (c : Char) (rest : List Char) :
    Option (Reading × List Char) :=
  match c with
  | '(' => openGroup reading rest
  | ')' =>
    match reading.outer with
    | [] => none
    | (modes, around) :: outer =>
      some ({ reading with modes, outer, group := around.add (reading.group.height + 1) }, rest)
  | '|' =>
    let group := reading.group
    some ({ reading with group := ⟨[], group.heightOfLast :: group.alternatives⟩ }, rest)
  | '[' => do
    let (height, rest) ← reading.modes.characterClass rest
    some (reading.add height, rest)
  | '?' | '*' | '+' =>
    match reading.group.parts with
    | last :: parts =>
      let group := { reading.group with parts }
      if last.repeatable then
        some ({ reading with group := group.add (last.height + 1) },
          if rest.head? = some '?' then rest.tail else rest)
      else none
    | [] => none
  | '{' => none
  | '\\' => do
    let (element, rest) ← reading.modes.escape rest
    some (← reading.element element, rest)
  | '.' => if reading.modes.unicode then some (reading.add 0, rest) else none
  | '^' | '$' => some (reading.add 0, rest)
  | c => do some (← reading.element (.one c), rest)

/-- Reads an expression to its end. Every round reads at least one character. -/
private def read : Nat → Reading → List Char → Option Reading
  | 0, _, _ => none
  | fuel + 1, reading, text =>
    match reading.modes.skip text with
    | [] =>
      if reading.outer.isEmpty && decide (reading.group.height ≤ heightLimit) then some reading
      else none
    | c :: rest => do
      let (reading, rest) ← step reading c rest
      read fuel reading rest

/-- Whether digits with a point among them or without, and perhaps an exponent, make up a text. -/
private def isDecimal (text : List Char) : Bool :=
  let whole := text.takeWhile Char.isDigit
  let rest := text.dropWhile Char.isDigit
  let (decimals, rest) :=
    match rest with
    | '.' :: rest => (rest.takeWhile Char.isDigit, rest.dropWhile Char.isDigit)
    | _ => ([], rest)
  !(whole.isEmpty && decimals.isEmpty) &&
    match rest with
    | [] => true
    | mark :: exponent =>
      let digits :=
        match exponent with
        | '+' :: digits | '-' :: digits => digits
        | digits => digits
      mark.toLower == 'e' && !digits.isEmpty && digits.all Char.isDigit

/-- Whether a text is a number behind a plus sign. Any other number is an expression as well. -/
private def isPositive : List Char → Bool
  | '+' :: rest =>
    isDecimal rest || ["inf", "infinity", "nan"].contains (String.ofList (rest.map Char.toLower))
  | _ => false

/-- Why a value cannot be used in a filter, if it cannot. -/
def fault? (value : Bytes) : Option Fault :=
  let text := (Utf8.scalars value).map fun character => Char.ofNat character.code
  if isPositive text then none
  else match read (text.length + 1) ⟨.usual, ⟨[], []⟩, [], [], false⟩ text with
    | none => some .malformed
    | some reading => if reading.wordEdge then some .wordEdge else none

end LineShell.Log.Pattern
