import LineShell.Log.Pattern.Element
/-!
# Classes of characters

A class stands between brackets: characters, ranges, classes with names and classes in brackets of
their own, with operators between them. Only its height is kept of it, and the text that follows.
-/

namespace LineShell.Log.Pattern

/-- A class whose closing bracket has not been read. -/
structure OpenClass where
  /-- The heights of its members since the last operator. -/
  members : List Nat
  /-- The height of what stands in front of that operator. -/
  left : Option Nat
  /-- Whether there have been hyphens only. -/
  leading : Bool

namespace OpenClass

private def height (current : OpenClass) : Nat :=
  match current.left with
  | none => joined current.members
  | some left => max left (joined current.members) + 1

private def add (current : OpenClass) (height : Nat) : OpenClass :=
  { current with members := height :: current.members }

private def operator (current : OpenClass) : OpenClass := ⟨[], some current.height, false⟩

end OpenClass

private def member (modes : Modes) (text : List Char) : Option (Element × List Char) := do
  let (element, rest) ←
    match text with
    | [] => none
    | '\\' :: rest => modes.escape rest
    | c :: rest => some (.one c, rest)
  match element with
  | .one c => if modes.admitsMember c then some (element, rest) else none
  | .set => some (element, rest)
  | _ => none

/-- The character that is seen behind a hyphen. The start of a comment is passed over, but not the
comment. -/
private def behindHyphen (modes : Modes) (text : List Char) : Option Char :=
  if modes.extended then
    match text.dropWhile isBlank with
    | '#' :: rest => (rest.dropWhile isBlank).head?
    | text => text.head?
  else text.head?

/-- A member of a class, or two with a hyphen between them, which are the ends of a range. A hyphen
in front of the end of the class or of another hyphen makes no range. -/
private def range (modes : Modes) (text : List Char) : Option (List Char) := do
  let (first, rest) ← member modes text
  match modes.skip rest with
  | [] => none
  | '-' :: after =>
    if behindHyphen modes after = some ']' ∨ behindHyphen modes after = some '-' then
      some (modes.skip rest)
    else
      match first, ← member modes (modes.skip after) with
      | .one low, (.one high, rest) => if low ≤ high then some rest else none
      | _, _ => none
  | rest => some rest

private def asciiClasses : List String :=
  ["alnum", "alpha", "ascii", "blank", "cntrl", "digit", "graph", "lower", "print", "punct",
    "space", "upper", "word", "xdigit"]

/-- Whether the name of a class between colons, whose bracket has been read, asks for the complement
of the class, and the text after it. -/
private def asciiClass : List Char → Option (Bool × List Char)
  | ':' :: rest =>
    let negated := rest.head? == some '^'
    let rest := if negated then rest.tail else rest
    match rest.dropWhile (· != ':') with
    | ':' :: ']' :: after =>
      if asciiClasses.contains (String.ofList (rest.takeWhile (· != ':'))) then
        some (negated, after)
      else none
    | _ => none
  | _ => none

/-- Opens a class whose bracket has been read. A complement holds bytes that are no characters where
characters are bytes. -/
private def opening (modes : Modes) (text : List Char) : Option (OpenClass × List Char) :=
  match modes.skip text with
  | '^' :: rest => if modes.unicode then some (⟨[], none, true⟩, rest) else none
  | text => some (⟨[], none, true⟩, text)

/-- Reads up to the end of the outermost class. Every round reads at least one character. -/
private def closing (modes : Modes) : Nat → OpenClass → List OpenClass → List Char →
    Option (Nat × List Char)
  | 0, _, _, _ => none
  | fuel + 1, current, outer, text =>
    let text := modes.skip text
    let started := { current with leading := false }
    match text with
    | [] => none
    | '[' :: rest =>
      match asciiClass rest with
      | some (negated, rest) =>
        if if modes.unicode then modes.foldsCase else negated then none
        else closing modes fuel (started.add 0) outer rest
      | none => do
        let (inner, rest) ← opening modes rest
        closing modes fuel inner (started :: outer) rest
    | ']' :: rest =>
      if current.leading && current.members.isEmpty then
        if modes.admitsMember ']' then closing modes fuel (started.add 0) outer rest else none
      else
        match outer with
        | [] => some (current.height + 1, rest)
        | around :: outer => closing modes fuel (around.add (current.height + 1)) outer rest
    | '-' :: rest =>
      if current.leading then
        if modes.admitsMember '-' then closing modes fuel (current.add 0) outer rest else none
      else
        match rest with
        | '-' :: rest => closing modes fuel current.operator outer rest
        | _ => (range modes text).bind (closing modes fuel (started.add 0) outer)
    | '&' :: '&' :: rest | '~' :: '~' :: rest => closing modes fuel current.operator outer rest
    | _ => (range modes text).bind (closing modes fuel (started.add 0) outer)

/-- The height of a class whose opening bracket has been read, and the text after it. -/
def Modes.characterClass (modes : Modes) (text : List Char) : Option (Nat × List Char) := do
  let (current, rest) ← opening modes text
  closing modes (rest.length + 1) current [] rest

end LineShell.Log.Pattern
