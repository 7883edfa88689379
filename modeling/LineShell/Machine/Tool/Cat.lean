import LineShell.Machine.Tool.Arguments
/-!
# The program that joins files

Files are written one after the other, as they are or with their lines and bytes made visible. The
numbers of lines and the count of blank lines go on from file to file.
-/

namespace LineShell

namespace Visible

structure Style where
  /-- Whether lines get numbers. -/
  numbers : Bool
  /-- Whether blank lines get none. -/
  skipsBlank : Bool
  /-- Whether several blank lines are shown as one. -/
  squeezes : Bool
  ends : Bool
  tabs : Bool
  bytes : Bool

structure Place where
  /-- The number of the last line that got one. -/
  number : Nat
  /-- Whether the next byte starts a line. -/
  atStart : Bool
  /-- How many blank lines come before it, of which two count as many. -/
  blanks : Nat

def Place.start : Place := ⟨0, true, 0⟩

/-- Whether a style leaves every text as it is. -/
def Style.isPlain (style : Style) : Bool :=
  !(style.numbers || style.squeezes || style.ends || style.tabs || style.bytes)

def Style.byte (style : Style) (byte : UInt8) : Bytes :=
  let ascii (byte : UInt8) : Bytes :=
    if byte = 127 then [94, 63] else if byte < 32 then [94, byte + 64] else [byte]
  if byte = 9 then if style.tabs then [94, 73] else [9]
  else if !style.bytes then [byte]
  else if byte < 128 then ascii byte
  else [77, 45] ++ ascii (byte - 128)

/-- The number of a line, in six columns. -/
private def numbered (n : Nat) : Bytes :=
  let digits := Bytes.ofNat n
  List.replicate (6 - digits.length) 32 ++ digits ++ [9]

/-- What the end of a line comes to. -/
private def lineEnd (style : Style) (place : Place) : Bytes × Place :=
  let mark : Bytes := if style.ends then [36, 10] else [10]
  if !place.atStart then (mark, { place with atStart := true, blanks := 0 })
  else if style.squeezes && 1 ≤ place.blanks then ([], { place with blanks := 2 })
  else
    let blank := { place with blanks := place.blanks + 1 }
    if style.numbers && !style.skipsBlank then
      (numbered (place.number + 1) ++ mark, { blank with number := place.number + 1 })
    else (mark, blank)

/-- What a byte within a line comes to. -/
private def inLine (style : Style) (place : Place) (shown : Bytes) : Bytes × Place :=
  if place.atStart && style.numbers then
    (numbered (place.number + 1) ++ shown, ⟨place.number + 1, false, 0⟩)
  else (shown, { place with atStart := false, blanks := 0 })

/-- A text made visible, from a place on, put in reverse in front of what is there. -/
def render (style : Style) (done : Bytes) (place : Place) : Bytes → Bytes × Place
  | [] => (done, place)
  | byte :: rest =>
    let (shown, after) :=
      if byte = 10 then lineEnd style place
      else if byte = 13 && style.ends && rest.head? == some 10 then inLine style place [94, 77]
      else inLine style place (style.byte byte)
    render style (shown.reverse ++ done) after rest

end Visible

namespace Tool

private def shown (style : Visible.Style) (place : Visible.Place) (bytes : ByteArray) :
    Bytes × Visible.Place :=
  if style.isPlain then (bytes.toList, place)
  else
    let (reversed, after) := Visible.render style [] place bytes.toList
    (reversed.reverse, after)

/-- Whether what is written to the output would be read from a file again. -/
private def feedsItself (process : Process) (file : Nat) (machine : Machine) : Bool :=
  let output := process.descriptors.lookup 1
  match machine.files[file]?, output.bind fun file => machine.files[file]? with
  | some input, some output =>
    match machine.tree.node input.node with
    | .file _ content =>
      let place := if output.appends then content.size else output.place
      input.node == output.node && decide (input.place < place)
    | _ => false
  | _, _ => false

/-- Opens the file with a name. A dash is the standard input. -/
private def openNamed (name : Bytes) : Work (Except Errno Nat) :=
  act fun process machine =>
    if name = text "-" then
      match process.descriptors.lookup 0 with
      | some file => (.ok file, machine)
      | none => (.error .badDescriptor, machine)
    else machine.openPath process name .reading

/-- Writes the rest of a file. Writing that fails ends the program. -/
private def joinOne (style : Visible.Style) (name : Bytes) (place : Visible.Place) :
    Work (Nat × Visible.Place) := do
  let failed (reason : Bytes) : Work (Nat × Visible.Place) := do
    fail (Quote.wordIfNeeded name ++ text ": " ++ reason)
    return (1, place)
  match ← openNamed name with
  | .error errno => failed errno.libraryText
  | .ok file =>
    if ← look fun process machine => feedsItself process file machine then
      failed (text "input file is output file")
    else
      let read : Except Errno ByteArray ← act fun _ machine =>
        match machine.rest file with
        | .error errno => (.error errno, machine)
        | .ok bytes => (.ok bytes, (machine.read file bytes.size).2)
      match read with
      | .error errno => failed errno.libraryText
      | .ok bytes =>
        let (shown, after) := shown style place bytes
        if !shown.isEmpty then
          if let .error errno ← say 1 shown then
            failFor (text "write error") errno
            throw 1
        return (0, after)

private def joinAll (style : Visible.Style) (code : Nat) (place : Visible.Place) :
    List Bytes → Work Nat
  | [] => return code
  | name :: rest => do
    let (failed, place) ← joinOne style name place
    joinAll style (max code failed) place rest

private def joiningOptions : List Known :=
  [.ofBoth 'b' "number-nonblank", .ofBoth 'n' "number", .ofBoth 's' "squeeze-blank",
    .ofBoth 'v' "show-nonprinting", .ofBoth 'E' "show-ends", .ofBoth 'T' "show-tabs",
    .ofBoth 'A' "show-all", .ofLetter 'e', .ofLetter 't', .ofLetter 'u']

/-- Writes files, or what it can read if it gets none. -/
def cat (arguments : List Bytes) : Work Nat := do
  let arguments ← understand joiningOptions false 1 arguments
  let has (marks : List String) : Bool := marks.any arguments.has
  let style : Visible.Style := {
    numbers := has ["number", "number-nonblank"]
    skipsBlank := has ["number-nonblank"]
    squeezes := has ["squeeze-blank"]
    ends := has ["show-ends", "show-all", "e"]
    tabs := has ["show-tabs", "show-all", "t"]
    bytes := has ["show-nonprinting", "show-all", "e", "t"] }
  let process := (← read).process
  if (process.descriptors.lookup 1).isNone then
    failFor (text "standard output") .badDescriptor
    throw 1
  let names := if arguments.operands.isEmpty then [text "-"] else arguments.operands
  let code ← joinAll style 0 .start names
  if names.contains (text "-") && (process.descriptors.lookup 0).isNone then
    failFor (text "closing standard input") .badDescriptor
    return 1
  return code

end Tool

end LineShell
