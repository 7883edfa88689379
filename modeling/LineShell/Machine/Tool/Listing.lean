import LineShell.Machine.Script.Pattern
import LineShell.Machine.Tool.Detail
/-!
# Programs that list directories

Names are chosen, put in order, quoted and laid out: one to a line, in columns, or joined by commas.
Files that are named come first, then the directories with what is in them. In front of each name
stand the details that are asked for.
-/

namespace LineShell

namespace Listing

inductive Format where
  | lines
  /-- Lines with all details. -/
  | long
  /-- In columns that are read downwards. -/
  | columns
  /-- In columns that are read across. -/
  | rows
  | commas
  deriving DecidableEq

inductive Extent where
  | visible
  /-- All but the two that every directory has. -/
  | almostAll
  | all
  deriving DecidableEq

inductive Order where
  | name
  | none
  | size
  | ending
  | width
  deriving DecidableEq

/-- Which names are marked for what they stand for. -/
inductive Marks where
  | none
  | directories
  | types
  /-- Files that can be executed too. -/
  | classes
  deriving DecidableEq

inductive Quoting where
  | literal
  | shell
  | shellAlways
  | shellEscape
  | shellEscapeAlways
  | double
  | doubleMaybe
  | escape
  | single
  deriving DecidableEq

inductive Following where
  | never
  /-- Those that are named and lead to directories. -/
  | namedDirectories
  /-- Those that are named. -/
  | named
  | always
  deriving DecidableEq

structure Style where
  format : Format
  extent : Extent
  order : Order
  reversed : Bool
  directoriesFirst : Bool
  marks : Marks
  quoting : Quoting
  /-- Whether bytes that are not printable are shown as question marks. -/
  hidesBytes : Bool
  following : Following
  /-- Whether directories are listed as themselves. -/
  immediate : Bool
  recursive : Bool
  details : Details
  /-- How many columns a line has; none if there is no end to it. -/
  lineWidth : Nat
  tabWidth : Nat
  lineEnd : UInt8
  /-- Whether names that end in a tilde are left out. -/
  skipsBackups : Bool
  /-- Patterns for names that are left out. -/
  skipped : List Bytes
  /-- Patterns for names that are left out unless hidden names are shown. -/
  hidden : List Bytes

private def fits (name pattern : Bytes) : Bool :=
  let written := pattern.map fun byte => (byte, false)
  (name.head? != some 46 || pattern.head? == some 46) && Script.Pattern.fits (.ofWritten written) name

/-- Whether a name in a directory is listed. -/
def Style.admits (style : Style) (name : Bytes) : Bool :=
  !(style.skipsBackups && name.getLast? == some 126) && !style.skipped.any (fits name) &&
    (style.extent ≠ .visible || !(name.head? == some 46 || style.hidden.any (fits name)))

/-- What stands behind the last point of a name, with the point. -/
private def ending (name : Bytes) : Bytes :=
  if name.contains 46 then 46 :: (name.reverse.takeWhile (· != 46)).reverse else []

/-- A name as it is shown to a command interpreter, with bytes as they are. -/
private def shell (name : Bytes) : Bytes :=
  if name.contains 39 && !name.any (Bytes.ofString "\"$\\\x60!").contains then [34] ++ name ++ [34]
  else [39] ++ (name.flatMap fun byte => if byte = 39 then Bytes.ofString "'\\''" else [byte]) ++ [39]

def Style.quoted (style : Style) (name : Bytes) : Bytes :=
  let hide (name : Bytes) : Bytes :=
    if style.hidesBytes then name.map fun byte => if Quote.isPrintable byte then byte else 63 else name
  match style.quoting with
  | .literal => hide name
  | .shell => hide (if Quote.wordIfNeeded name = name then name else shell name)
  | .shellAlways => hide (shell name)
  | .shellEscape => Quote.wordIfNeeded name
  | .shellEscapeAlways => Quote.word name
  | .double => Quote.double name
  | .doubleMaybe => if Quote.double name = [34] ++ name ++ [34] then name else Quote.double name
  | .escape => Quote.bare name
  | .single => Quote.text name

def Style.mark (style : Style) (node : Node) : Bytes :=
  match style.marks, node with
  | .none, _ => []
  | _, .directory .. => [47]
  | .classes, .link _ | .types, .link _ => [64]
  | .classes, .file mode _ => if mode &&& 0o111 = 0 then [] else [42]
  | .classes, .tool _ => [42]
  | _, _ => []

/-- A name as it is shown, with the mark behind it. With all details, a link is shown with what it
leads to, and the mark is for that, unless only directories are marked. -/
def Style.shown (style : Style) (item : Item) : Bytes :=
  match style.format, item.node with
  | .long, .link path =>
    let mark := match style.marks, item.target with
      | .types, some target | .classes, some target => style.mark target
      | _, _ => []
    style.quoted item.name ++ Bytes.ofString " -> " ++ style.quoted path ++ mark
  | _, node => style.quoted item.name ++ style.mark node

/-- Whether an item comes before another one or may do so. -/
private def Style.precedes (style : Style) (a b : Item) : Bool :=
  let byName := decide (a.name ≤ b.name)
  let ranked (first second : Bool) : Bool := first || (!second && byName)
  match style.order with
  | .none => true
  | .name => byName
  | .size => ranked (size b.node < size a.node) (size a.node < size b.node)
  | .ending => ranked (ending a.name < ending b.name) (ending b.name < ending a.name)
  | .width =>
    let width (item : Item) : Nat := (style.quoted item.name).length
    ranked (width a < width b) (width b < width a)

/-- Items in the order in which they are listed. -/
def Style.sorted (style : Style) (items : List Item) : List Item :=
  let sorted := if style.order = .none then items else items.mergeSort style.precedes
  let turned := if style.reversed && style.order ≠ .none then sorted.reverse else sorted
  if style.directoriesFirst && style.order ≠ .none then
    let (directories, others) := turned.partition Item.leadsToDirectory
    directories ++ others
  else turned

def width (shown : Bytes) : Nat := shown.countP Quote.isPrintable

def columnWidth : Nat := 3

/-- The widths of so many columns, with the space behind each but the last. The first list has the
names of each column. -/
private def columnWidths (groups : List (List Bytes)) : List Nat :=
  let space (index : Nat) : Nat := if index + 1 = groups.length then 0 else 2
  groups.zipIdx.map fun (group, index) =>
    group.foldl (fun widest shown => max widest (width shown + space index)) columnWidth

/-- The names by rows, if each row has so many but the last. -/
private def chunks (count : Nat) : Nat → List Bytes → List (List Bytes)
  | 0, _ => []
  | _, [] => []
  | steps + 1, shown => shown.take count :: chunks count steps (shown.drop count)

private def transposed (count : Nat) (groups : List (List Bytes)) : List (List Bytes) :=
  (List.range count).map fun index => groups.filterMap fun group => group[index]?

/-- The rows and the columns of names in so many columns. -/
private def arranged (down : Bool) (count : Nat) (shown : List Bytes) :
    List (List Bytes) × List (List Bytes) :=
  if down then
    let height := (shown.length + count - 1) / count
    let columns := chunks height shown.length shown
    (transposed height columns, columns ++ List.replicate (count - columns.length) [])
  else
    let rows := chunks count shown.length shown
    (rows, transposed count rows)

/-- Space from one column of a line to another one, by tabs as far as they go. -/
private def indent (tab : Nat) : Nat → Nat → Nat → Bytes
  | 0, _, _ => []
  | steps + 1, start, stop =>
    if stop ≤ start then []
    else if tab ≠ 0 && (start + 1) / tab < stop / tab then
      9 :: indent tab steps (start + (tab - start % tab)) stop
    else 32 :: indent tab steps (start + 1) stop

/-- A row of names in columns of some widths, from a place in the line on. -/
private def row (tab : Nat) (place : Nat) : List Nat → List Bytes → Bytes
  | _, [] => []
  | _, [shown] => shown
  | [], shown => shown.flatten
  | column :: columns, shown :: rest =>
    shown ++ indent tab (column + 1) (place + width shown) (place + column) ++
      row tab (place + column) columns rest

/-- Names in as many columns as there is room for. -/
def inColumns (style : Style) (down : Bool) (shown : List Bytes) : Bytes :=
  let most := min ((style.lineWidth + columnWidth - 1) / columnWidth) shown.length
  let hasRoom (count : Nat) : Bool :=
    let widths := columnWidths (arranged down count shown).2
    decide (widths.foldl (· + ·) 0 < style.lineWidth)
  let counts := (List.range most).reverse.map (· + 1)
  let count := (counts.find? fun count => count == 1 || hasRoom count).getD 1
  let (rows, columns) := arranged down count shown
  let widths := columnWidths columns
  rows.flatMap fun names => row style.tabWidth 0 widths names ++ [style.lineEnd]

/-- Names joined by a sign and a space, or by the sign and a new line where a line is full. -/
def joined (style : Style) (sign : UInt8) (shown : List Bytes) : Bytes :=
  let (bytes, _) := shown.foldl
    (fun (state : Bytes × Option Nat) name =>
      let length := if style.lineWidth = 0 then 0 else width name
      match state with
      | (_, none) => (name, some length)
      | (bytes, some place) =>
        if style.lineWidth = 0 || place + length + 2 < style.lineWidth then
          (bytes ++ sign :: 32 :: name, some (place + 2 + length))
        else (bytes ++ sign :: style.lineEnd :: name, some length))
    ([], none)
  bytes ++ [style.lineEnd]

/-- Names laid out, with their details in columns that are wide enough for all that is listed. -/
def Style.layout (style : Style) (all items : List Item) : Bytes :=
  let long := style.format == .long
  let widths := (style.details.widths long all).map fun width =>
    if style.format = .commas then 0 else width
  let shown := items.map fun item => style.details.told long widths item ++ style.shown item
  if shown.isEmpty then []
  else match style.format with
    | .lines | .long => shown.flatMap (· ++ [style.lineEnd])
    | .commas => joined style 44 shown
    | .columns => if style.lineWidth = 0 then joined style 32 shown else inColumns style true shown
    | .rows => if style.lineWidth = 0 then joined style 32 shown else inColumns style false shown

end Listing

end LineShell
