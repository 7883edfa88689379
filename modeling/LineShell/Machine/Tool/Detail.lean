import LineShell.Machine.Tool.Permissions
/-!
# Details in listings

Beside its name a listing can tell more of a thing: its number, the room it takes, its permissions,
how many names it has, to whom it belongs, its size and when it was changed. The details stand in
columns, each as wide as the widest of them. Everything belongs to the one user of the machine, and
was changed at the one moment that its clock shows.
-/

namespace LineShell.Listing

/-- A name that is listed, and what it stands for. -/
structure Item where
  name : Bytes
  id : Nat
  node : Node
  /-- What it leads to, if it is a link that leads to something. -/
  target : Option Node
  /-- How many names the thing has. -/
  names : Nat

def isDirectory : Node → Bool
  | .directory .. => true
  | _ => false

/-- Whether something is a directory, or a link that leads to one. -/
def Item.leadsToDirectory (item : Item) : Bool :=
  isDirectory item.node || item.target.any isDirectory

inductive Measure where
  | plain
  /-- With a letter for a power of a number. -/
  | scaled (base : Nat) (letters : Bytes)
  deriving DecidableEq

structure Details where
  number : Bool
  room : Bool
  owner : Bool
  group : Bool
  author : Bool
  context : Bool
  /-- Whether users are shown by number. -/
  numeric : Bool
  measure : Measure
  /-- How the moment of the last change is written. -/
  moment : Bytes

def size : Node → Nat
  | .file _ content => content.size
  | .link target => target.length
  | .directory .. => 4096
  | _ => 0

/-- How many blocks of 1024 bytes something takes. Files take them by fours, and a short link needs
none. -/
def room : Node → Nat
  | .directory .. => 4
  | .file _ content => (content.size + 4095) / 4096 * 4
  | .link target => if target.length < 60 then 0 else 4
  | _ => 0

private def upward (n unit : Nat) : Nat := (n + unit - 1) / unit

/-- A number in units of which the first is given, with one decimal if it is less than ten. -/
private def inUnits (base n : Nat) : Nat → Bytes → Bytes
  | _, [] => Bytes.ofNat n
  | unit, letter :: letters =>
    let tenths := upward (n * 10) unit
    if tenths < 100 then Bytes.ofNat (tenths / 10) ++ 46 :: Bytes.ofNat (tenths % 10) ++ [letter]
    else if upward n unit < base || letters.isEmpty then Bytes.ofNat (upward n unit) ++ [letter]
    else inUnits base n (unit * base) letters

/-- A number of bytes as it is written. -/
def Measure.bytes (measure : Measure) (n : Nat) : Bytes :=
  match measure with
  | .plain => Bytes.ofNat n
  | .scaled base letters => if n < base then Bytes.ofNat n else inUnits base n base letters

/-- A number of blocks as it is written. -/
def Measure.blocks (measure : Measure) (n : Nat) : Bytes :=
  match measure with
  | .plain => Bytes.ofNat n
  | .scaled .. => measure.bytes (n * 1024)

private def kindLetter : Node → UInt8
  | .directory .. => 100
  | .link _ => 108
  | .null | .full => 99
  | _ => 45

private def sizeText (measure : Measure) : Node → Bytes
  | .null => Bytes.ofString "1, 3"
  | .full => Bytes.ofString "1, 7"
  | node => measure.bytes (size node)

/-- A detail, and whether it stands at the right of its column. -/
private abbrev Cell := Bool × Bytes

/-- What is told of an item in front of its name. -/
private def cells (details : Details) (long : Bool) (item : Item) : List Cell :=
  let told (asked : Bool) (cell : Cell) : List Cell := if asked then [cell] else []
  let user : Cell := (false, Bytes.ofString (if details.numeric then "0" else "root"))
  let context := told details.context (false, [63])
  told details.number (true, Bytes.ofNat (item.id + 1)) ++
    told details.room (true, details.measure.blocks (room item.node)) ++
    if !long then context
    else
      [(false, kindLetter item.node :: Permissions.letters (Machine.permissions item.node)),
        (true, Bytes.ofNat item.names)] ++
        told details.owner user ++ told details.group user ++ told details.author user ++ context ++
        [(true, sizeText details.measure item.node), (false, details.moment)]

private def widest : List Nat → List Nat → List Nat
  | [], widths | widths, [] => widths
  | a :: as, b :: bs => max a b :: widest as bs

/-- The widths of the columns that some items need. -/
def Details.widths (details : Details) (long : Bool) (items : List Item) : List Nat :=
  items.foldl
    (fun widths item => widest widths ((cells details long item).map fun cell => cell.2.length)) []

/-- What is told of an item in front of its name, in columns of some widths. -/
def Details.told (details : Details) (long : Bool) (widths : List Nat) (item : Item) : Bytes :=
  ((cells details long item).zip widths).flatMap fun ((isRight, shown), width) =>
    let space := List.replicate (width - shown.length) 32
    (if isRight then space ++ shown else shown ++ space) ++ [32]

/-- The parts of the moment that the clock shows, by the letters that ask for them. -/
private def momentParts : List (Char × String) :=
  [('a', "Thu"), ('A', "Thursday"), ('b', "Jan"), ('B', "January"), ('c', "Thu Jan  1 00:00:00 1970"),
    ('C', "19"), ('d', "01"), ('D', "01/01/70"), ('e', " 1"), ('F', "1970-01-01"), ('g', "70"),
    ('G', "1970"), ('h', "Jan"), ('H', "00"), ('I', "12"), ('j', "001"), ('k', " 0"), ('l', "12"),
    ('m', "01"), ('M', "00"), ('n', "\n"), ('N', "000000000"), ('p', "AM"), ('P', "am"), ('q', "1"),
    ('r', "12:00:00 AM"), ('R', "00:00"), ('s', "0"), ('S', "00"), ('t', "\t"), ('T', "00:00:00"),
    ('u', "4"), ('U', "00"), ('V', "01"), ('w', "4"), ('W', "00"), ('x', "01/01/70"),
    ('X', "00:00:00"), ('y', "70"), ('Y', "1970"), ('z', "+0000"), ('Z', "UTC"), ('%', "%")]

/-- The moment that the clock shows, as a format asks for it. -/
def momentIn : Bytes → Bytes
  | 37 :: letter :: rest =>
    match momentParts.lookup (Char.ofNat letter.toNat) with
    | some part => Bytes.ofString part ++ momentIn rest
    | none => 37 :: letter :: momentIn rest
  | byte :: rest => byte :: momentIn rest
  | [] => []

def usualMoment : Bytes := Bytes.ofString "%b %e %H:%M"

def momentFormats : List (Bytes × Bytes) :=
  [("full-iso", "%Y-%m-%d %H:%M:%S.%N %z"), ("long-iso", "%Y-%m-%d %H:%M"), ("iso", "%m-%d %H:%M")].map
    (fun (name, format) => (Bytes.ofString name, Bytes.ofString format)) ++
    [(Bytes.ofString "locale", usualMoment)]

/-- The format that a style of moments stands for. A plus sign comes before a format, or two of them
on two lines, of which the second is for what has been changed of late. Of the other styles, there
may be none or more than one that begins so, which is told apart. -/
def momentFormat? (style : Bytes) : Except Bool Bytes :=
  if style.head? = some 43 then
    match Bytes.splitOn 10 style.tail with
    | [_, recent] => .ok recent
    | _ => .ok style.tail
  else if (Bytes.ofString "posix-").isPrefixOf style then .ok usualMoment
  else
    match momentFormats.lookup style, momentFormats.filter fun entry => style.isPrefixOf entry.1 with
    | some format, _ | none, [(_, format)] => .ok format
    | none, fits => .error !fits.isEmpty

end LineShell.Listing
