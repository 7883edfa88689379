import LineShell.Machine.Tree
/-!
# Patterns for names

A pattern stands for the texts it fits. It is written with signs for any text, any one byte and a
choice of bytes; a quoted sign stands for itself.
-/

namespace LineShell.Script

inductive Pattern.Item where
  | literal (byte : UInt8)
  | one
  | any
  | choice (negated : Bool) (ranges : List (UInt8 × UInt8))
  deriving DecidableEq

abbrev Pattern := List Pattern.Item

namespace Pattern

/-- A byte of a written pattern, and whether it is quoted. -/
abbrev Written := List (UInt8 × Bool)

/-- The kinds of bytes that have names, as ranges. -/
private def classes : List (String × List (UInt8 × UInt8)) :=
  [("alnum", [(48, 57), (65, 90), (97, 122)]), ("alpha", [(65, 90), (97, 122)]),
    ("blank", [(9, 9), (32, 32)]), ("cntrl", [(0, 31), (127, 127)]), ("digit", [(48, 57)]),
    ("graph", [(33, 126)]), ("lower", [(97, 122)]), ("print", [(32, 126)]),
    ("punct", [(33, 47), (58, 64), (91, 96), (123, 126)]), ("space", [(9, 13), (32, 32)]),
    ("upper", [(65, 90)]), ("xdigit", [(48, 57), (65, 70), (97, 102)])]

/-- The named kind of bytes at the start of a written pattern, behind its bracket, and how long its
writing is. -/
private def class? (written : Written) : Option (List (UInt8 × UInt8) × Nat) :=
  classes.findSome? fun (name, ranges) =>
    let sign := (Bytes.ofString (":" ++ name ++ ":]")).map fun byte => (byte, false)
    if sign.isPrefixOf written then some (ranges, sign.length) else none

/-- What a sign in a choice stands for with those behind it, and what is left of them. -/
private def member (sign : UInt8 × Bool) (rest : Written) : List (UInt8 × UInt8) × Written :=
  match if sign = (91, false) then class? rest else none with
  | some (own, length) => (own, rest.drop length)
  | none =>
    match rest with
    | (45, false) :: high :: behind =>
      if high = (93, false) then ([(sign.1, sign.1)], rest) else ([(sign.1, high.1)], behind)
    | _ => ([(sign.1, sign.1)], rest)

/-- The ranges of a choice, up to the bracket that closes it, read in a number of steps at most. A
bracket in front of all others does not close it. -/
private def ranges (first : Bool) : Nat → Written → Option (List (UInt8 × UInt8) × Written)
  | 0, _ => none
  | _, [] => none
  | steps + 1, sign :: rest =>
    if sign = (93, false) && !first then some ([], rest)
    else
      let (own, rest) := member sign rest
      (ranges false steps rest).map fun (found, rest) => (own ++ found, rest)

private def choice? (written : Written) : Option (Item × Written) :=
  let (negated, written) := match written with
    | (33, false) :: rest => (true, rest)
    | _ => (false, written)
  (ranges true (written.length + 1) written).map fun (found, rest) => (.choice negated found, rest)

private def read : Nat → Written → Pattern
  | 0, _ => []
  | _, [] => []
  | steps + 1, (byte, quoted) :: rest =>
    if quoted then .literal byte :: read steps rest
    else if byte = 42 then .any :: read steps rest
    else if byte = 63 then .one :: read steps rest
    else if byte = 91 then
      match choice? rest with
      | some (item, rest) => item :: read steps rest
      | none => .literal byte :: read steps rest
    else .literal byte :: read steps rest

/-- The bytes whose quotes a backslash before them takes away. -/
private def isMarked (byte : UInt8) : Bool :=
  (Bytes.ofString "!*?[=~:/-]\\").contains byte

/-- A written pattern whose backslashes have done their work. One that is not quoted quotes the sign
behind it, but if that is quoted already, the two change places: the backslash stands for itself
and the sign is not quoted any more. -/
private def settled : Written → Written
  | [] => []
  | [(92, false)] => [(92, true)]
  | (92, false) :: (byte, true) :: rest =>
    if isMarked byte then (92, true) :: settled ((byte, false) :: rest)
    else (byte, true) :: settled rest
  | (92, false) :: (byte, false) :: rest => (byte, true) :: settled rest
  | sign :: rest => sign :: settled rest
termination_by written => written.length

private def ofSettled (written : Written) : Pattern :=
  read (written.length + 1) written

def ofWritten (written : Written) : Pattern :=
  ofSettled (settled written)

/-- Whether a part that stands for one byte stands for this one. -/
def Item.admits (byte : UInt8) : Item → Bool
  | .literal own => own == byte
  | .one | .any => true
  | .choice negated ranges =>
    negated != ranges.any fun range => range.1 ≤ byte && byte ≤ range.2

/-- Whether a pattern fits a text from end to end. -/
def fits : Pattern → Bytes → Bool
  | [], text => text.isEmpty
  | .any :: pattern, [] => fits pattern []
  | .any :: pattern, byte :: text => fits pattern (byte :: text) || fits (.any :: pattern) text
  | _ :: _, [] => false
  | item :: pattern, byte :: text => item.admits byte && fits pattern text
termination_by pattern text => pattern.length + text.length

/-- Whether a pattern can fit more than one text. -/
def isOpen (pattern : Pattern) : Bool :=
  pattern.any fun
    | .literal _ => false
    | _ => true

/-- Texts without the start of the first that a pattern fits, the shortest such start or the longest.
If the longest is asked for and the pattern fits the whole of the first, nothing is left of the
others either. -/
def trimStart (pattern : Pattern) (longest : Bool) : List Bytes → List Bytes
  | [] => []
  | text :: rest =>
    let lengths := List.range (text.length + 1)
    if longest && pattern.fits text then [[]]
    else
      match (if longest then lengths.reverse else lengths).find? fun n =>
          pattern.fits (text.take n) with
      | some n => text.drop n :: rest
      | none => text :: rest

/-- Texts without the shortest end of the last text that has an end which a pattern fits, and
without the texts behind it. -/
private def trimShortest? (pattern : Pattern) : List Bytes → Option (List Bytes)
  | [] => none
  | text :: rest =>
    match trimShortest? pattern rest with
    | some kept => some (text :: kept)
    | none =>
      ((List.range (text.length + 1)).reverse.find? fun n => pattern.fits (text.drop n)).map
        fun n => [text.take n]

/-- Texts without an end that a pattern fits, and without the texts behind it: the shortest end of
the last text that has one, or the longest of the first. -/
def trimEnd (pattern : Pattern) (longest : Bool) (texts : List Bytes) : List Bytes :=
  if longest then
    match texts with
    | [] => []
    | text :: _ =>
      match (List.range (text.length + 1)).find? fun n => pattern.fits (text.drop n) with
      | some n => [text.take n]
      | none => texts
  else (trimShortest? pattern texts).getD texts

/-- The parts of a written pattern between its slashes. -/
private def levels (written : Written) : List Written :=
  written.foldr
    (fun byte levels =>
      if byte.1 = 47 then [] :: levels
      else match levels with
        | [] => [[byte]]
        | level :: rest => (byte :: level) :: rest)
    [[]]

private def joined (path name : Bytes) (first : Bool) : Bytes :=
  if first then name else path ++ [47] ++ name

/-- The paths below some paths that fit the levels of a pattern. -/
private def descend (tree : Tree) (directory : Nat) (first : Bool) (paths : List Bytes) :
    List Written → List Bytes
  | [] => paths
  | level :: rest =>
    let pattern := ofSettled level
    let text := level.map Prod.fst
    let next := paths.flatMap fun path =>
      if !isOpen pattern then
        let path' := joined path text first
        if rest.isEmpty then
          if (tree.resolve directory path' false).toOption.isSome then [path'] else []
        else [path']
      else
        let holder := if first then [46] else if path.isEmpty then [47] else path
        match (tree.resolve directory holder true).bind tree.entries with
        | .error _ => []
        | .ok entries =>
          let names := ([46] :: [46, 46] :: entries.map Prod.fst).filter fun name =>
            (name.head? != some 46 || level.head?.map Prod.fst == some 46) && fits pattern name
          (names.mergeSort fun a b => decide (a ≤ b)).map fun name => joined path name first
    descend tree directory false next rest

/-- The paths that fit a written pattern, or none if it can fit only itself. -/
def paths (tree : Tree) (directory : Nat) (written : Written) : List Bytes :=
  if isOpen (ofWritten written) then descend tree directory true [[]] (levels (settled written))
  else []

end Pattern

end LineShell.Script
