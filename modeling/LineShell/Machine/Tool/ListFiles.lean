import LineShell.Machine.Numeral
import LineShell.Machine.Tool.Listing
/-!
# The programs that list files

There are three, which differ in what they do if nothing else is asked for. What is named and does
not exist is reported before anything is listed.
-/

namespace LineShell.Tool

open Listing (Style Item isDirectory)

/-- The exit code of a listing that could not be done at all. -/
private def listingFailure : Nat := 2

/-- The node that a path leads to, a link followed if the style says so for names that are given or
for those that were found. -/
private def listedNode (style : Style) (isGiven : Bool) (path : Bytes) : Work (Except Errno Nat) :=
  look fun process machine =>
    let found (follow : Bool) : Except Errno Nat :=
      machine.tree.resolve process.directory path follow
    match style.following, isGiven with
    | .always, _ | .named, true => found true
    | .namedDirectories, true =>
      match found true with
      | .ok id => if machine.tree.isDirectory id then .ok id else found false
      | .error .noEntry | .error .tooManyLinks => found false
      | .error errno => .error errno
    | _, _ => found false

/-- How many names a node has. The names of a directory are its own, the point in it, and those that
lead upwards in the directories below it. -/
private def nameCount (tree : Tree) (id : Nat) : Nat :=
  match tree.node id with
  | .directory _ _ entries => 2 + entries.countP fun entry => tree.isDirectory entry.2
  | _ =>
    tree.nodes.foldl
      (fun count node =>
        match node with
        | .directory _ _ entries => count + entries.countP fun entry => entry.2 == id
        | _ => count) 0

/-- What a path leads to, if it leads to something. If not, that is reported. -/
private def itemAt (style : Style) (isGiven : Bool) (path name : Bytes) : Work (Option Item) := do
  match ← listedNode style isGiven path with
  | .ok id =>
    look fun process machine =>
      let node := machine.tree.node id
      let target := match node with
        | .link _ => (machine.tree.resolve process.directory path true).toOption.map machine.tree.node
        | _ => none
      let names := if style.format = .long then nameCount machine.tree id else 1
      some { name, id, node, target, names }
  | .error errno =>
    failFor (text "cannot access " ++ Quote.word path) errno
    return none

/-- The names in a directory that are listed. -/
private def namesIn (style : Style) (path : Bytes) : Work (List Bytes) := do
  let found ← look fun process machine =>
    match machine.tree.resolve process.directory path true with
    | .ok id => ((machine.tree.entries id).toOption.getD []).map Prod.fst
    | .error _ => []
  let dots := if style.extent = .all then [text ".", text ".."] else []
  return (dots ++ found).filter style.admits

/-- Lists a directory, under its path if that is asked for. -/
private def listDirectory (style : Style) (headed : Bool) : Nat → Bool → Bytes → Work Nat
  | 0, _, _ => return 1
  | depth + 1, isFirst, path => do
    let names ← namesIn style path
    let found ← names.mapM fun name => itemAt style false (Tree.join path name) name
    let items := style.sorted (found.filterMap id)
    if !isFirst then put [style.lineEnd]
    if headed || style.recursive then put (style.quoted path ++ [58, style.lineEnd])
    if style.format = .long || style.details.room then
      let rooms := items.map fun item => Listing.room item.node
      put (text "total " ++ style.details.measure.blocks (rooms.foldl (fun sum room => sum + room) 0) ++
        [style.lineEnd])
    put (style.layout items items)
    let code := if found.all Option.isSome then 0 else 1
    if !style.recursive then return code
    let below := items.filter fun item => isDirectory item.node && !Tree.isDots item.name
    return max code (← forAll below fun item =>
      listDirectory style headed depth false (Tree.join path item.name))

private def listDirectories (style : Style) (headed : Bool) (isFirst : Bool) :
    List Bytes → Work Nat
  | [] => return 0
  | path :: rest => do
    let size ← look fun _ machine => machine.tree.nodes.size
    let code ← listDirectory style headed (size + 1) isFirst path
    return max code (← listDirectories style headed false rest)

/-- Lists what is named, or the working directory. -/
private def listGiven (style : Style) (paths : List Bytes) : Work Nat := do
  let given := if paths.isEmpty then [text "."] else paths
  let found ← given.mapM fun path => itemAt style true path path
  let items := style.sorted (found.filterMap id)
  let (directories, files) := items.partition fun item => !style.immediate && isDirectory item.node
  put (style.layout items files)
  let headed := !(files.isEmpty && directories.length = 1 && paths.length ≤ 1)
  let code ← listDirectories style headed files.isEmpty (directories.map Item.name)
  return if found.all Option.isSome then code else listingFailure

private def listingOptions : List Known :=
  [.ofBoth 'a' "all", .ofBoth 'b' "escape", .ofBoth 'd' "directory", .ofBoth 'D' "dired",
    .ofName "full-time", .ofName "group-directories-first",
    .ofBoth 'h' "human-readable", .ofBoth 'i' "inode", .ofBoth 'k' "kibibytes",
    .ofBoth 'n' "numeric-uid-gid", .ofBoth 'G' "no-group",
    .ofBoth 'q' "hide-control-chars", .ofBoth 'r' "reverse", .ofBoth 's' "size",
    (Known.ofBoth 'w' "width").requiring, .ofBoth 'A' "almost-all", .ofBoth 'B' "ignore-backups",
    (Known.ofName "classify").admitting, .ofName "file-type", .ofName "si",
    .ofBoth 'H' "dereference-command-line", .ofName "dereference-command-line-symlink-to-dir",
    (Known.ofName "hide").requiring, (Known.ofBoth 'I' "ignore").requiring,
    (Known.ofName "indicator-style").requiring, .ofBoth 'L' "dereference", .ofBoth 'N' "literal",
    .ofBoth 'Q' "quote-name", (Known.ofName "quoting-style").requiring, .ofBoth 'R' "recursive",
    (Known.ofName "format").requiring, .ofName "show-control-chars", (Known.ofName "sort").requiring,
    (Known.ofBoth 'T' "tabsize").requiring, (Known.ofName "time").requiring,
    (Known.ofName "time-style").requiring, .ofName "zero", (Known.ofName "color").admitting,
    (Known.ofName "hyperlink").admitting, (Known.ofName "block-size").requiring, .ofBoth 'Z' "context",
    .ofName "author", (Known.ofLetter 'F').meaning "classify"] ++ Known.ofLetters "1CSUXcfglmoptuvx"

private def formatWords : Choice Listing.Format :=
  [(["verbose", "long"], .long), (["commas"], .commas), (["horizontal", "across"], .rows),
    (["vertical"], .columns), (["single-column"], .lines)]

private def orderWords : Choice Listing.Order :=
  [(["none"], .none), (["time"], .name), (["size"], .size), (["extension"], .ending),
    (["version"], .name), (["width"], .width)]

private def shownTimeWords : Choice Unit :=
  [(["atime", "access", "use"], ()), (["ctime", "status"], ()), (["mtime", "modification"], ()),
    (["birth", "creation"], ())]

private def marksWords : Choice Listing.Marks :=
  [(["none"], .none), (["slash"], .directories), (["file-type"], .types), (["classify"], .classes)]

private def quotingWords : Choice Listing.Quoting :=
  [(["literal"], .literal), (["shell"], .shell), (["shell-always"], .shellAlways),
    (["shell-escape"], .shellEscape), (["shell-escape-always"], .shellEscapeAlways), (["c"], .double),
    (["c-maybe"], .doubleMaybe), (["escape"], .escape), (["locale"], .single), (["clocale"], .double)]

private def whenWords : Choice Bool :=
  [(["always", "yes", "force"], true), (["never", "no", "none"], false),
    (["auto", "tty", "if-tty"], false)]

/-- The number that a whole text stands for, if it is not below zero. -/
private def number? (written : Bytes) : Option Nat :=
  match Numeral.signed Numeral.anyBase written with
  | some (.ofNat n, []) => if written.contains 45 then none else some n
  | _ => none

/-- The style after an option has been taken into account. -/
private def withListingOption (style : Style) (given : Given) : Work Style := do
  let argument := given.argument.getD []
  let details := style.details
  match given.mark with
  | "all" => return { style with extent := .all }
  | "almost-all" => return { style with extent := .almostAll }
  | "escape" => return { style with quoting := .escape }
  | "literal" => return { style with quoting := .literal }
  | "quote-name" => return { style with quoting := .double }
  | "quoting-style" => return { style with quoting := ← choose "quoting-style" quotingWords argument }
  | "directory" => return { style with immediate := true }
  | "reverse" => return { style with reversed := true }
  | "recursive" => return { style with recursive := true }
  | "inode" => return { style with details := { details with number := true } }
  | "size" => return { style with details := { details with room := true } }
  | "context" => return { style with details := { details with context := true } }
  | "author" => return { style with details := { details with author := true } }
  | "no-group" => return { style with details := { details with group := false } }
  | "g" => return { style with format := .long, details := { details with owner := false } }
  | "o" => return { style with format := .long, details := { details with group := false } }
  | "numeric-uid-gid" =>
    return { style with format := .long, details := { details with numeric := true } }
  | "full-time" => return { style with format := .long }
  | "human-readable" =>
    return { style with details := { details with measure := .scaled 1024 (text "KMGTPE") } }
  | "si" => return { style with details := { details with measure := .scaled 1000 (text "kMGTPE") } }
  | "hide-control-chars" => return { style with hidesBytes := true }
  | "show-control-chars" => return { style with hidesBytes := false }
  | "group-directories-first" => return { style with directoriesFirst := true }
  | "ignore-backups" => return { style with skipsBackups := true }
  | "ignore" => return { style with skipped := argument :: style.skipped }
  | "hide" => return { style with hidden := argument :: style.hidden }
  | "dereference-command-line" => return { style with following := .named }
  | "dereference-command-line-symlink-to-dir" => return { style with following := .namedDirectories }
  | "dereference" => return { style with following := .always }
  | "1" => return if style.format = .long then style else { style with format := .lines }
  | "C" => return { style with format := .columns }
  | "x" => return { style with format := .rows }
  | "m" => return { style with format := .commas }
  | "l" => return { style with format := .long }
  | "format" => return { style with format := ← choose "format" formatWords argument }
  | "classify" =>
    let wanted ← match given.argument with
      | some word => choose "classify" whenWords word
      | none => pure true
    return if wanted then { style with marks := .classes } else style
  | "file-type" => return { style with marks := .types }
  | "p" => return { style with marks := .directories }
  | "indicator-style" => return { style with marks := ← choose "indicator-style" marksWords argument }
  | "S" => return { style with order := .size }
  | "X" => return { style with order := .ending }
  | "U" => return { style with order := .none }
  | "t" | "v" => return { style with order := .name }
  | "f" =>
    return { style with order := .none, extent := .all, details := { details with room := false } }
  | "sort" => return { style with order := ← choose "sort" orderWords argument }
  | "time" =>
    choose "time" shownTimeWords argument
    return style
  | "color" | "hyperlink" =>
    if given.argument.isSome then
      let _ ← choose given.mark whenWords argument
    return style
  | "width" =>
    match number? argument with
    | some lineWidth => return { style with lineWidth }
    | none => die listingFailure (text "invalid line width: " ++ Quote.text argument)
  | "tabsize" =>
    match number? argument with
    | some tabWidth => return { style with tabWidth }
    | none => die listingFailure (text "invalid tab size: " ++ Quote.text argument)
  | "zero" =>
    let format := if style.format = .long then style.format else .lines
    return { style with format, lineEnd := 0, quoting := .literal, hidesBytes := false }
  | _ => return style

/-- The style with the width of a line that the environment tells, where that matters. -/
private def fitted (style : Style) (isGiven : Bool) : Work Style := do
  let needed := [Listing.Format.columns, .rows, .commas].contains style.format && !isGiven
  match (← read).process.value? (text "COLUMNS") with
  | none | some [] => return style
  | some columns =>
    if !needed then return style
    match number? columns with
    | some lineWidth => return { style with lineWidth }
    | none =>
      fail (text "ignoring invalid width in environment variable COLUMNS: " ++ Quote.text columns)
      return style

/-- The style with the moments of changes as the options or the environment ask for them, where they
are shown. -/
private def dated (style : Style) (arguments : Arguments) : Work Style := do
  if style.format ≠ .long then return style
  let usual := (← read).process.value? (text "TIME_STYLE")
  let asked := match arguments.last? ["full-time", "time-style"] with
    | some given => some (given.argument.getD (text "full-iso"))
    | none => usual
  match Listing.momentFormat? (asked.getD (text "locale")) with
  | .ok format =>
    return { style with details := { style.details with moment := Listing.momentIn format } }
  | .error ambiguous =>
    fail (text (if ambiguous then "ambiguous" else "invalid") ++ text " argument " ++
      Quote.text (asked.getD []) ++ text " for 'time style'")
    let line (name : Bytes) : Bytes := text "  - [posix-]" ++ name ++ [10]
    let _ ← say 2 (text "Valid arguments are:\n" ++
      (Listing.momentFormats.map Prod.fst).flatMap line ++
      text "  - +FORMAT (e.g., +%H:%M) for a 'date'-style format\n")
    seeHelp listingFailure

/-- Lists files in a format and with quotes that options can change. -/
private def listing (format : Listing.Format) (quoting : Listing.Quoting) (arguments : List Bytes) :
    Work Nat := do
  let arguments ← understand listingOptions false listingFailure arguments
  let plain : Style := {
    format, quoting, extent := .visible, order := .name, reversed := false
    directoriesFirst := false, marks := .none, hidesBytes := false, following := .namedDirectories
    immediate := false, recursive := false, lineWidth := 80, tabWidth := 8
    lineEnd := 10, skipsBackups := false, skipped := [], hidden := []
    details := {
      number := false, room := false, owner := true, group := true, author := false
      context := false, numeric := false, measure := .plain, moment := [] } }
  let style ← arguments.options.foldlM withListingOption plain
  let style ← dated (← fitted style (arguments.has "width")) arguments
  let follows :=
    ["dereference", "dereference-command-line", "dereference-command-line-symlink-to-dir"]
  let stays := style.immediate || style.marks = .classes || style.format = .long
  let following := if stays && !follows.any arguments.has then .never else style.following
  listGiven { style with following } arguments.operands

def listLines : List Bytes → Work Nat := listing .lines .literal

def listColumns : List Bytes → Work Nat := listing .columns .escape

/-- Lists files with all that is known of them. -/
def listLong : List Bytes → Work Nat := listing .long .escape

end LineShell.Tool
