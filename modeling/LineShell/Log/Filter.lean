import LineShell.Log.Line
import LineShell.Log.Pattern
/-!
# Log filters

A filter is a list of directives separated by commas. A directive gives a level to the parts of the
shell whose names start with a target, or to all of them, and it can be limited to entries with
certain fields. Of the directives that concern an entry the most specific decides whether the entry
is kept.
-/

namespace LineShell.Log

/-- How much is kept: nothing, or every entry down to some level. -/
abbrev Limit := Option Level

/-- Whether a limit lets a level through. -/
def Limit.admits (limit : Limit) (level : Level) : Bool :=
  match limit with
  | none => false
  | some most => level.rank ≤ most.rank

structure Directive where
  /-- What the origin of an entry has to start with. -/
  target : Option Bytes
  /-- The fields an entry has to have. -/
  fields : List Bytes
  limit : Limit
  deriving DecidableEq, Repr

inductive FilterError where
  | badDirective
  | badLevel
  | badValue (fault : Pattern.Fault)
  /-- A part of it would begin or end inside of a character. -/
  | splitCharacter
  deriving DecidableEq, Repr

def FilterError.message : FilterError → Bytes
  | .badDirective => Bytes.ofString "invalid filter directive"
  | .badLevel => Bytes.ofString ("error parsing level filter: expected one of \"off\", \"error\", " ++
      "\"warn\", \"info\", \"debug\", \"trace\", or a number 0-5")
  | .badValue .malformed => Bytes.ofString "invalid field filter: error building NFA"
  | .badValue .wordEdge =>
    Bytes.ofString ("invalid field filter: unsupported regex feature for DFAs: cannot build DFAs " ++
      "for regexes with Unicode word boundaries; switch to ASCII word boundaries, or " ++
      "heuristically enable Unicode word boundaries or use a different regex engine")
  | .splitCharacter => []

namespace Limit

/-- The limits by number. -/
def ofRank : Nat → Option Limit
  | 0 => some none
  | 1 => some (some .error)
  | 2 => some (some .warn)
  | 3 => some (some .info)
  | 4 => some (some .debug)
  | 5 => some (some .trace)
  | _ => none

/-- The limits by name. -/
def named : List (Bytes × Limit) :=
  [(Bytes.ofString "off", none), (Bytes.ofString "error", some .error),
    (Bytes.ofString "warn", some .warn), (Bytes.ofString "info", some .info),
    (Bytes.ofString "debug", some .debug), (Bytes.ofString "trace", some .trace)]

/-- The number in a text: digits, and perhaps a plus sign in front of them. -/
private def rank? (text : Bytes) : Option Nat :=
  Bytes.toNat? (if text.head? = some 43 then text.tail else text)

/-- The limit that a text names, by number or by name in any letter case. -/
def ofText? (text : Bytes) : Option Limit :=
  match (rank? text).bind ofRank with
  | some limit => some limit
  | none => named.lookup (Bytes.toAsciiLower text)

end Limit

namespace Directive

/-- Where the reading of a directive stands. Places are counted in bytes from its start. -/
inductive Reading where
  | start
  | levelOrTarget (start : Nat)
  | span (start : Nat)
  | field (start : Nat)
  | fields
  | target
  | level (start : Nat)

/-- What a directive has given so far, and whether a part of it asks for something no entry has: an
enclosing span, or a certain value of a field. -/
structure Given where
  target : Option Bytes
  fields : List Bytes
  valued : Bool
  spanned : Bool

/-- Whether no character lies across a place of a text. -/
private def isEdge (text : Bytes) (place : Nat) : Bool :=
  match text.drop place with
  | [] => true
  | byte :: _ => byte < 128 || 192 ≤ byte

private def from? (text : Bytes) (start : Nat) : Except FilterError Bytes :=
  if isEdge text start then .ok (text.drop start) else .error .splitCharacter

private def slice (text : Bytes) (start stop : Nat) : Except FilterError Bytes :=
  if isEdge text stop then from? (text.take stop) start else .error .splitCharacter

/-- A limit written behind an equals sign. None written is the least severe. -/
private def limitOf (text : Bytes) : Except FilterError Limit :=
  if text.isEmpty then .ok (some .trace)
  else match Limit.ofText? text with
    | some limit => .ok limit
    | none => .error .badLevel

/-- Adds a field. What follows an equals sign in it, up to another one, is the value that it has to
have. -/
private def Given.addField (given : Given) (text : Bytes) : Except FilterError Given :=
  if text.isEmpty then .error .badDirective
  else match Bytes.splitOn 61 text with
    | name :: value :: _ =>
      match Pattern.fault? value with
      | none => .ok { given with fields := given.fields ++ [name], valued := true }
      | some fault => .error (.badValue fault)
    | _ => .ok { given with fields := given.fields ++ [text] }

/-- Reads the character at a place. -/
private def step (text : Bytes) (given : Given) (reading : Reading) (place : Nat)
    (character : Utf8.Scalar) : Except FilterError (Given × Reading) :=
  let code := character.code
  match reading with
  | .start =>
    if code = 91 then .ok (given, .span (place + 1))
    else if code = 45 ∨ code = 58 ∨ code = 95 ∨ Text.alphanumeric.holds code then
      .ok (given, .levelOrTarget place)
    else .error .badDirective
  | .levelOrTarget start =>
    if code = 61 ∨ code = 91 then
      (slice text start place).map fun target =>
        ({ given with target }, if code = 61 then .level (place + 1) else .span (place + 1))
    else .ok (given, reading)
  | .target => if code = 61 then .ok (given, .level (place + 1)) else .error .badDirective
  | .span start =>
    if code = 93 then (slice text start place).map fun _ => ({ given with spanned := true }, .target)
    else if code = 123 then
      (slice text start place).map fun span =>
        ({ given with spanned := !span.isEmpty }, .field (place + 1))
    else .ok (given, reading)
  | .field start =>
    if code = 125 then do
      let given ← given.addField (← slice text start place)
      return (given, .fields)
    else .ok (given, reading)
  | .fields => if code = 93 then .ok (given, .target) else .error .badDirective
  | .level _ => .ok (given, reading)

private def readFrom (text : Bytes) (given : Given) (reading : Reading) (place : Nat) :
    List Utf8.Scalar → Except FilterError (Given × Reading)
  | [] => .ok (given, reading)
  | character :: rest =>
    match step text given reading place character with
    | .error error => .error error
    | .ok (given, reading) => readFrom text given reading (place + character.bytes.length) rest

private def trimmed (characters : List Utf8.Scalar) : List Utf8.Scalar :=
  let isBlank (character : Utf8.Scalar) : Bool := Text.blank.holds character.code
  ((characters.dropWhile isBlank).reverse.dropWhile isBlank).reverse

def ofText (text : Bytes) : Except FilterError (Option Directive) :=
  match readFrom text ⟨none, [], false, false⟩ .start 0 (trimmed (Utf8.scalars text)) with
  | .error error => .error error
  | .ok (given, reading) =>
    let finish (target : Option Bytes) (limit : Limit) : Option Directive :=
      if given.spanned || given.valued then none else some ⟨target, given.fields, limit⟩
    match reading with
    | .levelOrTarget start => do
      let word ← from? text start
      match Limit.ofText? word with
      | some limit => return finish none limit
      | none => return finish (some word) (some .trace)
    | .level start => do
      let limit ← limitOf (← from? text start)
      return finish given.target limit
    | .target => .ok (finish given.target (some .trace))
    | _ => .error .badDirective

def concerns (directive : Directive) (entry : Entry) : Bool :=
  (match directive.target with
    | none => true
    | some target => target.isPrefixOf entry.origin) &&
  directive.fields.all fun name =>
    name == Bytes.ofString "message" || entry.fields.any fun field => field.name == name

/-- Whether the first of two directives is more specific: by its target, then by its fields. -/
def outranks (a b : Directive) : Bool :=
  let size (directive : Directive) : Nat :=
    match directive.target with
    | none => 0
    | some target => target.length + 1
  if size a ≠ size b then size b < size a
  else if a.fields.length ≠ b.fields.length then b.fields.length < a.fields.length
  else if a.target ≠ b.target then b.target.getD [] < a.target.getD []
  else b.fields < a.fields

end Directive

/-- A filter: its directives, at most one for each target and fields. -/
structure Filter where
  directives : List Directive
  deriving DecidableEq, Repr

namespace Filter

/-- The filter of no directives, which keeps errors. -/
def standard : Filter := ⟨[⟨none, [], some .error⟩]⟩

/-- The filter with one more directive, which replaces an earlier one for the same target and
fields. -/
def add (filter : Filter) (directive : Directive) : Filter :=
  ⟨filter.directives.filter (fun other =>
    !(other.target == directive.target && other.fields == directive.fields)) ++ [directive]⟩

def ofText (text : Bytes) : Except FilterError Filter :=
  match ((Bytes.splitOn 44 text).filter fun part => !part.isEmpty).mapM Directive.ofText with
  | .error error => .error error
  | .ok [] => .ok standard
  | .ok directives => .ok (directives.reduceOption.foldl add ⟨[]⟩)

/-- The most specific of the directives that concern an entry. -/
def deciding? (filter : Filter) (entry : Entry) : Option Directive :=
  filter.directives.foldl
    (fun best directive =>
      if directive.concerns entry then
        match best with
        | none => some directive
        | some other => if directive.outranks other then some directive else best
      else best)
    none

def keeps (filter : Filter) (entry : Entry) : Bool :=
  match filter.deciding? entry with
  | none => false
  | some directive => directive.limit.admits entry.level

end Filter

end LineShell.Log
