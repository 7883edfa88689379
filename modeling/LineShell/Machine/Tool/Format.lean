import LineShell.Machine.Tool.Decimal
import LineShell.Machine.Tool.Quote
/-!
# Formatted output

A format is a text with escapes and conversions. A conversion takes the next argument and lays it
out; the format is used again until the arguments are used up. Arguments that are no proper numbers
are complained of, and a conversion that does not exist ends the output. There are two dialects,
that of the command interpreter and that of the program.
-/

namespace LineShell

inductive Dialect where
  /-- Those of the command interpreter. -/
  | plain
  /-- Those of the program. -/
  | extended
  deriving DecidableEq

namespace Escape

private def isOctal (byte : UInt8) : Bool := 48 ≤ byte && byte ≤ 55

private def ofOctal (digits : Bytes) : UInt8 :=
  (digits.foldl (fun (total : Nat) (digit : UInt8) => total * 8 + (digit.toNat - 48)) 0).toUInt8

private def letter? : UInt8 → Option UInt8
  | 97 => some 7
  | 98 => some 8
  | 101 => some 27
  | 102 => some 12
  | 110 => some 10
  | 114 => some 13
  | 116 => some 9
  | 118 => some 11
  | 92 => some 92
  | _ => none

inductive Found where
  /-- These bytes, and then the rest. -/
  | bytes (bytes rest : Bytes)
  /-- The end of the output. -/
  | cut
  /-- Something that makes no sense, for a reason. -/
  | bad (reason : Bytes)

/-- What octal digits stand for. In a text a zero in front of three digits is none of them. -/
private def octal (inText : Bool) (byte : UInt8) (rest : Bytes) : Found :=
  let most := if byte = 48 && inText then 3 else 2
  let digits := (rest.take most).takeWhile isOctal
  .bytes [ofOctal (byte :: digits)] (rest.drop digits.length)

private def hexadecimalDigits (count : Nat) (n : Nat) : Bytes :=
  let digits := (Nat.toDigits 16 n).map fun digit => digit.toNat.toUInt8
  List.replicate (count - digits.length) 48 ++ digits

private def upper (bytes : Bytes) : Bytes :=
  bytes.map fun byte => if 97 ≤ byte ∧ byte ≤ 122 then byte - 32 else byte

/-- What the number of a character stands for, given by a letter and as many digits as that asks
for. A character outside of ASCII stays written so. -/
private def character (letter : UInt8) (rest : Bytes) : Found :=
  let count := if letter = 117 then 4 else 8
  let (digits, behind) := Numeral.digits .hexadecimal (rest.take count)
  if digits.length < count || !behind.isEmpty then
    .bad (Bytes.ofString "missing hexadecimal number in escape")
  else
    let n := Numeral.ofDigits .hexadecimal digits
    if 0xD800 ≤ n && n < 0xE000 then
      .bad (Bytes.ofString "invalid universal character name \\" ++ [letter] ++
        hexadecimalDigits count n)
    else if n < 128 then .bytes [n.toUInt8] (rest.drop count)
    else
      let written := if n < 0x10000 then 117 :: hexadecimalDigits 4 n else 85 :: hexadecimalDigits 8 n
      .bytes (92 :: written.take 1 ++ upper (written.drop 1)) (rest.drop count)

/-- What the text behind a backslash stands for, in a text or in a format. -/
def read (dialect : Dialect) (inText : Bool) : Bytes → Found
  | [] => .bytes [92] []
  | byte :: rest =>
    if isOctal byte then octal inText byte rest
    else match letter? byte with
      | some value => .bytes [value] rest
      | none =>
        if byte = 99 && (inText || dialect = .extended) then .cut
        else if dialect = .plain then .bytes [92] (byte :: rest)
        else if byte = 34 then .bytes [34] rest
        else if byte = 120 then
          match Numeral.unsigned .hexadecimal (rest.take 2) with
          | some (value, behind) => .bytes [value.toUInt8] (behind ++ rest.drop 2)
          | none => .bad (Bytes.ofString "missing hexadecimal number in escape")
        else if byte = 117 || byte = 85 then character byte rest
        else .bytes [92, byte] rest

structure Text where
  shown : Bytes
  /-- Whether an escape ends the output. -/
  cut : Bool
  /-- Why an escape makes no sense. -/
  fault : Option Bytes

private def readAll (dialect : Dialect) : Nat → Bytes → Text
  | 0, _ => ⟨[], false, none⟩
  | _, [] => ⟨[], false, none⟩
  | steps + 1, 92 :: rest =>
    match read dialect true rest with
    | .cut => ⟨[], true, none⟩
    | .bad reason => ⟨[], false, some reason⟩
    | .bytes bytes rest =>
      let text := readAll dialect steps rest
      { text with shown := bytes ++ text.shown }
  | steps + 1, byte :: rest =>
    let text := readAll dialect steps rest
    { text with shown := byte :: text.shown }

def ofText (dialect : Dialect) (text : Bytes) : Text :=
  readAll dialect (text.length + 1) text

/-- A text with the escapes read that the program knows which only prints. It leaves alone what
makes no sense, and knows no characters by number. -/
private def readPrinted : Nat → Bytes → Bytes × Bool
  | 0, _ => ([], false)
  | _, [] => ([], false)
  | steps + 1, 92 :: byte :: rest =>
    let kept : Found := .bytes [92] (byte :: rest)
    let isUnknown := byte = 34 || byte = 117 || byte = 85
    let found := if isUnknown then kept else read .extended true (byte :: rest)
    match found with
    | .cut => ([], true)
    | .bad _ =>
      let (shown, cut) := readPrinted steps (byte :: rest)
      (92 :: shown, cut)
    | .bytes bytes rest =>
      let (shown, cut) := readPrinted steps rest
      (bytes ++ shown, cut)
  | steps + 1, byte :: rest =>
    let (shown, cut) := readPrinted steps rest
    (byte :: shown, cut)

/-- A text that is only printed, with its escapes read, and whether one ends the output. -/
def printed (text : Bytes) : Bytes × Bool :=
  readPrinted (text.length + 1) text

end Escape

namespace Format

structure Layout where
  flags : Bytes
  width : Nat
  precision : Option Nat

namespace Layout

def left (layout : Layout) : Bool := layout.flags.contains 45
def plus (layout : Layout) : Bool := layout.flags.contains 43
def blank (layout : Layout) : Bool := layout.flags.contains 32
def zeros (layout : Layout) : Bool := layout.flags.contains 48
def marked (layout : Layout) : Bool := layout.flags.contains 35

def text (layout : Layout) (text : Bytes) : Bytes :=
  let fill := List.replicate (layout.width - text.length) 32
  if layout.left then text ++ fill else fill ++ text

/-- Digits with their sign or mark in their field. -/
def digits (layout : Layout) (lead digits : Bytes) : Bytes :=
  let least := layout.precision.getD
    (if layout.zeros && !layout.left then layout.width - lead.length else 1)
  layout.text (lead ++ List.replicate (least - digits.length) 48 ++ digits)

/-- The digits of a number. Zero has none if none are asked for. -/
private def digitsOf (layout : Layout) (base n : Nat) : Bytes :=
  if n = 0 && layout.precision == some 0 then []
  else (Nat.toDigits base n).map fun digit => digit.toNat.toUInt8

def signed (layout : Layout) (n : Int) : Bytes :=
  let lead : Bytes :=
    if n < 0 then [45] else if layout.plus then [43] else if layout.blank then [32] else []
  layout.digits lead (layout.digitsOf 10 n.natAbs)

private def upper (bytes : Bytes) : Bytes :=
  bytes.map fun byte => if 97 ≤ byte ∧ byte ≤ 122 then byte - 32 else byte

/-- A number without a sign in the base that a letter names. -/
def unsigned (layout : Layout) (kind : UInt8) (n : Nat) : Bytes :=
  match kind with
  | 111 =>
    let digits := layout.digitsOf 8 n
    layout.digits [] (if layout.marked && digits.head? != some 48 then 48 :: digits else digits)
  | 120 => layout.digits (if layout.marked && n != 0 then [48, 120] else []) (layout.digitsOf 16 n)
  | 88 =>
    layout.digits (if layout.marked && n != 0 then [48, 88] else []) (upper (layout.digitsOf 16 n))
  | _ => layout.digits [] (layout.digitsOf 10 n)

/-- The start of a text in its field. -/
def textStart (layout : Layout) (text : Bytes) : Bytes :=
  layout.text (match layout.precision with
    | some n => text.take n
    | none => text)

/-- A floating number with its sign, as a letter asks for. One that is infinite is filled with
spaces. -/
def floating (layout : Layout) (width : Floating.Width) (kind : UInt8) (n : Floating) : Bytes :=
  let capital := kind < 97
  let kind := if capital then kind + 32 else kind
  let lead : Bytes :=
    if n.negative then [45] else if layout.plus then [43] else if layout.blank then [32] else []
  let shown (digits : Bytes) : Bytes := if capital then upper digits else digits
  match n.magnitude with
  | .infinite => layout.text (lead ++ shown (Bytes.ofString "inf"))
  | .notNumber => layout.text (lead ++ shown (Bytes.ofString "nan"))
  | .finite significand exponent =>
    let places := layout.precision.getD 6
    let body := match kind with
      | 97 => Floating.hexadecimal width significand exponent layout.precision layout.marked
      | 101 => Floating.scientific significand exponent places layout.marked
      | 102 => Floating.positional significand exponent places layout.marked
      | _ => Floating.general significand exponent places layout.marked
    let (lead, body) := if kind = 97 then (lead ++ body.take 2, body.drop 2) else (lead, body)
    let zeros := if layout.zeros && !layout.left then layout.width - lead.length - body.length else 0
    layout.text (shown (lead ++ List.replicate zeros 48 ++ body))

end Layout

/-- What an output comes to: bytes, and complaints about arguments among them. -/
inductive Piece where
  | shown (bytes : Bytes)
  | complaint (text : Bytes)

structure State where
  /-- The last piece first. -/
  pieces : List Piece
  arguments : List Bytes
  /-- Whether an argument was taken. -/
  taken : Bool

/-- Why an output ends before its format does. -/
inductive Stop where
  /-- An escape asks for it. -/
  | cut
  | fault (text : Bytes)

abbrev Print (α : Type) := ExceptT Stop (StateM State) α

private def put (bytes : Bytes) : Print Unit :=
  modify fun state => { state with pieces := .shown bytes :: state.pieces }

private def complain (text : Bytes) : Print Unit :=
  modify fun state => { state with pieces := .complaint text :: state.pieces }

private def stop {α : Type} (text : Bytes) : Print α := throw (.fault text)

/-- Takes the next argument, if there is one. -/
private def next : Print (Option Bytes) := do
  let state ← get
  match state.arguments with
  | [] => return none
  | argument :: rest =>
    set { state with arguments := rest, taken := true }
    return some argument

end Format

namespace Dialect

def width : Dialect → Floating.Width
  | .plain => .double
  | .extended => .extended

private def named (dialect : Dialect) (argument : Bytes) : Bytes :=
  match dialect with
  | .plain => argument
  | .extended => Quote.text argument

private def notNumber (dialect : Dialect) (argument : Bytes) : Bytes :=
  dialect.named argument ++ Bytes.ofString (match dialect with
    | .plain => ": expected numeric value"
    | .extended => ": expected a numeric value")

private def notWhole (dialect : Dialect) (argument : Bytes) : Bytes :=
  dialect.named argument ++ Bytes.ofString (match dialect with
    | .plain => ": not completely converted"
    | .extended => ": value not completely converted")

private def tooLarge (dialect : Dialect) (argument : Bytes) : Bytes :=
  dialect.named argument ++ Bytes.ofString ": Numerical result out of range"

end Dialect

namespace Format

variable (dialect : Dialect)

/-- The number that an argument stands for, where a quote stands for the number of the byte behind
it. An argument that is no number stands for zero. -/
private def numberOf {α : Type} (ofNat : Nat → α) (read? : Bytes → Option (α × Bytes))
    (argument : Bytes) : Print α := do
  match argument with
  | 39 :: rest | 34 :: rest =>
    if dialect = .plain || !rest.isEmpty then
      if dialect = .extended && 1 < rest.length then
        complain (Bytes.ofString "warning: " ++ rest.drop 1 ++ Bytes.ofString
          ": character(s) following character constant have been ignored")
      return ofNat (rest.headD 0).toNat
  | _ => pure ()
  match read? argument with
  | none =>
    if !argument.isEmpty then complain (dialect.notNumber argument)
    return ofNat 0
  | some (n, rest) =>
    if !rest.isEmpty then complain (dialect.notWhole argument)
    return n

/-- A number between two bounds. One outside is complained of. -/
private def within (argument : Bytes) (low high n : Int) : Print Int := do
  if low ≤ n ∧ n ≤ high then return n
  else
    complain (dialect.tooLarge argument)
    return if n < low then low else high

/-- The whole number that the next argument is, zero if there is none. -/
private def number (withSign : Bool) : Print Int := do
  match ← next with
  | none => return 0
  | some argument =>
    let n ← numberOf dialect (fun n => (n : Int)) (Numeral.signed Numeral.anyBase) argument
    if withSign then within dialect argument (-(Numeral.wordCount 63 : Int)) (Numeral.wordCount 63 - 1) n
    else
      let count := Numeral.wordCount 64
      let inRange := n.natAbs < count
      if !inRange then complain (dialect.tooLarge argument)
      return if inRange then n % count else count - 1

/-- The floating number that the next argument is, zero if there is none. -/
private def floatingNumber : Print Floating := do
  let argument := (← next).getD []
  let ofNat (n : Nat) : Floating := ⟨false, Floating.ofFraction dialect.width n 1⟩
  numberOf dialect ofNat (Floating.read? dialect.width) argument

private def measureLimit : Int := Numeral.wordCount 31 - 1

/-- A width or a precision, given by an argument. The command interpreter takes it modulo a power of
two. -/
private def givenMeasure (isWidth : Bool) : Print Int := do
  let argument := (← get).arguments.headD []
  let n ← number dialect true
  match dialect with
  | .plain => return n.bmod (Numeral.wordCount 32)
  | .extended =>
    if measureLimit < n || (isWidth && n < -measureLimit - 1) then
      let what := if isWidth then "invalid field width: " else "invalid precision: "
      stop (Bytes.ofString what ++ Quote.text argument)
    return n

/-- A width or a precision: digits, or an argument in the place of an asterisk. -/
private def measure (isWidth : Bool) (format : Bytes) : Print (Option Int × Bytes) := do
  let tooLarge : Bytes := Bytes.ofString (match dialect with
    | .plain => "xvsnprintf failed"
    | .extended => "write error")
  let (found, rest) ← match format with
    | 42 :: rest => do pure (some (← givenMeasure dialect isWidth), rest)
    | _ => pure (match Numeral.unsigned .decimal format with
      | some (n, rest) => (some (n : Int), rest)
      | none => (none, format))
  if found.any fun n => decide (measureLimit < n) || (isWidth && decide (n < -measureLimit)) then
    stop tooLarge
  return (found, rest)

private def putEscaped (lay : Bytes → Bytes) (text : Bytes) : Print Unit := do
  let text := Escape.ofText dialect text
  put (lay text.shown)
  match text.fault with
  | some reason => stop reason
  | none => if text.cut then throw .cut

/-- Lays out the next argument as a letter asks for, if it asks for something. -/
private def convert (kind : UInt8) (layout : Layout) : Print Bool := do
  match kind with
  | 115 =>
    put (layout.textStart ((← next).getD []))
    return true
  | 99 =>
    put (layout.text [((← next).getD []).headD 0])
    return true
  | 100 | 105 =>
    put (layout.signed (← number dialect true))
    return true
  | 111 | 117 | 120 | 88 =>
    put (layout.unsigned kind (← number dialect false).toNat)
    return true
  | 97 | 65 | 101 | 69 | 102 | 70 | 103 | 71 =>
    put (layout.floating dialect.width kind (← floatingNumber dialect))
    return true
  | _ => return false

/-- The parts of a conversion in front of its letter. -/
private structure Head where
  layout : Layout
  /-- What the conversion asks for besides, by the signs in front of its letter. -/
  signs : Bytes
  rest : Bytes

private def head (format : Bytes) : Print Head := do
  let isFlag (byte : UInt8) : Bool :=
    (Bytes.ofString (if dialect = .plain then "#-+ 0" else "#-+ 0'I")).contains byte
  let flags := format.takeWhile isFlag
  let (width, rest) ← measure dialect true (format.dropWhile isFlag)
  let (precision, rest) ← match rest with
    | 46 :: rest => do
      let (precision, rest) ← measure dialect false rest
      pure (some (precision.getD 0), rest)
    | _ => pure (none, rest)
  let width := width.getD 0
  let layout : Layout := {
    flags := if width < 0 then 45 :: flags else flags
    width := width.natAbs
    precision := (precision.filter (0 ≤ ·)).map Int.toNat }
  return ⟨layout, if precision.isSome then 46 :: flags else flags, rest⟩

/-- Whether the program lays out what a letter asks for with some signs in front of it. -/
private def admits (signs : Bytes) (kind : UInt8) : Bool :=
  let excluded (sign : UInt8) : String :=
    match sign with
    | 39 | 73 => "aAceEosxX"
    | 35 => "cdisu"
    | 48 => "cs"
    | 46 => "c"
    | _ => ""
  signs.all fun sign => !(Bytes.ofString (excluded sign)).contains kind

/-- The text of a conversion that makes no sense. -/
private def written (format rest : Bytes) : Bytes :=
  37 :: format.take (format.length - rest.length)

/-- Carries out the conversion behind a percent sign, as the command interpreter does. -/
private def plainConversion (format : Bytes) : Print Bytes := do
  let head ← head dialect format
  match head.rest with
  | [] => stop (Bytes.ofString "missing format character")
  | 98 :: rest =>
    putEscaped dialect head.layout.textStart ((← next).getD [])
    return rest
  | kind :: rest =>
    if ← convert dialect kind head.layout then return rest
    else stop (written format rest ++ Bytes.ofString ": invalid directive")

/-- Carries out the conversion behind a percent sign, as the program does. -/
private def extendedConversion (format : Bytes) : Print Bytes := do
  match format with
  | 98 :: rest =>
    putEscaped dialect id ((← next).getD [])
    return rest
  | 113 :: rest =>
    put (((← next).map Quote.wordIfNeeded).getD [])
    return rest
  | _ =>
    let head ← head dialect format
    let rest := head.rest.dropWhile (Bytes.ofString "lLhjtz").contains
    let kind := rest.headD 0
    if admits head.signs kind then
      if ← convert dialect kind head.layout then return rest.tail
    stop (written format rest.tail ++ Bytes.ofString ": invalid conversion specification")

/-- Goes through a format once. -/
private def once : Nat → Bytes → Print Unit
  | 0, _ => return
  | _, [] => return
  | steps + 1, 37 :: 37 :: rest => do
    put [37]
    once steps rest
  | steps + 1, 37 :: rest => do
    let rest ← match dialect with
      | .plain => plainConversion dialect rest
      | .extended => extendedConversion dialect rest
    once steps rest
  | steps + 1, 92 :: rest => do
    match Escape.read dialect false rest with
    | .cut => throw .cut
    | .bad reason => stop reason
    | .bytes bytes rest =>
      put bytes
      once steps rest
  | steps + 1, byte :: rest => do
    put [byte]
    once steps rest

/-- Uses a format again until the arguments are used up. -/
private def again (format : Bytes) : Nat → Print Unit
  | 0 => return
  | rounds + 1 => do
    modify fun state => { state with taken := false }
    once dialect (format.length + 1) format
    let state ← get
    if state.taken && !state.arguments.isEmpty then again format rounds

/-- A finished output: its pieces, the fault that ended it, and the arguments that it did not
use. -/
structure Output where
  pieces : List Piece
  fault : Option Bytes
  unused : List Bytes

/-- The output that a format makes of its arguments. -/
def output (format : Bytes) (arguments : List Bytes) : Output :=
  let (result, state) := (again dialect format (arguments.length + 1)).run.run ⟨[], arguments, false⟩
  match result with
  | .ok () => ⟨state.pieces.reverse, none, state.arguments⟩
  | .error .cut => ⟨state.pieces.reverse, none, []⟩
  | .error (.fault text) => ⟨state.pieces.reverse, some text, []⟩

def Output.shown (output : Output) : Bytes :=
  output.pieces.flatMap fun
    | .shown bytes => bytes
    | .complaint _ => []

def Output.complaints (output : Output) : List Bytes :=
  output.pieces.filterMap fun
    | .shown _ => none
    | .complaint text => some text

end Format

end LineShell
