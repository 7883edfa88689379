import LineShell.Bytes
/-!
# Quoted names

Messages show names in quotes. One way of quoting is that of a command interpreter: what it would
read as the name. The other way is plainer. Bytes that are no printable ASCII stand as escapes in
both.
-/

namespace LineShell.Quote

private def octal (byte : UInt8) : Bytes :=
  let n := byte.toNat
  [92, (48 + n / 64).toUInt8, (48 + n / 8 % 8).toUInt8, (48 + n % 8).toUInt8]

private def letter? : UInt8 → Option UInt8
  | 7 => some 97
  | 8 => some 98
  | 9 => some 116
  | 10 => some 110
  | 11 => some 118
  | 12 => some 102
  | 13 => some 114
  | _ => none

def isPrintable (byte : UInt8) : Bool := 32 ≤ byte && byte < 127

/-- A byte that is not printable, as an escape. -/
private def escape (byte : UInt8) : Bytes :=
  match letter? byte with
  | some letter => [92, letter]
  | none => octal byte

/-- The bytes that stand for themselves wherever they stand in a word. -/
private def isPlain (byte : UInt8) : Bool :=
  (48 ≤ byte && byte ≤ 57) || (65 ≤ byte && byte ≤ 90) || (97 ≤ byte && byte ≤ 122) ||
    (Bytes.ofString "%+,-./:@_]").contains byte

/-- Whether a command interpreter would take a name for one word that stands for itself. -/
private def isPlainWord (name : Bytes) : Bool :=
  match name with
  | [] => false
  | [byte] => isPlain byte
  | byte :: rest =>
    (isPlain byte || byte == 123 || byte == 125) &&
      rest.all fun byte => isPlain byte || (Bytes.ofString "#~\x7b\x7d").contains byte

/-- A name in single quotes. Bytes that are not printable stand as escapes between quotes of their
own. -/
private def single (name : Bytes) : Bytes :=
  let (quoted, _) := name.foldl
    (fun (state : Bytes × Bool) byte =>
      let (shown, escaping) := state
      let plainly := if escaping then shown ++ [39, 39] else shown
      if byte = 39 then (plainly ++ Bytes.ofString "'\\''", false)
      else if isPrintable byte then (plainly ++ [byte], false)
      else ((if escaping then shown else shown ++ Bytes.ofString "'$'") ++ escape byte, true))
    ([39], false)
  quoted ++ [39]

/-- A name in quotes, as a command interpreter reads it. -/
def word (name : Bytes) : Bytes :=
  if name.contains 39 && name.all isPrintable && !name.any (Bytes.ofString "\"$\\\x60!").contains then
    [34] ++ name ++ [34]
  else single name

/-- A name, in quotes only if a command interpreter would not read it as it is. -/
def wordIfNeeded (name : Bytes) : Bytes :=
  if isPlainWord name then name else word name

/-- A text with escapes for bytes that are not printable, for backslashes and for one more byte. -/
private def escaped (mark : UInt8) (text : Bytes) : Bytes :=
  text.flatMap fun byte =>
    if byte = 92 || byte = mark then [92, byte]
    else if isPrintable byte then [byte]
    else escape byte

def text (text : Bytes) : Bytes := [39] ++ escaped 39 text ++ [39]

def double (text : Bytes) : Bytes := [34] ++ escaped 34 text ++ [34]

/-- A name with escapes, also for spaces. -/
def bare (name : Bytes) : Bytes := escaped 32 name

end LineShell.Quote
