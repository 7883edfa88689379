import LineShell.Text.Unprintable
import LineShell.Text.Utf8
/-!
# Quoted texts

Records and diagnostics show a text in double quotes, so that its ends and every unusual character
can be seen. `Quoted.text` quotes what is known to be a text, and `Quoted.bytes` what may be any
bytes, such as the name of a program; the second also escapes the single quote.
-/

namespace LineShell.Quoted

open Text (unprintable fillers extending)

private def hexDigit (n : Nat) : UInt8 :=
  if n < 10 then (48 + n).toUInt8 else (87 + n).toUInt8

def hex (n : Nat) : Bytes :=
  (Nat.toDigits 16 n).map fun digit => digit.toNat.toUInt8

/-- A byte that stands for no character. -/
def rawByte (byte : UInt8) : Bytes :=
  [92, 120, hexDigit (byte.toNat / 16), hexDigit (byte.toNat % 16)]

/-- A character given by its number. -/
def codeEscape (code : Nat) : Bytes :=
  Bytes.ofString "\\u\x7b" ++ hex code ++ Bytes.ofString "\x7d"

/-- The escapes that have a letter or sign of their own. -/
def shortEscape? : Nat → Option Bytes
  | 0 => some (Bytes.ofString "\\0")
  | 9 => some (Bytes.ofString "\\t")
  | 10 => some (Bytes.ofString "\\n")
  | 13 => some (Bytes.ofString "\\r")
  | 34 => some (Bytes.ofString "\\\"")
  | 92 => some (Bytes.ofString "\\\\")
  | _ => none

/-- The sound marks that extend a letter but have a width of their own. -/
def soundMarks : Text.CodeRanges := [(0xff9e, 0xff9f)]

/-- Whether a character is shown by its number. -/
def hidden (code : Nat) : Bool :=
  (extending.holds code && !soundMarks.holds code) || unprintable.holds code || fillers.holds code

def scalar (character : Utf8.Scalar) : Bytes :=
  match shortEscape? character.code with
  | some escape => escape
  | none => if hidden character.code then codeEscape character.code else character.bytes

/-- A text in double quotes. -/
def text (content : Bytes) : Bytes :=
  [34] ++ (Utf8.scalars content).flatMap scalar ++ [34]

/-- One piece of a byte string. ASCII controls are shown as bytes, other characters by their
number where they cannot be shown as they are. -/
def piece : Utf8.Piece → Bytes
  | .broken bytes => bytes.flatMap rawByte
  | .whole bytes =>
    let code := Utf8.codePoint bytes
    if code = 39 then Bytes.ofString "\\'"
    else match shortEscape? code with
      | some escape => escape
      | none =>
        if code < 32 ∨ code = 127 then bytes.flatMap rawByte
        else if hidden code then codeEscape code
        else bytes

/-- A byte string in double quotes. -/
def bytes (content : Bytes) : Bytes :=
  [34] ++ (Utf8.pieces content).flatMap piece ++ [34]

end LineShell.Quoted
