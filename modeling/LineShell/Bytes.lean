/-!
# Byte strings

Input lines, arguments, file names and messages are all strings of bytes. Nothing here assumes an
encoding, except that texts written in this library are turned into bytes by UTF-8.
-/

namespace LineShell

/-- A string of bytes, in order. -/
abbrev Bytes := List UInt8

namespace Bytes

/-- The UTF-8 bytes of a text. -/
def ofString (text : String) : Bytes :=
  text.toList.flatMap String.utf8EncodeChar

/-- A number in decimal digits. -/
def ofNat (n : Nat) : Bytes :=
  (Nat.toDigits 10 n).map fun digit => digit.toNat.toUInt8

/-- A whole number in decimal digits, with a minus sign in front of a negative one. -/
def ofInt : Int → Bytes
  | .ofNat n => ofNat n
  | .negSucc n => 45 :: ofNat (n + 1)

/-- Cuts a string at the first byte equal to `stop`, which belongs to neither part. -/
def cutAt (stop : UInt8) (bytes : Bytes) : Option (Bytes × Bytes) :=
  match bytes.dropWhile (· != stop) with
  | [] => none
  | _ :: after => some (bytes.takeWhile (· != stop), after)

/-- The parts of a string between the bytes equal to `separator`, empty ones included. -/
def splitOn (separator : UInt8) (bytes : Bytes) : List Bytes :=
  bytes.foldr
    (fun byte parts =>
      if byte = separator then [] :: parts
      else match parts with
        | [] => [[byte]]
        | part :: rest => (byte :: part) :: rest)
    [[]]

def joinWith (separator : Bytes) : List Bytes → Bytes
  | [] => []
  | part :: rest => part ++ rest.flatMap (separator ++ ·)

def toAsciiLower (bytes : Bytes) : Bytes :=
  bytes.map fun byte => if 65 ≤ byte ∧ byte ≤ 90 then byte + 32 else byte

/-- The number a non-empty string of decimal digits stands for. -/
def toNat? (bytes : Bytes) : Option Nat :=
  if bytes.isEmpty || bytes.any (fun byte => byte < 48 || 57 < byte) then none
  else some (bytes.foldl (fun total byte => total * 10 + (byte.toNat - 48)) 0)

end Bytes

end LineShell
