import LineShell.Bytes
/-!
# Numerals

Whole numbers as programs are given them: with a sign or without, in decimal, in octal behind a
zero, or in hexadecimal behind `0x`. A numeral is read from the start of a text as far as it goes,
so a reader can tell a text that is no number from one that goes on after it.
-/

namespace LineShell.Numeral

/-- How many values a word of some bits has. -/
def wordCount (bits : Nat) : Nat := 1 <<< bits

inductive Base where
  | octal
  | decimal
  | hexadecimal
  deriving DecidableEq

namespace Base

def value : Base → Nat
  | .octal => 8
  | .decimal => 10
  | .hexadecimal => 16

/-- The number that a byte stands for as a digit of some base, if it is one. -/
def digit? (base : Base) (byte : UInt8) : Option Nat :=
  let n :=
    if 48 ≤ byte ∧ byte ≤ 57 then byte.toNat - 48
    else if 97 ≤ byte ∧ byte ≤ 102 then byte.toNat - 87
    else if 65 ≤ byte ∧ byte ≤ 70 then byte.toNat - 55
    else base.value
  if n < base.value then some n else none

end Base

/-- The digits at the start of a text. -/
def digits (base : Base) : Bytes → List Nat × Bytes
  | [] => ([], [])
  | byte :: rest =>
    match base.digit? byte with
    | none => ([], byte :: rest)
    | some n =>
      let (found, rest) := digits base rest
      (n :: found, rest)

def ofDigits (base : Base) (digits : List Nat) : Nat :=
  digits.foldl (fun total digit => total * base.value + digit) 0

/-- A numeral without a sign at the start of a text. -/
def unsigned (base : Base) (text : Bytes) : Option (Nat × Bytes) :=
  match digits base text with
  | ([], _) => none
  | (found, rest) => some (ofDigits base found, rest)

/-- A numeral without a sign whose first bytes tell its base. -/
def anyBase (text : Bytes) : Option (Nat × Bytes) :=
  match text with
  | 48 :: 120 :: rest | 48 :: 88 :: rest =>
    (unsigned .hexadecimal rest).or (some (0, text.tail))
  | 48 :: _ => unsigned .octal text
  | _ => unsigned .decimal text

private def isSpace (byte : UInt8) : Bool := byte == 32 || (9 ≤ byte && byte ≤ 13)

def signed (unsigned : Bytes → Option (Nat × Bytes)) (text : Bytes) : Option (Int × Bytes) :=
  match text.dropWhile isSpace with
  | 45 :: rest => (unsigned rest).map fun (n, rest) => (-(n : Int), rest)
  | 43 :: rest => (unsigned rest).map fun (n, rest) => ((n : Int), rest)
  | rest => (unsigned rest).map fun (n, rest) => ((n : Int), rest)

/-- The number that a whole text stands for, with blanks around it or without. -/
def whole? (unsigned : Bytes → Option (Nat × Bytes)) (text : Bytes) : Option Int :=
  match signed unsigned text with
  | some (n, rest) => if rest.all isSpace then some n else none
  | none => none

end LineShell.Numeral
