import LineShell.Machine.Numeral
/-!
# Floating numbers

A floating number is a whole number times a power of two. A text stands for an exact fraction, which
is rounded to the nearest floating number of a width, a half to the even one. A floating number is
an exact fraction again, and its digits are rounded in the same way.
-/

namespace LineShell

/-- A floating number without its sign. -/
inductive Magnitude where
  | finite (significand : Nat) (exponent : Int)
  | infinite
  | notNumber
  deriving DecidableEq

structure Floating where
  negative : Bool
  magnitude : Magnitude
  deriving DecidableEq

namespace Floating

structure Width where
  /-- How many bits a significand has. -/
  precision : Nat
  /-- The least exponent. -/
  least : Int
  /-- Powers of two from this one on are infinite. -/
  greatest : Int

/-- Floating numbers of 64 bits. -/
def Width.double : Width := ⟨53, -1074, 1024⟩

/-- Floating numbers of 80 bits. -/
def Width.extended : Width := ⟨64, -16445, 16384⟩

/-- The whole number nearest to a fraction, the even one of two. -/
def nearest (numerator denominator : Nat) : Nat :=
  let quotient := numerator / denominator
  let twice := 2 * (numerator % denominator)
  if twice < denominator then quotient
  else if denominator < twice then quotient + 1
  else quotient + quotient % 2

/-- The fraction that a whole number times a power is, as numerator and denominator. -/
private def fraction (n base : Nat) (power : Int) : Nat × Nat :=
  match power with
  | .ofNat power => (n * base.pow power, 1)
  | .negSucc power => (n, base.pow (power + 1))

def ofFraction (width : Width) (numerator denominator : Nat) : Magnitude :=
  if numerator = 0 then .finite 0 0
  else
    let guess : Int := (numerator.log2 : Int) - denominator.log2 - width.precision
    let exponent := max width.least guess
    let rounded (exponent : Int) : Nat :=
      match exponent with
      | .ofNat power => nearest numerator (denominator <<< power)
      | .negSucc power => nearest (numerator <<< (power + 1)) denominator
    let count := Numeral.wordCount width.precision
    let found : Int × Nat :=
      if rounded exponent < count then (exponent, rounded exponent)
      else if rounded (exponent + 1) < count then (exponent + 1, rounded (exponent + 1))
      else (exponent + 2, rounded (exponent + 2))
    if width.greatest ≤ found.1 + (found.2.log2 : Int) then .infinite else .finite found.2 found.1

/-- How large an exponent can be before a number cannot be told from zero or from infinity. -/
private def exponentLimit : Nat := 6000

private def isLetter (letter byte : UInt8) : Bool := byte == letter || byte == letter - 32

/-- The exponent behind a letter, if there is one, and what follows. -/
private def exponentAt (letter : UInt8) (text : Bytes) : Int × Bytes :=
  match text with
  | byte :: rest =>
    if isLetter letter byte then
      match rest with
      | 45 :: digits =>
        match Numeral.unsigned .decimal digits with
        | some (n, rest) => (-(n : Int), rest)
        | none => (0, text)
      | 43 :: digits =>
        match Numeral.unsigned .decimal digits with
        | some (n, rest) => (n, rest)
        | none => (0, text)
      | digits =>
        match Numeral.unsigned .decimal digits with
        | some (n, rest) => (n, rest)
        | none => (0, text)
    else (0, text)
  | [] => (0, [])

/-- The digits at the start of a text with a point among them: the number that they stand for, how
many stand behind the point, and what follows. -/
private def digitsAt (base : Numeral.Base) (text : Bytes) : Option (Nat × Nat × Bytes) :=
  let (whole, rest) := Numeral.digits base text
  let (part, rest) := match rest with
    | 46 :: behind =>
      let (part, after) := Numeral.digits base behind
      if whole.isEmpty && part.isEmpty then ([], rest) else (part, after)
    | _ => ([], rest)
  if whole.isEmpty && part.isEmpty then none
  else some (Numeral.ofDigits base (whole ++ part), part.length, rest)

/-- Whether a text starts with a word in small letters, whatever its own letters are. -/
private def startsWith (word : String) (text : Bytes) : Bool :=
  (Bytes.ofString word).isPrefixOf (Bytes.toAsciiLower text)

/-- The number without a sign at the start of a text, and what follows. -/
private def unsignedAt (width : Width) (text : Bytes) : Option (Magnitude × Bytes) :=
  if startsWith "infinity" text then some (.infinite, text.drop 8)
  else if startsWith "inf" text then some (.infinite, text.drop 3)
  else if startsWith "nan" text then some (.notNumber, text.drop 3)
  else
    let hexadecimal := if startsWith "0x" text then digitsAt .hexadecimal (text.drop 2) else none
    match hexadecimal with
    | some (n, places, rest) =>
      let (exponent, rest) := exponentAt 112 rest
      let exponent := max (-(4 * exponentLimit : Int)) (min (4 * exponentLimit) exponent)
      let (numerator, denominator) := fraction n 2 (exponent - 4 * places)
      some (ofFraction width numerator denominator, rest)
    | none =>
      match digitsAt .decimal text with
      | none => none
      | some (n, places, rest) =>
        let (exponent, rest) := exponentAt 101 rest
        let exponent := max (-exponentLimit : Int) (min exponentLimit exponent)
        let (numerator, denominator) := fraction n 10 (exponent - places)
        some (ofFraction width numerator denominator, rest)

/-- The number behind blanks and a sign at the start of a text, and what follows. -/
def read? (width : Width) (text : Bytes) : Option (Floating × Bytes) :=
  let isSpace (byte : UInt8) : Bool := byte == 32 || (9 ≤ byte && byte ≤ 13)
  let signed (negative : Bool) (rest : Bytes) : Option (Floating × Bytes) :=
    (unsignedAt width rest).map fun (magnitude, rest) => (⟨negative, magnitude⟩, rest)
  match text.dropWhile isSpace with
  | 45 :: rest => signed true rest
  | 43 :: rest => signed false rest
  | rest => signed false rest

/-- The digits of a whole number, at least some of them. -/
private def digitsOf (least n : Nat) : Bytes :=
  let digits := Bytes.ofNat n
  List.replicate (least - digits.length) 48 ++ digits

/-- Digits with a point in front of the last places. The point is left out if there are none, unless
it is always to be there. -/
private def pointed (places : Nat) (point : Bool) (digits : Bytes) : Bytes :=
  let whole := digits.take (digits.length - places)
  if places = 0 then if point then whole ++ [46] else whole
  else whole ++ [46] ++ digits.drop (digits.length - places)

/-- A number with some places behind the point. -/
def positional (significand : Nat) (exponent : Int) (places : Nat) (point : Bool) : Bytes :=
  let (numerator, denominator) := fraction significand 2 exponent
  pointed places point (digitsOf (places + 1) (nearest (numerator * Nat.pow 10 places) denominator))

/-- The power of ten of the first digit of a number, and the number as a whole number with some
places behind that digit. -/
private def scaled (significand : Nat) (exponent : Int) (places : Nat) : Int × Nat :=
  if significand = 0 then (0, 0)
  else
    let (numerator, denominator) := fraction significand 2 exponent
    let rounded (power : Int) : Nat :=
      match (places : Int) - power with
      | .ofNat shift => nearest (numerator * Nat.pow 10 shift) denominator
      | .negSucc shift => nearest numerator (denominator * Nat.pow 10 (shift + 1))
    let length (n : Nat) : Int := (Nat.toDigits 10 n).length
    let guess : Int :=
      if denominator ≤ numerator then length (numerator / denominator) - 1
      else -(length (denominator / numerator))
    let isRight (power : Int) : Bool :=
      Nat.pow 10 places ≤ rounded power && rounded power < Nat.pow 10 (places + 1)
    match [guess, guess + 1, guess - 1].find? isRight with
    | some power => (power, rounded power)
    | none => (guess, rounded guess)

/-- The sign and the digits of an exponent. -/
private def exponentText (power : Int) : Bytes :=
  [if power < 0 then 45 else 43] ++ digitsOf 2 power.natAbs

/-- A number with one digit in front of the point and some places behind it. -/
def scientific (significand : Nat) (exponent : Int) (places : Nat) (point : Bool) : Bytes :=
  let (power, n) := scaled significand exponent places
  pointed places point (digitsOf (places + 1) n) ++ [101] ++ exponentText power

/-- A number without the zeros at its end. -/
private def trimmed (digits : Bytes) : Bytes :=
  if digits.contains 46 then
    let rest := digits.reverse.dropWhile (· == 48)
    (if rest.head? = some 46 then rest.tail else rest).reverse
  else digits

/-- A number with some digits in all, in the way that is shorter. -/
def general (significand : Nat) (exponent : Int) (count : Nat) (marked : Bool) : Bytes :=
  let count := max 1 count
  let (power, n) := scaled significand exponent (count - 1)
  let keep (digits : Bytes) : Bytes := if marked then digits else trimmed digits
  if -4 ≤ power ∧ power < count then
    keep (positional significand exponent ((count : Int) - 1 - power).toNat marked)
  else keep (pointed (count - 1) marked (digitsOf count n)) ++ [101] ++ exponentText power

/-- A number in hexadecimal digits times a power of two, with its first digit as wide as the width
asks for. -/
def hexadecimal (width : Width) (significand : Nat) (exponent : Int) (places : Option Nat)
    (point : Bool) : Bytes :=
  let wide := width.precision % 4 = 0
  let own := (width.precision + 2) / 4 - (if wide then 1 else 0)
  let length := width.precision
  let shift := if significand = 0 then 0 else length - 1 - significand.log2
  let shift := min shift (exponent - width.least).toNat
  let n := significand <<< (shift + if wide then 0 else own * 4 - (length - 1))
  let power : Int := if significand = 0 then 0
    else exponent - shift + (if wide then (length : Int) - 4 else length - 1)
  let places' := places.getD own
  let rounded := if places' < own then nearest n (Nat.pow 16 (own - places'))
    else n * Nat.pow 16 (places' - own)
  let hex := (Nat.toDigits 16 rounded).map fun digit => digit.toNat.toUInt8
  let hex := List.replicate (places' + 1 - hex.length) 48 ++ hex
  let body := pointed places' (point || places'  ≠ 0) hex
  let body := if places.isNone then
      let body := trimmed body
      if point && !body.contains 46 then body ++ [46] else body
    else body
  Bytes.ofString "0x" ++ body ++ [112, if power < 0 then 45 else 43] ++ Bytes.ofNat power.natAbs

end Floating

end LineShell
