import LineShell.Bytes
/-!
# UTF-8

A byte string is read from left to right and falls into pieces. A piece is either one well-formed
sequence, which stands for a character, or a broken one: the longest start of a well-formed sequence
that the following byte does not continue, or a single byte that can start none. `Utf8.shown` is the
string with every broken piece replaced, and is what messages print of a name that may hold any
bytes.
-/

namespace LineShell.Utf8

/-- A part of a byte string: the bytes of one character, or bytes that are no part of one. -/
inductive Piece where
  | whole (bytes : Bytes)
  | broken (bytes : Bytes)
  deriving DecidableEq, Repr

/-- What is still needed to complete a sequence: how many bytes, and the range of the next one. -/
structure Need where
  count : Nat
  low : UInt8
  high : UInt8
  deriving DecidableEq, Repr

/-- What a first byte asks for, if it can start a sequence. The narrower ranges keep out overlong
forms, surrogates and numbers above the last code point. -/
def Need.ofLead (byte : UInt8) : Option Need :=
  if byte < 0x80 then some ⟨0, 0x80, 0xbf⟩
  else if byte < 0xc2 then none
  else if byte < 0xe0 then some ⟨1, 0x80, 0xbf⟩
  else if byte = 0xe0 then some ⟨2, 0xa0, 0xbf⟩
  else if byte = 0xed then some ⟨2, 0x80, 0x9f⟩
  else if byte < 0xf0 then some ⟨2, 0x80, 0xbf⟩
  else if byte = 0xf0 then some ⟨3, 0x90, 0xbf⟩
  else if byte < 0xf4 then some ⟨3, 0x80, 0xbf⟩
  else if byte = 0xf4 then some ⟨3, 0x80, 0x8f⟩
  else none

/-- A sequence that has been started and not completed. -/
structure Partial where
  read : Bytes
  need : Need
  deriving DecidableEq, Repr

/-- Where a left-to-right reading stands: the pieces found, the last one first, and the sequence
that is open. -/
structure Reading where
  found : List Piece
  opened : Option Partial
  deriving DecidableEq, Repr

/-- Reads a byte with no sequence open. -/
def Reading.start (found : List Piece) (byte : UInt8) : Reading :=
  match Need.ofLead byte with
  | none => ⟨.broken [byte] :: found, none⟩
  | some ⟨0, _, _⟩ => ⟨.whole [byte] :: found, none⟩
  | some need => ⟨found, some ⟨[byte], need⟩⟩

def Reading.step (reading : Reading) (byte : UInt8) : Reading :=
  match reading.opened with
  | none => Reading.start reading.found byte
  | some sequence =>
    if sequence.need.low ≤ byte ∧ byte ≤ sequence.need.high then
      if sequence.need.count ≤ 1 then ⟨.whole (sequence.read ++ [byte]) :: reading.found, none⟩
      else ⟨reading.found, some ⟨sequence.read ++ [byte], ⟨sequence.need.count - 1, 0x80, 0xbf⟩⟩⟩
    else Reading.start (.broken sequence.read :: reading.found) byte

/-- The pieces of a finished reading, in order. A sequence left open is broken. -/
def Reading.pieces (reading : Reading) : List Piece :=
  match reading.opened with
  | none => reading.found.reverse
  | some sequence => (.broken sequence.read :: reading.found).reverse

def pieces (bytes : Bytes) : List Piece :=
  (bytes.foldl Reading.step ⟨[], none⟩).pieces

def replacement : Bytes := [0xef, 0xbf, 0xbd]

def Piece.shown : Piece → Bytes
  | .whole bytes => bytes
  | .broken _ => replacement

/-- Whether a piece stands for a character. -/
def Piece.isWhole : Piece → Bool
  | .whole _ => true
  | .broken _ => false

/-- The byte string with the replacement character in the place of each broken piece. -/
def shown (bytes : Bytes) : Bytes :=
  (pieces bytes).flatMap Piece.shown

/-- Whether a byte string is UTF-8 from end to end. -/
def isValid (bytes : Bytes) : Bool :=
  (pieces bytes).all Piece.isWhole

/-- The code point that the bytes of one character stand for. -/
def codePoint : Bytes → Nat
  | [a] => a.toNat
  | [a, b] => (a.toNat - 0xc0) * 64 + (b.toNat - 0x80)
  | [a, b, c] => (a.toNat - 0xe0) * 4096 + (b.toNat - 0x80) * 64 + (c.toNat - 0x80)
  | [a, b, c, d] =>
    (a.toNat - 0xf0) * 262144 + (b.toNat - 0x80) * 4096 + (c.toNat - 0x80) * 64 + (d.toNat - 0x80)
  | _ => 0

/-- A character of a text: its code point and its bytes. -/
structure Scalar where
  code : Nat
  bytes : Bytes
  deriving DecidableEq, Repr

/-- The characters of a byte string; broken pieces are passed over. -/
def scalars (bytes : Bytes) : List Scalar :=
  (pieces bytes).filterMap fun
    | .whole bytes => some ⟨codePoint bytes, bytes⟩
    | .broken _ => none

end LineShell.Utf8
