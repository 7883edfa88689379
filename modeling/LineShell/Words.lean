import LineShell.Bytes
/-!
# Words of a line

A line is cut into words at runs of delimiters. There is no quoting and no expansion: every byte
that is not a delimiter belongs to exactly one word, and the words stand in the order of the line.
-/

namespace LineShell

/-- The bytes that separate words: space, tab, carriage return, newline and bell. -/
def delimiters : List UInt8 := [32, 9, 13, 10, 7]

def isDelimiter (byte : UInt8) : Bool :=
  delimiters.contains byte

/-- What is known of a line from some place on: the rest of the word that covers that place, empty
if none does, and the words after it. -/
structure Suffix where
  word : Bytes
  later : List Bytes
  deriving DecidableEq, Repr

namespace Suffix

def atEnd : Suffix := ⟨[], []⟩

/-- The words from this place on, the covering one included. -/
def words (suffix : Suffix) : List Bytes :=
  if suffix.word.isEmpty then suffix.later else suffix.word :: suffix.later

/-- What is known one byte earlier. -/
def before (byte : UInt8) (suffix : Suffix) : Suffix :=
  if isDelimiter byte then ⟨[], suffix.words⟩ else ⟨byte :: suffix.word, suffix.later⟩

end Suffix

/-- The words of a line: its maximal runs of bytes that are no delimiters, in order. -/
def wordsOf (line : Bytes) : List Bytes :=
  (line.foldr Suffix.before .atEnd).words

end LineShell
