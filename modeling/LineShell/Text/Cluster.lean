import LineShell.Text.ClusterProperty
import LineShell.Text.Utf8
/-!
# Clusters of characters

A text falls into clusters, the units that one backspace removes. Whether two neighbouring
characters stay together depends on their classes and on a little of what came before them, which
is kept in `Context`.
-/

namespace LineShell.Text

/-- What the rules need to know of the cluster being read. -/
structure Context where
  /-- The class of its last character. -/
  last : ClusterProperty
  /-- Whether it ends in a picture and characters that extend it. -/
  pictured : Bool
  /-- Whether it ends in a picture, characters that extend it, and a joiner. -/
  pictureJoined : Bool
  /-- Whether it ends in an odd number of regional signs. -/
  oddRegional : Bool
  /-- Whether it ends in a consonant and signs that extend it. -/
  consonant : Bool
  /-- Whether one of those signs ties the next consonant. -/
  linked : Bool

namespace Context

def start (code : Nat) : Context where
  last := .of code
  pictured := pictographs.holds code
  pictureJoined := false
  oddRegional := ClusterProperty.of code == .regional
  consonant := linkedConsonants.holds code
  linked := false

/-- The context after one more character of the same cluster. -/
def extend (context : Context) (code : Nat) : Context :=
  let property := ClusterProperty.of code
  let grows := (property == .extend || property == .joiner) && code != 0x200c
  { last := property
    pictured := pictographs.holds code || (context.pictured && property == .extend)
    pictureJoined := context.pictured && property == .joiner
    oddRegional := property == .regional && !context.oddRegional
    consonant := linkedConsonants.holds code || (context.consonant && grows)
    linked := !linkedConsonants.holds code && context.consonant && grows &&
      (context.linked || consonantLinkers.holds code) }

/-- Whether a character belongs to the cluster being read. -/
def joins (context : Context) (code : Nat) : Bool :=
  let property := ClusterProperty.of code
  match context.last, property with
  | .carriageReturn, .lineFeed => true
  | .carriageReturn, _ | .lineFeed, _ | .control, _ => false
  | _, .carriageReturn | _, .lineFeed | _, .control => false
  | .leading, .leading | .leading, .vowel | .leading, .leadingVowel
  | .leading, .leadingVowelTrailing => true
  | .leadingVowel, .vowel | .vowel, .vowel | .leadingVowel, .trailing | .vowel, .trailing => true
  | .leadingVowelTrailing, .trailing | .trailing, .trailing => true
  | _, .extend | _, .joiner | _, .spacing => true
  | .beforeNext, _ => true
  | _, .regional => context.oddRegional
  | _, _ =>
    (context.pictureJoined && pictographs.holds code) ||
      (context.linked && linkedConsonants.holds code)

end Context

/-- A reading of a text into clusters: those found, the last one first, and the one being read. -/
structure ClusterReading where
  found : List Bytes
  opened : Option (Bytes × Context)

def ClusterReading.step (reading : ClusterReading) (character : Utf8.Scalar) : ClusterReading :=
  match reading.opened with
  | none => ⟨reading.found, some (character.bytes, .start character.code)⟩
  | some (cluster, context) =>
    if context.joins character.code then
      ⟨reading.found, some (cluster ++ character.bytes, context.extend character.code)⟩
    else ⟨cluster :: reading.found, some (character.bytes, .start character.code)⟩

def clusters (text : Bytes) : List Bytes :=
  let reading := (Utf8.scalars text).foldl ClusterReading.step ⟨[], none⟩
  match reading.opened with
  | none => reading.found.reverse
  | some (cluster, _) => (cluster :: reading.found).reverse

end LineShell.Text
