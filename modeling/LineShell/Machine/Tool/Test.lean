import LineShell.Machine.Tool.Basic
import LineShell.Machine.Tool.Condition
import LineShell.Machine.Tool.Quote
/-!
# The program that tests a condition

How many words a condition has decides what they mean, as long as they are no more than four: words
in the place of an operator are operators, and the others are not. Longer conditions are tests
joined by "and" and "or", of which the first binds most.
-/

namespace LineShell

open Condition (Place)

namespace Tool.Test

inductive Fault where
  /-- A word is missing at the end. -/
  | missing
  | notUnary (word : Bytes)
  | notBinary (word : Bytes)
  | notNumber (word : Bytes)
  /-- The condition ends in front of this word. -/
  | extra (word : Bytes)
  | unclosed (found : Option Bytes)
  /-- An operator that does not compare lengths is to do so. -/
  | noLength (operator : Bytes)
  deriving DecidableEq

/-- What is said about words that are no condition, of which the last is given. -/
def Fault.message (last : Bytes) : Fault → Bytes
  | missing => text "missing argument after " ++ Quote.text last
  | notUnary word => Quote.text word ++ text ": unary operator expected"
  | notBinary word => Quote.text word ++ text ": binary operator expected"
  | notNumber word => text "invalid integer " ++ Quote.text word
  | extra word => text "extra argument " ++ Quote.text word
  | unclosed none => text "')' expected"
  | unclosed (some word) => text "')' expected, found " ++ Quote.text word
  | noLength operator => operator ++ text " does not accept -l"

private def isBinary (word : Bytes) : Bool :=
  (["=", "==", "!=", "-eq", "-ne", "-lt", "-le", "-gt", "-ge", "-nt", "-ot", "-ef"].map text).contains
    word

private def isUnary : Bytes → Bool
  | [45, _] => true
  | _ => false

private def lengthMark : Bytes := text "-l"

/-- A part of a condition: its outcome, and the words that follow it. -/
private abbrev Part := Except Fault (Bool × List Bytes)

private def numberOf (word : Bytes) : Except Fault Int :=
  match Condition.number? word with
  | some n => .ok n
  | none => .error (.notNumber word)

/-- The number that a word stands for, its length if that is asked for. -/
private def valueOf (measured : Bool) (word : Bytes) : Except Fault Int :=
  if measured then .ok word.length else numberOf word

/-- A test of two words, where a mark in front of a word asks for its length. -/
private def two (place : Place) (measured : Bool) (left operator : Bytes) (words : List Bytes) :
    Part := do
  let (measuredRight, right, rest) := match words with
    | mark :: word :: rest =>
      if mark = lengthMark then (true, word, rest) else (false, mark, word :: rest)
    | words => (false, words.headD [], words.tail)
  if let some compare := Condition.comparison? operator then
    let left ← valueOf measured left
    return (compare left (← valueOf measuredRight right), rest)
  if [text "-nt", text "-ot", text "-ef"].contains operator && (measured || measuredRight) then
    throw (.noLength operator)
  let isThere (path : Bytes) : Bool := Condition.fits place 101 path
  let outcome :=
    if operator = text "!=" then left != right
    else if operator = text "-nt" then isThere left && !isThere right
    else if operator = text "-ot" then !isThere left && isThere right
    else if operator = text "-ef" then Condition.isSame place left right
    else left == right
  return (outcome, rest)

private def one (place : Place) (words : List Bytes) : Part := do
  match words with
  | [] => throw .missing
  | operator :: rest =>
    let letter := operator.getD 1 0
    if !(text "bcdefghknprstuwxzGLNOS").contains letter then throw (.notUnary operator)
    match rest with
    | [] => throw .missing
    | word :: rest =>
      let outcome ← match letter with
        | 110 => pure !word.isEmpty
        | 122 => pure word.isEmpty
        | 116 => (numberOf word).map fun _ => false
        | 78 => pure false
        | letter => pure (Condition.fits place letter word)
      return (outcome, rest)

private def twoWords (place : Place) (words : List Bytes) : Part :=
  match words with
  | first :: rest =>
    if first = text "!" then .ok ((rest.headD []).isEmpty, rest.tail)
    else if isUnary first then one place words
    else .error .missing
  | [] => .error .missing

mutual

private def any (place : Place) (words : List Bytes) : Nat → Part
  | 0 => .error .missing
  | steps + 1 => do
    let (first, rest) ← all place words steps
    if rest.head? = some (text "-o") then
      let (second, rest) ← any place rest.tail steps
      return (first || second, rest)
    else return (first, rest)

private def all (place : Place) (words : List Bytes) : Nat → Part
  | 0 => .error .missing
  | steps + 1 => do
    let (first, rest) ← term place words steps
    if rest.head? = some (text "-a") then
      let (second, rest) ← all place rest.tail steps
      return (first && second, rest)
    else return (first, rest)

private def term (place : Place) (words : List Bytes) : Nat → Part
  | 0 => .error .missing
  | steps + 1 => do
    match words with
    | [] => throw .missing
    | first :: rest =>
      if first = text "!" then
        let (outcome, rest) ← term place rest steps
        return (!outcome, rest)
      else if first = text "(" then
        if rest.isEmpty then throw .missing
        let inner := 1 + (rest.tail.takeWhile (· != text ")")).length
        let count := if 4 < inner then rest.length else inner
        let (outcome, rest) ← counted place count rest steps
        match rest with
        | [] => throw (.unclosed none)
        | word :: rest =>
          if word = text ")" then return (outcome, rest) else throw (.unclosed (some word))
      else match words with
        | mark :: left :: operator :: right :: more =>
          if mark = lengthMark && isBinary operator then two place true left operator (right :: more)
          else if isBinary left then two place false mark left (operator :: right :: more)
          else if isUnary first then one place words
          else return (!first.isEmpty, rest)
        | [left, operator, right] =>
          if isBinary operator then two place false left operator [right]
          else if isUnary first then one place words
          else return (!first.isEmpty, rest)
        | _ => if isUnary first then one place words else return (!first.isEmpty, rest)

/-- A condition that is given so many words. -/
private def counted (place : Place) (count : Nat) (words : List Bytes) : Nat → Part
  | 0 => .error .missing
  | steps + 1 => do
    match count, words with
    | 1, word :: rest => return (!word.isEmpty, rest)
    | 2, _ => twoWords place words
    | 3, _ => threeWords place words steps
    | 4, first :: rest =>
      if first = text "!" then
        let (outcome, rest) ← threeWords place rest steps
        return (!outcome, rest)
      else if first = text "(" && rest[2]? == some (text ")") then
        let (outcome, rest) ← twoWords place rest
        return (outcome, rest.tail)
      else any place words steps
    | _, _ => any place words steps

private def threeWords (place : Place) (words : List Bytes) : Nat → Part
  | 0 => .error .missing
  | steps + 1 => do
    match words with
    | first :: second :: third :: rest =>
      if isBinary second then two place false first second (third :: rest)
      else if first = text "!" then
        let (outcome, rest) ← twoWords place (second :: third :: rest)
        return (!outcome, rest)
      else if first = text "(" && third == text ")" then return (!second.isEmpty, rest)
      else if second = text "-a" || second == text "-o" then any place words steps
      else throw (.notBinary second)
    | _ => throw .missing

end

/-- The outcome of words that are one condition from end to end. -/
def holds (place : Place) (words : List Bytes) : Except Fault Bool := do
  if words.isEmpty then return false
  let (outcome, rest) ← counted place words.length words (6 * words.length + 6)
  match rest with
  | [] => return outcome
  | word :: _ => throw (.extra word)

end Tool.Test

namespace Tool

def test (arguments : List Bytes) : Work Nat := do
  let place ← look fun process machine => (⟨machine, process.directory⟩ : Place)
  match Test.holds place arguments with
  | .ok true => return 0
  | .ok false => return 1
  | .error fault =>
    fail (fault.message (arguments.getLast?.getD []))
    return 2

def bracketed (arguments : List Bytes) : Option (List Bytes) :=
  if arguments.getLast? = some [93] then some arguments.dropLast else none

/-- The exit code for a condition in brackets. -/
def bracketTest (arguments : List Bytes) : Work Nat := do
  match bracketed arguments with
  | some arguments => test arguments
  | none =>
    fail (Bytes.ofString "missing ']'")
    return 2

end Tool

end LineShell
