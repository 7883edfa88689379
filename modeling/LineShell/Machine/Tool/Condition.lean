import LineShell.Machine.Change
import LineShell.Machine.Numeral
/-!
# Conditions

A condition is a list of words: tests of one word or two, joined by operators for negation, "and"
and "or", of which the first binds most. A word is an operator only where it can be one, so a word
that stands alone is always tested for being there. Conditions are so for the command interpreter;
what is tested of files and numbers is the same for others.
-/

namespace LineShell.Condition

inductive Fault where
  | notNumber (word : Bytes)
  /-- The condition ends with this word, but words follow. -/
  | unexpected (word : Bytes)
  | noArgument (operator : Bytes)
  | unclosed
  deriving DecidableEq

def Fault.text : Fault → Bytes
  | .notNumber word => Bytes.ofString "Illegal number: " ++ word
  | .unexpected word => word ++ Bytes.ofString ": unexpected operator"
  | .noArgument operator => operator ++ Bytes.ofString ": argument expected"
  | .unclosed => Bytes.ofString "closing paren expected"

structure Place where
  machine : Machine
  directory : Nat

/-- What a word can be in a condition. -/
private inductive Role where
  | missing
  | operand
  | unary
  | binary
  | negation
  | conjunction
  | disjunction
  | opening
  | closing
  deriving DecidableEq

private def isBinary (word : Bytes) : Bool :=
  (["=", "!=", "<", ">", "-eq", "-ne", "-lt", "-le", "-gt", "-ge", "-nt", "-ot", "-ef"].map
    Bytes.ofString).contains word

private def isUnary : Bytes → Bool
  | [45, letter] => (Bytes.ofString "rwxefdcbpugkstznhOGLS").contains letter
  | _ => false

/-- Whether a word before these cannot take one of them for its own. -/
private def standsAlone : List Bytes → Bool
  | [] => true
  | [_] => false
  | next :: _ => isBinary next

private def role : List Bytes → Role
  | [] => .missing
  | word :: rest =>
    if isBinary word then .binary
    else if isUnary word then if standsAlone rest then .operand else .unary
    else if word = Bytes.ofString "!" then .negation
    else if word = Bytes.ofString "-a" then .conjunction
    else if word = Bytes.ofString "-o" then .disjunction
    else if word = Bytes.ofString "(" then if rest.isEmpty then .operand else .opening
    else if word = Bytes.ofString ")" then .closing
    else .operand

/-- The number that a word stands for, with blanks around it or without. -/
def number? (word : Bytes) : Option Int :=
  Numeral.whole? (Numeral.unsigned .decimal) word

private def numberOf (word : Bytes) : Except Fault Int :=
  match number? word with
  | some n => if -(Numeral.wordCount 63 : Int) ≤ n ∧ n < Numeral.wordCount 63 then .ok n else .error (.notNumber word)
  | none => .error (.notNumber word)

private def idOf (place : Place) (follow : Bool) (path : Bytes) : Option Nat :=
  (place.machine.tree.resolve place.directory path follow).toOption

/-- Whether a file is as a letter asks. Nothing is said of files that are of no use to a script. -/
def fits (place : Place) (letter : UInt8) (path : Bytes) : Bool :=
  let node := (idOf place true path).map place.machine.tree.node
  match letter with
  | 101 | 114 | 119 | 79 | 71 => node.isSome
  | 102 => match node with
    | some (.file ..) | some (.tool _) => true
    | _ => false
  | 100 => match node with
    | some (.directory ..) => true
    | _ => false
  | 99 => match node with
    | some .null | some .full => true
    | _ => false
  | 120 => match node with
    | some (.file mode _) => mode &&& 0o111 != 0
    | some (.directory ..) | some (.tool _) => true
    | _ => false
  | 115 => match node with
    | some (.file _ content) => !content.isEmpty
    | some (.directory ..) | some (.tool _) => true
    | _ => false
  | 117 | 103 | 107 =>
    let bit := if letter = 117 then 0o4000 else if letter = 103 then 0o2000 else 0o1000
    node.any fun node => Machine.permissions node &&& bit != 0
  | 104 | 76 => match (idOf place false path).map place.machine.tree.node with
    | some (.link _) => true
    | _ => false
  | _ => false

def isSame (place : Place) (left right : Bytes) : Bool :=
  match idOf place true left, idOf place true right with
  | some left, some right => left == right
  | _, _ => false

/-- How an operator compares numbers, if it does. -/
def comparison? (operator : Bytes) : Option (Int → Int → Bool) :=
  match operator with
  | [45, 101, 113] => some fun a b => a == b
  | [45, 110, 101] => some fun a b => a != b
  | [45, 108, 116] => some fun a b => decide (a < b)
  | [45, 108, 101] => some fun a b => decide (a ≤ b)
  | [45, 103, 116] => some fun a b => decide (b < a)
  | [45, 103, 101] => some fun a b => decide (b ≤ a)
  | _ => none

/-- The outcome of a test of one word. -/
private def testOne (place : Place) (operator argument : Bytes) : Except Fault Bool :=
  match operator.getD 1 0 with
  | 110 => .ok !argument.isEmpty
  | 122 => .ok argument.isEmpty
  | 116 => (numberOf argument).map fun _ => false
  | letter => .ok (fits place letter argument)

/-- The outcome of a test of two words. -/
private def testTwo (place : Place) (left operator right : Bytes) : Except Fault Bool := do
  if let some compare := comparison? operator then
    let left ← numberOf left
    return compare left (← numberOf right)
  match operator with
  | [61] => return left == right
  | [33, 61] => return left != right
  | [60] => return decide (left < right)
  | [62] => return decide (right < left)
  | [45, 101, 102] => return isSame place left right
  | _ => return false

mutual

/-- Conditions joined by "or". The second part of the result is what follows them. -/
private def any (place : Place) (words : List Bytes) : Nat → Except Fault (Bool × List Bytes)
  | 0 => .ok (false, words)
  | steps + 1 => do
    let (first, rest) ← all place words steps
    if role rest = .disjunction then
      let (second, rest) ← any place rest.tail steps
      return (first || second, rest)
    else return (first, rest)

private def all (place : Place) (words : List Bytes) : Nat → Except Fault (Bool × List Bytes)
  | 0 => .ok (false, words)
  | steps + 1 => do
    let (first, rest) ← negated place words steps
    if role rest = .conjunction then
      let (second, rest) ← all place rest.tail steps
      return (first && second, rest)
    else return (first, rest)

private def negated (place : Place) (words : List Bytes) : Nat → Except Fault (Bool × List Bytes)
  | 0 => .ok (false, words)
  | steps + 1 => do
    if role words = .negation then
      let (holds, rest) ← negated place words.tail steps
      return (!holds, rest)
    else primary place words steps

private def primary (place : Place) (words : List Bytes) : Nat → Except Fault (Bool × List Bytes)
  | 0 => .ok (false, words)
  | steps + 1 => do
    match role words, words with
    | .opening, _ :: inner =>
      if role inner = .closing then return (false, inner.tail)
      let (holds, rest) ← any place inner steps
      if role rest = .closing then return (holds, rest.tail) else throw .unclosed
    | .unary, operator :: argument :: rest => return (← testOne place operator argument, rest)
    | _, left :: operator :: rest =>
      if role (operator :: rest) = .binary then
        match rest with
        | [] => throw (.noArgument operator)
        | right :: rest => return (← testTwo place left operator right, rest)
      else return (!left.isEmpty, operator :: rest)
    | _, [word] => return (!word.isEmpty, [])
    | _, [] => return (false, [])

end

/-- The outcome of words that are one condition from end to end. -/
private def whole (place : Place) (words : List Bytes) : Except Fault Bool := do
  let (holds, rest) ← any place words (4 * words.length + 4)
  if rest.isEmpty then return holds
  else throw (.unexpected (words.getD (words.length - rest.length - 1) []))

/-- The outcome of a condition. Three words with an operator between them, and a negation or
parentheses around two or one, are read as such whatever the words are. -/
def holds (place : Place) : List Bytes → Except Fault Bool
  | [] => .ok false
  | [left, operator, right] =>
    if isBinary operator then testTwo place left operator right
    else if left = Bytes.ofString "(" ∧ right = Bytes.ofString ")" then whole place [operator]
    else if left = Bytes.ofString "!" then (whole place [operator, right]).map (!·)
    else whole place [left, operator, right]
  | [first, second, third, fourth] =>
    if first = Bytes.ofString "(" ∧ fourth = Bytes.ofString ")" then whole place [second, third]
    else if first = Bytes.ofString "!" then
      if isBinary third then (testTwo place second third fourth).map (!·)
      else if second = Bytes.ofString "(" ∧ fourth = Bytes.ofString ")" then
        (whole place [third]).map (!·)
      else if second = Bytes.ofString "!" then (whole place [third, fourth]).map (!·)
      else (whole place [second, third, fourth]).map (!·)
    else whole place [first, second, third, fourth]
  | words => whole place words

end LineShell.Condition
