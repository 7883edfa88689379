import LineShell.Machine.Numeral
import LineShell.Machine.Script.Command
/-!
# Arithmetic in scripts

Whole numbers of 64 bits with the usual operators and precedences. A name stands for the number that
its variable holds, and for zero if it holds none, and can be given another number. What the value
of an expression does not depend on is read but not evaluated.
-/

namespace LineShell.Script.Arithmetic

inductive Token where
  | number (n : Int)
  | name (bytes : Bytes)
  | sign (text : String)
  /-- Something that is no part of an expression. -/
  | bad
  deriving DecidableEq

inductive Fault where
  /-- Something else is expected. -/
  | expected (what : String)
  | divisor
  /-- A variable holds a text that is no number. -/
  | notNumber (text : Bytes)
  deriving DecidableEq

/-- The text of a fault in an expression. -/
def Fault.text (source : Bytes) : Fault → Bytes
  | .expected what => ofReason ("expecting " ++ what)
  | .divisor => ofReason "division by zero"
  | .notNumber text => Bytes.ofString "Illegal number: " ++ text
where
  ofReason (reason : String) : Bytes :=
    Bytes.ofString ("arithmetic expression: " ++ reason ++ ": \"") ++ source ++ [34]

/-- The signs, longer ones before those that they start with. -/
private def signs : List String :=
  ["<<=", ">>=", "<<", ">>", "<=", ">=", "==", "!=", "&&", "||", "+=", "-=", "*=", "/=", "%=", "&=",
    "|=", "^=", "+", "-", "*", "/", "%", "<", ">", "!", "~", "&", "|", "^", "(", ")", "?", ":", "="]

private def greatest : Nat := Numeral.wordCount 63 - 1

private def tokens : Nat → Bytes → List Token
  | 0, _ => []
  | _, [] => []
  | steps + 1, byte :: rest =>
    if [32, 9, 10].contains byte then tokens steps rest
    else if isDigit byte then
      match Numeral.anyBase (byte :: rest) with
      | some (n, rest) => .number (min n greatest : Nat) :: tokens steps rest
      | none => [.bad]
    else if startsName byte then
      .name ((byte :: rest).takeWhile continuesName) ::
        tokens steps ((byte :: rest).dropWhile continuesName)
    else match signs.find? fun sign => (Bytes.ofString sign).isPrefixOf (byte :: rest) with
      | some sign => .sign sign :: tokens steps ((byte :: rest).drop sign.length)
      | none => [.bad]

/-- The operators between two operands, those that bind most first. -/
private def levels : List (List String) :=
  [["*", "/", "%"], ["+", "-"], ["<<", ">>"], ["<", ">", "<=", ">="], ["==", "!="], ["&"], ["^"], ["|"]]

/-- The operators that change a variable, and what they do with its value. -/
private def assignments : List (String × Option String) :=
  [("=", none), ("+=", some "+"), ("-=", some "-"), ("*=", some "*"), ("/=", some "/"),
    ("%=", some "%"), ("<<=", some "<<"), (">>=", some ">>"), ("&=", some "&"), ("^=", some "^"),
    ("|=", some "|")]

private def truth (holds : Bool) : Int := if holds then 1 else 0

/-- The value of two operands with an operator between them. -/
private def apply (operator : String) (a b : Int) : Except Fault Int :=
  let wide (n : Int) : Int64 := Int64.ofInt n
  match operator with
  | "|" => .ok (wide a ||| wide b).toInt
  | "^" => .ok (wide a ^^^ wide b).toInt
  | "&" => .ok (wide a &&& wide b).toInt
  | "==" => .ok (truth (a == b))
  | "!=" => .ok (truth (a != b))
  | "<" => .ok (truth (a < b))
  | ">" => .ok (truth (b < a))
  | "<=" => .ok (truth (a ≤ b))
  | ">=" => .ok (truth (b ≤ a))
  | "<<" => .ok (wide a <<< wide b).toInt
  | ">>" => .ok (wide a >>> wide b).toInt
  | "+" => .ok (wide (a + b)).toInt
  | "-" => .ok (wide (a - b)).toInt
  | "*" => .ok (wide (a * b)).toInt
  | "/" => if b = 0 then .error .divisor else .ok (wide (a.tdiv b)).toInt
  | _ => if b = 0 then .error .divisor else .ok (a.tmod b)

/-- Where an evaluation stands: what has not been read, and the texts that have been given to
variables, the last one first. -/
structure Calculation where
  rest : List Token
  given : List (Bytes × Bytes)

abbrev Evaluate (α : Type) := StateT Calculation (Except Fault) α

/-- The number that the text of a variable stands for. An empty one stands for zero. -/
def numberOf (text : Bytes) : Except Fault Int :=
  if text.isEmpty then .ok 0
  else match Numeral.whole? Numeral.anyBase text with
    | some n =>
      if -(greatest + 1 : Int) ≤ n ∧ n ≤ greatest then .ok n else .error (.notNumber text)
    | none => .error (.notNumber text)

private def valueOf (lookup : Bytes → Option Bytes) (name : Bytes) : Evaluate Int := do
  match numberOf ((((← get).given.lookup name).or (lookup name)).getD []) with
  | .ok n => return n
  | .error fault => throw fault

/-- The sign that comes next, if one does. -/
private def sign? : Evaluate (Option String) := do
  match (← get).rest with
  | .sign sign :: _ => return some sign
  | _ => return none

private def pass : Evaluate Unit :=
  modify fun calculation => { calculation with rest := calculation.rest.tail }

private def expect (sign name : String) : Evaluate Unit := do
  if (← sign?) = some sign then pass else throw (.expected name)

private def lift {α : Type} (result : Except Fault α) : Evaluate α :=
  match result with
  | .ok value => pure value
  | .error fault => throw fault

/-- How many levels bind more than an operator. -/
private def levelOf? (operator : String) : Option Nat :=
  levels.findIdx? fun level => level.contains operator

mutual

/-- A value that may be given to a variable. -/
private def assigned (lookup : Bytes → Option Bytes) (counts : Bool) (steps : Nat) : Evaluate Int :=
  match steps with
  | 0 => throw (.expected "primary")
  | steps + 1 => do
    match (← get).rest with
    | .name name :: .sign sign :: rest =>
      match assignments.lookup sign with
      | none => chosen lookup counts steps
      | some operator =>
        modify fun calculation => { calculation with rest }
        let right ← assigned lookup counts steps
        if !counts then return right
        let value ← match operator with
          | none => pure right
          | some operator => lift (apply operator (← valueOf lookup name) right)
        modify fun calculation =>
          { calculation with given := (name, Bytes.ofInt value) :: calculation.given }
        return value
    | _ => chosen lookup counts steps

/-- A choice between two values, or one value. -/
private def chosen (lookup : Bytes → Option Bytes) (counts : Bool) (steps : Nat) : Evaluate Int :=
  match steps with
  | 0 => throw (.expected "primary")
  | steps + 1 => do
    let test ← either lookup counts steps
    if (← sign?) ≠ some "?" then return test
    pass
    let yes ← assigned lookup (counts && test != 0) steps
    expect ":" "':'"
    let no ← chosen lookup (counts && test == 0) steps
    return if test ≠ 0 then yes else no

private def either (lookup : Bytes → Option Bytes) (counts : Bool) (steps : Nat) : Evaluate Int :=
  match steps with
  | 0 => throw (.expected "primary")
  | steps + 1 => do
    let first ← both lookup counts steps
    if (← sign?) ≠ some "||" then return first
    pass
    let second ← either lookup (counts && first == 0) steps
    return truth (first != 0 || second != 0)

private def both (lookup : Bytes → Option Bytes) (counts : Bool) (steps : Nat) : Evaluate Int :=
  match steps with
  | 0 => throw (.expected "primary")
  | steps + 1 => do
    let first ← joined lookup counts levels.length (← operand lookup counts steps) steps
    if (← sign?) ≠ some "&&" then return first
    pass
    let second ← both lookup (counts && first != 0) steps
    return truth (first != 0 && second != 0)

/-- A value and further operands, joined to it by operators of the levels below a bound. -/
private def joined (lookup : Bytes → Option Bytes) (counts : Bool) (bound : Nat) (first : Int)
    (steps : Nat) : Evaluate Int :=
  match steps with
  | 0 => return first
  | steps + 1 => do
    match ← sign? with
    | none => return first
    | some operator =>
      match (levelOf? operator).filter (· < bound) with
      | none => return first
      | some level =>
        pass
        let operand ← operand lookup counts steps
        let second ← joined lookup counts level operand steps
        let value ← if counts then lift (apply operator first second) else pure second
        joined lookup counts bound value steps

private def operand (lookup : Bytes → Option Bytes) (counts : Bool) (steps : Nat) : Evaluate Int :=
  match steps with
  | 0 => throw (.expected "primary")
  | steps + 1 => do
    let token := (← get).rest.head?
    match token with
    | some (.number n) =>
      pass
      return n
    | some (.name name) =>
      pass
      if counts then valueOf lookup name else return 0
    | some (.sign "(") =>
      pass
      let value ← assigned lookup counts steps
      expect ")" "')'"
      return value
    | some (.sign "+") =>
      pass
      operand lookup counts steps
    | some (.sign "-") =>
      pass
      return (Int64.ofInt (-(← operand lookup counts steps))).toInt
    | some (.sign "!") =>
      pass
      return truth ((← operand lookup counts steps) == 0)
    | some (.sign "~") =>
      pass
      return -(← operand lookup counts steps) - 1
    | _ => throw (.expected "primary")

end

/-- The value of an expression, given the texts of variables, and the texts that it gives to
variables. -/
def evaluate (lookup : Bytes → Option Bytes) (source : Bytes) :
    Except Fault (Int × List (Bytes × Bytes)) :=
  let input := tokens (source.length + 1) source
  match (assigned lookup true (16 * (input.length + 2))).run ⟨input, []⟩ with
  | .error fault => .error fault
  | .ok (value, calculation) =>
    if calculation.rest.isEmpty then .ok (value, calculation.given.reverse)
    else .error (.expected "EOF")

end LineShell.Script.Arithmetic
