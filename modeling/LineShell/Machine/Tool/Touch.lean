import LineShell.Machine.Change
import LineShell.Machine.Tool.Arguments
/-!
# The program that makes files anew

A file that does not exist is made. Of one that exists the times would be set, but no file of the
machine has any; what is asked for is only checked.
-/

namespace LineShell.Tool

private def touchOptions : List Known :=
  [.ofLetter 'a', .ofLetter 'm', .ofLetter 'f', .ofLetter 'h', (Known.ofLetter 't').requiring,
    (Known.ofName "time").requiring, .ofBoth 'c' "no-create", (Known.ofBoth 'd' "date").requiring,
    (Known.ofBoth 'r' "reference").requiring, (Known.ofName "no-dereference").meaning "h"]

private def setTimeWords : Choice Unit := [(["atime", "access", "use"], ()), (["mtime", "modify"], ())]

private def isDigit (byte : UInt8) : Bool := 48 ≤ byte && byte ≤ 57

/-- Whether a text is a time in digits: month, day, hour and minute, with a year in front or
without, and seconds behind a point or without. -/
private def isStamp (stamp : Bytes) : Bool :=
  let (digits, seconds) := match Bytes.cutAt 46 stamp with
    | some (digits, seconds) => (digits, some seconds)
    | none => (stamp, none)
  let pair (n : Nat) : Nat := (Bytes.toNat? (digits.drop (digits.length - n) |>.take 2)).getD 99
  [8, 10, 12].contains digits.length && digits.all isDigit &&
    seconds.all (fun seconds => seconds.length == 2 && seconds.all isDigit &&
      decide ((Bytes.toNat? seconds).getD 99 ≤ 60)) &&
    decide (1 ≤ pair 8) && decide (pair 8 ≤ 12) && decide (1 ≤ pair 6) && decide (pair 6 ≤ 31) &&
    decide (pair 4 ≤ 23) && decide (pair 2 ≤ 59)

/-- Whether a text can be a date. Dates have digits in them or are words for a day. -/
private def isDate (date : Bytes) : Bool :=
  let words := ["now", "today", "yesterday", "tomorrow", "noon", "midnight"].map text
  let small := Bytes.toAsciiLower date
  date.any isDigit || date.all (· == 32) || words.any fun word => word.isPrefixOf small

private def touchOne (creates : Bool) (path : Bytes) : Work Nat := do
  if path = text "-" then return 0
  let opened : Except Errno Unit ←
    if creates then
      act fun process machine =>
        match machine.openPath process path .appending with
        | (.ok _, machine) => (.ok (), machine)
        | (.error errno, machine) => (.error errno, machine)
    else pure (.ok ())
  let found ← look fun process machine => machine.tree.resolve process.directory path true
  match opened, found with
  | _, .ok _ => return 0
  | .ok (), .error errno | .error .isDirectory, .error errno =>
    if !creates && errno = .noEntry then return 0
    failFor (text "setting times of " ++ Quote.word path) errno
    return 1
  | .error errno, .error _ =>
    failFor (text "cannot touch " ++ Quote.word path) errno
    return 1

/-- Makes the files that do not exist yet. -/
def touch (arguments : List Bytes) : Work Nat := do
  let arguments ← understand touchOptions false 1 arguments
  for given in arguments.options do
    match given.mark, given.argument with
    | "time", some word => choose "time" setTimeWords word
    | "t", some stamp =>
      if !isStamp stamp then die 1 (text "invalid date format " ++ Quote.text stamp)
    | _, _ => pure ()
  match arguments.value? "reference", arguments.value? "date" with
  | some path, _ =>
    match ← look fun process machine => machine.tree.resolve process.directory path true with
    | .ok _ => pure ()
    | .error errno =>
      failFor (text "failed to get attributes of " ++ Quote.word path) errno
      throw 1
  | none, some date =>
    if !isDate date then die 1 (text "invalid date format " ++ Quote.text date)
  | none, none => pure ()
  let paths ← needOperand arguments "missing file operand"
  forAll paths (touchOne (!arguments.has "no-create"))

end LineShell.Tool
