import LineShell.Machine.Script.Builtin.Basic
import LineShell.Machine.Script.Options
/-!
# Commands that print and test

The commands of the interpreter that are programs of the machine too, with messages of their own.
-/

namespace LineShell.Script.Builtin

/-- The arguments with a space between neighbours, up to an escape that ends the output, and whether
there is one. -/
private def escaped : List Bytes → Bytes × Bool
  | [] => ([], false)
  | argument :: rest =>
    let text := Escape.ofText .plain argument
    if text.cut then (text.shown, true)
    else if rest.isEmpty then (text.shown, false)
    else
      let (more, cut) := escaped rest
      (text.shown ++ [32] ++ more, cut)

def echo : Builtin := fun arguments => do
  let bare := arguments.head? = some (str "-n")
  let (shown, cut) := escaped (if bare then arguments.tail else arguments)
  put (if bare || cut then shown else shown ++ [10])

/-- Prints its arguments as a format asks for. -/
def printf : Builtin := fun arguments => do
  let (_, arguments) ← Options.read "" arguments
  match arguments with
  | [] => fail (str "usage: printf format [arg ...]")
  | format :: arguments =>
    let output := Format.output .plain format arguments
    output.complaints.forM complain
    match output.fault with
    | none =>
      let status ← put output.shown
      return if output.complaints.isEmpty then status else 1
    | some fault =>
      complain fault
      let _ ← put output.shown
      return 2

def test : Builtin := fun arguments => do
  let state ← get
  match Condition.holds ⟨state.machine, state.process.directory⟩ arguments with
  | .ok holds => return if holds then 0 else 1
  | .error fault => fail fault.text

def bracket : Builtin := fun arguments => do
  match Tool.bracketed arguments with
  | some arguments => test arguments
  | none => fail (str "missing ]")

end LineShell.Script.Builtin
