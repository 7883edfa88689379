import LineShell.World
/-!
# Line sources

A source gives the lines of a session one at a time, each after a prompt. It can run dry, and it can
fail for good. Every line it gives brings it closer to its end, so a session over it ends too.
-/

namespace LineShell

/-- One line of input without its line end. -/
structure Line where
  bytes : Bytes
  /-- The room of the buffer that the line was read into. -/
  capacity : Nat
  deriving DecidableEq, Repr

/-- What a source answers when it is asked for a line. -/
inductive Reading where
  | line (line : Line)
  | endOfInput
  | failed (error : ShellError)
  deriving DecidableEq, Repr

/-- Somewhere lines come from. -/
class LineSource (σ ω : Type) where
  /-- Shows the prompt and reads the next line. -/
  readLine : Bytes → σ → Act ω (Reading × σ)
  /-- A bound on the lines still to come. -/
  remaining : σ → Nat
  remaining_lt : ∀ prompt source world line source',
    ((readLine prompt source).run world).value = (.line line, source') →
      remaining source' < remaining source

end LineShell
