import LineShell.Source.Basic
/-!
# Scripted line sources

A list of readings is a line source: each is given once, in order, and after the last the input is
at its end.
-/

namespace LineShell

/-- Readings to come, the next one first. -/
structure ScriptedSource where
  readings : List Reading
  deriving DecidableEq, Repr

namespace ScriptedSource

variable {ω : Type}

def readLine (prompt : Bytes) (source : ScriptedSource) : Act ω (Reading × ScriptedSource) := do
  Act.emit (.readLine prompt)
  match source.readings with
  | [] => return (.endOfInput, ⟨[]⟩)
  | reading :: rest => return (reading, ⟨rest⟩)

instance : LineSource ScriptedSource ω where
  readLine := readLine
  remaining source := source.readings.length
  remaining_lt := by
    intro prompt source world line source' hvalue
    obtain ⟨readings⟩ := source
    cases readings with
    | nil => simp [readLine] at hvalue
    | cons reading rest =>
      simp only [readLine, Act.run_bind, Act.run_pure, Prod.mk.injEq] at hvalue
      simp [← hvalue.2]

end ScriptedSource

end LineShell
