import LineShell.Machine.Scene
import LineShell.Program
/-!
# The command line

Runs the shell on a machine of its own with the standard input of this program, and prints what it
wrote.
-/

namespace LineShell

partial def readAll (stream : IO.FS.Stream) (read : ByteArray) : IO ByteArray := do
  let more ← stream.read 65536
  if more.isEmpty then return read else readAll stream (read ++ more)

end LineShell

def main (arguments : List String) : IO UInt32 := do
  let input ← LineShell.readAll (← IO.getStdin) .empty
  let scene : LineShell.Scene :=
    { home := LineShell.Bytes.ofString "/home", provisions := [],
      environment := [(LineShell.Bytes.ofString "PATH", LineShell.Bytes.ofString "/usr/bin:/bin")],
      input := input.toList, readsDirectory := false, full := false, merged := false }
  let station := { scene.station with
    clock := some (LineShell.Bytes.ofString "1970-01-01T00:00:00.000000Z") }
  let outcome := (LineShell.Program.run false (arguments.map LineShell.Bytes.ofString)).run station
  (← IO.getStdout).write (outcome.world.written 1).toByteArray
  (← IO.getStderr).write (outcome.world.written 2).toByteArray
  return outcome.value.toUInt32
