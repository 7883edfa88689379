import LineShell.Machine.Script.Builtin.Basic
import LineShell.Machine.Script.Job
import LineShell.Machine.Script.Options
/-!
# Commands for jobs
-/

namespace LineShell.Script.Builtin

/-- Waits for the jobs that words name, by process numbers or as jobs. -/
private def waitEach (status : Nat) : List Bytes → Run Nat
  | [] => return status
  | word :: rest => do
    let job? : Option Job ← match word with
      | 37 :: _ => do pure (some (← Job.find word))
      | _ => do
        let pid ← number word
        pure ((← get).jobs.find? fun job => job.pid == pid)
    match job? with
    | some job => waitEach (← job.wait) rest
    | none => waitEach status rest

def wait : Builtin := fun arguments => do
  let (_, arguments) ← Options.read "" arguments
  if arguments.isEmpty then
    runJobs fun _ => true
    Job.markWaited fun _ => true
    return 0
  else waitEach 127 arguments

def jobs : Builtin := fun arguments => do
  let (given, words) ← Options.read "lp" arguments
  let view : Job.View := match given.getLast? with
    | none => .brief
    | some option => if option.letter = 112 then .pid else .withPid
  let jobs := Job.latest (← get)
  let chosen ← if words.isEmpty then pure jobs else words.mapM Job.find
  let status ← put (Job.shown view jobs chosen)
  match view with
  | .pid => pure ()
  | _ => Job.forget chosen
  return status

/-- Lets jobs go on. There is no job control, so that never comes to pass. -/
def resume : Builtin := fun arguments => do
  let (_, words) ← Options.read "" arguments
  let word := words.head?
  let _ ← Job.find (word.getD (str "%"))
  fail (str "job " ++ word.getD (str "(null)") ++ str " not created under job control")

end LineShell.Script.Builtin
