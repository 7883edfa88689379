import LineShell.Machine.Script.Child
/-!
# Jobs

The commands that a script has put into the background are its jobs. A job is named by its number,
or by its place among the others, the last one first.
-/

namespace LineShell.Script.Job

/-- The jobs of a script, the last one first. -/
def latest (state : State) : List Job := state.jobs.reverse

/-- The job that a word behind a percent sign names. No job has a text that it could be named by. -/
def find (word : Bytes) : Run Job := do
  let jobs := latest (← get)
  match word.tail with
  | [] | [43] | [37] =>
    match jobs with
    | job :: _ => return job
    | [] => fail (str "No current job")
  | [45] =>
    match jobs with
    | _ :: job :: _ => return job
    | _ => fail (str "No previous job")
  | name =>
    match (Bytes.toNat? name).bind fun n => jobs.find? fun job => job.number == n with
    | some job => return job
    | none => fail (str "No such job: " ++ word)

/-- What is said about the state of a job. -/
private def state (job : Job) : Bytes :=
  match job.ending with
  | none => str "Running"
  | some (.exited 0) => str "Done"
  | some (.exited code) => str "Done(" ++ Bytes.ofNat (code % 256) ++ str ")"
  | some (.killed signal) => killText signal

/-- How wide the part of a line is that stands in front of the text of a job. -/
private def width : Nat := 33

/-- The line that shows a job, with its process number or without. -/
private def line (jobs : List Job) (withPid : Bool) (job : Job) : Bytes :=
  let mark := match (jobs.map Job.number).idxOf job.number with
    | 0 => str "+"
    | 1 => str "-"
    | _ => str " "
  let head := str "[" ++ Bytes.ofNat job.number ++ str "] " ++ mark ++ [32] ++
    (if withPid then Bytes.ofNat job.pid ++ [32] else []) ++ job.state
  head ++ List.replicate (max 1 (width - head.length)) 32 ++ [10]

inductive View where
  | brief
  | withPid
  | pid

def shown (view : View) (jobs chosen : List Job) : Bytes :=
  chosen.flatMap fun job =>
    match view with
    | .brief => job.line jobs false
    | .withPid => job.line jobs true
    | .pid => Bytes.ofNat job.pid ++ [10]

def forget (chosen : List Job) : Run Unit :=
  let ended := (chosen.filter fun job => job.ending.isSome).map Job.number
  modify fun state =>
    { state with jobs := state.jobs.filter fun job => !ended.contains job.number }

/-- Takes note that the endings of some jobs have been asked for. -/
def markWaited (chosen : Job → Bool) : Run Unit :=
  modify fun state => { state with
    jobs := state.jobs.map fun job =>
      if chosen job then { job with noticed := true, waited := true } else job }

/-- Waits for a job, and gives its status. -/
def wait (job : Job) : Run Nat := do
  let isIt (other : Job) : Bool := other.number == job.number
  runJobs isIt
  markWaited isIt
  match ((← get).jobs.find? isIt).bind Job.ending with
  | some ending =>
    if !job.noticed then announce ending
    return statusOf ending
  | none => return 0

end LineShell.Script.Job
