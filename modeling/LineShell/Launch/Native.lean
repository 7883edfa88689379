import LineShell.Launch.Prepare
import LineShell.World
/-!
# Launching through the kernel

A launch makes a child process and then asks the kernel how the child is until it has ended. A child
that is only stopped has not ended, and an interrupted question is asked again.
-/

namespace LineShell

/-- A kernel that makes child processes. The answers about a child are status words or errors, in
the order in which the kernel gives them; after the last of them there is no such child any more. -/
class Kernel (ω : Type) extends Logger ω where
  /-- Makes a child process and tells its number. -/
  fork : ω → Except Errno Nat × ω
  /-- Lets the child with this number run a program to its end. -/
  life : Nat → Prepared → ω → List (Except Errno Nat) × ω

namespace Kernel

variable {ω : Type}

/-- Asks how a child is until it has ended. -/
def awaitEnd [Logger ω] (pid : Nat) :
    List (Except Errno Nat) → Act ω (Except LaunchError Completion)
  | [] => do
    Act.emit (.waited pid)
    return .error (.wait pid .noChild)
  | answer :: rest => do
    Act.emit (.waited pid)
    match answer.bind WaitStatus.decode with
    | .ok (.exited code) =>
      Act.log (.processExited pid code)
      return .ok (.exited code)
    | .ok (.signaled signal _) =>
      Act.log (.processKilled pid signal)
      return .ok (.signaled signal)
    | .ok status =>
      Act.log (.processUnfinished pid status)
      awaitEnd pid rest
    | .error errno =>
      if errno = .interrupted then awaitEnd pid rest
      else return .error (.wait pid errno)

def execute [Kernel ω] (prepared : Prepared) : Act ω (Except LaunchError Completion) := do
  Act.emit .forked
  match ← Act.update Kernel.fork with
  | .error errno => return .error (.fork errno)
  | .ok pid =>
    Act.log (.launched pid (prepared.arguments.headD []))
    let answers ← Act.update (Kernel.life pid prepared)
    awaitEnd pid answers

/-- Launches a command: its words are prepared first, and no child is made if that fails. -/
def launch [Kernel ω] (words : List Bytes) : Act ω (Except LaunchError Completion) :=
  match prepare words with
  | .error error => pure (.error error)
  | .ok prepared => execute prepared

private theorem log_events [Logger ω] (entry : Log.Entry) (world : ω) :
    ∀ event ∈ ((Act.log entry).run world).events, event.isOfLaunch := by
  intro event hevent
  simp only [Act.run, Act.log] at hevent
  split at hevent <;> simp_all [Event.isOfLaunch]

private theorem awaitEnd_events [Logger ω] (pid : Nat) (answers : List (Except Errno Nat))
    (world : ω) : ∀ event ∈ ((awaitEnd pid answers).run world).events, event.isOfLaunch := by
  induction answers generalizing world with
  | nil => simp [awaitEnd, Event.isOfLaunch]
  | cons answer rest ih =>
    intro event hevent
    simp only [awaitEnd, Act.run_bind, Act.run_emit, List.mem_append, List.mem_singleton] at hevent
    rcases hevent with rfl | hevent
    · rfl
    · split at hevent
      · simp only [Act.run_bind, Act.run_pure, List.append_nil] at hevent
        exact log_events _ _ _ hevent
      · simp only [Act.run_bind, Act.run_pure, List.append_nil] at hevent
        exact log_events _ _ _ hevent
      · simp only [Act.run_bind, List.mem_append] at hevent
        exact hevent.elim (log_events _ _ _) (ih _ _)
      · split at hevent
        · exact ih _ _ hevent
        · simp at hevent

theorem launch_events [Kernel ω] (words : List Bytes) (world : ω) :
    ∀ event ∈ ((launch words).run world).events, event.isOfLaunch := by
  intro event hevent
  unfold launch at hevent
  split at hevent
  · simp at hevent
  · simp only [execute, Act.run_bind, Act.run_emit, Act.run_update, List.mem_append,
      List.mem_singleton, List.nil_append] at hevent
    rcases hevent with rfl | hevent
    · rfl
    · split at hevent
      · simp at hevent
      · simp only [Act.run_bind, Act.run_update, List.mem_append, List.nil_append] at hevent
        exact hevent.elim (log_events _ _ _) (awaitEnd_events _ _ _ _)

end Kernel

end LineShell
