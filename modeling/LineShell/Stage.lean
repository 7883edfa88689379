import LineShell.Channel
/-!
# A stage

The world of a shell that is played to it: channels with faults, a host that gives scripted answers,
and a log that keeps every entry down to some level. Once its answers are used up the host lets
every call succeed.
-/

namespace LineShell

/-- What the host answers, call by call. -/
structure HostScript where
  /-- The failures of changes of directory, where they fail. -/
  directories : List (Option IoError)
  /-- The results of launches. -/
  launches : List (Except LaunchError Completion)

/-- A world in which everything that happens to the shell is fixed beforehand. -/
structure Stage where
  output : Channel
  error : Channel
  prompt : Channel
  host : HostScript
  /-- The least severe level that is logged, if any is. -/
  verbosity : Option Log.Level

namespace Stage

/-- A stage on which nothing fails and nothing is logged. -/
def plain : Stage := ⟨.whole, .whole, .whole, ⟨[], []⟩, none⟩

def channel (stage : Stage) : Sink → Channel
  | .output => stage.output
  | .error => stage.error
  | .prompt => stage.prompt

def withChannel (stage : Stage) (sink : Sink) (channel : Channel) : Stage :=
  match sink with
  | .output => { stage with output := channel }
  | .error => { stage with error := channel }
  | .prompt => { stage with prompt := channel }

def logs (stage : Stage) (level : Log.Level) : Bool :=
  match stage.verbosity with
  | none => false
  | some most => level.rank ≤ most.rank

def deliver (sink : Sink) (message : Bytes) (stage : Stage) : Delivery × Stage :=
  let (delivery, channel) := (stage.channel sink).deliver message
  (delivery, stage.withChannel sink channel)

def answerDirectory (stage : Stage) : Option IoError × Stage :=
  match stage.host.directories with
  | [] => (none, stage)
  | answer :: rest => (answer, { stage with host := ⟨rest, stage.host.launches⟩ })

def answerLaunch (stage : Stage) : Except LaunchError Completion × Stage :=
  match stage.host.launches with
  | [] => (.ok (.exited 0), stage)
  | answer :: rest => (answer, { stage with host := ⟨stage.host.directories, rest⟩ })

instance : World Stage where
  wants entry stage := stage.logs entry.level
  keep _ stage := stage
  deliver := deliver
  flush sink stage := ((stage.channel sink).flush, stage)
  changeDirectory _ stage := stage.answerDirectory
  launch _ := Act.update answerLaunch
  deliver_accepted sink message stage := Channel.deliver_accepted message (stage.channel sink)
  deliver_failure sink message stage := Channel.deliver_failure message (stage.channel sink)
  launch_events _ _ _ hevent := absurd hevent (List.not_mem_nil)

end Stage

end LineShell
