import LineShell.Log.Entry
/-!
# Events of a run

A run leaves the list of the things it did, in order of time. Some of them can be seen from outside:
the bytes a channel accepted, flushes that succeeded, calls to the host, and log entries. The others
tell of attempts, so that statements can count them; `Trace.visible` leaves them out and merges the
writes to one channel that nothing visible separates.
-/

namespace LineShell

/-- The channels that output goes to. The prompt of a line source has a channel of its own. -/
inductive Sink where
  | output
  | error
  | prompt
  deriving DecidableEq, Repr

inductive Event where
  /-- A channel accepted these bytes. -/
  | wrote (sink : Sink) (bytes : Bytes)
  /-- A channel was flushed. -/
  | flushed (sink : Sink)
  /-- A channel failed before it had accepted a whole message. -/
  | writeFailed (sink : Sink) (error : IoError)
  /-- A channel could not be flushed. -/
  | flushFailed (sink : Sink) (error : IoError)
  /-- The host was asked to change the working directory. -/
  | changeDirectory (target : Bytes)
  /-- The host was asked to launch a program. -/
  | launch (arguments : List Bytes)
  /-- A scripted line source was asked for a line. -/
  | readLine (prompt : Bytes)
  /-- An input stream was asked for its next bytes. -/
  | fetched
  /-- The kernel was asked for a child process. -/
  | forked
  /-- The kernel was asked how this child is. -/
  | waited (pid : Nat)
  /-- An entry was logged. -/
  | log (entry : Log.Entry)
  deriving DecidableEq, Repr

/-- The events of a run, in order of time. -/
abbrev Trace := List Event

/-- Whether an event can be seen from outside. -/
def Event.isVisible : Event → Bool
  | .wrote _ bytes => !bytes.isEmpty
  | .flushed _ | .changeDirectory _ | .launch _ | .readLine _ | .log _ => true
  | .writeFailed .. | .flushFailed .. | .fetched | .forked | .waited _ => false

/-- Whether an event concerns a child process and its log, and nothing the shell itself does. -/
def Event.isOfLaunch : Event → Bool
  | .forked | .waited _ | .log _ => true
  | _ => false

namespace Trace

/-- Puts an event in front, joining two writes to one channel. -/
def consMerged (event : Event) (trace : Trace) : Trace :=
  match event, trace with
  | .wrote sink bytes, .wrote sink' bytes' :: rest =>
    if sink = sink' then .wrote sink (bytes ++ bytes') :: rest else event :: trace
  | _, _ => event :: trace

/-- Joins the writes to one channel between which nothing happened. -/
def merged (trace : Trace) : Trace :=
  trace.foldr consMerged []

def visible (trace : Trace) : Trace :=
  merged (trace.filter Event.isVisible)

def entries (trace : Trace) : List Log.Entry :=
  trace.filterMap fun
    | .log entry => some entry
    | _ => none

end Trace

end LineShell
