import LineShell.Proofs.HostCalls
/-!
# What builtins leave alone

A builtin looks at no word but the second of its line, and only changing the directory looks at that one.
It touches no more of the world than it has to: its own channel or the host, and the error channel if
something fails. What it leaves alone it leaves alone on every path, also where the report of a failure
fails itself.

To leave something alone is more than to leave no event of it. A channel and a host have states of their
own, and so has every other part of a world that only some kinds of requests can change. Such a part stays
as it is when no request of these kinds is made.
-/

namespace LineShell

variable {ω : Type} [World ω]

/-- No request of this kind changes a part of the world. -/
def Request.Spares {ε : Type} (part : ω → ε) (request : Request) : Prop :=
  ∀ before, request.Keeps fun world => part world = before

/-- A run without requests of some kinds. Each of its events tells of a request of another kind, and every
part of the world that only requests of these kinds can change is what it was. -/
structure Outcome.LeavesAlone {α : Type} (ran : Outcome ω α) (aside : List Request) (world : ω) : Prop where
  events : ∀ event ∈ ran.events, ∃ request, event.request? = some request ∧ request ∉ aside
  part : ∀ {ε : Type} (part : ω → ε), (∀ request, request ∉ aside → request.Spares part) →
    part ran.world = part world

theorem Act.AsksOnly.leavesAlone {α : Type} {action : Act ω α} {requests aside : List Request}
    (haction : action.AsksOnly requests) (haside : ∀ request ∈ requests, request ∉ aside) (world : ω) :
    (action.run world).LeavesAlone aside world := by
  constructor
  · have hwithin : action.Within (.always ω) fun event =>
        ∃ request, event.request? = some request ∧ request ∉ aside := by
      apply haction.within
      intro request hrequest event hevent
      exact ⟨request, hevent, haside request hrequest⟩
    exact hwithin.events world
  · intro ε part hspares
    have hleaves : action.Leaves (fun after => part after = part world) fun _ => True := by
      apply haction
      intro request hrequest
      exact ⟨hspares request (haside request hrequest) _, fun _ _ => trivial⟩
    exact (hleaves world rfl).1

/-! ### Parts of a stage -/

namespace Stage

theorem spares_host {request : Request} (hhost : request ∉ [.changeDirectory, .launch]) :
    request.Spares Stage.host := by
  intro before
  cases request with
  | log => exact fun _ _ hstage => hstage
  | channel sink =>
    refine ⟨fun message stage hstage => ?_, fun _ hstage => hstage⟩
    exact (host_withChannel stage sink _).trans hstage
  | changeDirectory | launch => simp at hhost

theorem spares_output {request : Request} (houtput : request ∉ [.channel .output, .launch]) :
    request.Spares Stage.output := by
  intro before
  cases request with
  | log => exact fun _ _ hstage => hstage
  | channel sink =>
    refine ⟨fun message stage hstage => ?_, fun _ hstage => hstage⟩
    cases sink with
    | output => simp at houtput
    | error | prompt => exact hstage
  | changeDirectory =>
    intro target stage hstage
    change stage.answerDirectory.2.output = before
    unfold answerDirectory
    split <;> exact hstage
  | launch => simp at houtput

end Stage

/-! ### Builtins -/

namespace Builtin

/-- Nothing but the second word counts, and that only for changing the directory. -/
theorem run_congr (builtin : Builtin) {words words' : List Bytes}
    (hsecond : builtin = .changeDirectory → words'[1]? = words[1]?) :
    (builtin.run words' : Act ω Flow) = builtin.run words := by
  cases builtin with
  | changeDirectory =>
    change goTo words' >>= settle = goTo words >>= settle
    rw [goTo, goTo, hsecond rfl]
  | help | exit => rfl

/-- Lines that agree on the second word, or that only ask for help or leave, come to the very same:
whether the session goes on, the world and the events. Only leaving the session stops it, and that does
nothing else. Help leaves the host alone and changing the directory leaves the standard output alone, no
builtin launches, and no call is made to the host but a change of directory to the second word if there
is one. -/
theorem run_frame (builtin : Builtin) (words : List Bytes) (world : ω) :
    let ran := (builtin.run words).run world
    (∀ words' : List Bytes, (builtin = .changeDirectory → words'[1]? = words[1]?) →
        (builtin.run words').run world = ran) ∧
      (ran.value = .stop ↔ builtin = .exit) ∧
      (builtin = .exit → ran.events = [] ∧ ran.world = world) ∧
      (builtin = .help → ran.LeavesAlone [.changeDirectory, .launch] world) ∧
      (builtin = .changeDirectory → ran.LeavesAlone [.channel .output, .launch] world) ∧
      ran.LeavesAlone [.launch] world ∧
      ran.events.hostCalls =
        if builtin = .changeDirectory then words[1]?.toList.map .changeDirectory else [] := by
  intro ran
  have hasks : (builtin.run words : Act ω Flow).AsksOnly builtin.asks := asksOnly_run builtin words
  refine ⟨fun words' hsecond => ?_, ?_, ?_, ?_, ?_, ?_, run_hostCalls builtin words world⟩
  · rw [run_congr builtin hsecond]
  · have hvalue : ran.value = if builtin = .exit then .stop else .next := run_value builtin words world
    rw [hvalue]
    split <;> simp_all
  · rintro rfl
    exact ⟨rfl, rfl⟩
  · rintro rfl
    exact hasks.leavesAlone (by decide) world
  · rintro rfl
    exact hasks.leavesAlone (by decide) world
  · refine hasks.leavesAlone ?_ world
    cases builtin <;> decide

/-- Help on a stage where neither the page nor the report of that can be written, and a change of
directory that the host refuses, with two lines that have only their second word in common. -/
theorem run_frame_refusing :
    let help := (Builtin.help.run []).run Stage.refusing
    let change := (Builtin.changeDirectory.run [[], [47], [46]]).run Stage.refusing
    help.world.host = Stage.refusing.host ∧ change.world.output = Stage.refusing.output ∧
      change.events.hostCalls = [.changeDirectory [47]] ∧
      (Builtin.changeDirectory.run [[99], [47]]).run Stage.refusing = change := by
  intro help change
  obtain ⟨-, -, -, hhelp, -⟩ := run_frame .help [] Stage.refusing
  obtain ⟨hsame, -, -, -, hchange, -, hcalls⟩ :=
    run_frame .changeDirectory [[], [47], [46]] Stage.refusing
  refine ⟨?_, ?_, hcalls, hsame [[99], [47]] fun _ => rfl⟩
  · exact (hhelp rfl).part Stage.host fun _ => Stage.spares_host
  · exact (hchange rfl).part Stage.output fun _ => Stage.spares_output

end Builtin

end LineShell
