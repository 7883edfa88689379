import LineShell.Options
import Mathlib.Data.List.Basic
import Mathlib.Data.Nat.Find
/-!
# The grammar of the arguments

The arguments that give options are written group by group: an option and its value, or the switch. Two
dashes may stand at the end. With words that ask for help behind the groups the same arguments ask for
help, and all others are refused. The reader goes over the arguments once, so what it has to know of those
behind it is only which options they gave, whether they asked for help and whether they ended the options.
One step of it reads a group, a word of help or the two dashes. Where no step can be made it stops, and
unless only a value is missing it would stop there whatever came next.
-/

namespace LineShell.Options

/-- An option with its value, or the switch. -/
inductive Group where
  | prompt (value : Bytes)
  | log (value : Bytes)
  | noEditor
  deriving DecidableEq, Repr

namespace Group

def arguments : Group → List Bytes
  | prompt value => [promptOption, value]
  | log value => [logOption, value]
  | noEditor => [noEditorSwitch]

def prompt? : Group → Option Bytes
  | prompt value => some value
  | log _ => none
  | noEditor => none

def log? : Group → Option Bytes
  | prompt _ => none
  | log value => some value
  | noEditor => none

end Group

/-- Groups one behind the other, where the prompt and the log are given at most once each. -/
structure Groups where
  list : List Group
  prompt_once : (list.filterMap Group.prompt?).length ≤ 1
  log_once : (list.filterMap Group.log?).length ≤ 1

namespace Groups

def arguments (groups : Groups) : List Bytes := groups.list.flatMap Group.arguments

/-- The values that are given, with the defaults for those that are not. -/
def options (groups : Groups) : Options where
  prompt := (groups.list.findSome? Group.prompt?).getD defaultPrompt
  log := (groups.list.findSome? Group.log?).getD defaultLog
  noEditor := decide (.noEditor ∈ groups.list)

end Groups

/-- What may stand behind everything else. -/
def IsEnding (ending : List Bytes) : Prop := ending = [] ∨ ending = [endMark]

def AskHelp (words : List Bytes) : Prop := ∀ word ∈ words, word ∈ helpWords

/-- Arguments that are refused for what they say, and not because the last of them lacks its value. -/
def IsBad (arguments : List Bytes) : Prop :=
  ∃ error, ofArguments arguments = .error (.refused error) ∧ ∀ option, error ≠ .missingValue option

/-! ### One step -/

namespace Given

def add (given : Given) : Group → Given
  | .prompt value => { given with prompt := some value }
  | .log value => { given with log := some value }
  | .noEditor => { given with noEditor := true }

/-- Whether a group gives nothing that is given already. -/
def Admits (given : Given) : Group → Prop
  | .prompt _ => given.prompt = none
  | .log _ => given.log = none
  | .noEditor => True

def addAll (given : Given) (groups : List Group) : Given :=
  { given with
    prompt := given.prompt.or (groups.findSome? Group.prompt?)
    log := given.log.or (groups.findSome? Group.log?)
    noEditor := given.noEditor || decide (.noEditor ∈ groups) }

def AdmitsAll (given : Given) (groups : List Group) : Prop :=
  (given.prompt.toList ++ groups.filterMap Group.prompt?).length ≤ 1 ∧
    (given.log.toList ++ groups.filterMap Group.log?).length ≤ 1

@[simp] theorem add_help (given : Given) (group : Group) : (given.add group).help = given.help := by
  cases group <;> rfl

@[simp] theorem add_ended (given : Given) (group : Group) : (given.add group).ended = given.ended := by
  cases group <;> rfl

@[simp] theorem addAll_nil (given : Given) : given.addAll [] = given := by
  simp [addAll]

theorem admitsAll_nil (given : Given) : given.AdmitsAll [] := by
  constructor
  · cases given.prompt <;> simp
  · cases given.log <;> simp

theorem admitsAll_cons {given : Given} {group : Group} {groups : List Group} :
    given.AdmitsAll (group :: groups) ↔ given.Admits group ∧ (given.add group).AdmitsAll groups := by
  cases group with
  | prompt value =>
    cases hprompt : given.prompt <;> simp [AdmitsAll, Admits, add, List.filterMap_cons, Group.prompt?, Group.log?, hprompt]
  | log value =>
    cases hlog : given.log <;> simp [AdmitsAll, Admits, add, List.filterMap_cons, Group.prompt?, Group.log?, hlog]
  | noEditor => simp [AdmitsAll, Admits, add, List.filterMap_cons, Group.prompt?, Group.log?]

theorem addAll_cons {given : Given} {group : Group} (hadmits : given.Admits group)
    (groups : List Group) : given.addAll (group :: groups) = (given.add group).addAll groups := by
  cases group with
  | prompt value =>
    have hnone : given.prompt = none := hadmits
    simp [addAll, add, List.findSome?_cons, Group.prompt?, Group.log?, hnone]
  | log value =>
    have hnone : given.log = none := hadmits
    simp [addAll, add, List.findSome?_cons, Group.prompt?, Group.log?, hnone]
  | noEditor => simp [addAll, add, List.findSome?_cons, Group.prompt?, Group.log?]

end Given

/-- One step of the reader: the arguments it takes, and what is given before it and behind it. -/
inductive Step (given : Given) : List Bytes → Given → Prop
  | group {group : Group} (hended : given.ended = false) (hhelp : given.help = false)
      (hadmits : given.Admits group) : Step given group.arguments (given.add group)
  | help {word : Bytes} (hended : given.ended = false) (hword : word ∈ helpWords) :
      Step given [word] { given with help := true }
  | ending (hended : given.ended = false) : Step given [endMark] { given with ended := true }

/-- Arguments that no step begins with: the option at the end that lacks its value, or something that is
refused with whatever may follow. -/
inductive Stuck (given : Given) : List Bytes → OptionError → Prop
  | missing {option : Bytes} (hoption : option = promptOption ∨ option = logOption)
      (herror : readArguments given [option] = .error (.missingValue option)) :
      Stuck given [option] (.missingValue option)
  | refused {arguments : List Bytes} {error : OptionError} (hvalue : ∀ option, error ≠ .missingValue option)
      (herror : ∀ more, readArguments given (arguments ++ more) = .error error) :
      Stuck given arguments error

variable {given given' given'' : Given} {arguments front : List Bytes} {error : OptionError}

theorem Step.readArguments_append (step : Step given front given') (more : List Bytes) :
    readArguments given (front ++ more) = readArguments given' more := by
  cases step with
  | help hended hword =>
    rw [List.singleton_append, readArguments.eq_def]
    simp [hended, hword]
  | ending hended =>
    have hword : endMark ∉ helpWords := by decide
    rw [List.singleton_append, readArguments.eq_def]
    simp [hended, hword]
  | @group group hended hhelp hadmits =>
    cases group with
    | prompt value =>
      have hword : promptOption ∉ helpWords := by decide
      have hother : promptOption ≠ endMark ∧ promptOption ≠ noEditorSwitch := by decide
      have hdash : promptOption.head? = some 45 := by decide
      have hnone : given.prompt = none := hadmits
      simp [Group.arguments, Given.add, readArguments, hended, hhelp, hword, hother, hdash, hnone]
    | log value =>
      have hword : logOption ∉ helpWords := by decide
      have hother : logOption ≠ endMark ∧ logOption ≠ noEditorSwitch ∧ logOption ≠ promptOption := by
        decide
      have hdash : logOption.head? = some 45 := by decide
      have hnone : given.log = none := hadmits
      simp [Group.arguments, Given.add, readArguments, hended, hhelp, hword, hother, hdash, hnone]
    | noEditor =>
      have hword : noEditorSwitch ∉ helpWords := by decide
      have hother : noEditorSwitch ≠ endMark := by decide
      have hdash : noEditorSwitch.head? = some 45 := by decide
      rw [Group.arguments, List.singleton_append, readArguments.eq_def]
      simp [Given.add, hended, hhelp, hword, hother, hdash]

/-- An option with a value is a step, unless it stands at the end or its value is the second one. -/
private theorem step_or_stuck_of_value {option : Bytes} {group : Bytes → Group}
    (harguments : ∀ value, (group value).arguments = [option, value])
    (hoption : option = promptOption ∨ option = logOption)
    (hended : given.ended = false) (hhelp : given.help = false)
    (hmissing : readArguments given [option] = .error (.missingValue option))
    (hduplicate : ∀ value, ¬ given.Admits (group value) → ∀ more,
      readArguments given (option :: value :: more) = .error (.duplicate option value))
    (rest : List Bytes) :
    (∃ front given' more, Step given front given' ∧ front ≠ [] ∧ option :: rest = front ++ more) ∨
      ∃ error, Stuck given (option :: rest) error := by
  cases rest with
  | nil => exact .inr ⟨_, .missing hoption hmissing⟩
  | cons value rest =>
    by_cases hadmits : given.Admits (group value)
    · have step := Step.group hended hhelp hadmits
      rw [harguments] at step
      exact .inl ⟨[option, value], _, rest, step, List.cons_ne_nil _ _, rfl⟩
    · exact .inr ⟨.duplicate option value, .refused nofun fun more => hduplicate value hadmits (rest ++ more)⟩

theorem step_or_stuck (given : Given) (argument : Bytes) (rest : List Bytes) :
    (∃ front given' more, Step given front given' ∧ front ≠ [] ∧ argument :: rest = front ++ more) ∨
      ∃ error, Stuck given (argument :: rest) error := by
  by_cases hended : given.ended = true
  · refine .inr ⟨.unrecognized argument, .refused nofun fun more => ?_⟩
    rw [List.cons_append, readArguments.eq_def]
    simp [hended]
  rw [Bool.not_eq_true] at hended
  by_cases hword : argument ∈ helpWords
  · exact .inl ⟨[argument], _, rest, .help hended hword, List.cons_ne_nil _ _, rfl⟩
  by_cases hend : argument = endMark
  · subst hend
    exact .inl ⟨[endMark], _, rest, .ending hended, List.cons_ne_nil _ _, rfl⟩
  by_cases hdash : argument.head? = some 45
  swap
  · refine .inr ⟨.unrecognized argument, .refused nofun fun more => ?_⟩
    rw [List.cons_append, readArguments.eq_def]
    simp [hended, hword, hend, hdash]
  by_cases hhelp : given.help = true
  · refine .inr ⟨.afterHelp, .refused nofun fun more => ?_⟩
    rw [List.cons_append, readArguments.eq_def]
    simp [hended, hword, hend, hdash, hhelp]
  rw [Bool.not_eq_true] at hhelp
  by_cases hswitch : argument = noEditorSwitch
  · subst hswitch
    have step : Step given (Group.arguments .noEditor) _ := .group hended hhelp trivial
    exact .inl ⟨[noEditorSwitch], _, rest, step, List.cons_ne_nil _ _, rfl⟩
  -- What is left are the options with a value. They are refused for a lack of it or for a second one.
  by_cases hprompt : argument = promptOption
  · subst hprompt
    have hmissing : readArguments given [promptOption] = .error (.missingValue promptOption) := by
      simp [readArguments, hended, hword, hend, hdash, hhelp, hswitch]
    have hwritten : ∀ value, (Group.prompt value).arguments = [promptOption, value] := fun _ => rfl
    refine step_or_stuck_of_value hwritten (.inl rfl) hended hhelp hmissing ?_ rest
    intro value hsecond more
    have hgiven : given.prompt.isSome := Option.isSome_iff_ne_none.2 hsecond
    simp [readArguments, hended, hword, hend, hdash, hhelp, hswitch, hgiven]
  by_cases hlog : argument = logOption
  · subst hlog
    have hmissing : readArguments given [logOption] = .error (.missingValue logOption) := by
      simp [readArguments, hended, hword, hend, hdash, hhelp, hswitch, hprompt]
    have hwritten : ∀ value, (Group.log value).arguments = [logOption, value] := fun _ => rfl
    refine step_or_stuck_of_value hwritten (.inr rfl) hended hhelp hmissing ?_ rest
    intro value hsecond more
    have hgiven : given.log.isSome := Option.isSome_iff_ne_none.2 hsecond
    simp [readArguments, hended, hword, hend, hdash, hhelp, hswitch, hprompt, hgiven]
  refine .inr ⟨.unrecognized argument, .refused nofun fun more => ?_⟩
  rw [List.cons_append, readArguments.eq_def]
  simp [hended, hword, hend, hdash, hhelp, hswitch, hprompt, hlog]

/-! ### A whole reading -/

inductive Steps : Given → List Bytes → Given → Prop
  | nil (given : Given) : Steps given [] given
  | cons {given given' given'' : Given} {front rest : List Bytes} (step : Step given front given')
      (steps : Steps given' rest given'') : Steps given (front ++ rest) given''

theorem Steps.readArguments_append (steps : Steps given front given') (more : List Bytes) :
    readArguments given (front ++ more) = readArguments given' more := by
  induction steps with
  | nil => rfl
  | cons step _ ih => rw [List.append_assoc, step.readArguments_append, ih]

theorem exists_steps (given : Given) (arguments : List Bytes) :
    ∃ front rest given', Steps given front given' ∧ arguments = front ++ rest ∧
      (rest = [] ∨ ∃ error, Stuck given' rest error) := by
  induction hlength : arguments.length using Nat.strong_induction_on generalizing given arguments with
  | _ length ih =>
    cases arguments with
    | nil => exact ⟨[], [], given, .nil given, rfl, .inl rfl⟩
    | cons argument rest =>
      rcases step_or_stuck given argument rest with ⟨front, given', more, step, hfront, hsplit⟩ | hstuck
      · have hshorter : more.length < length := by
          rw [← hlength, hsplit, List.length_append]
          have := List.length_pos_iff.2 hfront
          omega
        obtain ⟨front', left, given'', steps, hmore, hend⟩ := ih more.length hshorter given' more rfl
        refine ⟨front ++ front', left, given'', .cons step steps, ?_, hend⟩
        rw [hsplit, hmore, List.append_assoc]
      · exact ⟨[], argument :: rest, given, .nil given, rfl, .inr hstuck⟩

theorem Stuck.readArguments_eq (stuck : Stuck given arguments error) :
    readArguments given arguments = .error error := by
  cases stuck with
  | missing _ herror => exact herror
  | refused _ herror =>
    have halone := herror []
    rwa [List.append_nil] at halone

theorem readArguments_eq_ok_iff :
    readArguments given arguments = .ok given' ↔ Steps given arguments given' := by
  constructor
  · intro hread
    obtain ⟨front, rest, reached, steps, rfl, rfl | ⟨error, stuck⟩⟩ := exists_steps given arguments
    · rw [steps.readArguments_append, readArguments] at hread
      obtain rfl := Except.ok.inj hread
      rwa [List.append_nil]
    · rw [steps.readArguments_append, stuck.readArguments_eq] at hread
      exact nomatch hread
  · intro steps
    have hread := steps.readArguments_append []
    rwa [List.append_nil, readArguments] at hread

/-! ### What is written and what is given -/

theorem Steps.append {rest : List Bytes} (steps : Steps given front given')
    (more : Steps given' rest given'') : Steps given (front ++ rest) given'' := by
  induction steps with
  | nil => exact more
  | cons step _ ih =>
    rw [List.append_assoc]
    exact .cons step (ih more)

theorem steps_groups {groups : List Group} (hended : given.ended = false) (hhelp : given.help = false)
    (hadmits : given.AdmitsAll groups) :
    Steps given (groups.flatMap Group.arguments) (given.addAll groups) := by
  induction groups generalizing given with
  | nil =>
    rw [Given.addAll_nil]
    exact .nil given
  | cons group groups ih =>
    obtain ⟨hgroup, hgroups⟩ := Given.admitsAll_cons.1 hadmits
    rw [Given.addAll_cons hgroup]
    exact .cons (.group hended hhelp hgroup) (ih (by simpa) (by simpa) hgroups)

theorem steps_helps {helps : List Bytes} (hended : given.ended = false) (hhelps : AskHelp helps) :
    Steps given helps { given with help := given.help || !helps.isEmpty } := by
  induction helps generalizing given with
  | nil => simpa using Steps.nil given
  | cons word helps ih =>
    obtain ⟨hword, hrest⟩ := List.forall_mem_cons.1 hhelps
    have hlater : Steps { given with help := true } helps _ := ih hended hrest
    simpa using Steps.cons (.help hended hword) hlater

theorem steps_ending {ending : List Bytes} (hended : given.ended = false) (hending : IsEnding ending) :
    Steps given ending { given with ended := !ending.isEmpty } := by
  rcases hending with rfl | rfl
  · rw [List.isEmpty_nil, Bool.not_true, ← hended]
    exact .nil given
  · exact .cons (.ending hended) (.nil _)

/-- Behind the two dashes nothing may stand. -/
theorem Steps.of_ended (hended : given.ended = true) (steps : Steps given arguments given') :
    arguments = [] ∧ given' = given := by
  cases steps with
  | nil => exact ⟨rfl, rfl⟩
  | cons step _ => cases step <;> simp_all

theorem Steps.of_help (hended : given.ended = false) (hhelp : given.help = true)
    (steps : Steps given arguments given') :
    ∃ helps ending, AskHelp helps ∧ IsEnding ending ∧ arguments = helps ++ ending ∧
      given' = { given with ended := !ending.isEmpty } := by
  induction steps with
  | nil given => exact ⟨[], [], nofun, .inl rfl, rfl, by simp [← hended]⟩
  | @cons given reached given' front rest step steps ih =>
    cases step with
    | group _ hopen _ => exact absurd hhelp (by simp [hopen])
    | @help word _ hword =>
      obtain ⟨helps, ending, hhelps, hending, rfl, rfl⟩ := ih hended rfl
      exact ⟨word :: helps, ending, List.forall_mem_cons.2 ⟨hword, hhelps⟩, hending, rfl, by simp [hhelp]⟩
    | ending _ =>
      obtain ⟨rfl, rfl⟩ := steps.of_ended rfl
      exact ⟨[], [endMark], nofun, .inr rfl, rfl, rfl⟩

theorem Steps.of_open (hended : given.ended = false) (hhelp : given.help = false)
    (steps : Steps given arguments given') :
    ∃ groups helps ending, given.AdmitsAll groups ∧ AskHelp helps ∧ IsEnding ending ∧
      arguments = groups.flatMap Group.arguments ++ (helps ++ ending) ∧
      given' = { given.addAll groups with help := !helps.isEmpty, ended := !ending.isEmpty } := by
  induction steps with
  | nil given =>
    refine ⟨[], [], [], given.admitsAll_nil, nofun, .inl rfl, rfl, ?_⟩
    cases given
    simp_all
  | @cons given reached given' front rest step steps ih =>
    cases step with
    | @group group _ _ hadmits =>
      obtain ⟨groups, helps, ending, hgroups, hhelps, hending, rfl, rfl⟩ := ih (by simpa) (by simpa)
      refine ⟨group :: groups, helps, ending, Given.admitsAll_cons.2 ⟨hadmits, hgroups⟩, hhelps, hending, ?_, ?_⟩
      · rw [List.flatMap_cons, List.append_assoc]
      · rw [Given.addAll_cons hadmits]
    | @help word _ hword =>
      -- From here on no group is read, so there are no more of them.
      have hopen : Given.ended { given with help := true } = false := hended
      obtain ⟨helps, ending, hhelps, hending, rfl, rfl⟩ := steps.of_help hopen rfl
      refine ⟨[], word :: helps, ending, given.admitsAll_nil, List.forall_mem_cons.2 ⟨hword, hhelps⟩,
        hending, rfl, ?_⟩
      simp
    | ending _ =>
      obtain ⟨rfl, rfl⟩ := steps.of_ended rfl
      refine ⟨[], [], [endMark], given.admitsAll_nil, nofun, .inr rfl, rfl, ?_⟩
      simp [hhelp]

theorem steps_nothing_iff :
    Steps .nothing arguments given ↔
      ∃ (groups : Groups) (helps ending : List Bytes), AskHelp helps ∧ IsEnding ending ∧
        arguments = groups.arguments ++ (helps ++ ending) ∧
        given = { Given.nothing.addAll groups.list with
          help := !helps.isEmpty, ended := !ending.isEmpty } := by
  constructor
  · intro steps
    obtain ⟨groups, helps, ending, ⟨hprompt, hlog⟩, hhelps, hending, harguments, hgiven⟩ :=
      steps.of_open rfl rfl
    exact ⟨⟨groups, hprompt, hlog⟩, helps, ending, hhelps, hending, harguments, hgiven⟩
  · rintro ⟨groups, helps, ending, hhelps, hending, rfl, rfl⟩
    have hgroups : Steps .nothing groups.arguments (Given.nothing.addAll groups.list) :=
      steps_groups rfl rfl ⟨groups.prompt_once, groups.log_once⟩
    exact hgroups.append ((steps_helps rfl hhelps).append (steps_ending rfl hending))

/-! ### Options, help and errors -/

theorem ofArguments_eq_refused_iff :
    ofArguments arguments = .error (.refused error) ↔ readArguments .nothing arguments = .error error := by
  unfold ofArguments
  cases readArguments .nothing arguments with
  | error other => simp
  | ok given => cases hhelp : given.help <;> simp [hhelp]

theorem ofArguments_written (groups : Groups) {helps ending : List Bytes} (hhelps : AskHelp helps)
    (hending : IsEnding ending) :
    ofArguments (groups.arguments ++ (helps ++ ending)) =
      if helps.isEmpty then .ok groups.options else .error .help := by
  have steps := steps_nothing_iff.2 ⟨groups, helps, ending, hhelps, hending, rfl, rfl⟩
  rw [ofArguments, readArguments_eq_ok_iff.2 steps]
  cases helps with
  | nil => simp [Given.addAll, Given.nothing, Groups.options]
  | cons word helps => simp

/-- Arguments are groups with words of help and two dashes behind them, or they are refused. -/
theorem written_or_refused (arguments : List Bytes) :
    (∃ (groups : Groups) (helps ending : List Bytes), AskHelp helps ∧ IsEnding ending ∧
        arguments = groups.arguments ++ (helps ++ ending)) ∨
      ∃ error, ofArguments arguments = .error (.refused error) := by
  cases hread : readArguments .nothing arguments with
  | error error => exact .inr ⟨error, ofArguments_eq_refused_iff.2 hread⟩
  | ok given =>
    obtain ⟨groups, helps, ending, hhelps, hending, harguments, -⟩ :=
      steps_nothing_iff.1 (readArguments_eq_ok_iff.1 hread)
    exact .inl ⟨groups, helps, ending, hhelps, hending, harguments⟩

theorem ofArguments_eq_ok_iff {options : Options} :
    ofArguments arguments = .ok options ↔
      ∃ (groups : Groups) (ending : List Bytes), IsEnding ending ∧
        arguments = groups.arguments ++ ending ∧ options = groups.options := by
  constructor
  · intro hok
    rcases written_or_refused arguments with ⟨groups, helps, ending, hhelps, hending, rfl⟩ | ⟨error, herror⟩
    · rw [ofArguments_written groups hhelps hending] at hok
      cases helps with
      | nil => exact ⟨groups, ending, hending, rfl, (Except.ok.inj hok).symm⟩
      | cons word helps => exact nomatch hok
    · rw [hok] at herror
      exact nomatch herror
  · rintro ⟨groups, ending, hending, rfl, rfl⟩
    have hnone : AskHelp [] := nofun
    exact ofArguments_written groups hnone hending

example : ofArguments [noEditorSwitch, promptOption, endMark, endMark] = .ok ⟨endMark, defaultLog, true⟩ := by
  decide

theorem ofArguments_eq_help_iff :
    ofArguments arguments = .error .help ↔
      ∃ (groups : Groups) (helps ending : List Bytes), helps ≠ [] ∧ AskHelp helps ∧ IsEnding ending ∧
        arguments = groups.arguments ++ (helps ++ ending) := by
  constructor
  · intro hhelp
    rcases written_or_refused arguments with ⟨groups, helps, ending, hhelps, hending, rfl⟩ | ⟨error, herror⟩
    · rw [ofArguments_written groups hhelps hending] at hhelp
      cases helps with
      | nil => exact nomatch hhelp
      | cons word helps =>
        exact ⟨groups, word :: helps, ending, List.cons_ne_nil _ _, hhelps, hending, rfl⟩
    · rw [hhelp] at herror
      exact nomatch herror
  · rintro ⟨groups, helps, ending, hsome, hhelps, hending, rfl⟩
    rw [ofArguments_written groups hhelps hending, if_neg (by simpa using hsome)]

private theorem findSome?_of_perm {α β : Type} {f : α → Option β} {list other : List α}
    (hperm : list.Perm other) (honce : (list.filterMap f).length ≤ 1) :
    list.findSome? f = other.findSome? f := by
  have hvalues : (list.filterMap f).Perm (other.filterMap f) := hperm.filterMap f
  rw [← List.head?_filterMap, ← List.head?_filterMap]
  rcases hlist : list.filterMap f with _ | ⟨value, _ | ⟨second, rest⟩⟩
  · rw [hlist] at hvalues
    rw [List.nil_perm.1 hvalues]
  · rw [hlist] at hvalues
    rw [List.singleton_perm.1 hvalues]
  · simp [hlist] at honce

theorem Groups.options_of_perm {groups other : Groups} (hperm : groups.list.Perm other.list) :
    groups.options = other.options := by
  have hswitch : .noEditor ∈ groups.list ↔ .noEditor ∈ other.list := hperm.mem_iff
  rw [options, options, findSome?_of_perm hperm groups.prompt_once,
    findSome?_of_perm hperm groups.log_once]
  simp only [hswitch]

/-- A refusal is for a value that the last argument lacks, or it is there with whatever may follow. -/
theorem refused_cases (hrefused : ofArguments arguments = .error (.refused error)) :
    (∃ front option, error = .missingValue option ∧ arguments = front ++ [option] ∧
        (option = promptOption ∨ option = logOption)) ∨
      (∀ option, error ≠ .missingValue option) ∧
        ∀ more, ofArguments (arguments ++ more) = .error (.refused error) := by
  rw [ofArguments_eq_refused_iff] at hrefused
  obtain ⟨front, rest, given, steps, rfl, hend⟩ := exists_steps .nothing arguments
  rw [steps.readArguments_append] at hrefused
  rcases hend with rfl | ⟨other, stuck⟩
  · exact nomatch hrefused
  rw [stuck.readArguments_eq] at hrefused
  obtain rfl := Except.error.inj hrefused
  cases stuck with
  | @missing option hoption _ => exact .inl ⟨front, option, rfl, rfl, hoption⟩
  | refused hvalue herror =>
    refine .inr ⟨hvalue, fun more => ofArguments_eq_refused_iff.2 ?_⟩
    rw [List.append_assoc, steps.readArguments_append]
    exact herror more

private theorem exists_shortest {α : Type} {p : List α → Prop} {list : List α} (hlist : p list) :
    ∃ front, front <+: list ∧ p front ∧ ∀ other, other <+: list → p other → front <+: other := by
  classical
  have hexists : ∃ length, p (list.take length) := ⟨list.length, by rwa [List.take_length]⟩
  refine ⟨list.take (Nat.find hexists), List.take_prefix _ _, Nat.find_spec hexists, ?_⟩
  intro other hprefix hother
  have hshort : Nat.find hexists ≤ other.length := Nat.find_min' hexists <| by
    rwa [← List.prefix_iff_eq_take.1 hprefix]
  rw [List.prefix_iff_eq_take.1 hprefix]
  exact List.take_prefix_take_left hshort

/-- Bad arguments have a shortest part in front that is bad, and whatever begins with it is refused for
the same reason. -/
theorem exists_shortest_bad (hrefused : ofArguments arguments = .error (.refused error))
    (hvalue : ∀ option, error ≠ .missingValue option) :
    ∃ bad, bad <+: arguments ∧ (∀ front, front <+: arguments → (IsBad front ↔ bad <+: front)) ∧
      ∀ more, ofArguments (bad ++ more) = .error (.refused error) := by
  have harguments : IsBad arguments := ⟨error, hrefused, hvalue⟩
  obtain ⟨bad, hprefix, ⟨other, hbad, hother⟩, hshortest⟩ := exists_shortest harguments
  have hdecided : ∀ more, ofArguments (bad ++ more) = .error (.refused other) := by
    rcases refused_cases hbad with ⟨_, option, hmissing, -⟩ | ⟨-, hdecided⟩
    · exact absurd hmissing (hother option)
    · exact hdecided
  obtain ⟨rest, rfl⟩ := hprefix
  obtain rfl : other = error := EarlyExit.refused.inj <| Except.error.inj <|
    (hdecided rest).symm.trans hrefused
  refine ⟨bad, List.prefix_append _ _, fun front hfront => ⟨hshortest front hfront, ?_⟩, hdecided⟩
  rintro ⟨more, rfl⟩
  exact ⟨other, hdecided more, hother⟩

/-- Options come from groups with two dashes behind them or without, help from groups and words of help,
and everything else is refused. The order of the groups does not matter. A refusal for anything but a
value that the last argument lacks is decided by the shortest bad part of the arguments: with that part in
front, whatever follows it, the refusal and with it its text are the same. -/
theorem ofArguments_grammar :
    (∀ arguments options, ofArguments arguments = .ok options ↔
      ∃ (groups : Groups) (ending : List Bytes), IsEnding ending ∧
        arguments = groups.arguments ++ ending ∧ options = groups.options) ∧
    (∀ groups other : Groups, groups.list.Perm other.list → ∀ helps ending, AskHelp helps → IsEnding ending →
      ofArguments (groups.arguments ++ (helps ++ ending)) =
        ofArguments (other.arguments ++ (helps ++ ending))) ∧
    (∀ arguments, ofArguments arguments = .error .help ↔
      ∃ (groups : Groups) (helps ending : List Bytes), helps ≠ [] ∧ AskHelp helps ∧ IsEnding ending ∧
        arguments = groups.arguments ++ (helps ++ ending)) ∧
    (∀ arguments, (∃ error, ofArguments arguments = .error (.refused error)) ↔
      ¬ ∃ (groups : Groups) (helps ending : List Bytes), AskHelp helps ∧ IsEnding ending ∧
        arguments = groups.arguments ++ (helps ++ ending)) ∧
    ∀ arguments error, ofArguments arguments = .error (.refused error) →
      (∃ front option, error = .missingValue option ∧ arguments = front ++ [option] ∧
        (option = promptOption ∨ option = logOption)) ∨
      ∃ bad, bad <+: arguments ∧ (∀ front, front <+: arguments → (IsBad front ↔ bad <+: front)) ∧
        ∀ more, ofArguments (bad ++ more) = .error (.refused error) := by
  refine ⟨fun _ _ => ofArguments_eq_ok_iff, fun groups other hperm helps ending hhelps hending => ?_,
    fun _ => ofArguments_eq_help_iff, fun arguments => ⟨?_, fun hother => ?_⟩, fun arguments error hrefused => ?_⟩
  · rw [ofArguments_written groups hhelps hending, ofArguments_written other hhelps hending,
      Groups.options_of_perm hperm]
  · rintro ⟨error, hrefused⟩ ⟨groups, helps, ending, hhelps, hending, rfl⟩
    rw [ofArguments_written groups hhelps hending] at hrefused
    cases helps <;> exact nomatch hrefused
  · exact (written_or_refused arguments).resolve_left hother
  · rcases refused_cases hrefused with hmissing | ⟨hvalue, -⟩
    · exact .inl hmissing
    · exact .inr (exists_shortest_bad hrefused hvalue)

end LineShell.Options
