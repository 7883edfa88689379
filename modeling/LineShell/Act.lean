import LineShell.Event
/-!
# Actions

An action takes the world to a new one, yields a value, and leaves the events of what it did. Two
actions in sequence leave the events of the first and then those of the second.
-/

namespace LineShell

/-- What an action leads to. -/
structure Outcome (ω α : Type) where
  value : α
  events : Trace
  world : ω

/-- An action on a world of type `ω` that yields an `α`. -/
def Act (ω α : Type) : Type := ω → Outcome ω α

namespace Act

variable {ω α β : Type}

def run (action : Act ω α) (world : ω) : Outcome ω α := action world

protected def pure (value : α) : Act ω α := fun world => ⟨value, [], world⟩

protected def bind (action : Act ω α) (next : α → Act ω β) : Act ω β := fun world =>
  let first := action world
  let second := next first.value first.world
  ⟨second.value, first.events ++ second.events, second.world⟩

protected def map (change : α → β) (action : Act ω α) : Act ω β := fun world =>
  let outcome := action world
  ⟨change outcome.value, outcome.events, outcome.world⟩

instance : Monad (Act ω) where
  pure := Act.pure
  bind := Act.bind
  map := Act.map

def emit (event : Event) : Act ω Unit := fun world => ⟨(), [event], world⟩

/-- Changes the world and leaves no event. -/
def update (change : ω → α × ω) : Act ω α := fun world =>
  let (value, world') := change world
  ⟨value, [], world'⟩

@[simp] theorem run_pure (value : α) (world : ω) :
    (pure value : Act ω α).run world = ⟨value, [], world⟩ := rfl

@[simp] theorem run_bind (action : Act ω α) (next : α → Act ω β) (world : ω) :
    (action >>= next).run world =
      ⟨((next (action.run world).value).run (action.run world).world).value,
        (action.run world).events ++
          ((next (action.run world).value).run (action.run world).world).events,
        ((next (action.run world).value).run (action.run world).world).world⟩ := rfl

@[simp] theorem run_map (change : α → β) (action : Act ω α) (world : ω) :
    (change <$> action).run world =
      ⟨change (action.run world).value, (action.run world).events, (action.run world).world⟩ := rfl

@[simp] theorem run_emit (event : Event) (world : ω) :
    (emit event).run world = ⟨(), [event], world⟩ := rfl

@[simp] theorem run_update (change : ω → α × ω) (world : ω) :
    (update change).run world = ⟨(change world).1, [], (change world).2⟩ := rfl

protected theorem bind_assoc {γ : Type} (action : Act ω α) (next : α → Act ω β) (last : β → Act ω γ) :
    action >>= next >>= last = action >>= fun value => next value >>= last := by
  funext world
  change Act.bind (Act.bind action next) last world
    = Act.bind action (fun value => Act.bind (next value) last) world
  simp [Act.bind]

protected theorem bind_pure_comp (change : α → β) (action : Act ω α) :
    (action >>= fun value => pure (change value)) = change <$> action := by
  funext world
  change Act.bind action (fun value => Act.pure (change value)) world = Act.map change action world
  simp [Act.bind, Act.pure, Act.map]

instance : LawfulMonad (Act ω) :=
  LawfulMonad.mk' (Act ω) (fun _ => rfl) (fun _ _ => rfl) Act.bind_assoc (by intros; rfl)
    (by intros; rfl) (by intros; rfl) Act.bind_pure_comp (by intros; rfl)

end Act

end LineShell
