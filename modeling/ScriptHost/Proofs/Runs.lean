import ScriptHost.World.Basic

/-!
What an operation on the world gives and what it leaves behind, piece by piece.
-/

namespace ScriptHost

namespace Act

variable {α β : Type}

/-- What an operation gives. -/
def result (act : Act α) (world : World) : α :=
  (act.run world).1

/-- The world that an operation leaves behind. -/
def after (act : Act α) (world : World) : World :=
  (act.run world).2

theorem run_eq (act : Act α) (world : World) :
    act.run world = (result act world, after act world) := rfl

@[simp]
theorem after_pure (value : α) (world : World) :
    after (pure value) world = world := rfl

@[simp]
theorem result_pure (value : α) (world : World) :
    result (pure value) world = value := rfl

@[simp]
theorem after_bind (act : Act α) (next : α → Act β) (world : World) :
    after (act >>= next) world =
      after (next (result act world)) (after act world) := rfl

@[simp]
theorem result_bind (act : Act α) (next : α → Act β) (world : World) :
    result (act >>= next) world =
      result (next (result act world)) (after act world) := rfl

@[simp]
theorem after_map (change : α → β) (act : Act α) (world : World) :
    after (change <$> act) world = after act world := rfl

@[simp]
theorem result_map (change : α → β) (act : Act α) (world : World) :
    result (change <$> act) world = change (result act world) := rfl

@[simp]
theorem after_get (world : World) : after get world = world := rfl

@[simp]
theorem result_get (world : World) : result get world = world := rfl

/-- An operation that begins by looking at the world. -/
theorem after_get_bind (next : World → Act β) (world : World) :
    after (get >>= next) world = after (next world) world := rfl

theorem result_get_bind (next : World → Act β) (world : World) :
    result (get >>= next) world = result (next world) world := rfl

@[simp]
theorem after_set (other world : World) : after (set other) world = other := rfl

@[simp]
theorem after_modify (change : World → World) (world : World) :
    after (modify change) world = change world := rfl

@[simp]
theorem after_warn (message : String) (world : World) :
    after (warn message) world = world.warn message := rfl

@[simp]
theorem after_error (message : String) (world : World) :
    after (error message) world = world.error message := rfl

@[simp]
theorem after_note (game script : Nat) (event : EventType) (world : World) :
    after (note game script event) world = world.noting game script event := rfl

@[simp]
theorem after_onExecutor (change : Executor → Executor) (world : World) :
    after (onExecutor change) world = world.withExecutor change := rfl

@[simp]
theorem after_onModule (address : Nat) (change : ScriptModule → ScriptModule)
    (world : World) :
    after (onModule address change) world = world.withModule address change := rfl

@[simp]
theorem after_onGame (address : Nat) (change : GameModule → GameModule)
    (world : World) :
    after (onGame address change) world = world.withGame address change := rfl

@[simp]
theorem after_retain (refs : List ObjectRef) (world : World) :
    after (retain refs) world = world.retain refs := rfl

end Act

end ScriptHost
