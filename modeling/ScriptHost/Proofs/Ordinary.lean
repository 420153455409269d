import ScriptHost.Proofs.Handling
import ScriptHost.Proofs.Registering
import ScriptHost.Proofs.Releasing
import ScriptHost.World.Callback
import ScriptHost.World.Entry
import ScriptHost.World.Load

/-!
Operations that can be put together freely: each makes a sound world of a sound
one, without registrations of files by the host, and whatever handles of script
modules it takes are dropped again by its end.
-/

namespace ScriptHost

namespace Act

open World

variable {α β : Type} {held : Holdings} {world : World}

/-- Whether an operation can be put together freely with others. -/
structure IsOrdinary (act : Act α) : Prop where
  reaches : ∀ {held : Holdings} {world : World}, world.Sound held →
    world.Reaches held Touch.ordinary (after act world)

theorem IsOrdinary.pure (value : α) : IsOrdinary (Pure.pure value) :=
  ⟨fun hworld => .refl hworld⟩

theorem IsOrdinary.bind {act : Act α} {next : α → Act β} (hact : IsOrdinary act)
    (hnext : ∀ value, IsOrdinary (next value)) : IsOrdinary (act >>= next) :=
  ⟨fun hworld => (hact.reaches hworld).trans
    ((hnext _).reaches (hact.reaches hworld).sound)⟩

theorem IsOrdinary.get : IsOrdinary (MonadState.get : Act World) :=
  ⟨fun hworld => .refl hworld⟩

theorem IsQuiet.ordinary {act : Act α} (hact : IsQuiet act) : IsOrdinary act :=
  ⟨fun hworld => (hact _).reaches hworld⟩

theorem dropObjects_isOrdinary (refs : List ObjectRef) :
    IsOrdinary (dropObjects refs) :=
  ⟨dropObjects_reaches refs⟩

theorem build_isOrdinary (address : Nat) : IsOrdinary (build address) :=
  ⟨fun hworld => build_reaches hworld (within_ordinary _ _) trivial⟩

theorem function_isOrdinary (address : Nat) (name : String) (count : Nat) :
    IsOrdinary (function address name count) :=
  ⟨fun hworld => function_reaches hworld (within_ordinary _ _) trivial name count⟩

theorem findListener_isOrdinary (address : Nat) (name : String)
    (genericType : Option String) :
    IsOrdinary (findListener address name genericType) :=
  ⟨fun hworld => findListener_reaches (within_ordinary _ _)
    ((build_isOrdinary address).reaches hworld) name genericType⟩

theorem listeners_isOrdinary (address : Nat) : IsOrdinary (listeners address) :=
  ⟨fun hworld => listeners_reaches (within_ordinary _ _)
    ((build_isOrdinary address).reaches hworld)⟩

theorem addSegment_isOrdinary (address : Nat) {segment : Segment} (hwhole : segment.Whole) :
    IsOrdinary (addSegment address segment) :=
  ⟨fun hworld => addSegment_reaches hworld (within_ordinary _ _) trivial hwhole⟩

theorem addFile_isOrdinary (address : Nat) (path : Path) :
    IsOrdinary (addFile address path) :=
  ⟨fun hworld => addFile_reaches hworld (within_ordinary _ _) trivial path⟩

theorem setHooks_isOrdinary (address : Nat) (hooks : Hooks) :
    IsOrdinary (setHooks address hooks) :=
  ⟨fun hworld => setHooks_reaches hworld (within_ordinary _ _) hooks⟩

theorem clearHooks_isOrdinary (address : Nat) : IsOrdinary (clearHooks address) :=
  ⟨fun hworld => clearHooks_reaches hworld (within_ordinary _ _)⟩

theorem release_isOrdinary (address : Nat) : IsOrdinary (release address) :=
  ⟨fun hworld => release_reaches hworld (within_ordinary _ _)⟩

theorem markDiscarded_isOrdinary (address : Nat) :
    IsOrdinary (markDiscarded address) :=
  ⟨fun hworld => discard_reaches hworld (within_ordinary _ _) _⟩

theorem setAccess_isOrdinary (address : Nat)
    (change : ScriptModule → AccessMask) :
    IsOrdinary (onModule address fun module =>
      { module with access := change module }) :=
  ⟨fun hworld => hworld.reaches_edit (within_ordinary _ _) _
    (fun _ _ => ScriptModule.edit_of_eq rfl rfl rfl rfl rfl rfl rfl rfl rfl)
    fun _ _ => .inl rfl⟩

theorem onLoader_isOrdinary (change : Loader → Loader) :
    IsOrdinary (onLoader change) :=
  ⟨fun hworld => (onLoader_quiet _ change).reaches hworld⟩

theorem onGame_isOrdinary (address : Nat) (change : GameModule → GameModule)
    (hscript : ∀ game, (change game).script = game.script) :
    IsOrdinary (onGame address change) :=
  ⟨fun hworld => hworld.reaches_game trivial change hscript⟩

theorem subscriptions_isOrdinary (address : Nat) :
    IsOrdinary (subscriptions address) :=
  ⟨fun hworld => subscriptions_reaches hworld⟩

/-- Handles of objects may be dropped at any time. -/
theorem dropAll_isOrdinary {handles : List Owned}
    (hmodules : Owned.modules handles = []) : IsOrdinary (dropAll handles) := by
  refine ⟨fun {held world} hworld => dropAll_reaches ?_⟩
  rw [hmodules]
  exact hworld

/-- What an operation hands out may be dropped right after it, if the operation has
accounted for it. -/
theorem dropping_reaches {act : Act (α × List Owned)}
    (hact : world.Reaches (held.taking (Owned.modules (result act world).2))
      Touch.ordinary (after act world)) :
    world.Reaches held Touch.ordinary
      (after (do
        let (value, owned) ← act
        dropAll owned
        return value) world) := by
  rw [after_bind]
  generalize result act world = outcome at hact
  obtain ⟨value, owned⟩ := outcome
  exact hact.trans (dropAll_reaches hact.sound)

/-! ### Calls and callbacks -/

theorem callback_isOrdinary (function : FunctionRef) (target : Option ScriptValue) :
    IsOrdinary (bindCallback function target) := by
  unfold bindCallback
  split
  · exact .pure _
  · refine .bind .get fun world => ?_
    split
    · exact .bind (dropObjects_isOrdinary _) fun _ => .pure _
    · exact .bind (warn_isQuiet _).ordinary fun _ => .pure _

/-- A callback is bound to the function it is made of. -/
theorem bindCallback_function (function : FunctionRef) (target : Option ScriptValue)
    (world : World) :
    (result (bindCallback function target) world).function = some function := by
  unfold bindCallback
  split
  · rfl
  · rw [result_get_bind]
    split <;> rfl

/-- A callback that is set has the function that it is set to. -/
theorem setCallback_function (callback : Callback)
    (wanted : Option (FunctionRef × Option ScriptValue)) (world : World) :
    (result (setCallback callback wanted) world).function = wanted.map Prod.fst := by
  cases wanted with
  | none => rfl
  | some bound => exact bindCallback_function bound.1 bound.2 _

theorem resetCallback_isOrdinary (callback : Callback) : IsOrdinary (resetCallback callback) :=
  .bind (dropObjects_isOrdinary _) fun _ => .pure _

theorem setCallback_isOrdinary (callback : Callback)
    (wanted : Option (FunctionRef × Option ScriptValue)) :
    IsOrdinary (setCallback callback wanted) := by
  refine .bind (resetCallback_isOrdinary callback) fun _ => ?_
  split
  · exact .pure _
  · exact callback_isOrdinary _ _

theorem takeTarget_isOrdinary (callback : Callback) : IsOrdinary (takeTarget callback) := by
  unfold takeTarget
  split
  · exact .pure _
  · split
    · exact .pure _
    · exact .bind (retain_isQuiet _).ordinary fun _ => .pure _
    · refine ⟨fun {held world} hworld => ?_⟩
      rw [after_get_bind]
      split
      · exact .refl hworld
      · rename_i objects hupgrade
        have hquiet : world.Quiet { world with objects := objects } :=
          World.upgrade_quiet hupgrade
        exact hquiet.reaches hworld

theorem callTaken_isOrdinary (function : FunctionRef) (target : Option ScriptValue)
    (args : List NativeValue) (setup : RunSetup) (wanted : ReturnType) :
    IsOrdinary (callTaken function target args setup wanted) := by
  cases target with
  | none => exact (invoke_isQuiet _ _ _ _).ordinary
  | some target =>
      exact .bind (call_isQuiet _ _ _ _ _).ordinary fun _ =>
        .bind (dropObjects_isOrdinary _) fun _ => .bind (dropObjects_isOrdinary _) fun _ => .pure _

theorem invokeCallback_isOrdinary (callback : Callback) (args : List NativeValue)
    (setup : RunSetup) (wanted : ReturnType) :
    IsOrdinary (invokeCallback callback args setup wanted) := by
  refine .bind (takeTarget_isOrdinary callback) fun taken => ?_
  split
  · exact .pure _
  · exact .bind (callTaken_isOrdinary _ _ _ _ _) fun _ => .pure _

/-- A callback has the same function after a call has begun, or none any more. -/
theorem takeTarget_function {callback : Callback} {function : FunctionRef}
    (hfunction : (result (takeTarget callback) world).1.function = some function) :
    callback.function = some function := by
  unfold takeTarget at hfunction
  split at hfunction
  · exact hfunction
  · split at hfunction
    · exact hfunction
    · exact hfunction
    · rw [result_get_bind] at hfunction
      split at hfunction
      · cases hfunction
      · exact hfunction

/-- What a call leaves of a callback is what the beginning of the call has left. -/
theorem invokeCallback_left (callback : Callback) (args : List NativeValue)
    (setup : RunSetup) (wanted : ReturnType) (world : World) :
    (result (invokeCallback callback args setup wanted) world).1 =
      (result (takeTarget callback) world).1 := by
  unfold invokeCallback
  rw [result_bind]
  split
  · rename_i hleft
    rw [hleft]
    rfl
  · rename_i hleft
    rw [hleft]
    rfl

/-- A callback has the same function after a call, or none any more. -/
theorem invokeCallback_function {callback : Callback} {args : List NativeValue}
    {setup : RunSetup} {wanted : ReturnType} {function : FunctionRef}
    (hfunction : (result (invokeCallback callback args setup wanted) world).1.function =
      some function) : callback.function = some function := by
  rw [invokeCallback_left] at hfunction
  exact takeTarget_function hfunction

theorem runEntry_isOrdinary (address : Nat) (entry : String)
    (args : List NativeValue) (setup : RunSetup) (wanted : ReturnType) :
    IsOrdinary (runEntry address entry args setup wanted) := by
  unfold runEntry
  refine .bind (function_isOrdinary _ _ _) fun found => ?_
  split
  · exact .bind (invoke_isQuiet _ _ _ _).ordinary fun _ => .pure _
  · rename_i err
    have hreport : ∀ wanted : Bool, IsOrdinary (do
        if wanted then error s!"cannot run '{entry}': {err.message}"
        return ((.error err : Except InvokeError (Option NativeValue)), false)) := by
      intro wanted
      cases wanted with
      | true => exact .bind (error_isQuiet _).ordinary fun _ => .pure _
      | false => exact .pure _
    exact hreport _

theorem runOnGame_isOrdinary (address : Nat) (entry : String) (passSelf : Bool)
    (args : List NativeValue) (setup : RunSetup) (existed : Bool)
    (wanted : ReturnType) :
    IsOrdinary (runOnGame address entry passSelf args setup existed wanted) := by
  unfold runOnGame
  refine .bind .get fun world => ?_
  split
  · exact .pure _
  · split
    · exact .pure _
    · split
      · exact .bind (selfValue_isQuiet _).ordinary fun _ =>
          .bind (runEntry_isOrdinary _ _ _ _ _) fun _ => .pure _
      · exact .bind (runEntry_isOrdinary _ _ _ _ _) fun _ => .pure _

/-- What a run on a game module hands out is handles of objects. -/
theorem runOnGame_modules (address : Nat) (entry : String) (passSelf : Bool)
    (args : List NativeValue) (setup : RunSetup) (existed : Bool)
    (wanted : ReturnType) (world : World) :
    Owned.modules
      (result (runOnGame address entry passSelf args setup existed wanted) world).2.2 =
        [] := by
  unfold runOnGame
  rw [result_get_bind]
  split
  · rfl
  · split
    · rfl
    · split
      · exact Owned.modules_objects _
      · rfl

end Act

end ScriptHost
