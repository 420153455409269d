import ScriptHost.Proofs.Sessions

/-!
The steps of a session, one after another. Each keeps the session sound; only the
host's own registrations of files are more than ordinary, and only building a
script module or looking for something in one gets hold of a compiled script.
-/

namespace ScriptHost

namespace SessionAct

variable {given : Compiled → Prop}

/-! ### Calls and callbacks -/

theorem closeCall_isOrdinary (wanted : ReturnType)
    (result : Except InvokeError (Option NativeValue)) :
    IsOrdinary (closeCall wanted result) := by
  refine .bind world_isOrdinary fun world => ?_
  exact .bind (act_isOrdinary
    (Act.dropAll_isOrdinary (Owned.modules_resultObjects result))) fun _ => .pure _

theorem callbackNamed_isOrdinary (name : String) : IsOrdinary (callbackNamed name) :=
  .bind .get fun _ => .pure _

/-- Whoever has a callback of the session can have its function. -/
theorem callbackNamed_bind {α : Type} {name : String} {next : Callback → SessionAct α}
    (hnext : ∀ callback, Gives (fun compiled => ∃ function,
      callback.function = some function ∧ function.compiled = compiled)
        (next callback)) : IsOrdinary (callbackNamed name >>= next) := by
  refine ⟨fun {left session} hsession => ?_⟩
  have hrest := (hnext ((session.callbacks.get? name).getD .empty)).follows hsession
  refine ⟨hrest.world, fun hcompiled => ?_, hrest.named⟩
  rcases hrest.holds hcompiled with hheld | ⟨function, hfunction, hsame⟩
  · exact .inl hheld
  · cases hcallback : session.callbacks.get? name with
    | none =>
        rw [hcallback] at hfunction
        cases hfunction
    | some callback =>
        rw [hcallback] at hfunction
        exact .inl (.inr (.inr ⟨name, callback, function, hcallback, hfunction, hsame⟩))

theorem callbackAnswer_isOrdinary (callback : Callback) :
    IsOrdinary (callbackAnswer callback) :=
  .bind world_isOrdinary fun _ => .pure _

/-- A callback takes its function, if it has one, with it. -/
theorem putCallback_gives (name : String) {callback : Callback}
    (hgiven : ∀ function, callback.function = some function →
      given function.compiled) : Gives given (putCallback name callback) := by
  refine modify_gives _ (fun _ => rfl) (fun _ => rfl) (fun _ _ => id) ?_
  intro session compiled hholds
  rcases hholds with hcompiled | hfunction | ⟨other, found, function, hfound, hrest⟩
  · exact .inl (.inl hcompiled)
  · exact .inl (.inr (.inl hfunction))
  · dsimp only at hfound
    rw [Table.get?_set] at hfound
    split at hfound
    · cases hfound
      exact .inr (hrest.2 ▸ hgiven function hrest.1)
    · exact .inl (.inr (.inr ⟨other, found, function, hfound, hrest⟩))

theorem emptyCallback_isOrdinary (name : String) : IsOrdinary (emptyCallback name) :=
  .bind (callbackNamed_isOrdinary name) fun callback =>
    .bind_of (fun left => left.function = none)
      (act_isOrdinary (Act.resetCallback_isOrdinary callback)).gives
      (by rintro session left ⟨⟩; rfl)
      fun left hleft => putCallback_gives name (by simp [hleft])

theorem takeScript?_isOrdinary (given : Option GivenScript) :
    IsOrdinary (takeScript? given) := by
  cases given with
  | none => exact .pure _
  | some given => exact .bind (takeScript_isOrdinary given) fun _ => .pure _

end SessionAct

namespace CallStep

open SessionAct

theorem runAnswer_isOrdinary (module entry : String) (call : GivenCall) :
    IsOrdinary (runAnswer module entry call) :=
  .bind (moduleNamed_isOrdinary module) fun _ =>
    .bind needExecutor_isOrdinary fun _ =>
      .bind (takeNatives_isOrdinary _) fun _ =>
        .bind (act_isOrdinary (Act.runEntry_isOrdinary _ _ _ _ _)) fun _ =>
          .bind (closeCall_isOrdinary _ _) fun _ =>
            .bind (dropNatives_isOrdinary _) fun _ => .pure _

theorem invokeAnswer_isOrdinary (function : String) (call : GivenCall) :
    IsOrdinary (invokeAnswer function call) :=
  .bind (functionNamed_isOrdinary function) fun _ =>
    .bind needExecutor_isOrdinary fun _ =>
      .bind (takeNatives_isOrdinary _) fun _ =>
        .bind (act_isOrdinary (Act.invoke_isQuiet _ _ _ _).ordinary) fun _ =>
          .bind (closeCall_isOrdinary _ _) fun _ =>
            .bind (dropNatives_isOrdinary _) fun _ => .pure _

theorem methodAnswer_isOrdinary (function : String) (this : GivenScript)
    (call : GivenCall) : IsOrdinary (methodAnswer function this call) :=
  .bind (functionNamed_isOrdinary function) fun _ =>
    .bind needExecutor_isOrdinary fun _ =>
      .bind (takeNatives_isOrdinary _) fun _ =>
        .bind (takeScript_isOrdinary this) fun _ =>
          .bind (act_isOrdinary (Act.call_isQuiet _ _ _ _ _).ordinary) fun _ =>
            .bind world_isOrdinary fun _ =>
              .bind (closeCall_isOrdinary _ _) fun _ =>
                .bind (act_isOrdinary (Act.dropObjects_isOrdinary _)) fun _ =>
                  .bind (act_isOrdinary (Act.dropObjects_isOrdinary _)) fun _ =>
                    .bind (dropNatives_isOrdinary _) fun _ => .pure _

theorem switchAnswer_isOrdinary (switch : String) (action : SwitchAction) :
    IsOrdinary (switchAnswer switch action) :=
  .bind (act_isOrdinary ⟨fun hworld => (World.Quiet.of_host _).reaches hworld⟩) fun _ =>
    .bind world_isOrdinary fun _ => .pure _

theorem objectAnswer_isOrdinary (name : String) : IsOrdinary (objectAnswer name) :=
  .bind (objectNamed_isOrdinary name) fun _ => .bind world_isOrdinary fun _ => .pure _

/-- A callback gets a function that the session has a name for. -/
private theorem setAnswer_rest (callback : String) (callee : Option FunctionRef)
    (this : Option GivenScript) :
    Gives (fun compiled => ∃ function, callee = some function ∧
        function.compiled = compiled) (do
      let target ← takeScript? this
      let before ← callbackNamed callback
      putCallback callback
        (← act (Act.setCallback before (callee.map fun callee => (callee, target))))
      if callee.isNone then act (Act.dropObjects ((target.map ScriptValue.objects).getD []))
      return Answer.callback (← callbackAnswer (← callbackNamed callback))) := by
  have hend : ∀ given, Gives given (do
      return Answer.callback (← callbackAnswer (← callbackNamed callback))) :=
    fun _ => .bind (callbackNamed_isOrdinary _).gives fun _ =>
      .bind (callbackAnswer_isOrdinary _).gives fun _ => .pure _
  refine .bind (takeScript?_isOrdinary this).gives fun target => ?_
  refine .bind (callbackNamed_isOrdinary callback).gives fun before => ?_
  refine .bind_of (fun bound => bound.function = callee)
    (act_isOrdinary (Act.setCallback_isOrdinary before _)).gives ?_ ?_
  · intro session bound hbound
    cases hbound
    exact (Act.setCallback_function before _ session.world).trans (by cases callee <;> rfl)
  · intro bound hbound
    refine .bind (putCallback_gives callback fun other hother => ?_) fun _ => ?_
    · rw [hbound] at hother
      exact ⟨other, hother, rfl⟩
    · split
      · exact .bind (act_isOrdinary (Act.dropObjects_isOrdinary _)).gives fun _ => hend _
      · exact hend _

theorem setAnswer_isOrdinary (callback : String) (function : Option String)
    (this : Option GivenScript) : IsOrdinary (setAnswer callback function this) := by
  unfold setAnswer
  refine .bind needExecutor_isOrdinary fun _ => ?_
  cases function with
  | none =>
      refine .bind_of (fun callee => callee = none) (.pure _) ?_ ?_
      · intro session callee hcallee
        cases hcallee
        rfl
      · intro callee hcallee
        subst hcallee
        refine (setAnswer_rest callback none this).mono ?_
        simp
  | some name =>
      refine ⟨fun {left session} hsession => ?_⟩
      have hnamed : ∀ {next : Option FunctionRef → SessionAct Answer},
          after ((some <$> functionNamed name) >>= next) session =
            (session.functions.get? name).elim session fun found =>
              after (next (some found)) session := by
        intro next
        rw [map_eq_pure_bind, bind_assoc]
        unfold functionNamed
        rw [bind_assoc, after_get_bind, after_bind, outcome_found, after_found]
        cases session.functions.get? name with
        | none => rfl
        | some found => rfl
      rw [hnamed]
      cases hget : session.functions.get? name with
      | none => exact follows_refl hsession
      | some found =>
          have hrest := (setAnswer_rest callback (some found) this).follows hsession
          refine ⟨hrest.world, fun hcompiled => ?_, hrest.named⟩
          rcases hrest.holds hcompiled with hheld | ⟨_, hfunction, hsame⟩
          · exact .inl hheld
          · cases hfunction
            exact .inl (.inr (.inl ⟨name, found, hget, hsame⟩))

theorem invokeCallbackAnswer_isOrdinary (callback : String) (call : GivenCall) :
    IsOrdinary (invokeCallbackAnswer callback call) := by
  unfold invokeCallbackAnswer
  refine .bind needExecutor_isOrdinary fun _ => ?_
  refine .bind (takeNatives_isOrdinary _) fun args => ?_
  refine callbackNamed_bind fun before => ?_
  refine .bind_of (fun result => ∀ function, result.1.function = some function →
      before.function = some function)
    (act_isOrdinary (Act.invokeCallback_isOrdinary _ _ _ _)).gives ?_ ?_
  · intro session result hresult
    cases hresult
    exact fun function hfunction => Act.invokeCallback_function hfunction
  · intro result hresult
    refine .bind (putCallback_gives callback fun function hfunction =>
      ⟨function, hresult function hfunction, rfl⟩) fun _ => ?_
    exact .bind (closeCall_isOrdinary _ _).gives fun _ =>
      .bind (dropNatives_isOrdinary _).gives fun _ =>
        .bind (callbackAnswer_isOrdinary _).gives fun _ => .pure _

/-- An object gets a name. -/
theorem object_isOrdinary (target : String) (given : GivenObject) :
    IsOrdinary (perform (.object target given)) := by
  refine ⟨fun {left session} hsession => ?_⟩
  unfold perform
  have htaken := (takeObject_isOrdinary given).follows hsession
  rw [after_bind]
  split
  · rename_i ref href
    have hbound := htaken.trans
      (bindObject_follows htaken.world.sound (takeObject_there href) target)
    rw [after_bind]
    split
    · exact hbound
    · exact hbound
  · exact htaken

theorem perform_isOrdinary (step : CallStep) : IsOrdinary step.perform := by
  cases step with
  | run module entry call => exact runAnswer_isOrdinary module entry call
  | invoke function call => exact invokeAnswer_isOrdinary function call
  | invokeMethod function this call => exact methodAnswer_isOrdinary function this call
  | abort switch action => exact switchAnswer_isOrdinary switch action
  | object target given => exact object_isOrdinary target given
  | refs object => exact objectAnswer_isOrdinary object
  | hold object target =>
      exact .bind (objectNamed_isOrdinary object) fun _ =>
        .bind (modify_gives _ (fun _ => rfl) (fun _ => rfl) (fun _ _ => id) .inl) fun _ => .pure _
  | isAlive weak =>
      exact .bind .get fun _ => .bind (found_isOrdinary _ _) fun _ =>
        .bind world_isOrdinary fun _ => .pure _
  | setCallback callback function this =>
      exact setAnswer_isOrdinary callback function this
  | resetCallback callback =>
      exact .bind (emptyCallback_isOrdinary callback) fun _ =>
        .bind (callbackNamed_isOrdinary callback) fun _ =>
          .bind (callbackAnswer_isOrdinary _) fun _ => .pure _
  | callbackState callback =>
      refine .bind .get fun session => ?_
      split
      · exact .bind (callbackAnswer_isOrdinary _) fun _ => .pure _
      · exact .pure _
  | invokeCallback callback call => exact invokeCallbackAnswer_isOrdinary callback call

end CallStep

namespace GameStep

open SessionAct

theorem loadAnswer_isOrdinary (name requestedBy : String) (target : Option String) :
    IsOrdinary (loadAnswer name requestedBy target) := by
  unfold loadAnswer
  refine .bind needLoader_isOrdinary fun _ => ?_
  refine .bind (act_isOrdinary (Act.load_isOrdinary name requestedBy)) fun result => ?_
  split
  · exact .pure _
  · exact .bind world_isOrdinary fun _ =>
      .bind (bindGame_isOrdinary target _) fun _ => .pure _

/-- The script module of a living game module lives, so that a handle of it can be
taken. -/
theorem scriptAnswer_isOrdinary (name : String) (target : Option String) :
    IsOrdinary (scriptAnswer name target) := by
  unfold scriptAnswer
  refine gameState_bind fun {left session place game} hsession hgame => ?_
  split
  · exact follows_refl hsession
  · rename_i address hscript
    have hlives := hsession.script_lives hgame hscript
    have hretained : session.world.Reaches
        (session.held.taking (address :: left)) Touch.ordinary
          (session.world.retaining [address]) := by
      have htaken : session.world.Reaches _ Touch.ordinary
          (session.world.retaining [address]) :=
        hsession.retaining fun other hother => by
          rw [List.mem_singleton.mp hother]
          exact Option.isSome_iff_exists.mpr hlives
      exact ⟨htaken.changes, htaken.games, htaken.issues, htaken.sound⟩
    rw [after_bind, outcome_act, after_act]
    dsimp only
    rw [after_bind]
    have hnamed := (Session.Follows.of_world hretained :
      session.Follows (fun _ => False) (address :: left) _).trans
        (bindModule_follows hretained.sound target)
    split
    · exact hnamed
    · exact hnamed

theorem dependencyAnswer_isOrdinary (name : String) (place : Nat)
    (target : Option String) : IsOrdinary (dependencyAnswer name place target) := by
  unfold dependencyAnswer
  refine .bind (gameState_isOrdinary name) fun game => ?_
  split
  · exact .pure _
  · exact .bind (act_isOrdinary (Act.retain_isQuiet _).ordinary) fun _ =>
      .bind world_isOrdinary fun _ => .bind (bindGame_isOrdinary target _) fun _ => .pure _

theorem fireAnswer_isOrdinary (name : String) (kind : EventKind)
    (payload : List (String × GivenScript)) :
    IsOrdinary (fireAnswer name kind payload) := by
  unfold fireAnswer
  refine .bind (gameNamed_isOrdinary name) fun address => ?_
  refine .bind (takeEntries_isOrdinary payload) fun entries => ?_
  have hfire : IsOrdinary (actDropping (Act.fire address ⟨kind, entries⟩)) := by
    refine actDropping_isOrdinary fun {held world} hworld => ?_
    rw [Act.fire_modules]
    exact Act.fire_reaches hworld _
  refine .bind hfire fun outcome => ?_
  refine .bind (act_isOrdinary (Act.dropObjects_isOrdinary _)) fun _ => ?_
  split
  · exact .pure _
  · exact .pure _

theorem executeAnswer_isOrdinary (name entry : String) (passSelf existed : Bool)
    (call : GivenCall) :
    IsOrdinary (executeAnswer name entry passSelf existed call) := by
  unfold executeAnswer
  refine .bind (gameNamed_isOrdinary name) fun address => ?_
  refine .bind (takeNatives_isOrdinary _) fun args => ?_
  refine .bind_of (fun result => Owned.modules result.2.2 = [])
    (act_isOrdinary (Act.runOnGame_isOrdinary _ _ _ _ _ _ _)) ?_ ?_
  · intro session result hresult
    cases hresult
    exact Act.runOnGame_modules _ _ _ _ _ _ _ _
  · intro result hresult
    exact .bind (closeCall_isOrdinary _ _) fun _ =>
      .bind (act_isOrdinary (Act.dropAll_isOrdinary hresult)) fun _ =>
        .bind (dropNatives_isOrdinary _) fun _ => .pure _

/-- A loader is made while the host holds the executor. -/
theorem loader_isOrdinary (search : Option SourceSearch) (moduleExtension : String) :
    IsOrdinary (perform (.loader search moduleExtension)) := by
  unfold perform
  refine needExecutor_bind fun {left session} hexecutor hsession => ?_
  have hheld : 0 < (session.held.taking left).executor := by
    simp [Session.held, Holdings.taking, hexecutor]
  obtain ⟨hresult, hafter⟩ := Act.makeLoader_eq hsession hheld
    (search.getD session.world.executor.search) moduleExtension
  have hmade := hsession.withLoader (hsession.running_of_held hheld)
    (.create session.world.loaders (search.getD session.world.executor.search)
      moduleExtension)
  have hrest : IsOrdinary (do
      act (Act.dropAll [])
      return Answer.nothing) :=
    .bind (act_isOrdinary (Act.dropAll_isOrdinary rfl)) fun _ => .pure _
  rw [after_bind, outcome_act, after_act, hresult, hafter]
  exact (Session.Follows.of_world hmade).trans (hrest.follows hmade.sound)

theorem releaseScript_isOrdinary (name : String) :
    IsOrdinary (perform (.releaseScript name)) :=
  .bind (gameNamed_isOrdinary name) fun address =>
    .act_dropping id (fun hworld => Act.detachGame_reaches hworld address true)
      fun _ => .pure _

theorem perform_isOrdinary (step : GameStep) : IsOrdinary step.perform := by
  cases step with
  | loader search moduleExtension => exact loader_isOrdinary search moduleExtension
  | scan =>
      exact .bind needLoader_isOrdinary fun _ =>
        .bind (act_isOrdinary Act.scan_isOrdinary) fun _ => .pure _
  | known => exact .bind needLoader_isOrdinary fun _ => .pure _
  | load name requestedBy target => exact loadAnswer_isOrdinary name requestedBy target
  | loaded name =>
      exact .bind needLoader_isOrdinary fun _ => .bind world_isOrdinary fun _ => .pure _
  | loadedCount =>
      exact .bind needLoader_isOrdinary fun _ =>
        .bind (act_isOrdinary Act.loadedCount_isOrdinary) fun _ => .pure _
  | loadedModules =>
      exact .bind needLoader_isOrdinary fun _ =>
        .bind (act_isOrdinary Act.loadedModules_isOrdinary) fun _ => .pure _
  | drain =>
      exact .bind needLoader_isOrdinary fun _ =>
        .bind (act_isOrdinary (Act.onLoader_isOrdinary _)) fun _ => .pure _
  | loaderStats =>
      exact .bind needLoader_isOrdinary fun _ => .bind world_isOrdinary fun _ => .pure _
  | game name =>
      exact .bind (gameState_isOrdinary name) fun _ =>
        .bind world_isOrdinary fun _ => .pure _
  | refs name =>
      exact .bind world_isOrdinary fun _ =>
        .bind (gameNamed_isOrdinary name) fun _ => .pure _
  | same a b =>
      exact .bind (gameNamed_isOrdinary a) fun _ =>
        .bind (gameNamed_isOrdinary b) fun _ => .pure _
  | script name target => exact scriptAnswer_isOrdinary name target
  | dependency name place target => exact dependencyAnswer_isOrdinary name place target
  | exportPaths name =>
      refine .bind (gameNamed_isOrdinary name) fun _ => ?_
      refine .bind (act_isOrdinary (Act.exportPaths_isOrdinary _)) fun paths => ?_
      split
      · exact .pure _
      · exact .pure _
  | subscriptions name =>
      exact .bind (gameNamed_isOrdinary name) fun _ =>
        .bind (act_isOrdinary (Act.subscriptions_isOrdinary _)) fun _ => .pure _
  | isSubscribed name event =>
      exact .bind (gameNamed_isOrdinary name) fun _ =>
        .bind (act_isOrdinary (Act.subscriptions_isOrdinary _)) fun _ => .pure _
  | fire name event payload => exact fireAnswer_isOrdinary name event payload
  | execute name entry passSelf existed call =>
      exact executeAnswer_isOrdinary name entry passSelf existed call
  | makeReady name =>
      exact .bind (gameNamed_isOrdinary name) fun _ =>
        .bind needLoader_isOrdinary fun _ =>
          .bind (act_isOrdinary (Act.initializeGame_isOrdinary _)) fun _ => .pure _
  | releaseScript name => exact releaseScript_isOrdinary name

end GameStep

namespace ModuleStep

open SessionAct

/-- Whoever makes a module takes the handle of it over. -/
private theorem created_reaches {may : Touch → Prop} {left : List Nat}
    {session : Session} (hmay : ∀ touch, Touch.ordinary touch → may touch)
    (target : Option String) {operation : Act Nat}
    (hreaches : session.world.Reaches ((session.held.taking left).taking
      [Act.result operation session.world]) may
        (Act.after operation session.world)) :
    let created := after (do
      let address ← act operation
      let id := (((← world).module? address).map ScriptModule.id).getD 0
      bindModule target address
      return Answer.number id) session
    session.world.Reaches (created.held.taking left) may created.world ∧
      (∀ compiled, created.Holds compiled → session.Holds compiled) ∧
      ∀ ref, created.Named ref →
        session.Named ref ∨ ref.address < created.world.objects.next := by
  dsimp only
  rw [after_bind, outcome_act, after_act]
  dsimp only
  generalize Act.result operation session.world = address at hreaches
  generalize Act.after operation session.world = made at hreaches
  have hsound : made.Sound (({ session with world := made } : Session).held.taking
      (address :: left)) := hreaches.sound
  have hbound : ({ session with world := made } : Session).Follows (fun _ => False) left
      (after (bindModule target address) { session with world := made }) :=
    bindModule_follows hsound target
  unfold SessionAct.world
  simp only [bind_assoc, pure_bind]
  rw [after_get_bind, after_bind]
  have hall := And.intro (hreaches.trans (hbound.world.mono hmay))
    (And.intro (fun compiled (hholds : Session.Holds _ compiled) =>
      (hbound.holds hholds).elim id False.elim) fun ref => @hbound.named ref)
  split
  · exact hall
  · exact hall

theorem hook_isOrdinary (address : Nat) (release init : List NativeValue) :
    IsOrdinary (hook address release init) := by
  unfold hook
  refine .bind (act_isOrdinary (Act.setHooks_isOrdinary address _)) fun taken => ?_
  cases taken with
  | true => exact .pure _
  | false => exact .bind (dropNatives_isOrdinary _) fun _ => .pure _

theorem reload_isOrdinary (module : String) : IsOrdinary (perform (.reload module)) := by
  refine .bind (moduleNamed_isOrdinary module) fun address => ?_
  refine .bind (actDropping_isOrdinary fun {held world} hworld => ?_) fun _ => .pure _
  rw [Act.reload_modules hworld.objects]
  exact Act.reload_reaches hworld (World.within_ordinary _ _) trivial

theorem release_isOrdinary (module : String) :
    IsOrdinary (perform (.release module)) := by
  refine .bind (moduleNamed_isOrdinary module) fun address => ?_
  refine .act_dropping id (fun {held world} hworld => ?_) fun _ => .pure _
  have hnone := Act.release_modules address world
  rw [id_eq, hnone]
  exact (Act.release_isOrdinary address).reaches hworld

theorem clearHooks_isOrdinary (module : String) :
    IsOrdinary (perform (.clearHooks module)) := by
  refine .bind (moduleNamed_isOrdinary module) fun address => ?_
  refine .act_dropping id (fun {held world} hworld => ?_) fun _ => .pure _
  have hnone : Owned.modules (Act.result (Act.clearHooks address) world) = [] :=
    Owned.modules_objects _
  rw [id_eq, hnone]
  exact (Act.clearHooks_isOrdinary address).reaches hworld

/-! ### Compiled scripts that a step gives -/

/-- A name for a compiled script. -/
theorem bindCompiled_gives (name : Option String) (compiled : Option Compiled) :
    Gives (fun other => compiled = some other) (bindCompiled name compiled) := by
  unfold bindCompiled
  split
  · rename_i name compiled
    refine modify_gives _ (fun _ => rfl) (fun _ => rfl) (fun _ _ => id) ?_
    intro session other hholds
    rcases hholds with ⟨found, hfound⟩ | hrest
    · dsimp only at hfound
      rw [Table.get?_set] at hfound
      split at hfound
      · exact .inr hfound
      · exact .inl (.inl ⟨found, hfound⟩)
    · exact .inl (.inr hrest)
  · exact .pure _

/-- A name for a function. -/
theorem bindFunction_gives (name : Option String) (function : FunctionRef) :
    Gives (fun compiled => function.compiled = compiled)
      (bindFunction name function) := by
  unfold bindFunction
  split
  · rename_i name
    refine modify_gives _ (fun _ => rfl) (fun _ => rfl) (fun _ _ => id) ?_
    intro session other hholds
    rcases hholds with hcompiled | ⟨found, known, hfound, hsame⟩ | hcallback
    · exact .inl (.inl hcompiled)
    · dsimp only at hfound
      rw [Table.get?_set] at hfound
      split at hfound
      · cases hfound
        exact .inr hsame
      · exact .inl (.inr (.inl ⟨found, known, hfound, hsame⟩))
    · exact .inl (.inr (.inr hcallback))
  · exact .pure _

/-- An operation on a script module, and a name for what it gives if the module then
has it. -/
theorem bind_follows {α : Type} {left : List Nat} {session : Session}
    {operation : Act α} (hoperation : operation.IsOrdinary)
    {rest : α → SessionAct Answer} (given : α → Compiled → Prop)
    (hrest : ∀ value, Gives (given value) (rest value))
    (hworld : ∀ value session, (after (rest value) session).world = session.world)
    (hgiven : ∀ {compiled}, given (Act.result operation session.world) compiled →
      (Act.after operation session.world).Owns compiled)
    (hsession : session.world.Sound (session.held.taking left)) :
    session.Follows
      (after (do let value ← act operation; rest value) session).world.Owns left
      (after (do let value ← act operation; rest value) session) := by
  have hfirst := hoperation.reaches hsession
  rw [after_bind, outcome_act, after_act]
  dsimp only
  have hlast : Session.Follows (given (Act.result operation session.world)) left
      { session with world := Act.after operation session.world } _ :=
    (hrest (Act.result operation session.world)).follows hfirst.sound
  refine ⟨hfirst.trans hlast.world, fun hholds => ?_, hlast.named⟩
  rcases hlast.holds hholds with hheld | hnew
  · exact .inl hheld
  · refine .inr ?_
    rw [hworld]
    exact hgiven hnew

/-- A step that begins with the script module of a name. -/
private theorem named_follows {left : List Nat} {session : Session} (name : String)
    {next : Nat → SessionAct Answer}
    (hnext : ∀ address, session.Follows
      (after (next address) session).world.Owns left (after (next address) session))
    (hsession : session.world.Sound (session.held.taking left)) :
    session.Follows (after (moduleNamed name >>= next) session).world.Owns left
      (after (moduleNamed name >>= next) session) := by
  rw [after_moduleNamed_bind]
  split
  · exact hnext _
  · exact follows_refl hsession

theorem buildAnswer_follows {left : List Nat} {session : Session} (module : String)
    (target : Option String)
    (hsession : session.world.Sound (session.held.taking left)) :
    session.Follows (after (buildAnswer module target) session).world.Owns left
      (after (buildAnswer module target) session) := by
  refine named_follows module (fun address => ?_) hsession
  refine bind_follows (Act.build_isOrdinary address)
    (fun result compiled => result = some compiled) (fun compiled => .bind (bindCompiled_gives target compiled) fun _ => ?_) ?_ ?_
    hsession
  · split
    · exact .pure _
    · exact .pure _
  · intro compiled session
    cases compiled with
    | none => cases target <;> rfl
    | some compiled => cases target <;> rfl
  · intro compiled hresult
    obtain ⟨module, hmodule, hcompiled, -⟩ := Act.build_result hresult
    exact ⟨address, module, hmodule, hcompiled⟩

theorem functionAnswer_follows {left : List Nat} {session : Session}
    (module name : String) (count : Nat) (target : Option String)
    (hsession : session.world.Sound (session.held.taking left)) :
    session.Follows
      (after (functionAnswer module name count target) session).world.Owns left
      (after (functionAnswer module name count target) session) := by
  refine named_follows module (fun address => ?_) hsession
  refine bind_follows (Act.function_isOrdinary address name count)
    (fun found compiled => ∃ function, found = .ok function ∧
      function.compiled = compiled) (fun found => ?_) ?_ ?_ hsession
  · cases found with
    | ok function =>
        exact .bind ((bindFunction_gives target function).mono fun compiled hsame =>
          ⟨function, rfl, hsame⟩) fun _ => .pure _
    | error cause => exact .pure _
  · intro found session
    cases found with
    | ok function => cases target <;> rfl
    | error cause => rfl
  · rintro compiled ⟨function, hresult, rfl⟩
    obtain ⟨module, hmodule, hcompiled⟩ := Act.function_result hresult
    exact ⟨address, module, hmodule, hcompiled⟩

theorem findAnswer_follows {left : List Nat} {session : Session}
    (module name : String) (genericType target : Option String)
    (hsession : session.world.Sound (session.held.taking left)) :
    session.Follows
      (after (findAnswer module name genericType target) session).world.Owns left
      (after (findAnswer module name genericType target) session) := by
  refine named_follows module (fun address => ?_) hsession
  refine bind_follows (Act.findListener_isOrdinary address name genericType)
    (fun found compiled => ∃ entry, found = some entry ∧
      entry.function.compiled = compiled) (fun found => ?_) ?_ ?_ hsession
  · cases found with
    | some entry =>
        exact .bind ((bindFunction_gives target entry.function).mono
          fun compiled hsame => ⟨entry, rfl, hsame⟩) fun _ => .pure _
    | none => exact .pure (Answer.listener none)
  · intro found session
    cases found with
    | some entry => cases target <;> rfl
    | none => rfl
  · rintro compiled ⟨entry, hresult, rfl⟩
    obtain ⟨module, hmodule, hcompiled⟩ := Act.findListener_result hsession hresult
    exact ⟨address, module, hmodule, hcompiled⟩

theorem indexAnswer_isOrdinary (compiled name : String) (genericType : Option String) :
    IsOrdinary (indexAnswer compiled name genericType) :=
  .bind (compiledNamed_isOrdinary compiled) fun _ =>
    .bind (act_isOrdinary (Act.IsQuiet.forM Act.warn_isQuiet _).ordinary) fun _ =>
      .pure _

/-- A step that makes a module under the next number. -/
theorem create_isOrdinary (target : Option String) (name source : String) :
    IsOrdinary (perform (.create target name source none)) := by
  unfold perform
  refine needExecutor_bind fun {left session} hexecutor hsession => ?_
  have hrunning := hsession.running_of_held (by simp [Session.held, Holdings.taking, hexecutor])
  obtain ⟨hworld, hholds, hnamed⟩ := created_reaches (fun _ => id) target
    (Act.createModule_reaches hsession hrunning name source)
  exact ⟨hworld, fun hcompiled => .inl (hholds _ hcompiled), fun {ref} => hnamed ref⟩

/-- A step that makes a module under a number that the host has chosen. -/
theorem createNumbered_reaches {session : Session} (hsession : session.world.Sound session.held)
    (target : Option String) (name source : String) (id : Nat) :
    let created := after (perform (.create target name source (some id))) session
    session.world.Reaches created.held
        (fun touch => Touch.ordinary touch ∨ touch = .number name id) created.world ∧
      (∀ compiled, created.Holds compiled → session.Holds compiled) ∧
      ∀ ref, created.Named ref →
        session.Named ref ∨ ref.address < created.world.objects.next := by
  dsimp only
  unfold perform
  rw [after_needExecutor_bind]
  split
  · rename_i hexecutor
    have hrunning := hsession.running_of_held (by simp [Session.held, hexecutor])
    have hcreated : session.world.Reaches ((session.held.taking []).taking
        [Act.result (Act.createModuleWithId name source id) session.world])
        (fun touch => Touch.ordinary touch ∨ touch = .number name id)
        (Act.after (Act.createModuleWithId name source id) session.world) :=
      Act.createModuleWithId_reaches hsession hrunning name source id
    exact created_reaches (fun _ => .inl) target hcreated
  · exact ⟨.refl hsession, fun _ hholds => hholds, fun _ => .inl⟩

/-- The name and number that a step chooses for a module that it makes. -/
def chosen : ModuleStep → Option (String × Nat)
  | .create _ name _ (some id) => some (name, id)
  | _ => none

/-- Whether a step looks for a compiled script in a module, and may name it. -/
def Finds : ModuleStep → Prop
  | .build _ _ | .function _ _ _ _ | .findListener _ _ _ _ => True
  | _ => False

/-- Every other step can be put together freely with others. -/
theorem perform_isOrdinary {step : ModuleStep} (hstep : ¬ step.Finds)
    (hchosen : step.chosen = none) : IsOrdinary step.perform := by
  cases step with
  | build module target => exact absurd trivial hstep
  | function module name count target => exact absurd trivial hstep
  | findListener module name genericType target => exact absurd trivial hstep
  | create target name source id =>
      cases id with
      | none => exact create_isOrdinary target name source
      | some id => cases hchosen
  | addSegment module file line code =>
      exact .bind (moduleNamed_isOrdinary module) fun _ =>
        .bind (act_isOrdinary (Act.addSegment_isOrdinary _ (Segment.inline_whole _ _ _))) fun _ => .pure _
  | addFile module path =>
      exact .bind (moduleNamed_isOrdinary module) fun _ =>
        .bind (act_isOrdinary (Act.addFile_isOrdinary _ _)) fun _ => .pure _
  | segments module => exact .bind (moduleState_isOrdinary module) fun _ => .pure _
  | sameBuild a b =>
      exact .bind (compiledNamed_isOrdinary a) fun _ =>
        .bind (compiledNamed_isOrdinary b) fun _ => .pure _
  | locate compiled lines =>
      exact .bind (compiledNamed_isOrdinary compiled) fun _ => .pure _
  | hasFunction compiled name =>
      exact .bind (compiledNamed_isOrdinary compiled) fun _ => .pure _
  | resolve compiled name count =>
      refine .bind (compiledNamed_isOrdinary compiled) fun _ => ?_
      split
      · exact .pure _
      · exact .pure _
  | state module => exact .bind (moduleState_isOrdinary module) fun _ => .pure _
  | setAccess module mask =>
      exact .bind (moduleNamed_isOrdinary module) fun _ =>
        .bind (act_isOrdinary (Act.setAccess_isOrdinary _ fun _ => mask)) fun _ => .pure _
  | addAccess module mask =>
      exact .bind (moduleNamed_isOrdinary module) fun _ =>
        .bind (act_isOrdinary (Act.setAccess_isOrdinary _ _)) fun _ => .pure _
  | listeners module =>
      exact .bind (moduleNamed_isOrdinary module) fun _ =>
        .bind (act_isOrdinary (Act.listeners_isOrdinary _)) fun _ => .pure _
  | listenerCount module =>
      exact .bind (moduleNamed_isOrdinary module) fun _ =>
        .bind (act_isOrdinary (Act.listeners_isOrdinary _)) fun _ => .pure _
  | hasListener module name genericType =>
      exact .bind (moduleNamed_isOrdinary module) fun _ =>
        .bind (act_isOrdinary (Act.findListener_isOrdinary _ _ _)) fun _ => .pure _
  | index compiled name genericType => exact indexAnswer_isOrdinary compiled name genericType
  | reload module => exact reload_isOrdinary module
  | markDiscarded module =>
      exact .bind (moduleNamed_isOrdinary module) fun _ =>
        .bind (act_isOrdinary (Act.markDiscarded_isOrdinary _)) fun _ => .pure _
  | release module => exact release_isOrdinary module
  | setHooks module release init =>
      exact .bind (moduleNamed_isOrdinary module) fun _ =>
        .bind (takeNatives_isOrdinary release) fun _ =>
          .bind (takeNatives_isOrdinary init) fun _ =>
            .bind (hook_isOrdinary _ _ _) fun _ => .pure _
  | clearHooks module => exact clearHooks_isOrdinary module
  | discardCompiled internalName =>
      exact .bind needExecutor_isOrdinary fun _ =>
        .bind (act_isOrdinary ⟨fun hworld =>
          Act.discardCompiled_reaches hworld internalName⟩) fun _ => .pure _
  | delete id =>
      exact .bind needExecutor_isOrdinary fun _ =>
        .bind (actDropping_isOrdinary fun hworld =>
          Act.deleteModule_reaches hworld fun _ _ => trivial) fun _ => .pure _
  | deleteUnreferenced id =>
      exact .bind needExecutor_isOrdinary fun _ =>
        .bind (actDropping_isOrdinary fun hworld =>
          Act.deleteUnreferenced_reaches hworld id) fun _ => .pure _
  | registered id =>
      exact .bind needExecutor_isOrdinary fun _ => .bind world_isOrdinary fun _ => .pure _
  | stats => exact .bind needExecutor_isOrdinary fun _ => .pure _
  | granted source => exact .bind needExecutor_isOrdinary fun _ => .pure _
  | resolveType name =>
      refine .bind needExecutor_isOrdinary fun executor => ?_
      split
      · exact .pure _
      · exact .pure _
  | executor => exact .bind needExecutor_isOrdinary fun _ => .pure _

end ModuleStep

namespace FileStep

open SessionAct

/-- A name of a script module that is dropped, with the handle that it had. -/
theorem dropModule_isOrdinary (name : String) : IsOrdinary (dropModule name) := by
  refine ⟨fun {left session} hsession => ?_⟩
  let dropped : Session := { session with modules := session.modules.erase name }
  have hdropped : session.world.Reaches (dropped.held.taking left) Touch.ordinary
      (Act.after (Act.dropAll ((session.modules.get? name).toList.map Owned.module))
        session.world) := by
    refine Act.dropAll_reaches (hsession.forget (Nat.le_refl _) fun other => ?_)
    have hcount := Table.count_erase session.modules name other
    rw [Owned.modules_modules]
    simp only [Holdings.taking, Session.held, dropped, List.count_append] at hcount ⊢
    omega
  exact ⟨hdropped, .inl, .inl⟩

/-- Compiled scripts that are no longer named are not held. -/
private theorem held_of_erase {α : Type} {table : Table String α} {name other : String}
    {value : α} (hget : (table.erase name).get? other = some value) :
    table.get? other = some value := by
  rw [Table.get?_erase] at hget
  split at hget
  · cases hget
  · exact hget

theorem dropCallback_isOrdinary (name : String) : IsOrdinary (dropCallback name) := by
  refine .bind .get fun session => ?_
  refine .bind (modify_gives _ (fun _ => rfl) (fun _ => rfl) (fun _ _ => id) ?_) fun _ =>
    .bind (act_isOrdinary (Act.dropObjects_isOrdinary _)) fun _ => .pure _
  rintro session compiled (hcompiled | hfunction | ⟨other, callback, function, hget, hrest⟩)
  · exact .inl (.inl hcompiled)
  · exact .inl (.inr (.inl hfunction))
  · exact .inl (.inr (.inr ⟨other, callback, function, held_of_erase hget, hrest⟩))

theorem dropFunction_isOrdinary (name : String) : IsOrdinary (dropFunction name) := by
  refine .bind .get fun session => ?_
  refine .bind (modify_gives _ (fun _ => rfl) (fun _ => rfl) (fun _ _ => id) ?_) fun _ => .pure _
  rintro session compiled (hcompiled | ⟨other, function, hget, hrest⟩ | hcallback)
  · exact .inl (.inl hcompiled)
  · exact .inl (.inr (.inl ⟨other, function, held_of_erase hget, hrest⟩))
  · exact .inl (.inr (.inr hcallback))

theorem dropCompiled_isOrdinary (name : String) : IsOrdinary (dropCompiled name) := by
  refine .bind .get fun session => ?_
  refine .bind (modify_gives _ (fun _ => rfl) (fun _ => rfl) (fun _ _ => id) ?_) fun _ => .pure _
  rintro session compiled (⟨other, hget⟩ | hrest)
  · exact .inl (.inl ⟨other, held_of_erase hget⟩)
  · exact .inl (.inr hrest)

theorem dropGame_isOrdinary (name : String) : IsOrdinary (dropGame name) :=
  .bind .get fun _ =>
    .bind (modify_gives _ (fun _ => rfl) (fun _ => rfl) (fun _ _ => id) .inl) fun _ =>
      .bind (act_isOrdinary (Act.dropObjects_isOrdinary _)) fun _ => .pure _

theorem dropObject_isOrdinary (name : String) : IsOrdinary (dropObject name) :=
  .bind .get fun _ =>
    .bind (modify_gives _ (fun _ => rfl) (fun _ => rfl)
      (fun _ _ ⟨other, hget⟩ => ⟨other, held_of_erase hget⟩) .inl) fun _ =>
      .bind (act_isOrdinary (Act.dropObjects_isOrdinary _)) fun _ => .pure _

/-- Without its loader a world has one holder of the executor less. -/
theorem dropLoader_isOrdinary : IsOrdinary dropLoader := by
  refine ⟨fun {left session} hsession => ?_⟩
  unfold dropLoader SessionAct.world
  rw [bind_assoc, after_get_bind]
  simp only [pure_bind]
  split
  · exact follows_refl hsession
  · rename_i loader hloader
    have hwithout := hsession.withoutLoader hloader
    have hdropped := hwithout.trans (Act.dropExecutor_reaches hwithout.sound)
    exact ⟨⟨hdropped.changes, hdropped.games, hdropped.issues, hdropped.sound⟩, .inl, .inl⟩

/-- Once the host has let the executor go, it does not hold it. -/
theorem dropExecutor_isOrdinary : IsOrdinary dropExecutor := by
  refine ⟨fun {left session} hsession => ?_⟩
  unfold dropExecutor
  rw [after_get_bind]
  split
  · rename_i hexecutor
    let gone : Session := { session with hasExecutor := false }
    have hheld : session.world.Sound (gone.held.taking left).holding := by
      refine hsession.forget ?_ fun _ => Nat.le_refl _
      simp [Session.held, Holdings.taking, Holdings.holding, gone, hexecutor]
    exact ⟨Act.dropExecutor_reaches hheld, .inl, .inl⟩
  · exact follows_refl hsession

theorem dropName_isOrdinary (kind : NameKind) (name : String) :
    IsOrdinary (dropName kind name) := by
  cases kind with
  | callback => exact dropCallback_isOrdinary name
  | function => exact dropFunction_isOrdinary name
  | compiled => exact dropCompiled_isOrdinary name
  | game => exact dropGame_isOrdinary name
  | module => exact dropModule_isOrdinary name
  | object => exact dropObject_isOrdinary name
  | loader => exact dropLoader_isOrdinary
  | executor => exact dropExecutor_isOrdinary

/-- Whether a step registers files for a module on behalf of the host. -/
def Registers : FileStep → Prop
  | .watch _ _ _ => True
  | _ => False

/-- Ending a registration by its number. -/
theorem unwatch_isOrdinary (id : Nat) :
    Act.IsOrdinary (Act.onExecutor fun executor => executor.unwatch id) := by
  refine ⟨fun {held world} hworld => ?_⟩
  have hsteady := world.withExecutor_steady (fun executor => executor.unwatch id) rfl
  refine hsteady.reaches hworld ?_
  have hmay : Touch.ordinary (.module 0 id) := trivial
  rw [World.scripts_unwatch]
  exact .single (.unwatch id hmay)

theorem perform_isOrdinary {step : FileStep} (hstep : ¬ step.Registers) :
    IsOrdinary step.perform := by
  cases step with
  | write path node =>
      exact .bind (act_isOrdinary ⟨fun hworld => hworld.reaches_write path node⟩)
        fun _ => .pure _
  | remove path =>
      exact .bind (act_isOrdinary ⟨fun hworld => hworld.reaches_remove path⟩)
        fun _ => .pure _
  | changed paths =>
      exact .bind needExecutor_isOrdinary fun _ =>
        .bind (act_isOrdinary ⟨fun hworld => Act.handleChanges_reaches hworld paths⟩)
          fun _ => .pure _
  | poll =>
      exact .bind needExecutor_isOrdinary fun _ =>
        .bind (act_isOrdinary ⟨Act.poll_reaches⟩) fun _ => .pure _
  | watch module files id => exact absurd trivial hstep
  | unwatch id =>
      exact .bind needExecutor_isOrdinary fun _ =>
        .bind (act_isOrdinary (unwatch_isOrdinary id)) fun _ => .pure _
  | isWatching id => exact .bind needExecutor_isOrdinary fun _ => .pure _
  | watchedFiles => exact .bind needExecutor_isOrdinary fun _ => .pure _
  | drop kind name => exact .bind (dropName_isOrdinary kind name) fun _ => .pure _

end FileStep

end ScriptHost
