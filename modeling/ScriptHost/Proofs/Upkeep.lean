import ScriptHost.Proofs.Instances
import ScriptHost.Proofs.Raising
import ScriptHost.Proofs.Stepping

/-!
Every step of a session keeps its world orderly. What the host does besides loading hands out
handles and takes them back, or changes game modules in what their slots do not depend on.
Handles that hooks or events may own from then on are those of objects which there are.
-/

namespace ScriptHost

namespace World

variable {held : Holdings} {base world : World} {lent : List Nat} {place : Nat}

/-- A game module, if there is one, changes in anything that its slot does not depend on. -/
theorem Orderly.editing (hworld : world.Orderly [] [] []) (place : Nat)
    {change : GameModule → GameModule}
    (hsame : ∀ game, (change game).name = game.name ∧ (change game).loader = game.loader ∧
      (change game).slot = game.slot)
    (hdependencies : ∀ game, ∀ target ∈ (change game).dependencies,
      target ∈ game.dependencies ∨ target < world.objects.next) :
    (world.withGame place change).Orderly [] [] [] := by
  cases hgame : world.game? place with
  | some game =>
      exact hworld.edit hgame change (hsame game).1 (hsame game).2.1 (hsame game).2.2
        (hdependencies game)
  | none =>
      have hget : ∀ address, (world.withGame place change).objects.get? address =
          world.objects.get? address := by
        intro address
        rw [get?_withGame, Heap.get?_modify]
        split
        · rename_i haddress
          subst haddress
          cases hbody : world.objects.get? place with
          | none => rfl
          | some body =>
              cases body with
              | game game => exact nomatch hgame.symm.trans ((game?_eq_some_iff _ _ _).mpr hbody)
              | _ => rfl
        · rfl
      refine hworld.of_games (hworld.objects.modify place _) hworld.modules
        (Nat.le_of_eq (Heap.next_modify _ _ _).symm) ?_ ?_ rfl rfl (by simp)
      · rintro address (⟨owner, body, hbody, howned⟩ | hhooked)
        · exact .inl ⟨owner, body, (hget owner).symm.trans hbody, howned⟩
        · exact .inr hhooked
      · intro address
        unfold game?
        rw [hget]

/-- The event that is made for a delivery may own handles of objects that there are. -/
theorem Orderly.allocate (hworld : world.Orderly [] [] []) {body : ObjectBody}
    (hbody : ∀ game, body ≠ .game game)
    (hbounded : ∀ target ∈ body.owned, target < world.objects.next) :
    { world with objects := (world.objects.alloc body).2 }.Orderly [] [] [] := by
  have hsame : ∀ address, World.game?
      { world with objects := (world.objects.alloc body).2 } address = world.game? address := by
    intro address
    ext game
    rw [game?_eq_some_iff, game?_eq_some_iff, Heap.get?_alloc]
    split
    · rename_i haddress
      subst haddress
      refine ⟨fun hmade => absurd (Option.some.inj hmade) (hbody game), fun hthere => ?_⟩
      exact absurd (Heap.lt_next_of_get? hworld.objects hthere) (Nat.lt_irrefl _)
    · rfl
  refine ⟨hworld.objects.alloc body, hworld.modules, ?_, ?_, hworld.loader, ?_, ?_, ?_, ?_⟩
  · rintro address (⟨owner, found, hfound, howned⟩ | hhooked)
    · rw [Heap.get?_alloc] at hfound
      split at hfound
      · cases hfound
        exact Nat.lt_succ_of_lt (hbounded address howned)
      · exact Nat.lt_succ_of_lt (hworld.bounded (.inl ⟨owner, found, hfound, howned⟩))
    · exact Nat.lt_succ_of_lt (hworld.bounded (.inr hhooked))
  · intro address game hgame
    rw [hsame] at hgame
    exact hworld.serials hgame
  · intro loader hloader
    rw [seats_congr hsame]
    exact (hworld.houses hloader).mono (Nat.le_succ _)
  · intro loader hloader key entry game hholds hgame
    rw [hsame] at hgame
    exact hworld.filled hloader hholds hgame
  · intro loader _ address game hmem
    exact absurd hmem List.not_mem_nil
  · intro address game hmem
    exact absurd hmem List.not_mem_nil

/-- A script module gets hooks that may own handles of objects that there are. -/
theorem Orderly.hooking (hworld : world.Orderly [] [] []) (script : Nat) {hooks : Hooks}
    (hbounded : ∀ ref ∈ hooks.objects, ref.address < world.objects.next) :
    (world.withModule script fun module =>
      { module with hooks := some hooks }).Orderly [] [] [] where
  objects := hworld.objects
  modules := hworld.modules.modify script _
  bounded := by
    rintro address (howned | ⟨other, module, hmodule, hmem⟩)
    · exact hworld.bounded (.inl howned)
    · rw [module?_withModule] at hmodule
      split at hmodule
      · obtain ⟨earlier, -, rfl⟩ := Option.map_eq_some_iff.mp hmodule
        obtain ⟨ref, href, rfl⟩ := List.mem_map.mp hmem
        exact hbounded ref href
      · exact hworld.bounded (.inr ⟨other, module, hmodule, hmem⟩)
  serials := hworld.serials
  loader := hworld.loader
  houses := hworld.houses
  filled := hworld.filled
  outer := hworld.outer
  kept := by simp

end World

namespace Act

open World LoadAct

variable {α β : Type} {base world : World} {lent : List Nat}

/-- An operation that hands out handles. -/
theorem IsOrderly.of_keeps {act : Act α}
    (hkeeps : ∀ {world : World}, world.objects.Sound →
      ∃ handed, world.Keeps (after act world) handed) : IsOrderly act :=
  ⟨fun hworld => by
    obtain ⟨handed, hhanded⟩ := hkeeps hworld.objects
    exact (hworld.keeps hhanded).relend [] (by simp)⟩

/-- An operation that goes on with what it finds. -/
theorem IsOrderly.get_bind {next : World → Act β}
    (hnext : ∀ {world : World}, world.Orderly [] [] [] →
      (after (next world) world).Orderly [] [] []) : IsOrderly (MonadState.get >>= next) :=
  ⟨fun hworld => hnext hworld⟩

theorem IsOrderly.forM {act : α → Act PUnit} (hact : ∀ value, IsOrderly (act value)) :
    ∀ values : List α, IsOrderly (values.forM act)
  | [] => .pure _
  | value :: rest => .bind (hact value) fun _ => IsOrderly.forM hact rest

/-! ### Calls -/

theorem call_isOrderly (function : FunctionRef) (this : Option ScriptValue)
    (args : List NativeValue) (setup : RunSetup) (wanted : ReturnType) :
    IsOrderly (call function this args setup wanted) :=
  .of_keeps fun hworld =>
    ⟨_, call_keeps function this args setup wanted (World.Keeps.refl hworld)⟩

theorem invoke_isOrderly (function : FunctionRef) (args : List NativeValue)
    (setup : RunSetup) (wanted : ReturnType) :
    IsOrderly (invoke function args setup wanted) :=
  .bind (call_isOrderly function none args setup wanted) fun _ => .pure _

theorem selfValue_isOrderly (address : Nat) : IsOrderly (selfValue address) :=
  .of_keeps fun hworld => ⟨_, selfValue_keeps address (World.Keeps.refl hworld)⟩

theorem retainAll_isOrderly (refs : List ObjectRef) : IsOrderly (Act.retain refs) :=
  .of_keeps fun hworld => ⟨_, (World.Keeps.refl hworld).retain refs⟩

theorem runEntry_isOrderly (address : Nat) (entry : String) (args : List NativeValue)
    (setup : RunSetup) (wanted : ReturnType) :
    IsOrderly (runEntry address entry args setup wanted) := by
  refine .bind (function_isSteady address entry args.length).orderly fun found => ?_
  split
  · exact .bind (invoke_isOrderly _ args setup wanted) fun _ => .pure _
  · have hend : ∀ (missing : Bool) (err : InvokeError), IsOrderly (do
        if !missing || setup.errorOnMissing then
          error s!"cannot run '{entry}': {err.message}"
        return (Except.error err, false) :
          Act (Except InvokeError (Option NativeValue) × Bool)) := by
      intro missing err
      dsimp only
      split
      · exact .bind (error_isSteady _).orderly fun _ => .pure _
      · exact .pure _
    split
    · exact hend true _
    · exact hend false _

theorem runOnGame_isOrderly (address : Nat) (entry : String) (passSelf : Bool)
    (args : List NativeValue) (setup : RunSetup) (existed : Bool) (wanted : ReturnType) :
    IsOrderly (runOnGame address entry passSelf args setup existed wanted) := by
  refine .bind .get fun world => ?_
  split
  · exact .pure _
  · split
    · exact .pure _
    · split
      · exact .bind (selfValue_isOrderly address) fun _ =>
          .bind (runEntry_isOrderly _ entry _ setup wanted) fun _ => .pure _
      · exact .bind (runEntry_isOrderly _ entry args setup wanted) fun _ => .pure _

/-! ### Callbacks -/

theorem bindCallback_isOrderly (function : FunctionRef) (target : Option ScriptValue) :
    IsOrderly (bindCallback function target) := by
  unfold bindCallback
  split
  · exact .pure _
  · refine .bind .get fun world => ?_
    split
    · exact .bind (dropObjects_isOrderly _) fun _ => .pure _
    · exact .bind (warn_isSteady _).orderly fun _ => .pure _

theorem resetCallback_isOrderly (callback : Callback) : IsOrderly (resetCallback callback) :=
  .bind (dropObjects_isOrderly _) fun _ => .pure _

theorem setCallback_isOrderly (callback : Callback)
    (wanted : Option (FunctionRef × Option ScriptValue)) :
    IsOrderly (setCallback callback wanted) := by
  refine .bind (resetCallback_isOrderly callback) fun _ => ?_
  split
  · exact .pure _
  · exact bindCallback_isOrderly _ _

theorem takeTarget_isOrderly (callback : Callback) : IsOrderly (takeTarget callback) := by
  unfold takeTarget
  split
  · exact .pure _
  · split
    · exact .pure _
    · exact .bind (retainAll_isOrderly _) fun _ => .pure _
    · refine .get_bind fun {world} hworld => ?_
      split
      · exact hworld
      · rename_i objects hupgrade
        have hheld := (World.Keeps.refl hworld.objects).of_objects
          ((World.Keeps.refl hworld.objects).objects.upgrade hupgrade)
        exact (hworld.keeps hheld).relend [] (by simp)

theorem callTaken_isOrderly (function : FunctionRef) (target : Option ScriptValue)
    (args : List NativeValue) (setup : RunSetup) (wanted : ReturnType) :
    IsOrderly (callTaken function target args setup wanted) := by
  cases target with
  | none => exact invoke_isOrderly function args setup wanted
  | some target =>
      exact .bind (call_isOrderly function _ args setup wanted) fun _ =>
        .bind (dropObjects_isOrderly _) fun _ => .bind (dropObjects_isOrderly _) fun _ => .pure _

theorem invokeCallback_isOrderly (callback : Callback) (args : List NativeValue)
    (setup : RunSetup) (wanted : ReturnType) :
    IsOrderly (invokeCallback callback args setup wanted) := by
  refine .bind (takeTarget_isOrderly callback) fun taken => ?_
  split
  · exact .pure _
  · exact .bind (callTaken_isOrderly _ _ _ _ _) fun _ => .pure _

/-! ### The registry -/

theorem createModuleWithId_isOrderly (name source : String) (id : Nat) :
    IsOrderly (createModuleWithId name source id) :=
  ⟨fun hworld => (createModuleWithId_orderly name source id hworld).1⟩

theorem createModule_isOrderly (name source : String) : IsOrderly (createModule name source) :=
  ⟨fun hworld => (createModule_orderly name source hworld).1⟩

theorem deleteModule_isOrderly (id : Nat) : IsOrderly (deleteModule id) :=
  (deleteModule_isSteady id).orderly

theorem deleteUnreferenced_isOrderly (id : Nat) : IsOrderly (deleteUnreferenced id) := by
  refine .bind .get fun world => ?_
  split
  · exact .pure _
  · split
    · exact deleteModule_isOrderly id
    · exact .pure _

/-! ### Game modules -/

theorem detachGame_isOrderly (address : Nat) (wanted : Bool) :
    IsOrderly (detachGame address wanted) := by
  refine .get_bind fun {world} hworld => ?_
  split
  · exact hworld
  · rename_i game hgame
    have hdetaching : (world.detaching address).Orderly [] [] [] :=
      hworld.editing address (fun _ => ⟨rfl, rfl, rfl⟩) fun _ _ hmem =>
        absurd hmem List.not_mem_nil
    have hself := selfValue_keeps address (World.Keeps.refl hdetaching.objects)
    obtain ⟨refs, rest, -, hkeeps, -⟩ := detachScript_keeps address game wanted
      (result (selfValue address) (world.detaching address)) hself
    have hdetached := (hdetaching.keeps hkeeps).relend [] (by simp)
    exact hdetached.editing address (fun _ => ⟨rfl, rfl, rfl⟩) fun _ _ => .inl

theorem fireInit_isOrderly (address : Nat) : IsOrderly (fireInit address) :=
  ⟨fun hworld => (fireInit_orderly hworld address).1⟩

/-! ### Events and hooks -/

/-- An event with a payload of objects that there are. -/
theorem deliver_orderly (script : Nat) {event : Event} (game : NativeValue)
    (hworld : world.Orderly [] [] []) (hpayload : ∀ ref ∈
      event.payload.flatMap fun item => item.2.objects, ref.address < world.objects.next) :
    (after (deliver script event game) world).Orderly [] [] [] := by
  have hsteady := findListener_isSteady script event.kind.listenerName event.kind.genericType?
    world
  have hfound := hworld.steady hsteady
  rw [← hsteady.objects] at hpayload
  unfold deliver
  rw [after_bind]
  split
  · exact hfound
  · rename_i entry _
    have hheld := (World.Keeps.refl hfound.objects).retain
      (event.payload.flatMap fun item => item.2.objects)
    have hretained := (hfound.keeps hheld).relend [] (by simp)
    have hmade := @Orderly.allocate _ hretained (.event event) nofun fun target hmem => by
      obtain ⟨ref, href, rfl⟩ := List.mem_map.mp hmem
      exact Nat.lt_of_lt_of_le (hpayload ref href) hheld.objects.next
    rw [after_bind, after_retain, after_bind]
    exact IsOrderly.run (.bind (invoke_isOrderly _ _ _ _) fun _ => .pure _) hmade

theorem fire_orderly (place : Nat) {event : Event} (hworld : world.Orderly [] [] [])
    (hpayload : ∀ ref ∈ event.payload.flatMap fun item => item.2.objects,
      ref.address < world.objects.next) :
    (after (fire place event) world).Orderly [] [] [] := by
  unfold fire
  rw [after_get_bind]
  split
  · exact hworld
  · have hself := selfValue_keeps place (World.Keeps.refl hworld.objects)
    rename_i script _
    have hdelivered := deliver_orderly script (result (selfValue place) world)
      ((hworld.keeps hself).relend [] (by simp)) fun ref href =>
        Nat.lt_of_lt_of_le (hpayload ref href) hself.objects.next
    rw [after_bind, after_bind]
    generalize after (deliver _ _ _) _ = delivered at *
    exact hdelivered

theorem setHooks_orderly (script : Nat) {hooks : Hooks} (hworld : world.Orderly [] [] [])
    (hbounded : ∀ ref ∈ hooks.objects, ref.address < world.objects.next) :
    (after (setHooks script hooks) world).Orderly [] [] [] := by
  unfold setHooks
  rw [after_get_bind]
  split
  · exact hworld
  · exact hworld.hooking script hbounded

/-! ### Initializing a game module again -/

/-- Whether a step of a load keeps worlds orderly in which nothing is being initialized by
others. -/
theorem IsOrderly.load_bind {step : LoadAct α} {next : α → LoadAct β}
    (hstep : IsOrderly step.run) (hnext : ∀ value, IsOrderly (next value).run) :
    IsOrderly (step >>= next).run := by
  refine ⟨fun {world} hworld => ?_⟩
  rw [after_run_bind]
  split
  · exact (hnext _).run (hstep.run hworld)
  · exact hstep.run hworld

theorem IsOrderly.lift {act : Act α} (hact : IsOrderly act) :
    IsOrderly (liftM act : LoadAct α).run :=
  ⟨fun hworld => hact.run hworld⟩

theorem IsOrderly.throw (err : LoadError) : IsOrderly (throw err : LoadAct α).run :=
  .pure _

/-- A game module changes in nothing that its slot or its imports depend on. -/
theorem onGame_isOrderly (place : Nat) {change : GameModule → GameModule}
    (hsame : ∀ game, (change game).name = game.name ∧ (change game).loader = game.loader ∧
      (change game).slot = game.slot)
    (hdependencies : ∀ game, (change game).dependencies ⊆ game.dependencies) :
    IsOrderly (onGame place change) :=
  ⟨fun hworld => hworld.editing place hsame fun game _ hmem => .inl (hdependencies game hmem)⟩

variable {load : String → String → LoadAct Nat}

theorem takeImports_isOrderly (hload : LoadAct.Arranges load) (place script : Nat)
    (requestedBy : String) (names : List String) :
    IsOrderly (takeImports load place script requestedBy names).run := by
  induction names with
  | nil => exact .pure _
  | cons name rest ih =>
      refine ⟨fun {world} hworld => ?_⟩
      obtain ⟨horderly, -, hfound⟩ := hload.run name requestedBy hworld (by simp)
      unfold takeImports
      rw [after_run_bind]
      split
      · rename_i dependency hdependency
        obtain ⟨found, hgame, -⟩ := hfound dependency hdependency
        have hadded := addExports_isSteady requestedBy script dependency
          (after (load name requestedBy).run world)
        rw [after_run_attempt_bind]
        split
        · rw [after_run_lift_bind, after_onGame]
          refine ih.run ((horderly.steady hadded).editing place (fun _ => ⟨rfl, rfl, rfl⟩)
            fun game target hmem => ?_)
          rcases List.mem_append.mp hmem with hearlier | hlast
          · exact .inl hearlier
          · rw [List.mem_singleton] at hlast
            rw [hlast, hadded.objects]
            exact .inr (horderly.lt_next hgame)
        · rw [after_run_lift_bind]
          exact (dropObjects_isOrderly _).run (horderly.steady hadded)
      · exact horderly

theorem prepareScript_isOrderly (hload : LoadAct.Arranges load) (place : Nat)
    (game : GameModule) : IsOrderly (prepareScript load place game).run := by
  unfold prepareScript
  refine .load_bind (.lift (createModule_isOrderly game.name _)) fun script => ?_
  have haccess : IsSteady (onModule script fun module => { module with
      access := AccessMask.moduleDefault.union game.description.extraAccess }) :=
    onModule_isSteady script fun _ => List.Subset.refl _
  refine .load_bind (.lift haccess.orderly) fun _ => ?_
  refine .load_bind (.lift (onGame_isOrderly place (fun _ => ⟨rfl, rfl, rfl⟩)
    fun _ => List.Subset.refl _)) fun _ => ?_
  refine .load_bind (IsSteady.orderly (addSources_isSteady game script)) fun _ => ?_
  exact .load_bind (takeImports_isOrderly hload place script game.name _) fun _ =>
    IsSteady.orderly (compileGame_isSteady game place script)

theorem makeReady_isOrderly (hload : LoadAct.Arranges load) (place : Nat) :
    IsOrderly (makeReady load place).run := by
  have hmarking : ∀ flag : Bool, IsOrderly (onGame place fun game =>
      { game with initializing := flag }) := fun flag =>
    onGame_isOrderly place (fun _ => ⟨rfl, rfl, rfl⟩) fun _ => List.Subset.refl _
  unfold makeReady
  refine .load_bind (.lift .get) fun world => ?_
  split
  · exact .pure _
  · rename_i game _
    split
    · exact .pure _
    · split
      · exact .throw _
      · refine .load_bind (.lift (hmarking true)) fun _ => ?_
        refine .load_bind ⟨fun hworld =>
          (prepareScript_isOrderly hload place game).run hworld⟩ fun prepared => ?_
        refine .load_bind (.lift (hmarking false)) fun _ => ?_
        split
        · refine .load_bind (.lift (onGame_isOrderly place (fun _ => ⟨rfl, rfl, rfl⟩)
            fun _ => List.Subset.refl _)) fun _ => .lift (fireInit_isOrderly place)
        · exact .load_bind (.lift (error_isSteady _).orderly) fun _ =>
            .load_bind (.lift (detachGame_isOrderly place false)) fun _ =>
              .load_bind (.lift (dropAll_isOrderly _)) fun _ => .throw _

theorem initializeGame_isOrderly (place : Nat) : IsOrderly (initializeGame place) := by
  refine .bind .get fun world => ?_
  refine .bind (makeReady_isOrderly (loadNested_arranges _) place) fun ready => ?_
  split
  · exact .pure _
  · exact .pure _

end Act

/-- A session in an orderly world. What has a name as an object is there. -/
structure Session.Orderly (session : Session) : Prop where
  world : session.world.Orderly [] [] []
  named : ∀ {ref}, session.Named ref → ref.address < session.world.objects.next

namespace SessionAct

variable {α β γ : Type} {session : Session}

/-- Whether a part of a step takes handles of objects that there are. -/
structure Takes (objects : α → List ObjectRef) (act : SessionAct α) : Prop where
  run : ∀ {session : Session}, session.Orderly → (after act session).Orderly ∧
    session.world.objects.next ≤ (after act session).world.objects.next ∧
    ∀ value, outcome act session = .ok value → ∀ ref ∈ objects value,
      ref.address < (after act session).world.objects.next

theorem Takes.pure {objects : α → List ObjectRef} {value : α} (hnone : objects value = []) :
    Takes objects (Pure.pure value) := by
  refine ⟨fun hsession => ⟨hsession, Nat.le_refl _, ?_⟩⟩
  intro found hfound ref href
  cases hfound
  rw [hnone] at href
  cases href

/-- What has been taken is put into something else. -/
theorem Takes.wrap {objects : α → List ObjectRef} {objects' : β → List ObjectRef}
    {act : SessionAct α} (hact : Takes objects act) {make : α → β}
    (hmake : ∀ value, objects' (make value) ⊆ objects value) :
    Takes objects' (act >>= fun value => Pure.pure (make value)) := by
  refine ⟨fun {session} hsession => ?_⟩
  obtain ⟨horderly, hnext, hbounded⟩ := hact.run hsession
  rw [after_bind, outcome_bind]
  split
  · rename_i value hvalue
    refine ⟨horderly, hnext, fun found hfound ref href => ?_⟩
    cases hfound
    exact hbounded value hvalue ref (hmake value href)
  · exact ⟨horderly, hnext, nofun⟩

/-- One thing is taken after another. -/
theorem Takes.both {objects : α → List ObjectRef} {objects' : β → List ObjectRef}
    {both : γ → List ObjectRef} {first : SessionAct α} {second : SessionAct β}
    (hfirst : Takes objects first) (hsecond : Takes objects' second) {make : α → β → γ}
    (hmake : ∀ value value', both (make value value') ⊆ objects value ++ objects' value') :
    Takes both (first >>= fun value => second >>= fun value' =>
      Pure.pure (make value value')) := by
  refine ⟨fun {session} hsession => ?_⟩
  obtain ⟨horderly, hnext, hbounded⟩ := hfirst.run hsession
  obtain ⟨horderly', hnext', hbounded'⟩ := hsecond.run horderly
  rw [after_bind, outcome_bind]
  split
  · rename_i value hvalue
    rw [after_bind, outcome_bind]
    split
    · rename_i value' hvalue'
      refine ⟨horderly', hnext.trans hnext', fun found hfound ref href => ?_⟩
      cases hfound
      rcases List.mem_append.mp (hmake value value' href) with hearlier | hlater
      · exact Nat.lt_of_lt_of_le (hbounded value hvalue ref hearlier) hnext'
      · exact hbounded' value' hvalue' ref hlater
    · exact ⟨horderly', hnext.trans hnext', nofun⟩
  · exact ⟨horderly, hnext, nofun⟩

theorem takeObject_takes (given : GivenObject) :
    Takes (fun ref => [ref]) (takeObject given) := by
  refine ⟨fun {session} hsession => ?_⟩
  have hthere : ∀ {world : World}, session.world.objects.next ≤ world.objects.next →
      world.Orderly [] [] [] → Session.Orderly { session with world := world } :=
    fun hnext horderly => ⟨horderly, fun hnamed =>
      Nat.lt_of_lt_of_le (hsession.named hnamed) hnext⟩
  cases given with
  | named name =>
      have hnamed : takeObject (.named name) = get >>= fun session =>
          found name (session.objects.get? name) >>= fun ref =>
            act (Act.retain [ref]) >>= fun _ => Pure.pure ref := rfl
      rw [hnamed, outcome_get_bind, outcome_bind, outcome_found, after_found, after_get_bind,
        after_bind, outcome_found, after_found]
      cases hget : session.objects.get? name with
      | none => exact ⟨hsession, Nat.le_refl _, nofun⟩
      | some ref =>
          have hheld := (World.Keeps.refl hsession.world.objects).retain [ref]
          refine ⟨hthere hheld.objects.next ((hsession.world.keeps hheld).relend [] (by simp)),
            hheld.objects.next, fun found hfound other hother => ?_⟩
          cases hfound
          rw [List.mem_singleton.mp hother]
          exact Nat.lt_of_lt_of_le (hsession.named ⟨name, hget⟩) hheld.objects.next
  | fresh type text value =>
      have hmade := @World.Orderly.allocate _ hsession.world (.thing text) nofun
        fun _ hmem => absurd hmem List.not_mem_nil
      refine ⟨hthere (Nat.le_succ _) (hmade.of_eq rfl rfl rfl rfl), Nat.le_succ _,
        fun found hfound other hother => ?_⟩
      cases hfound
      rw [List.mem_singleton.mp hother]
      exact Nat.lt_succ_self _

theorem entryObjects_eq (entries : List (String × ScriptValue)) :
    ScriptValue.entryObjects entries = entries.flatMap fun entry => entry.2.objects := by
  induction entries with
  | nil => rfl
  | cons entry rest ih => rw [ScriptValue.entryObjects, ih, List.flatMap_cons]

/-- What is put into a sorted table is all that is new there. -/
theorem entryObjects_setSorted (entries : Table String ScriptValue) (key : String)
    (value : ScriptValue) : ScriptValue.entryObjects (entries.setSorted key value) ⊆
      value.objects ++ ScriptValue.entryObjects entries := by
  induction entries with
  | nil => simp [Table.setSorted, ScriptValue.entryObjects]
  | cons entry rest ih =>
      unfold Table.setSorted
      intro ref href
      split at href
      · simpa [ScriptValue.entryObjects] using href
      · split at href
        · simp only [ScriptValue.entryObjects, List.mem_append] at href ⊢
          tauto
        · simp only [ScriptValue.entryObjects, List.mem_append] at href ⊢
          rcases href with hfirst | hrest
          · exact .inr (.inl hfirst)
          · exact (List.mem_append.mp (ih hrest)).imp_right .inr

mutual

theorem takeScript_takes : ∀ given : GivenScript,
    Takes ScriptValue.objects (takeScript given)
  | .unit | .bool _ | .int _ | .float _ | .char _ | .string _ => by
      unfold takeScript
      exact .pure rfl
  | .array items => by
      unfold takeScript
      exact (takeItems_takes items).wrap fun _ => List.Subset.refl _
  | .map entries => by
      unfold takeScript
      exact (takeEntries_takes entries).wrap fun _ => List.Subset.refl _
  | .object given => by
      unfold takeScript
      exact (takeObject_takes given).wrap fun _ => List.Subset.refl _

theorem takeItems_takes : ∀ items : List GivenScript,
    Takes ScriptValue.itemObjects (takeItems items)
  | [] => by
      unfold takeItems
      exact .pure rfl
  | item :: rest => by
      unfold takeItems
      exact (takeScript_takes item).both (takeItems_takes rest) fun _ _ =>
        List.Subset.refl _

theorem takeEntries_takes : ∀ entries : List (String × GivenScript),
    Takes ScriptValue.entryObjects (takeEntries entries)
  | [] => by
      unfold takeEntries
      exact .pure rfl
  | (key, item) :: rest => by
      unfold takeEntries
      exact (takeScript_takes item).both (takeEntries_takes rest) fun value entries =>
        entryObjects_setSorted entries key value

end

end SessionAct

/-- Whether a value that is given as one without objects has none. -/
def GivenNative.IsPlain : GivenNative → Prop
  | .plain value => value.objects = []
  | _ => True

namespace SessionAct

theorem takeNative_takes {given : GivenNative} (hplain : given.IsPlain) :
    Takes NativeValue.objects (takeNative given) := by
  cases given with
  | plain value => exact .pure hplain
  | object given => exact (takeObject_takes given).wrap fun _ => List.Subset.refl _
  | script given => exact (takeScript_takes given).wrap fun _ => List.Subset.refl _

theorem takeNatives_takes : ∀ {given : List GivenNative},
    (∀ value ∈ given, value.IsPlain) →
      Takes (fun values => values.flatMap NativeValue.objects) (takeNatives given)
  | [], _ => .pure rfl
  | first :: rest, hplain => by
      unfold takeNatives
      exact (takeNative_takes (hplain first List.mem_cons_self)).both
        (takeNatives_takes fun value hmem => hplain value (List.mem_cons_of_mem _ hmem))
        fun value values => by simp

theorem moduleState_isOrderly (name : String) : IsOrderly (moduleState name) :=
  .bind (moduleNamed_isOrderly name) fun _ =>
    .bind world_isOrderly fun _ => found_isOrderly _ _

theorem compiledNamed_isOrderly (name : String) : IsOrderly (compiledNamed name) :=
  .bind .get fun _ => found_isOrderly _ _

theorem functionNamed_isOrderly (name : String) : IsOrderly (functionNamed name) :=
  .bind .get fun _ => found_isOrderly _ _

theorem objectNamed_isOrderly (name : String) : IsOrderly (objectNamed name) :=
  .bind .get fun _ => found_isOrderly _ _

theorem bindCompiled_isOrderly (name : Option String) (compiled : Option Compiled) :
    IsOrderly (bindCompiled name compiled) := by
  unfold bindCompiled
  split
  · exact modify_isOrderly fun _ => rfl
  · exact .pure _

theorem bindFunction_isOrderly (name : Option String) (function : FunctionRef) :
    IsOrderly (bindFunction name function) := by
  unfold bindFunction
  split
  · exact modify_isOrderly fun _ => rfl
  · exact .pure _

theorem bindObject_isOrderly (name : String) (ref : ObjectRef) :
    IsOrderly (bindObject name ref) :=
  .bind .get fun _ => .bind (modify_isOrderly fun _ => rfl) fun _ => dropObjects_isOrderly _

/-- An operation that tells what is to be dropped after it. -/
theorem actDropping_isOrderly {α : Type} {operation : Act (α × List Owned)}
    (hoperation : operation.IsOrderly) : IsOrderly (actDropping operation) :=
  act_isOrderly (.bind hoperation fun _ => .bind (Act.dropAll_isOrderly _) fun _ => .pure _)

theorem dropNatives_isOrderly (values : List NativeValue) : IsOrderly (dropNatives values) :=
  dropObjects_isOrderly _

theorem takeObject_isOrderly (given : GivenObject) : IsOrderly (takeObject given) := by
  cases given with
  | named name =>
      exact .bind (objectNamed_isOrderly name) fun _ =>
        .bind (act_isOrderly (Act.retainAll_isOrderly _)) fun _ => .pure _
  | fresh type text value =>
      refine ⟨fun {session} hsession => ?_⟩
      have hmade := @World.Orderly.allocate _ hsession (.thing text) nofun
        fun _ hmem => absurd hmem List.not_mem_nil
      exact hmade.of_eq rfl rfl rfl rfl

theorem isTaking_isOrderly : IsTaking IsOrderly :=
  ⟨.pure, .bind, takeObject_isOrderly⟩

theorem takeNatives_isOrderly (given : List GivenNative) : IsOrderly (takeNatives given) :=
  isTaking_isOrderly.natives given

theorem takeScript?_isOrderly (given : Option GivenScript) :
    IsOrderly (takeScript? given) := by
  cases given with
  | none => exact .pure _
  | some given => exact .bind (isTaking_isOrderly.script given) fun _ => .pure _

theorem closeCall_isOrderly (wanted : ReturnType)
    (result : Except InvokeError (Option NativeValue)) :
    IsOrderly (closeCall wanted result) :=
  .bind world_isOrderly fun _ => .bind (dropAll_isOrderly _) fun _ => .pure _

theorem callbackNamed_isOrderly (name : String) : IsOrderly (callbackNamed name) :=
  .bind .get fun _ => .pure _

theorem callbackAnswer_isOrderly (callback : Callback) :
    IsOrderly (callbackAnswer callback) :=
  .bind world_isOrderly fun _ => .pure _

theorem putCallback_isOrderly (name : String) (callback : Callback) :
    IsOrderly (putCallback name callback) :=
  modify_isOrderly fun _ => rfl

theorem emptyCallback_isOrderly (name : String) : IsOrderly (emptyCallback name) :=
  .bind (callbackNamed_isOrderly name) fun _ =>
    .bind (act_isOrderly (Act.resetCallback_isOrderly _)) fun _ => putCallback_isOrderly name _

end SessionAct

namespace CallStep

open SessionAct

theorem setAnswer_isOrderly (callback : String) (function : Option String)
    (this : Option GivenScript) : IsOrderly (setAnswer callback function this) := by
  refine .bind needExecutor_isOrderly fun _ => ?_
  extract_lets answered rest
  have hanswered : ∀ done, IsOrderly (answered done) := fun _ =>
    .bind (callbackNamed_isOrderly callback) fun _ =>
      .bind (callbackAnswer_isOrderly _) fun _ => .pure _
  have hrest : ∀ callee, IsOrderly (rest callee) := by
    intro callee
    refine .bind (takeScript?_isOrderly this) fun target => ?_
    refine .bind (callbackNamed_isOrderly callback) fun before => ?_
    refine .bind (act_isOrderly (Act.setCallback_isOrderly _ _)) fun after => ?_
    refine .bind (putCallback_isOrderly callback after) fun _ => ?_
    split
    · exact .bind (dropObjects_isOrderly _) hanswered
    · exact hanswered ()
  split
  · rename_i name
    rw [map_eq_pure_bind, bind_assoc]
    exact .bind (functionNamed_isOrderly name) fun callee => hrest (some callee)
  · exact hrest none

theorem perform_isOrderly (step : CallStep) : IsOrderly step.perform := by
  cases step with
  | run module entry call =>
      exact .bind (moduleNamed_isOrderly module) fun _ => .bind needExecutor_isOrderly
        fun _ => .bind (takeNatives_isOrderly _) fun _ =>
          .bind (act_isOrderly (Act.runEntry_isOrderly _ _ _ _ _)) fun _ =>
            .bind (closeCall_isOrderly _ _) fun _ =>
              .bind (dropNatives_isOrderly _) fun _ => .pure _
  | invoke function call =>
      exact .bind (functionNamed_isOrderly function) fun _ => .bind needExecutor_isOrderly
        fun _ => .bind (takeNatives_isOrderly _) fun _ =>
          .bind (act_isOrderly (Act.invoke_isOrderly _ _ _ _)) fun _ =>
            .bind (closeCall_isOrderly _ _) fun _ =>
              .bind (dropNatives_isOrderly _) fun _ => .pure _
  | invokeMethod function this call =>
      exact .bind (functionNamed_isOrderly function) fun _ => .bind needExecutor_isOrderly
        fun _ => .bind (takeNatives_isOrderly _) fun _ =>
          .bind (isTaking_isOrderly.script this) fun _ =>
            .bind (act_isOrderly (Act.call_isOrderly _ _ _ _ _)) fun _ =>
              .bind world_isOrderly fun _ => .bind (closeCall_isOrderly _ _) fun _ =>
                .bind (dropObjects_isOrderly _) fun _ =>
                  .bind (dropObjects_isOrderly _) fun _ =>
                    .bind (dropNatives_isOrderly _) fun _ => .pure _
  | abort switch action =>
      refine .bind (act_isOrderly (Act.modify_isOrderly ?_ ?_ ?_ ?_)) fun _ =>
        .bind world_isOrderly fun _ => .pure _
      all_goals exact fun _ => rfl
  | object target given =>
      exact .bind (takeObject_isOrderly given) fun _ =>
        .bind (bindObject_isOrderly _ _) fun _ => .pure _
  | refs object =>
      exact .bind (objectNamed_isOrderly object) fun _ =>
        .bind world_isOrderly fun _ => .pure _
  | hold object target =>
      exact .bind (objectNamed_isOrderly object) fun _ =>
        .bind (modify_isOrderly fun _ => rfl) fun _ => .pure _
  | isAlive weak =>
      exact .bind .get fun _ => .bind (found_isOrderly _ _) fun _ =>
        .bind world_isOrderly fun _ => .pure _
  | setCallback callback function this => exact setAnswer_isOrderly callback function this
  | resetCallback callback =>
      exact .bind (emptyCallback_isOrderly callback) fun _ =>
        .bind (callbackNamed_isOrderly callback) fun _ =>
          .bind (callbackAnswer_isOrderly _) fun _ => .pure _
  | callbackState callback =>
      refine .bind .get fun session => ?_
      split
      · exact .bind (callbackAnswer_isOrderly _) fun _ => .pure _
      · exact .pure _
  | invokeCallback callback call =>
      exact .bind needExecutor_isOrderly fun _ => .bind (takeNatives_isOrderly _) fun _ =>
        .bind (callbackNamed_isOrderly callback) fun _ =>
          .bind (act_isOrderly (Act.invokeCallback_isOrderly _ _ _ _)) fun _ =>
            .bind (putCallback_isOrderly callback _) fun _ =>
              .bind (closeCall_isOrderly _ _) fun _ =>
                .bind (dropNatives_isOrderly _) fun _ =>
                  .bind (callbackAnswer_isOrderly _) fun _ => .pure _

end CallStep

namespace GameStep

open SessionAct

variable {session : Session}

theorem executeAnswer_isOrderly (name entry : String) (passSelf existed : Bool)
    (call : GivenCall) : IsOrderly (executeAnswer name entry passSelf existed call) :=
  .bind (gameNamed_isOrderly name) fun _ => .bind (takeNatives_isOrderly _) fun _ =>
    .bind (act_isOrderly (Act.runOnGame_isOrderly _ _ _ _ _ _ _)) fun _ =>
      .bind (closeCall_isOrderly _ _) fun _ => .bind (dropAll_isOrderly _) fun _ =>
        .bind (dropNatives_isOrderly _) fun _ => .pure _

theorem makeReady_isOrderly (name : String) : IsOrderly (perform (.makeReady name)) :=
  .bind (gameNamed_isOrderly name) fun _ => .bind needLoader_isOrderly fun _ =>
    .bind (act_isOrderly (Act.initializeGame_isOrderly _)) fun _ => .pure _

theorem releaseScript_isOrderly (name : String) : IsOrderly (perform (.releaseScript name)) :=
  .bind (gameNamed_isOrderly name) fun _ =>
    .bind (act_isOrderly (Act.detachGame_isOrderly _ true)) fun _ =>
      .bind (dropAll_isOrderly _) fun _ => .pure _

/-- The payload of an event consists of objects that there are. -/
theorem fireAnswer_orderly (hsession : session.Orderly) (name : String) (kind : EventKind)
    (payload : List (String × GivenScript)) :
    (after (fireAnswer name kind payload) session).world.Orderly [] [] [] := by
  unfold fireAnswer gameNamed
  rw [bind_assoc, after_get_bind, after_bind, outcome_found, after_found]
  cases session.games.get? name with
  | none => exact hsession.world
  | some place =>
      obtain ⟨horderly, -, hbounded⟩ := (takeEntries_takes payload).run hsession
      dsimp only
      rw [after_bind]
      split
      · rename_i entries hentries
        have hfired := @Act.fire_orderly _ place ⟨kind, entries⟩ horderly.world
          fun ref href => hbounded entries hentries ref (entryObjects_eq entries ▸ href)
        unfold actDropping
        rw [after_bind, outcome_act, after_act]
        refine IsOrderly.run (.bind (dropObjects_isOrderly _) fun _ => ?_) ?_
        · split
          · exact .pure _
          · exact .pure _
        · dsimp only
          rw [Act.after_bind, Act.after_bind]
          exact (Act.dropAll_isOrderly _).run hfired
      · exact horderly.world

theorem perform_orderly (hsession : session.Orderly) (step : GameStep) :
    (after step.perform session).world.Orderly [] [] [] := by
  cases hloading : step.isLoading with
  | true => exact (perform_isOrderly step hloading).run hsession.world
  | false =>
      cases step with
      | fire name event payload => exact fireAnswer_orderly hsession name event payload
      | execute name entry passSelf existed call =>
          exact (executeAnswer_isOrderly name entry passSelf existed call).run hsession.world
      | makeReady name => exact (makeReady_isOrderly name).run hsession.world
      | releaseScript name => exact (releaseScript_isOrderly name).run hsession.world
      | _ => cases hloading

end GameStep

namespace ModuleStep

open SessionAct

variable {session : Session}

/-- Whether the values that a step gives as hooks without objects have none. -/
def IsPlain : ModuleStep → Prop
  | .setHooks _ forRelease forInit => ∀ value ∈ forRelease ++ forInit, value.IsPlain
  | _ => True

theorem hook_orderly (hworld : session.world.Orderly [] [] []) (script : Nat)
    {forRelease forInit : List NativeValue} (hbounded : ∀ ref ∈
      (forRelease ++ forInit).flatMap NativeValue.objects,
        ref.address < session.world.objects.next) :
    (after (hook script forRelease forInit) session).world.Orderly [] [] [] := by
  have hset := @Act.setHooks_orderly _ script (.given forRelease forInit) hworld hbounded
  have hrest : ∀ taken : Bool, IsOrderly (do
      if !taken then dropNatives (forRelease ++ forInit)
      return taken) := by
    intro taken
    dsimp only
    split
    · exact .bind (dropNatives_isOrderly _) fun _ => .pure _
    · exact .pure _
  exact (hrest _).run hset

/-- Hooks consist of objects that there are. -/
theorem setHooks_orderly (hsession : session.Orderly) (module : String)
    {givenRelease givenInit : List GivenNative}
    (hplain : ∀ value ∈ givenRelease ++ givenInit, value.IsPlain) :
    (after (perform (.setHooks module givenRelease givenInit)) session).world.Orderly [] [] [] := by
  unfold perform
  rw [after_moduleNamed_bind]
  split
  · rename_i script _
    obtain ⟨hfirst, -, hbounded⟩ := (takeNatives_takes fun value hmem =>
      hplain value (List.mem_append_left _ hmem)).run hsession
    rw [after_bind]
    split
    · rename_i forRelease hforRelease
      obtain ⟨hsecond, hnext, hbounded'⟩ := (takeNatives_takes fun value hmem =>
        hplain value (List.mem_append_right _ hmem)).run hfirst
      rw [after_bind]
      split
      · rename_i forInit hforInit
        have hhooked := @hook_orderly _ hsecond.world script forRelease forInit fun ref href => by
            rw [List.flatMap_append] at href
            rcases List.mem_append.mp href with hearlier | hlater
            · exact Nat.lt_of_lt_of_le (hbounded _ hforRelease ref hearlier) hnext
            · exact hbounded' _ hforInit ref hlater
        rw [after_bind]
        split
        · exact hhooked
        · exact hhooked
      · exact hsecond.world
    · exact hfirst.world
  · exact hsession.world

/-- What is done with the script module of a name. -/
private theorem named_isOrderly {α : Type} (module : String) {operation : Nat → Act α}
    (hoperation : ∀ address, (operation address).IsOrderly) {rest : α → SessionAct Answer}
    (hrest : ∀ value, IsOrderly (rest value)) : IsOrderly (do
      let address ← moduleNamed module
      let value ← act (operation address)
      rest value) :=
  .bind (moduleNamed_isOrderly module) fun _ =>
    .bind (act_isOrderly (hoperation _)) fun value => hrest value

theorem reload_isOrderly (address : Nat) : Act.IsOrderly (Act.reload address) :=
  .of_keeps fun hworld => by
    obtain ⟨refs, -, hkeeps⟩ := Act.reload_keeps address (World.Keeps.refl hworld)
    exact ⟨_, hkeeps⟩

theorem create_isOrderly (target : Option String) (name source : String) (id : Option Nat) :
    IsOrderly (perform (.create target name source id)) := by
  refine .bind needExecutor_isOrderly fun _ => .bind (act_isOrderly ?_) fun _ =>
    .bind world_isOrderly fun _ => .bind (bindModule_isOrderly _ _) fun _ => .pure _
  cases id with
  | none => exact Act.createModule_isOrderly name source
  | some id => exact Act.createModuleWithId_isOrderly name source id

theorem setAccess_isOrderly (address : Nat) (change : AccessMask → AccessMask) :
    Act.IsOrderly (Act.onModule address fun module =>
      { module with access := change module.access }) := by
  have hsteady : Act.IsSteady (Act.onModule address fun module =>
      { module with access := change module.access }) :=
    Act.onModule_isSteady address fun _ => List.Subset.refl _
  exact hsteady.orderly

theorem perform_isOrderly {step : ModuleStep}
    (hstep : ∀ module release init, step ≠ .setHooks module release init) :
    IsOrderly step.perform := by
  cases step with
  | create target name source id => exact create_isOrderly target name source id
  | addSegment module file line code =>
      exact named_isOrderly module (fun _ => (Act.addSegment_isSteady _ _).orderly)
        fun _ => .pure _
  | addFile module path =>
      exact named_isOrderly module (fun _ => (Act.addFile_isSteady _ path).orderly)
        fun _ => .pure _
  | segments module => exact .bind (moduleState_isOrderly module) fun _ => .pure _
  | build module target =>
      refine named_isOrderly module (fun _ => (Act.build_isSteady _).orderly)
        fun compiled => .bind (bindCompiled_isOrderly target compiled) fun _ => ?_
      split
      · exact .pure _
      · exact .pure _
  | sameBuild a b =>
      exact .bind (compiledNamed_isOrderly a) fun _ =>
        .bind (compiledNamed_isOrderly b) fun _ => .pure _
  | locate compiled lines => exact .bind (compiledNamed_isOrderly compiled) fun _ => .pure _
  | hasFunction compiled name =>
      exact .bind (compiledNamed_isOrderly compiled) fun _ => .pure _
  | resolve compiled name count =>
      refine .bind (compiledNamed_isOrderly compiled) fun _ => ?_
      split
      · exact .pure _
      · exact .pure _
  | function module name count target =>
      refine named_isOrderly module (fun _ => (Act.function_isSteady _ name count).orderly)
        fun found => ?_
      split
      · exact .bind (bindFunction_isOrderly target _) fun _ => .pure _
      · exact .pure _
  | state module => exact .bind (moduleState_isOrderly module) fun _ => .pure _
  | setAccess module mask =>
      exact named_isOrderly module (fun _ => setAccess_isOrderly _ fun _ => mask)
        fun _ => .pure _
  | addAccess module mask =>
      exact named_isOrderly module (fun _ => setAccess_isOrderly _ fun mask' =>
        mask'.union mask) fun _ => .pure _
  | listeners module =>
      exact named_isOrderly module (fun _ => (Act.listeners_isSteady _).orderly)
        fun _ => .pure _
  | listenerCount module =>
      exact named_isOrderly module (fun _ => (Act.listeners_isSteady _).orderly)
        fun _ => .pure _
  | findListener module name genericType target =>
      refine named_isOrderly module
        (fun _ => (Act.findListener_isSteady _ name genericType).orderly) fun entry => ?_
      dsimp only
      split
      · exact .bind (bindFunction_isOrderly target _) fun _ => .pure _
      · exact .pure _
  | hasListener module name genericType =>
      exact named_isOrderly module
        (fun _ => (Act.findListener_isSteady _ name genericType).orderly) fun _ => .pure _
  | index compiled name genericType =>
      exact .bind (compiledNamed_isOrderly compiled) fun _ =>
        .bind (act_isOrderly (Act.IsSteady.forM Act.warn_isSteady _).orderly) fun _ => .pure _
  | reload module =>
      exact .bind (moduleNamed_isOrderly module) fun _ =>
        .bind (actDropping_isOrderly (reload_isOrderly _)) fun _ => .pure _
  | markDiscarded module =>
      exact named_isOrderly module (fun _ => (Act.discard_isSteady _ _).orderly)
        fun _ => .pure _
  | release module =>
      exact named_isOrderly module (fun _ => (Act.release_isSteady _).orderly)
        fun _ => .bind (dropAll_isOrderly _) fun _ => .pure _
  | setHooks module release init => exact absurd rfl (hstep module release init)
  | clearHooks module =>
      exact named_isOrderly module (fun _ => (Act.clearHooks_isSteady _).orderly)
        fun _ => .bind (dropAll_isOrderly _) fun _ => .pure _
  | discardCompiled internalName =>
      exact .bind needExecutor_isOrderly fun _ => .bind (act_isOrderly (.bind .get fun _ =>
        .bind (Act.onExecutor_isOrderly _) fun _ => .pure _)) fun _ => .pure _
  | delete id =>
      exact .bind needExecutor_isOrderly fun _ =>
        .bind (actDropping_isOrderly (Act.deleteModule_isOrderly id)) fun _ => .pure _
  | deleteUnreferenced id =>
      exact .bind needExecutor_isOrderly fun _ =>
        .bind (actDropping_isOrderly (Act.deleteUnreferenced_isOrderly id)) fun _ => .pure _
  | registered id =>
      exact .bind needExecutor_isOrderly fun _ => .bind world_isOrderly fun _ => .pure _
  | stats => exact .bind needExecutor_isOrderly fun _ => .pure _
  | granted source => exact .bind needExecutor_isOrderly fun _ => .pure _
  | resolveType name =>
      refine .bind needExecutor_isOrderly fun executor => ?_
      split
      · exact .pure _
      · exact .pure _
  | executor => exact .bind needExecutor_isOrderly fun _ => .pure _

theorem perform_orderly (hsession : session.Orderly) {step : ModuleStep}
    (hplain : step.IsPlain) : (after step.perform session).world.Orderly [] [] [] := by
  by_cases hhooks : ∃ module release init, step = .setHooks module release init
  · obtain ⟨module, forRelease, forInit, rfl⟩ := hhooks
    exact setHooks_orderly hsession module hplain
  · push Not at hhooks
    exact (perform_isOrderly hhooks).run hsession.world

end ModuleStep

/-- Whether the values that a step gives as hooks without objects have none. -/
def Step.IsPlain : Step → Prop
  | .onModules step => step.IsPlain
  | _ => True

namespace Session

open SessionAct

variable {session : Session}

theorem perform_orderly (hsession : session.Orderly) {step : Step} (hplain : step.IsPlain) :
    (after (perform step) session).world.Orderly [] [] [] := by
  cases step with
  | onModules step => exact ModuleStep.perform_orderly hsession hplain
  | onCalls step => exact (CallStep.perform_isOrderly step).run hsession.world
  | onGames step => exact GameStep.perform_orderly hsession step
  | onFiles step => exact (FileStep.perform_isOrderly step).run hsession.world

/-- Every step keeps a session orderly. -/
theorem step_keeps_order (hsound : session.Sound) (hsession : session.Orderly) {step : Step}
    (hplain : step.IsPlain) : (session.step step).2.Orderly where
  world := (perform_orderly hsession hplain).of_eq rfl rfl rfl rfl
  named := by
    intro ref hnamed
    have hadvances := step_advances hsound step
    rcases hadvances.named hnamed with hold | hthere
    · exact Nat.lt_of_lt_of_le (hsession.named hold) hadvances.world.issues.next
    · exact hthere

/-- And so does every run. -/
theorem run_keeps_order (hsound : session.Sound) (hsession : session.Orderly)
    {steps : List Step} (hplain : ∀ step ∈ steps, step.IsPlain) :
    (session.run steps).Orderly := by
  induction steps generalizing session with
  | nil => exact hsession
  | cons step rest ih =>
      exact ih (step_advances hsound step).sound
        (step_keeps_order hsound hsession (hplain step List.mem_cons_self))
        fun other hother => hplain other (List.mem_cons_of_mem step hother)

theorem begin_keeps_order (files : FileTree) (plan : ExecutorPlan) :
    (begin files plan).Orderly where
  world := begin_orderly files plan
  named := by
    rintro ref ⟨name, hname⟩
    cases hname

end Session

end ScriptHost
