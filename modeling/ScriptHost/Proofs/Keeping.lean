import ScriptHost.Proofs.Calls
import ScriptHost.Proofs.Detaching

/-!
What operations keep alive. Whatever lived before a call still lives after it, with
exactly the handles it had and those that the call has handed out; what has come to
live meanwhile owns no handles. The loader is the same, and hooks have come by no
handles.
-/

namespace ScriptHost

/-- An object that owns no handles. -/
def ObjectBody.IsBare : ObjectBody → Prop
  | .thing _ => True
  | .event occasion => (occasion.payload.flatMap fun item => item.2.objects) = []
  | .game _ => False

namespace Heap

variable {base heap : Heap ObjectBody} {lent : List Nat}

/-- The living objects of `base` live in `heap`, where the handles `lent` have come
on top of those they had. What was gone has got no handles but such. -/
structure Holds (base heap : Heap ObjectBody) (lent : List Nat) : Prop where
  sound : heap.Sound
  next : base.next ≤ heap.next
  kept : ∀ {address body}, base.get? address = some body →
    heap.get? address = some body ∧
      heap.strongCount address = base.strongCount address + lent.count address
  fresh : ∀ {address body}, heap.get? address = some body →
    base.get? address = some body ∨ body.IsBare ∧ base.next ≤ address
  gone : ∀ {address}, address < base.next → base.get? address = none →
    heap.strongCount address ≤ base.strongCount address + lent.count address

theorem Sound.holds (hheap : heap.Sound) : heap.Holds heap [] :=
  ⟨hheap, Nat.le_refl _, fun hget => ⟨hget, by simp⟩, .inl, fun _ _ => by simp⟩

/-- The order of the handles does not matter. -/
theorem Holds.congr {same : List Nat} (hholds : base.Holds heap lent)
    (hsame : ∀ address, same.count address = lent.count address) :
    base.Holds heap same where
  sound := hholds.sound
  next := hholds.next
  kept := by
    intro address body hget
    rw [hsame]
    exact hholds.kept hget
  fresh := hholds.fresh
  gone := by
    intro address hold hnone
    rw [hsame]
    exact hholds.gone hold hnone

theorem Holds.retain (hholds : base.Holds heap lent) (address : Nat) :
    base.Holds (heap.retain address) (address :: lent) where
  sound := hholds.sound.retain address
  next := (heap.next_retain address).symm ▸ hholds.next
  kept := by
    intro other body hget
    obtain ⟨hstill, hcount⟩ := hholds.kept hget
    refine ⟨(hholds.sound.get?_retain address other).trans hstill, ?_⟩
    by_cases ha : address = other
    · subst ha
      rw [heap.strongCount_retain hstill, if_pos rfl, List.count_cons_self, hcount]
      rfl
    · rw [heap.strongCount_retain_of_ne ha, List.count_cons_of_ne ha]
      exact hcount
  fresh := by
    intro other body hget
    rw [hholds.sound.get?_retain] at hget
    exact hholds.fresh hget
  gone := by
    intro other hold hnone
    have hcount := hholds.gone hold hnone
    have hclone := heap.strongCount_retain_le address other
    simp only [List.count_cons, beq_iff_eq]
    omega

theorem Holds.retainAll (hholds : base.Holds heap lent) (refs : List ObjectRef) :
    base.Holds (ScriptHost.retainAll heap refs)
      (refs.map ObjectRef.address ++ lent) := by
  induction refs generalizing heap lent with
  | nil => exact hholds
  | cons ref refs ih =>
      refine (ih (hholds.retain ref.address)).congr fun address => ?_
      simp only [List.map_cons, List.cons_append, List.count_append,
        List.count_cons]
      omega

/-- A fresh object that owns no handles. -/
theorem Holds.alloc (hholds : base.Holds heap lent) {body : ObjectBody}
    (hbody : body.IsBare) :
    base.Holds (heap.alloc body).2 (heap.next :: lent) where
  sound := hholds.sound.alloc body
  next := Nat.le_succ_of_le hholds.next
  kept := by
    intro address found hget
    obtain ⟨hstill, hcount⟩ := hholds.kept hget
    have hne : heap.next ≠ address := by
      have hlt := lt_next_of_get? hholds.sound hstill
      omega
    rw [get?_alloc, strongCount_alloc, if_neg hne, if_neg hne,
      List.count_cons_of_ne hne]
    exact ⟨hstill, hcount⟩
  fresh := by
    intro address found hget
    rw [get?_alloc] at hget
    split at hget
    · rename_i hnew
      cases hget
      exact .inr ⟨hbody, hnew ▸ hholds.next⟩
    · exact hholds.fresh hget
  gone := by
    intro address hold hnone
    have hnext := hholds.next
    have hcount := hholds.gone hold hnone
    rw [strongCount_alloc, if_neg (by omega), List.count_cons_of_ne (by omega)]
    exact hcount

/-- A handle that was handed out is given back: nothing goes that was there, and
what goes owns nothing. -/
theorem Holds.release {address : Nat} (hholds : base.Holds heap (address :: lent)) :
    base.Holds (heap.release address).1 lent ∧
      ∀ body, (heap.release address).2 = some body → body.IsBare := by
  have hmore : ∀ {body}, base.get? address = some body →
      heap.strongCount address ≠ 1 := by
    intro body hget hone
    obtain ⟨-, hcount⟩ := hholds.kept hget
    have hpos := strongCount_pos_of_get? hget
    rw [List.count_cons_self] at hcount
    omega
  have hnext : base.next ≤ (heap.release address).1.next :=
    (heap.next_release address).symm ▸ hholds.next
  refine ⟨⟨hholds.sound.release address, hnext, ?_, ?_, ?_⟩, ?_⟩
  · intro other body hget
    obtain ⟨hstill, hcount⟩ := hholds.kept hget
    rw [hholds.sound.get?_release, strongCount_release]
    by_cases ha : address = other
    · subst ha
      rw [if_neg (fun hlast => hmore hget hlast.2), if_pos rfl]
      rw [List.count_cons_self] at hcount
      exact ⟨hstill, by omega⟩
    · rw [if_neg (fun hlast => ha hlast.1), if_neg ha]
      rw [List.count_cons_of_ne ha] at hcount
      exact ⟨hstill, by omega⟩
  · intro other body hget
    rw [hholds.sound.get?_release] at hget
    split at hget
    · cases hget
    · exact hholds.fresh hget
  · intro other hold hnone
    have hcount := hholds.gone hold hnone
    rw [strongCount_release]
    simp only [List.count_cons, beq_iff_eq] at hcount
    omega
  · intro body hsome
    obtain ⟨hget, -⟩ := hholds.sound.get?_release_of_some hsome
    rcases hholds.fresh hget with hold | ⟨hbare, -⟩
    · rw [hholds.sound.release_snd] at hsome
      rw [if_neg (hmore hold)] at hsome
      cases hsome
    · exact hbare

theorem Holds.releaseAll {refs : List ObjectRef}
    (hholds : base.Holds heap (refs.map ObjectRef.address ++ lent)) :
    base.Holds
      (refs.foldl (fun heap ref => (heap.release ref.address).1) heap) lent := by
  induction refs generalizing heap with
  | nil => exact hholds
  | cons ref refs ih => exact ih hholds.release.1

theorem Holds.finish (hholds : base.Holds heap lent) (address : Nat) :
    base.Holds (heap.finish address) lent where
  sound := hholds.sound.finish address
  next := (heap.next_finish address).symm ▸ hholds.next
  kept := by
    intro other body hget
    rw [get?_finish, strongCount_finish]
    exact hholds.kept hget
  fresh := by
    intro other body hget
    rw [get?_finish] at hget
    exact hholds.fresh hget
  gone := by
    intro other hold hnone
    rw [strongCount_finish]
    exact hholds.gone hold hnone

theorem Holds.upgrade (hholds : base.Holds heap lent) {address : Nat}
    {upgraded : Heap ObjectBody} (hupgrade : heap.upgrade address = some upgraded) :
    base.Holds upgraded (address :: lent) := by
  rw [eq_retain_of_upgrade hupgrade]
  exact hholds.retain address

end Heap

namespace World

variable {base middle world : World} {lent : List Nat}

/-- What a part of an operation keeps of the world that the operation has begun in.
It has handed out the handles `lent` so far. -/
structure Keeps (base world : World) (lent : List Nat) : Prop where
  objects : base.objects.Holds world.objects lent
  loader : world.loader = base.loader
  loaders : world.loaders = base.loaders
  files : world.files = base.files
  rules : world.executor.rules = base.executor.rules
  hooked : ∀ {address}, world.Hooked address → base.Hooked address
  lives : ∀ {address}, (world.module? address).isSome = true →
    (base.module? address).isSome = true
  modules : base.modules.Sound → world.modules.Sound

theorem Keeps.refl (hworld : world.objects.Sound) : world.Keeps world [] :=
  ⟨hworld.holds, rfl, rfl, rfl, rfl, id, id, id⟩

/-- An operation that changes the handles of objects, the host and what the executor
counts. -/
theorem Keeps.of_eq {after : World} (hkeeps : base.Keeps world lent) {lent' : List Nat}
    (hobjects : base.objects.Holds after.objects lent')
    (hmodules : after.modules = world.modules) (hloader : after.loader = world.loader)
    (hloaders : after.loaders = world.loaders) (hfiles : after.files = world.files)
    (hrules : after.executor.rules = world.executor.rules) : base.Keeps after lent' where
  objects := hobjects
  loader := hloader.trans hkeeps.loader
  loaders := hloaders.trans hkeeps.loaders
  files := hfiles.trans hkeeps.files
  rules := hrules.trans hkeeps.rules
  hooked := by
    rintro address ⟨place, module, hmodule, hmem⟩
    unfold module? at hmodule
    rw [hmodules] at hmodule
    exact hkeeps.hooked ⟨place, module, hmodule, hmem⟩
  lives := by
    intro address hlives
    unfold module? at hlives
    rw [hmodules] at hlives
    exact hkeeps.lives hlives
  modules := fun hsound => hmodules ▸ hkeeps.modules hsound

theorem Keeps.of_objects (hkeeps : base.Keeps world lent) {lent' : List Nat}
    {objects : Heap ObjectBody} (hobjects : base.objects.Holds objects lent') :
    base.Keeps { world with objects := objects } lent' :=
  hkeeps.of_eq hobjects rfl rfl rfl rfl rfl

theorem Keeps.congr {same : List Nat} (hkeeps : base.Keeps world lent)
    (hsame : ∀ address, same.count address = lent.count address) :
    base.Keeps world same :=
  hkeeps.of_objects (hkeeps.objects.congr hsame)

theorem Keeps.steady {after : World} (hkeeps : base.Keeps world lent)
    (hsteady : world.Steady after) : base.Keeps after lent where
  objects := hsteady.objects ▸ hkeeps.objects
  loader := hsteady.loader.trans hkeeps.loader
  loaders := hsteady.loaders.trans hkeeps.loaders
  files := hsteady.files.trans hkeeps.files
  rules := hsteady.rules.trans hkeeps.rules
  hooked := fun hhooked => hkeeps.hooked (hsteady.hooked hhooked)
  lives := fun hlives => hkeeps.lives (hsteady.lives _ ▸ hlives)
  modules := fun hsound => hsteady.modules (hkeeps.modules hsound)

theorem Keeps.retain (hkeeps : base.Keeps world lent) (refs : List ObjectRef) :
    base.Keeps (world.retain refs) (refs.map ObjectRef.address ++ lent) :=
  hkeeps.of_objects (hkeeps.objects.retainAll refs)

theorem Keeps.release {refs : List ObjectRef}
    (hkeeps : base.Keeps world (refs.map ObjectRef.address ++ lent)) :
    base.Keeps (world.release refs) lent :=
  hkeeps.of_objects hkeeps.objects.releaseAll

/-- A game module that is kept stays the same. -/
theorem Keeps.game? (hkeeps : base.Keeps world lent) {address : Nat}
    {game : GameModule} (hgame : base.game? address = some game) :
    world.game? address = some game := by
  rw [game?_eq_some_iff] at hgame ⊢
  exact (hkeeps.objects.kept hgame).1

/-- No game module comes to live. -/
theorem Keeps.game?_earlier (hkeeps : base.Keeps world lent) {address : Nat}
    {game : GameModule} (hgame : world.game? address = some game) :
    base.game? address = some game := by
  rw [game?_eq_some_iff] at hgame ⊢
  exact (hkeeps.objects.fresh hgame).resolve_right And.left

end World

namespace Act

variable {base : World} {lent : List Nat} {world : World}

/-! ### Calls -/

theorem resultObjects_eq (outcome : Except InvokeError (Option NativeValue)) :
    resultObjects outcome = (resultRefs outcome).map Owned.object := by
  rcases outcome with err | value
  · rfl
  · cases value <;> rfl

/-- A script function that runs without object leaves none. -/
theorem runFunction_this (function : FunctionRef) (args : List ScriptValue)
    (limit : Option Nat) (switch : Option String) :
    (world.runFunction function none args limit switch).this = none := by
  unfold World.runFunction
  dsimp only
  split
  · rfl
  · split
    split
    · rfl
    · rfl

/-- A call with values in script form hands out the handles of its result and of its
object in place of those of the values. -/
theorem callWith_keeps (function : FunctionRef) (this : Option ScriptValue)
    {values : List ScriptValue} (setup : RunSetup) (wanted : ReturnType)
    (hkeeps : base.Keeps world
      ((values.flatMap ScriptValue.objects).map ObjectRef.address ++ lent)) :
    base.Keeps (after (callWith function this values setup wanted) world)
      ((targetRefs (result (callWith function this values setup wanted) world).2).map
          ObjectRef.address ++
        ((resultRefs (result (callWith function this values setup wanted) world).1).map
          ObjectRef.address ++ lent)) := by
  obtain ⟨host, hafter⟩ := callWith_after function this values setup wanted world
  have hran : base.Keeps { world with host := host }
      ((values.flatMap ScriptValue.objects).map ObjectRef.address ++ lent) :=
    hkeeps.of_eq hkeeps.objects rfl rfl rfl rfl rfl
  rw [hafter]
  refine World.Keeps.release (((hran.retain _).retain _).congr fun address => ?_)
  simp only [List.count_append]
  omega

/-- A call hands out the handles of its result and of its object. -/
theorem call_keeps (function : FunctionRef) (this : Option ScriptValue)
    (args : List NativeValue) (setup : RunSetup) (wanted : ReturnType)
    (hkeeps : base.Keeps world lent) :
    base.Keeps (after (call function this args setup wanted) world)
      ((targetRefs (result (call function this args setup wanted) world).2).map
          ObjectRef.address ++
        ((resultRefs (result (call function this args setup wanted) world).1).map
          ObjectRef.address ++ lent)) := by
  unfold call
  dsimp only
  split
  · exact hkeeps.retain _
  · rw [after_get_bind, result_get_bind]
    split
    · exact hkeeps.retain _
    · rename_i values objects hmarshal
      rw [after_bind, result_bind, after_set]
      apply callWith_keeps
      rw [marshalArgs_objects hmarshal]
      exact hkeeps.of_eq (hkeeps.objects.retainAll _) rfl rfl rfl rfl rfl

theorem callWith_this (function : FunctionRef) (values : List ScriptValue) (setup : RunSetup)
    (wanted : ReturnType) (world : World) :
    (result (callWith function none values setup wanted) world).2 = none := by
  have hran := @runFunction_this world function values
    (setup.timeout.or world.executor.timeout) setup.abort
  unfold callWith
  rw [result_get_bind]
  dsimp only
  rw [result_bind]
  split
  · exact hran
  · exact hran
  · exact hran

/-- A call without object leaves none. -/
theorem call_this (function : FunctionRef) (args : List NativeValue) (setup : RunSetup)
    (wanted : ReturnType) (world : World) :
    (result (call function none args setup wanted) world).2 = none := by
  unfold call
  dsimp only
  split
  · rfl
  · rw [result_get_bind]
    split
    · rfl
    · rw [result_bind]
      exact callWith_this function _ setup wanted _

/-- A call hands out the handles of its result. -/
theorem invoke_keeps (function : FunctionRef) (args : List NativeValue)
    (setup : RunSetup) (wanted : ReturnType) (hkeeps : base.Keeps world lent) :
    base.Keeps (after (invoke function args setup wanted) world)
      ((resultRefs (result (invoke function args setup wanted) world)).map
        ObjectRef.address ++ lent) := by
  have hcall := call_keeps function none args setup wanted hkeeps
  rw [call_this] at hcall
  exact hcall

/-! ### Lifecycle listeners -/

theorem selfValue_keeps (address : Nat) (hkeeps : base.Keeps world lent) :
    base.Keeps (after (selfValue address) world)
      ((result (selfValue address) world).objects.map ObjectRef.address ++ lent) := by
  unfold selfValue
  rw [after_get_bind, result_get_bind]
  split
  · rename_i objects hupgrade
    exact hkeeps.of_objects (hkeeps.objects.upgrade hupgrade)
  · exact hkeeps

theorem allocate_keeps (type : ObjectType) {body : ObjectBody} (hbody : body.IsBare)
    (hkeeps : base.Keeps world lent) :
    base.Keeps (after (allocate type body) world)
      ((result (allocate type body) world).address :: lent) :=
  hkeeps.of_objects (hkeeps.objects.alloc hbody)

theorem hookArgs_keeps (hooks : Hooks) (event : EventType)
    (hkeeps : base.Keeps world lent) :
    base.Keeps (after (hookArgs hooks event) world)
      (((result (hookArgs hooks event) world).flatMap NativeValue.objects).map
        ObjectRef.address ++ lent) := by
  unfold hookArgs
  split
  · exact hkeeps.retain _
  · rename_i address
    have hbare : (ObjectBody.event (.plain event)).IsBare :=
      List.flatMap_nil
    have hmade := allocate_keeps .event hbare hkeeps
    rw [after_bind, result_bind, after_get_bind, result_get_bind]
    split
    · rename_i objects hupgrade
      refine (hmade.of_objects (hmade.objects.upgrade hupgrade)).congr fun other => ?_
      simp only [after_set, result_bind, result_pure, List.flatMap_cons, List.flatMap_nil, NativeValue.objects,
        List.append_nil, List.cons_append, List.nil_append, List.map_cons,
        List.map_nil, List.count_cons]
      omega
    · exact hmade

/-- A lifecycle listener hands out the handles of its result. -/
theorem fireLifecycle_keeps (address : Nat) (kind : ListenerKind)
    (args : List NativeValue) (hkeeps : base.Keeps world lent) :
    ∃ refs : List ObjectRef,
      result (fireLifecycle address kind args) world = refs.map Owned.object ∧
      base.Keeps (after (fireLifecycle address kind args) world)
        (refs.map ObjectRef.address ++ lent) := by
  have hfind := hkeeps.steady (findListener_isSteady address kind.name none world)
  unfold fireLifecycle
  rw [after_bind, result_bind]
  split
  · exact ⟨[], rfl, hfind⟩
  · rename_i entry hentry
    have hcall := invoke_keeps entry.function args .standard .script hfind
    rw [after_bind, result_bind]
    dsimp only
    split
    · exact ⟨_, resultObjects_eq _, hcall⟩
    · exact ⟨_, resultObjects_eq _, hcall.steady (error_isSteady _ _)⟩

/-- Hooks hand out the handles of the arguments and of the result. -/
theorem fireHooks_keeps (address : Nat) (hooks : Option Hooks) (event : EventType)
    (hkeeps : base.Keeps world lent) :
    ∃ refs : List ObjectRef,
      result (fireHooks address hooks event) world = refs.map Owned.object ∧
      base.Keeps (after (fireHooks address hooks event) world)
        (refs.map ObjectRef.address ++ lent) := by
  cases hooks with
  | none => exact ⟨[], rfl, hkeeps⟩
  | some hooks =>
      have hnoted := hkeeps.steady (noteHooks_isSteady address hooks event world)
      let noted := after (noteHooks address hooks event) world
      have hargs := hookArgs_keeps hooks event hnoted
      obtain ⟨refs, hrefs, hfired⟩ := fireLifecycle_keeps address event.listener
        (result (hookArgs hooks event) noted) hargs
      refine ⟨refs ++ (result (hookArgs hooks event) noted).flatMap
        NativeValue.objects, ?_, ?_⟩
      · rw [List.map_append, ← hrefs]
        rfl
      · rw [List.map_append, List.append_assoc]
        exact hfired

/-- A reload hands out the handles that its listeners have left. -/
theorem reload_keeps (address : Nat) (hkeeps : base.Keeps world lent) :
    ∃ refs : List ObjectRef,
      (result (reload address) world).2 = refs.map Owned.object ∧
      base.Keeps (after (reload address) world)
        (refs.map ObjectRef.address ++ lent) := by
  unfold reload
  rw [after_get_bind, result_get_bind]
  split
  · exact ⟨[], rfl, hkeeps⟩
  · rename_i module hmodule
    split
    · exact ⟨[], rfl, hkeeps.steady (warn_isSteady _ _)⟩
    · split
      · exact ⟨[], rfl, hkeeps.steady (discard_isSteady address _ world)⟩
      · obtain ⟨released, hreleased, hfirst⟩ :=
          fireHooks_keeps address module.hooks .release hkeeps
        have hready := hfirst.steady (renew_isSteady address _)
        have hbuilt := hready.steady (build_isSteady address _)
        rw [after_bind, result_bind, after_bind, result_bind, after_bind,
          result_bind]
        split
        · exact ⟨released, hreleased, hbuilt⟩
        · have hcounted := onExecutor_isSteady (fun executor =>
            { executor with reloads := executor.reloads + 1 }) (fun _ => rfl)
              (after (build address) (after (renew address)
                (after (fireHooks address module.hooks .release) world)))
          obtain ⟨started, hstarted, hlast⟩ := fireHooks_keeps address module.hooks
            .init (hbuilt.steady hcounted)
          refine ⟨released ++ started, ?_, ?_⟩
          · rw [List.map_append, ← hreleased, ← hstarted]
            rfl
          · refine hlast.congr fun other => ?_
            simp only [List.map_append, List.count_append]
            omega

/-! ### Detaching -/

/-- An event without payload is delivered for the handles of the event and of the
result. -/
theorem deliver_keeps (script : Nat) {event : Event} (hpayload : event.payload = [])
    (game : NativeValue) (hkeeps : base.Keeps world lent) :
    ∃ refs : List ObjectRef,
      (result (deliver script event game) world).2 = refs.map Owned.object ∧
      base.Keeps (after (deliver script event game) world)
        (refs.map ObjectRef.address ++ lent) := by
  have hfind := hkeeps.steady (findListener_isSteady script event.kind.listenerName
    event.kind.genericType? world)
  unfold deliver
  rw [after_bind, result_bind]
  split
  · exact ⟨[], rfl, hfind⟩
  · rename_i entry hentry
    have hbare : (ObjectBody.event event).IsBare := by
      simp [ObjectBody.IsBare, hpayload]
    simp only [hpayload, List.flatMap_nil]
    rw [after_bind, after_bind, result_bind, result_bind]
    have hready : base.Keeps (after (retain []) (after (findListener script
        event.kind.listenerName event.kind.genericType?) world)) lent :=
      hfind.retain []
    generalize after (retain []) (after (findListener script
      event.kind.listenerName event.kind.genericType?) world) = ready at hready ⊢
    have hmade := allocate_keeps .event hbare hready
    generalize result (allocate .event (.event event)) ready = occasion at hmade ⊢
    generalize after (allocate .event (.event event)) ready = made at hmade ⊢
    have hcall := invoke_keeps entry.function [.object occasion, game] .standard
      .script hmade
    refine ⟨occasion :: resultRefs (result (invoke entry.function
      [.object occasion, game] .standard .script) made), ?_, hcall.congr fun address => ?_⟩
    · rw [List.map_cons, ← resultObjects_eq]
      rfl
    · simp only [List.map_cons, List.cons_append, List.count_append, List.count_cons]
      omega

/-- An event without payload is fired for the handles of the event, of the result and
of the game module. -/
theorem fire_keeps (address : Nat) {event : Event} (hpayload : event.payload = [])
    (hkeeps : base.Keeps world lent) :
    ∃ refs : List ObjectRef,
      (result (fire address event) world).2 = refs.map Owned.object ∧
      base.Keeps (after (fire address event) world)
        (refs.map ObjectRef.address ++ lent) := by
  unfold fire
  rw [after_get_bind, result_get_bind]
  split
  · exact ⟨[], rfl, hkeeps⟩
  · rename_i script hscript
    have hself := selfValue_keeps address hkeeps
    rw [after_bind, result_bind]
    generalize result (selfValue address) world = self at hself ⊢
    obtain ⟨refs, hrefs, hdelivered⟩ := deliver_keeps script hpayload self hself
    refine ⟨refs ++ self.objects, ?_, hdelivered.congr fun other => ?_⟩
    · rw [List.map_append, ← hrefs]
      rfl
    · simp only [List.map_append, List.count_append]
      omega

theorem removeScript_isSteady (script : Nat) : IsSteady (removeScript script) := by
  refine .bind .get fun world => ?_
  split
  · exact .pure _
  · refine .bind (deleteModule_isSteady _) fun found => ?_
    split
    split
    · exact .pure _
    · exact release_isSteady script

theorem deliverRelease_keeps (place script : Nat) (wanted : Bool) (self : NativeValue)
    (hkeeps : base.Keeps world lent) :
    ∃ refs : List ObjectRef,
      result (deliverRelease place script wanted self) world = refs.map Owned.object ∧
      base.Keeps (after (deliverRelease place script wanted self) world)
        (refs.map ObjectRef.address ++ lent) := by
  unfold deliverRelease
  rw [after_get_bind, result_get_bind]
  dsimp only
  split
  · obtain ⟨refs, hrefs, hdelivered⟩ := deliver_keeps script
      (rfl : (Event.plain .release).payload = []) self
      (hkeeps.steady (note_isSteady place script .release world))
    rw [after_bind, result_bind, after_bind, result_bind]
    refine ⟨refs, ?_, ?_⟩
    · rw [← hrefs]
      split <;> rfl
    · split
      · exact hdelivered
      · exact hdelivered.steady (error_isSteady _ _)
  · exact ⟨[], rfl, hkeeps⟩

/-- The handles that the hooks of a module have had. -/
theorem release_hooked (address : Nat) {target : Nat}
    (hmem : target ∈ Owned.objects (result (release address) world)) :
    world.Hooked target := by
  unfold release at hmem
  simp only [result_bind, result_get, result_pure, Owned.objects_objects] at hmem
  cases hmodule : world.module? address with
  | none => simp [hmodule] at hmem
  | some module =>
      simp only [hmodule, Option.bind_some] at hmem
      exact ⟨address, module, hmodule, hmem⟩

theorem clearHooks_hooked (address : Nat) {target : Nat}
    (hmem : target ∈ Owned.objects (result (clearHooks address) world)) :
    world.Hooked target :=
  release_hooked address hmem

theorem deleteModule_hooked (id : Nat) {target : Nat}
    (hmem : target ∈ Owned.objects (result (deleteModule id) world).2) :
    world.Hooked target := by
  unfold deleteModule at hmem
  rw [result_get_bind] at hmem
  split at hmem
  · simp at hmem
  · simp only [result_bind, result_pure, Owned.objects_append, Owned.objects_module,
      Owned.objects_nil, List.append_nil] at hmem
    exact release_hooked _ hmem

theorem removeScript_hooked (script : Nat) {target : Nat}
    (hmem : target ∈ Owned.objects (result (removeScript script) world)) :
    world.Hooked target := by
  unfold removeScript at hmem
  rw [result_get_bind] at hmem
  split at hmem
  · simp at hmem
  · rename_i id hid
    rw [result_bind] at hmem
    dsimp only at hmem
    split at hmem
    · exact deleteModule_hooked id hmem
    · exact (deleteModule_isSteady id world).hooked (release_hooked script hmem)

/-- Detaching a script module harms no object. What comes up are handles that are
handed out, those that hooks have had, and those of the imports. -/
theorem detachScript_keeps (place : Nat) (game : GameModule) (fireRelease : Bool)
    (self : NativeValue) (hkeeps : base.Keeps world lent) :
    ∃ (refs : List ObjectRef) (rest : List Owned),
      result (detachScript place game fireRelease self) world =
        refs.map Owned.object ++ rest ∧
      base.Keeps (after (detachScript place game fireRelease self) world)
        (refs.map ObjectRef.address ++ lent) ∧
      ∀ target ∈ Owned.objects rest,
        base.Hooked target ∨ target ∈ game.dependencies := by
  have himports : ∀ target ∈ Owned.objects (game.dependencies.map fun address =>
      Owned.object ⟨.gameModule, address⟩), target ∈ game.dependencies := by
    intro target hmem
    simpa [Owned.objects, List.mem_filterMap] using hmem
  unfold detachScript
  dsimp only
  split
  · exact ⟨[], _, rfl, hkeeps, fun target hmem => .inr (himports target hmem)⟩
  · rename_i script hscript
    obtain ⟨refs, hrefs, hdelivered⟩ :=
      deliverRelease_keeps place script fireRelease self hkeeps
    have hcleared := hdelivered.steady (clearHooks_isSteady script _)
    refine ⟨refs, result (clearHooks script) (after (deliverRelease place script
        fireRelease self) world) ++ (result (removeScript script) (after (clearHooks script) (after
          (deliverRelease place script fireRelease self) world)) ++ (.module script ::
            game.dependencies.map fun address => .object ⟨.gameModule, address⟩)), ?_,
      hcleared.steady (removeScript_isSteady script _), ?_⟩
    · rw [result_bind, result_bind, result_bind, result_pure, hrefs]
      simp only [List.append_assoc]
      rfl
    · intro target hmem
      simp only [Owned.objects_append, Owned.objects_module, List.mem_append] at hmem
      rcases hmem with hhooks | hremoved | himport
      · exact .inl (hdelivered.hooked (clearHooks_hooked script hhooks))
      · exact .inl (hcleared.hooked (removeScript_hooked script hremoved))
      · exact .inr (himports target himport)

end Act

end ScriptHost
