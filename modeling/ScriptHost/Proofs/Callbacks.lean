import ScriptHost.Proofs.Binding
import Mathlib.Data.List.Perm.Subperm

/-!
Callbacks do not own what they can hold weakly. A callback is used in a world where
others have handles, too, which they clone and drop between its invocations and during
them. The handles of all objects are accounted for whatever is done: a callback
has one of a target that it holds strongly, none of one that it holds weakly, and an
invocation in progress has one more, which it gives back in the end.
-/

namespace ScriptHost

/-- The number of handles of an object among some. -/
def handlesIn (refs : List ObjectRef) (address : Nat) : Nat :=
  (refs.map ObjectRef.address).count address

section

variable {refs : List ObjectRef} {ref : ObjectRef} {address : Nat}

@[simp]
theorem handlesIn_nil : handlesIn [] address = 0 :=
  rfl

theorem handlesIn_cons : handlesIn (ref :: refs) address =
    handlesIn refs address + if ref.address = address then 1 else 0 := by
  unfold handlesIn
  rw [List.map_cons, List.count_cons]
  simp only [beq_iff_eq]

theorem handlesIn_append {more : List ObjectRef} : handlesIn (refs ++ more) address =
    handlesIn refs address + handlesIn more address := by
  unfold handlesIn
  rw [List.map_append, List.count_append]

theorem handlesIn_perm {same : List ObjectRef} (hperm : refs.Perm same) :
    handlesIn refs address = handlesIn same address :=
  (hperm.map ObjectRef.address).count_eq address

end

/-- What a call from the host comes to. -/
abbrev CallOutcome := Except InvokeError (Option NativeValue)

/-- Whether it is told that the target of a callback is gone. -/
def CallOutcome.isGone : CallOutcome → Bool
  | .error .targetGone => true
  | _ => false

/-- How often it may be told that the target of a callback is gone. -/
def Callback.goneLeft (callback : Callback) : Nat :=
  match callback.target with
  | some (.weak _) => 1
  | _ => 0

theorem Callback.goneLeft_le (callback : Callback) : callback.goneLeft ≤ 1 := by
  unfold goneLeft
  split
  · exact Nat.le_refl 1
  · exact Nat.zero_le 1

/-- A callback in use, in a world where others have handles outside of it. While
an invocation is in progress, it has taken hold of a function and perhaps of a target. -/
structure CallbackScene where
  world : World
  callback : Callback
  outside : List ObjectRef
  running : Option (FunctionRef × Option ScriptValue)

/-- What is done with a callback, and what others do with their handles. An
invocation is made as a whole, or it is begun and ended, and others come in between. -/
inductive CallbackUse
  | clone (ref : ObjectRef)
  | drop (ref : ObjectRef)
  | set (wanted : Option (FunctionRef × Option ScriptValue))
  | reset
  | enter
  | finish (args : List NativeValue) (setup : RunSetup) (wanted : ReturnType)
  | invoke (args : List NativeValue) (setup : RunSetup) (wanted : ReturnType)

namespace CallbackUse

/-- Whether a callback is set. -/
def isSet : CallbackUse → Bool
  | .set _ => true
  | _ => false

/-- Whether an invocation in progress comes to its end. -/
def isFinish : CallbackUse → Bool
  | .finish _ _ _ => true
  | _ => false

end CallbackUse

/-- The objects of the value that a callback is to be bound to. -/
def givenRefs (wanted : Option (FunctionRef × Option ScriptValue)) : List ObjectRef :=
  Act.targetRefs (wanted.bind Prod.snd)

/-- Handles of what lives are taken over. -/
theorem World.Accounts.takeOver {world : World} {bound : Nat} {kept taken all : List ObjectRef}
    {loose : List Nat}
    (haccount : world.Accounts bound (kept.map ObjectRef.address)
      (taken.map ObjectRef.address ++ loose))
    (hsame : ∀ address, handlesIn all address = handlesIn kept address + handlesIn taken address)
    (hlives : ∀ ref ∈ taken, ref.address < bound → ref.address ∈ kept.map ObjectRef.address ∨
      (world.objects.get? ref.address).isSome = true) :
    world.Accounts bound (all.map ObjectRef.address) loose := by
  refine haccount.keep (fun address => ?_) fun address hmem hbound => ?_
  · have hparts := hsame address
    unfold handlesIn at hparts
    rw [List.count_append]
    omega
  · have hpositive : 0 < handlesIn kept address + handlesIn taken address :=
      hsame address ▸ List.count_pos_iff.mpr hmem
    rcases Nat.eq_zero_or_pos (handlesIn taken address) with hnone | hnew
    · exact .inl (List.count_pos_iff.mp (by rw [hnone] at hpositive; exact hpositive))
    · obtain ⟨ref, href, rfl⟩ := List.mem_map.mp (List.count_pos_iff.mp hnew)
      exact hlives ref href hbound

namespace CallbackScene

/-- The objects that an invocation in progress has handles of. -/
def runningRefs (scene : CallbackScene) : List ObjectRef :=
  Act.targetRefs (scene.running.bind Prod.snd)

/-- The handles that objects do not own, nor hooks: those of the callback, of an
invocation in progress and of others. -/
def held (scene : CallbackScene) : List ObjectRef :=
  scene.callback.objects ++ (scene.runningRefs ++ scene.outside)

/-- Whether a use is possible. Others can deal with handles that they have. Nothing
else is done with a callback while it is invoked, and the handles of the value that it
is bound to are given by others. -/
def Allows (scene : CallbackScene) : CallbackUse → Prop
  | .clone ref => ref ∈ scene.outside
  | .drop ref => ref ∈ scene.outside
  | .set wanted => scene.running.isNone = true ∧ (givenRefs wanted).Subperm scene.outside
  | .reset => scene.running.isNone = true
  | .enter => scene.running.isNone = true
  | .finish _ _ _ => scene.running.isSome = true
  | .invoke _ _ _ => scene.running.isNone = true

instance (scene : CallbackScene) (use : CallbackUse) : Decidable (scene.Allows use) :=
  match use with
  | .clone ref => inferInstanceAs (Decidable (ref ∈ scene.outside))
  | .drop ref => inferInstanceAs (Decidable (ref ∈ scene.outside))
  | .set wanted => inferInstanceAs (Decidable (scene.running.isNone = true ∧
      (givenRefs wanted).Subperm scene.outside))
  | .reset => inferInstanceAs (Decidable (scene.running.isNone = true))
  | .enter => inferInstanceAs (Decidable (scene.running.isNone = true))
  | .finish _ _ _ => inferInstanceAs (Decidable (scene.running.isSome = true))
  | .invoke _ _ _ => inferInstanceAs (Decidable (scene.running.isNone = true))

/-- Whether the object of a handle lives. -/
def lives (scene : CallbackScene) (ref : ObjectRef) : Bool :=
  (scene.world.objects.get? ref.address).isSome

/-- The handles of a result belong to others. A handle that names no living object is
given up. -/
def receive (scene : CallbackScene) (outcome : CallOutcome) : CallbackScene :=
  let gone := (Act.resultRefs outcome).filter fun ref => !scene.lives ref
  { scene with
    world := Act.after (Act.dropObjects gone) scene.world
    outside := (Act.resultRefs outcome).filter scene.lives ++ scene.outside }

/-- Others clone a handle that they have. -/
def clone (scene : CallbackScene) (ref : ObjectRef) : CallbackScene :=
  { scene with world := scene.world.retain [ref], outside := ref :: scene.outside }

/-- Others drop a handle that they have. -/
def drop (scene : CallbackScene) (ref : ObjectRef) : CallbackScene :=
  { scene with
    world := Act.after (Act.dropObjects [ref]) scene.world
    outside := scene.outside.erase ref }

/-- The callback is set. -/
def set (scene : CallbackScene) (wanted : Option (FunctionRef × Option ScriptValue)) :
    CallbackScene :=
  { scene with
    world := Act.after (Act.setCallback scene.callback wanted) scene.world
    callback := Act.result (Act.setCallback scene.callback wanted) scene.world
    outside := scene.outside.diff (givenRefs wanted) }

/-- The callback is reset. -/
def reset (scene : CallbackScene) : CallbackScene :=
  { scene with
    world := Act.after (Act.resetCallback scene.callback) scene.world
    callback := Act.result (Act.resetCallback scene.callback) scene.world }

/-- An invocation begins. It may come to an end at once. -/
def enter (scene : CallbackScene) : CallbackScene × Option CallOutcome :=
  let world := Act.after (Act.takeTarget scene.callback) scene.world
  match Act.result (Act.takeTarget scene.callback) scene.world with
  | (callback, .error err) =>
    ({ scene with world := world, callback := callback }, some (.error err))
  | (callback, .ok taken) =>
    ({ scene with world := world, callback := callback, running := some taken }, none)

/-- An invocation in progress makes its call. -/
def finish (scene : CallbackScene) (args : List NativeValue) (setup : RunSetup)
    (wanted : ReturnType) : CallbackScene × Option CallOutcome :=
  match scene.running with
  | none => (scene, none)
  | some (function, target) =>
    let call := Act.callTaken function target args setup wanted
    let outcome := Act.result call scene.world
    (receive { scene with world := Act.after call scene.world, running := none } outcome,
      some outcome)

/-- The callback is invoked without anyone coming in between. -/
def invoke (scene : CallbackScene) (args : List NativeValue) (setup : RunSetup)
    (wanted : ReturnType) : CallbackScene × Option CallOutcome :=
  let call := Act.invokeCallback scene.callback args setup wanted
  let (callback, outcome) := Act.result call scene.world
  (receive { scene with world := Act.after call scene.world, callback := callback } outcome,
    some outcome)

/-- What becomes of a scene with a use that is possible, and what an invocation tells. -/
def perform (scene : CallbackScene) : CallbackUse → CallbackScene × Option CallOutcome
  | .clone ref => (scene.clone ref, none)
  | .drop ref => (scene.drop ref, none)
  | .set wanted => (scene.set wanted, none)
  | .reset => (scene.reset, none)
  | .enter => scene.enter
  | .finish args setup wanted => scene.finish args setup wanted
  | .invoke args setup wanted => scene.invoke args setup wanted

/-- One use; a use that is not possible comes to nothing. -/
def step (scene : CallbackScene) (use : CallbackUse) : CallbackScene × Option CallOutcome :=
  if scene.Allows use then scene.perform use else (scene, none)

/-- One use after another, and what the invocations tell. -/
def run (scene : CallbackScene) : List CallbackUse → CallbackScene × List CallOutcome
  | [] => (scene, [])
  | use :: rest =>
    let (next, told) := scene.step use
    let (last, later) := next.run rest
    (last, told.toList ++ later)

/-- The handles of all objects in a scene are accounted for. -/
def Accounted (bound : Nat) (scene : CallbackScene) : Prop :=
  scene.world.Accounts bound (scene.held.map ObjectRef.address) []

variable {bound : Nat} {scene : CallbackScene}

theorem handlesIn_held (scene : CallbackScene) (address : Nat) :
    handlesIn scene.held address = handlesIn scene.callback.objects address +
      (handlesIn scene.runningRefs address + handlesIn scene.outside address) := by
  rw [held, handlesIn_append, handlesIn_append]

/-- Handles that are given up are lent first. -/
theorem Accounted.give (haccount : scene.Accounted bound) {fewer given : List ObjectRef}
    (hsame : ∀ address, handlesIn fewer address + handlesIn given address =
      handlesIn scene.held address) :
    scene.world.Accounts bound (fewer.map ObjectRef.address)
      (given.map ObjectRef.address ++ []) := by
  refine haccount.lend (fun address => ?_) fun address => ?_
  · rw [List.append_nil]
    exact hsame address
  · have hparts := hsame address
    unfold handlesIn at hparts
    omega

/-! ### The parts of a use -/

theorem receive_accounted {outcome : CallOutcome}
    (haccount : scene.world.Accounts bound (scene.held.map ObjectRef.address)
      ((Act.resultRefs outcome).map ObjectRef.address ++ [])) :
    (scene.receive outcome).Accounted bound := by
  have hsplit : scene.world.Accounts bound (scene.held.map ObjectRef.address)
      (((Act.resultRefs outcome).filter scene.lives).map ObjectRef.address ++
        (((Act.resultRefs outcome).filter fun ref => !scene.lives ref).map ObjectRef.address ++
          [])) := by
    refine haccount.relend fun address => ?_
    rw [← List.append_assoc, ← List.map_append, List.append_nil, List.append_nil]
    exact ((List.filter_append_perm scene.lives _).map ObjectRef.address).count_eq address
  refine Act.dropObjects_accounts _ (hsplit.takeOver (fun address => ?_) fun ref href _ =>
    .inr (List.mem_filter.mp href).2)
  simp only [handlesIn_held, runningRefs, receive, handlesIn_append]
  omega

theorem clone_accounted {ref : ObjectRef} (haccount : scene.Accounted bound)
    (hallowed : scene.Allows (.clone ref)) :
    (scene.clone ref).Accounted bound := by
  have hretained := Act.retain_accounts [ref] haccount
  refine hretained.takeOver (fun address => ?_) fun other hother _ => .inl ?_
  · simp only [handlesIn_held, runningRefs, clone, handlesIn_cons, handlesIn_nil]
    omega
  · obtain rfl := List.mem_singleton.mp hother
    exact List.mem_map_of_mem (List.mem_append_right _ (List.mem_append_right _ hallowed))

theorem drop_accounted {ref : ObjectRef} (haccount : scene.Accounted bound)
    (hallowed : scene.Allows (.drop ref)) :
    (scene.drop ref).Accounted bound := by
  refine Act.dropObjects_accounts [ref] (haccount.give fun address => ?_)
  have hothers : handlesIn scene.outside address =
      handlesIn (ref :: scene.outside.erase ref) address :=
    handlesIn_perm (List.perm_cons_erase hallowed)
  simp only [handlesIn_held, runningRefs, drop, hothers, handlesIn_cons, handlesIn_nil]
  omega

theorem reset_accounted (haccount : scene.Accounted bound) :
    scene.reset.Accounted bound := by
  refine Act.resetCallback_accounts scene.callback (haccount.give fun address => ?_)
  have hempty : (Act.result (Act.resetCallback scene.callback) scene.world).objects = [] := rfl
  simp only [handlesIn_held, runningRefs, reset, hempty, handlesIn_nil]
  omega

theorem set_accounted {wanted : Option (FunctionRef × Option ScriptValue)}
    (haccount : scene.Accounted bound) (hallowed : scene.Allows (.set wanted)) :
    (scene.set wanted).Accounted bound := by
  have hreset := reset_accounted haccount
  cases wanted with
  | none => exact hreset
  | some wanted =>
    obtain ⟨function, target⟩ := wanted
    -- what the callback is bound to is taken from what others have
    have hgiven : ∀ address, handlesIn scene.outside address =
        handlesIn (Act.targetRefs target) address +
          handlesIn (scene.outside.diff (Act.targetRefs target)) address := by
      intro address
      rw [← handlesIn_append]
      exact (handlesIn_perm (List.subperm_append_diff_self_of_count_le fun ref _ =>
        hallowed.2.count_le ref)).symm
    have hready : (Act.after (Act.resetCallback scene.callback) scene.world).Accounts bound
        ((Act.targetRefs target).map ObjectRef.address ++
          (scene.runningRefs ++ scene.outside.diff (Act.targetRefs target)).map
            ObjectRef.address) [] := by
      refine hreset.rekeep fun address => ?_
      rw [← List.map_append]
      change handlesIn _ address = handlesIn scene.reset.held address
      rw [handlesIn_held, handlesIn_append, handlesIn_append]
      change _ = handlesIn [] address + (handlesIn scene.runningRefs address +
        handlesIn scene.outside address)
      rw [hgiven, handlesIn_nil]
      omega
    have hbound := Act.bindCallback_accounts function target hready
    rw [← List.map_append] at hbound
    exact hbound

/-- A scene in which no invocation is in progress. -/
theorem runningRefs_of_idle (hidle : scene.running.isNone = true) : scene.runningRefs = [] := by
  unfold runningRefs
  rw [Option.isNone_iff_eq_none.mp hidle]
  rfl

theorem runningRefs_of_running {function : FunctionRef} {target : Option ScriptValue}
    (hrunning : scene.running = some (function, target)) :
    scene.runningRefs = Act.targetRefs target := by
  unfold runningRefs
  rw [hrunning]
  rfl

theorem enter_accounted (haccount : scene.Accounted bound) (hallowed : scene.Allows .enter) :
    scene.enter.1.Accounted bound := by
  have hold := Act.takeTarget_takesHold scene.callback scene.world
  have hobjects := hold.objects
  obtain ⟨htaken, hlives⟩ := hold.accounts haccount
  have hidle := runningRefs_of_idle hallowed
  unfold enter
  dsimp only
  split
  · rename_i callback err herr
    rw [herr] at htaken hobjects
    refine htaken.rekeep fun address => ?_
    change handlesIn (callback.objects ++ _) address = handlesIn _ address
    rw [hobjects]
    rfl
  · rename_i callback taken hok
    rw [hok] at htaken hlives hobjects
    refine htaken.takeOver (fun address => ?_) fun ref href hbound =>
      (hlives ref href hbound).imp_left fun hmem => ?_
    · rw [handlesIn_held, handlesIn_held, hidle, handlesIn_nil]
      change handlesIn callback.objects address + (handlesIn (Act.targetRefs taken.2) address +
        handlesIn scene.outside address) = _ + handlesIn (Act.targetRefs taken.2) address
      rw [hobjects]
      omega
    · exact List.mem_map_of_mem (List.mem_append_left _ hmem)

theorem finish_accounted {args : List NativeValue} {setup : RunSetup} {wanted : ReturnType}
    (haccount : scene.Accounted bound) :
    (scene.finish args setup wanted).1.Accounted bound := by
  unfold finish
  split
  · exact haccount
  · rename_i function target hrunning
    have hrefs := runningRefs_of_running hrunning
    have hgiven : scene.world.Accounts bound
        ((scene.callback.objects ++ scene.outside).map ObjectRef.address)
        ((Act.targetRefs target).map ObjectRef.address ++ []) := haccount.give fun address => by
      rw [handlesIn_held, handlesIn_append, hrefs]
      omega
    exact receive_accounted (Act.callTaken_accounts function target args setup wanted hgiven)

theorem receive_error (err : InvokeError) : scene.receive (.error err) = scene := by
  unfold receive
  simp only [Act.resultRefs, List.filter_nil, List.nil_append, Act.dropObjects_nil]

/-- An invocation that nobody comes in between of is its beginning and its end. -/
theorem invoke_eq (hidle : scene.running.isNone = true) (args : List NativeValue)
    (setup : RunSetup) (wanted : ReturnType) :
    scene.invoke args setup wanted =
      match scene.enter with
      | (entered, some outcome) => (entered, some outcome)
      | (entered, none) => entered.finish args setup wanted := by
  unfold invoke enter Act.invokeCallback
  dsimp only
  rw [Act.after_bind, Act.result_bind]
  generalize Act.after (Act.takeTarget scene.callback) scene.world = world
  obtain ⟨callback, taken⟩ := Act.result (Act.takeTarget scene.callback) scene.world
  cases taken with
  | error err =>
    dsimp only
    rw [Act.result_pure, Act.after_pure, receive_error]
  | ok taken =>
    obtain ⟨function, target⟩ := taken
    dsimp only [finish]
    rw [Act.result_bind, Act.after_bind, Option.isNone_iff_eq_none.mp hidle]
    rfl

theorem invoke_accounted {args : List NativeValue} {setup : RunSetup} {wanted : ReturnType}
    (haccount : scene.Accounted bound) (hallowed : scene.Allows (.invoke args setup wanted)) :
    (scene.invoke args setup wanted).1.Accounted bound := by
  have hentered := enter_accounted haccount hallowed
  rw [invoke_eq hallowed]
  split
  · rename_i entered outcome henter
    rw [henter] at hentered
    exact hentered
  · rename_i entered henter
    rw [henter] at hentered
    exact finish_accounted hentered

/-- Whatever is done with a callback, the handles of all objects are accounted for. -/
theorem step_accounted (haccount : scene.Accounted bound) (use : CallbackUse) :
    (scene.step use).1.Accounted bound := by
  unfold step
  split
  · rename_i hallowed
    cases use with
    | clone ref => exact clone_accounted haccount hallowed
    | drop ref => exact drop_accounted haccount hallowed
    | set wanted => exact set_accounted haccount hallowed
    | reset => exact reset_accounted haccount
    | enter => exact enter_accounted haccount hallowed
    | finish args setup wanted => exact finish_accounted haccount
    | invoke args setup wanted => exact invoke_accounted haccount hallowed
  · exact haccount

theorem run_accounted (haccount : scene.Accounted bound) (uses : List CallbackUse) :
    (scene.run uses).1.Accounted bound := by
  induction uses generalizing scene with
  | nil => exact haccount
  | cons use rest ih => exact ih (step_accounted haccount use)

/-! ### Targets that are gone -/

/-- An empty callback cannot be invoked. -/
theorem enter_of_empty (hfunction : scene.callback.function = none) :
    scene.enter = (scene, some (.error .emptyCallback)) := by
  obtain ⟨world, ⟨function, target⟩, outside, running⟩ := scene
  obtain rfl : function = none := hfunction
  rfl

/-- A callback that holds an object weakly takes hold of it if it lives. -/
theorem enter_of_alive {function : FunctionRef} {ref : ObjectRef}
    (hcallback : scene.callback = ⟨some function, some (.weak ref)⟩)
    (halive : scene.world.objects.isAlive ref.address = true) :
    scene.enter = ({ scene with
      world := scene.world.retain [ref]
      running := some (function, some (.object ref)) }, none) := by
  have htaken := Act.takeTarget_alive function halive
  rw [← hcallback, Act.run_eq, Prod.mk.injEq] at htaken
  unfold enter
  rw [htaken.1, htaken.2]

/-- If the object is gone, the callback is empty from then on. -/
theorem enter_of_gone {function : FunctionRef} {ref : ObjectRef}
    (hcallback : scene.callback = ⟨some function, some (.weak ref)⟩)
    (hgone : scene.world.objects.isAlive ref.address = false) :
    scene.enter = ({ scene with callback := .empty }, some (.error .targetGone)) := by
  have htaken := Act.takeTarget_gone function hgone
  rw [← hcallback, Act.run_eq, Prod.mk.injEq] at htaken
  unfold enter
  rw [htaken.1, htaken.2]

theorem enter_gone (scene : CallbackScene) : scene.enter.2.toList.countP CallOutcome.isGone +
    scene.enter.1.callback.goneLeft ≤ scene.callback.goneLeft := by
  have hold := Act.takeTarget_takesHold scene.callback scene.world
  unfold enter
  generalize Act.after (Act.takeTarget scene.callback) scene.world = later at hold ⊢
  generalize Act.result (Act.takeTarget scene.callback) scene.world = begun at hold ⊢
  obtain ⟨left, taken⟩ := begun
  generalize scene.callback = callback at hold ⊢
  cases hold with
  | empty target => exact Nat.le_of_eq (Nat.zero_add _)
  | plain function => exact Nat.le_refl _
  | strong function value => exact Nat.le_refl _
  | alive function halive => exact Nat.le_refl _
  | gone function hgone => exact Nat.le_refl _

theorem finish_gone (scene : CallbackScene) (args : List NativeValue) (setup : RunSetup)
    (wanted : ReturnType) :
    (scene.finish args setup wanted).2.toList.countP CallOutcome.isGone = 0 ∧
      (scene.finish args setup wanted).1.callback = scene.callback := by
  unfold finish
  split
  · exact ⟨rfl, rfl⟩
  · rename_i function target _
    have hcall := Act.callTaken_notGone function target args setup wanted scene.world
    refine ⟨?_, rfl⟩
    dsimp only
    rw [Option.toList_some, List.countP_singleton]
    have hnot : CallOutcome.isGone
        (Act.result (Act.callTaken function target args setup wanted) scene.world) = false := by
      unfold CallOutcome.isGone
      split
      · rename_i hgone
        exact absurd hgone hcall
      · rfl
    rw [hnot]
    rfl

/-- Each use but a setting takes from what may be told. -/
theorem step_gone (scene : CallbackScene) (use : CallbackUse) :
    (scene.step use).2.toList.countP CallOutcome.isGone +
        (scene.step use).1.callback.goneLeft ≤
      scene.callback.goneLeft + if use.isSet then 1 else 0 := by
  unfold step
  split
  · rename_i hallowed
    cases use with
    | clone ref => exact Nat.le_of_eq (Nat.zero_add _)
    | drop ref => exact Nat.le_of_eq (Nat.zero_add _)
    | set wanted =>
      have hleft := (scene.set wanted).callback.goneLeft_le
      change 0 + (scene.set wanted).callback.goneLeft ≤ scene.callback.goneLeft + 1
      omega
    | reset => exact Nat.zero_le _
    | enter => exact enter_gone scene
    | finish args setup wanted =>
      obtain ⟨htold, hcallback⟩ := finish_gone scene args setup wanted
      change (scene.finish args setup wanted).2.toList.countP CallOutcome.isGone +
        (scene.finish args setup wanted).1.callback.goneLeft ≤ scene.callback.goneLeft + 0
      rw [htold, hcallback]
      omega
    | invoke args setup wanted =>
      have hentered := enter_gone scene
      change (scene.invoke args setup wanted).2.toList.countP CallOutcome.isGone +
        (scene.invoke args setup wanted).1.callback.goneLeft ≤ scene.callback.goneLeft + 0
      rw [invoke_eq hallowed]
      split
      · rename_i entered outcome henter
        rw [henter] at hentered
        exact hentered
      · rename_i entered henter
        obtain ⟨htold, hcallback⟩ := finish_gone entered args setup wanted
        rw [henter] at hentered
        rw [htold, hcallback]
        have hnone : 0 + entered.callback.goneLeft ≤ scene.callback.goneLeft := hentered
        omega
  · exact Nat.le_trans (Nat.le_of_eq (Nat.zero_add _)) (Nat.le_add_right _ _)

theorem run_gone (scene : CallbackScene) (uses : List CallbackUse) :
    (scene.run uses).2.countP CallOutcome.isGone + (scene.run uses).1.callback.goneLeft ≤
      scene.callback.goneLeft + uses.countP CallbackUse.isSet := by
  induction uses generalizing scene with
  | nil => exact Nat.le_of_eq (Nat.zero_add _)
  | cons use rest ih =>
    have hfirst := step_gone scene use
    have hrest := ih (scene.step use).1
    change ((scene.step use).2.toList ++ ((scene.step use).1.run rest).2).countP
        CallOutcome.isGone + ((scene.step use).1.run rest).1.callback.goneLeft ≤ _
    rw [List.countP_append, List.countP_cons]
    omega

/-! ### What a callback owns -/

/-- What the handles of the objects below an address come to in a scene. -/
structure Balanced (bound : Nat) (scene : CallbackScene) : Prop where
  /-- A handle of a living object is owned by an object or a hook, or it belongs to the
  callback, to an invocation in progress or to others. -/
  counts : ∀ address < bound, (scene.world.objects.get? address).isSome = true →
    scene.world.objects.strongCount address = scene.world.owed address +
      (handlesIn scene.callback.objects address + handlesIn scene.runningRefs address +
        handlesIn scene.outside address)
  /-- Between invocations a callback has no handle of anything if it holds its target
  weakly, -/
  weak : ∀ ref, scene.running.isNone = true → scene.callback.target = some (.weak ref) →
    ∀ address < bound, (scene.world.objects.get? address).isSome = true →
      scene.world.objects.strongCount address = scene.world.owed address +
        handlesIn scene.outside address
  /-- and exactly one of an object that it holds otherwise. -/
  strong : ∀ ref, scene.running.isNone = true →
    scene.callback.target = some (.strong (.object ref)) →
    ∀ address < bound, (scene.world.objects.get? address).isSome = true →
      scene.world.objects.strongCount address = scene.world.owed address +
        (handlesIn scene.outside address + if ref.address = address then 1 else 0)
  /-- While a weakly held object is called, it lives, and there is one handle more of it. -/
  called : ∀ ref function, scene.callback.target = some (.weak ref) →
    scene.running = some (function, some (.object ref)) → ref.address < bound →
    (scene.world.objects.get? ref.address).isSome = true ∧
      scene.world.objects.strongCount ref.address = scene.world.owed ref.address +
        (handlesIn scene.outside ref.address + 1)
  /-- What is gone has no handles, and nobody has any of it. -/
  gone : ∀ address < bound, scene.world.objects.get? address = none →
    scene.world.objects.strongCount address = 0 ∧ handlesIn scene.held address = 0

/-- The target of an invocation in progress lives. -/
theorem Accounted.isSome_of_running (haccount : scene.Accounted bound) {ref : ObjectRef}
    {function : FunctionRef} (hrunning : scene.running = some (function, some (.object ref)))
    (hbound : ref.address < bound) :
    (scene.world.objects.get? ref.address).isSome = true := by
  refine haccount.kept (List.mem_map_of_mem ?_) hbound
  refine List.mem_append_right _ (List.mem_append_left _ ?_)
  rw [runningRefs_of_running hrunning]
  exact List.mem_singleton_self ref

theorem Accounted.balanced (haccount : scene.Accounted bound) : scene.Balanced bound := by
  have hcounts : ∀ address < bound, (scene.world.objects.get? address).isSome = true →
      scene.world.objects.strongCount address = scene.world.owed address +
        (handlesIn scene.callback.objects address + handlesIn scene.runningRefs address +
          handlesIn scene.outside address) := by
    intro address hbound hlives
    obtain ⟨body, hget⟩ := Option.isSome_iff_exists.mp hlives
    have hall := haccount.counts hbound hget
    have hparts := handlesIn_held scene address
    unfold handlesIn at hparts ⊢
    rw [List.count_nil] at hall
    omega
  refine ⟨hcounts, ?_, ?_, ?_, ?_⟩
  · intro ref hidle htarget address hbound hlives
    have hobjects : scene.callback.objects = [] := by
      unfold Callback.objects
      rw [htarget]
    rw [hcounts address hbound hlives, runningRefs_of_idle hidle, hobjects, handlesIn_nil]
    omega
  · intro ref hidle htarget address hbound hlives
    have hobjects : scene.callback.objects = [ref] := by
      unfold Callback.objects
      rw [htarget]
      rfl
    rw [hcounts address hbound hlives, runningRefs_of_idle hidle, hobjects, handlesIn_cons,
      handlesIn_nil]
    omega
  · intro ref function htarget hrunning hbound
    have hobjects : scene.callback.objects = [] := by
      unfold Callback.objects
      rw [htarget]
    have hlives := haccount.isSome_of_running hrunning hbound
    refine ⟨hlives, ?_⟩
    rw [hcounts _ hbound hlives, hobjects, runningRefs_of_running hrunning, handlesIn_nil]
    change _ + (0 + handlesIn [ref] ref.address + _) = _
    rw [handlesIn_cons, handlesIn_nil, if_pos rfl]
    omega
  · intro address hbound hnone
    exact ⟨Nat.le_zero.mp (haccount.gone hbound hnone), haccount.kept_of_gone hbound hnone⟩

/-- What setting, resetting and invoking a callback come to in a scene. -/
structure Conducts (bound : Nat) (scene : CallbackScene) : Prop where
  /-- A callback that is set is reset before. -/
  set_eq : ∀ wanted, scene.set wanted = scene.reset.set wanted
  /-- It is empty then, and what it had is given up. -/
  reset_eq : scene.reset.callback = .empty ∧ scene.reset.outside = scene.outside ∧
    scene.reset.Balanced bound
  /-- It is bound as its target allows. -/
  unset : (scene.set none).callback = .empty
  plain : ∀ function, (scene.set (some (function, none))).callback = ⟨some function, none⟩
  weak : ∀ function ref, scene.reset.world.executor.supportsWeak (.object ref) = true →
    (scene.set (some (function, some (.object ref)))).callback = ⟨some function, some (.weak ref)⟩
  strong : ∀ function value, scene.reset.world.executor.supportsWeak value = false →
    (scene.set (some (function, some value))).callback = ⟨some function, some (.strong value)⟩
  /-- An empty callback is not invoked. -/
  empty : scene.running.isNone = true → scene.callback.function = none →
    ∀ args setup wanted, scene.invoke args setup wanted = (scene, some (.error .emptyCallback))
  /-- Nor is one whose target is gone, and it is empty from then on. -/
  gone : ∀ function ref, scene.running.isNone = true →
    scene.callback = ⟨some function, some (.weak ref)⟩ → ref.address < bound →
    scene.world.objects.get? ref.address = none →
    ∀ args setup wanted, scene.invoke args setup wanted =
      ({ scene with callback := .empty }, some (.error .targetGone))
  /-- Any other is called between the beginning and the end of its invocation. -/
  invoke_eq : scene.running.isNone = true → ∀ args setup wanted,
    scene.invoke args setup wanted =
      match scene.enter with
      | (entered, some outcome) => (entered, some outcome)
      | (entered, none) => entered.finish args setup wanted
  /-- A target that is held weakly and lives is taken hold of in the beginning, -/
  alive : ∀ function ref, scene.callback = ⟨some function, some (.weak ref)⟩ →
    ref.address < bound → (scene.world.objects.get? ref.address).isSome = true →
    scene.enter = ({ scene with
      world := scene.world.retain [ref]
      running := some (function, some (.object ref)) }, none)
  /-- lives until the end, whatever others do with their handles, -/
  during : ∀ function ref, scene.running = some (function, some (.object ref)) →
    ref.address < bound → ∀ uses : List CallbackUse, uses.all (fun use => !use.isFinish) →
    (scene.run uses).1.running = scene.running ∧
      ((scene.run uses).1.world.objects.get? ref.address).isSome = true
  /-- and is let go in the end, whatever comes of the call. What is told is what the call
  told. -/
  ended : ∀ function target, scene.running = some (function, target) →
    ∀ args setup wanted, (scene.finish args setup wanted).1.running = none ∧
      (scene.finish args setup wanted).1.callback = scene.callback ∧
      (scene.finish args setup wanted).2 =
        some (Act.result (Act.call function target args setup wanted) scene.world).1

theorem set_eq (scene : CallbackScene) (wanted : Option (FunctionRef × Option ScriptValue)) :
    scene.set wanted = scene.reset.set wanted := by
  have hempty : Act.after (Act.resetCallback .empty) scene.reset.world = scene.reset.world :=
    Act.dropObjects_nil _
  unfold set Act.setCallback
  rw [Act.after_bind, Act.result_bind, Act.after_bind, Act.result_bind]
  change _ = CallbackScene.mk (Act.after _ (Act.after (Act.resetCallback .empty)
    scene.reset.world)) (Act.result _ (Act.after (Act.resetCallback .empty)
    scene.reset.world)) _ _
  rw [hempty]
  rfl

/-- An invocation in progress is not disturbed. -/
theorem step_running {use : CallbackUse} (hrunning : scene.running.isSome = true)
    (huse : use.isFinish = false) : (scene.step use).1.running = scene.running := by
  -- the callback is busy, so that only what others do with their handles is possible
  have hbusy : ¬scene.running.isNone = true := by
    rw [Option.isNone_iff_eq_none, ← Option.not_isSome_iff_eq_none]
    exact not_not_intro hrunning
  unfold step
  split
  · rename_i hallowed
    cases use with
    | clone ref => rfl
    | drop ref => rfl
    | set wanted => exact absurd hallowed.1 hbusy
    | reset => exact absurd hallowed hbusy
    | enter => exact absurd hallowed hbusy
    | finish args setup wanted => cases huse
    | invoke args setup wanted => exact absurd hallowed hbusy
  · rfl

theorem run_running (hrunning : scene.running.isSome = true) {uses : List CallbackUse}
    (huses : uses.all (fun use => !use.isFinish)) :
    (scene.run uses).1.running = scene.running := by
  induction uses generalizing scene with
  | nil => rfl
  | cons use rest ih =>
    rw [List.all_cons, Bool.and_eq_true, Bool.not_eq_true'] at huses
    have hfirst := step_running hrunning huses.1
    have hstill : (scene.step use).1.running.isSome = true := hfirst ▸ hrunning
    exact (ih hstill huses.2).trans hfirst

theorem Accounted.conducts (haccount : scene.Accounted bound) : scene.Conducts bound where
  set_eq := scene.set_eq
  reset_eq := ⟨rfl, rfl, (reset_accounted haccount).balanced⟩
  unset := rfl
  plain := fun _ => rfl
  weak := fun function _ hweak => congrArg Prod.fst (Act.bindCallback_weak function hweak)
  strong := fun function _ hstrong => Act.bindCallback_strong function hstrong
  empty := by
    intro hidle hfunction args setup wanted
    rw [scene.invoke_eq hidle, enter_of_empty hfunction]
  gone := by
    intro function ref hidle hcallback hbound hnone args setup wanted
    have hdead : scene.world.objects.isAlive ref.address = false := by
      have hcount := haccount.gone hbound hnone
      rw [List.count_nil] at hcount
      exact decide_eq_false (by omega)
    rw [scene.invoke_eq hidle, enter_of_gone hcallback hdead]
  invoke_eq := scene.invoke_eq
  alive := by
    intro function ref hcallback hbound hlives
    obtain ⟨body, hget⟩ := Option.isSome_iff_exists.mp hlives
    exact enter_of_alive hcallback (decide_eq_true (Heap.strongCount_pos_of_get? hget))
  during := by
    intro function ref hrunning hbound uses huses
    have hsame := run_running (by rw [hrunning]; rfl) huses
    exact ⟨hsame, (run_accounted haccount uses).isSome_of_running (hsame.trans hrunning) hbound⟩
  ended := by
    intro function target hrunning args setup wanted
    unfold finish
    rw [hrunning]
    refine ⟨rfl, rfl, ?_⟩
    cases target with
    | none => rfl
    | some value => rfl

/-- A callback does not own an object that it is bound to and can hold weakly. Whatever
is done with a callback and with the handles that others have, starting from any world
whose handles are accounted for: the handles of all objects stay accounted for, of which
a callback has one if it holds its target strongly and none if it holds it weakly,
but for the time of a call; a callback is set, reset and invoked as it should be; and
that its target is gone is told once at most for each time that it is set. -/
theorem uses_balanced (haccount : scene.Accounted bound) (uses : List CallbackUse) :
    (scene.run uses).1.Balanced bound ∧ (scene.run uses).1.Conducts bound ∧
      (scene.run uses).2.countP CallOutcome.isGone ≤
        scene.callback.goneLeft + uses.countP CallbackUse.isSet := by
  have hreached := run_accounted haccount uses
  have htold := scene.run_gone uses
  exact ⟨hreached.balanced, hreached.conducts, by omega⟩

/-! A widget that is given to a callback. -/

/-- A scene with one widget, which can be held weakly. -/
def widgetScene : CallbackScene :=
  let executor := Executor.standard.registerObject .widget "Widget" true
  let world := World.create ⟨.directory [], []⟩ executor
  ⟨{ world with objects := (world.objects.alloc (.thing "widget")).2 }, .empty,
    [⟨.widget, 1⟩], none⟩

/-- The callback is bound to the widget, whose last other handle goes while it is called. -/
def widgetUses : List CallbackUse :=
  let describe : FunctionRef := ⟨⟨1, "M-1", ⟨[], []⟩, ⟨[]⟩, .nothing⟩, "describe", 0⟩
  [.clone ⟨.widget, 1⟩, .set (some (describe, some (.object ⟨.widget, 1⟩))), .enter,
    .drop ⟨.widget, 1⟩, .finish [] .standard .unit, .invoke [] .standard .unit,
    .invoke [] .standard .unit]

theorem widgetScene_accounted : widgetScene.Accounted 2 where
  objects := Heap.empty_sound.alloc _
  modules := Heap.empty_sound
  next := Nat.le_refl 2
  counts := by
    intro address body hbound hget
    match address, hbound with
    | 0, _ => cases hget
    | 1, _ => rfl
  gone := by
    intro address hbound hnone
    match address, hbound with
    | 0, _ => exact Nat.le_refl 0
    | 1, _ => cases hnone
  kept := by
    intro address hmem _
    obtain rfl := List.mem_singleton.mp hmem
    rfl

theorem uses_balanced_widget :
    widgetScene.Accounted 2 ∧
      (widgetScene.run widgetUses).2 =
        [.ok none, .error .targetGone, .error .emptyCallback] ∧
      (widgetScene.run widgetUses).2.countP CallOutcome.isGone ≤ 1 ∧
      (widgetScene.run widgetUses).1.Balanced 2 := by
  obtain ⟨hbalanced, -, htold⟩ := uses_balanced widgetScene_accounted widgetUses
  exact ⟨widgetScene_accounted, rfl, htold, hbalanced⟩

end CallbackScene

end ScriptHost
