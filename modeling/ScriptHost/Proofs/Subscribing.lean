import ScriptHost.Proofs.Listening
import ScriptHost.Proofs.Turns

/-!
The subscriptions of a game module and the delivery of events. Subscriptions are read off the
index of listeners, each of which is asked for the event that it hears; a delivery asks the index
for the listener that hears the event. Both ways lead to the same listener, for every event and
whatever the annotations of the script are.
-/

namespace ScriptHost

/-! ### What an index says of an event -/

/-- The event that a listener hears is the one that its name and type belong to. -/
theorem ListenerEntry.IsTyped.eventOf?_eq_some_iff {entry : ListenerEntry}
    (htyped : entry.IsTyped) (kind : EventKind) :
    Subscription.eventOf? entry = some kind ↔
      entry.kind.name = kind.listenerName ∧ entry.genericType = kind.genericType? := by
  unfold Subscription.eventOf?
  cases hown : entry.genericType with
  | none =>
      cases kind with
      | builtin event =>
          cases hkind : entry.kind <;> cases event <;>
            simp [EventKind.listenerName, EventKind.genericType?, ListenerKind.eventType?,
              EventType.all, EventType.listener, ListenerKind.name]
      | generic name =>
          cases hkind : entry.kind <;>
            simp [EventKind.genericType?, ListenerKind.eventType?, EventType.all,
              EventType.listener]
  | some eventType =>
      have hgeneric : entry.kind = .generic := htyped.mp (by rw [hown]; rfl)
      rw [hgeneric]
      cases kind with
      | builtin event =>
          simp [EventKind.genericType?, ListenerKind.eventType?, EventType.all,
            EventType.listener]
      | generic name =>
          simp [EventKind.listenerName, EventKind.genericType?, ListenerKind.eventType?,
            EventType.all, EventType.listener]

/-- A delivery asks for no listener by a key that another query has. -/
theorem ListenerEntry.not_shadows (entry : ListenerEntry) (kind : EventKind) :
    ¬ entry.Shadows kind.listenerName kind.genericType? := by
  rintro ⟨eventType, -, ⟨hsame, hname⟩ | ⟨-, hname⟩⟩
  · cases kind with
    | builtin event => cases hsame
    | generic name => exact hname rfl
  · cases kind with
    | builtin event => exact event.listener.name_ne_key _ _ hname
    | generic name => exact ListenerKind.generic.name_ne_key _ _ hname

namespace ListenerIndex.Keyed

variable {index : ListenerIndex} {compiled : Compiled}

/-- The listener that an event is delivered to is the one that hears it. -/
theorem find?_event (hkeyed : index.Keyed compiled) (kind : EventKind) (entry : ListenerEntry) :
    index.find? kind.listenerName kind.genericType? = some entry ↔
      entry ∈ index.list ∧ Subscription.eventOf? entry = some kind := by
  rw [hkeyed.find?_eq_some_iff]
  refine and_congr_right fun hentry => ?_
  have htyped := hkeyed.typed_of_mem hentry
  rw [htyped.key_eq_iff, htyped.eventOf?_eq_some_iff]
  exact or_iff_left (entry.not_shadows kind)

/-- No two listeners hear the same event. -/
theorem subscriptions_nodup (hkeyed : index.Keyed compiled) :
    ((Subscription.ofListeners index.list).map Subscription.event).Nodup := by
  have hkeys : index.list.Pairwise fun first second => first.key ≠ second.key := by
    have hdistinct := hkeyed.distinct
    unfold Table.keys List.Nodup at hdistinct
    rw [List.pairwise_map] at hdistinct
    unfold list
    rw [List.pairwise_map]
    refine hdistinct.imp_of_mem fun hfirst hsecond hne => ?_
    rwa [← hkeyed.own _ hfirst, ← hkeyed.own _ hsecond]
  unfold Subscription.ofListeners List.Nodup
  rw [List.pairwise_map, List.pairwise_filterMap]
  refine hkeys.imp_of_mem fun {first second} hfirst hsecond hne => ?_
  intro earlier hearlier later hlater hsame
  obtain ⟨event, hevent, rfl⟩ := Option.map_eq_some_iff.mp hearlier
  obtain ⟨other, hother, rfl⟩ := Option.map_eq_some_iff.mp hlater
  obtain rfl : event = other := hsame
  have hfound := (hkeyed.find?_event event first).mpr ⟨hfirst, hevent⟩
  rw [(hkeyed.find?_event event second).mpr ⟨hsecond, hother⟩] at hfound
  exact hne (congrArg ListenerEntry.key (Option.some.inj hfound).symm)

/-- The subscriptions to an event are those of the listener that it is delivered to. -/
theorem mem_subscriptions (hkeyed : index.Keyed compiled) (subscription : Subscription) :
    subscription ∈ Subscription.ofListeners index.list ↔
      ∃ entry, index.find? subscription.event.listenerName subscription.event.genericType? =
          some entry ∧
        subscription.listener = entry.kind ∧ subscription.function = entry.function.name := by
  unfold Subscription.ofListeners
  rw [List.mem_filterMap]
  constructor
  · rintro ⟨entry, hentry, hsubscription⟩
    obtain ⟨event, hevent, rfl⟩ := Option.map_eq_some_iff.mp hsubscription
    exact ⟨entry, (hkeyed.find?_event event entry).mpr ⟨hentry, hevent⟩, rfl, rfl⟩
  · rintro ⟨entry, hfound, hlistener, hfunction⟩
    obtain ⟨hentry, hevent⟩ := (hkeyed.find?_event _ entry).mp hfound
    refine ⟨entry, hentry, ?_⟩
    unfold Subscription.ofListener?
    rw [hevent, Option.map_some, ← hlistener, ← hfunction]

/-- There is a subscription to an event if and only if there is a listener to deliver it to. -/
theorem any_subscriptions (hkeyed : index.Keyed compiled) (kind : EventKind) :
    (Subscription.ofListeners index.list).any (·.event == kind) =
      (index.find? kind.listenerName kind.genericType?).isSome := by
  rw [Bool.eq_iff_iff, List.any_eq_true, Option.isSome_iff_exists]
  constructor
  · rintro ⟨subscription, hsubscription, hevent⟩
    obtain ⟨entry, hfound, -, -⟩ := (hkeyed.mem_subscriptions subscription).mp hsubscription
    obtain rfl := eq_of_beq hevent
    exact ⟨entry, hfound⟩
  · rintro ⟨entry, hfound⟩
    exact ⟨⟨kind, entry.kind, entry.function.name⟩,
      (hkeyed.mem_subscriptions _).mpr ⟨entry, hfound, rfl, rfl⟩, beq_self_eq_true kind⟩

end ListenerIndex.Keyed

/-! ### The index that a module has -/

/-- The listeners that are noted of a module are those of its compiled script. -/
def ScriptModule.Indexed (module : ScriptModule) : Prop :=
  ∀ index, module.listeners = some index →
    ∃ compiled, module.compiled = some compiled ∧ index = (ListenerIndex.build compiled).1

namespace ScriptModule

variable {module edited : ScriptModule}

theorem Indexed.edit (hindexed : module.Indexed) (hedit : module.Edit edited) :
    edited.Indexed := by
  intro index hindex
  rw [hedit.compiled]
  rcases hedit.listeners with hsame | ⟨compiled, hcompiled, hbuilt⟩
  · exact hindexed index (hsame ▸ hindex)
  · rw [hbuilt] at hindex
    cases hindex
    exact ⟨compiled, hcompiled, rfl⟩

theorem Indexed.turn {running : Bool} (hindexed : module.Indexed)
    (hturn : Turn running module edited) : edited.Indexed := by
  cases hturn with
  | stay => exact hindexed
  | edit hedit => exact hindexed.edit hedit
  | _ =>
      intro index hindex
      cases hindex

end ScriptModule

/-- Whether the listeners that are noted of modules are those of their compiled scripts. -/
def Scripts.Indexed (scripts : Scripts) : Prop :=
  ∀ address module, scripts.module? address = some module → module.Indexed

theorem Scripts.Changes.indexed {may : Touch → Prop} {before after : Scripts}
    (hchanges : Changes may before after) (hbefore : before.Indexed) : after.Indexed := by
  refine hchanges.modules (fun id name source index hindex => ?_)
    (fun running module turned hindexed hturn => hindexed.turn hturn) hbefore
  cases hindex

theorem Session.begin_run_indexed (files : FileTree) (plan : ExecutorPlan) (steps : List Step) :
    ((begin files plan).run steps).world.scripts.Indexed := by
  refine (run_changes (begin_sound files plan) steps).indexed ?_
  intro address module hmodule
  cases hmodule

namespace Act

open World

variable {held : Holdings} {world : World} {script place : Nat}

/-- Whether a module is built does not depend on objects. -/
theorem result_build_withObjects (script : Nat) (objects : Heap ObjectBody) (world : World) :
    result (build script) { world with objects := objects } = result (build script) world := by
  unfold build
  rw [result_get_bind, result_get_bind]
  have hmodule : World.module? { world with objects := objects } script = world.module? script :=
    rfl
  rw [hmodule]
  cases world.module? script with
  | none => rfl
  | some module =>
      have hrunning : isRunning { world with objects := objects } = world.isRunning := rfl
      dsimp only
      rw [hrunning]
      cases module.state with
      | built =>
          cases module.compiled with
          | none => rfl
          | some compiled =>
              dsimp only
              cases world.isRunning && world.executor.isCompiled module.internalName <;> rfl
      | readyToBuild =>
          cases world.isRunning with
          | false => rfl
          | true =>
              simp only [if_true]
              unfold compileModule
              rw [result_get_bind, result_get_bind]
              dsimp only
              cases (module.compile world.executor world.files).1 <;> rfl
      | _ => rfl

/-- The listeners of a module are those of what it is built to, if it is. -/
theorem result_listenerIndex (hworld : world.Sound held) (hindexed : world.scripts.Indexed)
    (script : Nat) : result (listenerIndex script) world =
      (result (build script) world).map fun compiled => (ListenerIndex.build compiled).1 := by
  have hbuild := build_reaches hworld (within_ordinary script world) trivial
  unfold listenerIndex
  rw [result_bind]
  cases hcompiled : result (build script) world with
  | none => rfl
  | some compiled =>
      obtain ⟨module, hmodule, hown, -, -⟩ := build_result hcompiled
      dsimp only
      rw [result_get_bind, hmodule, Option.bind_some, Option.map_some]
      cases hlisteners : module.listeners with
      | none => rfl
      | some index =>
          obtain ⟨other, hother, rfl⟩ :=
            hbuild.changes.indexed hindexed script module hmodule index hlisteners
          rw [hown, Option.some.injEq] at hother
          rw [hother]
          rfl

/-- The listeners of a module do not depend on whether a game module is at hand. -/
theorem result_listenerIndex_selfValue (hworld : world.Sound held)
    (hindexed : world.scripts.Indexed) (script place : Nat) :
    result (listenerIndex script) (after (selfValue place) world) =
      result (listenerIndex script) world := by
  have hquiet := selfValue_isQuiet place world
  have hself : (after (selfValue place) world).Sound held :=
    (hquiet.reaches hworld : world.Reaches held Touch.ordinary _).sound
  rw [result_listenerIndex hworld hindexed,
    result_listenerIndex hself (hquiet.scripts ▸ hindexed)]
  congr 1
  unfold selfValue
  rw [after_get_bind]
  split
  · exact result_build_withObjects script _ world
  · rfl

end Act

/-! ### Subscriptions and deliveries -/

/-- Whether an event came to a listener, which may have failed. -/
def EventOutcome.Heard (outcome : Except InvokeError EventOutcome) : Prop :=
  outcome ≠ .ok .noListener ∧ outcome ≠ .ok .noScript

/-- The call of a function of a script module with an event and the game module, once the listeners
of the script module are known. -/
def Act.callListener (place script : Nat) (event : Event) (function : FunctionRef) :
    Act (Except InvokeError (Option NativeValue)) := do
  let self ← selfValue place
  let _ ← listenerIndex script
  retain (event.payload.flatMap fun item => item.2.objects)
  let occasion ← allocate .event (.event event)
  invoke function [.object occasion, self] .standard .script

/-- Whether an event that is fired at a game module is a call of the function and nothing else. -/
def World.Delivers (world : World) (place script : Nat) (event : Event)
    (function : FunctionRef) : Prop :=
  (Act.result (Act.fire place event) world).1 =
      (Act.result (Act.callListener place script event function) world).map
        (fun _ => .handled) ∧
    Act.after (Act.fire place event) world =
      Act.after (Act.callListener place script event function) world

/-- An event that is a call of a function came to a listener. -/
theorem World.Delivers.heard {world : World} {place script : Nat} {event : Event}
    {function : FunctionRef} (hdelivers : world.Delivers place script event function) :
    EventOutcome.Heard (Act.result (Act.fire place event) world).1 := by
  unfold EventOutcome.Heard
  rw [hdelivers.1]
  cases Act.result (Act.callListener place script event function) world <;>
    simp [Except.map]

namespace Act

open World

variable {held : Holdings} {world : World} {script place : Nat}

/-- The subscriptions of a game module are read off the listeners of its script module. -/
theorem result_subscriptions
    (hscript : (world.game? place).bind GameModule.script = some script) :
    result (subscriptions place) world = Subscription.ofListeners
      (((result (listenerIndex script) world).map ListenerIndex.list).getD []) := by
  unfold subscriptions
  rw [result_get_bind, hscript]
  rfl

/-- No event comes to a game module without a script. -/
theorem fire_of_bare (hscript : (world.game? place).bind GameModule.script = none)
    (event : Event) : (result (fire place event) world).1 = .ok .noScript := by
  unfold fire
  rw [result_get_bind, hscript]
  rfl

/-- An event that no listener is found for is not delivered. -/
theorem fire_of_unfound (hworld : world.Sound held) (hindexed : world.scripts.Indexed)
    (hscript : (world.game? place).bind GameModule.script = some script) {event : Event}
    (hfound : (result (listenerIndex script) world).bind
      (·.find? event.kind.listenerName event.kind.genericType?) = none) :
    (result (fire place event) world).1 = .ok .noListener := by
  have hfind : result (findListener script event.kind.listenerName event.kind.genericType?)
      (after (selfValue place) world) = none := by
    rw [← hfound, ← result_listenerIndex_selfValue hworld hindexed script place]
    rfl
  unfold fire
  rw [result_get_bind, hscript]
  unfold deliver
  simp only [result_bind, hfind, result_pure]

/-- An event that a listener is found for is a call of the function of that. -/
theorem fire_of_found (hworld : world.Sound held) (hindexed : world.scripts.Indexed)
    (hscript : (world.game? place).bind GameModule.script = some script) {event : Event}
    {entry : ListenerEntry} (hfound : (result (listenerIndex script) world).bind
      (·.find? event.kind.listenerName event.kind.genericType?) = some entry) :
    world.Delivers place script event entry.function := by
  have hfind : result (findListener script event.kind.listenerName event.kind.genericType?)
      (after (selfValue place) world) = some entry := by
    rw [← hfound, ← result_listenerIndex_selfValue hworld hindexed script place]
    rfl
  constructor
  · unfold fire
    rw [result_get_bind, hscript]
    unfold deliver
    simp only [result_bind, hfind, result_pure]
    rfl
  · unfold fire
    rw [after_get_bind, hscript]
    unfold deliver
    simp only [after_bind, hfind, after_pure]
    rfl

/-- The listener that an event is delivered to at a game module. -/
theorem fire_heard_iff (hworld : world.Sound held) (hindexed : world.scripts.Indexed)
    (hscript : (world.game? place).bind GameModule.script = some script) (event : Event) :
    EventOutcome.Heard (result (fire place event) world).1 ↔
      ((result (listenerIndex script) world).bind
        (·.find? event.kind.listenerName event.kind.genericType?)).isSome = true := by
  cases hfound : (result (listenerIndex script) world).bind
      (·.find? event.kind.listenerName event.kind.genericType?) with
  | none =>
      rw [fire_of_unfound hworld hindexed hscript hfound]
      simp [EventOutcome.Heard]
  | some entry =>
      exact iff_of_true (fire_of_found hworld hindexed hscript hfound).heard rfl

/-- A game module with a script is not told that there is none. -/
theorem fire_ne_noScript (hworld : world.Sound held) (hindexed : world.scripts.Indexed)
    (hscript : (world.game? place).bind GameModule.script = some script) (event : Event) :
    (result (fire place event) world).1 ≠ .ok .noScript := by
  cases hfound : (result (listenerIndex script) world).bind
      (·.find? event.kind.listenerName event.kind.genericType?) with
  | none =>
      rw [fire_of_unfound hworld hindexed hscript hfound]
      simp
  | some entry => exact (fire_of_found hworld hindexed hscript hfound).heard.2

end Act

namespace Session

open Act

variable (files : FileTree) (plan : ExecutorPlan) (steps : List Step)

/-- Subscriptions agree with deliveries, whatever steps were taken. A game module is subscribed to an
event if and only if the event, whatever its payload is, comes to a listener when it is fired at the
module. The subscription names the function that is called then, and there is one for each event at
most. -/
theorem subscribed_iff_heard (place : Nat) (kind : EventKind)
    (payload : Table String ScriptValue) :
    let world := ((begin files plan).run steps).world
    let found := result (subscriptions place) world
    let outcome := (result (fire place ⟨kind, payload⟩) world).1
    (found.any (·.event == kind) = true ↔ EventOutcome.Heard outcome) ∧
      (outcome = .ok .noScript ↔ (world.game? place).bind GameModule.script = none) ∧
      (found.map Subscription.event).Nodup ∧
      ∀ subscription ∈ found, subscription.event = kind →
        ∃ script function, (world.game? place).bind GameModule.script = some script ∧
          function.name = subscription.function ∧
          world.Delivers place script ⟨kind, payload⟩ function := by
  intro world found outcome
  have hworld : world.Sound ((begin files plan).run steps).held :=
    begin_run_sound files plan steps
  have hindexed : world.scripts.Indexed := begin_run_indexed files plan steps
  cases hscript : (world.game? place).bind GameModule.script with
  | none =>
      have houtcome : outcome = .ok .noScript := fire_of_bare hscript _
      have hnone : found = [] := by
        unfold found subscriptions
        rw [result_get_bind, hscript]
        rfl
      rw [houtcome, hnone]
      simp [EventOutcome.Heard]
  | some script =>
      have hfound : found = Subscription.ofListeners
          (((result (listenerIndex script) world).map ListenerIndex.list).getD []) :=
        result_subscriptions hscript
      have hheard := fire_heard_iff hworld hindexed hscript ⟨kind, payload⟩
      have hbare : outcome = .ok .noScript ↔ some script = none :=
        iff_of_false (fire_ne_noScript hworld hindexed hscript _) nofun
      cases hlisteners : result (listenerIndex script) world with
      | none =>
          rw [hlisteners] at hfound hheard
          rw [hfound, hheard]
          exact ⟨.rfl, hbare, .nil, nofun⟩
      | some index =>
          obtain ⟨compiled, hkeyed⟩ : ∃ compiled, index.Keyed compiled := by
            rw [result_listenerIndex hworld hindexed script] at hlisteners
            obtain ⟨compiled, -, rfl⟩ := Option.map_eq_some_iff.mp hlisteners
            exact ⟨compiled, ListenerIndex.build_keyed compiled⟩
          rw [hlisteners] at hfound hheard
          rw [hfound, hheard]
          refine ⟨?_, hbare, hkeyed.subscriptions_nodup, fun subscription hmem hkind => ?_⟩
          · rw [Option.map_some, Option.getD_some, hkeyed.any_subscriptions kind]
            rfl
          · obtain ⟨entry, hentry, -, hfunction⟩ :=
              (hkeyed.mem_subscriptions subscription).mp hmem
            rw [hkind] at hentry
            exact ⟨script, entry.function, rfl, hfunction.symm,
              fire_of_found hworld hindexed hscript (by rw [hlisteners]; exact hentry)⟩

end Session

end ScriptHost
