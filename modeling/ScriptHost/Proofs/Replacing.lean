import ScriptHost.Proofs.Handling
import ScriptHost.Proofs.Raising
import ScriptHost.Proofs.Rebuilding

/-!
Script modules that are built anew. The game module whose hooks a script module has hears the
release event from the old compiled script, and then the init event from the new one, if there
is one; a script module that cannot be built again has failed, and nobody hears of it any more.
-/

namespace ScriptHost

/-- What the hooks of a script module have noted for an event, which is heard from a compiled
script. -/
def ScriptModule.calls (module : ScriptModule) (address : Nat) (event : EventType)
    (compiled : Option Compiled) : List Delivery :=
  match module.hooks with
  | some (.game place) => [⟨place, address, event, compiled⟩]
  | _ => []

theorem ScriptModule.calls_of_game {module : ScriptModule} {place : Nat}
    (hhooks : module.hooks = some (.game place)) (address : Nat) (event : EventType)
    (compiled : Option Compiled) :
    module.calls address event compiled = [⟨place, address, event, compiled⟩] := by
  simp [calls, hhooks]

/-- Nobody hears of a script module without the hooks of a game module. -/
theorem ScriptModule.calls_of_other {module : ScriptModule}
    (hhooks : ∀ place, module.hooks ≠ some (.game place)) (address : Nat) (event : EventType)
    (compiled : Option Compiled) : module.calls address event compiled = [] := by
  unfold calls
  split
  · rename_i place hgame
    exact absurd hgame (hhooks place)
  · rfl

namespace Act

open World

variable {held : Holdings} {base world : World} {address : Nat} {module : ScriptModule}
  {lent : List Nat}

/-- A lifecycle listener is run, which the hooks note before. -/
theorem fireHooks_deliveries (module : ScriptModule) (address : Nat) (event : EventType)
    (world : World) :
    (after (fireHooks address module.hooks event) world).deliveries =
      module.calls address event (world.usable? address) ++ world.deliveries := by
  cases hhooks : module.hooks with
  | none =>
      rw [ScriptModule.calls_of_other (by simp [hhooks])]
      rfl
  | some hooks =>
      have hrun : ∀ ready : World, (after (do
          let args ← hookArgs hooks event
          let owned ← fireLifecycle address event.listener args
          return owned ++ (args.flatMap NativeValue.objects).map Owned.object) ready).deliveries =
            ready.deliveries :=
        IsSilent.bind (hookArgs_isSilent hooks event) fun args =>
          .bind (fireLifecycle_isSilent address event.listener args) fun _ => .pure _
      unfold fireHooks
      dsimp only
      rw [after_bind, hrun]
      cases hooks with
      | given release init =>
          rw [ScriptModule.calls_of_other (by simp [hhooks])]
          rfl
      | game place =>
          rw [ScriptModule.calls_of_game hhooks]
          rfl

/-- A script module that is ready is built under the name and with the hooks that it has. -/
theorem build_keeps_hooks (hmodule : world.module? address = some module)
    (hready : module.state = .readyToBuild) (hrunning : world.isRunning = true)
    {built : ScriptModule} (hbuilt : (after (build address) world).module? address = some built) :
    built.hooks = module.hooks ∧ built.internalName = module.internalName := by
  rcases build_ready hmodule hready hrunning with
    ⟨err, -, -, hfound⟩ | ⟨compiled, files, -, -, hfound⟩
  · cases hbuilt.symm.trans hfound
    exact ⟨rfl, rfl⟩
  · cases hbuilt.symm.trans hfound
    exact ⟨rfl, rfl⟩

/-- A built script module is built anew: it has its hooks and its next name. What its hooks have
noted is the release event, heard from the compiled script that it had if this could be used,
and the init event, heard from the new one, unless it has failed. -/
theorem reload_hears (hworld : world.Sound held) (hmodule : world.module? address = some module)
    (hbuilt : module.state = .built) (hrunning : world.isRunning = true) :
    ∃ left, (after (reload address) world).module? address = some left ∧
      left.hooks = module.hooks ∧ left.internalName = module.internalName ++ "R" ∧
      ((left.state = .built ∧ ∃ fresh, left.compiled = some fresh ∧
          (after (reload address) world).deliveries =
            module.calls address .init (some fresh) ++
              (module.calls address .release (world.usable? address) ++ world.deliveries)) ∨
        (left.state = .failed ∧ (after (reload address) world).deliveries =
          module.calls address .release (world.usable? address) ++ world.deliveries)) := by
  let ready := readied address module world
  have hsettled : world.Settled ready := readied_settled address module world
  have hready : ready.module? address = some (module.renewed world.files) :=
    readied_module? hworld hmodule hbuilt hrunning
  have hstill : ready.isRunning = true := hsettled.isRunning.trans hrunning
  have hnoted : (after (build address) ready).deliveries =
      module.calls address .release (world.usable? address) ++ world.deliveries :=
    (build_isSilent address ready).trans
      ((renew_isSilent address _).trans (fireHooks_deliveries module address .release world))
  have hkept : ∀ {built}, (after (build address) ready).module? address = some built →
      built.hooks = module.hooks ∧ built.internalName = module.internalName ++ "R" :=
    build_keeps_hooks hready rfl hstill
  rw [(reload_of_built hmodule hbuilt hrunning).2]
  rw [← hsettled.files] at hready
  rcases build_renewed hready hstill with
    ⟨fresh, built, hresult, hfound, hown, hstate, -, hentered⟩ |
      ⟨failed, hresult, hfound, hstate, -⟩
  · obtain ⟨hhooks, hname⟩ := hkept hfound
    let counted := (after (build address) ready).withExecutor
      fun executor => { executor with reloads := executor.reloads + 1 }
    have hcounted : counted.isRunning = true :=
      (build_isSteady address ready).settled.isRunning.trans hstill
    have hthere : counted.module? address = some built := hfound
    obtain ⟨listeners, hstarted⟩ :=
      fireHooks_of_live hthere hown hstate hcounted hentered module.hooks .init
    have husable : counted.usable? address = some fresh := by
      have hlive : counted.executor.isCompiled built.internalName = true := hentered
      simp [World.usable?, hthere, hstate, hcounted, hlive, hown]
    have hheard := fireHooks_deliveries built address .init counted
    rw [hhooks, husable] at hheard
    rw [hresult, if_pos Option.isSome_some]
    refine ⟨built.listening listeners, ?_, hhooks, hname, .inl ⟨hstate, fresh, hown, ?_⟩⟩
    · exact (congrFun (congrArg Scripts.module? hstarted) address).trans
        (Scripts.module?_put_self _ _ _)
    · have hsame : built.calls address .init (some fresh) =
          module.calls address .init (some fresh) := by
        simp [ScriptModule.calls, hhooks]
      rw [hheard, hsame]
      exact congrArg _ hnoted
  · obtain ⟨hhooks, hname⟩ := hkept hfound
    rw [hresult, if_neg (by simp)]
    exact ⟨failed, hfound, hhooks, hname, .inr ⟨hstate, hnoted⟩⟩

/-! ### The handles that come up -/

/-- Nothing is delivered where handles are dropped that have been handed out. -/
theorem dropSome_silent {refs : List ObjectRef}
    (hkeeps : base.Keeps world (refs.map ObjectRef.address ++ lent)) :
    (after (dropSome (refs.map Owned.object)) world).deliveries = world.deliveries := by
  induction refs generalizing world with
  | nil => rfl
  | cons ref refs ih =>
      obtain ⟨hresult, -, hrest⟩ := dropOne_keeps hkeeps
      have hsilent : (after (dropOne (.object ref)) world).deliveries = world.deliveries := by
        obtain ⟨-, hbare⟩ := hkeeps.objects.release
        unfold dropOne
        rw [after_get_bind]
        dsimp only
        rw [after_bind, after_set]
        cases hbody : (world.objects.release ref.address).2 with
        | none => rfl
        | some body =>
            cases body with
            | thing label => rfl
            | event occasion => rfl
            | game game => exact (hbare _ hbody).elim
      rw [List.map_cons, (dropSome_cons hresult).2, ih hrest, hsilent]

/-- What is left of a world in which a script module has been reloaded and the handles that
came up have been dropped. -/
structure Recasts (address : Nat) (before after : World) : Prop where
  objects : before.objects.Holds after.objects []
  continues : before.Continues after
  scripts : after.scripts = (Act.after (reload address) before).scripts
  deliveries : after.deliveries = (Act.after (reload address) before).deliveries

/-- The executor is there as before. -/
theorem Recasts.running {after : World} (hrecasts : Recasts address world after)
    (hrunning : world.isRunning = true) : after.isRunning = true :=
  (congrArg Scripts.running hrecasts.scripts).trans
    ((reload_settled address world).isRunning.trans hrunning)

theorem reload_recasts (hworld : world.Sound held) (address : Nat) :
    Recasts address world (after (dropAll (result (reload address) world).2)
      (after (reload address) world)) := by
  obtain ⟨refs, hrefs, hkeeps⟩ := reload_keeps address (.refl hworld.objects)
  obtain ⟨hresult, hquiet, hkept⟩ := dropSome_keeps hkeeps
  rw [hrefs, dropAll_of_dropSome hresult]
  exact ⟨hkept.objects, hkept.continues, hquiet.scripts, dropSome_silent hkeeps⟩

/-- A handle of the script module is dropped after the others, of which there are more. -/
theorem reload_dropped_recasts (hworld : world.Sound held)
    (hcount : 2 ≤ world.modules.strongCount address) :
    Recasts address world (after (dropAll ((result (reload address) world).2 ++ [.module address]))
      (after (reload address) world)) := by
  obtain ⟨refs, hrefs, hkeeps⟩ := reload_keeps address (.refl hworld.objects)
  obtain ⟨hresult, hquiet, hkept⟩ := dropSome_keeps hkeeps
  have hreloaded : world.Reaches held (Touch.only address) (after (reload address) world) :=
    reload_reaches hworld (fun _ _ => rfl) rfl
  have hmodules := hquiet.modules ▸ hreloaded.sound.modules
  have hmany : 2 ≤ (after (dropSome (refs.map Owned.object))
      (after (reload address) world)).modules.strongCount address := by
    rw [hquiet.modules, (reload_settled address world).counts]
    exact hcount
  obtain ⟨hlast, hafter⟩ := dropSome_module hmodules hmany
  obtain ⟨hnone, hall⟩ : result (dropSome (refs.map Owned.object ++ [.module address])) _ = _ ∧ _ :=
    dropSome_append hresult
  have hsame : (after (dropSome (refs.map Owned.object ++ [.module address]))
      (after (reload address) world)).scripts = (after (reload address) world).scripts := by
    rw [hall, hafter]
    refine (scripts_of_modules _ (fun other => ?_) (Heap.next_release _ address)).trans
      hquiet.scripts
    refine (hmodules.get?_release address other).trans (if_neg ?_)
    rintro ⟨-, hone⟩
    omega
  rw [hrefs, dropAll_of_dropSome (hnone.trans hlast)]
  refine ⟨?_, ?_, hsame, ?_⟩
  · rw [hall, hafter]
    exact hkept.objects
  · rw [hall, hafter]
    exact ⟨hkept.files, hkept.rules, hkept.continues.serial⟩
  · rw [hall, hafter]
    exact dropSome_silent hkeeps

end Act

/-- The outset of a time in which script modules are reloaded, and game modules are initialized
more than once. No game module was there before, and no script module had hooks of one. -/
structure Outset.Cyclic (outset : Outset) : Prop where
  again : ¬ outset.once
  may : ∀ touch, outset.may touch
  games : ∀ place game, outset.objects.get? place ≠ some (.game game)
  unhooked : ∀ {script module place}, outset.scripts.module? script = some module →
    module.hooks ≠ some (.game place)

namespace World

open Delivery

variable {outset : Outset} {making unheard lent : List Nat} {since more : List Delivery}
  {held : Holdings} {before after : World} {place script : Nat} {game : GameModule}
  {module left : ScriptModule}

/-- The script module of an initialized game module is built anew, and the game module hears
of it. -/
theorem Grows.rebuilds (hgrows : before.Grows outset making unheard lent since)
    (hbefore : before.scripts.Consistent) (hrunning : after.isRunning = true)
    (honce : ¬ outset.once) (hnew : outset.New before place game)
    (hinit : game.initialized = true) (hscript : game.script = some script)
    (hmodule : before.module? script = some module) (hliving : module.state.isTerminal = false)
    (hobjects : before.objects.Holds after.objects [])
    (hchanges : Scripts.Changes (Touch.working (Scripts.Alone script module.id))
      before.scripts after.scripts)
    (hrecorded : after.deliveries = more ++ before.deliveries)
    (hmore : ∀ delivery ∈ more, delivery.game = place ∧ delivery.script = script)
    (halternates : Alternates (heard place (more ++ since)))
    (hspeaks : after.Speaks (more ++ since) place game) :
    after.Grows outset making unheard lent (more ++ since) := by
  have hgames := game?_of_holds hobjects
  have hhas : outset.Has before place script := ⟨game, hnew, hscript⟩
  have helsewhere : Elsewhere outset before after place := by
    refine ⟨fun other _ => hgames other, fun other own hne howner => ?_⟩
    refine hchanges.module?_spared fun number hmay => hne ?_
    exact hgrows.assigned.apart (hmay.1 ▸ howner) hhas
  have hvoice : after.Voice outset making unheard (more ++ since) place :=
    (hgrows.voiced.voices place).reloads hnew hinit ((hgames place).trans hnew.1) honce
      halternates hspeaks
  obtain ⟨own, left, hown, hleft, hhooks, hstate⟩ := hspeaks
  rw [hscript] at hown
  cases hown
  refine
    { tallies := hgrows.tallies.holds hobjects
      assigned := (hgrows.assigned.works hbefore hrunning hhas hmodule hchanges
        ⟨left, hleft, ?_, fun hooks hsome => ?_⟩).congr (Outset.has_congr hgames)
      voiced := hgrows.voiced.advance hbefore hobjects.next (hchanges.mono fun _ _ => trivial)
        hrecorded (fun delivery hmem => ?_) (helsewhere.voices hgrows.voiced (fun _ _ => id)
          (fun _ _ => id) (fun delivery hmem => (hmore delivery hmem).1) hvoice) }
  · rcases hstate with ⟨hbuilt, -⟩ | ⟨hfailed, -⟩
    · simp [hbuilt]
    · simp [hfailed]
  · rw [hhooks] at hsome
    exact (Option.some.inj hsome).symm
  · obtain ⟨hplace, hspoken⟩ := hmore delivery hmem
    refine ⟨hplace ▸ hnew.2, hplace ▸ ?_, module, hspoken ▸ hmodule, hliving⟩
    exact Nat.lt_of_lt_of_le (hgrows.lt_next hnew.1) hobjects.next

/-- A script module is built anew that was there before, and nobody hears of it. -/
theorem Grows.spares (hgrows : before.Grows outset making unheard lent since)
    (hbefore : before.scripts.Consistent) (hrunning : after.isRunning = true)
    (hold : script < outset.scripts.next) (hmodule : before.module? script = some module)
    (hmay : ∀ touch, outset.may touch) (hobjects : before.objects.Holds after.objects [])
    (hchanges : Scripts.Changes (Touch.working (Scripts.Alone script module.id))
      before.scripts after.scripts)
    (hhooks : ∀ left, after.module? script = some left → left.hooks = module.hooks)
    (hsilent : after.deliveries = before.deliveries) :
    after.Grows outset making unheard lent since := by
  have hgames := game?_of_holds hobjects
  refine
    { tallies := hgrows.tallies.holds hobjects
      assigned := (hgrows.assigned.spares hbefore hrunning hold hmodule hchanges
        (fun touch _ => hmay touch) hhooks).congr (Outset.has_congr hgames)
      voiced := hgrows.voiced.silent hbefore hobjects.next (hchanges.mono fun _ _ => trivial)
        hsilent fun place => (hgrows.voiced.voices place).works (hgames place) ?_ }
  intro game own found hnew _ hscript hfound
  have hfirst := (hgrows.assigned.owned ⟨game, hnew, hscript⟩).1
  have hspared : after.module? own = before.module? own :=
    hchanges.module?_spared fun number hmay =>
      absurd (hmay.1 ▸ hold) (Nat.not_lt.mpr hfirst)
  exact ⟨found, hspared.trans hfound, rfl, rfl, rfl⟩

/-- What a reload leaves of what game modules have heard: the release event comes from the
compiled script that has been told the init event, and the init event from the next one. -/
theorem rebuilt_alternates {history : List Delivery} {compiled fresh : Compiled}
    (halternates : Alternates history) (hopened : Opened history script compiled)
    (hname : fresh.internalName = compiled.internalName ++ "R") :
    Alternates (⟨place, script, .init, some fresh⟩ ::
      ⟨place, script, .release, some compiled⟩ :: history) := by
  refine ⟨.init fresh rfl rfl (closed_cons rfl) ?_, .release compiled rfl rfl hopened, halternates⟩
  intro last hlast _ old hold
  cases hlast
  cases hold
  exact hname

/-- Nothing becomes of a script module that is not built. -/
theorem Grows.still (hgrows : before.Grows outset making unheard lent since)
    (hbefore : before.scripts.Consistent) (hobjects : before.objects.Holds after.objects [])
    (hscripts : after.scripts = before.scripts) (hsilent : after.deliveries = before.deliveries) :
    after.Grows outset making unheard lent since :=
  hgrows.of_tallies hbefore (hgrows.tallies.holds hobjects) hobjects.next
    (game?_of_holds hobjects) hscripts hsilent

/-- A game module with a built script module is initialized, and the init event that it has
heard last came from this. -/
theorem Grows.listens (hgrows : before.Grows outset [] unheard lent since)
    (hnew : outset.New before place game) (hscript : game.script = some script)
    (hmodule : before.module? script = some module) (hbuilt : module.state = .built) :
    game.initialized = true ∧ module.hooks = some (.game place) ∧ ∃ compiled,
      module.compiled = some compiled ∧ Opened (heard place since) script compiled := by
  have hvoice := hgrows.voiced.voices place
  have hinit : game.initialized = true := by
    by_contra hidle
    have hnone := (hvoice.idle hnew List.not_mem_nil (by simpa using hidle)).1
    rw [hscript] at hnone
    cases hnone
  obtain ⟨own, found, hown, hfound, hhooks, hstate⟩ := hvoice.speaks hnew hinit
  rw [hscript] at hown
  cases hown
  rw [hmodule] at hfound
  cases hfound
  rcases hstate with ⟨-, hopened⟩ | ⟨hfailed, -⟩
  · exact ⟨hinit, hhooks, hopened⟩
  · rw [hbuilt] at hfailed
    cases hfailed

/-- What a reload of the script module of a game module comes to: the game module hears the
release event from the compiled script that there was, and the init event from the next one, or
the script module has failed. -/
def Retells (before : World) (place script : Nat) (compiled : Compiled) : Prop :=
  ∃ left, (Act.after (Act.reload script) before).module? script = some left ∧
    left.hooks = some (.game place) ∧
    ((left.state = .built ∧ ∃ fresh, left.compiled = some fresh ∧
        fresh.internalName = compiled.internalName ++ "R" ∧
        (Act.after (Act.reload script) before).deliveries =
          ⟨place, script, .init, some fresh⟩ :: ⟨place, script, .release, some compiled⟩ ::
            before.deliveries) ∨
      (left.state = .failed ∧ (Act.after (Act.reload script) before).deliveries =
        ⟨place, script, .release, some compiled⟩ :: before.deliveries))

/-- Only the script module may be worked on that is reloaded. -/
theorem Sound.reloads (hbefore : before.Sound held)
    (hmodule : before.module? script = some module) :
    before.Reaches held (Touch.working (Scripts.Alone script module.id))
      (Act.after (Act.reload script) before) := by
  refine Act.reload_reaches hbefore (fun found hfound => ?_) trivial
  rw [hmodule] at hfound
  cases hfound
  exact ⟨rfl, rfl⟩

theorem Grows.retells (hgrows : before.Grows outset [] unheard lent since)
    (hbefore : before.Sound held) (hrunning : before.isRunning = true)
    (hnew : outset.New before place game) (hscript : game.script = some script)
    (hmodule : before.module? script = some module) (hbuilt : module.state = .built)
    {compiled : Compiled} (hcompiled : module.compiled = some compiled) :
    before.Retells place script compiled := by
  have hfirst := (hgrows.assigned.owned ⟨game, hnew, hscript⟩).1
  have hhooks := (hgrows.listens hnew hscript hmodule hbuilt).2.1
  have husable := (hgrows.usable? hbefore.scripts hrunning hfirst hmodule hbuilt hcompiled).1
  obtain ⟨left, hleft, hhooks', hname, houtcome⟩ :=
    Act.reload_hears hbefore hmodule hbuilt hrunning
  rw [husable] at houtcome
  simp only [ScriptModule.calls_of_game hhooks] at houtcome
  refine ⟨left, hleft, hhooks'.trans hhooks, houtcome.imp_left ?_⟩
  rintro ⟨hbuilt', fresh, hfresh, hdeliveries⟩
  refine ⟨hbuilt', fresh, hfresh, ?_, hdeliveries⟩
  rw [((hbefore.reloads hmodule).sound.scripts.wellFormed hleft).own fresh hfresh, hname,
    (hbefore.scripts.wellFormed hmodule).own compiled hcompiled]

/-- A built script module is reloaded that a game module has. -/
theorem Grows.recasts_new (hgrows : before.Grows outset [] unheard lent since)
    (hbefore : before.Sound held) (hrunning : before.isRunning = true) (honce : ¬ outset.once)
    (hfirst : outset.scripts.next ≤ script) (hmodule : before.module? script = some module)
    (hbuilt : module.state = .built) (hrecasts : Act.Recasts script before after) :
    ∃ more, after.Grows outset [] unheard lent (more ++ since) := by
  obtain ⟨place, game, hnew, hscript⟩ :=
    hgrows.assigned.given hfirst hmodule (by simp [hbuilt])
  have halternates := (hgrows.voiced.voices place).alternates
  obtain ⟨hinit, -, compiled, hcompiled, hopened⟩ :=
    hgrows.listens hnew hscript hmodule hbuilt
  obtain ⟨left, hleft, hhooks, houtcome⟩ :=
    hgrows.retells hbefore hrunning hnew hscript hmodule hbuilt hcompiled
  have hchanges := (hbefore.reloads hmodule).changes
  rw [← hrecasts.scripts] at hchanges
  rw [← hrecasts.deliveries] at houtcome
  have hthere : after.module? script = some left :=
    (congrFun (congrArg Scripts.module? hrecasts.scripts) script).trans hleft
  -- whatever the game module hears of it
  have hrebuilt : ∀ more, after.deliveries = more ++ before.deliveries →
      (∀ delivery ∈ more, delivery.game = place ∧ delivery.script = script) →
      Alternates (more ++ heard place since) →
      (left.state = .built ∧ (∃ compiled, left.compiled = some compiled ∧
          Opened (more ++ heard place since) script compiled) ∨
        left.state = .failed ∧ Closed (more ++ heard place since)) →
          ∃ more, after.Grows outset [] unheard lent (more ++ since) := by
    intro more hrecorded hmore hturns hstate
    have hhistory : heard place (more ++ since) = more ++ heard place since := by
      rw [heard_append, heard, List.filter_eq_self.mpr fun delivery hmem => by
        simpa using (hmore delivery hmem).1]
    rw [← hhistory] at hturns hstate
    exact ⟨more, hgrows.rebuilds hbefore.scripts (hrecasts.running hrunning) honce hnew hinit
      hscript hmodule (by simp [hbuilt, BuildState.isTerminal]) hrecasts.objects hchanges hrecorded
      hmore hturns ⟨script, left, hscript, hthere, hhooks, hstate⟩⟩
  rcases houtcome with ⟨hbuilt', fresh, hfresh, hname, hdeliveries⟩ | ⟨hfailed, hdeliveries⟩
  · exact hrebuilt [⟨place, script, .init, some fresh⟩, ⟨place, script, .release, some compiled⟩]
      hdeliveries (by simp) (rebuilt_alternates halternates hopened hname)
      (.inl ⟨hbuilt', fresh, hfresh, _, _, rfl, rfl, rfl, rfl⟩)
  · exact hrebuilt [⟨place, script, .release, some compiled⟩] hdeliveries (by simp)
      ⟨.release compiled rfl rfl hopened, halternates⟩ (.inr ⟨hfailed, closed_cons rfl⟩)

/-- A built script module is reloaded that was there before. -/
theorem Grows.recasts_old (hgrows : before.Grows outset making unheard lent since)
    (hbefore : before.Sound held) (hrunning : before.isRunning = true)
    (hcyclic : outset.Cyclic) (hold : script < outset.scripts.next)
    (hmodule : before.module? script = some module)
    (hbuilt : module.state = .built) (hrecasts : Act.Recasts script before after) :
    after.Grows outset making unheard lent since := by
  have hchanges := (hbefore.reloads hmodule).changes
  rw [← hrecasts.scripts] at hchanges
  have hother : ∀ place, module.hooks ≠ some (.game place) := by
    intro place hhooks
    obtain ⟨earlier, hearlier, hhooks'⟩ := (hgrows.assigned.older hold hmodule).2 _ hhooks
    exact hcyclic.unhooked hearlier hhooks'
  obtain ⟨left, hleft, hhooks, -, houtcome⟩ := Act.reload_hears hbefore hmodule hbuilt hrunning
  have hthere : after.module? script = some left :=
    (congrFun (congrArg Scripts.module? hrecasts.scripts) script).trans hleft
  refine hgrows.spares hbefore.scripts (hrecasts.running hrunning) hold hmodule hcyclic.may
    hrecasts.objects hchanges (fun found hfound => ?_) (hrecasts.deliveries.trans ?_)
  · rw [hthere] at hfound
    cases hfound
    exact hhooks
  · simp only [ScriptModule.calls_of_other hother, List.nil_append] at houtcome
    rcases houtcome with ⟨-, fresh, -, hsame⟩ | ⟨-, hsame⟩
    · exact hsame
    · exact hsame

/-- What becomes of what has grown while files change: game modules stay as they are. -/
structure Refreshes (outset : Outset) (unheard lent : List Nat) (since : List Delivery)
    (before after : World) : Prop where
  grows : ∃ more, after.Grows outset [] unheard lent (more ++ since)
  loader : after.loaderHold = before.loaderHold
  games : ∀ place, after.game? place = before.game? place

/-- A script module is reloaded. -/
theorem Grows.recasts (hgrows : before.Grows outset [] unheard lent since)
    (hbefore : before.Sound held) (hrunning : before.isRunning = true)
    (hcyclic : outset.Cyclic) (hrecasts : Act.Recasts script before after) :
    Refreshes outset unheard lent since before after := by
  refine ⟨?_, Act.loaderHold_of_continues hrecasts.continues, game?_of_holds hrecasts.objects⟩
  have hstill : ∀ still : World, Act.after (Act.reload script) before = still →
      still.scripts = before.scripts → still.deliveries = before.deliveries →
        after.Grows outset [] unheard lent ([] ++ since) := by
    rintro still rfl hscripts hsilent
    exact hgrows.still hbefore.scripts hrecasts.objects (hrecasts.scripts.trans hscripts)
      (hrecasts.deliveries.trans hsilent)
  cases hmodule : before.module? script with
  | none =>
      refine ⟨[], hstill before ?_ rfl rfl⟩
      unfold Act.reload
      rw [Act.after_get_bind, hmodule]
      rfl
  | some module =>
      by_cases hbuilt : module.state = .built
      · by_cases hfirst : outset.scripts.next ≤ script
        · exact hgrows.recasts_new hbefore hrunning hcyclic.again hfirst hmodule hbuilt hrecasts
        · exact ⟨[], hgrows.recasts_old hbefore hrunning hcyclic (Nat.not_le.mp hfirst) hmodule
            hbuilt hrecasts⟩
      · exact ⟨[], hstill _ (Act.reload_of_other hmodule hbuilt).2 rfl rfl⟩

end World

end ScriptHost
