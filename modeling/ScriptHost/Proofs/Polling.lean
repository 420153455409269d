import ScriptHost.Proofs.Abreast
import ScriptHost.Proofs.Following
import ScriptHost.Proofs.Sparing

/-!
What comes of changed files. As long as registrations bear the numbers of their modules, every built
module that is registered for news is reloaded once and all others are left undisturbed. Whatever
the reloads have done, the watcher is abreast of the paths afterwards, so handing the same paths over
again does nothing.
-/

namespace ScriptHost

/-! ### Registrations that outlive the search for changes -/

namespace Watcher

variable {watcher : Watcher} {tree : FileTree} {idOf : Nat → Option Nat}

/-- Numbers are stale if their registrations are those of modules that are gone. -/
def Stale (watcher : Watcher) (idOf : Nat → Option Nat) (changes : Changes) : Prop :=
  ∀ id ∈ changes.stale, ∃ registration ∈ watcher.registrations,
    registration.id = id ∧ idOf registration.target = none

theorem Stale.add {changes : Changes} (hstale : watcher.Stale idOf changes) (path : Path)
    {registration : Registration} (hmem : registration ∈ watcher.registrations) :
    watcher.Stale idOf (changes.add idOf path registration) := by
  unfold Changes.add
  split
  · exact hstale
  · split
    · exact hstale
    · rename_i hgone
      intro id hid
      rcases List.mem_append.mp hid with hold | hnew
      · exact hstale id hold
      · exact ⟨registration, hmem, (List.mem_singleton.mp hnew).symm, by simpa using hgone⟩

theorem Stale.foldl_add {changes : Changes} (hstale : watcher.Stale idOf changes) (path : Path)
    {registrations : List Registration}
    (hmem : ∀ registration ∈ registrations, registration ∈ watcher.registrations) :
    watcher.Stale idOf (registrations.foldl (Changes.add idOf path) changes) := by
  induction registrations generalizing changes with
  | nil => exact hstale
  | cons first rest ih =>
      exact ih (hstale.add path (hmem first List.mem_cons_self)) fun registration hrest =>
        hmem registration (List.mem_cons_of_mem _ hrest)

theorem Stale.lookAt {state : Watcher × Changes} (hstale : state.1.Stale idOf state.2)
    (path : Path) :
    (lookAt tree idOf state path).1.Stale idOf (lookAt tree idOf state path).2 := by
  obtain ⟨watcher, changes⟩ := state
  unfold Watcher.lookAt
  dsimp only
  split
  · exact hstale
  · split
    · exact hstale
    · split
      · exact hstale
      · change watcher.Stale idOf (List.foldl _ changes _)
        exact Stale.foldl_add hstale _ fun registration hmem => List.mem_of_mem_filter hmem

theorem Stale.foldl_lookAt (paths : List Path) {state : Watcher × Changes}
    (hstale : state.1.Stale idOf state.2) :
    (paths.foldl (Watcher.lookAt tree idOf) state).1.Stale idOf
      (paths.foldl (Watcher.lookAt tree idOf) state).2 := by
  induction paths generalizing state with
  | nil => exact hstale
  | cons path rest ih => exact ih (hstale.lookAt path)

theorem mem_foldl_unwatch_of_ne {ids : List Nat} {registration : Registration}
    (hmem : registration ∈ watcher.registrations) (hne : ∀ id ∈ ids, registration.id ≠ id) :
    registration ∈ (ids.foldl Watcher.unwatch watcher).registrations := by
  induction ids generalizing watcher with
  | nil => exact hmem
  | cons id rest ih =>
      exact ih (mem_unwatch_of_ne hmem (hne id List.mem_cons_self)) fun other hother =>
        hne other (List.mem_cons_of_mem _ hother)

/-- A registration of a living module is still there when the changes have been collected. -/
theorem Distinct.mem_collectTargets (hdistinct : watcher.Distinct) {registration : Registration}
    (hmem : registration ∈ watcher.registrations)
    (hlives : (idOf registration.target).isSome = true) (paths : List Path) :
    registration ∈ (watcher.collectTargets tree idOf paths).1.registrations := by
  have hstale : (paths.foldl (Watcher.lookAt tree idOf) (watcher, ⟨[], []⟩)).1.Stale idOf _ :=
    Stale.foldl_lookAt paths fun id hid => by cases hid
  have hregistrations :
      (paths.foldl (Watcher.lookAt tree idOf) (watcher, ⟨[], []⟩)).1.registrations =
        watcher.registrations :=
    registrations_foldl_lookAt paths (watcher, ⟨[], []⟩)
  unfold Watcher.collectTargets
  generalize paths.foldl (Watcher.lookAt tree idOf) (watcher, ⟨[], []⟩) = looked at *
  obtain ⟨current, changes⟩ := looked
  dsimp only at hstale hregistrations ⊢
  unfold Distinct at hdistinct
  rw [← hregistrations] at hmem hdistinct
  -- a stale number is that of a registration of its own, and the living one has another
  refine mem_foldl_unwatch_of_ne hmem ?_
  rintro id hid rfl
  obtain ⟨gone, hgone, hsame, hdead⟩ := hstale _ hid
  rw [List.inj_on_of_nodup_map hdistinct hgone hmem hsame] at hdead
  rw [hdead] at hlives
  cases hlives

end Watcher

/-! ### Modules that are left undisturbed -/

namespace Scripts

/-- A module that is left undisturbed: it remains as it is, and so do its record in the registry, the
entry of its compiled script, and its registrations of files. -/
structure Undisturbed (before after : Scripts) (address : Nat) (module : ScriptModule) : Prop where
  still : after.module? address = some module
  registered : ∀ id, after.registry.get? id = some address ↔
    before.registry.get? id = some address
  entered : ∀ compiled, module.compiled = some compiled →
    after.compiled.get? compiled.internalName =
        before.compiled.get? compiled.internalName ∧
      after.grants.get? compiled.internalName = before.grants.get? compiled.internalName
  watched : ∀ registration, registration.target = address →
    (after.Watches registration ↔ before.Watches registration)

variable {before middle after : Scripts} {address : Nat} {module : ScriptModule}

theorem watches_iff {scripts : Scripts} {watcher : Watcher}
    (hwatcher : scripts.watcher = some watcher) {registration : Registration} :
    scripts.Watches registration ↔ registration ∈ watcher.registrations := by
  simp only [Watches, hwatcher, Option.some.injEq, exists_eq_left']

theorem Undisturbed.of_eq (hsame : after = before)
    (hmodule : before.module? address = some module) :
    before.Undisturbed after address module := by
  subst hsame
  exact ⟨hmodule, fun _ => Iff.rfl, fun _ _ => ⟨rfl, rfl⟩, fun _ _ => Iff.rfl⟩

theorem Undisturbed.trans (hfirst : before.Undisturbed middle address module)
    (hsecond : middle.Undisturbed after address module) :
    before.Undisturbed after address module where
  still := hsecond.still
  registered := fun id => (hsecond.registered id).trans (hfirst.registered id)
  entered := by
    intro compiled hcompiled
    obtain ⟨hentry, hgrant⟩ := hfirst.entered compiled hcompiled
    obtain ⟨hentry', hgrant'⟩ := hsecond.entered compiled hcompiled
    exact ⟨hentry'.trans hentry, hgrant'.trans hgrant⟩
  watched := fun registration htarget =>
    (hsecond.watched registration htarget).trans (hfirst.watched registration htarget)

end Scripts

namespace Act

open World

variable {held : Holdings} {world : World} {address : Nat} {module : ScriptModule}

/-! ### One reload -/

/-- Readying a module for a reload ends its registration. -/
theorem readied_watcher (hworld : world.Sound held) (hrunning : world.isRunning = true)
    (hmodule : world.module? address = some module) (hbuilt : module.state = .built)
    {watcher : Watcher} (hwatcher : world.scripts.watcher = some watcher) :
    ∃ later, (readied address module world).scripts.watcher = some later ∧
      Watcher.Renewed world.files module.id address watcher later := by
  have hready : ((world.scripts.put address (some (module.renewed world.files))).leave
      module.compiled).watcher = some watcher := by
    rw [Scripts.watcher_leave]
    exact hwatcher
  have hunwatched : ∀ middle : Watcher, Watcher.Renewed world.files module.id address middle
      (middle.unwatch module.id) := fun middle => .single (.unwatch middle)
  rcases release_renew_scripts hworld.scripts.closed (hworld.scripts.wellFormed hmodule) hmodule
    hbuilt hrunning module.hooks with hscripts | hscripts
  · refine ⟨watcher.unwatch module.id, ?_, hunwatched watcher⟩
    rw [readied, hscripts, Scripts.withWatcher, hready]
    rfl
  · refine ⟨(watcher.unwatch module.id).unwatch module.id, ?_,
      (hunwatched watcher).trans (hunwatched _)⟩
    rw [readied, hscripts, Scripts.withWatcher, Scripts.withWatcher, hready]
    rfl

/-- Building a module that is ready registers the files that it was built from, if any. -/
theorem build_watcher (hmodule : world.module? address = some module)
    (hready : module.state = .readyToBuild) (hrunning : world.isRunning = true)
    {watcher : Watcher} (hwatcher : world.scripts.watcher = some watcher) :
    ∃ later, (after (build address) world).scripts.watcher = some later ∧
      Watcher.Renewed world.files module.id address watcher later := by
  rw [(build_of_ready hmodule hready hrunning).2]
  cases hcompile : (module.compile world.executor world.files).1 with
  | error err =>
      refine ⟨watcher, ?_, .refl⟩
      rw [(compileModule_of_error hmodule hcompile).2]
      exact hwatcher
  | ok built =>
      obtain ⟨compiled, files⟩ := built
      refine ⟨(watcher.watch world.files module.id address files).1, ?_,
        .single (.watch watcher files)⟩
      rw [(compileModule_of_ok hmodule hcompile).2, Scripts.withWatcher]
      exact congrArg (Option.map _) hwatcher

/-- A reload ends the registration of the module and makes it anew from the present files; nothing
else happens to the watcher. -/
theorem reload_watcher (hworld : world.Sound held) (hrunning : world.isRunning = true)
    (hmodule : world.module? address = some module) {watcher : Watcher}
    (hwatcher : world.scripts.watcher = some watcher) :
    ∃ later, (after (reload address) world).scripts.watcher = some later ∧
      Watcher.Renewed world.files module.id address watcher later := by
  by_cases hbuilt : module.state = .built
  · obtain ⟨middle, hmiddle, hended⟩ := readied_watcher hworld hrunning hmodule hbuilt hwatcher
    have hsettled := readied_settled address module world
    have hfound := readied_module? hworld hmodule hbuilt hrunning
    have hstill : (readied address module world).isRunning = true :=
      hsettled.isRunning.trans hrunning
    obtain ⟨-, hafter⟩ := reload_of_built hmodule hbuilt hrunning
    rw [← hsettled.files] at hfound hended ⊢
    generalize readied address module world = ready at *
    obtain ⟨later, hlater, hmade⟩ := build_watcher hfound rfl hstill hmiddle
    refine ⟨later, ?_, hended.trans hmade⟩
    rw [hafter]
    rcases build_renewed hfound hstill with
      ⟨compiled, built, hsome, hown, hcompiled, hstate, -, hentered⟩ | ⟨failed, hnone, -⟩
    · -- the init listener finds the module as it was built
      let counted := (after (build address) ready).withExecutor
        fun executor => { executor with reloads := executor.reloads + 1 }
      have hcounted : counted.isRunning = true :=
        (build_isSteady address _).settled.isRunning.trans hstill
      obtain ⟨listeners, hstarted⟩ := fireHooks_of_live
        (show counted.module? address = some built from hown) hcompiled hstate hcounted
          hentered module.hooks .init
      rw [hsome, if_pos Option.isSome_some, hstarted]
      exact hlater
    · rw [hnone, if_neg (by simp)]
      exact hlater
  · rw [(reload_of_other hmodule hbuilt).2]
    exact ⟨watcher, hwatcher, .refl⟩

/-- What the turn of a module leaves behind. -/
def turn (address : Nat) (world : World) : World :=
  after (dropAll ((result (reload address) world).2 ++ [.module address]))
    (after (reload address) world)

theorem after_reloadTargets_cons (first : Nat) (rest : List Nat) (world : World) :
    after (reloadTargets (first :: rest)) world =
      after (reloadTargets rest) (turn first world) := rfl

theorem result_reloadTargets_cons (first : Nat) (rest : List Nat) (world : World) :
    result (reloadTargets (first :: rest)) world =
      if (result (reload first) world).1 then result (reloadTargets rest) (turn first world) + 1
      else result (reloadTargets rest) (turn first world) := rfl

/-- As many handles as a module has turns are held of it besides one. -/
def Lent (world : World) (addresses : List Nat) : Prop :=
  ∀ address ∈ addresses, addresses.count address + 1 ≤ world.modules.strongCount address

/-- What is needed of a world in which modules are to have their turns. -/
structure Prepared (held : Holdings) (addresses : List Nat) (world : World) : Prop where
  sound : world.Sound (held.taking addresses)
  running : world.isRunning = true
  lent : Lent world addresses

theorem Prepared.two_le {first : Nat} {rest : List Nat}
    (hprepared : Prepared held (first :: rest) world) :
    2 ≤ world.modules.strongCount first := by
  have hlent := hprepared.lent first List.mem_cons_self
  rw [List.count_cons_self] at hlent
  omega

theorem Prepared.turned {first : Nat} {rest : List Nat}
    (hprepared : Prepared held (first :: rest) world) : Turned first world (turn first world) :=
  reload_turned hprepared.sound hprepared.running hprepared.two_le

/-- The turn of the first module leaves a world in which the others can have theirs. -/
theorem Prepared.next {first : Nat} {rest : List Nat}
    (hprepared : Prepared held (first :: rest) world) : Prepared held rest (turn first world) where
  sound := (reload_dropped_reaches hprepared.sound).sound
  running := by
    have hrunning := hprepared.running
    simpa only [World.isRunning, hprepared.turned.holders] using hrunning
  lent := by
    intro address hmem
    have hlent := hprepared.lent address (List.mem_cons_of_mem _ hmem)
    rw [List.count_cons] at hlent
    rw [hprepared.turned.counts]
    by_cases hsame : first = address
    · simp only [hsame, beq_self_eq_true, if_true] at hlent ⊢
      omega
    · simp only [beq_iff_eq, hsame, if_false] at hlent ⊢
      omega

theorem reload_of_none (hnone : world.module? address = none) :
    after (reload address) world = world := by
  unfold reload
  rw [after_get_bind, hnone]
  rfl

/-- Reloads touch no module but those to reload. -/
theorem Prepared.others {addresses : List Nat} (hprepared : Prepared held addresses world)
    {other : Nat} (hout : other ∉ addresses) :
    (after (reloadTargets addresses) world).module? other = world.module? other := by
  induction addresses generalizing world with
  | nil => rfl
  | cons first rest ih =>
      obtain ⟨hne, hrest⟩ := List.ne_and_not_mem_of_not_mem_cons hout
      rw [after_reloadTargets_cons]
      exact (ih hprepared.next hrest).trans (hprepared.turned.others other hne)

/-- The turn of a module does to the watcher what its reload does. -/
theorem Prepared.turn_watcher {first : Nat} {rest : List Nat}
    (hprepared : Prepared held (first :: rest) world) {watcher : Watcher}
    (hwatcher : world.scripts.watcher = some watcher) :
    ∃ later id, (turn first world).scripts.watcher = some later ∧
      Watcher.Renewed world.files id first watcher later := by
  rw [hprepared.turned.scripts]
  cases hmodule : world.module? first with
  | none =>
      rw [reload_of_none hmodule]
      exact ⟨watcher, 0, hwatcher, .refl⟩
  | some module =>
      obtain ⟨later, hlater, hrenewed⟩ :=
        reload_watcher hprepared.sound hprepared.running hmodule hwatcher
      exact ⟨later, module.id, hlater, hrenewed⟩

/-- Reloads leave the watcher abreast, whatever becomes of the modules. -/
theorem Prepared.abreast {addresses : List Nat} (hprepared : Prepared held addresses world)
    (hnamed : world.files.WellNamed) {watcher : Watcher}
    (hwatcher : world.scripts.watcher = some watcher) {paths : List Path}
    (habreast : watcher.Abreast world.files paths) :
    (after (reloadTargets addresses) world).files = world.files ∧
      ∃ later, (after (reloadTargets addresses) world).scripts.watcher = some later ∧
        later.Abreast world.files paths := by
  induction addresses generalizing world watcher with
  | nil => exact ⟨rfl, watcher, hwatcher, habreast⟩
  | cons first rest ih =>
      obtain ⟨middle, id, hmiddle, hrenewed⟩ := hprepared.turn_watcher hwatcher
      have hstill := habreast.renewed hnamed hrenewed
      have hfiles := hprepared.turned.files
      rw [← hfiles] at hnamed hstill
      rw [after_reloadTargets_cons, ← hfiles]
      exact ih hprepared.next hnamed hmiddle hstill

/-! ### Handing changed paths over -/

/-- The modules that changed paths concern can have their turns. -/
theorem noticed_prepared (hworld : world.Sound held) (hrunning : world.isRunning = true)
    {watcher : Watcher} (hwatcher : world.executor.watcher = some watcher) (paths : List Path) :
    Prepared held (concerned watcher world paths) (noticed watcher world paths) where
  sound := (noticed_reaches hworld hwatcher paths).sound
  running := hrunning
  lent := fun _ hmem => lent_of_concerned hworld hmem

/-- Once changed paths have been handled, the watcher is abreast of them. -/
theorem handleChanges_abreast (hworld : world.Sound held) (hrunning : world.isRunning = true)
    (hnamed : world.files.WellNamed) {watcher : Watcher}
    (hwatcher : world.executor.watcher = some watcher) (paths : List Path) :
    (after (handleChanges paths) world).files = world.files ∧
      ∃ later, (after (handleChanges paths) world).executor.watcher = some later ∧
        later.Abreast world.files paths := by
  have hprepared := noticed_prepared hworld hrunning hwatcher paths
  have hcollected := Watcher.collectTargets_abreast hnamed watcher world.scripts.idOf paths
  rw [handleChanges_of_some hwatcher]
  exact hprepared.abreast hnamed rfl hcollected

theorem result_handleChanges_of_some {watcher : Watcher}
    (hwatcher : world.executor.watcher = some watcher) (paths : List Path) :
    result (handleChanges paths) world =
      result (reloadTargets (concerned watcher world paths)) (noticed watcher world paths) := by
  unfold handleChanges
  rw [result_get_bind, hwatcher]
  rfl

/-- Paths that the watcher is abreast of are handled without effect. -/
theorem handleChanges_of_abreast {watcher : Watcher}
    (hwatcher : world.executor.watcher = some watcher) {paths : List Path}
    (habreast : watcher.Abreast world.files paths) :
    result (handleChanges paths) world = 0 ∧ after (handleChanges paths) world = world := by
  have hnone := habreast.collectTargets world.scripts.idOf
  have hconcerned : concerned watcher world paths = [] := by
    rw [concerned, hnone]
    rfl
  have hnoticed : noticed watcher world paths = world := by
    have hsame : world =
        { world with executor := { world.executor with watcher := some watcher } } := by
      rw [← hwatcher]
    rw [noticed, hconcerned, hnone]
    exact hsame.symm
  rw [result_handleChanges_of_some hwatcher, handleChanges_of_some hwatcher, hconcerned, hnoticed]
  exact ⟨rfl, rfl⟩

/-! ### What reloads leave undisturbed -/

/-- Whether a module is registered for files under its number. -/
def Enlisted (world : World) (address : Nat) : Prop :=
  ∃ registration, world.scripts.Watches registration ∧ registration.target = address ∧
    ∀ module, world.module? address = some module → module.id = registration.id

/-- The reload of a built module works on this module alone, and on what is recorded under its
number. -/
theorem reload_leavesAlone (hworld : world.Sound held) (hrunning : world.isRunning = true)
    {first : Nat} {found : ScriptModule} (hfound : world.module? first = some found)
    (hbuilt : found.state = .built) {other : Nat} (hne : other ≠ first)
    (hmodule : world.module? other = some module) :
    world.scripts.LeavesAlone (after (reload first) world).scripts other module := by
  have hregistered : world.scripts.registry.get? found.id = some first :=
    hworld.scripts.registered hrunning hfound (by simp [hbuilt])
  let touched : Nat → Nat → Prop := fun place id => place = first ∧ id = found.id
  have hreaches : world.Reaches held (Touch.working touched) (after (reload first) world) :=
    reload_reaches hworld (fun module hsame => by
      rw [hfound, Option.some.injEq] at hsame
      exact ⟨rfl, hsame ▸ rfl⟩) trivial
  have hspares : world.scripts.Spares touched other := by
    rintro place id ⟨rfl, rfl⟩
    refine ⟨Ne.symm hne, fun hsame => hne ?_⟩
    rw [hregistered] at hsame
    exact (Option.some.inj hsame).symm
  have hstill : (after (reload first) world).scripts.running = true :=
    (reload_settled first world).isRunning.trans hrunning
  exact hreaches.changes.spared hworld.scripts hstill hmodule hspares

/-- The reload of a module that is registered under its number keeps the registrations of all
others. -/
theorem reload_watches (hworld : world.Sound held) (hrunning : world.isRunning = true)
    {first : Nat} {found : ScriptModule} (hfound : world.module? first = some found)
    (henlisted : Enlisted world first) {registration : Registration}
    (hne : registration.target ≠ first) :
    (after (reload first) world).scripts.Watches registration ↔
      world.scripts.Watches registration := by
  obtain ⟨own, ⟨watcher, hwatcher, hown⟩, howner, hnumber⟩ := henlisted
  obtain ⟨later, hlater, hrenewed⟩ := reload_watcher hworld hrunning hfound hwatcher
  obtain ⟨hsound, hkept⟩ := hrenewed.registrations
  rw [Scripts.watches_iff hlater, Scripts.watches_iff hwatcher]
  constructor
  · intro hmem
    rcases hsound registration hmem with hold | ⟨-, hnew⟩
    · exact hold
    · exact absurd hnew hne
  · -- the number of the module belongs to its own registration
    refine fun hmem => hkept registration hmem fun hid => hne ?_
    have hsame := List.inj_on_of_nodup_map (hworld.scripts.distinct hwatcher) hmem hown
      (hid.trans (hnumber found hfound))
    rw [hsame, howner]

/-- The turn of a module that is registered under its number leaves all others undisturbed, and the
module itself if it is not built. -/
theorem Prepared.turn_undisturbed {first : Nat} {rest : List Nat}
    (hprepared : Prepared held (first :: rest) world) (henlisted : Enlisted world first)
    {other : Nat} (hmodule : world.module? other = some module)
    (hspared : other ≠ first ∨ module.state ≠ .built) :
    world.scripts.Undisturbed (turn first world).scripts other module := by
  rw [hprepared.turned.scripts]
  cases hfound : world.module? first with
  | none =>
      rw [reload_of_none hfound]
      exact .of_eq rfl hmodule
  | some found =>
      by_cases hbuilt : found.state = .built
      · have hne : other ≠ first := by
          rcases hspared with hne | hunbuilt
          · exact hne
          · rintro rfl
            rw [hfound, Option.some.injEq] at hmodule
            exact absurd (hmodule ▸ hbuilt) hunbuilt
        have halone := reload_leavesAlone hprepared.sound hprepared.running hfound hbuilt hne hmodule
        refine ⟨halone.still, halone.registered, halone.entered, ?_⟩
        rintro registration rfl
        exact reload_watches hprepared.sound hprepared.running hfound henlisted hne
      · rw [(reload_of_other hfound hbuilt).2]
        exact .of_eq rfl hmodule

/-- A module that is left undisturbed is registered for what it was registered for. -/
theorem Enlisted.of_undisturbed {later : World} (henlisted : Enlisted world address)
    (hundisturbed : ∀ module, world.module? address = some module →
      world.scripts.Undisturbed later.scripts address module)
    (hlives : (world.module? address).isSome = true) : Enlisted later address := by
  obtain ⟨module, hmodule⟩ := Option.isSome_iff_exists.mp hlives
  obtain ⟨registration, hwatches, htarget, hnumber⟩ := henlisted
  have hstill := hundisturbed module hmodule
  refine ⟨registration, (hstill.watched registration htarget).mpr hwatches, htarget, ?_⟩
  intro found hfound
  rw [show later.module? address = some module from hstill.still, Option.some.injEq] at hfound
  exact hfound ▸ hnumber module hmodule

/-- Reloads leave every module undisturbed that is none of those to reload or is not built. -/
theorem Prepared.undisturbed {addresses : List Nat} (hprepared : Prepared held addresses world)
    (hnodup : addresses.Nodup)
    (henlisted : ∀ address ∈ addresses, Enlisted world address ∧
      (world.module? address).isSome = true)
    {other : Nat} (hmodule : world.module? other = some module)
    (hspared : other ∉ addresses ∨ module.state ≠ .built) :
    world.scripts.Undisturbed (after (reloadTargets addresses) world).scripts other module := by
  induction addresses generalizing world with
  | nil => exact .of_eq rfl hmodule
  | cons first rest ih =>
      obtain ⟨hfirst, hrest⟩ := List.nodup_cons.mp hnodup
      have hturn : ∀ {other module}, world.module? other = some module →
          other ≠ first ∨ module.state ≠ .built →
            world.scripts.Undisturbed (turn first world).scripts other module :=
        fun hmodule => hprepared.turn_undisturbed (henlisted first List.mem_cons_self).1 hmodule
      have hspared' := hspared.imp_left fun hout => List.ne_and_not_mem_of_not_mem_cons hout
      have hnow := hturn hmodule (hspared'.imp_left And.left)
      rw [after_reloadTargets_cons]
      refine hnow.trans (ih hprepared.next hrest (fun address hmem => ?_) hnow.still
        (hspared'.imp_left And.right))
      obtain ⟨hown, hlives⟩ := henlisted address (List.mem_cons_of_mem _ hmem)
      have hne : address ≠ first := fun hsame => hfirst (hsame ▸ hmem)
      have hstill : ∀ module, world.module? address = some module →
          world.scripts.Undisturbed (turn first world).scripts address module :=
        fun _ hmodule => hturn hmodule (.inl hne)
      refine ⟨hown.of_undisturbed hstill hlives, ?_⟩
      obtain ⟨found, hfound⟩ := Option.isSome_iff_exists.mp hlives
      exact Option.isSome_iff_exists.mpr ⟨found, (hstill found hfound).still⟩

/-! ### What changed paths come to -/

/-- Whether a built module is at an address. -/
def IsBuilt (world : World) (address : Nat) : Prop :=
  (world.module? address).map ScriptModule.state = some .built

instance (world : World) (address : Nat) : Decidable (IsBuilt world address) :=
  inferInstanceAs (Decidable (_ = _))

theorem isBuilt_congr {later : World} (hsame : later.module? address = world.module? address) :
    IsBuilt later address ↔ IsBuilt world address := by
  unfold IsBuilt
  rw [hsame]

/-- A reload succeeds if a built module is there before and afterwards. -/
theorem reload_result_iff (hworld : world.Sound held) (hrunning : world.isRunning = true) :
    (result (reload address) world).1 = true ↔
      IsBuilt world address ∧ IsBuilt (after (reload address) world) address := by
  cases hmodule : world.module? address with
  | none =>
      have hfailed : (result (reload address) world).1 = false := by
        unfold reload
        rw [result_get_bind, hmodule]
        rfl
      simp [hfailed, IsBuilt, hmodule]
  | some module =>
      by_cases hbuilt : module.state = .built
      · obtain ⟨reloaded, hlater, -, hanswer⟩ := reload_spec hworld hmodule hbuilt hrunning
        simp [hanswer, IsBuilt, hmodule, hlater, hbuilt]
      · simp [(reload_of_other hmodule hbuilt).1, IsBuilt, hmodule, hbuilt]

/-- The number of reloads is that of the built modules that are built again. -/
theorem Prepared.result_eq {addresses : List Nat} (hprepared : Prepared held addresses world)
    (hnodup : addresses.Nodup) :
    result (reloadTargets addresses) world = (addresses.filter fun address =>
      IsBuilt world address ∧ IsBuilt (after (reloadTargets addresses) world) address).length := by
  induction addresses generalizing world with
  | nil => rfl
  | cons first rest ih =>
      obtain ⟨hfirst, hrest⟩ := List.nodup_cons.mp hnodup
      have hturned := hprepared.turned
      have hnext := hprepared.next
      have hlast : IsBuilt (after (reloadTargets rest) (turn first world)) first ↔
          IsBuilt (after (reload first) world) first := by
        refine isBuilt_congr ((hnext.others hfirst).trans ?_)
        exact congrFun (congrArg Scripts.module? hturned.scripts) first
      have hmore : (rest.filter fun address => IsBuilt (turn first world) address ∧
            IsBuilt (after (reloadTargets rest) (turn first world)) address) =
          rest.filter fun address => IsBuilt world address ∧
            IsBuilt (after (reloadTargets rest) (turn first world)) address := by
        refine List.filter_congr fun address hmem => ?_
        have hne : address ≠ first := fun hsame => hfirst (hsame ▸ hmem)
        simp only [isBuilt_congr (hturned.others address hne)]
      rw [after_reloadTargets_cons, result_reloadTargets_cons, ih hnext hrest, hmore]
      have hanswer : (result (reload first) world).1 = true ↔ _ :=
        reload_result_iff hprepared.sound hprepared.running
      rw [← hlast] at hanswer
      split
      · rename_i hreloaded
        rw [List.filter_cons_of_pos (by simpa using hanswer.mp hreloaded)]
        rfl
      · rename_i hfailed
        rw [List.filter_cons_of_neg (by simpa using fun hboth => hfailed (hanswer.mpr hboth))]

/-- Whether some of the paths bring news for a module that is registered for them. -/
def Concerned (watcher : Watcher) (world : World) (paths : List Path) (address : Nat) : Prop :=
  ∃ registration ∈ watcher.registrations, registration.target = address ∧
    watcher.Concerns world.files paths registration

section Handling

variable {watcher : Watcher} {paths : List Path}

theorem concerned_of_mem (hmem : address ∈ concerned watcher world paths) :
    Concerned watcher world paths address := by
  obtain ⟨target, htarget, rfl⟩ := List.mem_map.mp hmem
  obtain ⟨hregistered, -, hconcerns⟩ := Watcher.mem_targets htarget
  exact ⟨target.2, hregistered, rfl, hconcerns⟩

/-- The search for changes leaves every module undisturbed. -/
theorem noticed_undisturbed (hworld : world.Sound held)
    (hwatcher : world.executor.watcher = some watcher) (paths : List Path)
    (hmodule : world.module? address = some module) :
    world.scripts.Undisturbed (noticed watcher world paths).scripts address module := by
  rw [noticed_scripts hworld.modules hwatcher]
  refine ⟨hmodule, fun _ => Iff.rfl, fun _ _ => ⟨rfl, rfl⟩, fun registration htarget => ?_⟩
  have hlives : (world.scripts.idOf registration.target).isSome = true := by
    rw [htarget]
    simp [Scripts.idOf, World.scripts, hmodule]
  have hsome : world.scripts.watcher = some watcher := hwatcher
  have hlater : (world.scripts.withWatcher fun watcher =>
        (watcher.collectTargets world.files world.scripts.idOf paths).1).watcher =
      some (watcher.collectTargets world.files world.scripts.idOf paths).1 := by
    rw [Scripts.withWatcher, hsome, Option.map_some]
  rw [Scripts.watches_iff hlater, Scripts.watches_iff hsome]
  exact ⟨Watcher.mem_of_mem_collectTargets,
    fun hmem => (hworld.scripts.distinct hwatcher).mem_collectTargets hmem hlives paths⟩

/-- A module that is to be reloaded is registered under its number. -/
theorem noticed_enlisted (hworld : world.Sound held)
    (hwatcher : world.executor.watcher = some watcher)
    (hnumbered : watcher.Numbered world.scripts.idOf)
    (hmem : address ∈ concerned watcher world paths) :
    Enlisted (noticed watcher world paths) address ∧
      ((noticed watcher world paths).module? address).isSome = true := by
  have hlives := concerned_lives hmem
  obtain ⟨module, hmodule⟩ := Option.isSome_iff_exists.mp hlives
  obtain ⟨registration, hregistered, htarget, -⟩ := concerned_of_mem hmem
  have hundisturbed := noticed_undisturbed hworld hwatcher paths hmodule
  refine ⟨Enlisted.of_undisturbed ⟨registration, ⟨watcher, hwatcher, hregistered⟩, htarget, ?_⟩
    (fun found hfound => noticed_undisturbed hworld hwatcher paths hfound) hlives, ?_⟩
  · intro found hfound
    apply hnumbered registration hregistered
    rw [htarget]
    simp [Scripts.idOf, World.scripts, hfound]
  · exact Option.isSome_iff_exists.mpr ⟨module, hundisturbed.still⟩

/-- Only modules that news concern are touched. -/
theorem handleChanges_others (hworld : world.Sound held) (hrunning : world.isRunning = true)
    (hwatcher : world.executor.watcher = some watcher)
    (hunconcerned : ¬ Concerned watcher world paths address) :
    (after (handleChanges paths) world).module? address = world.module? address := by
  have hprepared := noticed_prepared hworld hrunning hwatcher paths
  rw [handleChanges_of_some hwatcher]
  exact (hprepared.others fun hmem => hunconcerned (concerned_of_mem hmem)).trans
    (noticed_module? hworld.modules watcher paths address)

/-- A module that no news concerns, or that is not built, is left undisturbed. -/
theorem handleChanges_undisturbed (hworld : world.Sound held) (hrunning : world.isRunning = true)
    (hwatcher : world.executor.watcher = some watcher)
    (hnumbered : watcher.Numbered world.scripts.idOf)
    (hmodule : world.module? address = some module)
    (hspared : ¬ Concerned watcher world paths address ∨ module.state ≠ .built) :
    world.scripts.Undisturbed (after (handleChanges paths) world).scripts address module := by
  have hprepared := noticed_prepared hworld hrunning hwatcher paths
  have hnoticed := noticed_undisturbed hworld hwatcher paths hmodule
  rw [handleChanges_of_some hwatcher]
  refine hnoticed.trans (hprepared.undisturbed (Watcher.targets_nodup hnumbered paths)
    (fun _ hmem => noticed_enlisted hworld hwatcher hnumbered hmem) hnoticed.still ?_)
  exact hspared.imp_left fun hout hmem => hout (concerned_of_mem hmem)

/-- The number of reloads is that of the built modules that news concern and that are built again. -/
theorem handleChanges_result (hworld : world.Sound held) (hrunning : world.isRunning = true)
    (hwatcher : world.executor.watcher = some watcher)
    (hnumbered : watcher.Numbered world.scripts.idOf) (paths : List Path) :
    ∃ reloaded : List Nat, reloaded.Nodup ∧
      result (handleChanges paths) world = reloaded.length ∧
      ∀ address, address ∈ reloaded ↔ IsBuilt world address ∧
        Concerned watcher world paths address ∧
          IsBuilt (after (handleChanges paths) world) address := by
  have hprepared := noticed_prepared hworld hrunning hwatcher paths
  have hnodup : (concerned watcher world paths).Nodup := Watcher.targets_nodup hnumbered paths
  have hfound := noticed_module? hworld.modules watcher paths
  let again := after (reloadTargets (concerned watcher world paths)) (noticed watcher world paths)
  refine ⟨(concerned watcher world paths).filter fun address =>
    IsBuilt (noticed watcher world paths) address ∧ IsBuilt again address,
    hnodup.filter _, ?_, fun address => ?_⟩
  · rw [result_handleChanges_of_some hwatcher]
    exact hprepared.result_eq hnodup
  · have hagain : after (handleChanges paths) world = again :=
      handleChanges_of_some hwatcher paths
    rw [hagain, List.mem_filter, decide_eq_true_eq, isBuilt_congr (hfound address)]
    constructor
    · rintro ⟨hmem, hbuilt, hagain⟩
      exact ⟨hbuilt, concerned_of_mem hmem, hagain⟩
    · rintro ⟨hbuilt, ⟨registration, hregistered, rfl, hconcerns⟩, hagain⟩
      obtain ⟨module, hmodule, -⟩ := Option.map_eq_some_iff.mp hbuilt
      exact ⟨mem_concerned hworld hwatcher hnumbered hregistered hconcerns hmodule, hbuilt, hagain⟩

end Handling

end Act

namespace Session

open SessionAct

/-- Handing changed paths over is handling them, while the host holds the executor. -/
theorem step_changed {session : Session} (hexecutor : session.hasExecutor = true)
    (paths : List Path) :
    (session.step (.onFiles (.changed paths))).1.answer =
        .number (Act.result (Act.handleChanges paths) session.world) ∧
      (session.step (.onFiles (.changed paths))).2 =
        cleared { session with world := Act.after (Act.handleChanges paths) session.world } := by
  have hafter : after (perform (.onFiles (.changed paths))) session =
      { session with world := Act.after (Act.handleChanges paths) session.world } := by
    unfold perform FileStep.perform
    rw [after_needExecutor_bind, if_pos hexecutor]
    rfl
  have houtcome : outcome (perform (.onFiles (.changed paths))) session =
      .ok (.number (Act.result (Act.handleChanges paths) session.world)) := by
    unfold perform FileStep.perform
    rw [outcome_needExecutor_bind, if_pos hexecutor]
    rfl
  refine ⟨by rw [step_answer, houtcome], ?_⟩
  rw [← hafter]
  rfl

/-- Handing changed paths over reloads every module at most once, as long as registrations bear the
numbers of their modules: those are reloaded that are built and that the paths bring news for, and
the answer counts the ones that are built again; all others are left undisturbed. Whether or not
registrations bear these numbers, modules that the paths bring no news for remain as they are, and
whatever comes of the reloads, handing the same paths over again does nothing at all. -/
theorem changed_once_then_never (files : FileTree) (plan : ExecutorPlan) (steps : List Step)
    (paths : List Path) :
    let session := (begin files plan).run steps
    let handed := session.step (.onFiles (.changed paths))
    ∀ {watcher}, session.hasExecutor = true →
      session.world.executor.watcher = some watcher → session.world.files.WellNamed →
      (watcher.Numbered session.world.scripts.idOf →
        (∃ reloaded : List Nat, reloaded.Nodup ∧ handed.1.answer = .number reloaded.length ∧
          ∀ address, address ∈ reloaded ↔ Act.IsBuilt session.world address ∧
            Act.Concerned watcher session.world paths address ∧
              Act.IsBuilt handed.2.world address) ∧
        ∀ address module, session.world.module? address = some module →
          (Act.Concerned watcher session.world paths address ∧ module.state = .built →
            ∃ later, handed.2.world.module? address = some later ∧
              module.Reloaded session.world.executor session.world.files later) ∧
          (¬ Act.Concerned watcher session.world paths address ∨ module.state ≠ .built →
            session.world.scripts.Undisturbed handed.2.world.scripts address module)) ∧
      (∀ address, ¬ Act.Concerned watcher session.world paths address →
        handed.2.world.module? address = session.world.module? address) ∧
      (handed.2.step (.onFiles (.changed paths))).1.answer = .number 0 ∧
      (handed.2.step (.onFiles (.changed paths))).2 = handed.2 := by
  intro session handed watcher hexecutor hwatcher hnamed
  have hsession : session.Sound := begin_run_sound files plan steps
  have hrunning : session.world.isRunning = true :=
    hsession.running_of_held (by simp [held, hexecutor])
  obtain ⟨hanswer, hhanded⟩ : handed.1.answer = _ ∧ handed.2 = _ := step_changed hexecutor paths
  have hscripts : handed.2.world.scripts =
      (Act.after (Act.handleChanges paths) session.world).scripts := by rw [hhanded]; rfl
  refine ⟨?_, fun address hunconcerned => ?_, ?_⟩
  · intro hnumbered
    rw [hanswer, hscripts]
    constructor
    · obtain ⟨reloaded, hnodup, hcount, hmem⟩ :=
        Act.handleChanges_result hsession hrunning hwatcher hnumbered paths
      refine ⟨reloaded, hnodup, by rw [hcount], fun address => ?_⟩
      rw [hmem, hhanded]
      rfl
    · intro address module hmodule
      constructor
      · rintro ⟨⟨registration, hregistered, rfl, hconcerns⟩, hbuilt⟩
        rw [hhanded]
        exact Act.handleChanges_reloads_of_numbered hsession hrunning hwatcher hnumbered
          hregistered hconcerns hmodule hbuilt
      · intro hspared
        exact Act.handleChanges_undisturbed hsession hrunning hwatcher hnumbered hmodule hspared
  · rw [hhanded]
    exact Act.handleChanges_others hsession hrunning hwatcher hunconcerned
  · obtain ⟨hfiles, later, hlater, habreast⟩ :=
      Act.handleChanges_abreast hsession hrunning hnamed hwatcher paths
    have hagain : handed.2.hasExecutor = true := by rw [hhanded]; exact hexecutor
    have hcurrent : handed.2.world.executor.watcher = some later := by rw [hhanded]; exact hlater
    have hsame : handed.2.world.files = session.world.files := by rw [hhanded]; exact hfiles
    obtain ⟨hnone, hstill⟩ := Act.handleChanges_of_abreast hcurrent (hsame ▸ habreast)
    obtain ⟨hnothing, hleft⟩ := step_changed hagain paths
    rw [hnothing, hleft, hnone, hstill, hhanded]
    exact ⟨rfl, rfl⟩

/-- The steps by which two modules are built from one file, which then changes, and a third one from
a file of its own. -/
def pollingSteps : List Step :=
  changingSteps.take 3 ++ sharingSteps ++
    [.onFiles (.write ⟨"/own.txt"⟩ (.file (.text "fn g() { 1 }"))),
      .onModules (.create (some "c") "C" "host" none),
      .onModules (.addFile "c" ⟨"/own.txt"⟩),
      .onModules (.build "c" none),
      .onFiles (.write ⟨"/lib.txt"⟩ (.file (.text "fn f() { 2 }")))]

/-- Paths of which two lead to the same file. -/
def respelled : List Path := [⟨"/lib.txt"⟩, ⟨"/own.txt"⟩, ⟨"/./lib.txt"⟩]

/-- A module that has been built from the changed file is reloaded, the module with a file of its own
is left undisturbed, and the paths bring no news the second time. -/
theorem changed_once_then_never_shared :
    let session := shared.run pollingSteps
    let handed := session.step (.onFiles (.changed respelled))
    (∃ module later, session.world.module? 1 = some module ∧
      handed.2.world.module? 1 = some later ∧
        module.Reloaded session.world.executor session.world.files later) ∧
    (∃ module, session.world.module? 3 = some module ∧
      session.world.scripts.Undisturbed handed.2.world.scripts 3 module) ∧
    (handed.2.step (.onFiles (.changed respelled))).1.answer = .number 0 ∧
    (handed.2.step (.onFiles (.changed respelled))).2 = handed.2 := by
  have hstates : [1, 3].map (fun address => ((shared.run pollingSteps).world.module? address).map
      ScriptModule.state) = [some .built, some .built] := by decide +kernel
  have hexecutor : (shared.run pollingSteps).hasExecutor = true := by decide +kernel
  have hnamed : (shared.run pollingSteps).world.files.workingDirectory = [] := by decide +kernel
  have hcontent : ((shared.run pollingSteps).world.files.read
      ((shared.run pollingSteps).world.files.normalize ⟨"/lib.txt"⟩)).toOption =
        some (.text "fn f() { 2 }") := by decide +kernel
  have hregistered : (shared.run pollingSteps).world.executor.watcher.map (fun watcher =>
      watcher.registrations.map fun registration => (registration.target, registration.id,
        (shared.run pollingSteps).world.scripts.idOf registration.target,
        respelled.map fun path => registration.reads
          ((shared.run pollingSteps).world.files.normalize path))) =
      some [(1, 1, some 1, [true, false, true]), (2, 2, some 2, [true, false, true]),
        (3, 3, some 3, [false, true, false])] := by decide +kernel
  have hseen : (shared.run pollingSteps).world.executor.watcher.map (fun watcher =>
      respelled.map fun path => watcher.contents.get?
        ((shared.run pollingSteps).world.files.normalize path).components) =
      some [some (.text "fn f() { 1 }"), some (.text "fn g() { 1 }"),
        some (.text "fn f() { 1 }")] := by decide +kernel
  have hpresent : respelled.map (fun path => ((shared.run pollingSteps).world.files.read
      ((shared.run pollingSteps).world.files.normalize path)).toOption) =
        [some (.text "fn f() { 2 }"), some (.text "fn g() { 1 }"),
          some (.text "fn f() { 2 }")] := by decide +kernel
  have hpolled := @changed_once_then_never
    ⟨.directory [("lib.txt", .file (.text "fn f() { 1 }"))], []⟩
    ⟨none, none, some true, none, []⟩ pollingSteps respelled
  rw [← shared] at hpolled
  dsimp only at hpolled ⊢
  generalize shared.run pollingSteps = session at *
  have hread : ∀ {path content}, (session.world.files.read path).toOption = some content →
      session.world.files.read path = .ok content := by
    intro path content hsome
    cases hresult : session.world.files.read path <;> simp_all [Except.toOption]
  obtain ⟨watcher, hwatcher, hlist⟩ := Option.map_eq_some_iff.mp hregistered
  rw [hwatcher, Option.map_some, Option.some.injEq] at hseen
  simp only [respelled, List.map_cons, List.map_nil, List.cons.injEq, and_true] at hseen hpresent
  have hrow := fun registration hmem => hlist ▸ List.mem_map_of_mem (a := registration)
    (l := watcher.registrations) (f := fun registration => (registration.target, registration.id,
      session.world.scripts.idOf registration.target,
      respelled.map fun path => registration.reads (session.world.files.normalize path))) hmem
  have hnumbered : watcher.Numbered session.world.scripts.idOf := by
    intro registration hmem id hid
    have hone := hrow registration hmem
    rw [hid] at hone
    simp only [List.mem_cons, Prod.mk.injEq, Option.some.injEq, List.not_mem_nil, or_false] at hone
    omega
  have hwell : session.world.files.WellNamed := by
    intro name hmem
    rw [hnamed] at hmem
    cases hmem
  obtain ⟨hkept, -, hagain⟩ := hpolled hexecutor hwatcher hwell
  obtain ⟨-, hmodules⟩ := hkept hnumbered
  simp only [List.map_cons, List.map_nil, List.cons.injEq, and_true] at hstates
  obtain ⟨⟨module, hmodule, hbuilt⟩, ⟨other, hother, -⟩⟩ :=
    hstates.imp Option.map_eq_some_iff.mp Option.map_eq_some_iff.mp
  obtain ⟨registration, rest, hfirst, hone, -⟩ := List.map_eq_cons_iff.mp hlist
  simp only [respelled, List.map_cons, List.map_nil, Prod.mk.injEq, List.cons.injEq, and_true]
    at hone hrow
  refine ⟨?_, ?_, hagain⟩
  · obtain ⟨htarget, -, -, hreads, -⟩ := hone
    have hconcerned : Act.Concerned watcher session.world respelled 1 := by
      refine ⟨registration, by simp [hfirst], htarget, ⟨"/lib.txt"⟩, by simp [respelled], hreads,
        _, hread hpresent.1, ?_⟩
      rw [hseen.1]
      decide
    obtain ⟨later, hlater, hreloaded⟩ := (hmodules 1 module hmodule).1 ⟨hconcerned, hbuilt⟩
    exact ⟨module, later, hmodule, hlater, hreloaded⟩
  · refine ⟨other, hother, (hmodules 3 other hother).2 (.inl ?_)⟩
    rintro ⟨registration, hmem, htarget, path, hpath, hreads, content, hfound, hnews⟩
    have hone := hrow registration hmem
    simp only [List.mem_cons, Prod.mk.injEq, List.cons.injEq, List.not_mem_nil, or_false, htarget,
      Nat.reduceEqDiff, false_and, true_and, false_or, and_true] at hone
    obtain ⟨-, -, hlib, -, hlib'⟩ := hone
    simp only [respelled, List.mem_cons, List.not_mem_nil, or_false] at hpath
    rcases hpath with rfl | rfl | rfl
    · rw [hlib] at hreads
      cases hreads
    · rw [hread hpresent.2.1] at hfound
      exact hnews (Except.ok.inj hfound ▸ hseen.2.1)
    · rw [hlib'] at hreads
      cases hreads

/-- The steps by which a module is built from a file, which then is registered for it once more under
the number of no module, and changes. -/
def twiceSteps : List Step :=
  changingSteps.take 3 ++
    [.onFiles (.watch "a" [⟨"/lib.txt"⟩] (some 2)),
      .onFiles (.write ⟨"/lib.txt"⟩ (.file (.text "fn f() { 2 }")))]

/-- A module that is registered under another number as well is reloaded twice for one change. -/
theorem changed_reloads_twice :
    let session := shared.run twiceSteps
    let handed := session.step (.onFiles (.changed [⟨"/lib.txt"⟩]))
    (session.world.module? 1).map ScriptModule.reloads = some 0 ∧
      handed.1.answer = .number 2 ∧
      (handed.2.world.module? 1).map (fun module => (module.reloads, module.state)) =
        some (2, .built) := by
  have hexecutor : (shared.run twiceSteps).hasExecutor = true := by decide +kernel
  have hcount : Act.result (Act.handleChanges [⟨"/lib.txt"⟩])
      (shared.run twiceSteps).world = 2 := by decide +kernel
  refine ⟨by decide +kernel, ?_, by decide +kernel⟩
  rw [(step_changed hexecutor _).1, hcount]

end Session

end ScriptHost
