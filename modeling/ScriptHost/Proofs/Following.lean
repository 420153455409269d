import Mathlib.Data.List.Nodup
import ScriptHost.Proofs.Reachable

/-!
Following the changes of files. Whatever the modules are that changed paths concern,
the reload of one leaves the others as they are, and the handles that it leaves to
be dropped take nothing along. Hence every built module whose watched file has
another content than the one last seen is reloaded, once, from the present contents.
The content last seen need not be the one that a module was built from.
-/

namespace ScriptHost

/-- Only the script module at an address may be touched, and the files that it is
registered for. -/
def Touch.only (address : Nat) : Touch → Prop
  | .module place _ => place = address
  | .watch place => place = address
  | _ => False

namespace Scripts

variable {may : Touch → Prop} {before after : Scripts} {address other : Nat}

theorem Change.module?_elsewhere (hchange : Change (Touch.only address) before after)
    (hne : other ≠ address) : after.module? other = before.module? other := by
  have hput : ∀ {place} (module : Option ScriptModule), place = address →
      (before.put place module).module? other = before.module? other := by
    rintro place module rfl
    exact before.module?_put_other module (Ne.symm hne)
  cases hchange with
  | edit edited _ hmay => exact hput _ hmay
  | build compiled _ hmay => exact hput _ hmay
  | discard _ hmay => rw [module?_leave]; exact hput _ hmay
  | renew tree _ hmay => rw [module?_leave]; exact hput _ hmay
  | vanish _ hmay => rw [module?_leave]; exact hput _ hmay
  | create _ _ _ _ hmay => exact hmay.elim
  | _ => rfl

/-- Other modules remain as they are. -/
theorem Changes.module?_elsewhere (hchanges : Changes (Touch.only address) before after)
    (hne : other ≠ address) : after.module? other = before.module? other := by
  induction hchanges with
  | refl => rfl
  | tail _ hchange ih => exact (hchange.module?_elsewhere hne).trans ih

/-- Every registration of files is that of a module which was made before, and bears its
number if this module lives. -/
def Followed (scripts : Scripts) : Prop :=
  ∀ watcher, scripts.watcher = some watcher → ∀ registration ∈ watcher.registrations,
    registration.target < scripts.next ∧
      ∀ module, scripts.module? registration.target = some module →
        module.id = registration.id

/-- A registration was there before, or it has been made for a module under its own
number. -/
theorem Change.registration (hchange : Change may before after)
    (hunregistered : ¬ may .registrations) {watcher : Watcher}
    (hwatcher : after.watcher = some watcher) {registration : Registration}
    (hmem : registration ∈ watcher.registrations) :
    (∃ earlier, before.watcher = some earlier ∧ registration ∈ earlier.registrations) ∨
      ∃ module, before.module? registration.target = some module ∧
        module.id = registration.id := by
  have hstill : after.watcher = before.watcher → ∃ earlier,
      before.watcher = some earlier ∧ registration ∈ earlier.registrations :=
    fun hsame => ⟨watcher, hsame ▸ hwatcher, hmem⟩
  cases hchange with
  | discard => exact .inl (hstill (watcher_leave _ _))
  | renew => exact .inl (hstill (watcher_leave _ _))
  | vanish => exact .inl (hstill (watcher_leave _ _))
  | unwatch id _ =>
      obtain ⟨earlier, hearlier, rfl⟩ := Option.map_eq_some_iff.mp hwatcher
      exact .inl ⟨earlier, hearlier, Watcher.mem_of_mem_unwatch hmem⟩
  | watch tree files hmodule _ _ =>
      obtain ⟨earlier, hearlier, rfl⟩ := Option.map_eq_some_iff.mp hwatcher
      rcases Watcher.mem_watch hmem with rfl | hold
      · exact .inr ⟨_, hmodule, rfl⟩
      · exact .inl ⟨earlier, hearlier, hold⟩
  | register _ _ _ _ hmay => exact absurd hmay hunregistered
  | collect tree paths _ =>
      obtain ⟨earlier, hearlier, rfl⟩ := Option.map_eq_some_iff.mp hwatcher
      exact .inl ⟨earlier, hearlier, Watcher.mem_of_mem_collectTargets hmem⟩
  | close => cases hwatcher
  | _ => exact .inl (hstill rfl)

theorem Change.followed (hchange : Change may before after)
    (hconsistent : before.Consistent) (hunregistered : ¬ may .registrations)
    (hbefore : before.Followed) : after.Followed := by
  intro watcher hwatcher registration hmem
  have hearlier : registration.target < before.next ∧
      ∀ module, before.module? registration.target = some module →
        module.id = registration.id := by
    rcases hchange.registration hunregistered hwatcher hmem with
      ⟨earlier, hsome, hold⟩ | ⟨module, hmodule, hid⟩
    · exact hbefore earlier hsome registration hold
    · refine ⟨hconsistent.below hmodule, fun found hfound => ?_⟩
      rw [hmodule] at hfound
      cases hfound
      exact hid
  refine ⟨Nat.lt_of_lt_of_le hearlier.1 hchange.next_le, fun module hmodule => ?_⟩
  rcases hchange.identity hmodule with ⟨earlier, hold, hid, -, -⟩ | ⟨hnext, -, -⟩
  · exact hid.trans (hearlier.2 earlier hold)
  · have hlt := hearlier.1
    omega

theorem Changes.followed (hchanges : Changes may before after)
    (hconsistent : before.Consistent) (hunregistered : ¬ may .registrations)
    (hbefore : before.Followed) : after.Followed :=
  hchanges.keeps (fun hbefore hkept hchange =>
    hchange.followed hbefore hunregistered hkept) hconsistent hbefore

/-- The registrations of an executor bear the numbers of living modules. -/
theorem Followed.numbered {scripts : Scripts} (hfollowed : scripts.Followed)
    {watcher : Watcher} (hwatcher : scripts.watcher = some watcher) :
    watcher.Numbered scripts.idOf := by
  intro registration hmem id hid
  obtain ⟨module, hmodule, rfl⟩ := Option.map_eq_some_iff.mp hid
  exact (hfollowed watcher hwatcher registration hmem).2 module hmodule

end Scripts

namespace Act

open World

variable {held : Holdings} {world : World} {address : Nat}

/-- One of several handles of a script module is dropped. -/
theorem dropSome_module (hmodules : world.modules.Sound)
    (hcount : 2 ≤ world.modules.strongCount address) :
    result (dropSome [.module address]) world = [] ∧
      after (dropSome [.module address]) world =
        { world with modules := (world.modules.release address).1 } := by
  have hnone : (world.modules.release address).2 = none := by
    rw [hmodules.release_snd, if_neg (by omega)]
  have hone : result (dropOne (.module address)) world = [] ∧
      after (dropOne (.module address)) world =
        { world with modules := (world.modules.release address).1 } := by
    unfold dropOne
    rw [after_get_bind, result_get_bind]
    dsimp only
    rw [after_bind, after_set, result_bind, after_set, hnone]
    exact ⟨rfl, rfl⟩
  obtain ⟨hresult, hafter⟩ : result (dropSome [.module address]) world = _ ∧ _ :=
    dropSome_cons hone.1
  rw [hresult, hafter, hone.2]
  exact ⟨rfl, rfl⟩

/-- Handles that were handed out are dropped together with one of several handles of a
script module. -/
theorem dropAll_module {base : World} {lent : List Nat} {refs : List ObjectRef}
    (hkeeps : base.Keeps world (refs.map ObjectRef.address ++ lent))
    (hmodules : world.modules.Sound) (hcount : 2 ≤ world.modules.strongCount address) :
    ∃ middle, world.Quiet middle ∧
      after (dropAll (refs.map Owned.object ++ [.module address])) world =
        { middle with modules := (middle.modules.release address).1 } := by
  obtain ⟨hnone, hquiet, -⟩ := dropSome_keeps hkeeps
  have hmiddle := hquiet.modules
  have hlast := dropSome_module (hmiddle ▸ hmodules) (hmiddle ▸ hcount)
  obtain ⟨hresult, hafter⟩ : result (dropSome (refs.map Owned.object ++ [.module address]))
      world = _ ∧ _ := dropSome_append hnone
  refine ⟨_, hquiet, ?_⟩
  rw [dropAll_of_dropSome (hresult.trans hlast.1), hafter, hlast.2]

/-- What is left of a world once one of the modules to reload has had its turn. -/
structure Turned (address : Nat) (world after : World) : Prop where
  scripts : after.scripts = (Act.after (reload address) world).scripts
  others : ∀ other, other ≠ address → after.module? other = world.module? other
  reloaded : ∀ module, world.module? address = some module → module.state = .built →
    ∃ reloaded, after.module? address = some reloaded ∧
      module.Reloaded world.executor world.files reloaded
  files : after.files = world.files
  rules : after.executor.rules = world.executor.rules
  holders : after.holders = world.holders
  counts : ∀ other, after.modules.strongCount other =
    world.modules.strongCount other - if address = other then 1 else 0

/-- The turn of one module: it is reloaded, and the handle that has kept it alive is
dropped with all others that have come up. -/
theorem reload_turned (hworld : world.Sound held) (hrunning : world.isRunning = true)
    (hcount : 2 ≤ world.modules.strongCount address) :
    Turned address world
      (after (dropAll ((result (reload address) world).2 ++ [.module address]))
        (after (reload address) world)) := by
  obtain ⟨refs, hrefs, hkeeps⟩ := reload_keeps address (.refl hworld.objects)
  have hreloaded : world.Reaches held (Touch.only address) (after (reload address) world) :=
    reload_reaches hworld (fun _ _ => rfl) rfl
  have hsettled := reload_settled address world
  obtain ⟨middle, hquiet, hdropped⟩ := dropAll_module hkeeps hreloaded.sound.modules
    (hsettled.counts address ▸ hcount)
  have hmodules : middle.modules.Sound := hquiet.modules ▸ hreloaded.sound.modules
  have hscripts : World.scripts { middle with modules := (middle.modules.release address).1 } =
      (after (reload address) world).scripts := by
    refine (scripts_of_modules middle (fun other => ?_) (Heap.next_release _ _)).trans hquiet.scripts
    rw [hmodules.get?_release, if_neg]
    · rfl
    · rintro ⟨-, hone⟩
      rw [hquiet.modules, hsettled.counts] at hone
      omega
  have hmodule : ∀ other, World.module?
      { middle with modules := (middle.modules.release address).1 } other =
        (after (reload address) world).module? other :=
    fun other => congrFun (congrArg Scripts.module? hscripts) other
  rw [hrefs, hdropped]
  refine ⟨hscripts, fun other hne => ?_, fun module hfound hbuilt => ?_, ?_, ?_, ?_,
    fun other => ?_⟩
  · exact (hmodule other).trans (hreloaded.changes.module?_elsewhere hne)
  · obtain ⟨reloaded, hlater, hspec, -⟩ := reload_spec hworld hfound hbuilt hrunning
    exact ⟨reloaded, (hmodule address).trans hlater, hspec⟩
  · exact hquiet.files.trans hsettled.files
  · exact hquiet.rules.trans hsettled.rules
  · exact hquiet.holders.trans hsettled.holders
  · rw [Heap.strongCount_release, hquiet.modules, hsettled.counts]

/-- Every built module among those to reload is reloaded from the present contents of
its files, and all others remain as they are. -/
theorem reloadTargets_spec (addresses : List Nat) :
    ∀ {world : World}, world.Sound (held.taking addresses) → world.isRunning = true →
      addresses.Nodup →
      (∀ address ∈ addresses, 2 ≤ world.modules.strongCount address) →
      (∀ other, other ∉ addresses →
        (after (reloadTargets addresses) world).module? other = world.module? other) ∧
      ∀ address ∈ addresses, ∀ module, world.module? address = some module →
        module.state = .built →
          ∃ reloaded, (after (reloadTargets addresses) world).module? address =
              some reloaded ∧
            module.Reloaded world.executor world.files reloaded := by
  induction addresses with
  | nil => exact fun _ _ _ _ => ⟨fun _ _ => rfl, by simp⟩
  | cons first rest ih =>
      intro world hworld hrunning hnodup hcounts
      obtain ⟨hfirst, hrest⟩ := List.nodup_cons.mp hnodup
      obtain ⟨-, hothers, hreloaded, hfiles, hrules, hholders, hcount⟩ :=
        reload_turned hworld hrunning (hcounts first List.mem_cons_self)
      have hsound := (reload_dropped_reaches hworld).sound
      have hsplit : after (reloadTargets (first :: rest)) world =
          after (reloadTargets rest)
            (after (dropAll ((result (reload first) world).2 ++ [.module first]))
              (after (reload first) world)) := rfl
      rw [hsplit]
      generalize after (dropAll ((result (reload first) world).2 ++ [.module first]))
        (after (reload first) world) = turned at *
      have hstill : turned.isRunning = true := by
        simpa only [World.isRunning, hholders] using hrunning
      obtain ⟨helsewhere, hlater⟩ := ih hsound hstill hrest fun address hmem => by
        have hne : first ≠ address := fun hsame => hfirst (hsame ▸ hmem)
        rw [hcount, if_neg hne]
        exact hcounts address (List.mem_cons_of_mem _ hmem)
      refine ⟨fun other hother => ?_, fun address hmem module hmodule hbuilt => ?_⟩
      · obtain ⟨hne, hout⟩ := List.ne_and_not_mem_of_not_mem_cons hother
        exact (helsewhere other hout).trans (hothers other hne)
      · rcases List.mem_cons.mp hmem with rfl | hmem
        · obtain ⟨reloaded, hfound, hspec⟩ := hreloaded module hmodule hbuilt
          exact ⟨reloaded, (helsewhere address hfirst).trans hfound, hspec⟩
        · have hne : address ≠ first := fun hsame => hfirst (hsame ▸ hmem)
          obtain ⟨reloaded, hfound, hspec⟩ := hlater address hmem module
            ((hothers address hne).trans hmodule) hbuilt
          have hsame := hspec.listening hrules.symm reloaded.listeners
          rw [hfiles] at hsame
          exact ⟨reloaded, hfound, hsame⟩

/-- Every living module that changed paths concern has its turn, where registrations bear the
numbers of their modules. -/
theorem mem_concerned (hworld : world.Sound held) {watcher : Watcher}
    (hwatcher : world.executor.watcher = some watcher)
    (hnumbered : watcher.Numbered world.scripts.idOf) {paths : List Path}
    {registration : Registration} (hregistered : registration ∈ watcher.registrations)
    (hconcerns : watcher.Concerns world.files paths registration) {module : ScriptModule}
    (hmodule : world.module? registration.target = some module) :
    registration.target ∈ concerned watcher world paths := by
  have hlives : (world.scripts.idOf registration.target).isSome = true := by
    simp [Scripts.idOf, World.scripts, hmodule]
  obtain ⟨target, htarget, hid⟩ := Watcher.exists_target hnumbered hregistered hlives hconcerns
  have hother := (Watcher.mem_targets htarget).1
  have hsame : target.2.id = registration.id := (hnumbered _ hother _ hid).symm
  have hdistinct := hworld.scripts.distinct hwatcher
  have hequal := List.inj_on_of_nodup_map hdistinct hother hregistered hsame
  exact List.mem_map.mpr ⟨target, htarget, congrArg Registration.target hequal⟩

/-- Besides its other handles, a module that has turns is held once for each of them. -/
theorem lent_of_concerned (hworld : world.Sound held) {watcher : Watcher} {paths : List Path}
    (hmem : address ∈ concerned watcher world paths) :
    (concerned watcher world paths).count address + 1 ≤
      (noticed watcher world paths).modules.strongCount address := by
  obtain ⟨module, hlives⟩ := Option.isSome_iff_exists.mp (concerned_lives hmem)
  have hcount : (noticed watcher world paths).modules.strongCount address =
      world.modules.strongCount address + (concerned watcher world paths).count address :=
    Heap.strongCount_foldl_retain _ hworld.modules hlives
  have hpos := Heap.strongCount_pos_of_get? hlives
  omega

/-- Every built module is reloaded that is registered, under its number, for a path whose content is
not the one last seen. -/
theorem handleChanges_reloads_of_numbered (hworld : world.Sound held)
    (hrunning : world.isRunning = true) {watcher : Watcher}
    (hwatcher : world.executor.watcher = some watcher)
    (hnumbered : watcher.Numbered world.scripts.idOf) {paths : List Path}
    {registration : Registration} (hregistered : registration ∈ watcher.registrations)
    (hconcerns : watcher.Concerns world.files paths registration) {module : ScriptModule}
    (hmodule : world.module? registration.target = some module)
    (hbuilt : module.state = .built) :
    ∃ reloaded, (after (handleChanges paths) world).module? registration.target =
        some reloaded ∧
      module.Reloaded world.executor world.files reloaded := by
  have hmem := mem_concerned hworld hwatcher hnumbered hregistered hconcerns hmodule
  have hnoticed := noticed_reaches hworld hwatcher paths
  have hfound := noticed_module? hworld.modules watcher paths
  have hcounts : ∀ address ∈ concerned watcher world paths,
      2 ≤ (noticed watcher world paths).modules.strongCount address := by
    intro address haddress
    have hlent := lent_of_concerned hworld haddress
    have hone := List.count_pos_iff.mpr haddress
    omega
  rw [handleChanges_of_some hwatcher]
  obtain ⟨reloaded, hlater, hspec⟩ :=
    (reloadTargets_spec _ hnoticed.sound hrunning (Watcher.targets_nodup hnumbered paths)
      hcounts).2 _ hmem module ((hfound _).trans hmodule) hbuilt
  have hrules : world.executor.rules = (noticed watcher world paths).executor.rules := rfl
  exact ⟨reloaded, hlater, hspec.listening hrules reloaded.listeners⟩

/-- Every built module that follows a changed file is reloaded, if the content of the
file is not the one last seen. -/
theorem handleChanges_reloads (hworld : world.Sound held) (hrunning : world.isRunning = true)
    (hfollowed : world.scripts.Followed) {watcher : Watcher}
    (hwatcher : world.executor.watcher = some watcher) {paths : List Path}
    {registration : Registration} (hregistered : registration ∈ watcher.registrations)
    (hconcerns : watcher.Concerns world.files paths registration) {module : ScriptModule}
    (hmodule : world.module? registration.target = some module)
    (hbuilt : module.state = .built) :
    ∃ reloaded, (after (handleChanges paths) world).module? registration.target =
        some reloaded ∧
      module.Reloaded world.executor world.files reloaded :=
  handleChanges_reloads_of_numbered hworld hrunning hwatcher (hfollowed.numbered hwatcher)
    hregistered hconcerns hmodule hbuilt

end Act

namespace Session

open SessionAct

theorem begin_followed (files : FileTree) (plan : ExecutorPlan) :
    (begin files plan).world.scripts.Followed := by
  intro watcher hwatcher registration hmem
  cases plan.executor_isFresh.watcher hwatcher
  cases hmem

/-- As long as the host registers no files for modules itself, registrations are those
of the modules that have been built. -/
theorem run_followed {session : Session} {steps : List Step} (hsession : session.Sound)
    (hunregistered : ∀ step ∈ steps, ¬ step.may .registrations)
    (hfollowed : session.world.scripts.Followed) :
    (session.run steps).world.scripts.Followed := by
  induction steps generalizing session with
  | nil => exact hfollowed
  | cons step rest ih =>
      have hadvances := step_advances hsession step
      exact ih hadvances.sound (fun later hlater => hunregistered later (by simp [hlater]))
        (hadvances.world.changes.followed hsession.scripts (hunregistered step (by simp))
          hfollowed)

/-- Whenever the host hands changed paths over, every built module that is registered
for one of them is reloaded from the present contents of its files or fails, if the
content of the path is readable and not the one last seen. -/
theorem changed_reloads (files : FileTree) (plan : ExecutorPlan) {steps : List Step}
    (hunregistered : ∀ step ∈ steps, ¬ step.may .registrations) :
    let session := (begin files plan).run steps
    ∀ {watcher paths registration module}, session.hasExecutor = true →
      session.world.executor.watcher = some watcher →
      registration ∈ watcher.registrations →
      watcher.Concerns session.world.files paths registration →
      session.world.module? registration.target = some module → module.state = .built →
      ∃ reloaded, (session.step (.onFiles (.changed paths))).2.world.module?
          registration.target = some reloaded ∧
        module.Reloaded session.world.executor session.world.files reloaded := by
  intro session watcher paths registration module hexecutor hwatcher hregistered hconcerns
    hmodule hbuilt
  have hsession : session.Sound := begin_run_sound files plan steps
  have hfollowed : session.world.scripts.Followed :=
    run_followed (begin_sound files plan) hunregistered (begin_followed files plan)
  have hrunning : session.world.isRunning = true :=
    hsession.running_of_held (by simp [held, hexecutor])
  have hperformed : (after (perform (.onFiles (.changed paths))) session).world =
      Act.after (Act.handleChanges paths) session.world := by
    unfold perform FileStep.perform
    rw [after_needExecutor_bind, if_pos hexecutor]
    rfl
  have hreloads := Act.handleChanges_reloads hsession hrunning hfollowed hwatcher
    hregistered hconcerns hmodule hbuilt
  rw [← hperformed] at hreloads
  exact hreloads

/-- A session that follows the changes of files, with one file. -/
def shared : Session :=
  begin ⟨.directory [("lib.txt", .file (.text "fn f() { 1 }"))], []⟩
    ⟨none, none, some true, none, []⟩

/-- The steps by which a module is built from a file, which then changes. -/
def changingSteps : List Step :=
  [.onModules (.create (some "a") "A" "host" none),
    .onModules (.addFile "a" ⟨"/lib.txt"⟩),
    .onModules (.build "a" none),
    .onFiles (.write ⟨"/lib.txt"⟩ (.file (.text "fn f() { 2 }")))]

/-- The module is reloaded when the changed file is handed over. -/
theorem changed_reloads_built : ∃ module reloaded,
    (shared.run changingSteps).world.module? 1 = some module ∧ module.state = .built ∧
      ((shared.run changingSteps).step
        (.onFiles (.changed [⟨"/lib.txt"⟩]))).2.world.module? 1 = some reloaded ∧
      module.Reloaded (shared.run changingSteps).world.executor
        (shared.run changingSteps).world.files reloaded := by
  have hunregistered : ∀ step ∈ changingSteps, ¬ step.may .registrations := by
    simp [changingSteps, Step.may]
  have hstate : ((shared.run changingSteps).world.module? 1).map ScriptModule.state =
      some .built := by decide +kernel
  have hexecutor : (shared.run changingSteps).hasExecutor = true := by decide +kernel
  have hcontent : ((shared.run changingSteps).world.files.read
      ((shared.run changingSteps).world.files.normalize ⟨"/lib.txt"⟩)).toOption =
        some (.text "fn f() { 2 }") := by decide +kernel
  have hregistered : (shared.run changingSteps).world.executor.watcher.map (fun watcher =>
      (watcher.registrations.map fun registration => (registration.target,
        registration.reads
          ((shared.run changingSteps).world.files.normalize ⟨"/lib.txt"⟩)),
        watcher.contents.get? ((shared.run changingSteps).world.files.normalize
          ⟨"/lib.txt"⟩).components)) =
      some ([(1, true)], some (.text "fn f() { 1 }")) := by decide +kernel
  have hreloads := @changed_reloads
    ⟨.directory [("lib.txt", .file (.text "fn f() { 1 }"))], []⟩
    ⟨none, none, some true, none, []⟩ changingSteps hunregistered
  rw [← shared] at hreloads
  generalize shared.run changingSteps = session at *
  obtain ⟨module, hmodule, hbuilt⟩ := Option.map_eq_some_iff.mp hstate
  obtain ⟨watcher, hwatcher, hwatched⟩ := Option.map_eq_some_iff.mp hregistered
  obtain ⟨hregistrations, hcontents⟩ := Prod.mk.inj hwatched
  obtain ⟨registration, rest, hlist, hone, -⟩ := List.map_eq_cons_iff.mp hregistrations
  obtain ⟨htarget, hreads⟩ := Prod.mk.inj hone
  have hread : session.world.files.read (session.world.files.normalize ⟨"/lib.txt"⟩) =
      .ok (.text "fn f() { 2 }") := by
    cases hresult : session.world.files.read
        (session.world.files.normalize ⟨"/lib.txt"⟩) with
    | error err => rw [hresult] at hcontent; cases hcontent
    | ok content => rw [hresult] at hcontent; cases hcontent; rfl
  have hnews : watcher.IsNews session.world.files ⟨"/lib.txt"⟩ :=
    ⟨_, hread, by rw [hcontents]; decide⟩
  have hmem : registration ∈ watcher.registrations := by rw [hlist]; exact List.mem_cons_self
  obtain ⟨reloaded, hlater, hspec⟩ := hreloads hexecutor hwatcher hmem
    ⟨⟨"/lib.txt"⟩, List.mem_cons_self, hreads, hnews⟩ (htarget ▸ hmodule) hbuilt
  exact ⟨module, reloaded, hmodule, hbuilt, htarget ▸ hlater, hspec⟩

/-- The steps by which another module is built from the same file. -/
def sharingSteps : List Step :=
  [.onModules (.create (some "b") "B" "host" none),
    .onModules (.addFile "b" ⟨"/lib.txt"⟩),
    .onModules (.build "b" none)]

/-- A module that has been built from a file which another module has been built from
since it changed is not reloaded for this change. -/
theorem changed_missed :
    ((shared.run (changingSteps ++ sharingSteps ++
        [.onFiles (.changed [⟨"/lib.txt"⟩])])).world.module? 1).map (fun module =>
      (module.state, module.reloads, module.segments.map Segment.code)) =
        some (.built, 0, ["fn f() { 1 }"]) ∧
    ((shared.run (changingSteps ++ sharingSteps)).world.files.readText
      ⟨"/lib.txt"⟩).toOption = some "fn f() { 2 }" := by
  refine ⟨?_, ?_⟩
  · decide +kernel
  · decide +kernel

end Session

end ScriptHost
