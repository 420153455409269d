import ScriptHost.Proofs.Noticing
import ScriptHost.Proofs.Reloading
import ScriptHost.Proofs.Returning
import ScriptHost.World.Changes

/-!
Files that change. Writing a file touches no script module. Where changes are
handled, every module that they concern is kept alive until its reload is over,
so that no module is missing when its turn comes.
-/

namespace ScriptHost

namespace Heap

variable {α : Type}

/-- Further handles change nothing but how many there are. -/
theorem Sound.get?_foldl_retain (addresses : List Nat) :
    ∀ {heap : Heap α}, heap.Sound →
      (addresses.foldl Heap.retain heap).Sound ∧
        (addresses.foldl Heap.retain heap).next = heap.next ∧
          ∀ address, (addresses.foldl Heap.retain heap).get? address =
            heap.get? address := by
  induction addresses with
  | nil => exact fun hheap => ⟨hheap, rfl, fun _ => rfl⟩
  | cons first rest ih =>
      intro heap hheap
      obtain ⟨hsound, hnext, hget⟩ := ih (hheap.retain first)
      refine ⟨hsound, hnext.trans (next_retain heap first), fun address => ?_⟩
      rw [← hheap.get?_retain first address]
      exact hget address

theorem strongCount_foldl_retain (addresses : List Nat) {address : Nat} :
    ∀ {heap : Heap α} {content : α}, heap.Sound → heap.get? address = some content →
      (addresses.foldl Heap.retain heap).strongCount address =
        heap.strongCount address + addresses.count address := by
  induction addresses with
  | nil => exact fun _ _ => rfl
  | cons first rest ih =>
      intro heap content hheap hget
      have hstill : (heap.retain first).get? address = some content :=
        (hheap.get?_retain first address).trans hget
      have hrest := ih (hheap.retain first) hstill
      rw [List.foldl_cons, hrest, List.count_cons]
      by_cases hsame : first = address
      · subst hsame
        rw [heap.strongCount_retain hget]
        simp only [if_true, beq_self_eq_true]
        omega
      · have hother : (heap.retain first).strongCount address =
            heap.strongCount address := by
          unfold Heap.retain
          split
          · rfl
          · rw [strongCount_setCell, if_neg hsame]
        rw [hother]
        simp [hsame]

end Heap

namespace World

variable {held : Holdings} {may : Touch → Prop} {world after : World}

/-- A world whose files have changed, or the changes that have been noticed. -/
theorem Sound.reaches_same (hworld : world.Sound held)
    (hscripts : after.scripts = world.scripts)
    (hobjects : after.objects = world.objects) (hmodules : after.modules = world.modules)
    (hholders : after.holders = world.holders) (hloader : after.loader = world.loader) :
    world.Reaches held may after := by
  refine hworld.reaches (.of_eq hscripts) hobjects (hmodules ▸ hworld.modules)
    (by rw [hmodules]) ?_ hholders hloader
  intro address hlives
  refine ⟨?_, by rw [hmodules]⟩
  unfold World.module?
  rw [hmodules]
  exact hlives

theorem Sound.reaches_write (hworld : world.Sound held) (path : Path)
    (node : FileNode) : world.Reaches held may (world.write path node) := by
  unfold World.write
  dsimp only
  split
  · exact hworld.reaches_same rfl rfl rfl rfl rfl
  · exact hworld.reaches_same rfl rfl rfl rfl rfl

theorem Sound.reaches_remove (hworld : world.Sound held) (path : Path) :
    world.Reaches held may (world.remove path) :=
  hworld.reaches_same rfl rfl rfl rfl rfl

/-- The world in which further handles of script modules are held. -/
def retaining (world : World) (addresses : List Nat) : World :=
  { world with modules := addresses.foldl Heap.retain world.modules }

/-- Nothing but the number of handles changes. -/
theorem retaining_scripts (hworld : world.modules.Sound) (addresses : List Nat) :
    (world.retaining addresses).scripts = world.scripts := by
  obtain ⟨-, hnext, hget⟩ := hworld.get?_foldl_retain addresses
  exact world.scripts_of_modules hget hnext

/-- Handles can be taken of script modules that live. -/
theorem Sound.retaining (hworld : world.Sound held) {addresses : List Nat}
    (hlives : ∀ address ∈ addresses, (world.module? address).isSome = true) :
    world.Reaches (held.taking addresses) may (world.retaining addresses) := by
  obtain ⟨hsound, -, hget⟩ := hworld.modules.get?_foldl_retain addresses
  have hscripts := retaining_scripts hworld.modules addresses
  refine ⟨.of_eq hscripts, .inl, .of_games (Nat.le_refl _) fun hgame => hgame,
    hworld.objects, hsound, hscripts ▸ hworld.scripts, hworld.holders, ?_⟩
  intro hrunning address ids games howners
  have hearlier : world.Owners address ids games :=
    howners.earlier (fun _ hid => hid) fun {other game} hgame hscript =>
      ⟨game, hgame, hscript⟩
  have hcounts := hworld.handles hrunning hearlier
  have hkeep : ∀ {module}, world.module? address = some module →
      (∃ module, (world.retaining addresses).module? address = some module) ∧
        (world.retaining addresses).modules.strongCount address =
          world.modules.strongCount address + addresses.count address :=
    fun {module} hmodule => ⟨⟨module, (hget address).trans hmodule⟩,
      Heap.strongCount_foldl_retain addresses hworld.modules hmodule⟩
  simp only [Holdings.taking, List.count_append]
  intro hpos
  by_cases hmem : address ∈ addresses
  · obtain ⟨module, hmodule⟩ := Option.isSome_iff_exists.mp (hlives address hmem)
    obtain ⟨hstill, hcount⟩ := hkeep hmodule
    refine ⟨hstill, ?_⟩
    rw [hcount]
    by_cases hbefore : 0 < ids.length + games.length + held.modules.count address
    · have hle := (hcounts hbefore).2
      omega
    · omega
  · rw [List.count_eq_zero_of_not_mem hmem] at hpos ⊢
    obtain ⟨⟨module, hmodule⟩, hle⟩ := hcounts (by omega)
    obtain ⟨hstill, hcount⟩ := hkeep hmodule
    exact ⟨hstill, by omega⟩

end World

namespace Act

open World

variable {held : Holdings} {world : World}

/-- A reload hands out handles of objects alone. -/
theorem reload_modules (hworld : world.objects.Sound) (address : Nat) :
    Owned.modules (result (reload address) world).2 = [] := by
  obtain ⟨refs, hrefs, -⟩ := reload_keeps address (.refl hworld)
  rw [hrefs, Owned.modules_objects]

/-- A module is reloaded before its handle goes. -/
theorem reload_dropped_reaches {address : Nat} {rest : List Nat}
    (hworld : world.Sound (held.taking (address :: rest))) :
    world.Reaches (held.taking rest) Touch.ordinary
      (after (dropAll ((result (reload address) world).2 ++ [.module address]))
        (after (reload address) world)) := by
  have hreloaded : world.Reaches _ Touch.ordinary (after (reload address) world) :=
    reload_reaches hworld (within_ordinary _ _) trivial
  refine hreloaded.trans (dropAll_reaches ?_)
  rw [Owned.modules_append, reload_modules hworld.objects]
  exact hreloaded.sound

theorem reloadTargets_reaches (addresses : List Nat) :
    ∀ {world : World}, world.Sound (held.taking addresses) →
      world.Reaches held Touch.ordinary (after (reloadTargets addresses) world) := by
  induction addresses with
  | nil =>
      intro world hworld
      exact .refl hworld
  | cons address rest ih =>
      intro world hworld
      have hdropped := reload_dropped_reaches hworld
      unfold reloadTargets
      rw [after_bind]
      exact hdropped.trans (ih hdropped.sound)

/-- The modules that changed paths concern, in the order of their reloads. -/
def concerned (watcher : Watcher) (world : World) (paths : List Path) : List Nat :=
  (watcher.collectTargets world.files world.scripts.idOf paths).2.map
    fun target => target.2.target

theorem concerned_lives {watcher : Watcher} {paths : List Path} {address : Nat}
    (hmem : address ∈ concerned watcher world paths) :
    (world.module? address).isSome = true := by
  obtain ⟨target, htarget, rfl⟩ := List.mem_map.mp hmem
  obtain ⟨-, hlives, -⟩ := Watcher.mem_targets htarget
  simpa [Scripts.idOf, World.scripts] using hlives

/-- The world in which the modules that changed paths concern are about to be
reloaded. -/
def noticed (watcher : Watcher) (world : World) (paths : List Path) : World :=
  (world.retaining (concerned watcher world paths)).withExecutor fun executor =>
    { executor with
      watcher := some (watcher.collectTargets world.files world.scripts.idOf paths).1 }

theorem noticed_module? (hworld : world.modules.Sound) (watcher : Watcher) (paths : List Path)
    (address : Nat) : (noticed watcher world paths).module? address = world.module? address :=
  (hworld.get?_foldl_retain (concerned watcher world paths)).2.2 address

theorem handleChanges_of_some {watcher : Watcher}
    (hwatcher : world.executor.watcher = some watcher) (paths : List Path) :
    after (handleChanges paths) world =
      after (reloadTargets (concerned watcher world paths))
        (noticed watcher world paths) := by
  unfold handleChanges
  rw [after_get_bind, hwatcher]
  rfl

/-- What the watcher has seen is all that changes. -/
theorem noticed_scripts (hworld : world.modules.Sound) {watcher : Watcher}
    (hwatcher : world.executor.watcher = some watcher) (paths : List Path) :
    (noticed watcher world paths).scripts = world.scripts.withWatcher
      fun watcher => (watcher.collectTargets world.files world.scripts.idOf paths).1 := by
  unfold noticed
  rw [scripts_withExecutor, retaining_scripts hworld]
  ext1 <;> try rfl
  simp only [Scripts.withWatcher, World.scripts, hwatcher, Option.map_some]

theorem noticed_reaches (hworld : world.Sound held) {watcher : Watcher}
    (hwatcher : world.executor.watcher = some watcher) (paths : List Path) :
    world.Reaches (held.taking (concerned watcher world paths)) Touch.ordinary
      (noticed watcher world paths) := by
  have hretained : world.Reaches (held.taking (concerned watcher world paths))
      Touch.ordinary (world.retaining (concerned watcher world paths)) :=
    hworld.retaining fun _ hmem => concerned_lives hmem
  have hsteady := (world.retaining (concerned watcher world paths)).withExecutor_steady
    (fun executor => { executor with
      watcher := some (watcher.collectTargets world.files world.scripts.idOf paths).1 })
    rfl
  refine hretained.trans (hsteady.reaches hretained.sound ?_)
  have hcollect : Scripts.Change Touch.ordinary world.scripts
      (world.scripts.withWatcher fun watcher =>
        (watcher.collectTargets world.files world.scripts.idOf paths).1) :=
    .collect world.files paths trivial
  rw [retaining_scripts hworld.modules]
  exact .single (noticed_scripts hworld.modules hwatcher paths ▸ hcollect)

theorem handleChanges_reaches (hworld : world.Sound held) (paths : List Path) :
    world.Reaches held Touch.ordinary (after (handleChanges paths) world) := by
  cases hwatcher : world.executor.watcher with
  | none =>
      unfold handleChanges
      rw [after_get_bind, hwatcher]
      exact .refl hworld
  | some watcher =>
      have hnoticed := noticed_reaches hworld hwatcher paths
      rw [handleChanges_of_some hwatcher]
      exact hnoticed.trans (reloadTargets_reaches _ hnoticed.sound)

theorem poll_reaches (hworld : world.Sound held) :
    world.Reaches held Touch.ordinary (after poll world) := by
  have hread : world.Reaches held Touch.ordinary { world with pending := [] } :=
    hworld.reaches_same rfl rfl rfl rfl rfl
  exact hread.trans (handleChanges_reaches hread.sound world.pending)

/-- The host may register files for any module, under any number. -/
theorem watchFiles_reaches (hworld : world.Sound held) (id address : Nat)
    (files : List Path) {may : Touch → Prop} (hmay : may .registrations) :
    world.Reaches held may (after (watchFiles id address files) world) := by
  unfold watchFiles
  rw [after_get_bind]
  split
  · exact .refl hworld
  · rename_i watcher hwatcher
    dsimp only
    rw [after_bind, after_onExecutor, after_pure]
    refine (world.withExecutor_steady _ rfl).reaches hworld ?_
    have hregister : Scripts.Change may world.scripts
        (world.scripts.withWatcher fun watcher =>
          (watcher.watch world.files id address files).1) :=
      .register world.files id address files hmay
    have hafter : (world.withExecutor fun executor => { executor with
        watcher := some (watcher.watch world.files id address files).1 }).scripts =
          world.scripts.withWatcher fun watcher =>
            (watcher.watch world.files id address files).1 := by
      rw [scripts_withExecutor]
      ext1 <;> try rfl
      simp only [Scripts.withWatcher, World.scripts, hwatcher, Option.map_some]
    rw [hafter]
    exact .single hregister

end Act

end ScriptHost
