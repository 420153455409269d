import ScriptHost.Proofs.Hatching
import ScriptHost.Proofs.Replacing

/-!
What becomes of game modules that have come since some time while files change, their script
modules are given up, and they are initialized again. Whatever happens, all that has come is
still accounted for.
-/

namespace ScriptHost

namespace World

open Delivery

variable {outset : Outset} {unheard lent : List Nat} {since : List Delivery}
  {before middle after world : World}

theorem Refreshes.trans (hfirst : Refreshes outset unheard lent since before middle)
    (hsecond : ∀ more, middle.Grows outset [] unheard lent (more ++ since) →
      Refreshes outset unheard lent (more ++ since) middle after) :
    Refreshes outset unheard lent since before after := by
  obtain ⟨more, hgrows⟩ := hfirst.grows
  have hlast := hsecond more hgrows
  obtain ⟨later, hgrows'⟩ := hlast.grows
  refine ⟨⟨later ++ more, by rwa [List.append_assoc]⟩, hlast.loader.trans hfirst.loader,
    fun place => (hlast.games place).trans (hfirst.games place)⟩

/-- Nothing happens to script modules and objects. -/
theorem Grows.refreshes (hgrows : before.Grows outset [] unheard lent since)
    (hbefore : before.scripts.Consistent) (hobjects : after.objects = before.objects)
    (hloader : after.loader = before.loader) (hscripts : after.scripts = before.scripts)
    (hsilent : after.deliveries = before.deliveries) :
    Refreshes outset unheard lent since before after := by
  have hgames : ∀ place, after.game? place = before.game? place := fun place => by
    simp only [World.game?, hobjects]
  refine ⟨⟨[], hgrows.of_tallies hbefore (hobjects ▸ hgrows.tallies) (Nat.le_of_eq ?_) hgames
    hscripts hsilent⟩, by rw [World.loaderHold, World.loaderHold, hloader], hgames⟩
  rw [hobjects]

/-- The executor looks at the files that have changed. -/
theorem Grows.noticed (hgrows : world.Grows outset [] unheard lent since)
    (hworld : world.modules.Sound) (hscripts : world.scripts.Consistent)
    (hcyclic : outset.Cyclic) {watcher : Watcher}
    (hwatcher : world.executor.watcher = some watcher) (paths : List Path) :
    (Act.noticed watcher world paths).Grows outset [] unheard lent since := by
  have hnoticed := Act.noticed_scripts hworld hwatcher paths
  have hcollect : ∀ may : Touch → Prop, may .changedFiles → Scripts.Change may world.scripts
      (world.scripts.withWatcher fun watcher =>
        (watcher.collectTargets world.files world.scripts.idOf paths).1) :=
    fun may hmay => .collect world.files paths hmay
  refine
    { tallies := hgrows.tallies
      assigned := ?_
      voiced := hgrows.voiced.silent hscripts (Nat.le_refl _)
        (hnoticed ▸ .single (hcollect _ trivial)) rfl fun place =>
          (hgrows.voiced.voices place).works rfl ?_ }
  · rw [hnoticed]
    exact hgrows.assigned.rewatches (hcollect _ (hcyclic.may _))
      fun watcher registration hmem => Watcher.mem_of_mem_collectTargets hmem
  · intro game script module _ _ _ hmodule
    exact ⟨module, (congrFun (congrArg Scripts.module? hnoticed) script).trans hmodule, rfl, rfl,
      rfl⟩

end World

namespace Act

open World LoadAct

variable {outset : Outset} {making unheard lent : List Nat} {since : List Delivery}
  {held : Holdings} {world : World} {place : Nat} {game : GameModule}

/-! ### Files that change -/

/-- The script modules that are to be reloaded have their turns one after another. -/
theorem reloadTargets_refreshes (hcyclic : outset.Cyclic) (addresses : List Nat) :
    ∀ {world : World} {since : List Delivery},
      world.Grows outset [] unheard lent since → world.Sound (held.taking addresses) →
        world.isRunning = true →
        (∀ address ∈ addresses,
          addresses.count address < world.modules.strongCount address) →
          Refreshes outset unheard lent since world (after (reloadTargets addresses) world) := by
  induction addresses with
  | nil =>
      intro world since hgrows hworld _ _
      exact hgrows.refreshes hworld.scripts rfl rfl rfl rfl
  | cons first rest ih =>
      intro world since hgrows hworld hrunning hcounts
      have hmany : 2 ≤ world.modules.strongCount first := by
        have hfirst := hcounts first List.mem_cons_self
        rw [List.count_cons_self] at hfirst
        omega
      have hturned := reload_turned hworld hrunning hmany
      have hsound := (reload_dropped_reaches hworld).sound
      have hrefreshes := hgrows.recasts hworld hrunning hcyclic
        (reload_dropped_recasts hworld hmany)
      have hsplit : after (reloadTargets (first :: rest)) world = after (reloadTargets rest)
          (after (dropAll ((result (reload first) world).2 ++ [.module first]))
            (after (reload first) world)) := rfl
      rw [hsplit]
      generalize after (dropAll ((result (reload first) world).2 ++ [.module first]))
        (after (reload first) world) = turned at *
      have hstill : turned.isRunning = true := by
        simpa only [World.isRunning, hturned.holders] using hrunning
      refine hrefreshes.trans fun more hgrows' => ih hgrows' hsound hstill fun other hmem => ?_
      have hbefore := hcounts other (List.mem_cons_of_mem _ hmem)
      rw [List.count_cons] at hbefore
      rw [hturned.counts]
      by_cases hsame : first = other
      · simp only [hsame, beq_self_eq_true, if_true] at hbefore ⊢
        omega
      · simp only [beq_iff_eq, hsame, if_false] at hbefore ⊢
        omega

/-- Those script modules are reloaded that changed paths concern. -/
theorem handleChanges_refreshes (hcyclic : outset.Cyclic)
    (hgrows : world.Grows outset [] unheard lent since) (hworld : world.Sound held)
    (hrunning : world.isRunning = true) (paths : List Path) :
    Refreshes outset unheard lent since world (after (handleChanges paths) world) := by
  cases hwatcher : world.executor.watcher with
  | none =>
      unfold handleChanges
      rw [after_get_bind, hwatcher]
      exact hgrows.refreshes hworld.scripts rfl rfl rfl rfl
  | some watcher =>
      rw [handleChanges_of_some hwatcher]
      have hnoticed := hgrows.noticed hworld.modules hworld.scripts hcyclic hwatcher paths
      have hsound := (noticed_reaches hworld hwatcher paths).sound
      have hstart : Refreshes outset unheard lent since world (noticed watcher world paths) :=
        ⟨⟨[], hnoticed⟩, rfl, fun _ => rfl⟩
      refine hstart.trans fun more hgrows' =>
        reloadTargets_refreshes hcyclic _ hgrows' hsound hrunning fun address hmem => ?_
      obtain ⟨module, hmodule⟩ := Option.isSome_iff_exists.mp (concerned_lives hmem)
      have hcount : (noticed watcher world paths).modules.strongCount address =
          world.modules.strongCount address + (concerned watcher world paths).count address :=
        Heap.strongCount_foldl_retain _ hworld.modules hmodule
      have hpos := Heap.strongCount_pos_of_get? hmodule
      omega

/-- The changes are handled that have been noticed. -/
theorem poll_refreshes (hcyclic : outset.Cyclic)
    (hgrows : world.Grows outset [] unheard lent since) (hworld : world.Sound held)
    (hrunning : world.isRunning = true) :
    Refreshes outset unheard lent since world (after poll world) := by
  have hread : world.Reaches held Touch.anything { world with pending := [] } :=
    hworld.reaches_same rfl rfl rfl rfl rfl
  have hstart : Refreshes outset unheard lent since world { world with pending := [] } :=
    hgrows.refreshes hworld.scripts rfl rfl rfl rfl
  exact hstart.trans fun more hgrows' =>
    handleChanges_refreshes hcyclic hgrows' hread.sound hrunning world.pending

/-! ### Game modules that are released and initialized again -/

/-- A game module gives up its script module, and the handles that come up are dropped. -/
theorem releaseScript_brings (hbrings : world.Brings held outset [] unheard lent since)
    (honce : ¬ outset.once) (hnew : outset.New world place game) :
    ∃ more, (after (dropAll (result (detachGame place true) world))
      (after (detachGame place true) world)).Brings held outset [] unheard lent
        (more ++ since) := by
  have hidle : game.initialized = false → (true : Bool) = true → game.script = none :=
    fun hidle _ =>
      ((hbrings.grows.voiced.voices place).idle hnew List.not_mem_nil hidle).1
  obtain ⟨told, more, -, hdropped, -⟩ := detachGame_brings hbrings hnew (by simp) hidle
    (fun _ _ => id) (fun hcontra => absurd hcontra honce) (List.nil_subset _)
  exact ⟨more ++ told, by rwa [List.append_assoc]⟩

/-- A game module is initialized again, if it is not initialized. -/
theorem initializeGame_brings (hbrings : world.Brings held outset [] [] lent since)
    (hnew : outset.New world place game) (hlent : place ∈ lent) :
    ∃ more, (after (initializeGame place) world).Brings held outset [] [] lent
      (more ++ since) := by
  have hready : after (initializeGame place) world =
      after (makeReady (loadNested (nestingBound world)) place).run world := by
    unfold initializeGame
    rw [after_get_bind, after_bind]
    split <;> rfl
  rw [hready]
  by_cases hinit : game.initialized = true
  · refine ⟨[], ?_⟩
    unfold makeReady
    rw [after_run_get_bind, hnew.1]
    dsimp only
    rw [if_pos hinit]
    exact hbrings
  · by_cases hmarked : game.initializing = true
    · refine ⟨[], ?_⟩
      unfold makeReady
      rw [after_run_get_bind, hnew.1]
      dsimp only
      rw [if_neg hinit, if_pos hmarked]
      exact hbrings
    · obtain ⟨more, hreadied⟩ := makeReady_readied (loadNested_raises (nestingBound world)) hbrings
        (by simp [Marks]) (List.nil_subset _) hnew hlent List.not_mem_nil (by simpa using hinit)
        (by simpa using hmarked) (fun _ _ => id)
      refine ⟨more, ?_⟩
      cases hresult : result (makeReady (loadNested (nestingBound world)) place).run world with
      | ok value => exact (hreadied.worked hresult).1
      | error err => exact (hreadied.failed err hresult).1

end Act

end ScriptHost
