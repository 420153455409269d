import ScriptHost.Proofs.Departing

/-!
What falls with a dropped handle. Of the game modules that have come since some time those go
of which nobody holds a handle any more, one after another. Each of them hears the release
event if it has to, and its imports go after it if they go.
-/

namespace ScriptHost

namespace World

open Delivery

variable {outset : Outset} {making unheard lent : List Nat} {since more : List Delivery}
  {held : Holdings} {start before middle after world noted : World} {place script : Nat}
  {game : GameModule} {module : ScriptModule} {outcome : List Owned × World}

/-! ### What is told meanwhile -/

/-- What has been told while handles were dropped: release events, to game modules that are
gone. None of them goes twice, and none that another one imports goes before that. -/
structure Falls (start : World) (more : List Delivery) (world : World) : Prop
    extends start.Sheds world where
  heard : ∀ delivery ∈ more, delivery.event = .release ∧
    (∃ game, start.game? delivery.game = some game) ∧ world.game? delivery.game = none
  order : more.Pairwise fun later earlier => earlier.game ≠ later.game ∧
    ∀ game, start.game? later.game = some game → earlier.game ∉ game.dependencies

/-- Nothing is told. -/
theorem Sheds.falls (hsheds : start.Sheds world) : start.Falls [] world where
  toSheds := hsheds
  heard := by simp
  order := .nil

/-- One game module goes. -/
theorem Told.falls (htold : start.Told place game more) (hsheds : start.Sheds world)
    (hgame : start.game? place = some game) (hgone : world.game? place = none) :
    start.Falls more world := by
  obtain ⟨hlength, hevents⟩ := htold.events
  refine ⟨hsheds, fun delivery hmem => ?_, ?_⟩
  · obtain ⟨hplace, hevent, -⟩ := hevents delivery hmem
    exact ⟨hevent, ⟨game, hplace ▸ hgame⟩, hplace ▸ hgone⟩
  · match more, hlength with
    | [], _ => exact .nil
    | [_], _ => exact List.pairwise_singleton _ _

/-- What goes later has been there with its imports until then. -/
theorem Falls.trans {later earlier : List Delivery} (hfirst : start.Falls earlier middle)
    (hsecond : middle.Falls later world)
    (hlives : ∀ delivery ∈ later, ∀ game, middle.game? delivery.game = some game →
      ∀ target ∈ game.dependencies,
        ∃ found, middle.objects.get? target = some found ∧ ¬ found.IsBare) :
    start.Falls (later ++ earlier) world := by
  refine ⟨hfirst.toSheds.trans hsecond.toSheds, fun delivery hmem => ?_, ?_⟩
  · rcases List.mem_append.mp hmem with hlater | hearlier
    · obtain ⟨hevent, ⟨game, hgame⟩, hgone⟩ := hsecond.heard delivery hlater
      exact ⟨hevent, ⟨game, hfirst.game? hgame⟩, hgone⟩
    · obtain ⟨hevent, hthere, hgone⟩ := hfirst.heard delivery hearlier
      refine ⟨hevent, hthere, Option.eq_none_iff_forall_ne_some.mpr fun game hgame => ?_⟩
      rw [hsecond.game? hgame] at hgone
      cases hgone
  · refine List.pairwise_append.mpr ⟨?_, hfirst.order, fun after hlater before hearlier => ?_⟩
    · refine hsecond.order.imp_of_mem fun {after before} hlater _ hapart => ?_
      obtain ⟨-, ⟨game, hgame⟩, -⟩ := hsecond.heard after hlater
      refine ⟨hapart.1, fun found hfound => hapart.2 found ?_⟩
      rw [hfirst.game? hgame] at hfound
      exact hgame.trans hfound
    · obtain ⟨-, ⟨game, hgame⟩, -⟩ := hsecond.heard after hlater
      obtain ⟨-, ⟨lost, hlost⟩, hgone⟩ := hfirst.heard before hearlier
      refine ⟨fun hsame => ?_, fun found hfound htarget => ?_⟩
      · rw [hsame, hgame] at hgone
        cases hgone
      · rw [hfirst.game? hgame] at hfound
        cases hfound
        obtain ⟨body, hbody, hbare⟩ := hlives after hlater game hgame _ htarget
        have hearlier' := (hfirst.bodies hbody).resolve_right hbare
        rw [get?_of_game? hlost] at hearlier'
        cases hearlier'
        rw [(game?_eq_some_iff _ _ _).mpr hbody] at hgone
        cases hgone

end World

namespace Act

open World

variable {outset : Outset} {making unheard lent : List Nat} {since more : List Delivery}
  {held : Holdings} {world : World} {place : Nat} {game : GameModule}

/-- One holder of the executor less, where others are left. -/
theorem releaseExecutor_of_held (hworld : world.Sound held.holding)
    (hheld : 0 < held.executor + world.loaderHold) :
    result releaseExecutor world = [] ∧
      (after releaseExecutor world).scripts = world.scripts := by
  have hholders := hworld.holders [] List.nodup_nil (by simp)
  simp only [Holdings.holding, List.length_nil] at hholders
  have hleft : ¬ (world.holders - 1 = 0 && world.isRunning) = true := by
    simp only [Bool.and_eq_true, decide_eq_true_eq]
    omega
  unfold releaseExecutor
  rw [after_get_bind, result_get_bind]
  dsimp only
  rw [if_neg hleft]
  refine ⟨rfl, ?_⟩
  have hthere : World.isRunning { world with holders := world.holders - 1 } =
      world.isRunning := by
    simp only [World.isRunning, decide_eq_decide]
    omega
  show World.scripts { world with holders := world.holders - 1 } = world.scripts
  ext1 <;> try rfl
  exact hthere

/-- The last handle of a game module that has come since is dropped. -/
theorem dropGame_grows {ref : ObjectRef}
    (hgrows : world.Grows outset making unheard (ref.address :: lent) since)
    (hworld : world.Sound held) (hheld : 0 < held.executor + world.loaderHold)
    (hmaking : making ⊆ lent)
    (hsome : (world.objects.release ref.address).2 = some (.game game)) :
    outset.New world ref.address game ∧ ∃ more, world.Told ref.address game more ∧
      (after (dropOne (.object ref)) world).Grows outset making unheard
        (Owned.objects (result (dropOne (.object ref)) world) ++ lent) (more ++ since) ∧
      (∀ script ∈ Owned.modules (result (dropOne (.object ref)) world),
        outset.scripts.next ≤ script) ∧
      ∀ place, (after (dropOne (.object ref)) world).game? place =
        if ref.address = place then none else world.game? place := by
  obtain ⟨hgame, -, hreleased⟩ := hworld.destroyGame hsome
  obtain ⟨hnone, -, hcount⟩ := hgrows.tallies.unowned_of_last hsome
  have hnew : outset.New world ref.address game := ⟨hgame, hnone⟩
  have hplace : ref.address ∉ making := fun hmem =>
    List.count_eq_zero.mp (hcount id) (hmaking hmem)
  -- the loader takes note
  have hnoted : (world.without ref.address (.game game)).Sound
      (held.holding.taking game.script.toList) :=
    (onLoader_quiet _ (·.take game)).sound hreleased
  have hrunning : (world.without ref.address (.game game)).isRunning = true :=
    hworld.running_of_game hgame
  -- the script module goes
  let detached := after (detachScript ref.address game true .void)
    (world.without ref.address (.game game))
  have hdeparts : Departs (world.without ref.address (.game game)) ref.address game
      ((detachScript ref.address game true .void).run
        (world.without ref.address (.game game))) :=
    detachScript_departs hnoted hrunning
      (fun script hscript => hgrows.attached hworld hnew hscript) (by simp)
      (fun hidle _ => ((hgrows.voiced.voices _).idle hnew hplace hidle).1) .void
  obtain ⟨refs, hrefs, hkeeps⟩ := hdeparts.handles
  have hdetached : detached.Sound (held.taking (Owned.modules
      (result (detachScript ref.address game true .void)
        (world.without ref.address (.game game))))).holding :=
    (detachScript_reaches hnoted (fun _ _ _ _ => ⟨trivial, fun _ _ => trivial⟩) true
      .void : World.Reaches _ (Touch.modules fun _ _ => True) _ detached ∧ _).1.sound
  have hloader : detached.loaderHold = world.loaderHold := by
    unfold World.loaderHold
    rw [show detached.loader = _ from hkeeps.loader]
    simp [World.without]
  obtain ⟨hnothing, hscripts⟩ := releaseExecutor_of_held hdetached (hloader ▸ hheld)
  have hresult : result (dropOne (.object ref)) world =
      result (detachScript ref.address game true .void)
        (world.without ref.address (.game game)) := by
    unfold dropOne
    rw [result_get_bind]
    dsimp only
    rw [result_bind, after_set, hsome]
    refine Eq.trans ?_ (List.append_nil _)
    rw [← hnothing]
    rfl
  have hafter : after (dropOne (.object ref)) world =
      { after releaseExecutor detached with objects := detached.objects.finish ref.address } := by
    rw [← releaseExecutor_objects]
    unfold dropOne
    rw [after_get_bind]
    dsimp only
    rw [after_bind, after_set, hsome]
    rfl
  have hgames : ∀ other, (after (dropOne (.object ref)) world).game? other =
      if ref.address = other then none else world.game? other := by
    intro other
    have hkept := hkeeps.game?_eq other
    rw [hafter]
    simp only [World.game?, Heap.get?_finish] at hkept ⊢
    refine hkept.trans ?_
    rw [objects_without, (hworld.objects.get?_release_of_some hsome).2]
    by_cases hsame : ref.address = other
    · simp [hsame]
    · simp [hsame]
  have hgone : (after (dropOne (.object ref)) world).game? ref.address = none := by
    rw [hgames, if_pos rfl]
  have htallies := ((hgrows.tallies.release_some hsome).holds hkeeps.objects).finish ref.address
  have hstill : (after releaseExecutor detached).isRunning = true :=
    (congrArg Scripts.running hscripts).trans
      (hdetached.running_of_held (Nat.succ_pos held.executor))
  have hrecorded := releaseExecutor_isSilent detached
  have hnext : world.objects.next ≤ (detached.objects.finish ref.address).next := by
    rw [Heap.next_finish]
    refine Nat.le_trans (Nat.le_of_eq ?_) hkeeps.objects.next
    exact (Heap.next_release world.objects ref.address).symm
  obtain ⟨more, htold, -, hafterwards⟩ : ∃ more, world.Told ref.address game more ∧
      (game.initialized = false → more = []) ∧
      (after (dropOne (.object ref)) world).Grows outset making unheard
        (Owned.objects (result (dropOne (.object ref)) world) ++ lent) (more ++ since) := by
    refine hgrows.departs hworld (by rw [hafter]; exact hstill) hnew hdeparts ⟨rfl, rfl⟩
      (by rw [hafter]; exact ⟨hscripts, hrecorded⟩) (fun changed hchanged => ?_)
      (fun other hne => by rw [hgames, if_neg (Ne.symm hne)]) ?_ (by rw [hafter]; exact hnext)
      (fun _ _ => id) (fun _ _ => id) (fun more htold hidle =>
        (hgrows.voiced.voices _).dies hnew hidle htold hgone)
    · rw [hgone] at hchanged
      cases hchanged
    · rw [hafter, hresult, show Owned.objects (result _ _) = _ from hrefs, List.append_assoc]
      exact htallies
  refine ⟨hnew, more, htold, hafterwards, fun script hscript => ?_, hgames⟩
  rw [hresult] at hscript
  exact (hgrows.assigned.owned ⟨game, hnew, hdeparts.modules script hscript⟩).1

/-- A module without compiled script whose files are not watched takes nothing along. -/
theorem destroyModule_of_bare {module : ScriptModule} (hcompiled : module.compiled = none)
    (hwatched : module.watched = []) (world : World) :
    after (destroyModule module) world = world := by
  unfold destroyModule
  rw [after_get_bind, hcompiled, hwatched]
  split <;> rfl

/-- A handle of a script module is dropped that has come since. If it was the last one, no
game module has the script module any more. -/
theorem dropModule_grows {script : Nat} (hgrows : world.Grows outset making unheard lent since)
    (hworld : world.Sound (held.taking [script]))
    (hheld : 0 < held.executor + world.loaderHold) (hfirst : outset.scripts.next ≤ script) :
    result (dropOne (.module script)) world = [] ∧
      (after (dropOne (.module script)) world).Grows outset making unheard lent since := by
  have hkeeps := (dropOne_module script hworld.objects hworld.modules).1
  have hsilent := dropModule_isSilent script world
  have hrunning : world.isRunning = true := by
    rw [isRunning_iff]
    have hholders := hworld.holders [] List.nodup_nil (by simp)
    simp only [Holdings.taking] at hholders
    omega
  cases hreleased : (world.modules.release script).2 with
  | none =>
      have hsame : (after (dropOne (.module script)) world).scripts = world.scripts := by
        unfold dropOne
        rw [after_get_bind]
        dsimp only
        rw [after_bind, after_set, hreleased]
        exact world.scripts_of_modules (hworld.modules.get?_release_of_none hreleased)
          (Heap.next_release world.modules script)
      refine ⟨?_, hgrows.keeps hworld.scripts hkeeps hsame hsilent⟩
      unfold dropOne
      rw [result_get_bind]
      dsimp only
      rw [result_bind, after_set, hreleased]
      rfl
  | some module =>
      obtain ⟨hmodule, hrest⟩ := hworld.modules.get?_release_of_some hreleased
      have hlast : world.modules.strongCount script = 1 := by
        by_contra hne
        rw [hworld.modules.release_snd, if_neg hne] at hreleased
        cases hreleased
      have hfree := hworld.free_of_last hlast
      have hdiscarded : module.state = .discarded := by
        by_contra hliving
        exact hfree module.id (hworld.scripts.registered hrunning hmodule hliving)
      have hunowned : ∀ place, ¬ outset.Has world place script := fun place hhas =>
        (hgrows.assigned.owned hhas).2 module hmodule hdiscarded
      have hcompiled : module.compiled = none :=
        (hworld.scripts.wellFormed hmodule).compiled_none (by simp [hdiscarded])
      have hwatched : module.watched = [] := by
        by_contra hwatched
        rw [(hworld.scripts.wellFormed hmodule).followed hwatched] at hdiscarded
        cases hdiscarded
      have hhooks : module.hooks = none := by
        by_contra hsome
        obtain ⟨hooks, hhooks⟩ := Option.ne_none_iff_exists'.mp hsome
        obtain ⟨place, -, hhas⟩ := hgrows.assigned.hooked hfirst hmodule hhooks
        exact hunowned place hhas
      have hscripts : (after (dropOne (.module script)) world).scripts =
          world.scripts.put script none := by
        unfold dropOne
        rw [after_get_bind]
        dsimp only
        rw [after_bind, after_set, hreleased]
        dsimp only
        rw [after_bind, after_bind, after_modify, after_pure,
          destroyModule_of_bare hcompiled hwatched]
        ext1
        · funext place
          exact (Heap.get?_finish _ _ _).trans (hrest place)
        · exact (Heap.next_finish _ _).trans (Heap.next_release _ _)
        all_goals rfl
      refine ⟨?_, ?_⟩
      · unfold dropOne
        rw [result_get_bind]
        dsimp only
        rw [result_bind, after_set, hreleased]
        refine (destroyModule_result module _).trans ?_
        simp [ScriptModule.hookRefs, hhooks]
      · have hchanges : Scripts.Changes Touch.anything world.scripts
            (world.scripts.put script none) := by
          have hvanish : Scripts.Change Touch.anything world.scripts
              ((world.scripts.put script none).leave module.compiled) :=
            .vanish hmodule trivial hfree
          rw [hcompiled] at hvanish
          exact .single hvanish
        refine
          { tallies := hgrows.tallies.holds hkeeps.objects
            assigned := hscripts ▸ (hgrows.assigned.vanishes hworld.scripts hfirst hmodule
              hdiscarded hfree hunowned).congr (Outset.has_congr hkeeps.game?_eq)
            voiced := hgrows.voiced.silent hworld.scripts hkeeps.objects.next
              (hscripts ▸ hchanges) hsilent fun place =>
                (hgrows.voiced.voices place).works (hkeeps.game?_eq place) ?_ }
        intro game own found hnew _ hown hfound
        have hne : script ≠ own := by
          rintro rfl
          exact hunowned place ⟨game, hnew, hown⟩
        refine ⟨found, ?_, rfl, rfl, rfl⟩
        exact (congrFun (congrArg Scripts.module? hscripts) own).trans
          ((Scripts.module?_put_other _ _ hne).trans hfound)

/-- A handle of an object is dropped that is not the last one, or the object is no game
module. -/
theorem dropObject_grows {ref : ObjectRef}
    (hgrows : world.Grows outset making unheard (ref.address :: lent) since)
    (hworld : world.Sound held)
    (hother : ∀ game, (world.objects.release ref.address).2 ≠ some (.game game)) :
    Owned.modules (result (dropOne (.object ref)) world) = [] ∧
      (after (dropOne (.object ref)) world).Grows outset making unheard
        (Owned.objects (result (dropOne (.object ref)) world) ++ lent) since ∧
      ∀ place, (after (dropOne (.object ref)) world).game? place = world.game? place := by
  cases hreleased : (world.objects.release ref.address).2 with
  | none =>
      obtain ⟨hresult, hafter⟩ := dropOne_of_none hreleased
      have hgames : ∀ place, (after (dropOne (.object ref)) world).game? place =
          world.game? place := by
        intro place
        rw [hafter]
        simp only [World.game?, hworld.objects.get?_release_of_none hreleased]
      refine ⟨by rw [hresult]; rfl, hgrows.of_tallies hworld.scripts ?_ ?_ hgames
        (by rw [hafter]; rfl) (by rw [hafter]), hgames⟩
      · rw [hresult, hafter]
        exact hgrows.tallies.release_none hreleased
      · rw [hafter]
        exact Nat.le_of_eq (Heap.next_release _ _).symm
  | some body =>
      have hlast : world.game? ref.address = none := by
        refine Option.eq_none_iff_forall_ne_some.mpr fun game hgame => ?_
        have hbody := (hworld.objects.get?_release_of_some hreleased).1
        have hsame : body = .game game :=
          Option.some.inj (hbody.symm.trans (get?_of_game? hgame))
        exact hother game (hsame ▸ hreleased)
      have hafter : after (dropOne (.object ref)) world = { world with
          objects := (world.objects.release ref.address).1.finish ref.address } := by
        unfold dropOne
        rw [after_get_bind]
        dsimp only
        rw [after_bind, after_set, hreleased]
        cases body with
        | thing label => rfl
        | event occasion => rfl
        | game game => exact absurd hreleased (hother game)
      have hresult : Owned.modules (result (dropOne (.object ref)) world) = [] ∧
          Owned.objects (result (dropOne (.object ref)) world) = body.owned := by
        unfold dropOne
        rw [result_get_bind]
        dsimp only
        rw [result_bind, after_set, hreleased]
        cases body with
        | thing label => exact ⟨rfl, rfl⟩
        | event occasion => exact ⟨Owned.modules_objects _, Owned.objects_objects _⟩
        | game game => exact absurd hreleased (hother game)
      have hgames : ∀ place, (after (dropOne (.object ref)) world).game? place =
          world.game? place := by
        intro place
        rw [hafter, game?_destroyObject hworld.objects hreleased]
        split
        · rename_i hsame
          exact hsame ▸ hlast.symm
        · rfl
      refine ⟨hresult.1, hgrows.of_tallies hworld.scripts ?_ ?_ hgames (by rw [hafter]; rfl)
        (by rw [hafter]), hgames⟩
      · rw [hresult.2, hafter]
        exact (hgrows.tallies.release_some hreleased).finish ref.address
      · rw [hafter]
        exact Nat.le_of_eq ((Heap.next_finish _ _).trans (Heap.next_release _ _)).symm

/-! ### Cascades -/

/-- What becomes of what has grown when handles are dropped. Those that come up are lent from
then on. -/
structure Lets (outset : Outset) (making unheard lent : List Nat) (since : List Delivery)
    (world : World) (outcome : List Owned × World) : Prop where
  grows : ∃ more, outcome.2.Grows outset making unheard (Owned.objects outcome.1 ++ lent)
    (more ++ since) ∧ world.Falls more outcome.2
  modules : ∀ script ∈ Owned.modules outcome.1, outset.scripts.next ≤ script
  loader : outcome.2.loaderHold = world.loaderHold
  /-- Game modules of which handles are lent stay. -/
  stays : ∀ place ∈ lent, outcome.2.game? place = world.game? place

theorem loaderHold_of_continues {before after : World} (hcontinues : before.Continues after) :
    after.loaderHold = before.loaderHold := by
  have hsome := congrArg Option.isSome hcontinues.serial
  rw [Option.isSome_map, Option.isSome_map] at hsome
  unfold World.loaderHold
  rw [hsome]

theorem dropOne_lets (handle : Owned)
    (hgrows : world.Grows outset making unheard (Owned.objects [handle] ++ lent) since)
    (hworld : world.Sound (held.taking (Owned.modules [handle])))
    (hheld : 0 < held.executor + world.loaderHold) (hmaking : making ⊆ lent)
    (hfirst : ∀ script ∈ Owned.modules [handle], outset.scripts.next ≤ script) :
    Lets outset making unheard lent since world
      (result (dropOne handle) world, after (dropOne handle) world) := by
  have hsheds := (dropOne_sheds handle hworld.objects hworld.modules).1
  have hloader := loaderHold_of_continues hsheds.toContinues
  cases handle with
  | module script =>
      obtain ⟨hnothing, hafter⟩ := dropModule_grows hgrows hworld hheld (hfirst script (by simp))
      have hstays := (dropOne_module script hworld.objects hworld.modules).1.game?_eq
      exact ⟨⟨[], hnothing ▸ hafter, hsheds.falls⟩, by simp [hnothing], hloader,
        fun place _ => hstays place⟩
  | object ref =>
      by_cases hgame : ∃ game, (world.objects.release ref.address).2 = some (.game game)
      · obtain ⟨game, hgame⟩ := hgame
        obtain ⟨hnew, more, htold, hafter, hmodules, hgames⟩ :=
          dropGame_grows hgrows hworld hheld hmaking hgame
        have hgone := (hgames ref.address).trans (if_pos rfl)
        refine ⟨⟨more, hafter, htold.falls hsheds hnew.1 hgone⟩, hmodules, hloader,
          fun place hmem => ?_⟩
        have hunlent := (hgrows.tallies.unowned_of_last hgame).2.2 id
        rw [hgames, if_neg]
        rintro rfl
        exact List.count_eq_zero.mp hunlent hmem
      · obtain ⟨hmodules, hafter, hgames⟩ := dropObject_grows hgrows hworld fun game hsome =>
          hgame ⟨game, hsome⟩
        exact ⟨⟨[], hafter, hsheds.falls⟩, by simp [hmodules], hloader, fun place _ => hgames place⟩

private theorem allows_all (handle : Owned) (world : World) :
    world.Allows (Touch.modules fun _ _ => True) handle := by
  cases handle with
  | object ref => trivial
  | module script => exact fun module _ => trivial

/-- What is told in one cascade and in the next one. -/
theorem Lets.trans {first second : List Owned × World} {given : List Nat}
    (hfirst : Lets outset making unheard given since world first) (hlent : lent ⊆ given)
    (hsecond : ∀ more, first.2.Grows outset making unheard (Owned.objects first.1 ++ given)
      (more ++ since) → Lets outset making unheard lent (more ++ since) first.2 second) :
    Lets outset making unheard lent since world second := by
  obtain ⟨more, hgrows, hfalls⟩ := hfirst.grows
  have hlets := hsecond more hgrows
  obtain ⟨later, hgrows', hfalls'⟩ := hlets.grows
  refine ⟨⟨later ++ more, by rwa [List.append_assoc], hfalls.trans hfalls' ?_⟩, hlets.modules,
    hlets.loader.trans hfirst.loader, fun place hmem =>
      (hlets.stays place hmem).trans (hfirst.stays place (hlent hmem))⟩
  intro delivery hmem game hgame target htarget
  have hnone := (hgrows'.voiced.addressed delivery (List.mem_append_left _ hmem)).1
  exact hgrows.tallies.alive (get?_of_game? hgame) hnone htarget

theorem dropSome_lets (handles : List Owned)
    (hgrows : world.Grows outset making unheard (Owned.objects handles ++ lent) since)
    (hworld : world.Sound (held.taking (Owned.modules handles)))
    (hheld : 0 < held.executor + world.loaderHold) (hmaking : making ⊆ lent)
    (hfirst : ∀ script ∈ Owned.modules handles, outset.scripts.next ≤ script) :
    Lets outset making unheard lent since world
        (result (dropSome handles) world, after (dropSome handles) world) ∧
      (result (dropSome handles) world ≠ [] →
        (after (dropSome handles) world).population < world.population) := by
  induction handles generalizing world since with
  | nil =>
      exact ⟨⟨⟨[], hgrows, (Sheds.refl world).falls⟩, by simp [dropSome], rfl, fun _ _ => rfl⟩,
        fun hsome => absurd rfl hsome⟩
  | cons handle rest ih =>
      obtain ⟨hsheds, hless⟩ := dropOne_sheds handle hworld.objects hworld.modules
      have hsplit : Owned.objects (handle :: rest) =
          Owned.objects [handle] ++ Owned.objects rest := Owned.objects_append [handle] rest
      have hmodules : Owned.modules (handle :: rest) =
          Owned.modules [handle] ++ Owned.modules rest := Owned.modules_append [handle] rest
      rw [hsplit, List.append_assoc] at hgrows
      rw [hmodules] at hfirst
      have hone : world.Sound ((held.taking (Owned.modules rest)).taking
          (Owned.modules [handle])) := by
        refine hworld.forget (Nat.le_refl _) fun address => ?_
        rw [hmodules]
        simp only [Holdings.taking, List.count_append]
        omega
      have hlets := dropOne_lets handle hgrows hone hheld
        (fun _ hmem => List.mem_append_right _ (hmaking hmem))
        fun script hmem => hfirst script (List.mem_append_left _ hmem)
      have hsound : (after (dropOne handle) world).Sound ((held.taking (Owned.modules rest)).taking
          (Owned.modules (result (dropOne handle) world))) := 
        (dropOne_drops hone (allows_all handle world)).sound
      have hrest : ∀ script ∈ Owned.modules rest, outset.scripts.next ≤ script :=
        fun script hmem => hfirst script (List.mem_append_right _ hmem)
      cases howned : result (dropOne handle) world with
      | nil =>
          obtain ⟨hresult, hafter⟩ : result (dropSome (handle :: rest)) world = _ ∧ _ :=
            dropSome_cons howned
          rw [howned] at hlets hsound
          rw [hresult, hafter]
          refine ⟨hlets.trans (List.subset_append_right _ _) fun more hgrows' => ?_,
            fun hsome => ?_⟩
          · exact (ih hgrows' hsound (hlets.loader ▸ hheld) hrest).1
          · obtain ⟨more, hgrows', -⟩ := hlets.grows
            exact Nat.lt_of_lt_of_le
              ((ih hgrows' hsound (hlets.loader ▸ hheld) hrest).2 hsome) hsheds.population_le
      | cons owned others =>
          have hdrop : dropSome (handle :: rest) = (do
              let owned ← dropOne handle
              if owned.isEmpty then dropSome rest else return owned ++ rest) := rfl
          rw [hdrop, after_bind, result_bind, howned]
          rw [howned] at hlets
          refine ⟨?_, fun _ => hless (by simp [howned])⟩
          obtain ⟨more, hgrows', hfalls⟩ := hlets.grows
          refine ⟨⟨more, ?_, hfalls⟩, fun script hmem => ?_, hlets.loader, fun place hmem =>
            hlets.stays place (List.mem_append_right _ hmem)⟩
          · simpa only [List.isEmpty_cons, Bool.false_eq_true, if_false, result_pure, after_pure,
              Owned.objects_append, List.append_assoc] using hgrows'
          · have hmem' : script ∈ Owned.modules (owned :: others) ++ Owned.modules rest := by
              rw [← Owned.modules_append]
              exact hmem
            exact (List.mem_append.mp hmem').elim (hlets.modules script) (hrest script)

/-- Enough rounds drop all handles. -/
theorem dropUpTo_lets (owners : Nat) (handles : List Owned)
    (henough : world.population ≤ owners)
    (hgrows : world.Grows outset making unheard (Owned.objects handles ++ lent) since)
    (hworld : world.Sound (held.taking (Owned.modules handles)))
    (hheld : 0 < held.executor + world.loaderHold) (hmaking : making ⊆ lent)
    (hfirst : ∀ script ∈ Owned.modules handles, outset.scripts.next ≤ script) :
    Lets outset making unheard lent since world ([], after (dropUpTo owners handles) world) := by
  induction owners generalizing world handles since with
  | zero =>
      obtain ⟨hlets, hless⟩ := dropSome_lets handles hgrows hworld hheld hmaking hfirst
      have hnone : result (dropSome handles) world = [] := by
        by_contra hleft
        have hlt := hless hleft
        omega
      rw [hnone] at hlets
      exact hlets
  | succ owners ih =>
      obtain ⟨hlets, hless⟩ := dropSome_lets handles hgrows hworld hheld hmaking hfirst
      have hsound : (after (dropSome handles) world).Sound
          (held.taking (Owned.modules (result (dropSome handles) world))) :=
        (dropSome_drops hworld fun handle _ => allows_all handle world).sound
      unfold dropUpTo
      rw [after_bind]
      split
      · rename_i hnone
        rw [hnone] at hlets
        exact hlets
      · rename_i hleft
        have hlt := hless hleft
        have hfewer : (after (dropSome handles) world).population ≤ owners := by omega
        exact hlets.trans (List.Subset.refl lent) fun more hgrows' =>
          ih _ hfewer hgrows' hsound (hlets.loader ▸ hheld) hlets.modules

/-- What becomes of what has grown when handles are dropped, all of them. -/
theorem dropAll_grows (handles : List Owned)
    (hgrows : world.Grows outset making unheard (Owned.objects handles ++ lent) since)
    (hworld : world.Sound (held.taking (Owned.modules handles)))
    (hheld : 0 < held.executor + world.loaderHold) (hmaking : making ⊆ lent)
    (hfirst : ∀ script ∈ Owned.modules handles, outset.scripts.next ≤ script) :
    (∃ more, (after (dropAll handles) world).Grows outset making unheard lent (more ++ since) ∧
      world.Falls more (after (dropAll handles) world)) ∧
      ∀ place ∈ lent, (after (dropAll handles) world).game? place = world.game? place := by
  have hlets : Lets outset making unheard lent since world
      ([], after (dropAll handles) world) := by
    unfold dropAll
    rw [after_get_bind]
    exact dropUpTo_lets _ handles world.population_le hgrows hworld hheld hmaking hfirst
  exact ⟨hlets.grows, hlets.stays⟩

end Act

end ScriptHost
