import ScriptHost.Proofs.Rearing

/-!
Loads account for what they bring into being. A game module that is made has its one handle
on the stack, and nobody can come by another one before it has heard the init event; if that
does not happen the handle is the last one.
-/

namespace ScriptHost

namespace World

open Delivery

variable {outset : Outset} {making unheard lent : List Nat} {since more : List Delivery}
  {held : Holdings} {before after world : World} {place address : Nat} {game : GameModule}

/-- A game module that has come since, and of which no handle is lent, is the import of another
one; so it has heard the init event. -/
theorem Grows.exists_importer (hgrows : world.Grows outset making unheard lent since)
    (hnew : outset.New world place game) (hlent : place ∉ lent) :
    Began since place ∧ ∃ owner found, outset.New world owner found ∧
      place ∈ found.dependencies := by
  have hget := get?_of_game? hnew.1
  have hbare : ¬ (ObjectBody.game game).IsBare := id
  have hcount := hgrows.tallies.handles hget (.inr hbare)
  rw [hgrows.tallies.strongCount_base hget hnew.2 hbare,
    List.count_eq_zero_of_not_mem hlent] at hcount
  have hpositive := Heap.strongCount_pos_of_get? hget
  have hclaimed : 0 < outset.objects.claimed world.objects place := by omega
  obtain ⟨owner, body, hbody, hborn, howned⟩ := Heap.exists_owner hclaimed
  have hkept : ¬ body.IsBare := fun hbare => by
    rw [hbare.owned] at howned
    exact absurd howned List.not_mem_nil
  obtain ⟨-, found, rfl⟩ := hgrows.tallies.born hbody hborn hkept
  have howner : outset.New world owner found := ⟨(game?_eq_some_iff _ _ _).mpr hbody, hborn⟩
  refine ⟨?_, owner, found, howner, howned⟩
  rcases (hgrows.voiced.voices owner).imports howner place howned with hold | hbegan
  · exact absurd hnew.2 hold
  · exact hbegan

/-- A game module that is gone need not be heard of. -/
theorem Grows.forgets (hgrows : world.Grows outset making (place :: unheard) lent since)
    (hgone : world.game? place = none) : world.Grows outset making unheard lent since where
  tallies := hgrows.tallies
  assigned := hgrows.assigned
  voiced := { hgrows.voiced with
    voices := fun other => { hgrows.voiced.voices other with
      began := fun {game} hnew hout => by
        refine (hgrows.voiced.voices other).began hnew ?_
        rintro hmem
        rcases List.mem_cons.mp hmem with rfl | hrest
        · cases hgone.symm.trans hnew.1
        · exact hout hrest } }

theorem loaderHold_changingLoader (world : World) (change : Loader → Loader) :
    (world.changingLoader change).loaderHold = world.loaderHold := by
  unfold loaderHold
  rw [show (world.changingLoader change).loader.isSome = world.loader.isSome from
    Option.isSome_map]

theorem Grows.changingLoader (hgrows : world.Grows outset making unheard lent since)
    (hworld : world.scripts.Consistent) (change : Loader → Loader) :
    (world.changingLoader change).Grows outset making unheard lent since :=
  hgrows.of_tallies hworld hgrows.tallies (Nat.le_refl _) (fun _ => rfl) rfl rfl

/-- The loader changes and houses the game modules as before. -/
theorem Brings.changingLoader (hbrings : world.Brings held outset making unheard lent since)
    (change : Loader → Loader) (horderly : (world.changingLoader change).Orderly [] [] []) :
    (world.changingLoader change).Brings held outset making unheard lent since where
  sound := ((Act.onLoader_isOrdinary change).reaches hbrings.sound).sound
  holds := (loaderHold_changingLoader world change).symm ▸ hbrings.holds
  orderly := horderly
  grows := hbrings.grows.changingLoader hbrings.sound.scripts change
  lives := hbrings.lives
  kept := hbrings.kept

end World

namespace LoadAct

open World Delivery

variable {outset : Outset} {making unheard lent : List Nat} {since : List Delivery}
  {held : Holdings} {world : World}

/-- What a step of a load that gives a handle brings into being. -/
def Spawns (held : Holdings) (outset : Outset) (making unheard lent : List Nat)
    (since : List Delivery) (world : World) (step : LoadAct Nat) : Prop :=
  ∃ more, Raised held outset making unheard lent since more
    (Act.result step.run world, Act.after step.run world)

/-- A step that fails without having done anything. -/
theorem Spawns.throw (hbrings : world.Brings held outset making unheard lent since)
    (err : LoadError) : Spawns held outset making unheard lent since world (throw err) :=
  ⟨[], hbrings, nofun⟩

/-- A step that begins with an operation. -/
theorem Spawns.lift {α : Type} {act : Act α} {next : α → LoadAct Nat}
    (hspawns : Spawns held outset making unheard lent since (Act.after act world)
      (next (Act.result act world))) :
    Spawns held outset making unheard lent since world (liftM act >>= next) := by
  unfold Spawns
  rw [after_run_lift_bind, result_run_lift_bind]
  exact hspawns

end LoadAct

namespace Act

open World LoadAct Delivery

variable {outset : Outset} {making unheard lent : List Nat} {since : List Delivery}
  {held : Holdings} {world : World} {place : Nat} {game : GameModule} {loader : Loader}
  {load : String → String → LoadAct Nat}

/-- A game module is made where none of its name lives, and its handle is that of whoever has
made it. -/
theorem makeGame_brings (hbrings : world.Brings held outset making unheard lent since)
    (hloader : world.loader = some loader) {description : Description}
    (hnone : ∀ address game, ¬ world.IsInstance description.name address game)
    (requestedBy : String) :
    (after (makeGame loader description requestedBy) world).Brings held outset making
        (world.objects.next :: unheard) (world.objects.next :: lent) since ∧
      ∀ other, (after (makeGame loader description requestedBy) world).game? other =
        if world.objects.next = other then some (newGame loader description requestedBy)
        else world.game? other := by
  obtain ⟨-, hmade, hcontinues⟩ := makeGame_orderly hbrings.orderly hloader hnone requestedBy
  have hgames : ∀ other, (after (makeGame loader description requestedBy) world).game? other =
      if world.objects.next = other then some (newGame loader description requestedBy)
      else world.game? other :=
    game?_withNewGame world (newGame loader description requestedBy)
  have hunissued : world.objects.next ∉ lent := by
    intro hmem
    obtain ⟨found, hfound⟩ := hbrings.lives _ hmem
    exact Nat.lt_irrefl _ (hbrings.orderly.lt_next hfound)
  have hrunning := hbrings.sound.running_of_loader hloader
  refine ⟨⟨(makeGame_reaches hbrings.sound hrunning loader description requestedBy).sound,
    hbrings.holds_of_continues hcontinues, hmade.forget, ?_, fun other hmem => ?_,
    fun other hmem => List.mem_cons_of_mem _ (hbrings.kept hmem)⟩, hgames⟩
  · exact hbrings.grows.admits hbrings.sound.scripts (List.count_eq_zero_of_not_mem hunissued)
      (rfl : _ = (world.objects.alloc (.game (newGame loader description requestedBy))).2)
      (scripts_withNewGame hrunning (newGame loader description requestedBy)) rfl rfl rfl rfl
  · rw [hgames]
    split
    · exact ⟨_, rfl⟩
    · rename_i hne
      exact hbrings.lives other ((List.mem_cons.mp hmem).resolve_left (Ne.symm hne))

/-- A game module whose initialization has failed is gone with its one handle. -/
theorem dropFailed_brings (hgrows : world.Grows outset making (place :: unheard) (place :: lent)
      since) (hsound : world.Sound held) (hholds : 0 < held.executor + world.loaderHold)
    (hlives : ∀ other ∈ lent, ∃ game, world.game? other = some game) (hlent : place ∉ lent)
    (hkept : making ⊆ lent) (hnew : outset.objects.get? place = none)
    (hunheard : ¬ Began since place)
    (horderly : (after (dropObjects [⟨.gameModule, place⟩]) world).Orderly [] [] []) :
    ∃ more, (after (dropObjects [⟨.gameModule, place⟩]) world).Brings held outset making unheard
      lent (more ++ since) := by
  have hmodules : world.Sound (held.taking (Owned.modules [.object ⟨.gameModule, place⟩])) :=
    hsound
  have hobjects : world.Grows outset making (place :: unheard)
      (Owned.objects [.object ⟨.gameModule, place⟩] ++ lent) since := hgrows
  obtain ⟨⟨more, hdropped, hfalls⟩, hstays⟩ :=
    dropAll_grows _ hobjects hmodules hholds hkept (by simp)
  have hgone : (after (dropObjects [⟨.gameModule, place⟩]) world).game? place = none := by
    rw [Option.eq_none_iff_forall_ne_some]
    intro game hgame
    obtain ⟨⟨delivery, hmem, hplace, hevent⟩, -⟩ := hdropped.exists_importer ⟨hgame, hnew⟩ hlent
    rcases List.mem_append.mp hmem with hmore | hold
    · rw [(hfalls.heard delivery hmore).1] at hevent
      cases hevent
    · exact hunheard ⟨delivery, hold, hplace, hevent⟩
  refine ⟨more, ⟨(dropAll_reaches hmodules).sound, ?_, horderly, hdropped.forgets hgone,
    fun other hmem => ?_, hkept⟩⟩
  · exact (loaderHold_of_continues hfalls.toContinues).symm ▸ hholds
  · obtain ⟨game, hgame⟩ := hlives other hmem
    exact ⟨game, (hstays other hmem).trans hgame⟩

/-- A game module that is made is initialized, or it is gone. -/
theorem loadDescription_spawns (hload : Raises load) (harranges : Arranges load)
    (hbrings : world.Brings held outset making unheard lent since) (hmarks : world.Marks making)
    (hunheard : unheard ⊆ making) (hloader : world.loader = some loader)
    {description : Description}
    (hnone : ∀ address game, ¬ world.IsInstance description.name address game)
    (requestedBy : String) :
    Spawns held outset making unheard lent since world
      (loadDescription load loader description requestedBy) := by
  obtain ⟨hmade, hgames⟩ := makeGame_brings hbrings hloader hnone requestedBy
  have hfresh : ∀ {other found}, world.game? other = some found → other ≠ world.objects.next :=
    fun hfound => Nat.ne_of_lt (hbrings.orderly.lt_next hfound)
  have hout : world.objects.next ∉ making := by
    intro hmem
    obtain ⟨found, hfound, -⟩ := hmarks _ hmem
    exact hfresh hfound rfl
  have hmarks' : (after (makeGame loader description requestedBy) world).Marks making := by
    intro other hmem
    obtain ⟨found, hfound, hmarked⟩ := hmarks other hmem
    refine ⟨found, ?_, hmarked⟩
    rw [hgames, if_neg (Ne.symm (hfresh hfound)), hfound]
  have hnew : outset.New (after (makeGame loader description requestedBy) world)
      world.objects.next (newGame loader description requestedBy) :=
    ⟨by rw [hgames, if_pos rfl],
      hbrings.grows.tallies.first.get?_next hbrings.grows.tallies.next⟩
  have hheard : ∀ other, other ≠ world.objects.next → other ∉ unheard →
      other ∉ world.objects.next :: unheard :=
    fun other hne hout hmem => hout ((List.mem_cons.mp hmem).resolve_left hne)
  obtain ⟨more, hready⟩ := makeReady_readied hload hmade hmarks'
    (List.cons_subset_cons _ hunheard) hnew List.mem_cons_self hout rfl rfl hheard
  have horderly := (loadDescription_places harranges (by simp) hbrings.orderly hloader hnone
    requestedBy).orderly
  unfold loadDescription at horderly ⊢
  refine .lift ?_
  rw [after_run_lift_bind] at horderly
  obtain ⟨hresult, -⟩ := makeGame_orderly hbrings.orderly hloader hnone requestedBy
  rw [hresult] at horderly ⊢
  dsimp only at horderly ⊢
  rw [after_run_attempt_bind] at horderly
  unfold Spawns
  rw [after_run_attempt_bind, result_run_attempt_bind]
  generalize after (makeReady load world.objects.next).run
    (after (makeGame loader description requestedBy) world) = ready at *
  cases hended : result (makeReady load world.objects.next).run
      (after (makeGame loader description requestedBy) world) with
  | ok value =>
      obtain ⟨hbegun, hbegan, hhatches, found, hfound, hmarked⟩ := hready.worked hended
      refine ⟨more, hbegun, fun other hother => ?_⟩
      cases hother
      exact ⟨⟨found, hfound, hmarked⟩, .inr hbegan, hhatches⟩
  | error err =>
      rw [hended] at horderly
      obtain ⟨hfailed, hothers, -⟩ := hready.failed err hended
      dsimp only at horderly ⊢
      rw [after_run_lift_bind, after_run_lift_bind, after_run_throw, after_onLoader] at horderly
      rw [after_run_lift_bind, result_run_lift_bind, after_run_lift_bind, result_run_lift_bind,
        after_run_throw, result_run_throw, after_onLoader]
      have hunbegun : ¬ Began (more ++ since) world.objects.next := by
        rintro ⟨delivery, hmem, hplace, -⟩
        rcases List.mem_append.mp hmem with hmore | hold
        · exact hothers delivery hmore hplace
        · exact Nat.lt_irrefl _ (hplace ▸ (hbrings.grows.voiced.addressed delivery hold).2.1)
      have hunissued : world.objects.next ∉ lent := by
        intro hmem
        obtain ⟨found, hfound⟩ := hbrings.lives _ hmem
        exact hfresh hfound rfl
      dsimp only at hfailed
      obtain ⟨later, hdropped⟩ := dropFailed_brings
        (hfailed.grows.changingLoader hfailed.sound.scripts _)
        ((onLoader_isOrdinary _).reaches hfailed.sound).sound
        ((loaderHold_changingLoader ready _).symm ▸ hfailed.holds)
        (fun other hmem => hfailed.lives other (List.mem_cons_of_mem _ hmem)) hunissued
        hbrings.kept hnew.2 hunbegun horderly
      rw [← List.append_assoc] at hdropped
      exact ⟨later ++ more, hdropped, nofun⟩

/-- A further handle of a game module that lives is lent. -/
theorem retain_brings (hbrings : world.Brings held outset making unheard lent since)
    (hgame : world.game? place = some game) :
    (world.retain [⟨.gameModule, place⟩]).Brings held outset making unheard (place :: lent)
        since ∧
      ∀ other, (world.retain [⟨.gameModule, place⟩]).game? other = world.game? other := by
  have hkeeps := (World.Keeps.refl hbrings.sound.objects).retain [⟨.gameModule, place⟩]
  have hgames := hkeeps.game?_eq
  refine ⟨⟨((retain_isQuiet _ world).reaches hbrings.sound :
      world.Reaches held Touch.anything (world.retain [⟨.gameModule, place⟩])).sound,
    hbrings.holds_of_continues hkeeps.continues, (hbrings.orderly.keeps hkeeps).relend _ nofun,
    hbrings.grows.keeps hbrings.sound.scripts hkeeps rfl rfl, fun other hmem => ?_,
    fun other hmem => List.mem_cons_of_mem _ (hbrings.kept hmem)⟩, hgames⟩
  rw [hgames]
  rcases List.mem_cons.mp hmem with rfl | hrest
  · exact ⟨game, hgame⟩
  · exact hbrings.lives other hrest

/-- A load goes on only where no game module of the name lives. -/
theorem liveInstance_spawns (hbrings : world.Brings held outset making unheard lent since)
    (hmarks : world.Marks making) (hunheard : unheard ⊆ making) (hdrained : world.IsDrained)
    {name requestedBy : String} {next : Option Nat → LoadAct Nat}
    (hsome : ∀ address, next (some address) = pure address)
    (hnext : (∀ address game, ¬ world.IsInstance name address game) →
      Spawns held outset making unheard lent since world (next none)) :
    Spawns held outset making unheard lent since world
      (liveInstance name requestedBy >>= next) := by
  unfold Spawns
  rw [after_run_bind, result_run_bind]
  rcases liveInstance_cases hbrings.orderly hdrained name requestedBy with
    ⟨hresult, hafter, hnone⟩ | ⟨address, game, hfound, hcase⟩
  · rw [hresult, hafter]
    exact hnext hnone
  · obtain ⟨hretained, hgames⟩ := retain_brings hbrings hfound.found
    rcases hcase with ⟨hmarked, hresult, hafter⟩ | ⟨-, hresult, hafter⟩
    · rw [hresult, hafter]
      dsimp only
      rw [hsome, after_run_pure, result_run_pure]
      refine ⟨[], hretained, fun other hother => ?_⟩
      cases hother
      refine ⟨⟨game, (hgames address).trans hfound.found, hmarked⟩, ?_, by simp [Hatches]⟩
      -- whoever is still unheard of is being initialized
      have hheard : address ∉ unheard := by
        intro hmem
        obtain ⟨marked, hother, hinitializing⟩ := hmarks address (hunheard hmem)
        rw [hfound.found, Option.some.injEq] at hother
        rw [← hother, hmarked] at hinitializing
        cases hinitializing
      by_cases hold : outset.objects.get? address = none
      · exact .inr ((hbrings.grows.voiced.voices address).began ⟨hfound.found, hold⟩ hheard)
      · exact .inl hold
    · rw [hresult, hafter]
      have hlent : (world.retain [⟨.gameModule, address⟩]).Grows outset making unheard
          ([(⟨.gameModule, address⟩ : ObjectRef)].map ObjectRef.address ++ lent) since :=
        hretained.grows
      obtain ⟨more, hdropped, -, -⟩ := hlent.dropsObjects hretained.sound hretained.holds
        hretained.orderly (fun other hmem => hretained.lives other (List.mem_cons_of_mem _ hmem))
        hbrings.kept
      refine ⟨more, hdropped, fun _ hok => ?_⟩
      cases hok

/-! ### Loads -/

theorem loadWith_raises (hload : Raises load) (harranges : Arranges load) :
    Raises (loadWith load) := by
  refine ⟨fun {held outset making unheard lent since world} name requestedBy hbrings hmarks
    hunheard => ?_⟩
  have hready := hbrings.changingLoader Loader.drained hbrings.orderly.drained
  have hdrained := isDrained_drained world
  have hmarks' : (world.changingLoader Loader.drained).Marks making := hmarks
  show Spawns held outset making unheard lent since world _
  unfold loadWith
  refine .lift ?_
  rw [after_onLoader]
  generalize world.changingLoader Loader.drained = drained at *
  refine liveInstance_spawns hready hmarks' hunheard hdrained (fun _ => rfl) fun _ => ?_
  refine .lift ?_
  split
  · exact .throw hready _
  · rename_i loader hloader
    split
    · exact .throw hready _
    · split
      · exact .throw hready _
      · refine liveInstance_spawns hready hmarks' hunheard hdrained (fun _ => rfl) fun hnone => ?_
        exact loadDescription_spawns hload harranges hready hmarks' hunheard hloader hnone
          requestedBy

/-- Loads account for what they bring into being, however deep they are nested. -/
theorem loadNested_raises (depth : Nat) : Raises (loadNested depth) := by
  induction depth with
  | zero =>
      exact ⟨fun name requestedBy hbrings _ _ => ⟨[], hbrings, nofun⟩⟩
  | succ depth ih => exact loadWith_raises ih (loadNested_arranges depth)

end Act

end ScriptHost
