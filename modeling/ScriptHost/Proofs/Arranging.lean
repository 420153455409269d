import ScriptHost.Proofs.Initializing

/-!
A load, whatever it comes to, keeps worlds orderly. Looking for a name finds the game
module of this name that lives, if the reports of destroyed ones have been dealt with; a
module that is made only where none is found is the only one of its name. The modules on
the stack of nested loads are marked as initializing, so that a load never hands out one
of them.
-/

namespace ScriptHost

namespace World

variable {kept : List (Nat × GameModule)} {outside lent : List Nat} {world : World}
  {address other : Nat} {game found : GameModule} {loader : Loader} {name : String}

/-- The living game module of a name that the loader has made. -/
structure IsInstance (world : World) (name : String) (address : Nat)
    (game : GameModule) : Prop where
  found : world.game? address = some game
  named : game.name = name
  made : world.loader.map Loader.serial = some game.loader

theorem continues_changingLoader (change : Loader → Loader)
    (hserial : ∀ loader, (change loader).serial = loader.serial) :
    world.Continues (world.changingLoader change) := by
  refine ⟨rfl, rfl, ?_⟩
  unfold changingLoader
  rw [Option.map_map]
  exact congrArg (world.loader.map ·) (funext hserial)

/-- The loader has dealt with all reports of destroyed game modules. -/
def IsDrained (world : World) : Prop :=
  ∀ loader, world.loader = some loader → loader.reports = []

theorem isDrained_drained (world : World) :
    (world.changingLoader Loader.drained).IsDrained := by
  intro loader hloader
  obtain ⟨earlier, -, rfl⟩ := Option.map_eq_some_iff.mp hloader
  rfl

theorem IsInstance.exists_loader (hfound : world.IsInstance name address game) :
    ∃ loader, world.loader = some loader ∧ game.loader = loader.serial := by
  obtain ⟨loader, hloader, hserial⟩ := Option.map_eq_some_iff.mp hfound.made
  exact ⟨loader, hloader, hserial.symm⟩

theorem IsInstance.seat (hfound : world.IsInstance name address game)
    (hloader : world.loader = some loader) :
    world.seats loader.serial [] address = some ⟨name, game.slot⟩ := by
  obtain ⟨earlier, hearlier, hserial⟩ := hfound.exists_loader
  rw [hloader, Option.some.injEq] at hearlier
  subst hearlier
  refine seats_eq_some_iff.mpr ⟨List.not_mem_nil, game, hfound.found, hserial, ?_⟩
  rw [hfound.named]

theorem isInstance_of_seat (hloader : world.loader = some loader) {key : SlotKey}
    (hseat : world.seats loader.serial [] address = some ⟨name, key⟩) :
    ∃ game, world.IsInstance name address game ∧ game.slot = key := by
  obtain ⟨-, game, hgame, hserial, hsame⟩ := seats_eq_some_iff.mp hseat
  simp only [Seat.mk.injEq] at hsame
  exact ⟨game, ⟨hgame, hsame.1.symm, by rw [hloader, hserial]; rfl⟩, hsame.2.symm⟩

/-- No two living game modules of the loader have the same name. -/
theorem Orderly.instance_unique (hworld : world.Orderly kept [] lent)
    (hgame : world.IsInstance name address game)
    (hfound : world.IsInstance name other found) : address = other := by
  obtain ⟨loader, hloader, -⟩ := hgame.exists_loader
  exact (hworld.houses hloader).address_unique (hgame.seat hloader) (hfound.seat hloader)
    rfl

/-- The game modules that are kept have handles of their own. -/
theorem Orderly.retain (hworld : world.Orderly kept [] []) (address : Nat) :
    (world.retain [⟨.gameModule, address⟩]).Orderly kept [] [address] := by
  have hkeeps := (World.Keeps.refl hworld.objects).retain [⟨.gameModule, address⟩]
  exact hworld.keeps hkeeps

/-- A request stands for the game module of a name if it is the name itself, or if no
living game module is called so and it leads to a description file that declares the
name. -/
inductive Denotes (world : World) (name : String) : String → Prop
  | name : Denotes world name name
  | file {request : String} {loader : Loader} {path : Path} {description : Description}
      (unnamed : ∀ address game, ¬ world.IsInstance request address game)
      (running : world.loader = some loader)
      (leads : loader.descriptionPath? world.files request = some path)
      (declares : Description.load world.files path = .ok description)
      (named : description.name = name) : Denotes world name request

theorem isInstance_drained : (world.changingLoader Loader.drained).IsInstance name address
    game ↔ world.IsInstance name address game := by
  have hcontinues : world.Continues (world.changingLoader Loader.drained) :=
    continues_changingLoader _ fun _ => rfl
  have hserial := hcontinues.serial
  constructor
  · exact fun ⟨hfound, hnamed, hmade⟩ => ⟨hfound, hnamed, hserial ▸ hmade⟩
  · exact fun ⟨hfound, hnamed, hmade⟩ => ⟨hfound, hnamed, hserial.symm ▸ hmade⟩

/-- What is left of the world once a handle of a game module has been found: the reports
are dealt with, and there is one more handle. -/
def finding (world : World) (address : Nat) : World :=
  (world.changingLoader Loader.drained).retain [⟨.gameModule, address⟩]

/-- The new game module of a description. -/
def newGame (loader : Loader) (description : Description) (requestedBy : String) :
    GameModule :=
  .create description requestedBy loader.serial
    (loader.arena.allocate description.name).1

end World

namespace LoadAct

open World

variable {kept : List (Nat × GameModule)} {world : World}

theorem Places.throw (hworld : world.Orderly kept [] []) (err : LoadError) :
    Places kept world (throw err) :=
  ⟨hworld, .refl world, fun _ => nofun⟩

/-- A step that begins with an operation. -/
theorem Places.lift {α : Type} {act : Act α} {next : α → LoadAct Nat}
    (hbegun : world.Continues (Act.after act world))
    (hplaces : Places kept (Act.after act world) (next (Act.result act world))) :
    Places kept world (liftM act >>= next) := by
  have hafter := after_run_lift_bind act next world
  have hresult := result_run_lift_bind act next world
  refine ⟨hafter ▸ hplaces.orderly, hafter ▸ hbegun.trans hplaces.continues,
    fun address hfound => ?_⟩
  rw [hafter]
  exact hplaces.found address (hresult ▸ hfound)

/-- A step that begins with one whose end is looked at. -/
theorem Places.attempt {α : Type} {step : LoadAct α}
    {next : Except LoadError α → LoadAct Nat}
    (hbegun : world.Continues (Act.after step.run world))
    (hplaces : Places kept (Act.after step.run world)
      (next (Act.result step.run world))) :
    Places kept world (Act.attempt step >>= next) :=
  @Places.lift _ _ _ step.run next hbegun hplaces

end LoadAct

namespace Act

open World LoadAct

variable {kept : List (Nat × GameModule)} {world : World} {address : Nat}
  {game : GameModule} {loader : Loader} {load : String → String → LoadAct Nat}

@[simp]
theorem after_onLoader (change : Loader → Loader) (world : World) :
    after (onLoader change) world = world.changingLoader change := rfl

/-! ### Looking for a living game module -/

/-- A game module is found by its name if it lives, and a handle of it is made. -/
theorem loadedModule_cases (hworld : world.Orderly kept [] []) (hdrained : world.IsDrained)
    (name : String) :
    (result (loadedModule name) world = none ∧ after (loadedModule name) world = world ∧
        ∀ address game, ¬ world.IsInstance name address game) ∨
      ∃ address game, world.IsInstance name address game ∧
        result (loadedModule name) world = some address ∧
        after (loadedModule name) world = world.retain [⟨.gameModule, address⟩] := by
  unfold loadedModule
  rw [result_get_bind, after_get_bind]
  cases haddress : world.loader.bind (·.arena.address? name) with
  | none =>
      refine .inl ⟨rfl, rfl, fun address game hfound => ?_⟩
      obtain ⟨loader, hloader, -⟩ := hfound.exists_loader
      have hsome := (hworld.houses hloader).address?_of_seat (hfound.seat hloader)
      rw [hloader, Option.bind_some, hsome] at haddress
      cases haddress
  | some address =>
      obtain ⟨loader, hloader, hsome⟩ := Option.bind_eq_some_iff.mp haddress
      have hhouses := hworld.houses hloader
      rw [hdrained loader hloader] at hhouses
      obtain ⟨key, hseat⟩ := hhouses.seat_of_address? hsome
      obtain ⟨game, hfound, -⟩ := isInstance_of_seat hloader hseat
      have hupgrade := Heap.upgrade_of_get? (get?_of_game? hfound.found)
      dsimp only
      rw [hupgrade]
      exact .inr ⟨address, game, hfound, rfl, rfl⟩

/-- A game module that is being initialized cannot be had. -/
theorem liveInstance_cases (hworld : world.Orderly kept [] []) (hdrained : world.IsDrained)
    (name requestedBy : String) :
    (result (liveInstance name requestedBy).run world = .ok none ∧
        after (liveInstance name requestedBy).run world = world ∧
        ∀ address game, ¬ world.IsInstance name address game) ∨
      ∃ address game, world.IsInstance name address game ∧
        ((game.initializing = false ∧
          result (liveInstance name requestedBy).run world = .ok (some address) ∧
          after (liveInstance name requestedBy).run world =
            world.retain [⟨.gameModule, address⟩]) ∨
        (game.initializing = true ∧
          result (liveInstance name requestedBy).run world =
            .error (.circularDependency name requestedBy) ∧
          after (liveInstance name requestedBy).run world =
            after (dropObjects [⟨.gameModule, address⟩])
              (world.retain [⟨.gameModule, address⟩]))) := by
  unfold liveInstance
  rw [after_run_lift_bind, result_run_lift_bind]
  rcases loadedModule_cases hworld hdrained name with
    ⟨hresult, hafter, hnone⟩ | ⟨address, game, hfound, hresult, hafter⟩
  · rw [hresult, hafter]
    exact .inl ⟨rfl, rfl, hnone⟩
  · rw [hresult, hafter]
    refine .inr ⟨address, game, hfound, ?_⟩
    have hgame : (world.retain [⟨.gameModule, address⟩]).game? address = some game :=
      ((World.Keeps.refl hworld.objects).retain _).game? hfound.found
    have hmarked : result (isInitializing address)
        (world.retain [⟨.gameModule, address⟩]) = game.initializing := by
      unfold isInitializing
      rw [result_get_bind, hgame]
      rfl
    dsimp only
    rw [after_run_lift_bind, result_run_lift_bind, hmarked]
    cases hinitializing : game.initializing with
    | false => exact .inl ⟨rfl, rfl, rfl⟩
    | true => exact .inr ⟨rfl, rfl, rfl⟩

/-- A load goes on only where no game module of the name lives. -/
theorem liveInstance_places (hworld : world.Orderly kept [] []) (hdrained : world.IsDrained)
    (hkept : ∀ entry ∈ kept, entry.2.initializing = true) {name requestedBy : String}
    {next : Option Nat → LoadAct Nat} (hsome : ∀ address, next (some address) = pure address)
    (hnext : (∀ address game, ¬ world.IsInstance name address game) →
      Places kept world (next none)) :
    Places kept world (liveInstance name requestedBy >>= next) := by
  have hrun : ∀ {found},
      result (liveInstance name requestedBy).run world = .ok found →
        after (liveInstance name requestedBy >>= next).run world =
            after (next found).run (after (liveInstance name requestedBy).run world) ∧
          result (liveInstance name requestedBy >>= next).run world =
            result (next found).run (after (liveInstance name requestedBy).run world) := by
    intro found hfound
    rw [after_run_bind, result_run_bind, hfound]
    exact ⟨rfl, rfl⟩
  rcases liveInstance_cases hworld hdrained name requestedBy with
    ⟨hresult, hafter, hnone⟩ | ⟨address, game, hfound, hcase⟩
  · obtain ⟨horderly, hcontinues, hplaced⟩ := hnext hnone
    obtain ⟨hafter', hresult'⟩ := hrun hresult
    rw [hafter] at hafter' hresult'
    exact ⟨hafter' ▸ horderly, hafter' ▸ hcontinues, by rw [hresult', hafter']; exact hplaced⟩
  · have hretained := hworld.retain address
    have hkeeps := (World.Keeps.refl hworld.objects).retain [⟨.gameModule, address⟩]
    rcases hcase with ⟨hmarked, hresult, hafter⟩ | ⟨hmarked, hresult, hafter⟩
    · obtain ⟨hafter', hresult'⟩ := hrun hresult
      rw [hafter, hsome, after_run_pure] at hafter'
      rw [hafter, hsome, result_run_pure] at hresult'
      -- What is handed out is not kept, for all that is kept is being initialized.
      have hother : ∀ {target found}, (target, found) ∈ kept → address ≠ target := by
        rintro target found hmem rfl
        have hsame := (hworld.kept hmem).1
        rw [hfound.found, Option.some.injEq] at hsame
        rw [hsame, hkept _ hmem] at hmarked
        cases hmarked
      rw [← hafter'] at hretained hkeeps
      refine ⟨hretained.relend _ fun hmem => ?_, hkeeps.continues, fun found hplaced => ?_⟩
      · rw [List.count_cons_of_ne (hother hmem)]
      · rw [hresult'] at hplaced
        cases hplaced
        exact ⟨game, hkeeps.game? hfound.found, hmarked⟩
    · obtain ⟨hdropped, hsheds⟩ :=
        dropObjects_orderly [⟨.gameModule, address⟩] hretained
      have hend : after (liveInstance name requestedBy >>= next).run world =
          after (dropObjects [⟨.gameModule, address⟩])
            (world.retain [⟨.gameModule, address⟩]) := by
        rw [after_run_bind, hresult, hafter]
      refine ⟨hend ▸ hdropped, hend ▸ hkeeps.continues.trans hsheds.toContinues,
        fun found hplaced => ?_⟩
      rw [result_run_bind, hresult] at hplaced
      cases hplaced

/-! ### Making a game module -/

/-- A game module is made where none of its name lives. -/
theorem makeGame_orderly (hworld : world.Orderly kept [] [])
    (hloader : world.loader = some loader) {description : Description}
    (hnone : ∀ address game, ¬ world.IsInstance description.name address game)
    (requestedBy : String) :
    result (makeGame loader description requestedBy) world =
        (world.objects.next, (newGame loader description requestedBy).slot) ∧
      (after (makeGame loader description requestedBy) world).Orderly
        ((world.objects.next, newGame loader description requestedBy) :: kept) [] [] ∧
      world.Continues (after (makeGame loader description requestedBy) world) := by
  refine ⟨rfl, ?_, rfl, rfl, ?_⟩
  · refine hworld.admitted hloader rfl rfl rfl fun {other seat} hseat hname => ?_
    obtain ⟨found, hfound, -⟩ := isInstance_of_seat hloader hseat
    rw [hname] at hfound
    exact hnone other found hfound
  · show Option.map Loader.serial (world.loader.map _) = world.loader.map Loader.serial
    rw [hloader]
    rfl

/-- A game module that is made is initialized, or its slot is freed and it is gone. -/
theorem loadDescription_places (hload : Arranges load)
    (hkept : ∀ entry ∈ kept, entry.2.initializing = true)
    (hworld : world.Orderly kept [] []) (hloader : world.loader = some loader)
    {description : Description}
    (hnone : ∀ address game, ¬ world.IsInstance description.name address game)
    (requestedBy : String) :
    Places kept world (loadDescription load loader description requestedBy) := by
  obtain ⟨hresult, hmade, hcontinues⟩ :=
    makeGame_orderly hworld hloader hnone requestedBy
  have hothers : ∀ entry ∈ kept, entry.1 ≠ world.objects.next := fun entry hentry =>
    Nat.ne_of_lt (hworld.lt_next (hworld.of_entry hentry).1)
  obtain ⟨hready, hcontinues'⟩ := makeReady_undergoes hload hkept hmade hothers rfl rfl
  obtain ⟨⟨game, -, hmade', hslot, hmarked, horderly⟩, -⟩ := hready
  have hserial : (after (makeReady load world.objects.next).run
      (after (makeGame loader description requestedBy) world)).loader.map Loader.serial =
        some game.loader := by
    rw [(hcontinues.trans hcontinues').serial, hloader, hmade']
    rfl
  refine .lift hcontinues ?_
  rw [hresult]
  refine .attempt hcontinues' ?_
  generalize after (makeReady load world.objects.next).run
    (after (makeGame loader description requestedBy) world) = ready at horderly hserial
  cases result (makeReady load world.objects.next).run
      (after (makeGame loader description requestedBy) world) with
  | ok value =>
      refine ⟨horderly.forget, .refl ready, fun address hfound => ?_⟩
      cases hfound
      exact ⟨game, (horderly.kept List.mem_cons_self).1, hmarked⟩
  | error err =>
      rw [← hslot]
      have hfreed := horderly.freeSlot hserial
      have hlast := (hfreed.kept List.mem_cons_self).2.2
      have hlent := hfreed.forget.relend [world.objects.next] fun hmem =>
        List.count_cons_of_ne (Ne.symm (hothers _ hmem))
      obtain ⟨hdropped, hsheds⟩ :=
        dropObjects_orderly [⟨.gameModule, world.objects.next⟩] hlent
      have hgone := dropObjects_gone ⟨.gameModule, world.objects.next⟩ hlent hlast
      refine .lift (continues_changingLoader _ fun _ => rfl) ?_
      refine .lift hsheds.toContinues (.throw ?_ err)
      exact hdropped.inside hgone

/-! ### Loads -/

theorem loadWith_arranges (hload : Arranges load) : Arranges (loadWith load) := by
  refine ⟨fun {kept world} name requestedBy hworld hkept => ?_⟩
  have hdrained := hworld.drained
  have hreported := isDrained_drained world
  unfold loadWith
  refine .lift (continues_changingLoader _ fun _ => rfl) ?_
  rw [after_onLoader]
  generalize world.changingLoader Loader.drained = drained at hdrained hreported
  refine liveInstance_places hdrained hreported hkept (fun _ => rfl) fun _ => ?_
  refine .lift (.refl drained) ?_
  split
  · exact .throw hdrained _
  · rename_i loader hloader
    split
    · exact .throw hdrained _
    · split
      · exact .throw hdrained _
      · refine liveInstance_places hdrained hreported hkept (fun _ => rfl) fun hnone => ?_
        exact loadDescription_places hload hkept hdrained hloader hnone requestedBy

theorem loadNested_arranges (depth : Nat) : Arranges (loadNested depth) := by
  induction depth with
  | zero => exact ⟨fun {kept world} name requestedBy hworld hkept =>
      ⟨hworld, .refl world, fun _ => nofun⟩⟩
  | succ depth ih => exact loadWith_arranges ih

theorem load_orderly (name requestedBy : String) (hworld : world.Orderly [] [] []) :
    (after (Act.load name requestedBy) world).Orderly [] [] [] := by
  unfold Act.load
  rw [after_get_bind]
  exact ((loadNested_arranges _).run name requestedBy hworld (by simp)).orderly

/-- Looking for a game module that lives and is not being initialized finds it. -/
theorem liveInstance_of_instance (hworld : world.Orderly kept [] [])
    (hdrained : world.IsDrained) {name : String}
    (hfound : world.IsInstance name address game) (hmarked : game.initializing = false)
    (requestedBy : String) :
    result (liveInstance name requestedBy).run world = .ok (some address) ∧
      after (liveInstance name requestedBy).run world =
        world.retain [⟨.gameModule, address⟩] := by
  rcases liveInstance_cases hworld hdrained name requestedBy with
    ⟨-, -, hnone⟩ | ⟨other, found, hother, hcase⟩
  · exact absurd hfound (hnone address game)
  · have hsame := hworld.instance_unique hfound hother
    subst hsame
    have hgame := hother.found
    rw [hfound.found, Option.some.injEq] at hgame
    subst hgame
    rcases hcase with ⟨-, hresult, hafter⟩ | ⟨hinitializing, -⟩
    · exact ⟨hresult, hafter⟩
    · rw [hmarked] at hinitializing
      cases hinitializing

theorem liveInstance_of_unnamed (hworld : world.Orderly kept [] [])
    (hdrained : world.IsDrained) {name : String}
    (hnone : ∀ address game, ¬ world.IsInstance name address game) (requestedBy : String) :
    result (liveInstance name requestedBy).run world = .ok none ∧
      after (liveInstance name requestedBy).run world = world := by
  rcases liveInstance_cases hworld hdrained name requestedBy with
    ⟨hresult, hafter, -⟩ | ⟨address, game, hfound, -⟩
  · exact ⟨hresult, hafter⟩
  · exact absurd hfound (hnone address game)

/-- A request for a game module that lives and is not being initialized finds it and
changes nothing else: nothing is built, and no listener is called. -/
theorem loadWith_of_instance (hworld : world.Orderly kept [] []) {name request : String}
    (hfound : world.IsInstance name address game) (hmarked : game.initializing = false)
    (hrequest : world.Denotes name request) (requestedBy : String) :
    result (loadWith load request requestedBy).run world = .ok address ∧
      after (loadWith load request requestedBy).run world = world.finding address := by
  have hdrained := hworld.drained
  have hreported := isDrained_drained world
  have hstill := isInstance_drained.mpr hfound
  unfold loadWith finding
  rw [result_run_lift_bind, after_run_lift_bind, after_onLoader]
  cases hrequest with
  | name =>
      obtain ⟨hresult, hafter⟩ :=
        liveInstance_of_instance hdrained hreported hstill hmarked requestedBy
      rw [result_run_bind, after_run_bind, hresult, hafter]
      exact ⟨rfl, rfl⟩
  | @file _ loader path description hunnamed hloader hleads hdeclares hname =>
      subst hname
      obtain ⟨hresult, hafter⟩ := liveInstance_of_unnamed hdrained hreported
        (fun address game hinstance => hunnamed address game
          (isInstance_drained.mp hinstance)) requestedBy
      rw [result_run_bind, after_run_bind, hresult, hafter]
      dsimp only
      have hloader' : (world.changingLoader Loader.drained).loader = some loader.drained := by
        unfold changingLoader
        rw [hloader]
        rfl
      have hleads' : loader.drained.descriptionPath? world.files request = some path := hleads
      obtain ⟨hresult', hafter'⟩ :=
        liveInstance_of_instance hdrained hreported hstill hmarked requestedBy
      rw [result_run_get_bind, after_run_get_bind, hloader']
      dsimp only
      rw [show (world.changingLoader Loader.drained).files = world.files from rfl, hleads']
      dsimp only
      rw [hdeclares]
      dsimp only
      rw [result_run_bind, after_run_bind, hresult', hafter']
      exact ⟨rfl, rfl⟩

theorem load_of_instance (hworld : world.Orderly [] [] []) {name request : String}
    (hfound : world.IsInstance name address game) (hmarked : game.initializing = false)
    (hrequest : world.Denotes name request) (requestedBy : String) :
    (Act.load request requestedBy).run world = (.ok address, world.finding address) := by
  have hload : loadNested (nestingBound world) request requestedBy =
      loadWith (loadNested world.files.fileCount) request requestedBy := rfl
  have hloaded := @loadWith_of_instance [] world address game
    (loadNested world.files.fileCount) hworld name request hfound hmarked hrequest requestedBy
  rw [← hload] at hloaded
  unfold Act.load
  rw [run_eq, result_get_bind, after_get_bind, hloaded.1, hloaded.2]

end Act

end ScriptHost
