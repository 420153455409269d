import ScriptHost.Proofs.Keeping

/-!
Dropping handles. A cascade of destruction touches the script modules whose
handles are dropped, those of the game modules that go with it, and whatever is
registered under the numbers of these; and it leaves nothing registered there.
Game modules neither appear nor change meanwhile. The executor goes with its last
holder, and then every registered module may go.
-/

namespace ScriptHost

namespace World

variable {held : Holdings} {may : Touch → Prop} {touched : Nat → Nat → Prop}
  {before middle after world : World}

/-- Whether a script module is one of a game module that was there before and is
gone after, or is registered under the number of such a one. Once the executor is
gone this is said of everything. -/
def Doomed (before after : World) (address id : Nat) : Prop :=
  after.isRunning = true → ∃ place game script module,
    before.game? place = some game ∧ after.game? place = none ∧
      game.script = some script ∧ before.module? script = some module ∧
        module.id = id ∧
          (address = script ∨ before.executor.registry.get? id = some address)

/-- What a cascade of destruction makes of a world, if the modules that handles
are dropped of are among `touched`. -/
structure Drops (touched : Nat → Nat → Prop) (before after : World) : Prop where
  changes : Scripts.Changes (Touch.modules fun address id =>
    touched address id ∨ before.Doomed after address id) before.scripts after.scripts
  games : ∀ {place game}, after.game? place = some game →
    before.game? place = some game
  next : before.objects.next ≤ after.objects.next
  cleared : after.isRunning = true → ∀ {place game script module},
    before.game? place = some game → after.game? place = none →
      game.script = some script → before.module? script = some module →
        after.scripts.Cleared module.id

end World

/-- The executor does not come back. -/
theorem Scripts.Changes.running {may : Touch → Prop} {before after : Scripts}
    (hchanges : Scripts.Changes may before after)
    (hrunning : after.running = true) : before.running = true := by
  induction hchanges with
  | refl => exact hrunning
  | @tail middle last _ hchange ih =>
      apply ih
      cases hchange with
      | discard => rw [Scripts.running_leave] at hrunning; exact hrunning
      | renew => rw [Scripts.running_leave] at hrunning; exact hrunning
      | vanish => rw [Scripts.running_leave] at hrunning; exact hrunning
      | close => cases hrunning
      | _ => exact hrunning

namespace World

variable {held : Holdings} {may : Touch → Prop} {touched : Nat → Nat → Prop}
  {before middle after world : World}

/-- More may be touched than is touched. -/
theorem modules_inl {more : Nat → Nat → Prop} (touch : Touch)
    (hmay : Touch.modules touched touch) :
    Touch.modules (fun address id => touched address id ∨ more address id)
      touch := by
  cases touch with
  | module address id => exact .inl hmay
  | _ => exact hmay

/-- What cascades that follow one another touch, they touch as one. -/
theorem Drops.touches (hfirst : Drops touched before middle)
    (hsecond : Drops
      (fun address id => touched address id ∨ before.Doomed middle address id)
      middle after) (touch : Touch)
    (hmay : Touch.modules (fun address id =>
      (touched address id ∨ before.Doomed middle address id) ∨
        middle.Doomed after address id) touch) :
    Touch.modules
      (fun address id => touched address id ∨ before.Doomed after address id)
      touch := by
  have hshrinks := hfirst.changes.shrinks
  have hgone : ∀ {place}, middle.game? place = none → after.game? place = none := by
    intro place hnone
    cases hafter : after.game? place with
    | none => rfl
    | some game =>
        have hmiddle := hsecond.games hafter
        rw [hnone] at hmiddle
        cases hmiddle
  have hearly : ∀ address id, before.Doomed middle address id →
      before.Doomed after address id := by
    intro address id hdoomed hrunning
    obtain ⟨place, game, script, module, hgame, hnone, hrest⟩ :=
      hdoomed (hsecond.changes.running hrunning)
    exact ⟨place, game, script, module, hgame, hgone hnone, hrest⟩
  have hlate : ∀ address id, middle.Doomed after address id →
      before.Doomed after address id := by
    intro address id hdoomed hrunning
    obtain ⟨place, game, script, module, hgame, hnone, hscript, hmodule, hid,
      haddress⟩ := hdoomed hrunning
    obtain ⟨earlier, hearlier, hsame⟩ := hshrinks.modules hmodule
    exact ⟨place, game, script, earlier, hfirst.games hgame, hnone, hscript,
      hearlier, hsame ▸ hid, haddress.imp_right hshrinks.registry⟩
  cases touch with
  | module address id =>
      rcases hmay with (htouched | hdoomed) | hdoomed
      · exact .inl htouched
      · exact .inr (hearly address id hdoomed)
      · exact .inr (hlate address id hdoomed)
  | _ => exact hmay

/-- Cascades follow one another. -/
theorem Drops.trans (hmiddle : middle.Sound held)
    (hfirst : Drops touched before middle)
    (hsecond : Drops
      (fun address id => touched address id ∨ before.Doomed middle address id)
      middle after) : Drops touched before after where
  changes := Relation.ReflTransGen.trans
    (hfirst.changes.mono fun touch hmay =>
      hfirst.touches hsecond touch (modules_inl touch hmay))
    (hsecond.changes.mono (hfirst.touches hsecond))
  games := fun hgame => hfirst.games (hsecond.games hgame)
  next := Nat.le_trans hfirst.next hsecond.next
  cleared := by
    intro hrunning place game script module hgame hnone hscript hmodule
    cases hstill : middle.game? place with
    | none =>
        have hearly := hfirst.cleared (hsecond.changes.running hrunning) hgame hstill
          hscript hmodule
        exact hearly.of_shrinks hsecond.changes.shrinks
    | some same =>
        have hsame := hfirst.games hstill
        rw [hgame] at hsame
        cases hsame
        obtain ⟨found, hfound⟩ := hmiddle.script_lives hstill hscript
        obtain ⟨earlier, hearlier, hid⟩ := hfirst.changes.shrinks.modules hfound
        have hmodule' : before.scripts.module? script = some module := hmodule
        rw [hmodule'] at hearlier
        cases hearlier
        rw [← hid]
        exact hsecond.cleared hrunning hstill hnone hscript hfound

/-- A change that concerns no script module and leaves game modules where they
are. -/
theorem Quiet.drops (hquiet : before.Quiet after) (hbefore : before.objects.Sound)
    (hgames : ∀ place, before.game? place ≠ none → after.game? place ≠ none) :
    Drops touched before after where
  changes := .of_eq hquiet.scripts
  games := hquiet.games hbefore
  next := hquiet.next
  cleared := by
    intro _ place game script module hgame hnone
    exact absurd hnone (hgames place (by simp [hgame]))

theorem scripts_of_modules (world : World) {modules : Heap ScriptModule}
    (hfound : ∀ address, modules.get? address = world.module? address)
    (hnext : modules.next = world.modules.next) :
    World.scripts { world with modules := modules } = world.scripts := by
  ext1
  · exact funext hfound
  · exact hnext
  all_goals rfl

/-! ### One handle of an object -/

/-- The objects with one handle less of one whose other handles remain. -/
theorem releaseObject_quiet {address : Nat}
    (hnone : (world.objects.release address).2 = none) :
    world.Quiet { world with objects := (world.objects.release address).1 } := by
  refine .of_objects world.host _ (Nat.le_of_eq (Heap.next_release _ _).symm)
    (fun hsound => hsound.release address) ?_
  intro hsound other game hgame
  rw [hsound.get?_release_of_none hnone] at hgame
  exact hgame

/-- An object that goes while it is no game module. -/
theorem destroyObject_quiet {address : Nat} {body : ObjectBody}
    (hsome : (world.objects.release address).2 = some body) :
    world.Quiet { world with objects := (world.objects.release address).1 } := by
  refine .of_objects world.host _ (Nat.le_of_eq (Heap.next_release _ _).symm)
    (fun hsound => hsound.release address) ?_
  intro hsound other game hgame
  rw [(hsound.get?_release_of_some hsome).2] at hgame
  split at hgame
  · cases hgame
  · exact hgame

theorem finishObject_quiet (world : World) (address : Nat) :
    world.Quiet { world with objects := world.objects.finish address } := by
  refine .of_objects world.host _ (Nat.le_of_eq (Heap.next_finish _ _).symm)
    (fun hsound => hsound.finish address) ?_
  intro _ other game hgame
  rw [Heap.get?_finish] at hgame
  exact hgame

/-- The game modules left when an object goes. -/
theorem game?_destroyObject {address : Nat} {body : ObjectBody}
    (hworld : world.objects.Sound)
    (hsome : (world.objects.release address).2 = some body) (place : Nat) :
    World.game? { world with objects :=
        ((world.objects.release address).1.finish address) } place =
      if address = place then none else world.game? place := by
  unfold World.game?
  simp only [Heap.get?_finish, (hworld.get?_release_of_some hsome).2]
  by_cases ha : address = place
  · simp [ha]
  · simp [ha]

/-- A game module that goes leaves a holder of the executor behind, and its handle
of a script module. -/
theorem Sound.destroyGame (hworld : world.Sound held) {address : Nat}
    {game : GameModule}
    (hsome : (world.objects.release address).2 = some (.game game)) :
    world.game? address = some game ∧
    World.game? { world with objects := (world.objects.release address).1 }
      address = none ∧
    Sound ((held.taking game.script.toList).holding)
      { world with objects := (world.objects.release address).1 } := by
  obtain ⟨hbody, hrest⟩ := hworld.objects.get?_release_of_some hsome
  have hgame := (game?_eq_some_iff world address game).mpr hbody
  have hquiet := world.destroyObject_quiet hsome
  have hgone : World.game?
      { world with objects := (world.objects.release address).1 } address = none := by
    simp only [World.game?, hrest, if_true]
  have hfresh : ∀ games : List Nat, (∀ other ∈ games, (World.game?
      { world with objects := (world.objects.release address).1 } other).isSome = true) →
        address ∉ games := by
    intro games hgames hmem
    have hthere := hgames address hmem
    rw [hgone] at hthere
    cases hthere
  refine ⟨hgame, hgone, hquiet.objects hworld.objects, hworld.modules,
    hworld.scripts, ?_, ?_⟩
  · intro games hnodup hgames
    have hcount := hworld.holders (address :: games)
      (List.nodup_cons.mpr ⟨hfresh games hgames, hnodup⟩) (by
        intro other hother
        rcases List.mem_cons.mp hother with rfl | hother
        · simp [hgame]
        · obtain ⟨found, hfound⟩ := Option.isSome_iff_exists.mp (hgames other hother)
          simp [hquiet.games hworld.objects hfound])
    simp only [List.length_cons, loaderHold, Holdings.holding, Holdings.taking] at hcount ⊢
    omega
  · intro hrunning script ids games howners
    have hearlier : world.Owners script ids games :=
      howners.earlier (fun _ hid => hid) fun {other found} hfound hscript =>
        ⟨found, hquiet.games hworld.objects hfound, hscript⟩
    simp only [Holdings.holding, Holdings.taking, List.count_append, toList_count]
    by_cases hscript : game.script = some script
    · have hmore : world.Owners script ids (address :: games) := by
        refine ⟨hearlier.numbers, hearlier.registered, List.nodup_cons.mpr ⟨?_,
          hearlier.places⟩, ?_⟩
        · apply hfresh games
          intro other hother
          obtain ⟨found, hfound, -⟩ := howners.scripts other hother
          rw [hfound]
          rfl
        · intro other hother
          rcases List.mem_cons.mp hother with rfl | hother
          · exact ⟨game, hgame, hscript⟩
          · exact hearlier.scripts other hother
      rw [if_pos hscript]
      refine Counts.mono (hworld.handles hrunning hmore) ?_
      rw [List.length_cons]
      omega
    · rw [if_neg hscript]
      refine Counts.mono (hworld.handles hrunning hearlier) ?_
      omega

end World

namespace Act

open World

variable {held : Holdings} {may : Touch → Prop} {touched : Nat → Nat → Prop}
  {before world : World}

/-- One holder of the executor less. Where it was the last one, the executor is
gone and its registry has given the handles of script modules away. -/
theorem releaseExecutor_reaches (hworld : world.Sound held.holding) :
    world.Reaches (held.taking (Owned.modules (result releaseExecutor world))) may
        (after releaseExecutor world) ∧
      (result releaseExecutor world = [] ∨
        (after releaseExecutor world).isRunning = false) := by
  have hrunning := hworld.running_of_held (Nat.succ_pos held.executor)
  have hholders : ∀ games : List Nat, games.Nodup →
      (∀ address ∈ games, (world.game? address).isSome = true) →
        held.executor + world.loaderHold + games.length ≤ world.holders - 1 := by
    intro games hnodup hgames
    have hcount := hworld.holders games hnodup hgames
    simp only [Holdings.holding] at hcount
    omega
  unfold releaseExecutor
  rw [after_get_bind, result_get_bind]
  dsimp only
  rw [hrunning, Bool.and_true]
  by_cases hlast : world.holders - 1 = 0
  · rw [if_pos (by simpa using hlast), after_bind, after_set, after_pure]
    have hclosed : World.scripts { world with
        holders := world.holders - 1
        executor := world.executor.closed } = world.scripts.close := by
      ext1 <;> try rfl
      simp only [World.scripts, World.isRunning, hlast]
      rfl
    have hstopped : World.isRunning { world with
        holders := world.holders - 1
        executor := world.executor.closed } = false := by
      simp [World.isRunning, hlast]
    refine ⟨⟨hclosed ▸ .single .close, .inl, .of_games (Nat.le_refl _) id, ?_⟩, .inr hstopped⟩
    refine ⟨hworld.objects, hworld.modules, ?_, hholders, ?_⟩
    · rw [hclosed]
      have hclose : Scripts.Change may world.scripts world.scripts.close := .close
      exact hclose.consistent hworld.scripts
    · intro hstill
      rw [hstopped] at hstill
      cases hstill
  · rw [if_neg (by simpa using hlast), after_bind, after_set, after_pure]
    have hthere : World.isRunning { world with holders := world.holders - 1 } =
        world.isRunning := by
      rw [hrunning]
      simp only [World.isRunning, decide_eq_true_eq]
      omega
    have hsame : World.scripts { world with holders := world.holders - 1 } =
        world.scripts := by
      ext1 <;> try rfl
      exact hthere
    refine ⟨⟨.of_eq hsame, .inl, .of_games (Nat.le_refl _) id, ?_⟩, .inl rfl⟩
    refine ⟨hworld.objects, hworld.modules, hsame ▸ hworld.scripts, hholders, ?_⟩
    intro hstill address ids games howners
    have hearlier : world.Owners address ids games :=
      howners.earlier (fun _ hid => hid) fun {other game} hgame hscript =>
        ⟨game, hgame, hscript⟩
    exact hworld.handles (hthere ▸ hstill) hearlier

theorem releaseExecutor_objects (world : World) :
    (after releaseExecutor world).objects = world.objects := by
  unfold releaseExecutor
  rw [after_get_bind]
  dsimp only
  split <;> rfl

/-- What is left to drop once the executor is gone may all be touched. -/
theorem releaseExecutor_allows (hworld : world.Sound held.holding) {later : World}
    (hlater : later.isRunning = true →
      (after releaseExecutor world).isRunning = true) :
    ∀ handle ∈ result releaseExecutor world, later.Allows
      (Touch.modules fun address id =>
        touched address id ∨ before.Doomed later address id) handle := by
  intro handle hhandle
  have hreleased : world.Reaches _ Touch.ordinary (after releaseExecutor world) ∧
      (result releaseExecutor world = [] ∨
        (after releaseExecutor world).isRunning = false) :=
    releaseExecutor_reaches hworld
  rcases hreleased.2 with hnone | hgone
  · rw [hnone] at hhandle
    cases hhandle
  · have hdoomed : ∀ address id, before.Doomed later address id := by
      intro address id hrunning
      have hthere := hlater hrunning
      rw [hgone] at hthere
      cases hthere
    cases handle with
    | object ref => trivial
    | module address => exact fun module _ => .inr (hdoomed address module.id)

theorem onLoader_quiet (world : World) (change : Loader → Loader) :
    world.Quiet { world with loader := world.loader.map change } :=
  ⟨rfl, rfl, rfl, rfl, by simp, rfl, Nat.le_refl _, id, fun _ _ _ => id⟩

/-- Destroying a game module keeps all others. -/
theorem destroyGame_keeps (address : Nat) (game : GameModule) (hobjects : world.objects.Sound)
    {place : Nat} {other : GameModule} (hother : world.game? place = some other) :
    (after (destroyGame address game) world).game? place = some other := by
  let noted : World := { world with loader := world.loader.map (·.take game) }
  have hnoted : noted.objects.Sound := hobjects
  obtain ⟨refs, -, -, hkept, -⟩ := detachScript_keeps address game true .void (.refl hnoted)
  have hdetached : (after (detachScript address game true .void) noted).game? place =
      some other := hkept.game? hother
  unfold destroyGame
  rw [after_bind, after_bind, after_bind, after_pure, after_modify]
  unfold World.game?
  rw [releaseExecutor_objects]
  exact hdetached

/-- The last handle of a game module takes its script module along. -/
theorem destroyGame_drops {address : Nat} {game : GameModule}
    (hworld : world.Sound held)
    (hsome : (world.objects.release address).2 = some (.game game)) :
    let released := { world with objects := (world.objects.release address).1 }
    let destroyed := after (destroyGame address game) released
    let finished := { destroyed with objects := destroyed.objects.finish address }
    Drops touched world finished ∧
      finished.Sound
        (held.taking (Owned.modules (result (destroyGame address game) released))) ∧
      ∀ handle ∈ result (destroyGame address game) released, finished.Allows
        (Touch.modules fun address id =>
          touched address id ∨ world.Doomed finished address id) handle := by
  intro released destroyed finished
  obtain ⟨hgame, hgone, hreleased⟩ := hworld.destroyGame hsome
  have hquiet : world.Quiet released := world.destroyObject_quiet hsome
  -- The loader takes note before the script module is detached.
  let noted : World := { released with loader := released.loader.map (·.take game) }
  have hnoted : released.Quiet noted := onLoader_quiet released (·.take game)
  have hstart := hquiet.trans hnoted
  have hsound : noted.Sound (held.holding.taking game.script.toList) :=
    hnoted.sound hreleased
  let detached := after (detachScript address game true .void) noted
  have hfinish := destroyed.finishObject_quiet address
  have hgoneAfter : finished.game? address = none := by
    have hanything : ∀ script, game.script = some script →
        noted.Covered (fun _ _ => True) script :=
      fun _ _ _ _ => ⟨trivial, fun _ _ => trivial⟩
    have hdetach : noted.Reaches _ _ detached :=
      (detachScript_reaches hsound hanything true .void).1
    have hthere : finished.game? address = detached.game? address := by
      have hobjects : destroyed.objects = detached.objects :=
        releaseExecutor_objects detached
      simp only [World.game?, finished, Heap.get?_finish, hobjects]
    cases hfound : finished.game? address with
    | none => rfl
    | some found =>
        rw [hthere] at hfound
        have hearlier := (hdetach.games hfound).elim id False.elim
        have hfirst := hnoted.games hreleased.objects hearlier
        rw [hgone] at hfirst
        cases hfirst
  have hcovered : ∀ script, game.script = some script → noted.Covered
      (fun other id => touched other id ∨ world.Doomed finished other id) script := by
    intro script hscript module hmodule
    have hfound : world.module? script = some module := hmodule
    exact ⟨.inr fun _ => ⟨address, game, script, module, hgame, hgoneAfter, hscript,
      hfound, rfl, .inl rfl⟩, fun other hother => .inr fun _ => ⟨address, game,
        script, module, hgame, hgoneAfter, hscript, hfound, rfl, .inr hother⟩⟩
  obtain ⟨hdetach, hallows, hcleared⟩ :=
    detachScript_reaches hsound hcovered true .void
  have hdetached : detached.Sound (held.taking (Owned.modules
      (result (detachScript address game true .void) noted))).holding := hdetach.sound
  have hrelease : detached.Reaches _ (Touch.modules fun other id =>
      touched other id ∨ world.Doomed finished other id) destroyed :=
    (releaseExecutor_reaches hdetached).1
  have hlast := hrelease.trans (hfinish.reaches hrelease.sound)
  have hresult : result (destroyGame address game) released =
      result (detachScript address game true .void) noted ++ result releaseExecutor detached :=
    rfl
  refine ⟨⟨?_, ?_, Nat.le_trans hstart.next (hdetach.trans hlast).issues.next, ?_⟩, ?_, ?_⟩
  · exact (Scripts.Changes.of_eq hstart.scripts).trans (hdetach.trans hlast).changes
  · intro place found hfound
    exact hstart.games hworld.objects
      (((hdetach.trans hlast).games hfound).elim id False.elim)
  · intro _ place found script module hfound hnone hscript hmodule
    have hsame : place = address := by
      apply Classical.byContradiction
      intro hne
      have hstill : released.game? place = some found := by
        simp only [World.game?, released,
          (hworld.objects.get?_release_of_some hsome).2, if_neg (Ne.symm hne)]
        exact hfound
      have hkept : destroyed.game? place = some found :=
        destroyGame_keeps address game hreleased.objects hstill
      have hthere : finished.game? place = destroyed.game? place := by
        simp only [World.game?, finished, Heap.get?_finish]
      rw [hthere, hkept] at hnone
      cases hnone
    subst hsame
    rw [hgame] at hfound
    cases hfound
    exact (hcleared script module hscript hmodule).of_shrinks hlast.changes.shrinks
  · refine hlast.sound.forget (Nat.le_refl _) fun other => ?_
    rw [hresult]
    simp only [Owned.modules_append, Holdings.taking, List.count_append]
    omega
  · intro handle hhandle
    rw [hresult] at hhandle
    rcases List.mem_append.mp hhandle with hscript | hregistered
    · exact (hallows handle hscript).of_changes hlast.changes
    · exact releaseExecutor_allows hdetached
        (fun hrunning => hfinish.isRunning ▸ hrunning) handle hregistered

end Act

namespace World

variable {held : Holdings} {world : World}

/-- A handle less of a script module, whose other handles all remain. -/
theorem Counts.of_release {address other handles : Nat} {after : World}
    (hlives : ∀ place, after.module? place =
      if address = place ∧ world.modules.strongCount address = 1 then none
      else world.module? place)
    (hcount : ∀ place, after.modules.strongCount place =
      world.modules.strongCount place - if address = place then 1 else 0)
    (hcounts : world.Counts other (handles + [address].count other)) :
    after.Counts other handles := by
  intro hpos
  obtain ⟨⟨module, hmodule⟩, hle⟩ := hcounts (by omega)
  rw [List.count_singleton] at hle
  simp only [beq_iff_eq] at hle
  refine ⟨⟨module, ?_⟩, ?_⟩
  · rw [hlives, if_neg, hmodule]
    rintro ⟨rfl, hone⟩
    rw [if_pos rfl] at hle
    omega
  · rw [hcount]
    omega

/-- A module whose last handle is held from outside is not registered. -/
theorem Sound.free_of_last {address : Nat}
    (hworld : world.Sound (held.taking [address]))
    (hlast : world.modules.strongCount address = 1) (id : Nat) :
    world.scripts.registry.get? id ≠ some address := by
  intro hregistered
  rcases Bool.eq_false_or_eq_true world.isRunning with hrunning | hstopped
  · have howners : world.Owners address [id] [] := by
      refine ⟨by simp, ?_, List.nodup_nil, by simp⟩
      intro number hnumber
      rw [List.mem_singleton.mp hnumber]
      exact hregistered
    have hcounts := hworld.handles hrunning howners
    simp only [Holdings.taking, List.singleton_append, List.count_cons_self,
      List.length_singleton, List.length_nil] at hcounts
    have hle := (hcounts (by omega)).2
    omega
  · obtain ⟨-, -, hregistry, -⟩ := hworld.scripts.closed hstopped
    rw [hregistry] at hregistered
    cases hregistered

end World

namespace Act

open World

variable {held : Holdings} {may : Touch → Prop} {touched : Nat → Nat → Prop}
  {world : World}

/-! ### One handle -/

theorem destroyModule_isSteady (module : ScriptModule) :
    IsSteady (destroyModule module) := by
  refine .bind .get fun world => ?_
  split
  · refine .bind (onExecutor_isSteady _ (removeCompiled?_rules _)) fun _ => ?_
    split
    · exact .bind (onExecutor_isSteady _ fun _ => rfl) fun _ => .pure _
    · exact .pure _
  · exact .pure _

/-- A module that goes takes its compiled script and its registration along. -/
theorem destroyModule_changes (hclosed : world.scripts.Closed) {address : Nat}
    {module : ScriptModule} (hmodule : world.module? address = some module)
    (hmay : may (.module address module.id))
    (hfree : ∀ id, world.scripts.registry.get? id ≠ some address) {released : World}
    (hscripts : released.scripts = world.scripts.put address none) :
    Scripts.Changes may world.scripts
      (after (destroyModule module) released).scripts := by
  have hvanish : Scripts.Change may world.scripts
      ((world.scripts.put address none).leave module.compiled) :=
    .vanish hmodule hmay hfree
  unfold destroyModule
  rw [after_get_bind]
  rcases Bool.eq_false_or_eq_true released.isRunning with hrunning | hstopped
  · rw [if_pos hrunning, after_bind, after_onExecutor]
    have hleft : (released.withExecutor
        (·.removeCompiled? module.compiled)).scripts =
          (world.scripts.put address none).leave module.compiled := by
      rw [scripts_removeCompiled?, hscripts]
    split
    · rw [after_bind, after_onExecutor, after_pure, scripts_unwatch, hleft]
      exact .tail (.single hvanish) (.unwatch module.id hmay)
    · rw [after_pure, hleft]
      exact .single hvanish
  · rw [if_neg (by simp [hstopped]), after_pure, hscripts]
    have hworldStopped : world.scripts.running = false := by
      have hsame := congrArg Scripts.running hscripts
      exact hsame.symm.trans hstopped
    obtain ⟨hcompiled, hgrants, -, -⟩ := hclosed hworldStopped
    rw [Scripts.leave_of_empty (world.scripts.put address none) _ hcompiled
      hgrants] at hvanish
    exact .single hvanish

/-- A dropped handle of a script module concerns this module alone. -/
theorem dropModule_reaches {address : Nat}
    (hworld : world.Sound (held.taking [address]))
    (hwithin : world.Within may address) :
    world.Reaches held may (after (dropOne (.module address)) world) := by
  have hheap := hworld.modules
  have hnext := Heap.next_release world.modules address
  have hfewer : ∀ {after : World}, (∀ place, after.module? place =
      if address = place ∧ world.modules.strongCount address = 1 then none
      else world.module? place) →
      (∀ place, after.modules.strongCount place =
        world.modules.strongCount place - if address = place then 1 else 0) →
      ∀ other handles, world.Counts other
        (handles + (held.taking [address]).modules.count other) →
          after.Counts other (handles + held.modules.count other) := by
    intro after hlives hcount other handles hcounts
    refine Counts.of_release hlives hcount (hcounts.mono ?_)
    simp only [Holdings.taking, List.count_append]
    omega
  unfold dropOne
  rw [after_get_bind]
  dsimp only
  rw [after_bind, after_set]
  split
  · rename_i hnone
    have hsame := world.scripts_of_modules
      (hheap.get?_release_of_none hnone) hnext
    rw [after_pure]
    exact hworld.reaches_of_counts (.of_eq hsame) rfl (hheap.release address) hnext
      (Nat.le_refl _) (hfewer (hheap.get?_release address)
        (Heap.strongCount_release world.modules address)) rfl rfl
  · rename_i module hsome
    obtain ⟨hmodule, hrest⟩ := hheap.get?_release_of_some hsome
    have hlast : world.modules.strongCount address = 1 := by
      apply Classical.byContradiction
      intro hne
      rw [hheap.release_snd, if_neg hne] at hsome
      cases hsome
    have hreleased : World.scripts
        { world with modules := (world.modules.release address).1 } =
          world.scripts.put address none := by
      ext1
      · exact funext hrest
      · exact hnext
      all_goals rfl
    have hsteady := destroyModule_isSteady module
      { world with modules := (world.modules.release address).1 }
    have hchanges := destroyModule_changes hworld.scripts.closed hmodule
      (hwithin module hmodule) (hworld.free_of_last hlast) hreleased
    rw [after_bind, after_bind, after_modify, after_pure]
    have hfinish := (after (destroyModule module)
      { world with modules := (world.modules.release address).1 }).scripts_of_modules
        (Heap.get?_finish _ address) (Heap.next_finish _ address)
    have hfound : ∀ place, (after (destroyModule module)
        { world with modules := (world.modules.release address).1 }).module? place =
          if address = place ∧ world.modules.strongCount address = 1 then none
          else world.module? place := by
      intro place
      unfold destroyModule
      rw [after_get_bind]
      have hget := hheap.get?_release address place
      split
      · rw [after_bind]
        split <;> exact hget
      · exact hget
    refine hworld.reaches_of_counts
      (hchanges.trans (Scripts.Changes.of_eq hfinish)) hsteady.objects
      ((hsteady.modules (hheap.release address)).finish address)
      ((Heap.next_finish _ address).trans (hsteady.next.trans hnext)) (Nat.le_refl _)
      (hfewer ?_ ?_) hsteady.holders hsteady.loader
    · intro place
      rw [← hfound]
      exact Heap.get?_finish _ address place
    · intro place
      rw [Heap.strongCount_finish, hsteady.counts]
      exact Heap.strongCount_release world.modules address place

theorem dropModule_objects (address : Nat) (world : World) :
    (after (dropOne (.module address)) world).objects = world.objects := by
  unfold dropOne
  rw [after_get_bind]
  dsimp only
  rw [after_bind, after_set]
  split
  · rfl
  · rename_i module _
    exact (destroyModule_isSteady module
      { world with modules := (world.modules.release address).1 }).objects

theorem destroyModule_result (module : ScriptModule) (world : World) :
    result (destroyModule module) world = module.hookRefs.map Owned.object := by
  unfold destroyModule
  rw [result_get_bind]
  split
  · rw [result_bind]
    split <;> rfl
  · rfl

theorem dropModule_result (address : Nat) (world : World) :
    ∃ refs : List ObjectRef,
      result (dropOne (.module address)) world = refs.map Owned.object := by
  unfold dropOne
  rw [result_get_bind]
  dsimp only
  rw [result_bind]
  split
  · exact ⟨[], rfl⟩
  · rename_i module _
    rw [result_bind, result_bind, result_pure]
    exact ⟨module.hookRefs, destroyModule_result module _⟩

/-- What a dropped handle makes of a world. The handles that are to be dropped with
it are handed out. -/
structure DropsOne (held : Holdings) (touched : Nat → Nat → Prop) (world : World)
    (outcome : List Owned × World) : Prop where
  drops : Drops touched world outcome.2
  sound : outcome.2.Sound (held.taking (Owned.modules outcome.1))
  allows : ∀ handle ∈ outcome.1, outcome.2.Allows (Touch.modules fun address id =>
    touched address id ∨ world.Doomed outcome.2 address id) handle

theorem DropsOne.of_quiet {after : World} (hworld : world.Sound held)
    (hquiet : world.Quiet after)
    (hgames : ∀ place, world.game? place ≠ none → after.game? place ≠ none)
    (refs : List ObjectRef) :
    DropsOne held touched world (refs.map Owned.object, after) where
  drops := hquiet.drops hworld.objects hgames
  sound := by
    rw [Owned.modules_objects]
    exact hquiet.sound hworld
  allows := allows_objects refs after

theorem dropModule_drops {address : Nat}
    (hworld : world.Sound (held.taking [address]))
    (hwithin : world.Within (Touch.modules touched) address) :
    DropsOne held touched world ((dropOne (.module address)).run world) := by
  have hreaches := dropModule_reaches hworld hwithin
  obtain ⟨refs, hrefs⟩ := dropModule_result address world
  rw [run_eq, hrefs]
  refine ⟨⟨hreaches.changes.mono modules_inl, ?_, hreaches.issues.next, ?_⟩, ?_,
    allows_objects refs _⟩
  · exact fun hgame => (hreaches.games hgame).elim id False.elim
  · intro _ place game script module hgame hnone
    simp only [World.game?, dropModule_objects] at hgame hnone
    rw [hnone] at hgame
    cases hgame
  · rw [Owned.modules_objects]
    exact hreaches.sound

/-- An object that goes and is no game module leaves all game modules there. -/
private theorem game?_destroyed {address : Nat} {body : ObjectBody}
    (hsound : world.objects.Sound)
    (hsome : (world.objects.release address).2 = some body)
    (hbody : ∀ game, body ≠ .game game) (place : Nat)
    (hplace : world.game? place ≠ none) :
    World.game? { world with objects :=
      ((world.objects.release address).1.finish address) } place ≠ none := by
  rw [game?_destroyObject hsound hsome]
  split
  · rename_i haddress
    subst haddress
    obtain ⟨game, hgame⟩ := Option.ne_none_iff_exists'.mp hplace
    rw [game?_eq_some_iff, (hsound.get?_release_of_some hsome).1] at hgame
    exact absurd (Option.some.inj hgame) (hbody game)
  · exact hplace

theorem dropObject_drops (ref : ObjectRef) (hworld : world.Sound held) :
    DropsOne held touched world ((dropOne (.object ref)).run world) := by
  have hfinish := World.finishObject_quiet
    { world with objects := (world.objects.release ref.address).1 } ref.address
  rw [run_eq]
  unfold dropOne
  rw [after_get_bind, result_get_bind]
  dsimp only
  rw [after_bind, after_set, result_bind, after_set]
  cases hreleased : (world.objects.release ref.address).2 with
  | none =>
      refine .of_quiet hworld (world.releaseObject_quiet hreleased) ?_ []
      intro place hplace
      unfold World.game?
      rw [hworld.objects.get?_release_of_none hreleased]
      exact hplace
  | some body =>
      have hquiet := (world.destroyObject_quiet hreleased).trans hfinish
      cases body with
      | thing label =>
          exact .of_quiet hworld hquiet
            (game?_destroyed hworld.objects hreleased (by simp)) []
      | event occasion =>
          exact .of_quiet hworld hquiet
            (game?_destroyed hworld.objects hreleased (by simp)) _
      | game game =>
          obtain ⟨hdrops, hsound, hallows⟩ := destroyGame_drops hworld hreleased
          exact ⟨hdrops, hsound, hallows⟩

/-- What one dropped handle makes of a world, and of the handles that are to be
dropped with it. -/
theorem dropOne_drops {handle : Owned}
    (hworld : world.Sound (held.taking (Owned.modules [handle])))
    (hhandle : world.Allows (Touch.modules touched) handle) :
    DropsOne held touched world ((dropOne handle).run world) := by
  cases handle with
  | object ref => exact dropObject_drops ref hworld
  | module address => exact dropModule_drops hworld hhandle

/-! ### Many handles -/

/-- Handles that may be dropped still may be after a cascade. -/
private theorem allows_after {before after : World} {handle : Owned}
    (hdrops : Drops touched before after)
    (hhandle : before.Allows (Touch.modules touched) handle) :
    after.Allows (Touch.modules fun address id =>
      touched address id ∨ before.Doomed after address id) handle :=
  (hhandle.mono modules_inl).of_changes hdrops.changes

theorem dropSome_drops {handles : List Owned} :
    ∀ {touched : Nat → Nat → Prop} {world : World},
      world.Sound (held.taking (Owned.modules handles)) →
      (∀ handle ∈ handles, world.Allows (Touch.modules touched) handle) →
      DropsOne held touched world ((dropSome handles).run world) := by
  induction handles with
  | nil =>
      intro touched world hworld _
      exact .of_quiet hworld (.refl world) (fun _ hplace => hplace) []
  | cons handle rest ih =>
      intro touched world hworld hhandles
      have hsplit : world.Sound ((held.taking (Owned.modules rest)).taking
          (Owned.modules [handle])) := by
        have happend := Owned.modules_append [handle] rest
        rw [List.singleton_append] at happend
        rw [happend] at hworld
        exact hworld.forget (Nat.le_refl _) fun address => by
          simp only [Holdings.taking, List.append_assoc]
          exact Nat.le_refl _
      obtain ⟨hfirst, hsound, howned⟩ :=
        dropOne_drops hsplit (hhandles handle List.mem_cons_self)
      rw [run_eq] at hfirst hsound howned
      dsimp only at hfirst hsound howned
      have hrest : ∀ other ∈ rest, (after (dropOne handle) world).Allows
          (Touch.modules fun address id => touched address id ∨
            world.Doomed (after (dropOne handle) world) address id) other :=
        fun other hother => allows_after hfirst
          (hhandles other (List.mem_cons_of_mem _ hother))
      have hleft : (after (dropOne handle) world).Sound (held.taking
          (Owned.modules (result (dropOne handle) world ++ rest))) := by
        refine hsound.forget (Nat.le_refl _) fun address => ?_
        simp only [Owned.modules_append, Holdings.taking, List.append_assoc]
        exact Nat.le_refl _
      rw [run_eq]
      unfold dropSome
      rw [after_bind, result_bind]
      split
      · rename_i hempty
        rw [List.isEmpty_iff.mp hempty, List.nil_append] at hleft
        obtain ⟨hlater, hend, hallows⟩ := ih hleft hrest
        rw [run_eq] at hlater hend hallows
        exact ⟨hfirst.trans hleft hlater, hend, fun owned hmem =>
          (hallows owned hmem).mono (hfirst.touches hlater)⟩
      · refine ⟨hfirst, hleft, fun owned hmem => ?_⟩
        rcases List.mem_append.mp hmem with hmem | hmem
        · exact howned owned hmem
        · exact hrest owned hmem

theorem dropUpTo_drops {owners : Nat} :
    ∀ {handles : List Owned} {touched : Nat → Nat → Prop} {world : World},
      world.Sound (held.taking (Owned.modules handles)) →
      (∀ handle ∈ handles, world.Allows (Touch.modules touched) handle) →
      Drops touched world (after (dropUpTo owners handles) world) ∧
        (after (dropUpTo owners handles) world).Sound held := by
  induction owners with
  | zero =>
      intro handles touched world hworld hhandles
      obtain ⟨hdrops, hsound, -⟩ := dropSome_drops hworld hhandles
      exact ⟨hdrops, hsound.forget (Nat.le_refl _) fun address => by
        simp only [Holdings.taking, List.count_append]
        omega⟩
  | succ owners ih =>
      intro handles touched world hworld hhandles
      obtain ⟨hfirst, hsound, hleft⟩ := dropSome_drops hworld hhandles
      rw [run_eq] at hfirst hsound hleft
      dsimp only at hfirst hsound hleft
      unfold dropUpTo
      rw [after_bind]
      split
      · rename_i hnone
        rw [hnone] at hsound
        exact ⟨hfirst, hsound⟩
      · obtain ⟨hlater, hend⟩ := ih hsound hleft
        exact ⟨hfirst.trans hsound hlater, hend⟩

/-- Dropping handles touches the script modules among them and those of the game
modules that go. -/
theorem dropAll_drops {handles : List Owned}
    (hworld : world.Sound (held.taking (Owned.modules handles)))
    (hhandles : ∀ handle ∈ handles, world.Allows (Touch.modules touched) handle) :
    Drops touched world (after (dropAll handles) world) ∧
      (after (dropAll handles) world).Sound held :=
  dropUpTo_drops hworld hhandles

theorem dropAll_reaches {handles : List Owned}
    (hworld : world.Sound (held.taking (Owned.modules handles))) :
    world.Reaches held Touch.ordinary (after (dropAll handles) world) := by
  have hall : ∀ handle ∈ handles,
      world.Allows (Touch.modules fun _ _ => True) handle := by
    intro handle _
    cases handle with
    | object ref => trivial
    | module address => exact fun _ _ => trivial
  obtain ⟨hdrops, hsound⟩ := dropAll_drops hworld hall
  exact ⟨hdrops.changes.mono Touch.ordinary_of_modules,
    fun hgame => .inl (hdrops.games hgame), .of_games hdrops.next hdrops.games, hsound⟩

theorem dropObjects_reaches (refs : List ObjectRef) (hworld : world.Sound held) :
    world.Reaches held Touch.ordinary (after (dropObjects refs) world) := by
  refine dropAll_reaches ?_
  rw [Owned.modules_objects]
  exact hworld

end Act

end ScriptHost
