import ScriptHost.Proofs.Initializing
import ScriptHost.Proofs.Silence
import ScriptHost.Proofs.Tallies
import ScriptHost.Proofs.Voices

/-!
What comes into being since some time, and how it grows: game modules whose handles are all
accounted for, their script modules, and what they have heard. Each operation on a game module
keeps the three in step.
-/

namespace ScriptHost

namespace World

open Delivery

/-- What is known of a world in which game modules have come into being. The handles `lent`
are held by whoever works on them. -/
structure Grows (outset : Outset) (making unheard lent : List Nat) (since : List Delivery)
    (world : World) : Prop where
  tallies : outset.objects.Tallies lent world.objects
  assigned : world.scripts.Assigned outset (outset.Has world)
  voiced : world.Voiced outset making unheard since

variable {outset : Outset} {making unheard lent handed : List Nat}
  {since more : List Delivery} {held : Holdings} {before after world : World}
  {place script : Nat} {game : GameModule} {module : ScriptModule}

/-- Nothing has come yet. -/
theorem Grows.refl (hworld : world.Sound held) (hnumbered : world.scripts.Numbered) :
    world.Grows world.outset [] [] [] [] := by
  have hnone : ∀ {place game}, ¬ world.outset.New world place game := by
    rintro place game ⟨hgame, hget⟩
    rw [World.outset, get?_of_game? hgame] at hget
    cases hget
  exact
    { tallies := .refl hworld.objects
      assigned := .refl hworld.scripts hnumbered fun place script ⟨game, hnew, _⟩ => hnone hnew
      voiced :=
        { recorded := rfl
          addressed := nofun
          voices := fun place =>
            { alternates := trivial
              closed := fun _ => closed_nil
              speaks := fun hnew => (hnone hnew).elim
              idle := fun hnew => (hnone hnew).elim
              began := fun hnew => (hnone hnew).elim
              imports := fun hnew => (hnone hnew).elim
              order := fun hnew => (hnone hnew).elim
              complete := fun hnew => (hnone hnew).elim
              once := fun _ => ⟨Nat.zero_le _, fun game hnew => (hnone hnew).elim⟩ }
          hushed := fun hhushed => hhushed.elim } }

/-- The order of the handles does not matter. -/
theorem Grows.relend (hgrows : world.Grows outset making unheard lent since)
    {same : List Nat} (hsame : ∀ address, same.count address = lent.count address) :
    world.Grows outset making unheard same since :=
  { hgrows with tallies := hgrows.tallies.congr hsame }

/-- A game module lives in an object that may own handles. -/
theorem Grows.lt_next (hgrows : world.Grows outset making unheard lent since)
    (hgame : world.game? place = some game) : place < world.objects.next :=
  Heap.lt_next_of_get? hgrows.tallies.sound (get?_of_game? hgame)

/-- The game modules that were there remain. -/
theorem Grows.old (hgrows : world.Grows outset making unheard lent since)
    (hold : outset.objects.get? place = some (.game game)) : world.game? place = some game :=
  (game?_eq_some_iff _ _ _).mpr (hgrows.tallies.old hold)

/-! ### Operations that make no game modules -/

/-- Game modules are those that were there, where no others have come. -/
theorem game?_of_holds (hholds : before.objects.Holds after.objects handed)
    (place : Nat) : after.game? place = before.game? place := by
  refine Option.ext fun game => ?_
  rw [game?_eq_some_iff, game?_eq_some_iff]
  exact ⟨fun hget => (hholds.fresh hget).resolve_right And.left, fun hget => (hholds.kept hget).1⟩

theorem Keeps.game?_eq (hkeeps : before.Keeps after handed) (place : Nat) :
    after.game? place = before.game? place :=
  game?_of_holds hkeeps.objects place

/-- An operation that leaves game modules and script modules alone. -/
theorem Grows.of_tallies {given : List Nat}
    (hgrows : before.Grows outset making unheard given since) (hbefore : before.scripts.Consistent)
    (htallies : outset.objects.Tallies lent after.objects)
    (hnext : before.objects.next ≤ after.objects.next)
    (hgames : ∀ place, after.game? place = before.game? place)
    (hscripts : after.scripts = before.scripts)
    (hsilent : after.deliveries = before.deliveries) :
    after.Grows outset making unheard lent since where
  tallies := htallies
  assigned := hscripts ▸ hgrows.assigned.congr (Outset.has_congr hgames)
  voiced := hgrows.voiced.silent hbefore hnext (hscripts ▸ .refl) hsilent fun place =>
    (hgrows.voiced.voices place).works (hgames place) fun {_ script module} _ _ _ hmodule =>
      ⟨module, (congrFun (congrArg Scripts.module? hscripts) script).trans hmodule, rfl, rfl,
        rfl⟩

/-- An operation that hands out handles and leaves script modules alone. -/
theorem Grows.keeps (hgrows : before.Grows outset making unheard lent since)
    (hbefore : before.scripts.Consistent) (hkeeps : before.Keeps after handed)
    (hscripts : after.scripts = before.scripts)
    (hsilent : after.deliveries = before.deliveries) :
    after.Grows outset making unheard (handed ++ lent) since :=
  hgrows.of_tallies hbefore (hgrows.tallies.holds hkeeps.objects) hkeeps.objects.next
    hkeeps.game?_eq hscripts hsilent

/-- The script module of a game module is worked on, which is not discarded and comes by no
other hooks. Once the game module is initialized it is only looked at. -/
theorem Grows.works (hgrows : before.Grows outset making unheard lent since)
    (hbefore : before.scripts.Consistent) (hrunning : after.isRunning = true)
    (hkeeps : before.Keeps after handed) (hhas : outset.Has before place script)
    (hmodule : before.module? script = some module)
    (hchanges : Scripts.Changes (Touch.working (Scripts.Alone script module.id))
      before.scripts after.scripts)
    (hsilent : after.deliveries = before.deliveries) {left : ScriptModule}
    (hleft : after.module? script = some left) (hliving : left.state ≠ .discarded)
    (hhooks : ∀ hooks, left.hooks = some hooks → hooks = .game place)
    (hlooked : ∀ {game}, outset.New before place game → game.initialized = true →
      left.hooks = module.hooks ∧ left.state = module.state ∧
        left.compiled = module.compiled) :
    after.Grows outset making unheard (handed ++ lent) since where
  tallies := hgrows.tallies.holds hkeeps.objects
  assigned := (hgrows.assigned.works hbefore hrunning hhas hmodule hchanges
    ⟨left, hleft, hliving, hhooks⟩).congr (Outset.has_congr hkeeps.game?_eq)
  voiced := by
    refine hgrows.voiced.silent hbefore hkeeps.objects.next
      (hchanges.mono fun _ _ => trivial) hsilent fun other => ?_
    refine (hgrows.voiced.voices other).works (hkeeps.game?_eq other) ?_
    intro game own found hnew hinit hscript hfound
    by_cases hsame : own = script
    · subst hsame
      obtain rfl := hgrows.assigned.apart ⟨game, hnew, hscript⟩ hhas
      rw [hmodule] at hfound
      cases hfound
      exact ⟨left, hleft, hlooked hnew hinit⟩
    · have hspared : after.module? own = before.module? own :=
        hchanges.module?_spared fun number hmay => hsame hmay.1
      exact ⟨found, hspared.trans hfound, rfl, rfl, rfl⟩

/-! ### Game modules that change -/

theorem get?_withGame (world : World) (place : Nat) (change : GameModule → GameModule) :
    (world.withGame place change).objects = world.objects.modify place fun
      | .game game => .game (change game)
      | body => body := rfl

/-- A game module that changes in anything but its script module. -/
theorem has_changing (hnew : outset.New before place game) {changed : GameModule}
    (hscript : changed.script = game.script) (hplace : after.game? place = some changed)
    (hothers : ∀ other, other ≠ place → after.game? other = before.game? other)
    (other found : Nat) : outset.Has after other found ↔ outset.Has before other found := by
  by_cases hsame : other = place
  · subst hsame
    constructor
    · rintro ⟨found, ⟨hfound, -⟩, hown⟩
      rw [hplace] at hfound
      cases hfound
      exact ⟨game, hnew, hscript ▸ hown⟩
    · rintro ⟨found, hfound, hown⟩
      cases hnew.unique hfound
      exact ⟨_, ⟨hplace, hnew.2⟩, hscript.trans hown⟩
  · simp only [Outset.Has, Outset.New, hothers other hsame]

/-- A game module that is being initialized changes. The handles that it gives up are lent,
and those that it gets were. -/
theorem Grows.withGame {given : List Nat}
    (hgrows : world.Grows outset making unheard given since)
    (hworld : world.scripts.Consistent) {making' unheard' : List Nat}
    (hnew : outset.New world place game) (change : GameModule → GameModule)
    (hscript : (change game).script = game.script)
    (hgiven : ∀ target, lent.count target + (change game).dependencies.count target =
      given.count target + game.dependencies.count target)
    (hlives : ∀ target ∈ (change game).dependencies,
      ∃ found, world.objects.get? target = some found ∧ ¬ found.IsBare)
    (hmaking : ∀ other, other ≠ place → other ∉ making' → other ∉ making)
    (hunheard : ∀ other, other ≠ place → other ∉ unheard' → other ∉ unheard)
    (hvoice : (world.withGame place change).Voice outset making' unheard' since place) :
    (world.withGame place change).Grows outset making' unheard' lent since := by
  have hget := get?_of_game? hnew.1
  have hgames : ∀ other, other ≠ place →
      (world.withGame place change).game? other = world.game? other := by
    intro other hne
    rw [game?_withGame, if_neg (Ne.symm hne)]
  refine
    { tallies := ?_
      assigned := ?_
      voiced := ?_ }
  · rw [get?_withGame]
    exact hgrows.tallies.modify hget hnew.2 id ⟨_, rfl⟩ hgiven hlives
  · have hplace : (world.withGame place change).game? place = some (change game) := by
      rw [game?_withGame, if_pos rfl, hnew.1]
      rfl
    exact hgrows.assigned.congr (has_changing hnew hscript hplace hgames)
  · have helsewhere : Elsewhere outset world (world.withGame place change) place :=
      ⟨hgames, fun _ _ _ _ => rfl⟩
    exact hgrows.voiced.silent hworld (Nat.le_of_eq (Heap.next_modify _ _ _).symm) .refl rfl
      (helsewhere.silent hgrows.voiced hmaking hunheard hvoice)

/-- What is still needed of a game module that is being initialized when it changes. -/
theorem Grows.edits {given : List Nat}
    (hgrows : world.Grows outset making unheard given since)
    (hworld : world.scripts.Consistent) {making' : List Nat}
    (hnew : outset.New world place game) (change : GameModule → GameModule)
    (hidle : game.initialized = false) (hidle' : (change game).initialized = false)
    (hscript : (change game).script = game.script)
    (hgiven : ∀ target, lent.count target + (change game).dependencies.count target =
      given.count target + game.dependencies.count target)
    (hmaking : ∀ other, other ∉ making' → other ∉ making)
    (hplace : place ∉ making' →
      (change game).script = none ∧ (change game).dependencies = [])
    (htargets : ∀ target ∈ (change game).dependencies, target ∈ game.dependencies ∨
      (∃ found, world.game? target = some found) ∧
        (outset.objects.get? target ≠ none ∨ Began since target)) :
    (world.withGame place change).Grows outset making' unheard lent since := by
  have hafter : (world.withGame place change).game? place = some (change game) := by
    rw [game?_withGame, if_pos rfl, hnew.1]
    rfl
  refine hgrows.withGame hworld hnew change hscript hgiven ?_
    (fun other _ => hmaking other) (fun other _ => id) ?_
  · intro target htarget
    rcases htargets target htarget with hold | ⟨⟨found, hfound⟩, -⟩
    · exact hgrows.tallies.alive (get?_of_game? hnew.1) hnew.2 hold
    · exact ⟨.game found, get?_of_game? hfound, id⟩
  · exact (hgrows.voiced.voices place).edits hnew hidle hafter hidle' hplace
      (fun hplace => (hgrows.voiced.voices place).began hnew hplace) fun target htarget =>
        (htargets target htarget).elim ((hgrows.voiced.voices place).imports hnew target) (·.2)

/-- What a game module has after its script module has been made. -/
theorem has_giving (hnew : outset.New before place game) (hnone : game.script = none)
    {changed : GameModule} (hgiven : changed.script = some script)
    (hplace : after.game? place = some changed)
    (hothers : ∀ other, other ≠ place → after.game? other = before.game? other)
    (other found : Nat) : outset.Has after other found ↔
      outset.Has before other found ∨ other = place ∧ found = script := by
  by_cases hsame : other = place
  · subst hsame
    constructor
    · rintro ⟨found, ⟨hfound, -⟩, hscript⟩
      rw [hplace] at hfound
      cases hfound
      rw [hgiven] at hscript
      exact .inr ⟨rfl, (Option.some.inj hscript).symm⟩
    · rintro (⟨earlier, hearlier, hscript⟩ | ⟨-, rfl⟩)
      · rw [hnew.unique hearlier, hnone] at hscript
        cases hscript
      · exact ⟨_, ⟨hplace, hnew.2⟩, hgiven⟩
  · simp [Outset.Has, Outset.New, hothers other hsame, hsame]

/-- A module gets the next number if no other one has it. -/
theorem after_createModule (hfree : world.executor.registry.get? world.executor.nextId = none)
    (name source : String) : Act.after (Act.createModule name source) world =
      world.made (world.executor.nextId + 1) (.create world.executor.nextId name source) := by
  have hfree' : (world.withExecutor fun executor =>
      { executor with nextId := world.executor.nextId + 1 }).executor.registry.get?
        world.executor.nextId = none := hfree
  exact Act.createModuleWithId_of_free name source hfree'

/-- The world in which a game module has got a new script module with some access. -/
def giving (world : World) (place : Nat) (name source : String) (access : AccessMask) : World :=
  ((Act.after (Act.createModule name source) world).withModule world.modules.next
    fun module => { module with access := access }).withGame place
      fun game => { game with script := some world.modules.next }

/-- Nobody is registered under a number that the counter has not passed. -/
theorem free_of_counted (hcounted : world.scripts.Counted) :
    world.executor.registry.get? world.executor.nextId = none := by
  rw [Option.eq_none_iff_forall_ne_some]
  intro other hother
  exact Nat.lt_irrefl _ (hcounted _ _ hother)

theorem giving_of_free (hfree : world.executor.registry.get? world.executor.nextId = none)
    (place : Nat) (name source : String) (access : AccessMask) :
    world.giving place name source access =
      ((world.made (world.executor.nextId + 1)
        (.create world.executor.nextId name source)).withModule world.modules.next
          fun module => { module with access := access }).withGame place
            fun game => { game with script := some world.modules.next } := by
  rw [giving, after_createModule hfree]

theorem game?_giving (hfree : world.executor.registry.get? world.executor.nextId = none)
    (place : Nat) (name source : String) (access : AccessMask) (other : Nat) :
    (world.giving place name source access).game? other =
      if place = other then (world.game? other).map
        fun game => { game with script := some world.modules.next }
      else world.game? other := by
  rw [giving_of_free hfree, game?_withGame]
  rfl

/-- A script module is made for a game module that is being initialized. -/
theorem Grows.gives (hgrows : world.Grows outset making unheard lent since)
    (hworld : world.Sound held) (hrunning : world.isRunning = true)
    (hnew : outset.New world place game) (hidle : game.initialized = false)
    (hnone : game.script = none) (hmaking : place ∈ making) (name source : String)
    (access : AccessMask) :
    (world.giving place name source access).Grows outset making unheard lent since := by
  have hfree := free_of_counted hgrows.assigned.numbered.registered
  have hgiving := giving_of_free hfree place name source access
  have hunheld : ∀ {other : Nat} {found : GameModule}, world.game? other = some found →
      found.script ≠ some world.modules.next := (hworld.next_unheld hrunning).2.2
  have hobjects : (world.giving place name source access).objects =
      world.objects.modify place fun
        | .game game => .game { game with script := some world.modules.next }
        | body => body := by
    rw [hgiving]
    rfl
  have hgames := game?_giving hfree place name source access
  have hplace : (world.giving place name source access).game? place =
      some { game with script := some world.modules.next } := by
    rw [hgames, if_pos rfl, hnew.1]
    rfl
  have hothers : ∀ other, other ≠ place →
      (world.giving place name source access).game? other = world.game? other := by
    intro other hne
    rw [hgames, if_neg (Ne.symm hne)]
  have hmade : (world.made (world.executor.nextId + 1)
      (.create world.executor.nextId name source)).scripts =
        world.scripts.create (world.scripts.counter + 1)
          (.create world.scripts.counter name source) :=
    scripts_made hworld.modules _ _
  -- the script module is made and gets its access
  let made := ScriptModule.create world.scripts.counter name source
  let created := world.scripts.create (world.scripts.counter + 1) made
  have hscripts : (world.giving place name source access).scripts =
      created.put world.scripts.next (some { made with access := access }) := by
    rw [hgiving]
    refine (scripts_withModule _ _ _).trans ?_
    rw [hmade, module?_made hworld.modules, if_pos rfl]
    rfl
  have hreaches := Act.createModule_reaches hworld hrunning name source
  rw [after_createModule hfree] at hreaches
  have hcreated : created.Consistent := by
    have hconsistent := hreaches.sound.scripts
    rwa [hmade] at hconsistent
  have hthere : created.module? world.scripts.next = some made :=
    Scripts.module?_put_self _ _ _
  have hedited : made.Edit { made with access := access } :=
    ScriptModule.edit_of_eq rfl rfl rfl rfl rfl rfl rfl rfl rfl
  refine
    { tallies := ?_
      assigned := ?_
      voiced := ?_ }
  · rw [hobjects]
    exact hgrows.tallies.modify (get?_of_game? hnew.1) hnew.2 id ⟨_, rfl⟩ (fun _ => rfl)
      fun target htarget => hgrows.tallies.alive (get?_of_game? hnew.1) hnew.2 htarget
  · have hassigned : created.Assigned outset
        (outset.Has (world.giving place name source access)) :=
      hgrows.assigned.creates hworld.scripts hrunning
        (fun other ⟨found, hfound, hscript⟩ => hunheld hfound.1 hscript) name source
        (fun script ⟨found, hfound, hscript⟩ => by
          rw [hnew.unique hfound, hnone] at hscript
          cases hscript)
        (has_giving hnew hnone rfl hplace hothers)
    rw [hscripts]
    refine hassigned.works hcreated hrunning ⟨_, ⟨hplace, hnew.2⟩, rfl⟩ hthere
      (.single (.edit _ hthere ⟨rfl, rfl⟩ hedited (.inl rfl)))
      ⟨_, Scripts.module?_put_self _ _ _, ?_, fun hooks hhooks => ?_⟩
    · simp [made, ScriptModule.create]
    · cases hhooks
  · have helsewhere : Elsewhere outset world (world.giving place name source access) place := by
      refine ⟨hothers, fun other script hne ⟨found, hfound, hscript⟩ => ?_⟩
      refine (congrFun (congrArg Scripts.module? hscripts) script).trans ?_
      have hnext : world.scripts.next ≠ script := by
        rintro rfl
        exact hunheld hfound.1 hscript
      rw [Scripts.module?_put_other _ _ hnext]
      exact Scripts.module?_put_other _ _ hnext
    have hchanges : Scripts.Changes Touch.anything world.scripts
        (world.giving place name source access).scripts := by
      rw [hscripts]
      have hmaking' : Scripts.Changes Touch.anything world.scripts (world.made
          (world.executor.nextId + 1) (.create world.executor.nextId name source)).scripts :=
        hreaches.changes.mono fun _ _ => trivial
      rw [hmade] at hmaking'
      exact hmaking'.tail (.edit _ hthere trivial hedited (.inl rfl))
    refine hgrows.voiced.silent hworld.scripts ?_ hchanges (by rw [hgiving]; rfl)
      (helsewhere.silent hgrows.voiced (fun _ _ => id) (fun _ _ => id)
        ((hgrows.voiced.voices place).edits hnew hidle hplace hidle
          (fun hout => absurd hmaking hout)
          (fun hout => (hgrows.voiced.voices place).began hnew hout)
          fun target htarget => (hgrows.voiced.voices place).imports hnew target htarget))
    rw [hobjects]
    exact Nat.le_of_eq (Heap.next_modify _ _ _).symm

/-! ### Game modules that come into being -/

/-- A game module is made, whose handle is that of whoever has made it. -/
theorem Grows.admits (hgrows : before.Grows outset making unheard lent since)
    (hbefore : before.scripts.Consistent) (hissued : lent.count before.objects.next = 0)
    (hobjects : after.objects = (before.objects.alloc (.game game)).2)
    (hscripts : after.scripts = before.scripts) (hsilent : after.deliveries = before.deliveries)
    (hidle : game.initialized = false) (hnone : game.script = none)
    (hbare : game.dependencies = []) :
    after.Grows outset making (before.objects.next :: unheard) (before.objects.next :: lent)
      since := by
  have hgames : ∀ other, after.game? other =
      if before.objects.next = other then some game else before.game? other := by
    intro other
    have hsame : after.game? other = (before.withNewGame game).game? other := by
      unfold World.game?
      rw [hobjects]
      rfl
    rw [hsame, game?_withNewGame]
  have hothers : ∀ other, other ≠ before.objects.next →
      after.game? other = before.game? other := by
    intro other hne
    rw [hgames, if_neg (Ne.symm hne)]
  have hnew : outset.New after before.objects.next game := by
    refine ⟨by rw [hgames, if_pos rfl], ?_⟩
    exact hgrows.tallies.first.get?_next hgrows.tallies.next
  have hnext : before.objects.next ≤ after.objects.next := by
    rw [hobjects]
    exact Nat.le_succ _
  refine
    { tallies := hobjects ▸ hgrows.tallies.alloc hissued rfl hbare
      assigned := ?_
      voiced := ?_ }
  · rw [hscripts]
    refine hgrows.assigned.congr fun other script => ?_
    by_cases hsame : other = before.objects.next
    · subst hsame
      constructor
      · rintro ⟨found, hfound, hscript⟩
        rw [hnew.unique hfound, hnone] at hscript
        cases hscript
      · rintro ⟨found, hfound, -⟩
        exact absurd (hgrows.lt_next hfound.1) (Nat.lt_irrefl _)
    · simp only [Outset.Has, Outset.New, hothers other hsame]
  · have helsewhere : Elsewhere outset before after before.objects.next :=
      ⟨hothers, fun _ script _ _ => congrFun (congrArg Scripts.module? hscripts) script⟩
    refine hgrows.voiced.silent hbefore hnext (hscripts ▸ .refl) hsilent
      (helsewhere.silent hgrows.voiced (fun _ _ => id) (fun other _ hout hmem =>
        hout (List.mem_cons_of_mem _ hmem)) (.made hnew ?_ hidle hnone hbare))
    exact heard_eq_nil fun delivery hmem hgame => absurd
      (hgame ▸ (hgrows.voiced.addressed delivery hmem).2.1) (Nat.lt_irrefl _)

/-! ### Game modules that are initialized -/

/-- The compiled script of a built script module that has come since can be used. -/
theorem Grows.usable? (hgrows : world.Grows outset making unheard lent since)
    (hworld : world.scripts.Consistent) (hrunning : world.isRunning = true)
    (hfirst : outset.scripts.next ≤ script) (hmodule : world.module? script = some module)
    (hbuilt : module.state = .built) {compiled : Compiled}
    (hcompiled : module.compiled = some compiled) :
    world.usable? script = some compiled ∧
      world.executor.isCompiled module.internalName = true := by
  have hentered := hgrows.assigned.entered hrunning hfirst hmodule hcompiled
  have hown := (hworld.wellFormed hmodule).own compiled hcompiled
  have hlive : world.executor.isCompiled module.internalName = true := by
    rw [← hown]
    exact (Table.has_eq_true_iff _ _).mpr ⟨compiled, hentered⟩
  refine ⟨?_, hlive⟩
  simp [World.usable?, hmodule, hbuilt, hrunning, hlive, hcompiled]

/-- The world in which a game module is initialized and gets the init event. -/
def beginning (world : World) (place script : Nat) : World :=
  (world.withGame place fun game => { game with initialized := true }).noting place script .init

/-- A game module whose script module is built is initialized and hears the init event. -/
theorem Grows.initializes (hgrows : world.Grows outset making unheard lent since)
    (hworld : world.scripts.Consistent) (hrunning : world.isRunning = true)
    {making' unheard' : List Nat} (hnew : outset.New world place game)
    (hidle : game.initialized = false) (hscript : game.script = some script)
    (hmodule : world.module? script = some module) (hbuilt : module.state = .built)
    (hhooks : module.hooks = some (.game place))
    (hcomplete : game.dependencies.length = game.description.imports.length)
    (hanew : ∀ delivery ∈ since, delivery.game = place → delivery.script ≠ script)
    (hmaking : ∀ other, other ≠ place → other ∉ making' → other ∉ making)
    (hunheard : ∀ other, other ≠ place → other ∉ unheard' → other ∉ unheard) :
    ∃ delivery, delivery.game = place ∧ delivery.event = .init ∧
      (world.beginning place script).Grows outset making' unheard' lent (delivery :: since) := by
  obtain ⟨compiled, hcompiled⟩ := (hworld.wellFormed hmodule).exists_compiled hbuilt
  have hfirst := (hgrows.assigned.owned ⟨game, hnew, hscript⟩).1
  have husable := (hgrows.usable? hworld hrunning hfirst hmodule hbuilt hcompiled).1
  have hobjects : (world.beginning place script).objects = world.objects.modify place fun
      | .game game => .game { game with initialized := true }
      | body => body := rfl
  have hgames : ∀ other, (world.beginning place script).game? other =
      if place = other then (world.game? other).map fun game => { game with initialized := true }
      else world.game? other := fun other => game?_withGame _ _ _ _
  have hplace : (world.beginning place script).game? place =
      some { game with initialized := true } := by
    rw [hgames, if_pos rfl, hnew.1]
    rfl
  have hothers : ∀ other, other ≠ place →
      (world.beginning place script).game? other = world.game? other := by
    intro other hne
    rw [hgames, if_neg (Ne.symm hne)]
  have hrecorded : (world.beginning place script).deliveries =
      [⟨place, script, .init, some compiled⟩] ++ world.deliveries := by
    rw [← husable]
    rfl
  have hnext : (world.beginning place script).objects.next = world.objects.next :=
    Heap.next_modify _ _ _
  have hscripts : (world.beginning place script).scripts = world.scripts := rfl
  refine ⟨⟨place, script, .init, some compiled⟩, rfl, rfl, ?_⟩
  refine
    { tallies := ?_
      assigned := ?_
      voiced := ?_ }
  · rw [hobjects]
    exact hgrows.tallies.modify (get?_of_game? hnew.1) hnew.2 id ⟨_, rfl⟩ (fun _ => rfl)
      fun target htarget => hgrows.tallies.alive (get?_of_game? hnew.1) hnew.2 htarget
  · rw [hscripts]
    exact hgrows.assigned.congr (has_changing hnew
      (rfl : ({ game with initialized := true } : GameModule).script = game.script) hplace
      hothers)
  · have helsewhere : Elsewhere outset world (world.beginning place script) place :=
      ⟨hothers, fun _ _ _ _ => rfl⟩
    refine hgrows.voiced.advance hworld (Nat.le_of_eq hnext.symm) (hscripts ▸ .refl)
      hrecorded ?_ (helsewhere.voices hgrows.voiced hmaking hunheard (by simp) ?_)
    · simp only [List.mem_singleton]
      rintro _ rfl
      refine ⟨hnew.2, ?_, module, hmodule, by simp [hbuilt, BuildState.isTerminal]⟩
      exact Nat.lt_of_lt_of_eq (hgrows.lt_next hnew.1) hnext.symm
    · refine (hgrows.voiced.voices place).initializes hnew hidle hplace rfl rfl hcomplete
        hscript hmodule hhooks hbuilt hcompiled rfl rfl rfl rfl fun last hlast => ?_
      obtain ⟨hmem, hgame⟩ := mem_heard.mp (List.mem_of_mem_head? hlast)
      exact hanew last hmem hgame

end World

end ScriptHost
