import ScriptHost.Proofs.Consistency
import ScriptHost.Proofs.Heap
import ScriptHost.Proofs.Runs

/-!
Sound worlds, and what operations make of them. A world is sound if its heaps are,
if its script modules are consistent, and if the executor has at least as many
holders as there are things that hold it. An operation reaches another sound
world by a run of transitions of the script modules.
-/

namespace ScriptHost

/-- What the preparation of sources takes from an executor. -/
def Executor.rules (executor : Executor) : SourceSearch × Table String AccessMask :=
  (executor.search, executor.restricted)

/-- What holds a part of a world from outside: how often the executor is held, and
the script modules that handles are held of, each as often as handles of it are. -/
structure Holdings where
  executor : Nat
  modules : List Nat

namespace Holdings

/-- The holdings with a further hold on the executor. -/
def holding (held : Holdings) : Holdings :=
  { held with executor := held.executor + 1 }

/-- The holdings with further handles of script modules. -/
def taking (held : Holdings) (addresses : List Nat) : Holdings :=
  { held with modules := addresses ++ held.modules }

end Holdings

namespace World

/-- The number of holders that the loader of a world stands for. -/
def loaderHold (world : World) : Nat :=
  if world.loader.isSome then 1 else 0

/-- The registry holds the script module at an address under the numbers `ids`, and
the game modules at `games` hold it as their own. -/
structure Owners (world : World) (address : Nat) (ids games : List Nat) :
    Prop where
  numbers : ids.Nodup
  registered : ∀ id ∈ ids, world.executor.registry.get? id = some address
  places : games.Nodup
  scripts : ∀ other ∈ games, ∃ game, world.game? other = some game ∧
    game.script = some address

/-- Whether some script module has a compiled script. -/
def Owns (world : World) (compiled : Compiled) : Prop :=
  ∃ address module, world.module? address = some module ∧
    module.compiled = some compiled

/-- A script module of which there are handles lives, and none of them is missing. -/
def Counts (world : World) (address handles : Nat) : Prop :=
  0 < handles → (∃ module, world.module? address = some module) ∧
    handles ≤ world.modules.strongCount address

theorem Counts.mono {world : World} {address handles fewer : Nat}
    (hcounts : world.Counts address handles) (hfewer : fewer ≤ handles) :
    world.Counts address fewer := by
  intro hpos
  obtain ⟨hlives, hcount⟩ := hcounts (Nat.lt_of_lt_of_le hpos hfewer)
  exact ⟨hlives, Nat.le_trans hfewer hcount⟩

/-- A sound world, in which the holders of the executor and the handles of script
modules include those that are `held` from outside. -/
structure Sound (held : Holdings) (world : World) : Prop where
  objects : world.objects.Sound
  modules : world.modules.Sound
  scripts : world.scripts.Consistent
  holders : ∀ games : List Nat, games.Nodup →
    (∀ address ∈ games, (world.game? address).isSome = true) →
      held.executor + world.loaderHold + games.length ≤ world.holders
  handles : world.isRunning = true → ∀ {address ids games},
    world.Owners address ids games → world.Counts address
      (ids.length + games.length + held.modules.count address)

theorem isRunning_iff (world : World) :
    world.isRunning = true ↔ 0 < world.holders := by
  simp [isRunning]

/-- Whoever holds the executor keeps it there. -/
theorem Sound.running_of_held {world : World} {held : Holdings}
    (hworld : world.Sound held) (hheld : 0 < held.executor) :
    world.isRunning = true := by
  rw [isRunning_iff]
  have hholders := hworld.holders [] List.nodup_nil (by simp)
  omega

theorem Sound.running_of_loader {world : World} {held : Holdings}
    (hworld : world.Sound held) {loader : Loader}
    (hloader : world.loader = some loader) : world.isRunning = true := by
  rw [isRunning_iff]
  have hholders := hworld.holders [] List.nodup_nil (by simp)
  simp only [loaderHold, hloader, Option.isSome_some, if_true] at hholders
  omega

theorem Sound.running_of_game {world : World} {held : Holdings}
    (hworld : world.Sound held) {address : Nat} {game : GameModule}
    (hgame : world.game? address = some game) : world.isRunning = true := by
  rw [isRunning_iff]
  have hholders := hworld.holders [address] (by simp)
    (by simp [hgame])
  simp only [List.length_singleton] at hholders
  omega

/-- Some of what is held may be forgotten. -/
theorem Sound.forget {world : World} {held fewer : Holdings}
    (hworld : world.Sound held) (hexecutor : fewer.executor ≤ held.executor)
    (hmodules : ∀ address,
      fewer.modules.count address ≤ held.modules.count address) :
    world.Sound fewer where
  objects := hworld.objects
  modules := hworld.modules
  scripts := hworld.scripts
  holders := by
    intro games hnodup hgames
    have hholders := hworld.holders games hnodup hgames
    omega
  handles := by
    intro hrunning address ids games howners
    have hle := hmodules address
    exact (hworld.handles hrunning howners).mono (by omega)

/-- The script module of a living game module lives. -/
theorem Sound.script_lives {world : World} {held : Holdings}
    (hworld : world.Sound held) {address script : Nat} {game : GameModule}
    (hgame : world.game? address = some game) (hscript : game.script = some script) :
    ∃ module, world.module? script = some module := by
  have howners : world.Owners script [] [address] :=
    ⟨List.nodup_nil, by simp, by simp, by simpa using ⟨game, hgame, hscript⟩⟩
  have hcounts := hworld.handles (hworld.running_of_game hgame) howners
  exact (hcounts (by simp only [List.length_singleton]; omega)).1

/-- Whoever owns a script module afterwards did so before, if nothing was
registered and no game module has come by a script module. -/
theorem Owners.earlier {before after : World} {address : Nat} {ids games : List Nat}
    (howners : after.Owners address ids games)
    (hregistry : ∀ id, after.executor.registry.get? id = some address →
      before.executor.registry.get? id = some address)
    (hgames : ∀ {other game}, after.game? other = some game →
      game.script = some address →
        ∃ earlier, before.game? other = some earlier ∧
          earlier.script = some address) :
    before.Owners address ids games where
  numbers := howners.numbers
  registered := fun id hid => hregistry id (howners.registered id hid)
  places := howners.places
  scripts := by
    intro other hother
    obtain ⟨game, hgame, hscript⟩ := howners.scripts other hother
    exact hgames hgame hscript

/-- A change of the world that leaves all script modules alone, makes no game
module and writes no files. -/
structure Quiet (before after : World) : Prop where
  scripts : after.scripts = before.scripts
  files : after.files = before.files
  rules : after.executor.rules = before.executor.rules
  holders : after.holders = before.holders
  loader : after.loader.isSome = before.loader.isSome
  modules : after.modules = before.modules
  next : before.objects.next ≤ after.objects.next
  objects : before.objects.Sound → after.objects.Sound
  games : before.objects.Sound → ∀ {address game},
    after.game? address = some game → before.game? address = some game

theorem Quiet.refl (world : World) : world.Quiet world :=
  ⟨rfl, rfl, rfl, rfl, rfl, rfl, Nat.le_refl _, id, fun _ _ _ => id⟩

theorem Quiet.trans {first second third : World} (hfirst : first.Quiet second)
    (hsecond : second.Quiet third) : first.Quiet third where
  scripts := hsecond.scripts.trans hfirst.scripts
  files := hsecond.files.trans hfirst.files
  rules := hsecond.rules.trans hfirst.rules
  holders := hsecond.holders.trans hfirst.holders
  loader := hsecond.loader.trans hfirst.loader
  modules := hsecond.modules.trans hfirst.modules
  next := Nat.le_trans hfirst.next hsecond.next
  objects := fun hsound => hsecond.objects (hfirst.objects hsound)
  games := fun hsound _ _ hgame =>
    hfirst.games hsound (hsecond.games (hfirst.objects hsound) hgame)

theorem Quiet.isRunning {before after : World} (hquiet : before.Quiet after) :
    after.isRunning = before.isRunning :=
  congrArg Scripts.running hquiet.scripts

theorem Quiet.module? {before after : World} (hquiet : before.Quiet after)
    (address : Nat) : after.module? address = before.module? address :=
  congrFun (congrArg Scripts.module? hquiet.scripts) address

theorem Quiet.sound {before after : World} (hquiet : before.Quiet after)
    {held : Holdings} (hbefore : before.Sound held) : after.Sound held where
  objects := hquiet.objects hbefore.objects
  modules := hquiet.modules ▸ hbefore.modules
  scripts := hquiet.scripts ▸ hbefore.scripts
  holders := by
    intro games hnodup hgames
    have hsame : after.loaderHold = before.loaderHold := by
      simp [loaderHold, hquiet.loader]
    rw [hquiet.holders, hsame]
    apply hbefore.holders games hnodup
    intro address haddress
    obtain ⟨game, hgame⟩ := Option.isSome_iff_exists.mp (hgames address haddress)
    rw [hquiet.games hbefore.objects hgame]
    rfl
  handles := by
    intro hrunning address ids games howners
    have hregistry : after.executor.registry = before.executor.registry :=
      congrArg Scripts.registry hquiet.scripts
    have hearlier := howners.earlier (fun _ hid => hregistry ▸ hid)
      fun hgame hscript => ⟨_, hquiet.games hbefore.objects hgame, hscript⟩
    have hcounts := hbefore.handles (hquiet.isRunning ▸ hrunning) hearlier
    simpa only [Counts, World.module?, hquiet.modules] using hcounts

/-- The addresses of objects are used once: a game module lives where one has lived
before, or at an address that has not been given yet. -/
structure Issues (before after : World) : Prop where
  next : before.objects.next ≤ after.objects.next
  born : ∀ {address game}, after.game? address = some game →
    (∃ earlier, before.game? address = some earlier) ∨ before.objects.next ≤ address

theorem Issues.refl (world : World) : world.Issues world :=
  ⟨Nat.le_refl _, fun {_ game} hgame => .inl ⟨game, hgame⟩⟩

theorem Issues.trans {first second third : World} (hfirst : first.Issues second)
    (hsecond : second.Issues third) : first.Issues third where
  next := Nat.le_trans hfirst.next hsecond.next
  born := fun hgame => by
    rcases hsecond.born hgame with ⟨earlier, hearlier⟩ | hnew
    · exact hfirst.born hearlier
    · exact .inr (Nat.le_trans hfirst.next hnew)

/-- No game module comes to live. -/
theorem Issues.of_games {before after : World}
    (hnext : before.objects.next ≤ after.objects.next)
    (hgames : ∀ {address game}, after.game? address = some game →
      before.game? address = some game) : before.Issues after :=
  ⟨hnext, fun {_ game} hgame => .inl ⟨game, hgames hgame⟩⟩

/-- What an operation makes of a world: a sound one, by transitions that touch
only what they may. -/
structure Reaches (held : Holdings) (may : Touch → Prop) (before after : World) :
    Prop where
  changes : Scripts.Changes may before.scripts after.scripts
  games : ∀ {address game}, after.game? address = some game →
    before.game? address = some game ∨ may (.game address)
  issues : before.Issues after
  sound : after.Sound held

theorem Reaches.refl {held : Holdings} {may : Touch → Prop} {world : World}
    (hworld : world.Sound held) : world.Reaches held may world :=
  ⟨.refl, .inl, .refl world, hworld⟩

theorem Reaches.trans {held held' : Holdings} {may : Touch → Prop}
    {first second third : World} (hfirst : first.Reaches held may second)
    (hsecond : second.Reaches held' may third) :
    first.Reaches held' may third where
  changes := hfirst.changes.trans hsecond.changes
  games := fun hgame => (hsecond.games hgame).elim hfirst.games .inr
  issues := hfirst.issues.trans hsecond.issues
  sound := hsecond.sound

theorem Reaches.mono {held : Holdings} {may might : Touch → Prop}
    {before after : World} (hreaches : before.Reaches held may after)
    (hmono : ∀ touch, may touch → might touch) :
    before.Reaches held might after where
  changes := Scripts.Changes.mono hmono hreaches.changes
  games := fun hgame => (hreaches.games hgame).imp_right (hmono _)
  issues := hreaches.issues
  sound := hreaches.sound

theorem Quiet.reaches {before after : World} (hquiet : before.Quiet after)
    {held : Holdings} (hbefore : before.Sound held) {may : Touch → Prop} :
    before.Reaches held may after where
  changes := .of_eq hquiet.scripts
  games := fun hgame => .inl (hquiet.games hbefore.objects hgame)
  issues := .of_games hquiet.next (hquiet.games hbefore.objects)
  sound := hquiet.sound hbefore

/-- A run of transitions that touches neither game modules nor holders, and after
which no handles of script modules are missing. -/
theorem Sound.reaches_of_counts {before after : World} {held left : Holdings}
    {may : Touch → Prop} (hbefore : before.Sound held)
    (hchanges : Scripts.Changes may before.scripts after.scripts)
    (hobjects : after.objects = before.objects)
    (hmodules : after.modules.Sound)
    (hnext : after.modules.next = before.modules.next)
    (hexecutor : left.executor ≤ held.executor)
    (hcounts : ∀ address handles,
      before.Counts address (handles + held.modules.count address) →
        after.Counts address (handles + left.modules.count address))
    (hholders : after.holders = before.holders)
    (hloader : after.loader = before.loader) :
    before.Reaches left may after where
  changes := hchanges
  games := by
    intro address game hgame
    refine .inl ?_
    simpa only [game?, hobjects] using hgame
  issues := .of_games (hobjects ▸ Nat.le_refl _) fun hgame => by
    simpa only [game?, hobjects] using hgame
  sound :=
    { objects := hobjects ▸ hbefore.objects
      modules := hmodules
      scripts := hchanges.consistent hbefore.scripts
      holders := by
        intro games hnodup hgames
        have hcount := hbefore.holders games hnodup fun address haddress => by
          have hgame := hgames address haddress
          simpa only [game?, hobjects] using hgame
        simp only [loaderHold, hloader, hholders] at hcount ⊢
        omega
      handles := by
        intro hrunning address ids games howners
        have hregistry : ∀ id, after.executor.registry.get? id = some address →
            before.executor.registry.get? id = some address := by
          intro id hid
          rcases hchanges.registry hid with hold | hnew
          · exact hold
          · have hlt := (hchanges.consistent hbefore.scripts).registeredBelow hid
            simp only [World.scripts, hnext] at hlt hnew
            omega
        have hearlier := howners.earlier hregistry fun {other game} hgame hscript =>
          ⟨game, by simpa only [game?, hobjects] using hgame, hscript⟩
        have hstill : before.isRunning = true := by
          simpa only [isRunning, hholders] using hrunning
        exact hcounts _ _ (hbefore.handles hstill hearlier) }

/-- A run of transitions that touches neither game modules nor holders nor the
handles of script modules. -/
theorem Sound.reaches {before after : World} {held : Holdings} {may : Touch → Prop}
    (hbefore : before.Sound held)
    (hchanges : Scripts.Changes may before.scripts after.scripts)
    (hobjects : after.objects = before.objects)
    (hmodules : after.modules.Sound)
    (hnext : after.modules.next = before.modules.next)
    (hcounts : ∀ address, (before.module? address).isSome = true →
      (after.module? address).isSome = true ∧
        after.modules.strongCount address = before.modules.strongCount address)
    (hholders : after.holders = before.holders)
    (hloader : after.loader = before.loader) :
    before.Reaches held may after := by
  refine hbefore.reaches_of_counts hchanges hobjects hmodules hnext (Nat.le_refl _) ?_
    hholders hloader
  intro address handles hbeforeCounts hpos
  obtain ⟨⟨module, hmodule⟩, hcount⟩ := hbeforeCounts hpos
  obtain ⟨hlives, hsame⟩ := hcounts address (by rw [hmodule]; rfl)
  exact ⟨Option.isSome_iff_exists.mp hlives, hsame ▸ hcount⟩

/-! ### Changes of objects and reports -/

theorem game?_eq_some_iff (world : World) (address : Nat) (game : GameModule) :
    world.game? address = some game ↔
      world.objects.get? address = some (.game game) := by
  unfold game?
  constructor
  · intro hgame
    split at hgame
    · rename_i found hfound
      cases hgame
      exact hfound
    · cases hgame
  · intro hobject
    rw [hobject]

/-- A world that differs in its objects and its host alone. -/
theorem Quiet.of_objects {before : World} (host : Host) (objects : Heap ObjectBody)
    (hnext : before.objects.next ≤ objects.next)
    (hsound : before.objects.Sound → objects.Sound)
    (hgames : before.objects.Sound → ∀ {address game},
      objects.get? address = some (.game game) →
        before.objects.get? address = some (.game game)) :
    before.Quiet { before with host := host, objects := objects } where
  scripts := rfl
  files := rfl
  rules := rfl
  holders := rfl
  loader := rfl
  modules := rfl
  next := hnext
  objects := hsound
  games := by
    intro hbefore address game hgame
    rw [game?_eq_some_iff] at hgame ⊢
    exact hgames hbefore hgame

theorem Quiet.of_host {before : World} (host : Host) :
    before.Quiet { before with host := host } :=
  .of_objects host before.objects (Nat.le_refl _) id (fun _ _ _ => id)

theorem warn_quiet (world : World) (message : String) :
    world.Quiet (world.warn message) :=
  .of_host _

theorem error_quiet (world : World) (message : String) :
    world.Quiet (world.error message) :=
  .of_host _

theorem noting_quiet (world : World) (game script : Nat) (event : EventType) :
    world.Quiet (world.noting game script event) :=
  ⟨rfl, rfl, rfl, rfl, rfl, rfl, Nat.le_refl _, id, fun _ _ _ => id⟩

private theorem next_retainAll {α : Type} (refs : List ObjectRef) :
    ∀ heap : Heap α, (retainAll heap refs).next = heap.next := by
  induction refs with
  | nil => exact fun _ => rfl
  | cons ref refs ih => exact fun heap => (ih _).trans (heap.next_retain ref.address)

private theorem retainAll_sound {α : Type} (refs : List ObjectRef) :
    ∀ {heap : Heap α}, heap.Sound → (retainAll heap refs).Sound ∧
      ∀ address, (retainAll heap refs).get? address = heap.get? address := by
  induction refs with
  | nil => exact fun hheap => ⟨hheap, fun _ => rfl⟩
  | cons ref refs ih =>
      intro heap hheap
      obtain ⟨hsound, hget⟩ := ih (hheap.retain ref.address)
      refine ⟨hsound, fun address => ?_⟩
      rw [← hheap.get?_retain ref.address address]
      exact hget address

theorem quiet_of_retainAll {before : World} (refs : List ObjectRef) :
    before.Quiet { before with objects := retainAll before.objects refs } :=
  .of_objects before.host _ (Nat.le_of_eq (next_retainAll refs _).symm)
    (fun hbefore => (retainAll_sound refs hbefore).1) (fun hbefore {address game} hgame => by
      rw [(retainAll_sound refs hbefore).2] at hgame
      exact hgame)

theorem retain_quiet (world : World) (refs : List ObjectRef) :
    world.Quiet (world.retain refs) :=
  quiet_of_retainAll refs

private theorem next_releaseAll {α : Type} (refs : List ObjectRef) : ∀ heap : Heap α,
    (refs.foldl (fun heap ref => (heap.release ref.address).1) heap).next = heap.next := by
  induction refs with
  | nil => exact fun _ => rfl
  | cons ref refs ih => exact fun heap => (ih _).trans (heap.next_release ref.address)

private theorem releaseAll_sound {α : Type} (refs : List ObjectRef) :
    ∀ {heap : Heap α}, heap.Sound →
      (refs.foldl (fun heap ref => (heap.release ref.address).1) heap).Sound ∧
      ∀ {address content},
        (refs.foldl (fun heap ref => (heap.release ref.address).1) heap).get?
          address = some content → heap.get? address = some content := by
  induction refs with
  | nil => exact fun hheap => ⟨hheap, id⟩
  | cons ref refs ih =>
      intro heap hheap
      obtain ⟨hsound, hget⟩ := ih (hheap.release ref.address)
      refine ⟨hsound, fun {address content} hcontent => ?_⟩
      have hfound := hget hcontent
      rw [hheap.get?_release] at hfound
      split at hfound
      · cases hfound
      · exact hfound

theorem release_quiet (world : World) (refs : List ObjectRef) :
    world.Quiet (world.release refs) :=
  .of_objects world.host _ (Nat.le_of_eq (next_releaseAll refs _).symm)
    (fun hbefore => (releaseAll_sound refs hbefore).1) (fun hbefore {_ _} hgame => (releaseAll_sound refs hbefore).2 hgame)

theorem upgrade_quiet {world : World} {address : Nat} {objects : Heap ObjectBody}
    (hupgrade : world.objects.upgrade address = some objects) :
    world.Quiet { world with objects := objects } := by
  rw [Heap.eq_retain_of_upgrade hupgrade]
  refine .of_objects world.host _ (Nat.le_of_eq (Heap.next_retain _ _).symm)
    (fun hbefore => hbefore.retain address) ?_
  intro hbefore other game hgame
  rw [hbefore.get?_retain] at hgame
  exact hgame

/-- An object that is no game module can be made quietly. -/
theorem alloc_quiet (world : World) {body : ObjectBody}
    (hbody : ∀ game, body ≠ .game game) :
    world.Quiet { world with objects := (world.objects.alloc body).2 } := by
  refine .of_objects world.host _ (Nat.le_succ _) (fun hbefore => hbefore.alloc body) ?_
  intro hbefore address game hgame
  rw [Heap.get?_alloc] at hgame
  split at hgame
  · cases hgame
    exact absurd rfl (hbody game)
  · exact hgame

/-! ### What stays as it is -/

/-- The script module at an address may be touched. -/
def Within (may : Touch → Prop) (address : Nat) (world : World) : Prop :=
  ∀ module, world.module? address = some module →
    may (.module address module.id)

theorem within_ordinary (address : Nat) (world : World) :
    world.Within Touch.ordinary address :=
  fun _ _ => trivial

end World

namespace Scripts

/-- A module keeps its number and its name as long as it lives, and a new one
may be touched by whoever makes it. -/
theorem Change.identity {may : Touch → Prop} {before after : Scripts}
    (hchange : Change may before after) {address : Nat} {module : ScriptModule}
    (hmodule : after.module? address = some module) :
    (∃ earlier, before.module? address = some earlier ∧
      module.id = earlier.id ∧ module.name = earlier.name ∧
      earlier.reloads ≤ module.reloads) ∨
    address = before.next ∧ may .creation ∧ may (.module address module.id) := by
  have hput : ∀ {target : Nat} {old changed : ScriptModule},
      before.module? target = some old →
      (before.put target (some changed)).module? address = some module →
      changed.id = old.id → changed.name = old.name →
      old.reloads ≤ changed.reloads →
      ∃ earlier, before.module? address = some earlier ∧
        module.id = earlier.id ∧ module.name = earlier.name ∧
        earlier.reloads ≤ module.reloads := by
    intro target old changed hold hfound hid hname hreloads
    rw [module?_put] at hfound
    by_cases ha : target = address
    · rw [if_pos ha] at hfound
      cases hfound
      exact ⟨old, ha ▸ hold, hid, hname, hreloads⟩
    · rw [if_neg ha] at hfound
      exact ⟨module, hfound, rfl, rfl, Nat.le_refl _⟩
  have hsame : before.module? address = some module →
      ∃ earlier, before.module? address = some earlier ∧
        module.id = earlier.id ∧ module.name = earlier.name ∧
        earlier.reloads ≤ module.reloads :=
    fun hfound => ⟨module, hfound, rfl, rfl, Nat.le_refl _⟩
  cases hchange with
  | edit edited hold _ hedit =>
      exact .inl (hput hold hmodule hedit.id hedit.name
        (Nat.le_of_eq hedit.reloads.symm))
  | @build target old compiled hold _ _ _ _ =>
      have hfound : (before.put target (some (old.withBuild compiled))).module?
          address = some module := hmodule
      exact .inl (hput hold hfound rfl rfl (Nat.le_refl _))
  | discard hold _ =>
      rw [module?_leave] at hmodule
      exact .inl (hput hold hmodule rfl rfl (Nat.le_refl _))
  | renew tree hold _ _ =>
      rw [module?_leave] at hmodule
      exact .inl (hput hold hmodule rfl rfl (Nat.le_succ _))
  | vanish _ _ _ =>
      rw [module?_leave, module?_put] at hmodule
      split at hmodule
      · cases hmodule
      · exact .inl (hsame hmodule)
  | unwatch _ _ => exact .inl (hsame hmodule)
  | watch _ _ _ _ _ => exact .inl (hsame hmodule)
  | register _ _ _ _ _ => exact .inl (hsame hmodule)
  | collect _ _ _ => exact .inl (hsame hmodule)
  | revoke _ _ => exact .inl (hsame hmodule)
  | create name source id counter hmay hself _ _ _ =>
      simp only [Scripts.create, put] at hmodule
      split at hmodule
      · rename_i hnext
        cases hmodule
        exact .inr ⟨hnext.symm, hmay, hnext ▸ hself⟩
      · exact .inl (hsame hmodule)
  | unregister _ _ _ _ => exact .inl (hsame hmodule)
  | close => exact .inl (hsame hmodule)

theorem Changes.within {may : Touch → Prop} {before after : Scripts}
    (hchanges : Changes may before after) {address : Nat}
    (hbefore : ∀ module, before.module? address = some module →
      may (.module address module.id)) :
    ∀ module, after.module? address = some module →
      may (.module address module.id) := by
  induction hchanges with
  | refl => exact hbefore
  | tail _ hchange ih =>
      intro module hmodule
      rcases hchange.identity hmodule with ⟨earlier, hearlier, hid, -, -⟩ | ⟨-, -, hmay⟩
      · rw [hid]
        exact ih earlier hearlier
      · exact hmay

end Scripts

theorem World.Within.of_reaches {held : Holdings} {may : Touch → Prop}
    {before after : World} {address : Nat}
    (hwithin : before.Within may address)
    (hreaches : before.Reaches held may after) : after.Within may address :=
  hreaches.changes.within hwithin

end ScriptHost
