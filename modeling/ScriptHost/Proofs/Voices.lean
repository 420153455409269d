import ScriptHost.Proofs.Outset
import ScriptHost.Proofs.States

/-!
What game modules hear. To each of them init and release events are delivered in turn, the
release event by the compiled script that has heard the init event; it hears the init event
after its imports, and nothing more once it is gone. A game module that is initialized and
whose script module is built is about to hear the release event next.
-/

namespace ScriptHost

namespace Delivery

/-- The lifecycle events of a game module, the latest first. -/
def heard (place : Nat) (since : List Delivery) : List Delivery :=
  since.filter (·.game = place)

/-- The last event was the init event of a compiled script. -/
def Opened (history : List Delivery) (script : Nat) (compiled : Compiled) : Prop :=
  ∃ last earlier, history = last :: earlier ∧ last.event = .init ∧ last.script = script ∧
    last.compiled = some compiled

/-- The last event, if there was one, was a release event. -/
def Closed (history : List Delivery) : Prop :=
  ∀ last ∈ history.head?, last.event = .release

/-- An event that can come next. The init event comes first or after a release event, and if
it comes to the same script module as that, this has been built anew. The release event comes
to the compiled script to which the init event before it came. -/
inductive Follows (history : List Delivery) (next : Delivery) : Prop
  | init (compiled : Compiled) (event : next.event = .init)
      (built : next.compiled = some compiled) (closed : Closed history)
      (anew : ∀ last ∈ history.head?, last.script = next.script → ∀ old,
        last.compiled = some old → compiled.internalName = old.internalName ++ "R")
  | release (compiled : Compiled) (event : next.event = .release)
      (built : next.compiled = some compiled) (opened : Opened history next.script compiled)

/-- Init and release events come in turn. -/
def Alternates : List Delivery → Prop
  | [] => True
  | next :: history => Follows history next ∧ Alternates history

/-- A game module has heard the init event. -/
def Began (since : List Delivery) (place : Nat) : Prop :=
  ∃ delivery ∈ since, delivery.game = place ∧ delivery.event = .init

/-- A game module has heard the init event after another one had heard it. -/
def Precedes (since : List Delivery) (first second : Nat) : Prop :=
  ∃ later delivery earlier, since = later ++ delivery :: earlier ∧ delivery.game = second ∧
    delivery.event = .init ∧ Began earlier first

variable {since more history : List Delivery} {place other : Nat} {delivery : Delivery}

@[simp]
theorem heard_nil (place : Nat) : heard place [] = [] := rfl

theorem heard_cons (delivery : Delivery) (since : List Delivery) (place : Nat) :
    heard place (delivery :: since) =
      if delivery.game = place then delivery :: heard place since else heard place since := by
  unfold heard
  by_cases h : delivery.game = place <;> simp [h]

theorem heard_append (more since : List Delivery) (place : Nat) :
    heard place (more ++ since) = heard place more ++ heard place since :=
  List.filter_append _ _

theorem mem_heard : delivery ∈ heard place since ↔ delivery ∈ since ∧ delivery.game = place := by
  simp [heard]

theorem heard_eq_nil (hnone : ∀ delivery ∈ since, delivery.game ≠ place) :
    heard place since = [] :=
  List.filter_eq_nil_iff.mpr fun delivery hmem => by simpa using hnone delivery hmem

/-- What others hear does not matter. -/
theorem heard_append_of_other (hother : ∀ delivery ∈ more, delivery.game ≠ place) :
    heard place (more ++ since) = heard place since := by
  rw [heard_append, heard_eq_nil hother, List.nil_append]

theorem closed_nil : Closed [] := by
  intro last hlast
  cases hlast

theorem closed_cons (hevent : delivery.event = .release) : Closed (delivery :: history) := by
  intro last hlast
  cases hlast
  exact hevent

theorem Began.append (hbegan : Began since place) (more : List Delivery) :
    Began (more ++ since) place := by
  obtain ⟨delivery, hmem, hgame⟩ := hbegan
  exact ⟨delivery, List.mem_append_right _ hmem, hgame⟩

theorem Precedes.append (hprecedes : Precedes since place other) (more : List Delivery) :
    Precedes (more ++ since) place other := by
  obtain ⟨later, delivery, earlier, rfl, hgame⟩ := hprecedes
  exact ⟨more ++ later, delivery, earlier, (List.append_assoc _ _ _).symm, hgame⟩

/-- Whatever a game module has heard that has heard something began with the init event. -/
theorem Alternates.began (halternates : Alternates (heard place since))
    (hheard : heard place since ≠ []) : Began since place := by
  obtain ⟨last, earlier, hhistory⟩ := List.exists_cons_of_ne_nil hheard
  have hmem : ∀ delivery ∈ last :: earlier, delivery ∈ since ∧ delivery.game = place :=
    fun delivery hmem => mem_heard.mp (hhistory ▸ hmem)
  rw [hhistory] at halternates
  rcases halternates.1 with ⟨_, hevent, -, -, -⟩ | ⟨_, -, -, hopened⟩
  · obtain ⟨hsince, hgame⟩ := hmem last List.mem_cons_self
    exact ⟨last, hsince, hgame, hevent⟩
  · obtain ⟨first, rest, rfl, hevent, -, -⟩ := hopened
    obtain ⟨hsince, hgame⟩ := hmem first (List.mem_cons_of_mem _ List.mem_cons_self)
    exact ⟨first, hsince, hgame, hevent⟩

end Delivery

namespace World

open Delivery

/-- What an initialized game module has to say: its script module has its hooks; it is built
and is the one that has heard the init event last, or it could not be built again and has
been released before. -/
def Speaks (world : World) (since : List Delivery) (place : Nat) (game : GameModule) : Prop :=
  ∃ script module, game.script = some script ∧ world.module? script = some module ∧
    module.hooks = some (.game place) ∧
    (module.state = .built ∧ (∃ compiled, module.compiled = some compiled ∧
        Opened (heard place since) script compiled) ∨
      module.state = .failed ∧ Closed (heard place since))

/-- What is known of one game module and what it has heard since some time. Those in `making`
are being initialized; those in `unheard` may not have heard the init event yet. -/
structure Voice (outset : Outset) (making unheard : List Nat) (since : List Delivery)
    (world : World) (place : Nat) : Prop where
  alternates : Alternates (heard place since)
  closed : (∀ game, outset.New world place game → game.initialized = false) →
    Closed (heard place since)
  speaks : ∀ {game}, outset.New world place game → game.initialized = true →
    world.Speaks since place game
  idle : ∀ {game}, outset.New world place game → place ∉ making →
    game.initialized = false → game.script = none ∧ game.dependencies = []
  began : ∀ {game}, outset.New world place game → place ∉ unheard → Began since place
  imports : ∀ {game}, outset.New world place game → ∀ target ∈ game.dependencies,
    outset.objects.get? target ≠ none ∨ Began since target
  order : ∀ {game}, outset.New world place game → game.initialized = true →
    ∀ target ∈ game.dependencies,
      outset.objects.get? target ≠ none ∨ Precedes since target place
  complete : ∀ {game}, outset.New world place game → game.initialized = true →
    game.dependencies.length = game.description.imports.length
  once : outset.once → (heard place since).length ≤ 2 ∧
    ∀ game, outset.New world place game → (heard place since).length ≤ 1 ∧
      (game.initialized = false → heard place since = [])

/-- What game modules have heard since some time. -/
structure Voiced (outset : Outset) (making unheard : List Nat) (since : List Delivery)
    (world : World) : Prop where
  recorded : world.deliveries = since ++ outset.deliveries
  addressed : ∀ delivery ∈ since, outset.objects.get? delivery.game = none ∧
    delivery.game < world.objects.next ∧ delivery.script < world.modules.next
  voices : ∀ place, world.Voice outset making unheard since place
  hushed : ∀ {script told}, outset.hushed script told →
    (∀ module, world.module? script = some module → module.state.isTerminal = true) ∧
      script < world.modules.next ∧ since.filter (·.script = script) = told

variable {outset : Outset} {making unheard : List Nat} {since more : List Delivery}
  {before after world : World} {place : Nat} {game : GameModule}

/-- What happens elsewhere does not matter to a game module. -/
theorem Voice.elsewhere (hvoice : before.Voice outset making unheard since place)
    {making' unheard' : List Nat} (hmaking : place ∉ making' → place ∉ making)
    (hunheard : place ∉ unheard' → place ∉ unheard)
    (hgame : after.game? place = before.game? place)
    (hscript : ∀ script, outset.Has before place script →
      after.module? script = before.module? script)
    (hmore : ∀ delivery ∈ more, delivery.game ≠ place) :
    after.Voice outset making' unheard' (more ++ since) place := by
  have hheard : heard place (more ++ since) = heard place since := heard_append_of_other hmore
  have hnew : ∀ {found}, outset.New after place found → outset.New before place found :=
    fun hfound => hfound.of_eq hgame.symm
  refine
    { alternates := hheard ▸ hvoice.alternates
      closed := fun hnone => hheard ▸ hvoice.closed fun found hfound =>
        hnone found (hfound.of_eq hgame)
      speaks := ?_
      idle := fun hfound hplace => hvoice.idle (hnew hfound) (hmaking hplace)
      began := fun hfound hplace => (hvoice.began (hnew hfound) (hunheard hplace)).append more
      imports := fun hfound target htarget =>
        (hvoice.imports (hnew hfound) target htarget).imp_right fun hbegan =>
          hbegan.append more
      order := fun hfound hinit target htarget =>
        (hvoice.order (hnew hfound) hinit target htarget).imp_right fun hprecedes =>
          hprecedes.append more
      complete := fun hfound => hvoice.complete (hnew hfound)
      once := fun honce => by
        rw [hheard]
        exact ⟨(hvoice.once honce).1, fun found hfound => (hvoice.once honce).2 found
          (hnew hfound)⟩ }
  intro found hfound hinit
  obtain ⟨script, module, hhas, hmodule, hspeaks⟩ := hvoice.speaks (hnew hfound) hinit
  refine ⟨script, module, hhas, (hscript script ⟨found, hnew hfound, hhas⟩).trans hmodule, ?_⟩
  rwa [hheard]

/-- A game module that is initialized has a script module. -/
theorem Speaks.has (hspeaks : world.Speaks since place game)
    (hnew : outset.New world place game) : ∃ script, outset.Has world place script := by
  obtain ⟨script, -, hscript, -⟩ := hspeaks
  exact ⟨script, game, hnew, hscript⟩

/-- The script module of a game module is worked on. If the game module is initialized it is
built or failed as before. -/
theorem Voice.works (hvoice : before.Voice outset making unheard since place)
    (hgame : after.game? place = before.game? place)
    (hscript : ∀ {game script module}, outset.New before place game →
      game.initialized = true → game.script = some script →
        before.module? script = some module → ∃ left, after.module? script = some left ∧
          left.hooks = module.hooks ∧ left.state = module.state ∧
            left.compiled = module.compiled) :
    after.Voice outset making unheard since place := by
  have hnew : ∀ {found}, outset.New after place found → outset.New before place found :=
    fun hfound => hfound.of_eq hgame.symm
  refine
    { alternates := hvoice.alternates
      closed := fun hnone => hvoice.closed fun found hfound => hnone found (hfound.of_eq hgame)
      speaks := ?_
      idle := fun hfound => hvoice.idle (hnew hfound)
      began := fun hfound => hvoice.began (hnew hfound)
      imports := fun hfound => hvoice.imports (hnew hfound)
      order := fun hfound => hvoice.order (hnew hfound)
      complete := fun hfound => hvoice.complete (hnew hfound)
      once := fun honce => ⟨(hvoice.once honce).1, fun found hfound =>
        (hvoice.once honce).2 found (hnew hfound)⟩ }
  intro found hfound hinit
  obtain ⟨script, module, hhas, hmodule, hhooks, hstate⟩ := hvoice.speaks (hnew hfound) hinit
  obtain ⟨left, hleft, hhooks', hstate', hcompiled⟩ :=
    hscript (hnew hfound) hinit hhas hmodule
  exact ⟨script, left, hhas, hleft, hhooks' ▸ hhooks, by rwa [hstate', hcompiled]⟩

/-- A game module that is being initialized changes and is not initialized yet. -/
theorem Voice.edits (hvoice : before.Voice outset making unheard since place)
    {making' unheard' : List Nat} {changed : GameModule}
    (hgame : outset.New before place game) (hinit : game.initialized = false)
    (hafter : after.game? place = some changed) (hchanged : changed.initialized = false)
    (hidle : place ∉ making' → changed.script = none ∧ changed.dependencies = [])
    (hunheard : place ∉ unheard' → Began since place)
    (himports : ∀ target ∈ changed.dependencies,
      outset.objects.get? target ≠ none ∨ Began since target) :
    after.Voice outset making' unheard' since place := by
  have hnone : ∀ found, outset.New before place found → found.initialized = false :=
    fun found hfound => hgame.unique hfound ▸ hinit
  have hnew : ∀ {found}, outset.New after place found → found = changed :=
    fun hfound => Option.some.inj (hfound.1.symm.trans hafter)
  have hquiet : ∀ {found}, outset.New after place found → found.initialized = true → False := by
    intro found hfound hinit'
    rw [hnew hfound, hchanged] at hinit'
    cases hinit'
  exact
    { alternates := hvoice.alternates
      closed := fun _ => hvoice.closed hnone
      speaks := fun hfound hinit' => (hquiet hfound hinit').elim
      idle := fun hfound hplace _ => hnew hfound ▸ hidle hplace
      began := fun _ hplace => hunheard hplace
      imports := fun hfound => hnew hfound ▸ himports
      order := fun hfound hinit' => (hquiet hfound hinit').elim
      complete := fun hfound hinit' => (hquiet hfound hinit').elim
      once := fun honce => ⟨(hvoice.once honce).1, fun found hfound => by
        have hheard := ((hvoice.once honce).2 game hgame).2 hinit
        simp [hheard]⟩ }

/-- A game module that comes into being has heard nothing. -/
theorem Voice.made (hnew : outset.New after place game) (hheard : heard place since = [])
    (hinit : game.initialized = false) (hscript : game.script = none)
    (hdependencies : game.dependencies = []) :
    after.Voice outset making (place :: unheard) since place := by
  have hsame : ∀ {found}, outset.New after place found → found = game :=
    fun hfound => hnew.unique hfound
  have hquiet : ∀ {found}, outset.New after place found → found.initialized = true → False := by
    intro found hfound hinit'
    rw [hsame hfound, hinit] at hinit'
    cases hinit'
  exact
    { alternates := hheard ▸ trivial
      closed := fun _ => hheard ▸ closed_nil
      speaks := fun hfound hinit' => (hquiet hfound hinit').elim
      idle := fun hfound _ _ => hsame hfound ▸ ⟨hscript, hdependencies⟩
      began := fun _ hplace => (hplace List.mem_cons_self).elim
      imports := fun hfound target htarget => by
        rw [hsame hfound, hdependencies] at htarget
        cases htarget
      order := fun hfound hinit' => (hquiet hfound hinit').elim
      complete := fun hfound hinit' => (hquiet hfound hinit').elim
      once := fun _ => by simp [hheard] }

/-- A game module is initialized: its script module is built and hears the init event. -/
theorem Voice.initializes (hvoice : before.Voice outset making unheard since place)
    {making' unheard' : List Nat} {changed : GameModule} {script : Nat} {module : ScriptModule}
    {compiled : Compiled} {delivery : Delivery}
    (hgame : outset.New before place game) (hinit : game.initialized = false)
    (hafter : after.game? place = some changed) (hdone : changed.initialized = true)
    (hdependencies : changed.dependencies = game.dependencies)
    (hcomplete : changed.dependencies.length = changed.description.imports.length)
    (hscript : changed.script = some script) (hmodule : after.module? script = some module)
    (hhooks : module.hooks = some (.game place)) (hbuilt : module.state = .built)
    (hcompiled : module.compiled = some compiled) (hplace : delivery.game = place)
    (hevent : delivery.event = .init) (hdelivered : delivery.script = script)
    (hheard : delivery.compiled = some compiled)
    (hanew : ∀ last ∈ (heard place since).head?, last.script ≠ script) :
    after.Voice outset making' unheard' (delivery :: since) place := by
  have hclosed : Closed (heard place since) :=
    hvoice.closed fun found hfound => hgame.unique hfound ▸ hinit
  have hhistory : heard place (delivery :: since) = delivery :: heard place since := by
    rw [heard_cons, if_pos hplace]
  have hsame : ∀ {found}, outset.New after place found → found = changed :=
    fun hfound => Option.some.inj (hfound.1.symm.trans hafter)
  have hfollows : Follows (heard place since) delivery :=
    .init compiled hevent hheard hclosed fun last hlast hlast' =>
      absurd (hlast'.trans hdelivered) (hanew last hlast)
  have hspeaks : after.Speaks (delivery :: since) place changed :=
    ⟨script, module, hscript, hmodule, hhooks, .inl ⟨hbuilt, compiled, hcompiled, delivery,
      heard place since, hhistory, hevent, hdelivered, hheard⟩⟩
  have hbegan : Began (delivery :: since) place :=
    ⟨delivery, List.mem_cons_self, hplace, hevent⟩
  refine
    { alternates := hhistory ▸ ⟨hfollows, hvoice.alternates⟩
      closed := fun hnone => ?_
      speaks := fun hfound _ => hsame hfound ▸ hspeaks
      idle := fun hfound _ hidle => ?_
      began := fun _ _ => hbegan
      imports := fun hfound target htarget => ?_
      order := fun hfound _ target htarget => ?_
      complete := fun hfound _ => hsame hfound ▸ hcomplete
      once := fun honce => ?_ }
  · have hcontra := hnone changed ⟨hafter, hgame.2⟩
    rw [hdone] at hcontra
    cases hcontra
  · rw [hsame hfound, hdone] at hidle
    cases hidle
  · rw [hsame hfound, hdependencies] at htarget
    exact (hvoice.imports hgame target htarget).imp_right fun hbefore =>
      hbefore.append [delivery]
  · rw [hsame hfound, hdependencies] at htarget
    exact (hvoice.imports hgame target htarget).imp_right fun hbefore =>
      ⟨[], delivery, since, rfl, hplace, hevent, hbefore⟩
  · have hnothing := ((hvoice.once honce).2 game hgame).2 hinit
    rw [hhistory, hnothing]
    refine ⟨by simp, fun found hfound => ⟨by simp, fun hidle => ?_⟩⟩
    rw [hsame hfound, hdone] at hidle
    cases hidle

/-- A game module that is initialized hears of its script module being built anew. -/
theorem Voice.reloads (hvoice : before.Voice outset making unheard since place)
    (hgame : outset.New before place game) (hinit : game.initialized = true)
    (hafter : after.game? place = some game) (honce : ¬ outset.once)
    (halternates : Alternates (heard place (more ++ since)))
    (hspeaks : after.Speaks (more ++ since) place game) :
    after.Voice outset making unheard (more ++ since) place := by
  have hsame : ∀ {found}, outset.New after place found → found = game :=
    fun hfound => Option.some.inj (hfound.1.symm.trans hafter)
  refine
    { alternates := halternates
      closed := fun hnone => ?_
      speaks := fun hfound _ => hsame hfound ▸ hspeaks
      idle := fun hfound _ hidle => ?_
      began := fun hfound hplace =>
        (hvoice.began (hsame hfound ▸ hgame) hplace).append more
      imports := fun hfound target htarget =>
        (hvoice.imports (hsame hfound ▸ hgame) target htarget).imp_right fun hbegan =>
          hbegan.append more
      order := fun hfound hinit' target htarget =>
        (hvoice.order (hsame hfound ▸ hgame) hinit' target htarget).imp_right fun hprecedes =>
          hprecedes.append more
      complete := fun hfound => hvoice.complete (hsame hfound ▸ hgame)
      once := fun hcontra => absurd hcontra honce }
  · have hcontra := hnone game ⟨hafter, hgame.2⟩
    rw [hinit] at hcontra
    cases hcontra
  · rw [hsame hfound, hinit] at hidle
    cases hidle

/-- What a game module hears when its script module goes: the release event, if the game
module is initialized and the script module is built. -/
inductive Told (world : World) (place : Nat) (game : GameModule) : List Delivery → Prop
  | nothing (unbuilt : game.initialized = true → ∀ script module, game.script = some script →
      world.module? script = some module → module.state ≠ .built) : Told world place game []
  | release {delivery : Delivery} {script : Nat} {module : ScriptModule} {compiled : Compiled}
      (has : game.script = some script) (there : world.module? script = some module)
      (built : module.state = .built) (compiles : module.compiled = some compiled)
      (addressed : delivery.game = place) (event : delivery.event = .release)
      (spoken : delivery.script = script) (heard : delivery.compiled = some compiled) :
      Told world place game [delivery]

/-- A game module that is told that its script module goes has nothing to say any more. -/
theorem Voice.told (hvoice : before.Voice outset making unheard since place)
    (hgame : outset.New before place game)
    (hidle : game.initialized = false → more = []) (htold : before.Told place game more) :
    Alternates (heard place (more ++ since)) ∧ Closed (heard place (more ++ since)) ∧
      (heard place (more ++ since)).length ≤ (heard place since).length + 1 := by
  cases htold with
  | nothing hunbuilt =>
      refine ⟨hvoice.alternates, ?_, Nat.le_succ _⟩
      by_cases hinit : game.initialized = true
      · obtain ⟨script, module, hscript, hmodule, -, hstate⟩ := hvoice.speaks hgame hinit
        rcases hstate with ⟨hbuilt, -⟩ | ⟨-, hclosed⟩
        · exact absurd hbuilt (hunbuilt hinit script module hscript hmodule)
        · exact hclosed
      · exact hvoice.closed fun found hfound => by
          rw [hgame.unique hfound]
          simpa using hinit
  | @release delivery script module compiled hscript hmodule hbuilt hcompiled hplace hevent
      hdelivered hheard =>
      have hinit : game.initialized = true := by
        by_contra hinit
        exact List.cons_ne_nil _ _ (hidle (by simpa using hinit))
      have hhistory : heard place ([delivery] ++ since) = delivery :: heard place since := by
        rw [List.singleton_append, heard_cons, if_pos hplace]
      obtain ⟨own, found, hown, hfound, -, hstate⟩ := hvoice.speaks hgame hinit
      rw [hscript] at hown
      cases hown
      rw [hmodule] at hfound
      cases hfound
      rcases hstate with ⟨-, last, hlast, hopened⟩ | ⟨hfailed, -⟩
      · rw [hcompiled] at hlast
        cases hlast
        rw [hhistory]
        exact ⟨⟨.release compiled hevent hheard (hdelivered ▸ hopened), hvoice.alternates⟩,
          closed_cons hevent, by simp⟩
      · rw [hbuilt] at hfailed
        cases hfailed

/-- A game module that is gone has heard the release event if it had to. -/
theorem Voice.dies (hvoice : before.Voice outset making unheard since place)
    {making' unheard' : List Nat} (hgame : outset.New before place game)
    (hidle : game.initialized = false → more = []) (htold : before.Told place game more) (hafter : after.game? place = none) :
    after.Voice outset making' unheard' (more ++ since) place := by
  obtain ⟨halternates, hclosed, hlength⟩ := hvoice.told hgame hidle htold
  have hnone : ∀ {found}, outset.New after place found → False := by
    rintro found ⟨hfound, -⟩
    rw [hafter] at hfound
    cases hfound
  exact
    { alternates := halternates
      closed := fun _ => hclosed
      speaks := fun hfound => (hnone hfound).elim
      idle := fun hfound => (hnone hfound).elim
      began := fun hfound => (hnone hfound).elim
      imports := fun hfound => (hnone hfound).elim
      order := fun hfound => (hnone hfound).elim
      complete := fun hfound => (hnone hfound).elim
      once := fun honce => by
        have hheard := ((hvoice.once honce).2 game hgame).1
        exact ⟨by omega, fun found hfound => (hnone hfound).elim⟩ }

/-- A game module that gives up its script module and its imports has heard the release
event if it had to. -/
theorem Voice.detaches (hvoice : before.Voice outset making unheard since place)
    {making' unheard' : List Nat} {changed : GameModule} (hgame : outset.New before place game)
    (hidle : game.initialized = false → more = []) (htold : before.Told place game more) (hafter : after.game? place = some changed)
    (hchanged : changed.initialized = false) (hscript : changed.script = none)
    (hdependencies : changed.dependencies = [])
    (honce : outset.once → game.initialized = false)
    (hunheard : place ∉ unheard' → place ∉ unheard) :
    after.Voice outset making' unheard' (more ++ since) place := by
  obtain ⟨halternates, hclosed, -⟩ := hvoice.told hgame hidle htold
  have hsame : ∀ {found}, outset.New after place found → found = changed :=
    fun hfound => Option.some.inj (hfound.1.symm.trans hafter)
  have hquiet : ∀ {found}, outset.New after place found → found.initialized = true → False := by
    intro found hfound hinit'
    rw [hsame hfound, hchanged] at hinit'
    cases hinit'
  refine
    { alternates := halternates
      closed := fun _ => hclosed
      speaks := fun hfound hinit => (hquiet hfound hinit).elim
      idle := fun hfound _ _ => hsame hfound ▸ ⟨hscript, hdependencies⟩
      began := fun _ hplace => (hvoice.began hgame (hunheard hplace)).append more
      imports := fun hfound target htarget => ?_
      order := fun hfound hinit => (hquiet hfound hinit).elim
      complete := fun hfound hinit => (hquiet hfound hinit).elim
      once := fun hcontra => ?_ }
  · rw [hsame hfound, hdependencies] at htarget
    cases htarget
  · have hinit := honce hcontra
    rw [hidle hinit, List.nil_append, ((hvoice.once hcontra).2 game hgame).2 hinit]
    simp

/-! ### Many game modules -/

/-- Whatever happens, what is delivered meanwhile is heard from script modules that have not
failed. -/
theorem Voiced.advance (hvoiced : before.Voiced outset making unheard since)
    (hbefore : before.scripts.Consistent) {making' unheard' : List Nat}
    (hobjects : before.objects.next ≤ after.objects.next)
    (hchanges : Scripts.Changes Touch.anything before.scripts after.scripts)
    (hrecorded : after.deliveries = more ++ before.deliveries)
    (hmore : ∀ delivery ∈ more, outset.objects.get? delivery.game = none ∧
      delivery.game < after.objects.next ∧
      ∃ module, before.module? delivery.script = some module ∧
        module.state.isTerminal = false)
    (hvoices : ∀ place, after.Voice outset making' unheard' (more ++ since) place) :
    after.Voiced outset making' unheard' (more ++ since) := by
  have hnext : before.modules.next ≤ after.modules.next := Scripts.Changes.next_le hchanges
  refine
    { recorded := by rw [hrecorded, hvoiced.recorded, List.append_assoc]
      addressed := fun delivery hmem => ?_
      voices := hvoices
      hushed := fun hhushed => ?_ }
  · rcases List.mem_append.mp hmem with hnew | hold
    · obtain ⟨hnone, hgame, module, hmodule, -⟩ := hmore delivery hnew
      exact ⟨hnone, hgame, Nat.lt_of_lt_of_le (hbefore.below hmodule) hnext⟩
    · obtain ⟨hnone, hgame, hscript⟩ := hvoiced.addressed delivery hold
      exact ⟨hnone, Nat.lt_of_lt_of_le hgame hobjects, Nat.lt_of_lt_of_le hscript hnext⟩
  · rename_i script told
    obtain ⟨hended, hbelow, htold⟩ := hvoiced.hushed hhushed
    refine ⟨fun module hmodule => ?_, Nat.lt_of_lt_of_le hbelow hnext, ?_⟩
    · rcases Scripts.Changes.origin hchanges hmodule with ⟨earlier, hearlier, -⟩ | ⟨habove, -⟩
      · exact (Scripts.Changes.ended hchanges hbelow hearlier
          (hended earlier hearlier) hmodule).isTerminal (hended earlier hearlier)
      · exact absurd hbelow (Nat.not_lt.mpr habove)
    · have hnothing : more.filter (·.script = script) = [] := by
        refine List.filter_eq_nil_iff.mpr fun delivery hmem => ?_
        obtain ⟨-, -, module, hmodule, hliving⟩ := hmore delivery hmem
        simp only [decide_eq_true_eq]
        rintro rfl
        rw [hended module hmodule] at hliving
        cases hliving
      rw [List.filter_append, hnothing, List.nil_append, htold]

/-- Nothing is delivered. -/
theorem Voiced.silent (hvoiced : before.Voiced outset making unheard since)
    (hbefore : before.scripts.Consistent) {making' unheard' : List Nat}
    (hobjects : before.objects.next ≤ after.objects.next)
    (hchanges : Scripts.Changes Touch.anything before.scripts after.scripts)
    (hsilent : after.deliveries = before.deliveries)
    (hvoices : ∀ place, after.Voice outset making' unheard' since place) :
    after.Voiced outset making' unheard' since := by
  have hrecorded : after.deliveries = [] ++ before.deliveries := hsilent
  refine hvoiced.advance hbefore hobjects hchanges hrecorded (fun _ hmem => ?_) hvoices
  cases hmem

/-- What an operation that concerns one game module leaves of the others. -/
structure Elsewhere (outset : Outset) (before after : World) (place : Nat) : Prop where
  games : ∀ other, other ≠ place → after.game? other = before.game? other
  modules : ∀ other script, other ≠ place → outset.Has before other script →
    after.module? script = before.module? script

/-- An operation that concerns one game module. -/
theorem Elsewhere.voices (helsewhere : Elsewhere outset before after place)
    (hvoiced : before.Voiced outset making unheard since) {making' unheard' : List Nat}
    (hmaking : ∀ other, other ≠ place → other ∉ making' → other ∉ making)
    (hunheard : ∀ other, other ≠ place → other ∉ unheard' → other ∉ unheard)
    (hmore : ∀ delivery ∈ more, delivery.game = place)
    (hplace : after.Voice outset making' unheard' (more ++ since) place) (other : Nat) :
    after.Voice outset making' unheard' (more ++ since) other := by
  by_cases hsame : other = place
  · exact hsame ▸ hplace
  · exact (hvoiced.voices other).elsewhere (hmaking other hsame) (hunheard other hsame)
      (helsewhere.games other hsame) (fun script => helsewhere.modules other script hsame)
      fun delivery hmem hgame => hsame (hgame ▸ hmore delivery hmem)

theorem Elsewhere.silent (helsewhere : Elsewhere outset before after place)
    (hvoiced : before.Voiced outset making unheard since) {making' unheard' : List Nat}
    (hmaking : ∀ other, other ≠ place → other ∉ making' → other ∉ making)
    (hunheard : ∀ other, other ≠ place → other ∉ unheard' → other ∉ unheard)
    (hplace : after.Voice outset making' unheard' since place) (other : Nat) :
    after.Voice outset making' unheard' since other := by
  have hnothing : ∀ delivery ∈ ([] : List Delivery), delivery.game = place := nofun
  exact helsewhere.voices hvoiced hmaking hunheard hnothing hplace other

end World

end ScriptHost
