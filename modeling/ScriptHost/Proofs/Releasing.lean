import ScriptHost.Proofs.Dropping

/-!
Taking the script module of a living game module away. The game module remains
without it, and so do all other game modules as they are.
-/

namespace ScriptHost

namespace World

variable {held : Holdings} {world : World}

/-- The script modules that a game module is about to lose, together with their
number: its own, and the one that is registered under the same number. -/
def Attached (world : World) (place address id : Nat) : Prop :=
  ∃ game script module, world.game? place = some game ∧
    game.script = some script ∧ world.module? script = some module ∧
      id = module.id ∧
        (address = script ∨ world.executor.registry.get? id = some address)

/-- The world in which a game module has been told that its script module goes. -/
def detaching (world : World) (place : Nat) : World :=
  world.withGame place fun game => { game with script := none, dependencies := [] }

/-- The handle that a game module had of its script module is held from outside. -/
theorem Sound.detaching (hworld : world.Sound held) {place : Nat} {game : GameModule}
    (hgame : world.game? place = some game) :
    (world.detaching place).Sound (held.taking game.script.toList) := by
  refine hworld.withGame hgame _ (Nat.le_refl _) fun script => ?_
  simp only [Holdings.taking, List.count_append, Option.toList_none, List.count_nil]
  omega

end World

namespace Act

open World

variable {held : Holdings} {world : World} {place : Nat}

/-- What becomes of a world in which a game module loses its script module. The
handles that are to be dropped are handed out. -/
structure Detaches (held : Holdings) (world : World) (place : Nat)
    (outcome : List Owned × World) : Prop where
  changes : Scripts.Changes (Touch.modules (world.Attached place)) world.scripts
    outcome.2.scripts
  sound : outcome.2.Sound (held.taking (Owned.modules outcome.1))
  allows : ∀ handle ∈ outcome.1,
    outcome.2.Allows (Touch.modules (world.Attached place)) handle
  cleared : ∀ game script module, world.game? place = some game →
    game.script = some script → world.module? script = some module →
      outcome.2.scripts.Cleared module.id
  detached : ∀ game, outcome.2.game? place = some game → game.script = none
  games : ∀ {other game}, other ≠ place →
    (outcome.2.game? other = some game ↔ world.game? other = some game)
  issues : world.Issues outcome.2

/-- Detaching a game module that is not there does nothing. -/
theorem detachGame_of_none (hworld : world.Sound held)
    (hnone : world.game? place = none) (wanted : Bool) :
    Detaches held world place ((detachGame place wanted).run world) := by
  rw [run_eq]
  unfold detachGame
  rw [after_get_bind, result_get_bind, hnone]
  refine ⟨.refl, hworld, by simp, ?_, ?_, fun _ => Iff.rfl, .refl world⟩
  · intro game script module hgame
    rw [hnone] at hgame
    cases hgame
  · intro game hgame
    rw [after_pure, hnone] at hgame
    cases hgame

/-- The world of a game module that has been detached: it is not initialized any
more. -/
theorem detachGame_of_some {game : GameModule} (hgame : world.game? place = some game)
    (wanted : Bool) :
    let self := result (selfValue place) (world.detaching place)
    let ready := after (selfValue place) (world.detaching place)
    result (detachGame place wanted) world =
        result (detachScript place game wanted self) ready ++
          self.objects.map Owned.object ∧
      after (detachGame place wanted) world =
        (after (detachScript place game wanted self) ready).withGame place
          fun game => { game with initialized := false } := by
  unfold detachGame
  rw [after_get_bind, result_get_bind, hgame]
  exact ⟨rfl, rfl⟩

/-- A game module is detached from its script module and no other game module
is. -/
theorem detachGame_detaches (hworld : world.Sound held) (place : Nat)
    (wanted : Bool) :
    Detaches held world place ((detachGame place wanted).run world) := by
  cases hgame : world.game? place with
  | none => exact detachGame_of_none hworld hgame wanted
  | some game =>
      obtain ⟨hresult, hafter⟩ := detachGame_of_some hgame wanted
      rw [run_eq, hresult, hafter]
      clear hresult hafter
      have hdetaching := hworld.detaching hgame
      have hself := selfValue_isQuiet place (world.detaching place)
      have hready := hself.sound hdetaching
      generalize result (selfValue place) (world.detaching place) = self
      generalize hworldReady : after (selfValue place) (world.detaching place) = ready
        at hself hready
      have hscripts : ready.scripts = world.scripts := hself.scripts
      have hcovered : ∀ script, game.script = some script →
          ready.Covered (world.Attached place) script := by
        intro script hscript module hmodule
        have hfound : world.module? script = some module :=
          (congrFun (congrArg Scripts.module? hscripts) script).symm.trans hmodule
        refine ⟨⟨game, script, module, hgame, hscript, hfound, rfl, .inl rfl⟩, ?_⟩
        intro address haddress
        have hregistered : world.executor.registry.get? module.id = some address := by
          have hsame : ready.executor.registry = world.executor.registry :=
            congrArg Scripts.registry hscripts
          exact hsame ▸ haddress
        exact ⟨game, script, module, hgame, hscript, hfound, rfl, .inr hregistered⟩
      obtain ⟨hdetach, hallows, hcleared⟩ :=
        detachScript_reaches hready hcovered wanted self
      have hself' : (world.detaching place).Keeps ready _ :=
        hworldReady ▸ selfValue_keeps place (.refl hdetaching.objects)
      obtain ⟨refs, -, -, hkeeps, -⟩ := detachScript_keeps place game wanted self hself'
      generalize hdetached : after (detachScript place game wanted self) ready = detached
        at hdetach hallows hcleared hkeeps
      generalize result (detachScript place game wanted self) ready = owned
        at hdetach hallows
      have hsame : (detached.withGame place fun game =>
          { game with initialized := false }).scripts = detached.scripts := rfl
      have hlast : detached.Reaches (held.taking (Owned.modules owned)) Touch.ordinary
          (detached.withGame place fun game => { game with initialized := false }) :=
        hdetach.sound.reaches_game trivial _ fun _ => rfl
      have hback : ∀ {other found}, detached.game? other = some found →
          (world.detaching place).game? other = some found := by
        intro other found hfound
        exact hself.games hdetaching.objects
          ((hdetach.games hfound).elim id False.elim)
      have hquiet : (world.detaching place).Issues ready :=
        .of_games hself.next (hself.games hdetaching.objects)
      refine ⟨?_, ?_, ?_, ?_, ?_, ?_, (issues_withGame _ _ _).trans
        (hquiet.trans (hdetach.issues.trans hlast.issues))⟩
      · exact (Scripts.Changes.of_eq hscripts).trans hdetach.changes
      · rw [Owned.modules_append, Owned.modules_objects, List.append_nil]
        exact hlast.sound
      · intro handle hhandle
        rcases List.mem_append.mp hhandle with howned | hobject
        · exact (hallows handle howned).of_changes (.of_eq hsame)
        · exact allows_objects _ _ handle hobject
      · intro other script module hother hscript hmodule
        rw [hgame] at hother
        cases hother
        have hfound : ready.module? script = some module :=
          (congrFun (congrArg Scripts.module? hscripts) script).trans hmodule
        exact hcleared script module hscript hfound
      · intro found hfound
        rw [game?_withGame, if_pos rfl, Option.map_eq_some_iff] at hfound
        obtain ⟨earlier, hearlier, rfl⟩ := hfound
        have hstart := hback hearlier
        unfold World.detaching at hstart
        rw [game?_withGame, if_pos rfl, hgame] at hstart
        cases hstart
        rfl
      · intro other found hne
        rw [game?_withGame, if_neg (Ne.symm hne)]
        have hsame : (world.detaching place).game? other = world.game? other := by
          unfold World.detaching
          rw [game?_withGame, if_neg (Ne.symm hne)]
        constructor
        · intro hfound
          rw [← hsame]
          exact hback hfound
        · intro hfound
          rw [← hsame] at hfound
          exact hkeeps.game? hfound

theorem detachGame_reaches (hworld : world.Sound held) (place : Nat) (wanted : Bool) :
    world.Reaches (held.taking (Owned.modules (result (detachGame place wanted) world)))
      Touch.ordinary (after (detachGame place wanted) world) := by
  have hdetaches := detachGame_detaches hworld place wanted
  refine ⟨hdetaches.changes.mono Touch.ordinary_of_modules, ?_, hdetaches.issues,
    hdetaches.sound⟩
  intro other game hgame
  by_cases hplace : other = place
  · exact .inr trivial
  · exact .inl ((hdetaches.games hplace).mp hgame)

end Act

end ScriptHost
