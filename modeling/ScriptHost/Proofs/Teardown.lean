import ScriptHost.Proofs.Reachable
import ScriptHost.Proofs.Releasing
import ScriptHost.Proofs.Sparing

/-!
What is left alone when something is torn down. A script module is torn down by its
handle, and what is recorded elsewhere is taken away by its number. Hence every other
module is left alone that is not registered under the number of one that is torn
down; a module that has taken the number over is not.
-/

namespace ScriptHost

namespace World

variable {targets : Nat → Prop} {before middle after world : World}

/-- What the teardown of some script modules may reach, together with its number:
these modules, and those that are registered under their numbers. -/
def Affects (world : World) (targets : Nat → Prop) (address id : Nat) : Prop :=
  ∃ script module, targets script ∧ world.module? script = some module ∧
    id = module.id ∧ (address = script ∨ world.executor.registry.get? id = some address)

/-- Whether a script module is one of a game module that goes. -/
def Loses (before after : World) (script : Nat) : Prop :=
  ∃ place game, before.game? place = some game ∧ after.game? place = none ∧
    game.script = some script

/-- A world in which some script modules are torn down, together with those of the game
modules that go meanwhile, and no others are. Nothing is said of a world whose executor
is gone. -/
def TearsDown (targets : Nat → Prop) (before after : World) : Prop :=
  after.isRunning = true → Scripts.Changes (Touch.modules (before.Affects fun script =>
    targets script ∨ before.Loses after script)) before.scripts after.scripts

theorem Affects.mono {more : Nat → Prop} (hmore : ∀ script, targets script → more script)
    {address id : Nat} (haffects : world.Affects targets address id) :
    world.Affects more address id := by
  obtain ⟨script, module, htarget, hrest⟩ := haffects
  exact ⟨script, module, hmore script htarget, hrest⟩

/-- Where more modules are torn down, more may be touched. -/
theorem changes_affects {more : Nat → Prop} (hmore : ∀ script, targets script → more script)
    {scripts scripts' : Scripts}
    (hchanges : Scripts.Changes (Touch.modules (world.Affects targets)) scripts scripts') :
    Scripts.Changes (Touch.modules (world.Affects more)) scripts scripts' := by
  refine hchanges.mono fun touch hmay => ?_
  cases touch with
  | module address id => exact Affects.mono hmore hmay
  | _ => exact hmay

/-- Modules are torn down without anything being dropped. -/
theorem TearsDown.of_changes
    (hchanges : Scripts.Changes (Touch.modules (before.Affects targets)) before.scripts
      after.scripts) : before.TearsDown targets after :=
  fun _ => changes_affects (fun _ => .inl) hchanges

/-- Dropping what a teardown leaves takes further script modules along. -/
theorem Drops.tearsDown (hdrops : Drops (before.Affects targets) middle after)
    (hchanges : Scripts.Changes (Touch.modules (before.Affects targets))
      before.scripts middle.scripts)
    (hgames : ∀ {place game script}, middle.game? place = some game →
      game.script = some script →
        ∃ earlier, before.game? place = some earlier ∧ earlier.script = some script) :
    before.TearsDown targets after := by
  intro hrunning
  have hshrinks := hchanges.shrinks
  refine (changes_affects (fun _ => .inl) hchanges).trans
    (hdrops.changes.mono fun touch hmay => ?_)
  cases touch with
  | module address id =>
      rcases hmay with htouched | hdoomed
      · exact Affects.mono (fun _ => .inl) htouched
      · obtain ⟨place, game, script, module, hgame, hgone, hscript, hmodule, hid,
          haddress⟩ := hdoomed hrunning
        obtain ⟨earlier, hearlier, hsame⟩ := hshrinks.modules hmodule
        obtain ⟨owner, howner, howned⟩ := hgames hgame hscript
        exact ⟨script, earlier, .inr ⟨place, owner, howner, hgone, howned⟩, hearlier,
          hid.symm.trans hsame, haddress.imp_right hshrinks.registry⟩
  | _ => exact hmay

end World

namespace Act

open World

variable {held : Holdings} {world : World}

/-- Only the module with the handle may be touched. -/
theorem within_affects (address : Nat) (world : World) :
    world.Within (Touch.modules (world.Affects (· = address))) address :=
  fun module hmodule => ⟨address, module, rfl, hmodule, rfl, .inl rfl⟩

theorem markDiscarded_tearsDown (hworld : world.Sound held) (address : Nat) :
    world.TearsDown (· = address) (after (markDiscarded address) world) :=
  .of_changes (discard_reaches hworld (within_affects address world) _).changes

theorem dropObjects_tearsDown (hworld : world.Sound held) (refs : List ObjectRef) :
    world.TearsDown (fun _ => False) (after (dropObjects refs) world) := by
  have hsound : world.Sound (held.taking (Owned.modules (refs.map Owned.object))) := by
    rw [Owned.modules_objects]
    exact hworld
  have hdrops : Drops (world.Affects fun _ => False) world
      (after (dropObjects refs) world) :=
    (dropAll_drops hsound (allows_objects refs world)).1
  exact hdrops.tearsDown .refl fun hgame hscript => ⟨_, hgame, hscript⟩

/-- What is released are the hooks of a module, and with them game modules may go. -/
theorem release_tearsDown (hworld : world.Sound held) (address : Nat) :
    world.TearsDown (· = address) (after (release address >>= dropAll) world) := by
  rw [after_bind]
  have hreleased : world.Reaches held _ (after (release address) world) :=
    release_reaches hworld (within_affects address world)
  have hsound : (after (release address) world).Sound
      (held.taking (Owned.modules (result (release address) world))) := by
    rw [release_modules]
    exact hreleased.sound
  have hdrops : Drops (world.Affects (· = address)) _ _ :=
    (dropAll_drops hsound (release_allows _)).1
  exact hdrops.tearsDown hreleased.changes fun hgame hscript =>
    ⟨_, (hreleased.games hgame).elim id False.elim, hscript⟩

/-- The script module that a game module has may be touched when it is taken away. -/
private theorem attached_eq (world : World) (place : Nat) : world.Attached place =
    world.Affects fun script => (world.game? place).bind GameModule.script = some script := by
  funext address id
  apply propext
  constructor
  · rintro ⟨game, script, module, hgame, hscript, hrest⟩
    exact ⟨script, module, by rw [hgame]; exact hscript, hrest⟩
  · rintro ⟨script, module, htarget, hrest⟩
    obtain ⟨game, hgame, hscript⟩ := Option.bind_eq_some_iff.mp htarget
    exact ⟨game, script, module, hgame, hscript, hrest⟩

/-- With the script module of a game module goes what it has imported. -/
theorem detachGame_tearsDown (hworld : world.Sound held) (place : Nat) (wanted : Bool) :
    world.TearsDown (fun script => (world.game? place).bind GameModule.script = some script)
      (after (detachGame place wanted >>= dropAll) world) := by
  rw [after_bind]
  obtain ⟨hchanges, hsound, hallows, -, hdetached, hgames⟩ :=
    detachGame_detaches hworld place wanted
  rw [run_eq] at hchanges hsound hallows hdetached hgames
  rw [attached_eq] at hchanges hallows
  have hdrops := (dropAll_drops hsound hallows).1
  refine hdrops.tearsDown hchanges ?_
  intro other game script hgame hscript
  by_cases hplace : other = place
  · subst hplace
    rw [hdetached game hgame] at hscript
    cases hscript
  · exact ⟨game, (hgames hplace).mp hgame, hscript⟩

end Act

namespace Step

/-- Whether a step tears a script module down, or a game module with the one that it
has. -/
def TearsDown : Step → Prop
  | .onModules (.release _) => True
  | .onModules (.markDiscarded _) => True
  | .onGames (.releaseScript _) => True
  | .onFiles (.drop .game _) => True
  | _ => False

/-- The script module that a step tears down of itself. -/
def target? (session : Session) : Step → Option Nat
  | .onModules (.release module) => session.modules.get? module
  | .onModules (.markDiscarded module) => session.modules.get? module
  | .onGames (.releaseScript game) =>
    ((session.games.get? game).bind session.world.game?).bind GameModule.script
  | _ => none

end Step

namespace Session

open SessionAct

variable {session : Session} {step : Step}

/-- Whether a step tears a script module down: of itself, or together with a game
module whose last handle is dropped. -/
def Tears (session : Session) (step : Step) (script : Nat) : Prop :=
  step.target? session = some script ∨
    session.world.Loses (session.step step).2.world script

/-- A step that tears something down, by an operation on the world. -/
private theorem tearsDown_of_world {world : World}
    (hworld : (after (perform step) session).world = world) {targets : Nat → Prop}
    (htargets : ∀ script, targets script → step.target? session = some script)
    (htears : session.world.TearsDown targets world) :
    session.world.TearsDown (fun script => step.target? session = some script)
      (session.step step).2.world := by
  subst hworld
  intro hrunning
  exact World.changes_affects (fun script => Or.imp_left (htargets script))
    (htears hrunning)

/-- What a step that tears something down reaches. -/
theorem step_tearsDown (hsession : session.Sound) (hstep : step.TearsDown) :
    session.world.TearsDown (fun script => step.target? session = some script)
      (session.step step).2.world := by
  have hnothing : session.world.TearsDown (fun _ => False) session.world :=
    .of_changes .refl
  cases step with
  | onCalls step => exact hstep.elim
  | onModules step =>
      cases step with
      | markDiscarded name =>
          have hworld := after_moduleNamed_bind name (fun address => do
            act (Act.markDiscarded address)
            return Answer.nothing) session
          cases hmodule : session.modules.get? name with
          | none =>
              rw [hmodule] at hworld
              exact tearsDown_of_world (congrArg Session.world hworld)
                (fun _ => False.elim) hnothing
          | some address =>
              rw [hmodule] at hworld
              exact tearsDown_of_world (congrArg Session.world hworld)
                (fun script hscript => hmodule.trans (congrArg some hscript.symm))
                (Act.markDiscarded_tearsDown hsession address)
      | release name =>
          have hworld := after_moduleNamed_bind name (fun address => do
            let owned ← act (Act.release address)
            act (Act.dropAll owned)
            return Answer.nothing) session
          cases hmodule : session.modules.get? name with
          | none =>
              rw [hmodule] at hworld
              exact tearsDown_of_world (congrArg Session.world hworld)
                (fun _ => False.elim) hnothing
          | some address =>
              rw [hmodule] at hworld
              exact tearsDown_of_world (congrArg Session.world hworld)
                (fun script hscript => hmodule.trans (congrArg some hscript.symm))
                (Act.release_tearsDown hsession address)
      | _ => exact hstep.elim
  | onGames step =>
      cases step with
      | releaseScript name =>
          have hworld : (after (perform (.onGames (.releaseScript name))) session).world =
              (session.games.get? name).elim session.world fun place =>
                Act.after (Act.detachGame place true >>= Act.dropAll) session.world := by
            unfold perform GameStep.perform gameNamed
            dsimp only
            rw [bind_assoc, after_get_bind, after_bind, outcome_found, after_found]
            cases session.games.get? name <;> rfl
          cases hgame : session.games.get? name with
          | none =>
              rw [hgame] at hworld
              exact tearsDown_of_world hworld (fun _ => False.elim) hnothing
          | some place =>
              rw [hgame] at hworld
              refine tearsDown_of_world hworld (fun script hscript => ?_)
                (Act.detachGame_tearsDown hsession place true)
              simp only [Step.target?, hgame, Option.bind_some]
              exact hscript
      | _ => exact hstep.elim
  | onFiles step =>
      cases step with
      | drop kind name =>
          cases kind with
          | game =>
              exact tearsDown_of_world rfl (fun _ => False.elim)
                (Act.dropObjects_tearsDown hsession _)
          | _ => exact hstep.elim
      | _ => exact hstep.elim

/-- A teardown leaves every script module alone that it does not tear down, unless this
module is registered under the number of one that it does. -/
theorem teardown_leaves_alone (files : FileTree) (plan : ExecutorPlan) (steps : List Step)
    (hstep : step.TearsDown)
    (hrunning : (((begin files plan).run steps).step step).2.world.isRunning = true) :
    let session := (begin files plan).run steps
    ∀ {address module}, session.world.module? address = some module →
      ¬ session.Tears step address →
      (∀ script torn, session.Tears step script → session.world.module? script = some torn →
        session.world.executor.registry.get? torn.id ≠ some address) →
      session.world.scripts.LeavesAlone (session.step step).2.world.scripts address
        module := by
  intro session address module hmodule hspared hnumbers
  have hsession : session.Sound := begin_run_sound files plan steps
  refine Scripts.Changes.leavesAlone (step_tearsDown hsession hstep hrunning)
    hsession.scripts hrunning hmodule ?_
  rintro other id ⟨script, torn, htears, htorn, rfl, haddress⟩
  have hnumber := hnumbers script torn htears htorn
  refine ⟨?_, hnumber⟩
  rintro rfl
  rcases haddress with rfl | hregistered
  · exact hspared htears
  · exact hnumber hregistered

/-- The steps by which two script modules are made and one of them is built. -/
def neighbouringSteps : List Step :=
  [.onModules (.create (some "a") "A" "host" none),
    .onModules (.create (some "b") "B" "host" none),
    .onModules (.addSegment "b" "b.txt" 1 ""),
    .onModules (.build "b" none)]

/-- A built module is left alone when another one is released. -/
theorem teardown_leaves_alone_neighbour :
    ∃ module, (bare.run neighbouringSteps).world.module? 2 = some module ∧
      module.state = .built ∧ (bare.run neighbouringSteps).world.scripts.LeavesAlone
        ((bare.run neighbouringSteps).step (.onModules (.release "a"))).2.world.scripts 2
        module := by
  have hgames : ∀ place, (bare.run neighbouringSteps).world.game? place = none :=
    fun _ => rfl
  have htarget : (bare.run neighbouringSteps).modules.get? "a" = some 1 := rfl
  have hregistry : (bare.run neighbouringSteps).world.executor.registry.get? 1 = some 1 :=
    rfl
  have hid : ((bare.run neighbouringSteps).world.module? 1).map ScriptModule.id = some 1 :=
    rfl
  have htorn : ∀ script, (bare.run neighbouringSteps).Tears (.onModules (.release "a"))
      script → script = 1 := by
    rintro script (hscript | ⟨place, game, hgame, -⟩)
    · exact (Option.some.inj (htarget.symm.trans hscript)).symm
    · rw [hgames] at hgame
      cases hgame
  have hstep : Step.TearsDown (.onModules (.release "a")) := trivial
  refine ⟨_, rfl, rfl, teardown_leaves_alone ⟨.directory [], []⟩
    ⟨none, none, none, none, []⟩ neighbouringSteps hstep rfl rfl (fun htears => ?_) ?_⟩
  · exact absurd (htorn 2 htears) (by decide)
  · intro script torn htears hmodule hregistered
    cases htorn script htears
    have hone : torn.id = 1 := by
      have hmodule' : (bare.run neighbouringSteps).world.module? 1 = some torn := hmodule
      rw [hmodule'] at hid
      exact Option.some.inj hid
    rw [hone] at hregistered
    cases hregistry.symm.trans hregistered

/-- A session that follows the changes of files, with one file. -/
def watchful : Session :=
  begin ⟨.directory [("b.rhai", .file (.text ""))], []⟩
    ⟨none, none, some true, none, []⟩

/-- The steps by which a module takes over the number of another one and is built from
a file. -/
def overtakingSteps : List Step :=
  [.onModules (.create (some "a") "A" "host" (some 7)),
    .onModules (.create (some "b") "B" "host" (some 7)),
    .onModules (.addFile "b" ⟨"/b.rhai"⟩),
    .onModules (.build "b" none)]

/-- Releasing a module ends the registration of files of another one that has taken its
number over and remains built. -/
theorem teardown_reaches_successor :
    ((watchful.run overtakingSteps).step (.onFiles (.isWatching 7))).1.answer = .flag true ∧
      ((watchful.run (overtakingSteps ++ [.onModules (.release "a")])).step
        (.onFiles (.isWatching 7))).1.answer = .flag false ∧
      ((watchful.run (overtakingSteps ++ [.onModules (.release "a")])).world.module? 2).map
        ScriptModule.state = some .built :=
  ⟨rfl, rfl, rfl⟩

end Session

end ScriptHost
