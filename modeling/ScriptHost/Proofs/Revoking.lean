import ScriptHost.Proofs.Turns
import ScriptHost.Proofs.Returning

/-!
Compiled scripts that are taken out of the executor while a module still holds
them. Whoever looks something up in such a module next finds nothing, and the
module is discarded for good. A reload is the exception: it builds the module
again, under its next internal name.
-/

namespace ScriptHost

namespace Scripts

/-- A script module that cannot be used as it is: it is discarded, or it is built
and its compiled script is not entered any more. -/
def Unusable (scripts : Scripts) (module : ScriptModule) : Prop :=
  module.state = .discarded ∨
    module.state = .built ∧ scripts.compiled.get? module.internalName = none

/-- The module at an address has been reloaded at least `reloads` times, and it
cannot be used unless that has happened once more. -/
structure UnusableSince (reloads address : Nat) (scripts : Scripts) : Prop where
  below : address < scripts.next
  reloaded : ∀ {module}, scripts.module? address = some module → reloads ≤ module.reloads
  unusable : ∀ {module}, scripts.module? address = some module →
    module.reloads = reloads → scripts.Unusable module

variable {may : Touch → Prop} {before after : Scripts} {address reloads : Nat}

/-- No transition enters anything for a module that cannot be used. -/
theorem Change.unusableSince (hchange : Change may before after)
    (hconsistent : before.Consistent) (hbefore : before.UnusableSince reloads address) :
    after.UnusableSince reloads address where
  below := Nat.lt_of_lt_of_le hbefore.below hchange.next_le
  reloaded := by
    intro module hmodule
    rcases hchange.turn hmodule with ⟨earlier, hearlier, hturn⟩ | ⟨hnext, -, -, -, -⟩
    · exact Nat.le_trans (hbefore.reloaded hearlier) hturn.reloads_le
    · exact absurd hbefore.below (by omega)
  unusable := by
    intro module hmodule hreloads
    rcases hchange.turn hmodule with ⟨earlier, hearlier, hturn⟩ | ⟨hnext, -, -, -, -⟩
    · have hleast := hbefore.reloaded hearlier
      have hmost := hturn.reloads_le
      rcases hbefore.unusable hearlier (by omega) with hdiscarded | ⟨hbuilt, hgone⟩
      · exact .inl (hturn.discarded hdiscarded)
      · rcases hturn.built hbuilt with hdiscarded | hreloaded | ⟨hstill, hname, -⟩
        · exact .inl hdiscarded
        · omega
        · refine .inr ⟨hstill, ?_⟩
          rw [hname, Option.eq_none_iff_forall_ne_some]
          intro compiled hentered
          rcases hchange.entry hentered with hold | ⟨other, ready, hother, hready, hrest⟩
          · rw [hgone] at hold
            cases hold
          · -- Another module would have to be built under the same internal name.
            obtain ⟨hrunning, hnamed, -, hafter⟩ := hrest
            have hsame := hconsistent.owner_unique hrunning hearlier hother
              (by simp [hbuilt]) (by simp [hready]) hnamed.symm
            subst hsame
            rw [hearlier] at hother
            cases hother
            simp [hbuilt] at hready
    · exact absurd hbefore.below (by omega)

/-- Whatever happens, a module that cannot be used cannot be used until it has been
reloaded. -/
theorem Changes.unusableSince (hchanges : Changes may before after)
    (hconsistent : before.Consistent) (hbefore : before.UnusableSince reloads address) :
    after.UnusableSince reloads address :=
  hchanges.keeps (fun hconsistent hkept hchange =>
    hchange.unusableSince hconsistent hkept) hconsistent hbefore

/-- What is discarded remains so. -/
theorem Changes.discarded (hchanges : Changes may before after)
    (hbelow : address < before.next)
    (hbefore : ∀ {module}, before.module? address = some module →
      module.state = .discarded) :
    ∀ {module}, after.module? address = some module → module.state = .discarded := by
  induction hchanges with
  | refl => exact hbefore
  | tail hearlier hchange ih =>
      intro module hmodule
      rcases hchange.turn hmodule with ⟨earlier, hfound, hturn⟩ | ⟨hnext, -, -, -, -⟩
      · exact hturn.discarded (ih hfound)
      · exact absurd (Changes.next_le hearlier) (by omega)

end Scripts

namespace Act

open World

variable {held : Holdings} {world : World} {address : Nat} {module : ScriptModule}

/-- A module that cannot be used is discarded by whoever tries to build it. -/
theorem build_of_unusable (hworld : world.Sound held)
    (hmodule : world.module? address = some module)
    (hunusable : world.scripts.Unusable module) :
    result (build address) world = none ∧
      ∃ used, (after (build address) world).module? address = some used ∧
        used.state = .discarded := by
  rcases hunusable with hdiscarded | ⟨hbuilt, hgone⟩
  · obtain ⟨hnone, hafter⟩ := build_of_other hmodule (by simp [hdiscarded])
      (by simp [hdiscarded])
    exact ⟨hnone, module, by rw [hafter]; exact hmodule, hdiscarded⟩
  · have hentered : world.executor.isCompiled module.internalName = false := by
      rw [Executor.isCompiled, Bool.eq_false_iff]
      intro hhas
      obtain ⟨compiled, hget⟩ := (Table.has_eq_true_iff _ _).mp hhas
      exact absurd (hgone.symm.trans hget) (by simp)
    obtain ⟨hnone, hafter⟩ := build_of_invalid hmodule hbuilt (.inr hentered)
    refine ⟨hnone, module.discarded, ?_, rfl⟩
    rw [hafter]
    exact discard_module? hworld hmodule _

theorem listenerIndex_of_unusable (hworld : world.Sound held)
    (hmodule : world.module? address = some module)
    (hunusable : world.scripts.Unusable module) :
    ∃ used, (after (listenerIndex address) world).module? address = some used ∧
      used.state = .discarded := by
  obtain ⟨hnone, hused⟩ := build_of_unusable hworld hmodule hunusable
  unfold listenerIndex
  rw [after_bind, hnone]
  exact hused

theorem function_of_unusable (hworld : world.Sound held)
    (hmodule : world.module? address = some module)
    (hunusable : world.scripts.Unusable module) (hrunning : world.isRunning = true)
    (name : String) (count : Nat) :
    ∃ used, (after (function address name count) world).module? address = some used ∧
      used.state = .discarded := by
  obtain ⟨hnone, used, hused, hdiscarded⟩ := build_of_unusable hworld hmodule hunusable
  refine ⟨used, ?_, hdiscarded⟩
  unfold function
  rw [after_get_bind, if_neg (by simp [hrunning]), after_bind, hnone]
  dsimp only
  rw [after_get_bind, hused]
  exact hused

end Act

/-! ### In a session -/

namespace SessionAct

variable {α β : Type} {session : Session}

/-- A part of a step that leaves the world as it is. -/
def LeavesWorld (part : SessionAct α) : Prop :=
  ∀ session, (after part session).world = session.world

theorem LeavesWorld.pure (value : α) : LeavesWorld (Pure.pure value : SessionAct α) :=
  fun _ => rfl

theorem LeavesWorld.bind {part : SessionAct α} {next : α → SessionAct β}
    (hpart : LeavesWorld part) (hnext : ∀ value, LeavesWorld (next value)) :
    LeavesWorld (part >>= next) := by
  intro session
  rw [after_bind]
  split
  · exact (hnext _ _).trans (hpart session)
  · exact hpart session

theorem bindCompiled_leavesWorld (name : Option String) (compiled : Option Compiled) :
    LeavesWorld (bindCompiled name compiled) := by
  intro session
  unfold bindCompiled
  split <;> rfl

theorem bindFunction_leavesWorld (name : Option String) (function : FunctionRef) :
    LeavesWorld (bindFunction name function) := by
  intro session
  unfold bindFunction
  split <;> rfl

/-- An operation on a named module, and something else that leaves the world as
that operation has left it. -/
theorem after_named_act_bind {name : String} {address : Nat}
    (hnamed : session.modules.get? name = some address) (operation : Nat → Act α)
    {next : α → SessionAct β} (hnext : ∀ value, LeavesWorld (next value)) :
    (after (do let address ← moduleNamed name
               let value ← act (operation address)
               next value) session).world =
      Act.after (operation address) session.world := by
  rw [after_moduleNamed_bind, hnamed]
  dsimp only
  rw [after_bind, outcome_act, after_act]
  exact hnext _ _

end SessionAct

namespace ModuleStep

open SessionAct

/-- A step that looks something up in the module of a name, which has to be built
for that. Functions are looked for while the executor is there. -/
def LooksUp (name : String) (running : Bool) : ModuleStep → Prop
  | .build module _ => module = name
  | .listeners module => module = name
  | .listenerCount module => module = name
  | .findListener module _ _ _ => module = name
  | .hasListener module _ _ => module = name
  | .function module _ _ _ => module = name ∧ running = true
  | _ => False

/-- Looking something up in a module that cannot be used discards it. -/
theorem LooksUp.discards {step : ModuleStep} {name : String} {session : Session}
    (hlooks : step.LooksUp name session.world.isRunning) (hsession : session.Sound)
    {address : Nat} (hnamed : session.modules.get? name = some address)
    {module : ScriptModule} (hmodule : session.world.module? address = some module)
    (hunusable : session.world.scripts.Unusable module) :
    ∃ used, (after step.perform session).world.module? address = some used ∧
      used.state = .discarded := by
  have hbuild := (Act.build_of_unusable hsession hmodule hunusable).2
  have hindex := Act.listenerIndex_of_unusable hsession hmodule hunusable
  cases step with
  | build other target =>
      cases hlooks
      unfold perform buildAnswer
      rw [after_named_act_bind hnamed Act.build fun compiled =>
        .bind (bindCompiled_leavesWorld target compiled) fun _ => by
          cases compiled <;> exact .pure _]
      exact hbuild
  | function other function count target =>
      obtain ⟨rfl, hrunning⟩ := hlooks
      unfold perform functionAnswer
      rw [after_named_act_bind hnamed (Act.function · function count) fun found => by
        cases found with
        | error cause => exact .pure _
        | ok found => exact .bind (bindFunction_leavesWorld target found) fun _ => .pure _]
      exact Act.function_of_unusable hsession hmodule hunusable hrunning function count
  | listeners other =>
      cases hlooks
      unfold perform
      rw [after_named_act_bind hnamed Act.listeners fun _ => .pure _]
      exact hindex
  | listenerCount other =>
      cases hlooks
      unfold perform
      rw [after_named_act_bind hnamed Act.listeners fun _ => .pure _]
      exact hindex
  | findListener other listener genericType target =>
      cases hlooks
      unfold perform findAnswer
      rw [after_named_act_bind hnamed (Act.findListener · listener genericType)
        fun entry => by
          cases entry with
          | none => exact .pure _
          | some entry =>
              exact .bind (bindFunction_leavesWorld target entry.function) fun _ => .pure _]
      exact hindex
  | hasListener other listener genericType =>
      cases hlooks
      unfold perform
      rw [after_named_act_bind hnamed (Act.findListener · listener genericType)
        fun _ => .pure _]
      exact hindex
  | _ => exact hlooks.elim

end ModuleStep

namespace Session

open SessionAct

variable {session : Session} {name : String} {address : Nat} {module : ScriptModule}

/-- What a reload of a named module answers and makes of the script modules. -/
theorem reload_step (hsession : session.Sound)
    (hnamed : session.modules.get? name = some address) :
    (session.step (.onModules (.reload name))).1.answer =
        .flag (Act.result (Act.reload address) session.world).1 ∧
      (session.step (.onModules (.reload name))).2.world.scripts =
        (Act.after (Act.reload address) session.world).scripts := by
  have hperform : perform (.onModules (.reload name)) = (do
      let address ← moduleNamed name
      let reloaded ← actDropping (Act.reload address)
      return .flag reloaded) := rfl
  rw [step_answer, step_scripts, hperform, outcome_moduleNamed_bind,
    after_moduleNamed_bind, hnamed]
  exact ⟨rfl, (Act.reload_drop_quiet hsession.objects address).scripts⟩

/-- What taking a compiled script out answers and makes of the script modules. -/
theorem discardCompiled_step (session : Session) (internalName : String)
    (hrevoked : (session.step (.onModules
      (.discardCompiled internalName))).1.answer = .flag true) :
    session.world.executor.isCompiled internalName = true ∧
      (session.step (.onModules (.discardCompiled internalName))).2.world.scripts =
        session.world.scripts.remove internalName := by
  have hperform : perform (.onModules (.discardCompiled internalName)) = (do
      let _ ← needExecutor
      let found ← act (Act.discardCompiled internalName)
      return .flag found) := rfl
  rw [step_answer, hperform, outcome_needExecutor_bind] at hrevoked
  rw [step_scripts, hperform, after_needExecutor_bind]
  by_cases hexecutor : session.hasExecutor = true
  · rw [if_pos hexecutor] at hrevoked ⊢
    have hanswer : Answer.flag (session.world.executor.isCompiled internalName) =
        .flag true := hrevoked
    exact ⟨by injection hanswer, rfl⟩
  · rw [if_neg hexecutor] at hrevoked
    cases hrevoked

/-- The module at an address is discarded, if it still lives, and is not reloaded. -/
def IsFinished (session : Session) (address : Nat) : Prop :=
  ∀ module, session.world.module? address = some module →
    module.state = .discarded ∧
      ∀ name, session.modules.get? name = some address →
        (session.step (.onModules (.reload name))).1.answer = .flag false

/-- Whatever looks something up in the module of a name discards it for good. -/
def DiscardsAtUse (session : Session) (name : String) (address : Nat) : Prop :=
  ∀ use : ModuleStep, use.LooksUp name session.world.isRunning →
    (∃ used, (session.step (.onModules use)).2.world.module? address = some used ∧
      used.state = .discarded) ∧
    ∀ rest, ((session.step (.onModules use)).2.run rest).IsFinished address

/-- A module that is discarded is so for good. -/
theorem isFinished_of_discarded (hsession : session.Sound)
    (hmodule : session.world.module? address = some module)
    (hdiscarded : module.state = .discarded) (rest : List Step) :
    (session.run rest).IsFinished address := by
  have hbefore : ∀ {found}, session.world.scripts.module? address = some found →
      found.state = .discarded := by
    intro found hfound
    cases hmodule.symm.trans hfound
    exact hdiscarded
  intro found hfound
  have hstill : found.state = .discarded := (run_changes hsession rest).discarded
    (hsession.scripts.below hmodule) hbefore hfound
  refine ⟨hstill, fun name hnamed => ?_⟩
  rw [(reload_step (run_sound hsession rest) hnamed).1,
    (Act.reload_of_other hfound (by simp [hstill])).1]

/-- Taking a compiled script out makes the module that has its internal name
unusable, until that is reloaded. -/
theorem unusableSince_of_revoked (hsession : session.Sound)
    (hmodule : session.world.module? address = some module)
    (hrevoked : (session.step (.onModules
      (.discardCompiled module.internalName))).1.answer = .flag true) :
    (session.step (.onModules
      (.discardCompiled module.internalName))).2.world.scripts.UnusableSince
        module.reloads address := by
  obtain ⟨hentered, hscripts⟩ := session.discardCompiled_step _ hrevoked
  obtain ⟨compiled, hget⟩ := (Table.has_eq_true_iff _ _).mp hentered
  rw [hscripts]
  have honly : ∀ {found}, session.world.scripts.module? address = some found →
      found = module := fun hfound => Option.some.inj (hfound.symm.trans hmodule)
  refine ⟨hsession.scripts.below hmodule, fun hfound => ?_, fun hfound _ => ?_⟩
  · exact Nat.le_of_eq (congrArg ScriptModule.reloads (honly hfound).symm)
  · rw [honly hfound]
    by_cases hstate : module.state = .discarded
    · exact .inl hstate
    · have hcompiled := hsession.scripts.entered_eq hmodule hstate hget
      refine .inr ⟨(hsession.scripts.wellFormed hmodule).built.mp (by simp [hcompiled]), ?_⟩
      simp [Scripts.remove]

/-- Once its compiled script has been taken out, a module is discarded for good as
soon as something is looked up in it. If it is reloaded before that, it is built
again from the present texts of its files, or has failed. -/
theorem revoked_until_reloaded (files : FileTree) (plan : ExecutorPlan)
    (before between : List Step) {module found : ScriptModule}
    (hmodule : ((begin files plan).run before).world.module? address = some module)
    (hrevoked : (((begin files plan).run before).step (.onModules
      (.discardCompiled module.internalName))).1.answer = .flag true)
    (hfound : ((((begin files plan).run before).step (.onModules
      (.discardCompiled module.internalName))).2.run between).world.module? address =
        some found)
    (hreloads : found.reloads = module.reloads) :
    let later := (((begin files plan).run before).step (.onModules
      (.discardCompiled module.internalName))).2.run between
    (found.state = .built ∨ found.state = .discarded) ∧
    ∀ name, later.modules.get? name = some address →
      later.DiscardsAtUse name address ∧
      (found.state = .discarded → ∀ rest, (later.run rest).IsFinished address) ∧
      (found.state = .built → later.world.isRunning = true →
        ∃ reloaded, (later.step (.onModules (.reload name))).2.world.module? address =
            some reloaded ∧
          found.Reloaded later.world.executor later.world.files reloaded ∧
          ((later.step (.onModules (.reload name))).1.answer = .flag true ↔
            reloaded.state = .built)) := by
  intro later
  have hreached := begin_run_sound files plan before
  have hstep := (step_advances hreached (.onModules
    (.discardCompiled module.internalName))).sound
  have hlater : later.Sound := run_sound hstep between
  have hsince := (run_changes hstep between).unusableSince hstep.scripts
    (unusableSince_of_revoked hreached hmodule hrevoked)
  have hunusable : later.world.scripts.Unusable found := hsince.unusable hfound hreloads
  refine ⟨?_, fun name hnamed => ⟨fun use huse => ?_, fun hdiscarded rest => ?_,
    fun hbuilt hrunning => ?_⟩⟩
  · rcases hunusable with hdiscarded | ⟨hbuilt, -⟩
    · exact .inr hdiscarded
    · exact .inl hbuilt
  · obtain ⟨used, hused, hdiscarded⟩ := huse.discards hlater hnamed hfound hunusable
    exact ⟨⟨used, hused, hdiscarded⟩, isFinished_of_discarded
      (step_advances hlater (.onModules use)).sound hused hdiscarded⟩
  · exact isFinished_of_discarded hlater hfound hdiscarded rest
  · obtain ⟨reloaded, hreloaded, hspec, hresult⟩ :=
      Act.reload_spec hlater hfound hbuilt hrunning
    obtain ⟨hanswer, hscripts⟩ := reload_step hlater hnamed
    refine ⟨reloaded, (congrFun (congrArg Scripts.module? hscripts) address).trans
      hreloaded, hspec, ?_⟩
    rw [hanswer, ← hresult]
    exact ⟨fun heq => by injection heq, fun heq => by rw [heq]⟩

/-- The steps by which a module without code is built. -/
def buildingSteps : List Step :=
  [.onModules (.create (some "m") "M" "host" none),
    .onModules (.addSegment "m" "m.txt" 1 ""),
    .onModules (.build "m" none)]

/-- A module that has just been built can be revoked, and then looking something up
in it discards it. -/
theorem revoked_until_reloaded_bare :
    ∃ found, ((bare.run buildingSteps).step (.onModules (.discardCompiled "M-1"))).2.world.module?
        1 = some found ∧ found.state = .built ∧
      ((bare.run buildingSteps).step (.onModules (.discardCompiled "M-1"))).2.DiscardsAtUse
        "m" 1 := by
  have hlives : ((bare.run buildingSteps).world.module? 1).isSome = true := by
    decide +kernel
  obtain ⟨module, hmodule⟩ := Option.isSome_iff_exists.mp hlives
  have hname : ((bare.run buildingSteps).world.module? 1).map ScriptModule.internalName =
      some "M-1" := by decide +kernel
  rw [hmodule, Option.map_some, Option.some.injEq] at hname
  have hstill : (((bare.run buildingSteps).step
      (.onModules (.discardCompiled "M-1"))).2.world.module? 1).map (fun found =>
        (found.state, found.reloads)) = some (.built, 0) := by decide +kernel
  have hfirst : ((bare.run buildingSteps).world.module? 1).map ScriptModule.reloads =
      some 0 := by decide +kernel
  rw [hmodule, Option.map_some, Option.some.injEq] at hfirst
  obtain ⟨found, hfound, hstate⟩ := Option.map_eq_some_iff.mp hstill
  injection hstate with hbuilt hreloads
  have hnamed : (bare.run buildingSteps).modules.get? "m" = some 1 := by decide +kernel
  refine ⟨found, hfound, hbuilt, ?_⟩
  have hrevoked := revoked_until_reloaded ⟨.directory [], []⟩ ⟨none, none, none, none, []⟩
    buildingSteps [] hmodule (by rw [hname]; rfl) (by rw [hname]; exact hfound)
    (hreloads.trans hfirst.symm)
  rw [hname] at hrevoked
  exact (hrevoked.2 "m" hnamed).1

/-- A reload builds a module again whose compiled script has been taken out. -/
theorem revoked_reload_builds :
    ((bare.run (buildingSteps ++ [.onModules (.discardCompiled "M-1")])).step
        (.onModules (.reload "m"))).1.answer = .flag true ∧
      (((bare.run (buildingSteps ++ [.onModules (.discardCompiled "M-1")])).step
        (.onModules (.reload "m"))).2.world.module? 1).map ScriptModule.state =
          some .built :=
  ⟨rfl, by decide +kernel⟩

end Session

end ScriptHost
