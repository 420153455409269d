import ScriptHost.Proofs.Reachable

/-!
What one transition makes of one script module and of one entry. A module takes a
turn at most; an entry that is there afterwards was there before, or is that of
the module which was built.
-/

namespace ScriptHost

/-- What one transition can make of a module that lives on. Modules are built while
the executor is there. -/
inductive ScriptModule.Turn (running : Bool) : ScriptModule → ScriptModule → Prop
  | stay {module : ScriptModule} : Turn running module module
  | edit {module edited : ScriptModule} (hedit : module.Edit edited) :
      Turn running module edited
  | build {module : ScriptModule} (compiled : Compiled)
      (hready : module.state = .readyToBuild) (hrunning : running = true) :
      Turn running module (module.withBuild compiled)
  | discard {module : ScriptModule} : Turn running module module.discarded
  | renew {module : ScriptModule} (tree : FileTree) (hbuilt : module.state = .built) :
      Turn running module (module.renewed tree)

namespace Scripts

/-- A module that a transition makes, under a number that nobody uses. -/
structure Makes (may : Touch → Prop) (before : Scripts) (address : Nat)
    (module : ScriptModule) : Prop where
  next : address = before.next
  fresh : ∃ source, module = .create module.id module.name source
  vacant : before.IsVacant module.id
  running : before.running = true
  number : module.id = before.counter ∨ may (.number module.name module.id)

theorem Makes.state {may : Touch → Prop} {before : Scripts} {address : Nat}
    {module : ScriptModule} (hmakes : before.Makes may address module) :
    module.state = .empty ∧ module.compiled = none := by
  obtain ⟨source, hfresh⟩ := hmakes.fresh
  rw [hfresh]
  exact ⟨rfl, rfl⟩

variable {may : Touch → Prop} {before after : Scripts}

/-- A module that lives afterwards has lived before and taken a turn, or it is the
one that was made. -/
theorem Change.turn (hchange : Change may before after) {address : Nat}
    {module : ScriptModule} (hmodule : after.module? address = some module) :
    (∃ earlier, before.module? address = some earlier ∧
        earlier.Turn before.running module) ∨
      before.Makes may address module := by
  have hsame : before.module? address = some module →
      ∃ earlier, before.module? address = some earlier ∧
        earlier.Turn before.running module :=
    fun hfound => ⟨module, hfound, .stay⟩
  have hput : ∀ {target : Nat} {old changed : ScriptModule},
      before.module? target = some old → old.Turn before.running changed →
        (before.put target (some changed)).module? address = some module →
          ∃ earlier, before.module? address = some earlier ∧
            earlier.Turn before.running module := by
    intro target old changed hold hturn hfound
    rw [module?_put] at hfound
    split at hfound
    · rename_i htarget
      cases hfound
      exact ⟨old, htarget ▸ hold, hturn⟩
    · exact hsame hfound
  cases hchange with
  | edit edited hold _ hedit => exact .inl (hput hold (.edit hedit) hmodule)
  | build compiled hold _ hready hrunning _ =>
      exact .inl (hput hold (.build compiled hready hrunning) hmodule)
  | discard hold _ =>
      rw [module?_leave] at hmodule
      exact .inl (hput hold .discard hmodule)
  | renew tree hold _ hbuilt =>
      rw [module?_leave] at hmodule
      exact .inl (hput hold (.renew tree hbuilt) hmodule)
  | vanish _ _ _ =>
      rw [module?_leave, module?_put] at hmodule
      split at hmodule
      · cases hmodule
      · exact .inl (hsame hmodule)
  | create name source id counter _ _ hnumber hrunning hvacant =>
      simp only [Scripts.create, put] at hmodule
      split at hmodule
      · rename_i hnext
        cases hmodule
        exact .inr ⟨hnext.symm, ⟨source, rfl⟩, hvacant, hrunning,
          hnumber.imp And.left And.left⟩
      · exact .inl (hsame hmodule)
  | _ => exact .inl (hsame hmodule)

/-- What is entered afterwards was entered before, or it is what a module that was
ready has been built to. -/
theorem Change.entry (hchange : Change may before after) {name : String}
    {compiled : Compiled} (hentered : after.compiled.get? name = some compiled) :
    before.compiled.get? name = some compiled ∨
      ∃ address module, before.module? address = some module ∧
        module.state = .readyToBuild ∧ before.running = true ∧
        module.internalName = name ∧ compiled.internalName = name ∧
        after.module? address = some (module.withBuild compiled) := by
  have hleave : ∀ (scripts : Scripts) (left : Option Compiled),
      (scripts.leave left).compiled.get? name = some compiled →
        scripts.compiled.get? name = some compiled := by
    intro scripts left hfound
    rw [get?_compiled_leave] at hfound
    split at hfound
    · cases hfound
    · exact hfound
  cases hchange with
  | @build address module built hold _ hready hrunning hname =>
      simp only [enter, Table.get?_set] at hentered
      split at hentered
      · rename_i hsame
        cases hentered
        exact .inr ⟨address, module, hold, hready, hrunning, hname ▸ hsame, hsame,
          module?_put_self _ _ _⟩
      · exact .inl hentered
  | discard _ _ => exact .inl (hleave (before.put _ _) _ hentered)
  | renew _ _ _ _ => exact .inl (hleave (before.put _ _) _ hentered)
  | vanish _ _ _ => exact .inl (hleave (before.put _ _) _ hentered)
  | revoke internalName _ =>
      simp only [remove, Table.get?_erase] at hentered
      split at hentered
      · cases hentered
      · exact .inl hentered
  | close => cases hentered
  | _ => exact .inl hentered

/-- A transition leaves the executor there, or it is gone and nothing else about
modules is changed. -/
theorem Change.running_or_close (hchange : Change may before after) :
    after.running = before.running ∨ after = before.close := by
  cases hchange with
  | discard => exact .inl (running_leave _ _)
  | renew => exact .inl (running_leave _ _)
  | vanish => exact .inl (running_leave _ _)
  | close => exact .inr rfl
  | _ => exact .inl rfl

end Scripts

namespace ScriptModule

variable {running : Bool} {module turned : ScriptModule}

/-- A module keeps its number and its name. -/
theorem Turn.identity (hturn : module.Turn running turned) :
    turned.id = module.id ∧ turned.name = module.name := by
  cases hturn with
  | edit hedit => exact ⟨hedit.id, hedit.name⟩
  | _ => exact ⟨rfl, rfl⟩

/-- What is discarded remains so. -/
theorem Turn.discarded (hturn : module.Turn running turned)
    (hdiscarded : module.state = .discarded) : turned.state = .discarded := by
  cases hturn with
  | stay => exact hdiscarded
  | edit hedit =>
      rcases hedit.state with hsame | ⟨hbefore, -⟩ | ⟨hbefore, -⟩
      · exact hsame.trans hdiscarded
      · simp [hdiscarded] at hbefore
      · simp [hdiscarded] at hbefore
  | build compiled hready => simp [hdiscarded] at hready
  | discard => rfl
  | renew tree hbuilt => simp [hdiscarded] at hbuilt

/-- A built module remains as it is built until it is discarded or reloaded. -/
theorem Turn.built (hturn : module.Turn running turned)
    (hbuilt : module.state = .built) :
    turned.state = .discarded ∨ turned.reloads = module.reloads + 1 ∨
      turned.state = .built ∧ turned.internalName = module.internalName ∧
        turned.reloads = module.reloads := by
  cases hturn with
  | stay => exact .inr (.inr ⟨hbuilt, rfl, rfl⟩)
  | edit hedit =>
      rcases hedit.state with hsame | ⟨hbefore, -⟩ | ⟨hbefore, -⟩
      · exact .inr (.inr ⟨hsame.trans hbuilt, hedit.internalName, hedit.reloads⟩)
      · simp [hbuilt] at hbefore
      · simp [hbuilt] at hbefore
  | build compiled hready => simp [hbuilt] at hready
  | discard => exact .inl rfl
  | renew tree _ => exact .inr (.inl rfl)

/-- What has failed remains so until it is discarded. -/
theorem Turn.failed (hturn : module.Turn running turned)
    (hfailed : module.state = .failed) :
    turned.state = .discarded ∨
      turned.state = .failed ∧ turned.reloads = module.reloads := by
  cases hturn with
  | stay => exact .inr ⟨hfailed, rfl⟩
  | edit hedit =>
      rcases hedit.state with hsame | ⟨hbefore, -⟩ | ⟨hbefore, -⟩
      · exact .inr ⟨hsame.trans hfailed, hedit.reloads⟩
      · simp [hfailed] at hbefore
      · simp [hfailed] at hbefore
  | build compiled hready => simp [hfailed] at hready
  | discard => exact .inl rfl
  | renew tree hbuilt => simp [hfailed] at hbuilt

theorem Turn.reloads_le (hturn : module.Turn running turned) :
    module.reloads ≤ turned.reloads := by
  cases hturn with
  | edit hedit => exact Nat.le_of_eq hedit.reloads.symm
  | renew tree _ => exact Nat.le_succ _
  | _ => exact Nat.le_refl _

/-- A module that has a compiled script had it before, or has just been built. -/
theorem Turn.compiled (hturn : module.Turn running turned) {compiled : Compiled}
    (hcompiled : turned.compiled = some compiled) :
    module.compiled = some compiled ∨ module.state = .readyToBuild ∧ running = true ∧
      turned = module.withBuild compiled := by
  cases hturn with
  | stay => exact .inl hcompiled
  | edit hedit => exact .inl (hedit.compiled ▸ hcompiled)
  | build built hready hrunning =>
      cases hcompiled
      exact .inr ⟨hready, hrunning, rfl⟩
  | discard => cases hcompiled
  | renew tree _ => cases hcompiled

end ScriptModule

/-! ### What all modules have -/

section AllModules

variable {has : ScriptModule → Prop}

/-- What new modules have and every turn keeps, all modules have after a
transition. -/
theorem Scripts.Change.modules {may : Touch → Prop} {before after : Scripts}
    (hnew : ∀ id name source, has (.create id name source))
    (hturn : ∀ running module turned, has module →
      ScriptModule.Turn running module turned → has turned)
    (hchange : Change may before after)
    (hbefore : ∀ address module, before.module? address = some module → has module) :
    ∀ address module, after.module? address = some module → has module := by
  intro address module hmodule
  rcases hchange.turn hmodule with ⟨earlier, hearlier, hturned⟩ | hmakes
  · exact hturn _ _ _ (hbefore address earlier hearlier) hturned
  · obtain ⟨source, hfresh⟩ := hmakes.fresh
    rw [hfresh]
    exact hnew _ _ source

theorem Scripts.Changes.modules {may : Touch → Prop} {before after : Scripts}
    (hnew : ∀ id name source, has (.create id name source))
    (hturn : ∀ running module turned, has module →
      ScriptModule.Turn running module turned → has turned)
    (hchanges : Changes may before after)
    (hbefore : ∀ address module, before.module? address = some module → has module) :
    ∀ address module, after.module? address = some module → has module := by
  induction hchanges with
  | refl => exact hbefore
  | tail _ hchange ih => exact hchange.modules hnew hturn ih

/-- What new modules have and every turn keeps, all modules have in every session
that can be reached. -/
theorem Session.run_modules (hnew : ∀ id name source, has (.create id name source))
    (hturn : ∀ running module turned, has module →
      ScriptModule.Turn running module turned → has turned)
    (files : FileTree) (plan : ExecutorPlan) (steps : List Step) :
    ∀ address module, ((begin files plan).run steps).world.module? address = some module →
      has module := by
  refine (run_changes (begin_sound files plan) steps).modules hnew hturn ?_
  intro address module hmodule
  cases hmodule

end AllModules

end ScriptHost
