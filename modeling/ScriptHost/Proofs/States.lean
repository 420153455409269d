import ScriptHost.Proofs.Following
import ScriptHost.Proofs.Revoking

/-!
The states of script modules. Every operation on a script module moves the states along
the build: from `empty` to `readyToBuild` and from there to `built` or `failed`. Only a
reload leaves a built module failed, and what has failed is at most discarded. The other
modules, and whatever goes when handles are dropped, are at most discarded.
-/

namespace ScriptHost

namespace BuildState

/-- The moves that one operation makes with the state of a script module. -/
inductive Moves (reloading : Prop) : BuildState → BuildState → Prop
  | stay (state : BuildState) : Moves reloading state state
  | fill : Moves reloading .empty .readyToBuild
  | build : Moves reloading .readyToBuild .built
  | fail : Moves reloading .readyToBuild .failed
  | refail (hreloading : reloading) : Moves reloading .built .failed
  | discard (state : BuildState) : Moves reloading state .discarded

/-- A state that stays or ends in `discarded`. -/
def Fades (before after : BuildState) : Prop :=
  after = before ∨ after = .discarded

variable {reloading : Prop} {first second third : BuildState}

theorem Fades.moves (hfades : first.Fades second) : first.Moves reloading second := by
  rcases hfades with rfl | rfl
  · exact .stay _
  · exact .discard _

theorem Moves.fades (hmoves : first.Moves reloading second) (hfades : second.Fades third) :
    first.Moves reloading third := by
  rcases hfades with rfl | rfl
  · exact hmoves
  · exact .discard _

theorem Fades.trans (hfirst : first.Fades second) (hsecond : second.Fades third) :
    first.Fades third := by
  rcases hsecond with rfl | rfl
  · exact hfirst
  · exact .inr rfl

theorem Fades.isTerminal (hfades : first.Fades second) (hfirst : first.isTerminal = true) :
    second.isTerminal = true := by
  rcases hfades with rfl | rfl
  · exact hfirst
  · rfl

end BuildState

/-- What has failed or is discarded takes no other turn than being discarded. -/
theorem ScriptModule.Turn.fades {running : Bool} {module turned : ScriptModule}
    (hturn : module.Turn running turned) (hended : module.state.isTerminal = true) :
    module.state.Fades turned.state := by
  cases hstate : module.state with
  | failed =>
      rcases hturn.failed hstate with hdiscarded | ⟨hfailed, -⟩
      · exact .inr hdiscarded
      · exact .inl hfailed
  | discarded => exact .inr (hturn.discarded hstate)
  | _ =>
      rw [hstate] at hended
      cases hended

namespace Scripts

variable {may : Touch → Prop} {reloading : Prop} {before middle after : Scripts}
  {address : Nat}

/-- The state of every module that lives before and after makes one move. -/
def Moves (reloading : Prop) (before after : Scripts) : Prop :=
  ∀ address earlier later, before.module? address = some earlier →
    after.module? address = some later → earlier.state.Moves reloading later.state

/-- A transition that does not build the module at an address leaves its state or
discards it. -/
theorem Change.fades (hchange : Change may before after) (hstill : ¬ may (.watch address))
    (hbelow : address < before.next) {later : ScriptModule}
    (hlater : after.module? address = some later) :
    ∃ earlier, before.module? address = some earlier ∧
      earlier.state.Fades later.state := by
  have hsame : before.module? address = some later →
      ∃ earlier, before.module? address = some earlier ∧
        earlier.state.Fades later.state :=
    fun hfound => ⟨later, hfound, .inl rfl⟩
  have hput : ∀ {target : Nat} {old changed : ScriptModule},
      before.module? target = some old →
        (target = address → old.state.Fades changed.state) →
          (before.put target (some changed)).module? address = some later →
            ∃ earlier, before.module? address = some earlier ∧
              earlier.state.Fades later.state := by
    intro target old changed hold hfades hfound
    rw [module?_put] at hfound
    split at hfound
    · rename_i htarget
      cases hfound
      exact ⟨old, htarget ▸ hold, hfades htarget⟩
    · exact hsame hfound
  cases hchange with
  | edit edited hold _ _ hstate =>
      refine hput hold (fun htarget => .inl (hstate.resolve_right fun hwatch => ?_)) hlater
      exact hstill (htarget ▸ hwatch)
  | build compiled hold _ _ _ _ hwatch =>
      exact hput hold (fun htarget => absurd (htarget ▸ hwatch) hstill) hlater
  | discard hold _ =>
      rw [module?_leave] at hlater
      exact hput hold (fun _ => .inr rfl) hlater
  | renew tree hold _ _ hwatch =>
      rw [module?_leave] at hlater
      exact hput hold (fun htarget => absurd (htarget ▸ hwatch) hstill) hlater
  | vanish _ _ _ =>
      rw [module?_leave, module?_put] at hlater
      split at hlater
      · cases hlater
      · exact hsame hlater
  | create name source id counter _ _ _ _ _ =>
      simp only [Scripts.create, put] at hlater
      rw [if_neg (by omega)] at hlater
      exact hsame hlater
  | _ => exact hsame hlater

/-- Transitions that do not build the module at an address leave its state or discard
it. -/
theorem Changes.fades (hchanges : Changes may before after) (hstill : ¬ may (.watch address))
    (hbelow : address < before.next) {later : ScriptModule}
    (hlater : after.module? address = some later) :
    ∃ earlier, before.module? address = some earlier ∧
      earlier.state.Fades later.state := by
  induction hchanges generalizing later with
  | refl => exact ⟨later, hlater, .inl rfl⟩
  | tail hearlier hchange ih =>
      obtain ⟨found, hfound, hlast⟩ := hchange.fades hstill
        (Nat.lt_of_lt_of_le hbelow (Changes.next_le hearlier)) hlater
      obtain ⟨first, hfirst, hfades⟩ := ih hfound
      exact ⟨first, hfirst, hfades.trans hlast⟩

/-- What has failed or is discarded remains so or is discarded. -/
theorem Changes.ended (hchanges : Changes may before after) {earlier later : ScriptModule}
    (hbelow : address < before.next) (hearlier : before.module? address = some earlier)
    (hended : earlier.state.isTerminal = true)
    (hlater : after.module? address = some later) : earlier.state.Fades later.state := by
  induction hchanges generalizing later with
  | refl =>
      cases hearlier.symm.trans hlater
      exact .inl rfl
  | tail hfirst hchange ih =>
      rcases hchange.turn hlater with ⟨found, hfound, hturn⟩ | hmakes
      · have hfades := ih hfound
        exact hfades.trans (hturn.fades (hfades.isTerminal hended))
      · have hnext := hmakes.next
        have hleast := Changes.next_le hfirst
        omega

theorem Moves.refl (scripts : Scripts) : scripts.Moves reloading scripts := by
  intro address earlier later hearlier hlater
  cases hearlier.symm.trans hlater
  exact .stay _

theorem Moves.of_eq (hsame : ∀ address, after.module? address = before.module? address) :
    before.Moves reloading after := by
  intro address earlier later hearlier hlater
  rw [hsame, hearlier] at hlater
  cases hlater
  exact .stay _

/-- An operation on one module moves the states if it moves the state of this one. -/
theorem Moves.of_changes (hchanges : Changes (Touch.only address) before after)
    (htarget : ∀ earlier later, before.module? address = some earlier →
      after.module? address = some later → earlier.state.Moves reloading later.state) :
    before.Moves reloading after := by
  intro other earlier later hearlier hlater
  by_cases hother : other = address
  · subst hother
    exact htarget _ _ hearlier hlater
  · rw [hchanges.module?_elsewhere hother, hearlier] at hlater
    cases hlater
    exact .stay _

/-- What is dropped after an operation takes at most modules away. -/
theorem Moves.fades {touched : Nat → Nat → Prop} (hmoves : before.Moves reloading middle)
    (hchanges : Changes (Touch.modules touched) middle after)
    (hbelow : ∀ {address module}, before.module? address = some module →
      address < middle.next) :
    before.Moves reloading after := by
  intro address earlier later hearlier hlater
  obtain ⟨found, hfound, hfades⟩ := hchanges.fades id (hbelow hearlier) hlater
  exact (hmoves _ _ _ hearlier hfound).fades hfades

end Scripts

namespace Act

open World

variable {reloading : Prop} {held : Holdings} {world : World} {address : Nat}
  {module : ScriptModule}

theorem within_only (address : Nat) (world : World) :
    world.Within (Touch.only address) address :=
  fun _ _ => rfl

theorem addSegment_moves (hworld : world.Sound held) (address : Nat) {segment : Segment}
    (hwhole : segment.Whole) :
    world.scripts.Moves reloading (after (addSegment address segment) world).scripts := by
  have hreaches : world.Reaches held (Touch.only address)
      (after (addSegment address segment) world) :=
    addSegment_reaches hworld (within_only address world) rfl hwhole
  refine .of_changes hreaches.changes ?_
  intro earlier later hearlier hlater
  have hfound : world.module? address = some earlier := hearlier
  have hadded : (after (addSegment address segment) world).scripts =
      world.scripts.put address (some (earlier.addSegment segment).1) := by
    unfold addSegment
    rw [after_get_bind, hfound]
    dsimp only
    rw [after_bind, after_onModule, after_pure, scripts_withModule, hfound]
    rfl
  rw [hadded, Scripts.module?_put_self] at hlater
  cases hlater
  unfold ScriptModule.addSegment
  split
  · exact .stay _
  · by_cases hempty : earlier.state = .empty
    · simp only [hempty, if_true]
      exact .fill
    · simp only [hempty, if_false]
      exact .stay _

theorem addFile_moves (hworld : world.Sound held) (address : Nat) (path : Path) :
    world.scripts.Moves reloading (after (addFile address path) world).scripts := by
  unfold addFile
  rw [after_get_bind]
  split
  · exact .refl _
  · rename_i segment hfile
    exact addSegment_moves hworld address (Segment.whole_of_ofFile hfile)

theorem discard_moves (hworld : world.Sound held) (address : Nat) (reason : String) :
    world.scripts.Moves reloading (after (discard address reason) world).scripts := by
  have hreaches : world.Reaches held (Touch.only address)
      (after (discard address reason) world) :=
    discard_reaches hworld (within_only address world) reason
  refine .of_changes hreaches.changes ?_
  intro earlier later hearlier hlater
  have hdiscarded := (discard_module? hworld hearlier reason).symm.trans hlater
  cases hdiscarded
  exact .discard _

/-- A module that is compiled is built or has failed. -/
theorem compileModule_moves (hworld : world.Sound held)
    (hmodule : world.module? address = some module) (hready : module.state = .readyToBuild)
    (hrunning : world.isRunning = true) :
    world.scripts.Moves reloading (after (compileModule address module) world).scripts := by
  have hreaches : world.Reaches held (Touch.only address)
      (after (compileModule address module) world) :=
    compileModule_reaches hworld (within_only address world) rfl hmodule hready hrunning
  refine .of_changes hreaches.changes ?_
  intro earlier later hearlier hlater
  have hsame : earlier = module := Option.some.inj (hearlier.symm.trans hmodule)
  rw [hsame, hready]
  cases hcompile : (module.compile world.executor world.files).1 with
  | error err =>
      rw [(compileModule_of_error hmodule hcompile).2, Scripts.module?_put_self] at hlater
      cases hlater
      exact .fail
  | ok built =>
      rw [(compileModule_of_ok hmodule hcompile).2] at hlater
      have hbuilt : later = (module.withBuild built.1).watching built.2 := by
        simpa [Scripts.withWatcher, Scripts.enter] using hlater.symm
      rw [hbuilt]
      exact .build

/-- A module that is built on demand is built already, or is built or fails if it is
ready. -/
theorem build_moves (hworld : world.Sound held) (address : Nat) :
    world.scripts.Moves reloading (after (build address) world).scripts := by
  cases hmodule : world.module? address with
  | none =>
      unfold build
      rw [after_get_bind, hmodule]
      exact .refl _
  | some module =>
      unfold build
      rw [after_get_bind, hmodule]
      dsimp only
      split
      · split
        · exact .refl _
        · exact discard_moves hworld address _
      · rename_i hready
        split
        · rename_i hrunning
          exact compileModule_moves hworld hmodule hready hrunning
        · exact discard_moves hworld address _
      · exact .refl _

/-- Looking for listeners makes no other state of a module than building it does. -/
theorem listenerIndex_state {later : ScriptModule}
    (hlater : (after (listenerIndex address) world).module? address = some later) :
    ∃ built, (after (build address) world).module? address = some built ∧
      later.state = built.state := by
  unfold listenerIndex at hlater
  rw [after_bind] at hlater
  split at hlater
  · exact ⟨later, hlater, rfl⟩
  · rename_i compiled hresult
    rw [after_get_bind] at hlater
    split at hlater
    · exact ⟨later, hlater, rfl⟩
    · have hquiet := IsQuiet.forM warn_isQuiet (ListenerIndex.build compiled).2
        (after (build address) world)
      rw [after_bind, after_bind, after_onModule, after_pure, module?_withModule, if_pos rfl,
        hquiet.module?] at hlater
      obtain ⟨built, hbuilt, rfl⟩ := Option.map_eq_some_iff.mp hlater
      exact ⟨built, hbuilt, rfl⟩

theorem listenerIndex_moves (hworld : world.Sound held) (address : Nat) :
    world.scripts.Moves reloading (after (listenerIndex address) world).scripts := by
  have hreaches : world.Reaches held (Touch.only address)
      (after (listenerIndex address) world) :=
    listenerIndex_reaches (within_only address world)
      (build_reaches hworld (within_only address world) rfl)
  refine .of_changes hreaches.changes ?_
  intro earlier later hearlier hlater
  obtain ⟨built, hbuilt, hstate⟩ := listenerIndex_state hlater
  rw [hstate]
  exact build_moves hworld address _ _ _ hearlier hbuilt

theorem findListener_moves (hworld : world.Sound held) (address : Nat) (name : String)
    (genericType : Option String) :
    world.scripts.Moves reloading (after (findListener address name genericType) world).scripts :=
  listenerIndex_moves hworld address

theorem listeners_moves (hworld : world.Sound held) (address : Nat) :
    world.scripts.Moves reloading (after (listeners address) world).scripts :=
  listenerIndex_moves hworld address

theorem function_moves (hworld : world.Sound held) (address : Nat) (name : String)
    (count : Nat) :
    world.scripts.Moves reloading (after (function address name count) world).scripts := by
  unfold function
  rw [after_get_bind]
  split
  · exact .refl _
  · have hbuild : world.scripts.Moves reloading (after (build address) world).scripts :=
      build_moves hworld address
    rw [after_bind]
    split
    · rw [after_get_bind]
      split <;> exact hbuild
    · split <;> exact hbuild

/-- A reload builds a built module again, or the module fails or is discarded. -/
theorem reload_moves (hworld : world.Sound held) (address : Nat) :
    world.scripts.Moves True (after (reload address) world).scripts := by
  have hreaches : world.Reaches held (Touch.only address) (after (reload address) world) :=
    reload_reaches hworld (within_only address world) rfl
  refine .of_changes hreaches.changes ?_
  intro earlier later hearlier hlater
  by_cases hbuilt : earlier.state = .built
  · rcases Bool.eq_false_or_eq_true world.isRunning with hrunning | hstopped
    · obtain ⟨reloaded, hreloaded, hspec, -⟩ := reload_spec hworld hearlier hbuilt hrunning
      have hsame : later = reloaded := Option.some.inj (hlater.symm.trans hreloaded)
      rw [hsame, hbuilt]
      rcases hspec.outcome with ⟨hagain, -⟩ | hfailed
      · rw [hagain]
        exact .stay _
      · rw [hfailed]
        exact .refail trivial
    · rw [(reload_of_stopped hearlier hbuilt hstopped).2] at hlater
      exact discard_moves hworld address _ _ _ _ hearlier hlater
  · rw [(reload_of_other hearlier hbuilt).2] at hlater
    have hsame : later = earlier := Option.some.inj (hlater.symm.trans hearlier)
    rw [hsame]
    exact .stay _

theorem release_moves (hworld : world.Sound held) (address : Nat) :
    world.scripts.Moves reloading (after (release address) world).scripts := by
  have hreaches : world.Reaches held (Touch.only address) (after (release address) world) :=
    release_reaches hworld (within_only address world)
  refine .of_changes hreaches.changes ?_
  intro earlier later hearlier hlater
  have hreleased : later = earlier.unhooked.discarded := by
    rw [release_scripts hworld.scripts.closed hearlier] at hlater
    simpa [Scripts.withWatcher] using hlater.symm
  rw [hreleased]
  exact .discard _

theorem discardCompiled_moves (internalName : String) (world : World) :
    world.scripts.Moves reloading (after (discardCompiled internalName) world).scripts :=
  .of_eq fun _ => rfl

/-- Handles that are dropped after an operation take modules away or discard them. -/
theorem moves_dropAll {may : Touch → Prop} {middle : World} {handles : List Owned}
    (hmoves : world.scripts.Moves reloading middle.scripts) (hworld : world.scripts.Consistent)
    (hmiddle : world.Reaches (held.taking (Owned.modules handles)) may middle) :
    world.scripts.Moves reloading (after (dropAll handles) middle).scripts := by
  have hdrops : Drops (fun _ _ => True) middle (after (dropAll handles) middle) := by
    refine (dropAll_drops hmiddle.sound fun handle _ => ?_).1
    cases handle with
    | object ref => trivial
    | module address => exact fun _ _ => trivial
  exact hmoves.fades hdrops.changes fun hmodule =>
    Nat.lt_of_lt_of_le (hworld.below hmodule) hmiddle.changes.next_le

theorem release_drop_moves (hworld : world.Sound held) (address : Nat) :
    world.scripts.Moves reloading
      (after (dropAll (result (release address) world)) (after (release address) world)).scripts := by
  refine moves_dropAll (release_moves hworld address) hworld.scripts
    (?_ : world.Reaches (held.taking _) (Touch.only address) _)
  rw [release_modules]
  exact release_reaches hworld (within_only address world)

/-- With the last holder of an executor its modules go. -/
theorem releaseExecutor_moves (hworld : world.Sound held.holding) :
    world.scripts.Moves reloading
      (after (dropAll (result releaseExecutor world)) (after releaseExecutor world)).scripts := by
  have hreleased : world.Reaches _ Touch.ordinary (after releaseExecutor world) :=
    (releaseExecutor_reaches hworld).1
  refine moves_dropAll (.of_eq fun address => ?_) hworld.scripts hreleased
  unfold releaseExecutor
  rw [after_get_bind]
  dsimp only
  split <;> rfl

end Act

/-! ### In a session -/

namespace Session

/-- A session whose script modules have moved. -/
abbrev Moves (reloading : Prop) (before after : Session) : Prop :=
  before.world.scripts.Moves reloading after.world.scripts

end Session

namespace SessionAct

variable {α β : Type} {reloading : Prop} {session : Session}

/-- A step that begins with the script module of a name moves nothing if the name stands
for none. -/
theorem moves_named {name : String} {next : Nat → SessionAct β}
    (hnext : ∀ address, session.Moves reloading (after (next address) session)) :
    session.Moves reloading (after (moduleNamed name >>= next) session) := by
  rw [after_moduleNamed_bind]
  split
  · exact hnext _
  · exact .refl _

/-- An operation on the world, and something else that leaves the world as it is then. -/
theorem moves_act {operation : Act α} {next : α → SessionAct β}
    (hoperation : session.world.scripts.Moves reloading
      (Act.after operation session.world).scripts)
    (hnext : ∀ value, LeavesWorld (next value)) :
    session.Moves reloading (after (act operation >>= next) session) := by
  unfold Session.Moves
  rw [after_bind, outcome_act, after_act]
  dsimp only
  rw [hnext]
  exact hoperation

theorem needExecutor_moves {next : Executor → SessionAct β}
    (hnext : ∀ executor, session.Moves reloading (after (next executor) session)) :
    session.Moves reloading (after (needExecutor >>= next) session) := by
  rw [after_needExecutor_bind]
  split
  · exact hnext _
  · exact .refl _

end SessionAct

namespace ModuleStep

open SessionAct

/-- A step that operates on a script module or on its compiled script. -/
def Operates : ModuleStep → Prop
  | .addSegment _ _ _ _ | .addFile _ _ | .build _ _ | .function _ _ _ _ => True
  | .listeners _ | .listenerCount _ | .findListener _ _ _ _ | .hasListener _ _ _ => True
  | .reload _ | .markDiscarded _ | .release _ | .discardCompiled _ => True
  | _ => False

/-- A step that reloads a module. -/
def Reloads : ModuleStep → Prop
  | .reload _ => True
  | _ => False

theorem Operates.moves {step : ModuleStep} (hoperates : step.Operates) {session : Session}
    (hsession : session.Sound) : session.Moves step.Reloads (after step.perform session) := by
  cases step with
  | addSegment module file line code =>
      exact moves_named fun address =>
        moves_act (Act.addSegment_moves hsession address (Segment.inline_whole _ _ _)) fun _ => .pure _
  | addFile module path =>
      exact moves_named fun address =>
        moves_act (Act.addFile_moves hsession address path) fun _ => .pure _
  | build module target =>
      exact moves_named fun address =>
        moves_act (Act.build_moves hsession address) fun compiled =>
          .bind (bindCompiled_leavesWorld target compiled) fun _ => by
            cases compiled <;> exact .pure _
  | function module name count target =>
      refine moves_named fun address =>
        moves_act (Act.function_moves hsession address name count) fun found => ?_
      cases found with
      | error cause => exact .pure _
      | ok found => exact .bind (bindFunction_leavesWorld target found) fun _ => .pure _
  | listeners module =>
      exact moves_named fun address =>
        moves_act (Act.listeners_moves hsession address) fun _ => .pure _
  | listenerCount module =>
      exact moves_named fun address =>
        moves_act (Act.listeners_moves hsession address) fun _ => .pure _
  | findListener module name genericType target =>
      refine moves_named fun address =>
        moves_act (Act.findListener_moves hsession address name genericType) fun entry => ?_
      cases entry with
      | none => exact .pure _
      | some entry =>
          exact .bind (bindFunction_leavesWorld target entry.function) fun _ => .pure _
  | hasListener module name genericType =>
      exact moves_named fun address =>
        moves_act (Act.findListener_moves hsession address name genericType) fun _ => .pure _
  | reload module =>
      refine moves_named fun address => moves_act ?_ fun _ => .pure _
      have hmoves := Act.reload_moves hsession address
      unfold Scripts.Moves at hmoves ⊢
      have hquiet := (Act.reload_drop_quiet hsession.objects address).scripts
      exact hquiet ▸ hmoves
  | markDiscarded module =>
      exact moves_named fun address =>
        moves_act (Act.discard_moves hsession address _) fun _ => .pure _
  | release module =>
      refine moves_named fun address => ?_
      unfold Session.Moves
      rw [after_bind, outcome_act, after_act]
      dsimp only
      rw [after_bind, outcome_act, after_act]
      exact Act.release_drop_moves hsession address
  | discardCompiled internalName =>
      exact needExecutor_moves fun _ =>
        moves_act (Act.discardCompiled_moves internalName _) fun _ => .pure _
  | _ => exact hoperates.elim

end ModuleStep

namespace Step

/-- A step that operates on a script module, or with which the executor may go. -/
def OperatesOnModules : Step → Prop
  | .onModules step => step.Operates
  | .onFiles (.drop .executor _) | .onFiles (.drop .loader _) => True
  | _ => False

/-- A step that reloads a module. -/
def Reloads : Step → Prop
  | .onModules step => step.Reloads
  | _ => False

end Step

namespace FileStep

open SessionAct

variable {reloading : Prop} {session : Session}

theorem dropExecutor_moves (hsession : session.Sound) :
    session.Moves reloading (after dropExecutor session) := by
  unfold dropExecutor
  rw [after_get_bind]
  split
  · rename_i hexecutor
    let gone : Session := { session with hasExecutor := false }
    have hheld : session.world.Sound gone.held.holding := by
      refine hsession.forget ?_ fun _ => Nat.le_refl _
      simp [Session.held, Holdings.holding, gone, hexecutor]
    exact Act.releaseExecutor_moves hheld
  · exact .refl _

theorem dropLoader_moves (hsession : session.Sound) :
    session.Moves reloading (after dropLoader session) := by
  unfold dropLoader SessionAct.world
  rw [bind_assoc, after_get_bind]
  simp only [pure_bind]
  split
  · exact .refl _
  · rename_i loader hloader
    exact Act.releaseExecutor_moves (hsession.withoutLoader hloader).sound

end FileStep

namespace Session

open SessionAct

variable {session : Session}

/-- What is told of a dropped name moves nothing. -/
private theorem drop_moves {reloading : Prop} {drop : SessionAct Bool}
    (hdrop : session.Moves reloading (after drop session)) :
    session.Moves reloading (after (do return Answer.flag (← drop)) session) := by
  rw [after_bind]
  split <;> exact hdrop

/-- An operation on script modules moves the states of those that live on by one move
each. -/
theorem step_moves (hsession : session.Sound) {step : Step}
    (hoperates : step.OperatesOnModules) :
    session.Moves step.Reloads (session.step step).2 := by
  unfold Session.Moves
  rw [step_scripts]
  cases step with
  | onModules step => exact hoperates.moves hsession
  | onFiles step =>
      cases step with
      | drop kind name =>
          cases kind with
          | executor => exact drop_moves (FileStep.dropExecutor_moves hsession)
          | loader => exact drop_moves (FileStep.dropLoader_moves hsession)
          | _ => exact hoperates.elim
      | _ => exact hoperates.elim
  | _ => exact hoperates.elim

/-- Whatever is done, what has failed or is discarded remains so or is discarded. -/
theorem step_ended (hsession : session.Sound) (step : Step) {address : Nat}
    {earlier later : ScriptModule}
    (hearlier : session.world.module? address = some earlier)
    (hlater : (session.step step).2.world.module? address = some later)
    (hended : earlier.state.isTerminal = true) : earlier.state.Fades later.state :=
  (step_advances hsession step).world.changes.ended (hsession.scripts.below hearlier)
    hearlier hended hlater

/-- In every session that can be reached, whatever a script module says about itself fits
together. Every operation on script modules moves their states by one move, and whatever
is done, what has failed or is discarded remains so or is discarded. -/
theorem script_modules_move (files : FileTree) (plan : ExecutorPlan) (steps : List Step) :
    let session := (begin files plan).run steps
    (∀ address module, session.world.module? address = some module → module.WellFormed) ∧
    ∀ step : Step,
      (step.OperatesOnModules → session.Moves step.Reloads (session.step step).2) ∧
      ∀ address earlier later, session.world.module? address = some earlier →
        (session.step step).2.world.module? address = some later →
          earlier.state.isTerminal = true → earlier.state.Fades later.state := by
  intro session
  have hreached : session.Sound := begin_run_sound files plan steps
  exact ⟨fun _ _ hmodule => hreached.scripts.wellFormed hmodule, fun step =>
    ⟨step_moves hreached, fun _ _ _ => step_ended hreached step⟩⟩

/-- A built module may be reloaded, and once it is released it remains discarded. -/
theorem script_modules_move_bare :
    (∃ built reloaded, (bare.run buildingSteps).world.module? 1 = some built ∧
      built.WellFormed ∧ built.state = .built ∧
      ((bare.run buildingSteps).step (.onModules (.reload "m"))).2.world.module? 1 =
        some reloaded ∧ built.state.Moves True reloaded.state) ∧
    ∃ released still, (bare.run (buildingSteps ++ [.onModules (.release "m")])).world.module? 1 =
        some released ∧ released.state = .discarded ∧
      ((bare.run (buildingSteps ++ [.onModules (.release "m")])).step
        (.onModules (.build "m" none))).2.world.module? 1 = some still ∧
      released.state.Fades still.state := by
  have living : ∀ (session : Session) (state : BuildState),
      (session.world.module? 1).map ScriptModule.state = some state →
        ∃ module, session.world.module? 1 = some module ∧ module.state = state :=
    fun _ _ hstate => Option.map_eq_some_iff.mp hstate
  obtain ⟨built, hbuilt, hstate⟩ := living (bare.run buildingSteps) .built
    (by decide +kernel)
  obtain ⟨reloaded, hreloaded, -⟩ := living
    ((bare.run buildingSteps).step (.onModules (.reload "m"))).2 .built (by decide +kernel)
  obtain ⟨released, hreleased, hdiscarded⟩ := living
    (bare.run (buildingSteps ++ [.onModules (.release "m")])) .discarded (by decide +kernel)
  obtain ⟨still, hstill, -⟩ := living
    ((bare.run (buildingSteps ++ [.onModules (.release "m")])).step
      (.onModules (.build "m" none))).2 .discarded (by decide +kernel)
  have hmoves := script_modules_move ⟨.directory [], []⟩ ⟨none, none, none, none, []⟩
    buildingSteps
  have hfades := script_modules_move ⟨.directory [], []⟩ ⟨none, none, none, none, []⟩
    (buildingSteps ++ [.onModules (.release "m")])
  exact ⟨⟨built, reloaded, hbuilt, hmoves.1 1 built hbuilt, hstate, hreloaded,
      (hmoves.2 (.onModules (.reload "m"))).1 trivial 1 built reloaded hbuilt hreloaded⟩,
    released, still, hreleased, hdiscarded, hstill,
    (hfades.2 (.onModules (.build "m" none))).2 1 released still hreleased hstill
      (by rw [hdiscarded]; rfl)⟩

end Session

end ScriptHost
