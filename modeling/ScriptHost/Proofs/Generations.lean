import ScriptHost.Proofs.States

/-!
The generations of a script module, each of which begins with its creation or a
reload and ends with the next reload. Within one generation a module is compiled
once: whoever needs its compiled script builds it if that has not been tried yet,
and what came of the first try is all that anybody gets afterwards.
-/

namespace ScriptHost

namespace ScriptModule

/-- Whether the build of a module has been tried in its generation, or cannot be
any more. -/
def tried (module : ScriptModule) : Bool :=
  match module.state with
  | .empty | .readyToBuild => false
  | .built | .failed | .discarded => true

/-- A module that is left as it came out of its build, or is discarded. -/
def Rests (earlier later : ScriptModule) : Prop :=
  later.state = .discarded ∧ later.compiled = none ∨
    later.state = earlier.state ∧ later.compiled = earlier.compiled

variable {running : Bool} {first second third module : ScriptModule}

theorem Rests.refl (module : ScriptModule) : module.Rests module :=
  .inr ⟨rfl, rfl⟩

theorem Rests.trans (hfirst : first.Rests second) (hsecond : second.Rests third) :
    first.Rests third := by
  rcases hsecond with hdiscarded | ⟨hstate, hcompiled⟩
  · exact .inl hdiscarded
  · rcases hfirst with ⟨hdiscarded, hnone⟩ | ⟨hsame, hkept⟩
    · exact .inl ⟨hstate.trans hdiscarded, hcompiled.trans hnone⟩
    · exact .inr ⟨hstate.trans hsame, hcompiled.trans hkept⟩

theorem Rests.tried (hrests : first.Rests second) (hfirst : first.tried = true) :
    second.tried = true := by
  rcases hrests with ⟨hdiscarded, -⟩ | ⟨hsame, -⟩
  · simp [ScriptModule.tried, hdiscarded]
  · rw [ScriptModule.tried, hsame]
    exact hfirst

/-- A module that rests has no other compiled script than before. -/
theorem Rests.compiled (hrests : first.Rests second) {compiled : Compiled}
    (hcompiled : second.compiled = some compiled) : first.compiled = some compiled := by
  rcases hrests with ⟨-, hnone⟩ | ⟨-, hkept⟩
  · rw [hnone] at hcompiled
    cases hcompiled
  · exact hkept ▸ hcompiled

theorem WellFormed.tried_of_compiled (hmodule : module.WellFormed) {compiled : Compiled}
    (hcompiled : module.compiled = some compiled) : module.tried = true := by
  have hbuilt : module.state = .built := hmodule.built.mp (by rw [hcompiled]; rfl)
  simp [ScriptModule.tried, hbuilt]

/-- Once its build has been tried, a module rests in every turn but a reload. -/
theorem Turn.rests {turned : ScriptModule} (hturn : module.Turn running turned)
    (htried : module.tried = true) (hreloads : turned.reloads = module.reloads) :
    module.Rests turned := by
  cases hturn with
  | stay => exact .refl _
  | edit hedit =>
      rcases hedit.state with hsame | ⟨hbefore, -⟩ | ⟨hbefore, -⟩
      · exact .inr ⟨hsame, hedit.compiled⟩
      · simp [ScriptModule.tried, hbefore] at htried
      · simp [ScriptModule.tried, hbefore] at htried
  | build compiled hready => simp [ScriptModule.tried, hready] at htried
  | discard => exact .inl ⟨rfl, rfl⟩
  | renew tree =>
      simp [ScriptModule.renewed] at hreloads

end ScriptModule

namespace Scripts

variable {may : Touch → Prop} {before after : Scripts} {address : Nat}

/-- A module that lives on has been reloaded at most, and rests if its build had
been tried in the same generation. -/
theorem Changes.rests (hchanges : Changes may before after)
    (hbelow : address < before.next) {later : ScriptModule}
    (hlater : after.module? address = some later) :
    ∃ earlier, before.module? address = some earlier ∧
      earlier.reloads ≤ later.reloads ∧
      (later.reloads = earlier.reloads → earlier.tried = true → earlier.Rests later) := by
  induction hchanges generalizing later with
  | refl => exact ⟨later, hlater, Nat.le_refl _, fun _ _ => .refl _⟩
  | tail hfirst hchange ih =>
      rcases hchange.turn hlater with ⟨found, hfound, hturn⟩ | hmakes
      · obtain ⟨earlier, hearlier, hle, hrests⟩ := ih hfound
        have hmore := hturn.reloads_le
        refine ⟨earlier, hearlier, by omega, fun hsame htried => ?_⟩
        have hkept := hrests (by omega) htried
        exact hkept.trans (hturn.rests (hkept.tried htried) (by omega))
      · have hnext := hmakes.next
        have hleast := Changes.next_le hfirst
        omega

end Scripts

/-! ### Calls -/

/-- A call on a script module that works on its compiled script, or adds to its
source. -/
inductive ModuleCall where
  | build
  | function (name : String) (count : Nat)
  | findListener (name : String) (genericType : Option String)
  | hasListener (name : String) (genericType : Option String)
  | listeners
  | addSegment (file : String) (line : Nat) (code : String)
  | addFile (path : Path)

/-- Makes a call on the module at an address. It gives the compiled scripts of all
that the caller gets or is told of. -/
def ModuleCall.perform (call : ModuleCall) (address : Nat) : Act (List Compiled) := do
  match call with
  | .build => return (← Act.build address).toList
  | .function name count =>
    match ← Act.function address name count with
    | .ok found => return [found.compiled]
    | .error _ => return []
  | .findListener name genericType | .hasListener name genericType =>
    return (← Act.findListener address name genericType).toList.map (·.function.compiled)
  | .listeners => return (← Act.listeners address).map (·.function.compiled)
  | .addSegment file line code =>
    let _ ← Act.addSegment address (.inline file line code)
    return []
  | .addFile path =>
    let _ ← Act.addFile address path
    return []

namespace Act

open World

variable {held : Holdings} {world : World} {address : Nat} {module : ScriptModule}

theorem perform_isOrdinary (call : ModuleCall) (address : Nat) :
    IsOrdinary (call.perform address) := by
  cases call with
  | build => exact (build_isOrdinary address).bind fun _ => .pure _
  | function name count =>
      refine (function_isOrdinary address name count).bind fun found => ?_
      cases found with
      | ok function => exact .pure _
      | error err => exact .pure _
  | findListener name genericType | hasListener name genericType =>
      exact (findListener_isOrdinary address name genericType).bind fun _ => .pure _
  | listeners => exact (listeners_isOrdinary address).bind fun _ => .pure _
  | addSegment file line code =>
      exact (addSegment_isOrdinary address (Segment.inline_whole _ _ _)).bind
        fun _ => .pure _
  | addFile path => exact (addFile_isOrdinary address path).bind fun _ => .pure _

/-! ### The builds that a call counts -/

/-- Whether an operation leaves the number of builds as it is. -/
def KeepsBuilds {α : Type} (act : Act α) : Prop :=
  ∀ world : World, (after act world).executor.builds = world.executor.builds

section KeepsBuilds

variable {α β : Type}

theorem KeepsBuilds.pure (value : α) : KeepsBuilds (Pure.pure value) :=
  fun _ => rfl

theorem KeepsBuilds.bind {act : Act α} {next : α → Act β} (hact : KeepsBuilds act)
    (hnext : ∀ value, KeepsBuilds (next value)) : KeepsBuilds (act >>= next) :=
  fun world => (hnext _ _).trans (hact world)

theorem KeepsBuilds.get : KeepsBuilds (MonadState.get : Act World) :=
  fun _ => rfl

theorem warn_keepsBuilds (message : String) : KeepsBuilds (warn message) :=
  fun _ => rfl

theorem onModule_keepsBuilds (address : Nat) (change : ScriptModule → ScriptModule) :
    KeepsBuilds (onModule address change) :=
  fun _ => rfl

theorem onExecutor_keepsBuilds {change : Executor → Executor}
    (hchange : ∀ executor, (change executor).builds = executor.builds) :
    KeepsBuilds (onExecutor change) :=
  fun world => hchange world.executor

theorem KeepsBuilds.forM {act : α → Act PUnit} (hact : ∀ value, KeepsBuilds (act value)) :
    ∀ values : List α, KeepsBuilds (values.forM act)
  | [] => .pure _
  | value :: rest => .bind (hact value) fun _ => KeepsBuilds.forM hact rest

end KeepsBuilds

theorem tearDown_keepsBuilds (address : Nat) : KeepsBuilds (tearDown address) := by
  have hstop : ∀ id, KeepsBuilds (do
      stopMonitoring address id
      onModule address ScriptModule.discarded) := by
    intro id
    refine .bind (.bind .get fun world => ?_) fun _ => onModule_keepsBuilds address _
    split
    · exact .bind (onExecutor_keepsBuilds fun _ => rfl) fun _ => onModule_keepsBuilds address _
    · exact onModule_keepsBuilds address _
  refine .bind .get fun world => ?_
  split
  · exact .pure _
  · rename_i module _
    dsimp only
    split
    · refine .bind (onExecutor_keepsBuilds fun executor => ?_) fun _ => hstop _
      cases module.compiled <;> rfl
    · exact hstop _

theorem discard_keepsBuilds (address : Nat) (reason : String) :
    KeepsBuilds (discard address reason) := by
  refine .bind .get fun world => ?_
  split
  · exact .pure _
  · refine .bind (tearDown_keepsBuilds address) fun _ => ?_
    split
    · exact warn_keepsBuilds _
    · exact .pure _

theorem startMonitoring_keepsBuilds (address id : Nat) (files : List Path) :
    KeepsBuilds (startMonitoring address id files) := by
  refine .bind .get fun world => ?_
  split
  · exact onModule_keepsBuilds address _
  · refine .bind (onExecutor_keepsBuilds fun _ => rfl) fun _ => ?_
    split
    · exact onModule_keepsBuilds address _
    · exact .bind (warn_keepsBuilds _) fun _ => onModule_keepsBuilds address _

/-- The executor counts what its compiler has counted. -/
theorem compileModule_builds (address : Nat) (module : ScriptModule) (world : World) :
    (after (compileModule address module) world).executor.builds =
      (module.compile world.executor world.files).2.builds := by
  unfold compileModule
  rw [after_get_bind]
  generalize module.compile world.executor world.files = outcome
  obtain ⟨built, executor⟩ := outcome
  dsimp only
  rw [after_bind]
  split
  · rename_i compiled files
    have hregister : KeepsBuilds (onExecutor (·.registerCompiled compiled)) :=
      onExecutor_keepsBuilds fun _ => rfl
    refine hregister.bind (fun _ => ?_) _
    exact .bind (onModule_keepsBuilds address _) fun _ =>
      .bind (startMonitoring_keepsBuilds address module.id _) fun _ => .pure _
  · exact KeepsBuilds.bind (fun _ => rfl)
      (fun _ => .bind (onModule_keepsBuilds address _) fun _ => .pure _) _

/-- A build on demand is counted once at most, and only if it had not been tried. -/
theorem build_builds (address : Nat) (world : World) :
    (after (build address) world).executor.builds = world.executor.builds ∨
      (after (build address) world).executor.builds = world.executor.builds + 1 ∧
        ∃ module, world.module? address = some module ∧ module.tried = false ∧
          world.isRunning = true ∧
          after (build address) world = after (compileModule address module) world := by
  unfold build
  rw [after_get_bind]
  cases hmodule : world.module? address with
  | none => exact .inl rfl
  | some module =>
      dsimp only
      split
      · left
        split
        · rfl
        · exact KeepsBuilds.bind (discard_keepsBuilds address _) (fun _ => .pure _) world
      · rename_i hready
        split
        · rename_i hrunning
          rw [compileModule_builds]
          unfold ScriptModule.compile
          split
          · exact .inl rfl
          · right
            refine ⟨?_, module, rfl, ?_, hrunning, rfl⟩
            · dsimp only
              split <;> rfl
            · simp [ScriptModule.tried, hready]
        · exact .inl (KeepsBuilds.bind (discard_keepsBuilds address _) (fun _ => .pure _) world)
      · exact .inl rfl

/-- A module that was compiled has had its build tried. -/
theorem compileModule_tried (hmodule : world.module? address = some module)
    {later : ScriptModule}
    (hlater : (after (compileModule address module) world).module? address = some later) :
    later.tried = true := by
  have hscripts : (after (compileModule address module) world).scripts.module? address =
      some later := hlater
  cases hcompile : (module.compile world.executor world.files).1 with
  | error err =>
      rw [(compileModule_of_error hmodule hcompile).2, Scripts.module?_put_self] at hscripts
      cases hscripts
      rfl
  | ok built =>
      rw [(compileModule_of_ok hmodule hcompile).2] at hscripts
      have hbuilt : later = (module.withBuild built.1).watching built.2 := by
        simpa [Scripts.withWatcher, Scripts.enter] using hscripts.symm
      rw [hbuilt]
      rfl

/-- Looking for listeners counts what building the module counts. -/
theorem listenerIndex_builds (address : Nat) (world : World) :
    (after (listenerIndex address) world).executor.builds =
      (after (build address) world).executor.builds := by
  unfold listenerIndex
  rw [after_bind]
  split
  · rfl
  · rw [after_get_bind]
    split
    · rfl
    · exact KeepsBuilds.bind (KeepsBuilds.forM warn_keepsBuilds _)
        (fun _ => .bind (onModule_keepsBuilds address _) fun _ => .pure _) _

/-- Whoever looks for a function builds the module at most. -/
theorem after_function (address : Nat) (name : String) (count : Nat) (world : World) :
    after (function address name count) world = world ∨
      after (function address name count) world = after (build address) world := by
  unfold function
  rw [after_get_bind]
  split
  · exact .inl rfl
  · right
    rw [after_bind]
    split
    · rw [after_get_bind]
      split <;> rfl
    · split <;> rfl

theorem after_perform_function (address : Nat) (name : String) (count : Nat)
    (world : World) :
    after ((ModuleCall.function name count).perform address) world =
      after (function address name count) world := by
  unfold ModuleCall.perform
  dsimp only
  rw [after_bind]
  split <;> rfl

theorem addSegment_keepsBuilds (address : Nat) (segment : Segment) :
    KeepsBuilds (addSegment address segment) := by
  refine .bind .get fun world => ?_
  split
  · exact .pure _
  · exact .bind (onModule_keepsBuilds address _) fun _ => .pure _

theorem addFile_keepsBuilds (address : Nat) (path : Path) :
    KeepsBuilds (addFile address path) := by
  refine .bind .get fun world => ?_
  split
  · exact .pure _
  · exact .bind (addSegment_keepsBuilds address _) fun _ => .pure _

/-- What a call counts: nothing, or what building the module counts. -/
theorem perform_builds (call : ModuleCall) (address : Nat) (world : World) :
    (after (call.perform address) world).executor.builds = world.executor.builds ∨
      (after (call.perform address) world).executor.builds =
          (after (build address) world).executor.builds ∧
        ∀ later, (after (call.perform address) world).module? address = some later →
          ∃ built, (after (build address) world).module? address = some built ∧
            later.state = built.state := by
  have hsame : ∀ later, (after (build address) world).module? address = some later →
      ∃ built, (after (build address) world).module? address = some built ∧
        later.state = built.state := fun later hlater => ⟨later, hlater, rfl⟩
  cases call with
  | build => exact .inr ⟨rfl, hsame⟩
  | function name count =>
      rw [after_perform_function]
      rcases after_function address name count world with hnone | hbuild
      · rw [hnone]
        exact .inl rfl
      · rw [hbuild]
        exact .inr ⟨rfl, hsame⟩
  | findListener name genericType | hasListener name genericType =>
      exact .inr ⟨listenerIndex_builds address world, fun later => listenerIndex_state⟩
  | listeners =>
      exact .inr ⟨listenerIndex_builds address world, fun later => listenerIndex_state⟩
  | addSegment file line code =>
      exact .inl ((addSegment_keepsBuilds address _).bind (fun _ => .pure _) world)
  | addFile path =>
      exact .inl ((addFile_keepsBuilds address path).bind (fun _ => .pure _) world)

/-- A call is counted once at most, and if it is, then the build of the module had
not been tried before and has been now. -/
theorem perform_tries (call : ModuleCall) {later : ScriptModule}
    (hlater : (after (call.perform address) world).module? address = some later) :
    (after (call.perform address) world).executor.builds = world.executor.builds ∨
      (after (call.perform address) world).executor.builds = world.executor.builds + 1 ∧
        later.tried = true ∧
        ∃ module, world.module? address = some module ∧ module.tried = false := by
  rcases perform_builds call address world with hkept | ⟨hbuilds, hstate⟩
  · exact .inl hkept
  · rcases build_builds address world with hnone | ⟨hone, module, hmodule, huntried, -, hafter⟩
    · exact .inl (hbuilds.trans hnone)
    · obtain ⟨built, hbuilt, hsame⟩ := hstate later hlater
      rw [hafter] at hbuilt
      have htried := compileModule_tried hmodule hbuilt
      refine .inr ⟨hbuilds.trans hone, ?_, module, hmodule, huntried⟩
      rw [ScriptModule.tried, hsame]
      exact htried

/-- Whatever is gotten hold of by a call belongs to the compiled script that the
module has. -/
theorem perform_found (hworld : world.Sound held) (call : ModuleCall) {compiled : Compiled}
    (hfound : compiled ∈ result (call.perform address) world) :
    ∃ later, (after (call.perform address) world).module? address = some later ∧
      later.compiled = some compiled := by
  cases call with
  | build =>
      have hresult : result (build address) world = some compiled :=
        Option.mem_toList.mp hfound
      obtain ⟨later, hlater, hcompiled, -, -⟩ := build_result hresult
      exact ⟨later, hlater, hcompiled⟩
  | function name count =>
      rw [after_perform_function]
      unfold ModuleCall.perform at hfound
      dsimp only at hfound
      rw [result_bind] at hfound
      split at hfound
      · rename_i found hresult
        cases List.mem_singleton.mp hfound
        exact function_result hresult
      · cases hfound
  | findListener name genericType | hasListener name genericType =>
      obtain ⟨entry, hentry, rfl⟩ := List.mem_map.mp hfound
      exact findListener_result hworld (Option.mem_toList.mp hentry)
  | listeners =>
      obtain ⟨entry, hentry, rfl⟩ := List.mem_map.mp hfound
      have hlisted : entry ∈ ((result (listenerIndex address) world).map
          ListenerIndex.list).getD [] := hentry
      cases hindex : result (listenerIndex address) world with
      | none =>
          rw [hindex] at hlisted
          cases hlisted
      | some index =>
          rw [hindex] at hlisted
          obtain ⟨later, own, hlater, hown, -, hof⟩ := listenerIndex_result hworld hindex
          rw [ListenerIndex.list_compiled hof hlisted]
          exact ⟨later, hlater, hown⟩
  | addSegment file line code => cases hfound
  | addFile path => cases hfound

end Act

/-! ### What happens in a generation -/

/-- What may happen while a module lives: a call on it, or any step of the session. -/
inductive Happening where
  | call (call : ModuleCall)
  | step (step : Step)

/-- What comes of a happening for one module: the builds that it counts for the
module, and the compiled scripts that the caller gets or is told of. -/
structure Yield where
  builds : Nat
  found : List Compiled

/-- All builds that are counted. -/
def Yield.allBuilds (yields : List Yield) : Nat :=
  yields.foldr (fun yielded builds => yielded.builds + builds) 0

theorem Yield.allBuilds_eq_zero {yields : List Yield}
    (hnone : ∀ yielded ∈ yields, yielded.builds = 0) : allBuilds yields = 0 := by
  induction yields with
  | nil => rfl
  | cons first rest ih =>
      have hfirst := hnone first List.mem_cons_self
      have hrest := ih fun yielded hyielded => hnone yielded (List.mem_cons_of_mem _ hyielded)
      simp only [allBuilds, List.foldr_cons] at hrest ⊢
      omega

namespace Session

variable {session : Session} {address : Nat}

/-- Whether the module at an address lives and its build has been tried. -/
def triedAt (session : Session) (address : Nat) : Bool :=
  (session.world.module? address).any ScriptModule.tried

/-- The session after a happening around the module at an address. -/
def happen (session : Session) (address : Nat) : Happening → Session
  | .call call =>
    { session with world := Act.after (call.perform address) session.world }
  | .step step => (session.step step).2

/-- What comes of a happening for the module at an address. A call on the module
counts as many builds as the counter of the executor rises by. A step counts one
if the build of the module has been tried in it, by whatever the step has to do
with the module. -/
def yield (session : Session) (address : Nat) (happening : Happening) : Yield :=
  let after := session.happen address happening
  match happening with
  | .call call =>
    ⟨after.world.executor.builds - session.world.executor.builds,
      Act.result (call.perform address) session.world⟩
  | .step _ => ⟨if !session.triedAt address && after.triedAt address then 1 else 0, []⟩

/-- The session after several happenings. -/
def happenAll (session : Session) (address : Nat) (happenings : List Happening) : Session :=
  happenings.foldl (fun session happening => session.happen address happening) session

/-- What comes of several happenings for the module at an address. -/
def yields (session : Session) (address : Nat) : List Happening → List Yield
  | [] => []
  | happening :: rest =>
    session.yield address happening :: (session.happen address happening).yields address rest

theorem happen_sound (hsession : session.Sound) (address : Nat)
    (happening : Happening) :
    (session.happen address happening).Sound := by
  cases happening with
  | call call =>
      have hreaches : session.world.Reaches session.held Touch.ordinary
          (Act.after (call.perform address) session.world) :=
        (Act.perform_isOrdinary call address).reaches hsession
      exact hreaches.sound
  | step step => exact (step_advances hsession step).sound

theorem happen_changes (hsession : session.Sound) (address : Nat)
    (happening : Happening) :
    Scripts.Changes Touch.anything session.world.scripts
      (session.happen address happening).world.scripts := by
  cases happening with
  | call call =>
      have hreaches : session.world.Reaches session.held Touch.ordinary
          (Act.after (call.perform address) session.world) :=
        (Act.perform_isOrdinary call address).reaches hsession
      exact hreaches.changes.mono fun _ _ => trivial
  | step step =>
      exact (step_advances hsession step).world.changes.mono fun _ _ => trivial

/-- What comes of one happening for a module that lives afterwards, in the same
generation as before: a build is counted only if none had been tried, and whatever
is found is the compiled script that the module has then. -/
theorem yield_spec (hsession : session.Sound)
    (hbelow : address < session.world.modules.next) (happening : Happening)
    {later : ScriptModule}
    (hlater : (session.happen address happening).world.module? address = some later) :
    ∃ earlier, session.world.module? address = some earlier ∧
      earlier.reloads ≤ later.reloads ∧
      (later.reloads = earlier.reloads → earlier.tried = true → earlier.Rests later) ∧
      ((session.yield address happening).builds = 0 ∨
        (session.yield address happening).builds = 1 ∧ earlier.tried = false ∧
          later.tried = true) ∧
      ∀ compiled ∈ (session.yield address happening).found,
        later.compiled = some compiled := by
  obtain ⟨earlier, hearlier, hle, hrests⟩ :=
    (happen_changes hsession address happening).rests hbelow hlater
  refine ⟨earlier, hearlier, hle, hrests, ?_, ?_⟩
  · cases happening with
    | call call =>
        rcases Act.perform_tries call hlater with hsame | ⟨hone, htried, module, hmodule, hnot⟩
        · left
          simp only [yield, happen, hsame, Nat.sub_self]
        · right
          have hearlier' : session.world.module? address = some earlier := hearlier
          cases hmodule.symm.trans hearlier'
          refine ⟨?_, hnot, htried⟩
          simp only [yield, happen, hone]
          omega
    | step step =>
        have hbefore : session.triedAt address = earlier.tried := by
          have hearlier' : session.world.module? address = some earlier := hearlier
          simp [triedAt, hearlier']
        have hafter : (session.happen address (.step step)).triedAt address = later.tried := by
          simp [triedAt, hlater]
        simp only [yield, hbefore, hafter]
        cases earlier.tried <;> cases later.tried <;> simp
  · intro compiled hfound
    cases happening with
    | call call =>
        obtain ⟨found, hmodule, hcompiled⟩ := Act.perform_found hsession call hfound
        cases hmodule.symm.trans hlater
        exact hcompiled
    | step step => cases hfound

/-- Whatever happens, a module that lives in the end has lived all the time. -/
theorem lived_of_happenAll (hsession : session.Sound)
    (hbelow : address < session.world.modules.next) (happenings : List Happening)
    {last : ScriptModule}
    (hlast : (session.happenAll address happenings).world.module? address = some last) :
    ∃ module, session.world.module? address = some module ∧
      module.reloads ≤ last.reloads := by
  induction happenings generalizing session with
  | nil => exact ⟨last, hlast, Nat.le_refl _⟩
  | cons happening rest ih =>
      have hstill := Scripts.Changes.next_le (happen_changes hsession address happening)
      obtain ⟨later, hlater, hle⟩ := ih (happen_sound hsession address happening)
        (Nat.lt_of_lt_of_le hbelow hstill) hlast
      obtain ⟨module, hmodule, hmore, -⟩ := yield_spec hsession hbelow happening hlater
      exact ⟨module, hmodule, Nat.le_trans hmore hle⟩

/-- Once the build of a module has been tried, nobody compiles it again in its
generation, and nobody gets another compiled script than the one it has. -/
theorem yields_of_tried (hsession : session.Sound)
    (hbelow : address < session.world.modules.next) {module last : ScriptModule}
    (hmodule : session.world.module? address = some module) (htried : module.tried = true)
    (happenings : List Happening)
    (hlast : (session.happenAll address happenings).world.module? address = some last)
    (hreloads : last.reloads = module.reloads) :
    ∀ yielded ∈ session.yields address happenings, yielded.builds = 0 ∧
      ∀ compiled ∈ yielded.found, module.compiled = some compiled := by
  induction happenings generalizing session module with
  | nil => simp [yields]
  | cons happening rest ih =>
      have hsound := happen_sound hsession address happening
      have hstill := Nat.lt_of_lt_of_le hbelow
        (Scripts.Changes.next_le (happen_changes hsession address happening))
      obtain ⟨later, hlater, hle⟩ := lived_of_happenAll hsound hstill rest hlast
      obtain ⟨earlier, hearlier, hmore, hrests, hbuilds, hfound⟩ :=
        yield_spec hsession hbelow happening hlater
      cases hearlier.symm.trans hmodule
      have hkept := hrests (by omega) htried
      intro yielded hyielded
      rcases List.mem_cons.mp hyielded with rfl | hyielded
      · refine ⟨?_, fun compiled hcompiled => hkept.compiled (hfound compiled hcompiled)⟩
        rcases hbuilds with hnone | ⟨-, huntried, -⟩
        · exact hnone
        · rw [htried] at huntried
          cases huntried
      · obtain ⟨hnone, hsame⟩ :=
          ih hsound hstill hlater (hkept.tried htried) hlast (by omega) yielded hyielded
        exact ⟨hnone, fun compiled hcompiled => hkept.compiled (hsame compiled hcompiled)⟩

/-- Within one generation a module is compiled once at most, and whoever gets hold
of a compiled script of it gets hold of the same one. -/
theorem yields_once (hsession : session.Sound)
    (hbelow : address < session.world.modules.next) {module last : ScriptModule}
    (hmodule : session.world.module? address = some module) (happenings : List Happening)
    (hlast : (session.happenAll address happenings).world.module? address = some last)
    (hreloads : last.reloads = module.reloads) :
    Yield.allBuilds (session.yields address happenings) ≤ 1 ∧
      ∃ only : Option Compiled, ∀ yielded ∈ session.yields address happenings,
        ∀ compiled ∈ yielded.found, only = some compiled := by
  induction happenings generalizing session module with
  | nil => exact ⟨Nat.zero_le _, none, by simp [yields]⟩
  | cons happening rest ih =>
      have hsound := happen_sound hsession address happening
      have hstill := Nat.lt_of_lt_of_le hbelow
        (Scripts.Changes.next_le (happen_changes hsession address happening))
      obtain ⟨later, hlater, hle⟩ := lived_of_happenAll hsound hstill rest hlast
      obtain ⟨earlier, hearlier, hmore, -, hbuilds, hfound⟩ :=
        yield_spec hsession hbelow happening hlater
      cases hearlier.symm.trans hmodule
      have hsame : last.reloads = later.reloads := by omega
      cases htried : later.tried with
      | true =>
          have hrest := yields_of_tried hsound hstill hlater htried rest hlast hsame
          have hnone := Yield.allBuilds_eq_zero fun yielded hyielded =>
            (hrest yielded hyielded).1
          refine ⟨?_, later.compiled, ?_⟩
          · simp only [Yield.allBuilds, yields, List.foldr_cons] at hnone ⊢
            rcases hbuilds with hzero | ⟨hone, -⟩ <;> omega
          · intro yielded hyielded
            rcases List.mem_cons.mp hyielded with rfl | hyielded
            · exact hfound
            · exact (hrest yielded hyielded).2
      | false =>
          -- nothing was tried yet, so nothing has been compiled or found
          obtain ⟨hsum, only, honly⟩ := ih hsound hstill hlater hlast hsame
          have hwell : later.WellFormed := hsound.scripts.wellFormed hlater
          refine ⟨?_, only, ?_⟩
          · simp only [Yield.allBuilds, yields, List.foldr_cons] at hsum ⊢
            rcases hbuilds with hzero | ⟨-, -, hnow⟩
            · omega
            · rw [htried] at hnow
              cases hnow
          · intro yielded hyielded
            rcases List.mem_cons.mp hyielded with rfl | hyielded
            · intro compiled hcompiled
              have hnow := hwell.tried_of_compiled (hfound compiled hcompiled)
              rw [htried] at hnow
              cases hnow
            · exact honly yielded hyielded

theorem happenAll_sound (hsession : session.Sound) (happenings : List Happening) :
    (session.happenAll address happenings).Sound := by
  induction happenings generalizing session with
  | nil => exact hsession
  | cons happening rest ih => exact ih (happen_sound hsession address happening)

/-- Whatever is asked of a script module and whatever else happens in a session:
until the module is reloaded it is compiled once at most, everybody who gets hold
of a compiled script of it gets hold of the same one, and once a build has failed
nobody compiles it again or gets hold of anything. -/
theorem compiled_once (files : FileTree) (plan : ExecutorPlan) (before : List Step)
    {address : Nat} {module last : ScriptModule} (happenings : List Happening)
    (hmodule : ((begin files plan).run before).world.module? address = some module)
    (hlast : (((begin files plan).run before).happenAll address happenings).world.module?
      address = some last)
    (hreloads : last.reloads = module.reloads) :
    let start := (begin files plan).run before
    Yield.allBuilds (start.yields address happenings) ≤ 1 ∧
    (∃ only : Option Compiled, ∀ yielded ∈ start.yields address happenings,
      ∀ compiled ∈ yielded.found, only = some compiled) ∧
    ∀ earlier later failed, happenings = earlier ++ later →
      (start.happenAll address earlier).world.module? address = some failed →
        failed.state = .failed →
          ∀ yielded ∈ (start.happenAll address earlier).yields address later,
            yielded.builds = 0 ∧ yielded.found = [] := by
  intro start
  have hstart : start.Sound := begin_run_sound files plan before
  obtain ⟨honce, hsame⟩ :=
    yields_once hstart (hstart.scripts.below hmodule) hmodule happenings hlast hreloads
  refine ⟨honce, hsame, ?_⟩
  intro earlier later failed hsplit hfailed hstate yielded hyielded
  have hmiddle : (start.happenAll address earlier).Sound := happenAll_sound hstart earlier
  have hend : ((start.happenAll address earlier).happenAll address later).world.module?
      address = some last := by
    have happended : start.happenAll address happenings =
        (start.happenAll address earlier).happenAll address later := by
      rw [hsplit]
      exact List.foldl_append
    exact happended ▸ hlast
  have hbelow := hmiddle.scripts.below hfailed
  obtain ⟨first, hfirst, hle⟩ :=
    lived_of_happenAll hstart (hstart.scripts.below hmodule) earlier hfailed
  cases hfirst.symm.trans hmodule
  obtain ⟨again, hagain, hmore⟩ := lived_of_happenAll hmiddle hbelow later hend
  cases hagain.symm.trans hfailed
  have htried : failed.tried = true := by simp [ScriptModule.tried, hstate]
  obtain ⟨hnone, hfound⟩ :=
    yields_of_tried hmiddle hbelow hfailed htried later hend (by omega) yielded hyielded
  refine ⟨hnone, List.eq_nil_iff_forall_not_mem.mpr fun compiled hcompiled => ?_⟩
  have hwell : failed.WellFormed := hmiddle.scripts.wellFormed hfailed
  have hkept := hfound compiled hcompiled
  rw [hwell.compiled_none (by simp [hstate])] at hkept
  cases hkept

/-- A module that is asked for this and that, by calls and in steps, is compiled at
the first call. -/
def askingForAll : List Happening :=
  [.call .listeners, .step (.onModules (.build "m" none)), .call (.function "f" 0),
    .call (.addSegment "n.txt" 1 "x"), .call .build]

theorem compiled_once_bare :
    ∃ module last,
      (bare.run (buildingSteps.take 2)).world.module? 1 = some module ∧
      ((bare.run (buildingSteps.take 2)).happenAll 1 askingForAll).world.module? 1 =
        some last ∧
      last.reloads = module.reloads ∧
      ((bare.run (buildingSteps.take 2)).yields 1 askingForAll).map Yield.builds =
        [1, 0, 0, 0, 0] ∧
      ((bare.run (buildingSteps.take 2)).yields 1 askingForAll).map
        (fun yielded => yielded.found.length) = [0, 0, 0, 0, 1] ∧
      Yield.allBuilds ((bare.run (buildingSteps.take 2)).yields 1 askingForAll) ≤ 1 := by
  obtain ⟨module, hmodule, hfirst⟩ : ∃ module,
      (bare.run (buildingSteps.take 2)).world.module? 1 = some module ∧
        module.reloads = 0 :=
    Option.map_eq_some_iff.mp (by decide +kernel)
  obtain ⟨last, hlast, hsecond⟩ : ∃ last,
      ((bare.run (buildingSteps.take 2)).happenAll 1 askingForAll).world.module? 1 =
        some last ∧ last.reloads = 0 :=
    Option.map_eq_some_iff.mp (by decide +kernel)
  have hreloads : last.reloads = module.reloads := hsecond.trans hfirst.symm
  refine ⟨module, last, hmodule, hlast, hreloads, by decide +kernel, by decide +kernel, ?_⟩
  exact (compiled_once ⟨.directory [], []⟩ ⟨none, none, none, none, []⟩
    (buildingSteps.take 2) askingForAll hmodule hlast hreloads).1

end Session

end ScriptHost
