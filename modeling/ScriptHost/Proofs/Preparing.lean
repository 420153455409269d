import ScriptHost.Proofs.Imports

/-!
What the script module of a game module carries while it is prepared. The segments of sources
and exports are added to it in their order; where all of them are there nothing of that fails,
and neither does the build, if the description of the game module builds from these segments.
-/

namespace ScriptHost

namespace ScriptModule

/-- A module with further segments, but for those that would repeat others. -/
def extended (module : ScriptModule) (segments : List Segment) : ScriptModule :=
  segments.foldl (fun module segment => (module.addSegment segment).1) module

theorem extended_append (module : ScriptModule) (first second : List Segment) :
    module.extended (first ++ second) = (module.extended first).extended second :=
  List.foldl_append

theorem addSegment_access (module : ScriptModule) (segment : Segment) :
    (module.addSegment segment).1.access = module.access := by
  unfold addSegment
  split <;> rfl

/-- The name and the number of a module do not matter to what is added, nor does its access. -/
theorem addSegment_alike {module other : ScriptModule} (hstate : module.state = other.state)
    (hsegments : module.segments = other.segments) (segment : Segment) :
    (module.addSegment segment).1.state = (other.addSegment segment).1.state ∧
      (module.addSegment segment).1.segments = (other.addSegment segment).1.segments := by
  unfold addSegment overlaps
  rw [hsegments]
  split
  · exact ⟨hstate, hsegments⟩
  · exact ⟨by simp only [hstate], rfl⟩

theorem extended_alike (segments : List Segment) {module other : ScriptModule}
    (hstate : module.state = other.state) (hsegments : module.segments = other.segments) :
    (module.extended segments).state = (other.extended segments).state ∧
      (module.extended segments).segments = (other.extended segments).segments := by
  induction segments generalizing module other with
  | nil => exact ⟨hstate, hsegments⟩
  | cons segment rest ih =>
      obtain ⟨hstate', hsegments'⟩ := addSegment_alike hstate hsegments segment
      exact ih hstate' hsegments'

theorem extended_access (module : ScriptModule) (segments : List Segment) :
    (module.extended segments).access = module.access := by
  induction segments generalizing module with
  | nil => rfl
  | cons segment rest ih => exact (ih _).trans (addSegment_access module segment)

end ScriptModule

namespace World

variable {before after world : World} {script : Nat} {description : Description}
  {names : List String} {segments added : List Segment}

/-- A script module has been made for a description, and segments have been added to it. -/
def Carries (world : World) (script : Nat) (description : Description)
    (segments : List Segment) : Prop :=
  ∃ id, world.module? script = some (ScriptModule.extended
    { ScriptModule.create id description.name description.path.text with
      access := accessOf description } segments)

/-- What is provided depends on the files and on the search alone. -/
theorem Provides.continues (hprovides : before.Provides description names segments)
    (hcontinues : before.Continues after) : after.Provides description names segments := by
  have hsearch : after.executor.search = before.executor.search :=
    congrArg Prod.fst hcontinues.rules
  unfold Provides
  rw [hcontinues.files, hsearch]
  exact hprovides

theorem Provides.unique {others : List Segment}
    (hprovides : world.Provides description names segments)
    (hothers : world.Provides description names others) : segments = others := by
  induction hprovides generalizing others with
  | nil =>
      cases hothers
      rfl
  | cons hfirst _ ih =>
      obtain ⟨other, rest, ⟨path', hfound', hread'⟩, hrest, rfl⟩ :=
        List.forall₂_cons_left_iff.mp hothers
      obtain ⟨path, hfound, hread⟩ := hfirst
      rw [hfound, Option.some.injEq] at hfound'
      subst hfound'
      rw [hread, Except.ok.injEq] at hread'
      rw [hread', ih hrest]

/-- Source names that provide segments are resolved to the files of these. -/
theorem Provides.resolved {game : GameModule}
    (hprovides : world.Provides game.description names segments) :
    ∃ paths, game.resolveFiles world.executor.search world.files names = .ok paths ∧
      List.Forall₂ (fun path segment => Segment.ofFile world.files path = .ok segment) paths
        segments := by
  induction hprovides with
  | nil => exact ⟨[], rfl, .nil⟩
  | @cons name segment names segments hname _ ih =>
      obtain ⟨path, hfound, hread⟩ := hname
      obtain ⟨paths, hpaths, hsegments⟩ := ih
      refine ⟨path :: paths, ?_, .cons hread hsegments⟩
      unfold GameModule.resolveFiles
      rw [hfound]
      dsimp only
      rw [hpaths]

/-- A description builds from the segments that its script module carries. -/
theorem Builds.compiles (hbuilds : before.Builds description segments)
    (hcontinues : before.Continues after) (id : Nat) :
    let module := ScriptModule.extended
      { ScriptModule.create id description.name description.path.text with
        access := accessOf description } segments
    module.state = .readyToBuild ∧
      ∃ built, (module.compile after.executor after.files).1 = .ok built := by
  intro module
  obtain ⟨hstate, built, hbuilt⟩ := hbuilds
  obtain ⟨hsame, hsegments⟩ := @ScriptModule.extended_alike segments
    { ScriptModule.create id description.name description.path.text with
      access := accessOf description }
    (ScriptModule.create 0 description.name description.path.text) rfl rfl
  refine ⟨hsame.trans hstate, ?_⟩
  have haccess : module.access = accessOf description := ScriptModule.extended_access _ segments
  have hcompile := @ScriptModule.compile_alike module
    ((ScriptModule.create 0 description.name description.path.text).furnished segments
      (accessOf description)) after.executor before.executor hsegments haccess hcontinues.rules
    after.files
  rcases hcompile with ⟨_, err, -, herr⟩ | ⟨compiled, _, files, hok, -⟩
  · rw [hcontinues.files, hbuilt] at herr
    cases herr
  · exact ⟨_, hok⟩

end World

namespace Act

open World LoadAct

variable {world : World} {script target : Nat} {game : GameModule} {module : ScriptModule}
  {description : Description} {segments added : List Segment} {held : Holdings}

theorem addSegment_extends (hmodule : world.module? script = some module) (segment : Segment) :
    (after (addSegment script segment) world).module? script =
      some (module.extended [segment]) := by
  unfold addSegment
  rw [after_get_bind, hmodule]
  dsimp only
  rw [after_bind, after_onModule, after_pure, module?_withModule, if_pos rfl, hmodule]
  rfl

/-- A file that can be read is added. -/
theorem addFile_extends (hmodule : world.module? script = some module) {path : Path}
    {segment : Segment} (hread : Segment.ofFile world.files path = .ok segment) :
    (∃ fresh, result (addFile script path) world = .ok fresh) ∧
      (after (addFile script path) world).module? script =
        some (module.extended [segment]) := by
  unfold addFile
  rw [after_get_bind, result_get_bind, hread]
  exact ⟨⟨_, rfl⟩, addSegment_extends hmodule segment⟩

/-- Files that can be read are added, all of them. -/
theorem addFiles_extends (name : String) {paths : List Path} {segments : List Segment}
    (hmodule : world.module? script = some module)
    (hread : List.Forall₂ (fun path segment => Segment.ofFile world.files path = .ok segment)
      paths segments) :
    result (addFiles name script paths).run world = .ok () ∧
      (after (addFiles name script paths).run world).module? script =
        some (module.extended segments) := by
  induction paths generalizing world module segments with
  | nil =>
      cases hread
      exact ⟨rfl, hmodule⟩
  | cons path rest ih =>
      obtain ⟨segment, segments', hfirst, hrest, rfl⟩ := List.forall₂_cons_left_iff.mp hread
      obtain ⟨⟨fresh, hok⟩, hadded⟩ := addFile_extends hmodule hfirst
      unfold addFiles
      rw [after_run_lift_bind, result_run_lift_bind, hok]
      have hfiles := (addFile_isSteady script path world).files
      obtain ⟨hdone, hextended⟩ := ih hadded (hfiles.symm ▸ hrest)
      exact ⟨hdone, hextended⟩

theorem addSources_extends (hcarries : world.Carries script description segments)
    (hprovides : world.Provides game.description game.description.sourceFiles added) :
    result (addSources game script).run world = .ok () ∧
      (after (addSources game script).run world).Carries script description
        (segments ++ added) := by
  obtain ⟨id, hmodule⟩ := hcarries
  obtain ⟨paths, hpaths, hread⟩ := hprovides.resolved
  unfold addSources
  rw [after_run_get_bind, result_run_get_bind, hpaths]
  obtain ⟨hok, hadded⟩ := addFiles_extends game.name hmodule hread
  exact ⟨hok, id, by rw [hadded, ScriptModule.extended_append]⟩

theorem addExports_extends (name : String) (hcarries : world.Carries script description segments)
    (hgame : world.game? target = some game)
    (hprovides : world.Provides game.description game.description.exports added) :
    result (addExports name script target).run world = .ok () ∧
      (after (addExports name script target).run world).Carries script description
        (segments ++ added) := by
  obtain ⟨id, hmodule⟩ := hcarries
  obtain ⟨paths, hpaths, hread⟩ := hprovides.resolved
  have hexports : result (exportPaths target) world = .ok paths ∧
      after (exportPaths target) world = world := by
    unfold exportPaths
    rw [result_get_bind, after_get_bind, hgame]
    exact ⟨hpaths, rfl⟩
  unfold addExports
  rw [after_run_lift_bind, result_run_lift_bind, hexports.1, hexports.2]
  obtain ⟨hok, hadded⟩ := addFiles_extends name hmodule hread
  exact ⟨hok, id, by rw [hadded, ScriptModule.extended_append]⟩

/-- A script module that builds is compiled. -/
theorem compileGame_compiles {base : World} (hcarries : world.Carries script description segments)
    (hbuilds : base.Builds description segments) (hcontinues : base.Continues world)
    (hrunning : world.isRunning = true) (place : Nat) :
    result (compileGame game place script).run world = .ok () := by
  obtain ⟨id, hmodule⟩ := hcarries
  obtain ⟨hready, built, hbuilt⟩ := hbuilds.compiles hcontinues id
  have hsome : ∃ compiled, result (build script) world = some compiled := by
    rcases build_ready hmodule hready hrunning with
      ⟨err, herr, -⟩ | ⟨compiled, files, -, hsome, -⟩
    · rw [hbuilt] at herr
      cases herr
    · exact ⟨compiled, hsome⟩
  obtain ⟨compiled, hcompiled⟩ := hsome
  unfold compileGame
  rw [result_run_lift_bind, hcompiled]
  dsimp only
  rw [result_run_lift_bind, result_run_lift_bind]
  generalize Subscription.complaints _ = complaints
  generalize after (listeners script) _ = listening
  induction complaints generalizing listening with
  | nil => rfl
  | cons complaint rest ih =>
      have hcons : (complaint :: rest).forM (fun complaint => (liftM (warn complaint) :
          LoadAct PUnit)) = (liftM (warn complaint) : LoadAct PUnit) >>= fun _ =>
            rest.forM fun complaint => liftM (warn complaint) := rfl
      rw [hcons, result_run_lift_bind]
      exact ih _

end Act

namespace World

variable {held : Holdings} {world : World} {place : Nat}

/-- A game module gets a script module that carries nothing yet. -/
theorem giving_carries (hworld : world.Sound held) (hcounted : world.scripts.Counted)
    (place : Nat) (description : Description) :
    (world.giving place description.name description.path.text
      (accessOf description)).Carries world.modules.next description [] := by
  refine ⟨world.executor.nextId, ?_⟩
  rw [giving_of_free (free_of_counted hcounted)]
  refine (module?_withModule _ _ _ _).trans ?_
  rw [if_pos rfl, module?_made hworld.modules, if_pos rfl]
  rfl

end World

end ScriptHost
