import ScriptHost.Proofs.Contributing
import ScriptHost.Proofs.Reloading

/-!
A reload as the build of another module. What a build comes to is a matter of the
segments and the access of the module, of the files and of the rules of the
executor; the name under which the compiled script is entered, the number of the
build and what the module was before have no part in it. So a module that is
reloaded comes out of it as a new module with the same segments comes out of its
first build.
-/

namespace ScriptHost

/-! ### Segments that are read again -/

/-- A segment and what becomes of it when its file is read again: the text is that
of the file, unless the segment has none or the file cannot be read as text, and
all else stays. -/
structure Segment.Rereads (tree : FileTree) (before after : Segment) : Prop where
  file : after.file = before.file
  startLine : after.startLine = before.startLine
  fromDisk : after.fromDisk = before.fromDisk
  inline : before.fromDisk = false → after.code = before.code
  read : ∀ code, before.fromDisk = true → tree.readText ⟨before.file⟩ = .ok code →
    after.code = code
  kept : ∀ err, before.fromDisk = true → tree.readText ⟨before.file⟩ = .error err →
    after.code = before.code

namespace ScriptModule

theorem rereadSegment_rereads (tree : FileTree) (segment : Segment) :
    segment.Rereads tree (rereadSegment tree segment).1 where
  file := file_rereadSegment tree segment
  startLine := startLine_rereadSegment tree segment
  fromDisk := fromDisk_rereadSegment tree segment
  inline := by
    intro hinline
    simp [rereadSegment, hinline]
  read := by
    intro code hdisk hread
    simp [rereadSegment, hdisk, hread]
  kept := by
    intro err hdisk hread
    simp [rereadSegment, hdisk, hread]

/-! ### Modules that have segments -/

/-- Only a module that is empty or discarded has no segments. -/
def Filled (module : ScriptModule) : Prop :=
  module.segments = [] → module.state = .empty ∨ module.state = .discarded

theorem Filled.edit {module edited : ScriptModule} (hfilled : module.Filled)
    (hedit : module.Edit edited) : edited.Filled := by
  intro hnone
  have hbefore : module.segments = [] := by
    rcases hedit.segments with hsame | ⟨segment, -, -, hadded⟩
    · exact hsame ▸ hnone
    · rw [hadded] at hnone
      simp at hnone
  rcases hedit.state with hsame | ⟨-, -, hsome⟩ | ⟨hready, -⟩
  · rw [hsame]
    exact hfilled hbefore
  · exact absurd hnone hsome
  · have hended := hfilled hbefore
    simp [hready] at hended

theorem Filled.turn {running : Bool} {module turned : ScriptModule}
    (hfilled : module.Filled) (hturn : module.Turn running turned) : turned.Filled := by
  cases hturn with
  | stay => exact hfilled
  | edit hedit => exact hfilled.edit hedit
  | build compiled hready =>
      intro hnone
      have hended := hfilled hnone
      simp [hready] at hended
  | discard => exact fun _ => .inr rfl
  | renew tree hbuilt =>
      intro hnone
      have hended := hfilled (List.map_eq_nil_iff.mp hnone)
      simp [hbuilt] at hended

/-! ### New modules -/

/-- A module that has been given segments and an access mask. -/
def furnished (module : ScriptModule) (segments : List Segment) (access : AccessMask) :
    ScriptModule :=
  { segments.foldl (fun module segment => (module.addSegment segment).1) module with
    access := access }

theorem overlaps_of_apart {module : ScriptModule} {segment : Segment}
    (hapart : ∀ existing ∈ module.segments, existing.Apart segment) :
    module.overlaps segment = false := by
  unfold overlaps
  rw [List.any_eq_false]
  intro existing hexisting
  have hfar := hapart existing hexisting
  simp only [Segment.overlaps, Bool.and_eq_true, beq_iff_eq, decide_eq_true_eq, not_and]
  intro hfile
  have hdistance := hfar hfile
  omega

/-- Segments that do not repeat each other are all taken in, in their order, and
with the first one a module is ready to be built. -/
theorem addSegments_eq {segments : List Segment} {module : ScriptModule}
    (hempty : module.state = .empty ∨ module.state = .readyToBuild)
    (hapart : (module.segments ++ segments).Pairwise Segment.Apart) :
    segments.foldl (fun module segment => (module.addSegment segment).1) module =
      { module with
        segments := module.segments ++ segments
        state := if segments = [] then module.state else .readyToBuild } := by
  induction segments generalizing module with
  | nil => simp
  | cons segment rest ih =>
      have hnew : module.overlaps segment = false := by
        apply overlaps_of_apart
        intro existing hexisting
        exact (List.pairwise_append.mp hapart).2.2 existing hexisting segment
          List.mem_cons_self
      have hadded : (module.addSegment segment).1 =
          { module with segments := module.segments ++ [segment], state := .readyToBuild } := by
        rcases hempty with hstate | hstate <;> simp [addSegment, hnew, hstate]
      rw [List.foldl_cons, hadded, ih]
      · simp
      · exact .inr rfl
      · simpa using hapart

/-- What a new module is that has been given segments which do not repeat each
other. -/
theorem furnished_create {id : Nat} {name source : String} {segments : List Segment}
    {access : AccessMask} (hsome : segments ≠ [])
    (hapart : segments.Pairwise Segment.Apart) :
    (create id name source).furnished segments access =
      { create id name source with
        segments := segments, access := access, state := .readyToBuild } := by
  unfold furnished
  rw [addSegments_eq (.inl rfl) (by simpa [create] using hapart), if_neg hsome]
  rfl

end ScriptModule

/-! ### Builds that come to the same -/

/-- What a compiled script is, but for its name and the number of its build: the
program with its functions, the line map and the access mask. -/
def Compiled.content (compiled : Compiled) : Script.Program × LineMap × AccessMask :=
  (compiled.program, compiled.lines, compiled.access)

namespace ScriptModule

/-- Modules that differ by their names and numbers at most, as far as builds are
concerned. -/
structure Alike (first second : ScriptModule) : Prop where
  state : first.state = second.state
  segments : first.segments = second.segments
  access : first.access = second.access
  watched : first.watched = second.watched
  compiled : first.compiled.map Compiled.content = second.compiled.map Compiled.content

/-- The listeners that are noted of a module have no part in how alike it is. -/
theorem Alike.listening {first second : ScriptModule} (halike : first.Alike second)
    (listeners : Option ListenerIndex) : (first.listening listeners).Alike second :=
  ⟨halike.state, halike.segments, halike.access, halike.watched, halike.compiled⟩

/-- Parsing is a matter of the sources alone. -/
theorem parsePrepared_alike {module other : ScriptModule}
    (haccess : module.access = other.access) (serial serial' : Nat) (prepared : Prepared) :
    (∃ err err', module.parsePrepared serial prepared = .error err ∧
      other.parsePrepared serial' prepared = .error err') ∨
    ∃ compiled compiled', module.parsePrepared serial prepared = .ok compiled ∧
      other.parsePrepared serial' prepared = .ok compiled' ∧
      compiled.content = compiled'.content := by
  unfold parsePrepared
  cases hparse : Script.parse prepared.combined with
  | error err => exact .inl ⟨_, _, rfl, rfl⟩
  | ok program => exact .inr ⟨_, _, rfl, rfl, by simp [Compiled.content, haccess]⟩

/-- Modules that are alike compile to the same, or both do not compile. -/
theorem compile_alike {module other : ScriptModule} {executor executor' : Executor}
    (hsegments : module.segments = other.segments) (haccess : module.access = other.access)
    (hrules : executor.rules = executor'.rules) (tree : FileTree) :
    (∃ err err', (module.compile executor tree).1 = .error err ∧
      (other.compile executor' tree).1 = .error err') ∨
    ∃ compiled compiled' files, (module.compile executor tree).1 = .ok (compiled, files) ∧
      (other.compile executor' tree).1 = .ok (compiled', files) ∧
      compiled.content = compiled'.content := by
  have hprepare : module.prepare executor tree = other.prepare executor' tree :=
    prepare_congr hsegments haccess hrules tree
  have hfiles : module.filesRead tree = other.filesRead tree := by
    funext prepared
    simp only [filesRead, hsegments]
  unfold compile
  rw [hprepare, hfiles]
  cases other.prepare executor' tree with
  | error err => exact .inl ⟨err, err, rfl, rfl⟩
  | ok prepared =>
      dsimp only
      rcases parsePrepared_alike haccess (executor.builds + 1) (executor'.builds + 1)
        prepared with ⟨err, err', herr, herr'⟩ | ⟨compiled, compiled', hok, hok', hsame⟩
      · rw [herr, herr']
        exact .inl ⟨err, err', rfl, rfl⟩
      · rw [hok, hok']
        exact .inr ⟨compiled, compiled', _, rfl, rfl, hsame⟩

end ScriptModule

namespace Act

open World

variable {held : Holdings} {world other : World} {address place : Nat}
  {module fresh : ScriptModule}

/-- What a ready module is built to, or that its build fails. -/
theorem build_ready (hmodule : world.module? address = some module)
    (hready : module.state = .readyToBuild) (hrunning : world.isRunning = true) :
    (∃ err, (module.compile world.executor world.files).1 = .error err ∧
      result (build address) world = none ∧
      (after (build address) world).module? address =
        some { module with state := .failed }) ∨
    ∃ compiled files, (module.compile world.executor world.files).1 = .ok (compiled, files) ∧
      result (build address) world = some compiled ∧
      (after (build address) world).module? address =
        some ((module.withBuild compiled).watching files) := by
  obtain ⟨hresult, hafter⟩ := build_of_ready hmodule hready hrunning
  rw [hresult, hafter]
  cases hcompile : (module.compile world.executor world.files).1 with
  | error err =>
      obtain ⟨hnone, hscripts⟩ := compileModule_of_error hmodule hcompile
      have hfound := congrFun (congrArg Scripts.module? hscripts) address
      rw [Scripts.module?_put_self] at hfound
      exact .inl ⟨err, rfl, hnone, hfound⟩
  | ok built =>
      obtain ⟨hsome, hscripts⟩ := compileModule_of_ok hmodule hcompile
      have hfound := congrFun (congrArg Scripts.module? hscripts) address
      refine .inr ⟨built.1, built.2, rfl, hsome, hfound.trans ?_⟩
      simp [Scripts.withWatcher, Scripts.enter]

/-- Ready modules that are alike come out of their builds alike, wherever they
are, if the files and the rules are the same. -/
theorem build_alike (hmodule : world.module? address = some module)
    (hfresh : other.module? place = some fresh) (halike : module.Alike fresh)
    (hready : module.state = .readyToBuild) (hfiles : world.files = other.files)
    (hrules : world.executor.rules = other.executor.rules)
    (hrunning : world.isRunning = true) (hrunning' : other.isRunning = true) :
    ∃ built built', (after (build address) world).module? address = some built ∧
      (after (build place) other).module? place = some built' ∧ built.Alike built' ∧
      ((result (build address) world).isSome = true ∧
          (result (build place) other).isSome = true ∧ built.state = .built ∨
        (result (build address) world).isSome = false ∧
          (result (build place) other).isSome = false ∧ built.state = .failed) := by
  have hready' : fresh.state = .readyToBuild := halike.state ▸ hready
  have hcompile := ScriptModule.compile_alike halike.segments halike.access hrules world.files
  rcases build_ready hmodule hready hrunning with
    ⟨err, herr, hnone, hfound⟩ | ⟨compiled, files, hok, hsome, hfound⟩
  · rcases build_ready hfresh hready' hrunning' with
      ⟨err', -, hnone', hfound'⟩ | ⟨compiled', files', hok', -⟩
    · refine ⟨_, _, hfound, hfound', ?_, .inr ?_⟩
      · exact ⟨rfl, halike.segments, halike.access, halike.watched, halike.compiled⟩
      · rw [hnone, hnone']
        exact ⟨rfl, rfl, rfl⟩
    · rw [herr, hfiles, hok'] at hcompile
      simp at hcompile
  · rcases build_ready hfresh hready' hrunning' with
      ⟨err', herr', -⟩ | ⟨compiled', files', hok', hsome', hfound'⟩
    · rw [hok, hfiles, herr'] at hcompile
      simp at hcompile
    · rw [hok, hfiles, hok'] at hcompile
      simp at hcompile
      obtain ⟨rfl, hcontent⟩ := hcompile
      refine ⟨_, _, hfound, hfound', ?_, .inl ?_⟩
      · exact ⟨rfl, halike.segments, halike.access, rfl, congrArg some hcontent⟩
      · rw [hsome, hsome']
        exact ⟨rfl, rfl, rfl⟩

end Act

/-! ### In a session -/

namespace Session

open Act

theorem begin_run_filled (files : FileTree) (plan : ExecutorPlan) (steps : List Step) :
    ∀ address module, ((begin files plan).run steps).world.module? address = some module →
      module.Filled := by
  apply run_modules
  · exact fun _ _ _ _ => .inl rfl
  · exact fun _ _ _ hfilled hturn => hfilled.turn hturn

/-- A reload of a built module, whatever the files contain by then: the segments
from files get the texts of the files as far as these can be read, and nothing else
about the segments is changed. The module then is as a new module is that is made
anywhere under the same rules, with the same name, these segments and the same
access mask, and is built from the same files; and the reload tells whether the
build succeeds. -/
theorem reload_builds_anew (files : FileTree) (plan : ExecutorPlan) (steps : List Step)
    (tree : FileTree) {address : Nat} {module : ScriptModule}
    (hmodule : ((begin files plan).run steps).world.module? address = some module)
    (hbuilt : module.state = .built)
    (hrunning : ((begin files plan).run steps).world.isRunning = true) :
    let world : World := { ((begin files plan).run steps).world with files := tree }
    ∃ reloaded, (after (reload address) world).module? address = some reloaded ∧
      List.Forall₂ (Segment.Rereads tree) module.segments reloaded.segments ∧
      ∀ (other : World) (place id : Nat) (source : String),
        other.files = tree → other.executor.rules = world.executor.rules →
          other.isRunning = true →
          other.module? place = some ((ScriptModule.create id module.name source).furnished
            reloaded.segments module.access) →
          ∃ fresh, (after (build place) other).module? place = some fresh ∧
            reloaded.Alike fresh ∧
            ((result (reload address) world).1 = true ∧
                (result (build place) other).isSome = true ∧ reloaded.state = .built ∨
              (result (reload address) world).1 = false ∧
                (result (build place) other).isSome = false ∧ reloaded.state = .failed) := by
  intro world
  have hsession : ((begin files plan).run steps).Sound := begin_run_sound files plan steps
  have hfiled : ((begin files plan).run steps).world.Reaches _ Touch.anything world :=
    hsession.reaches_same rfl rfl rfl rfl rfl
  have hwell : module.WellFormed := hsession.scripts.wellFormed hmodule
  have hfilled := begin_run_filled files plan steps address module hmodule
  obtain ⟨renewed, hsettled, hrenewed, hanswer, built, listeners, hbuild, hafter⟩ :=
    reload_renewed hfiled.sound hmodule hbuilt hrunning
  have hkept : built.segments = (module.renewed tree).segments := by
    rcases build_ready hrenewed rfl (hsettled.isRunning.trans hrunning) with
      ⟨err, -, -, hfound⟩ | ⟨compiled, read, -, -, hfound⟩
    · cases hfound.symm.trans hbuild
      rfl
    · cases hfound.symm.trans hbuild
      rfl
  refine ⟨_, hafter, ?_, ?_⟩
  · change List.Forall₂ (Segment.Rereads tree) module.segments built.segments
    rw [hkept, ScriptModule.renewed, List.forall₂_map_right_iff]
    exact List.forall₂_same.mpr fun segment _ =>
      ScriptModule.rereadSegment_rereads tree segment
  · intro other place id source hfiles hrules hother hplace
    have hsome : (module.renewed tree).segments ≠ [] := by
      intro hnone
      have hended := hfilled (List.map_eq_nil_iff.mp hnone)
      simp [hbuilt] at hended
    have hapart : (module.renewed tree).segments.Pairwise Segment.Apart :=
      (hwell.renewed tree).apart
    change other.module? place = some (ScriptModule.furnished _ built.segments _) at hplace
    rw [hkept, ScriptModule.furnished_create hsome hapart] at hplace
    obtain ⟨rebuilt, fresh, hrebuilt, hfresh, halike, houtcome⟩ :=
      build_alike hrenewed hplace ⟨rfl, rfl, rfl, rfl, rfl⟩ rfl
        (hsettled.files.trans hfiles.symm) (hsettled.rules.trans hrules.symm)
        (hsettled.isRunning.trans hrunning) hother
    cases hrebuilt.symm.trans hbuild
    rw [hanswer]
    exact ⟨fresh, hfresh, halike.listening listeners, houtcome⟩

/-- A directory with the same file, which has been changed. -/
def laterFiles : FileTree :=
  ⟨.directory [("lib.txt", .file (.text "let y = 2;"))], []⟩

/-- The changed file as a segment. -/
def laterSegment : Segment := ⟨"/lib.txt", 1, "let y = 2;", true⟩

/-- A module that was built before its file was changed. -/
def builtReading : Session :=
  reading.run (readingSteps ++ [.onModules (.build "m" none)])

/-- A module that is reloaded after its file was changed is as one that is made from
the changed file. -/
theorem reload_builds_anew_lib :
    ∃ module reloaded fresh, builtReading.world.module? 1 = some module ∧
      module.state = .built ∧
      (after (reload 1) { builtReading.world with files := laterFiles }).module? 1 =
        some reloaded ∧ reloaded.segments = [laterSegment] ∧
      (after (build 1) ((begin laterFiles ⟨none, none, none, none, []⟩).run
        readingSteps).world).module? 1 = some fresh ∧ reloaded.Alike fresh := by
  have hbefore : (builtReading.world.module? 1).map (fun module =>
      (module.state, module.name, module.access)) = some (.built, "M", .moduleDefault) := by
    decide +kernel
  have hafter : ((after (reload 1) { builtReading.world with files := laterFiles }).module? 1).map
      ScriptModule.segments = some [laterSegment] := by
    decide +kernel
  obtain ⟨module, hmodule, hsame⟩ := Option.map_eq_some_iff.mp hbefore
  obtain ⟨hbuilt, hrest⟩ := Prod.mk.inj hsame
  obtain ⟨hname, haccess⟩ := Prod.mk.inj hrest
  have hrunning : builtReading.world.isRunning = true := by decide +kernel
  unfold builtReading reading at hmodule hrunning hafter
  have hanew := @reload_builds_anew libFiles ⟨none, none, none, none, []⟩
    (readingSteps ++ [.onModules (.build "m" none)]) laterFiles 1 module
  obtain ⟨reloaded, hreloaded, -, hfresh⟩ := hanew hmodule hbuilt hrunning
  obtain ⟨found, hfound, hsegments⟩ := Option.map_eq_some_iff.mp hafter
  cases hfound.symm.trans hreloaded
  have hmade : ((begin laterFiles ⟨none, none, none, none, []⟩).run
      readingSteps).world.module? 1 = some ((ScriptModule.create 1 module.name "host").furnished
        reloaded.segments module.access) := by
    rw [hname, haccess, hsegments]
    rfl
  have hbuild := hfresh ((begin laterFiles ⟨none, none, none, none, []⟩).run
    readingSteps).world 1 1 "host"
  obtain ⟨fresh, hfound, halike, -⟩ :=
    hbuild rfl (by decide +kernel) (by decide +kernel) hmade
  unfold builtReading reading
  exact ⟨module, reloaded, fresh, hmodule, hbuilt, hreloaded, hsegments, hfound, halike⟩

end Session

end ScriptHost
