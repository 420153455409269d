import ScriptHost.Proofs.Closure
import ScriptHost.Proofs.Turns

/-!
Which files a build is made of. A segment that comes from a file begins where the file does, so
none of them repeats another one of the same path text; included files are told apart by their
normalized paths. Only a file that is added under two spellings is compiled twice.
-/

namespace ScriptHost

/-! ### Segments from files -/

/-- The segments of the module that come from files begin where the files do. -/
def ScriptModule.Whole (module : ScriptModule) : Prop :=
  ∀ segment ∈ module.segments, segment.Whole

namespace ScriptModule

theorem fromDisk_rereadSegment (tree : FileTree) (segment : Segment) :
    (rereadSegment tree segment).1.fromDisk = segment.fromDisk := by
  unfold rereadSegment
  split
  · split <;> rfl
  · rfl

theorem Whole.edit {module edited : ScriptModule} (hwhole : module.Whole)
    (hedit : module.Edit edited) : edited.Whole := by
  rcases hedit.segments with hsame | ⟨segment, hsegment, -, hadded⟩
  · unfold Whole
    rw [hsame]
    exact hwhole
  · intro other hother
    rw [hadded, List.mem_append, List.mem_singleton] at hother
    rcases hother with hother | rfl
    · exact hwhole other hother
    · exact hsegment

theorem Whole.renewed {module : ScriptModule} (hwhole : module.Whole) (tree : FileTree) :
    (module.renewed tree).Whole := by
  intro segment hsegment
  obtain ⟨original, horiginal, rfl⟩ := List.mem_map.mp hsegment
  unfold Segment.Whole
  rw [fromDisk_rereadSegment, startLine_rereadSegment]
  exact hwhole original horiginal

theorem Whole.turn {running : Bool} {module later : ScriptModule} (hwhole : module.Whole)
    (hturn : module.Turn running later) : later.Whole := by
  cases hturn with
  | stay => exact hwhole
  | edit hedit => exact hwhole.edit hedit
  | build compiled _ _ => exact hwhole
  | discard => exact hwhole
  | renew tree _ => exact hwhole.renewed tree

end ScriptModule

theorem Session.begin_run_whole (files : FileTree) (plan : ExecutorPlan) (steps : List Step) :
    ∀ address module, ((begin files plan).run steps).world.module? address = some module →
      module.Whole := by
  apply run_modules
  · intro id name source segment hsegment
    cases hsegment
  · intro running module turned hwhole hturn
    exact hwhole.turn hturn

/-! ### Files that are compiled -/

namespace Prepared

variable {search : SourceSearch} {tree : FileTree} {segments : List Segment}
  {prepared : Prepared} {found : List (Path × Segment)}

/-- The segment belongs to a file whose normalized path is that of the other one. -/
def SameFile (tree : FileTree) (segment other : Segment) : Prop :=
  (tree.normalize ⟨segment.file⟩).same (tree.normalize ⟨other.file⟩) = true

/-- Segments from files that do not repeat each other have different path texts. -/
theorem file_ne_of_apart {segment other : Segment} (hsegment : segment.Whole)
    (hother : other.Whole) (hdisk : segment.fromDisk = true) (hdisk' : other.fromDisk = true)
    (hapart : segment.Apart other) : segment.file ≠ other.file := by
  intro hfile
  have hdistance := hapart hfile
  rw [hsegment hdisk, hother hdisk'] at hdistance
  exact absurd hdistance (by decide)

/-- The included files are neither included twice nor segments already. -/
theorem Closed.pairwise_sources (hclosed : Closed search tree segments prepared found)
    (hsegments : (segments.filter (·.fromDisk)).Pairwise fun a b => ¬SameFile tree a b) :
    ((segments ++ found.map (·.2)).filter (·.fromDisk)).Pairwise
      fun a b => ¬SameFile tree a b := by
  have hpath : ∀ entry ∈ found, (⟨entry.2.file⟩ : Path) = entry.1 := by
    intro entry hentry
    obtain ⟨code, -, hfile⟩ := Segment.ofFile_eq_ok.mp (hclosed.read entry hentry)
    rw [hfile]
  rw [List.filter_append, List.pairwise_append]
  refine ⟨hsegments, List.Pairwise.filter _ ?_, fun segment hsegment other hother => ?_⟩
  · rw [List.pairwise_map]
    have hapart := hclosed.apart
    rw [taken, List.pairwise_map] at hapart
    refine hapart.imp_of_mem fun {entry other} hentry hother hdiffer => ?_
    rw [SameFile, hpath entry hentry, hpath other hother, hdiffer]
    exact Bool.false_ne_true
  · obtain ⟨entry, hentry, rfl⟩ := List.mem_map.mp (List.mem_filter.mp hother).1
    rw [SameFile, hpath entry hentry, hclosed.unlisted entry hentry _
      (List.mem_map_of_mem hsegment)]
    exact Bool.false_ne_true

end Prepared

/-- What a module is compiled to comes of its prepared sources. -/
theorem ScriptModule.compile_sources {module : ScriptModule} {executor : Executor}
    {tree : FileTree} {compiled : Compiled} {read : List Path}
    (hcompile : (module.compile executor tree).1 = .ok (compiled, read)) :
    ∃ prepared, Prepared.ofSegments executor.search tree module.segments = .ok prepared ∧
      compiled.lines = prepared.lines ∧ Script.parse prepared.combined = .ok compiled.program := by
  obtain ⟨prepared, hprepare, hparse, -⟩ := compile_ok hcompile
  refine ⟨prepared, ?_, ?_⟩
  · unfold prepare at hprepare
    split at hprepare
    · cases hprepare
    · rename_i sources hsources
      split at hprepare
      · cases hprepare
      · cases hprepare
        exact hsources
  · unfold parsePrepared at hparse
    split at hparse
    · cases hparse
    · rename_i program hprogram
      rw [Except.ok.injEq] at hparse
      rw [← hparse]
      exact ⟨rfl, hprogram⟩

namespace Session

open Prepared

/-- Whatever has been done in a session, a build that succeeds compiles the segments of the module
and the files they include. No file is compiled twice, unless it has been added under two
spellings. -/
theorem files_compiled_once (files : FileTree) (plan : ExecutorPlan) (steps : List Step)
    {tree : FileTree} (hnamed : tree.WellNamed) :
    let session := (begin files plan).run steps
    ∀ address module executor compiled read, session.world.module? address = some module →
      (module.compile executor tree).1 = .ok (compiled, read) →
      ∃ included : List Segment,
        compiled.lines.segments = (module.segments ++ included).map Segment.rewritten ∧
        Script.parse ((module.segments ++ included).flatMap fun source =>
          segmentText source.rewritten) = .ok compiled.program ∧
        (((module.segments ++ included).filter (·.fromDisk)).Pairwise
            (fun a b => ¬SameFile tree a b) ↔
          (module.segments.filter (·.fromDisk)).Pairwise
            fun a b => a.file ≠ b.file → ¬SameFile tree a b) := by
  intro session address module executor compiled read hmodule hcompile
  have hwhole : module.Whole := begin_run_whole files plan steps address module hmodule
  have hwell : module.WellFormed := (begin_run_sound files plan steps).scripts.wellFormed hmodule
  obtain ⟨prepared, hprepared, hlines, hparse⟩ := ScriptModule.compile_sources hcompile
  obtain ⟨-, found, hclosed⟩ := ofSegments_ok hnamed hprepared
  refine ⟨found.map (·.2), hlines ▸ hclosed.rewrites, ?_, fun hsources => ?_, fun hspelled => ?_⟩
  · rwa [combined, hclosed.rewrites, List.flatMap_map] at hparse
  · rw [List.filter_append, List.pairwise_append] at hsources
    refine hsources.1.imp ?_
    intro segment other hdiffer _
    exact hdiffer
  · refine hclosed.pairwise_sources ?_
    refine (hspelled.and (hwell.apart.filter _)).imp_of_mem
      fun {segment other} hsegment hother hboth => ?_
    obtain ⟨hmem, hdisk⟩ := List.mem_filter.mp hsegment
    obtain ⟨hmem', hdisk'⟩ := List.mem_filter.mp hother
    exact hboth.1 (file_ne_of_apart (hwhole _ hmem) (hwhole _ hmem') hdisk hdisk' hboth.2)

/-- The steps by which a module is built from a file. -/
def readingSteps : List Step :=
  [.onModules (.create (some "m") "M" "host" none),
    .onModules (.addFile "m" ⟨"/lib.txt"⟩)]

/-- A directory with one file. -/
def libFiles : FileTree :=
  ⟨.directory [("lib.txt", .file (.text "let x = 1;"))], []⟩

/-- A session with one file. -/
def reading : Session :=
  begin libFiles ⟨none, none, none, none, []⟩

/-- A module is built from one file. -/
theorem files_compiled_once_lib :
    libFiles.WellNamed ∧ ∃ module compiled read,
      (reading.run readingSteps).world.module? 1 = some module ∧
      (module.compile (reading.run readingSteps).world.executor libFiles).1 =
        .ok (compiled, read) ∧
      ∃ included : List Segment, ((module.segments ++ included).filter Segment.fromDisk).Pairwise
        fun a b => ¬SameFile libFiles a b := by
  have hnamed : libFiles.WellNamed := fun name hname => absurd hname List.not_mem_nil
  have hstate : ((reading.run readingSteps).world.module? 1).map (fun module =>
      (module.segments.map Segment.file,
        ((module.compile (reading.run readingSteps).world.executor libFiles).1.toOption.map
          fun _ => ()))) = some (["/lib.txt"], some ()) := by decide +kernel
  have honce := files_compiled_once libFiles ⟨none, none, none, none, []⟩ readingSteps hnamed
  rw [← reading] at honce
  generalize reading.run readingSteps = session at *
  obtain ⟨module, hmodule, hboth⟩ := Option.map_eq_some_iff.mp hstate
  obtain ⟨hfiles, hsuccess⟩ := Prod.mk.inj hboth
  cases hcompile : (module.compile session.world.executor libFiles).1 with
  | error err =>
      rw [hcompile] at hsuccess
      cases hsuccess
  | ok result =>
      obtain ⟨compiled, read⟩ := result
      obtain ⟨included, -, -, hiff⟩ := honce 1 module _ compiled read hmodule hcompile
      refine ⟨hnamed, module, compiled, read, hmodule, hcompile, included, hiff.mpr ?_⟩
      obtain ⟨segment, rest, hsegments, -, hrest⟩ := List.map_eq_cons_iff.mp hfiles
      rw [hsegments, List.map_eq_nil_iff.mp hrest]
      exact List.Pairwise.filter _ (List.pairwise_singleton _ _)

/-- A file that is added under two spellings is compiled twice. -/
theorem files_compiled_twice :
    ((reading.run (readingSteps ++ [.onModules (.addFile "m" ⟨"/./lib.txt"⟩),
        .onModules (.build "m" (some "c"))])).compiled.get? "c").map (fun compiled =>
      compiled.lines.segments.map fun segment =>
        (segment.file, segment.fromDisk, libFiles.normalize ⟨segment.file⟩)) =
      some [("/lib.txt", true, ⟨"/lib.txt"⟩), ("/./lib.txt", true, ⟨"/lib.txt"⟩)] := by
  decide +kernel

end Session

end ScriptHost
