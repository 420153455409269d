import Mathlib.Logic.Relation
import ScriptHost.Proofs.Bookkeeping
import ScriptHost.Proofs.Noticing
import ScriptHost.Proofs.Spelling

/-!
A watcher that is abreast of some paths has seen the present content of each of them that it watches.
Looking at the paths brings it abreast, and it remains so as long as registrations end and others are
made from the same files. A watcher that is abreast finds no changes, so whoever looks twice finds
nothing the second time.
-/

namespace ScriptHost.Watcher

variable {watcher : Watcher} {tree : FileTree} {idOf : Nat → Option Nat}

/-- Whether none of the watched ones among some paths brings news. -/
def Abreast (watcher : Watcher) (tree : FileTree) (paths : List Path) : Prop :=
  ∀ path ∈ paths, watcher.isRead (tree.normalize path) = true → ¬ watcher.IsNews tree path

theorem isRead_congr (watcher : Watcher) {path other : Path}
    (hsame : path.components = other.components) : watcher.isRead path = watcher.isRead other := by
  unfold isRead
  congr 1
  funext registration
  exact registration.reads_congr hsame

theorem isRead_eq_true_iff (watcher : Watcher) (path : Path) :
    watcher.isRead path = true ↔
      ∃ registration ∈ watcher.registrations, registration.reads path = true :=
  List.any_eq_true

/-- A watched path that brings no news shows the content that was last seen. -/
theorem Abreast.seen {paths : List Path} (habreast : watcher.Abreast tree paths) {path : Path}
    (hpath : path ∈ paths) (hread : watcher.isRead (tree.normalize path) = true)
    {content : FileContent} (hcontent : tree.read (tree.normalize path) = .ok content) :
    watcher.contents.get? (tree.normalize path).components = some content := by
  by_contra hnew
  exact habreast path hpath hread ⟨content, hcontent, hnew⟩

/-- A watcher is abreast of paths if it has seen the content of each that it watches. -/
theorem abreast_of_seen {paths : List Path}
    (hseen : ∀ path ∈ paths, watcher.isRead (tree.normalize path) = true → ∀ content,
      tree.read (tree.normalize path) = .ok content →
        watcher.contents.get? (tree.normalize path).components = some content) :
    watcher.Abreast tree paths := by
  rintro path hpath hread ⟨content, hcontent, hnew⟩
  exact hnew (hseen path hpath hread content hcontent)

/-! ### Ending registrations -/

/-- What is forgotten is the content of a file that nobody reads. -/
theorem contents_forget (watcher : Watcher) (file : Path) {path : Path}
    (hread : watcher.isRead path = true) :
    (watcher.forget file).contents.get? path.components =
      watcher.contents.get? path.components := by
  have hrelease : ∀ directory,
      (watcher.releaseDirectory directory).contents = watcher.contents ∧
        (watcher.releaseDirectory directory).registrations = watcher.registrations := by
    intro directory
    unfold releaseDirectory
    split
    · exact ⟨rfl, rfl⟩
    · split <;> exact ⟨rfl, rfl⟩
  -- releasing the directory of the file leaves what decides
  have hkeep : ∀ released : Watcher, released.contents = watcher.contents →
      released.registrations = watcher.registrations →
        (if released.isRead file then released
          else { released with contents := released.contents.erase file.components }).contents.get?
            path.components = watcher.contents.get? path.components := by
    intro released hcontents hregistrations
    split
    · rw [hcontents]
    · rename_i hunread
      dsimp only
      rw [hcontents]
      refine Table.get?_erase_other _ fun hsame => hunread ?_
      rw [isRead, hregistrations, ← isRead, watcher.isRead_congr hsame]
      exact hread
  unfold forget
  cases file.parent? with
  | none => exact hkeep watcher rfl rfl
  | some directory => exact hkeep _ (hrelease directory).1 (hrelease directory).2

theorem contents_foldl_forget (files : List Path) {watcher : Watcher} {path : Path}
    (hread : watcher.isRead path = true) :
    (files.foldl forget watcher).contents.get? path.components =
      watcher.contents.get? path.components := by
  induction files generalizing watcher with
  | nil => rfl
  | cons file rest ih =>
      have hstill : (watcher.forget file).isRead path = true := by
        rw [isRead, registrations_forget]
        exact hread
      rw [List.foldl_cons, ih hstill, contents_forget watcher file hread]

/-- Ending a registration leaves the contents of files that others read. -/
theorem contents_unwatch {id : Nat} {path : Path}
    (hread : (watcher.unwatch id).isRead path = true) :
    (watcher.unwatch id).contents.get? path.components =
      watcher.contents.get? path.components := by
  unfold unwatch at hread ⊢
  split
  · rfl
  · rename_i place hplace
    rw [hplace] at hread
    refine contents_foldl_forget _ ?_
    rwa [isRead, registrations_foldl_forget] at hread

theorem isRead_of_unwatch {id : Nat} {path : Path}
    (hread : (watcher.unwatch id).isRead path = true) : watcher.isRead path = true := by
  obtain ⟨registration, hmem, hreads⟩ := (isRead_eq_true_iff _ path).mp hread
  exact (isRead_eq_true_iff _ path).mpr ⟨registration, mem_of_mem_unwatch hmem, hreads⟩

theorem Abreast.unwatch {paths : List Path} (habreast : watcher.Abreast tree paths) (id : Nat) :
    (watcher.unwatch id).Abreast tree paths := by
  apply abreast_of_seen
  intro path hpath hread content hcontent
  rw [contents_unwatch hread]
  exact habreast.seen hpath (isRead_of_unwatch hread) hcontent

theorem Abreast.foldl_unwatch {paths : List Path} (habreast : watcher.Abreast tree paths)
    (ids : List Nat) : (ids.foldl Watcher.unwatch watcher).Abreast tree paths := by
  induction ids generalizing watcher with
  | nil => exact habreast
  | cons id rest ih => exact ih (habreast.unwatch id)

/-! ### Making registrations -/

/-- What taking in a file makes of the contents: that of a file that can be read is recorded. -/
theorem contents_takeFile (accepts : Path → Bool) (tree : FileTree) (watcher : Watcher)
    (file : Path) :
    (takeFile accepts tree watcher file).1.contents = watcher.contents ∧
        ((takeFile accepts tree watcher file).2 = .ok () →
          ∀ content, tree.read file ≠ .ok content) ∨
      ∃ content, tree.read file = .ok content ∧
        (takeFile accepts tree watcher file).1.contents =
          watcher.contents.set file.components content := by
  unfold takeFile
  cases file.parent? with
  | none =>
      dsimp only
      cases tree.read file with
      | error err => exact .inl ⟨rfl, fun _ _ hread => by cases hread⟩
      | ok content => exact .inr ⟨content, rfl, rfl⟩
  | some directory =>
      dsimp only
      cases hdirectory : watcher.retainDirectory accepts directory with
      | error err => exact .inl ⟨rfl, fun hok => by cases hok⟩
      | ok found =>
          have hsame := retainDirectory_contents hdirectory
          dsimp only
          cases tree.read file with
          | error err => exact .inl ⟨hsame, fun _ _ hread => by cases hread⟩
          | ok content => exact .inr ⟨content, rfl, by rw [hsame]⟩

section Taking

variable {path : Path} {content : FileContent} {accepts : Path → Bool}

/-- Taking in a file keeps the content that was seen of a path, and sees that of the path if the file
is the same. -/
theorem takeFile_seen (accepts : Path → Bool) (watcher : Watcher) {file : Path}
    (hfile : file.components = path.components → tree.read file = .ok content) :
    (watcher.contents.get? path.components = some content →
      (takeFile accepts tree watcher file).1.contents.get? path.components = some content) ∧
    ((takeFile accepts tree watcher file).2 = .ok () → file.components = path.components →
      (takeFile accepts tree watcher file).1.contents.get? path.components = some content) := by
  rcases contents_takeFile accepts tree watcher file with
    ⟨hsame, hunread⟩ | ⟨found, hread, hset⟩
  · rw [hsame]
    exact ⟨id, fun hok hcomponents => absurd (hfile hcomponents) (hunread hok content)⟩
  · rw [hset, Table.get?_set]
    by_cases hcomponents : file.components = path.components
    · rw [if_pos hcomponents]
      have hfound : found = content := by
        have hboth := hread.symm.trans (hfile hcomponents)
        exact Except.ok.inj hboth
      exact ⟨fun _ => congrArg some hfound, fun _ _ => congrArg some hfound⟩
    · rw [if_neg hcomponents]
      exact ⟨id, fun _ hsame => absurd hsame hcomponents⟩

theorem takeFiles_seen (accepts : Path → Bool) (watcher : Watcher) {files : List Path}
    (hfiles : ∀ file ∈ files, file.components = path.components → tree.read file = .ok content) :
    (watcher.contents.get? path.components = some content →
      (takeFiles accepts tree watcher files).1.contents.get? path.components = some content) ∧
    ((takeFiles accepts tree watcher files).2 = .ok () →
      (∃ file ∈ files, file.components = path.components) →
        (takeFiles accepts tree watcher files).1.contents.get? path.components =
          some content) := by
  induction files generalizing watcher with
  | nil => exact ⟨id, fun _ ⟨_, hmem, _⟩ => by cases hmem⟩
  | cons file rest ih =>
      obtain ⟨hkept, htaken⟩ := takeFile_seen accepts watcher (hfiles file List.mem_cons_self)
      have hrest : ∀ other ∈ rest, other.components = path.components →
          tree.read other = .ok content :=
        fun other hother => hfiles other (List.mem_cons_of_mem _ hother)
      unfold takeFiles
      cases hresult : takeFile accepts tree watcher file with
      | mk found outcome =>
          rw [hresult] at hkept htaken
          cases outcome with
          | error err =>
              dsimp only at hkept ⊢
              exact ⟨hkept, fun hok => by cases hok⟩
          | ok done =>
              obtain ⟨hkept', htaken'⟩ := ih found hrest
              refine ⟨fun hbefore => hkept' (hkept hbefore), fun hok hsome => ?_⟩
              obtain ⟨other, hother, hsame⟩ := hsome
              rcases List.mem_cons.mp hother with rfl | hmem
              · exact hkept' (htaken rfl hsame)
              · exact htaken' hok ⟨other, hmem, hsame⟩

end Taking

/-- A new registration, made from the files that are there, leaves a watcher abreast. -/
theorem Abreast.register {paths : List Path} (habreast : watcher.Abreast tree paths)
    (hnamed : tree.WellNamed) (accepts : Path → Bool) (id target : Nat) (files : List Path) :
    (watcher.register accepts tree id target files).1.Abreast tree paths := by
  apply abreast_of_seen
  intro path hpath hread content hcontent
  -- a registered file with the components of the path is the path, so it has its content
  have hfiles : ∀ file ∈ files.map tree.normalize,
      file.components = (tree.normalize path).components → tree.read file = .ok content := by
    intro file hfile hsame
    obtain ⟨other, -, rfl⟩ := List.mem_map.mp hfile
    rw [FileTree.normalize_eq_of_components hnamed hcontent hsame.symm]
    exact hcontent
  obtain ⟨hkept, htaken⟩ := takeFiles_seen accepts (watcher.unwatch id) hfiles
  have hregistrations := registrations_takeFiles accepts tree (files.map tree.normalize)
    (watcher.unwatch id)
  have hearlier : (watcher.unwatch id).isRead (tree.normalize path) = true →
      (watcher.unwatch id).contents.get? (tree.normalize path).components = some content :=
    fun hstill => (habreast.unwatch id).seen hpath hstill hcontent
  unfold Watcher.register at hread ⊢
  dsimp only at hread ⊢
  cases hresult : takeFiles accepts tree (watcher.unwatch id) (files.map tree.normalize) with
  | mk found outcome =>
      rw [hresult] at hread hkept htaken hregistrations
      cases outcome with
      | error err =>
          apply hkept
          apply hearlier
          rwa [isRead, hregistrations] at hread
      | ok done =>
          obtain ⟨registration, hmem, hreads⟩ := (isRead_eq_true_iff _ _).mp hread
          rcases List.mem_append.mp hmem with hold | hnew
          · apply hkept
            apply hearlier
            rw [hregistrations] at hold
            exact (isRead_eq_true_iff _ _).mpr ⟨registration, hold, hreads⟩
          · rw [List.mem_singleton.mp hnew] at hreads
            obtain ⟨file, hfile, hsame⟩ := List.any_eq_true.mp hreads
            exact htaken rfl ⟨file, hfile, by simpa [Path.same] using hsame⟩

/-! ### Looking at paths -/

theorem contents_lookAt (idOf : Nat → Option Nat) (state : Watcher × Changes) (path : Path) :
    (lookAt tree idOf state path).1.contents = state.1.contents ∨
      ∃ content, tree.read (tree.normalize path) = .ok content ∧
        (lookAt tree idOf state path).1.contents =
          state.1.contents.set (tree.normalize path).components content := by
  obtain ⟨watcher, changes⟩ := state
  unfold lookAt
  dsimp only
  split
  · exact .inl rfl
  · split
    · exact .inl rfl
    · rename_i content hread
      split
      · exact .inl rfl
      · exact .inr ⟨content, hread, rfl⟩

/-- Whoever looks at a path knows its content afterwards, if it is a watched one. -/
theorem seen_lookAt (state : Watcher × Changes) {path : Path}
    (hread : state.1.isRead (tree.normalize path) = true) {content : FileContent}
    (hcontent : tree.read (tree.normalize path) = .ok content) :
    (lookAt tree idOf state path).1.contents.get? (tree.normalize path).components =
      some content := by
  obtain ⟨watcher, changes⟩ := state
  have hread : watcher.isRead (tree.normalize path) = true := hread
  unfold lookAt
  simp only [hread, hcontent, Bool.not_true, Bool.false_eq_true, if_false]
  split
  · assumption
  · exact Table.get?_set_self _ _ _

/-- Looking at a further path brings a watcher abreast of it. -/
theorem Abreast.lookAt {seen : List Path} {state : Watcher × Changes}
    (habreast : state.1.Abreast tree seen) (hnamed : tree.WellNamed) (path : Path) :
    (lookAt tree idOf state path).1.Abreast tree (seen ++ [path]) := by
  apply abreast_of_seen
  intro other hother hread content hcontent
  rw [isRead, registrations_lookAt] at hread
  rcases List.mem_append.mp hother with hseen | hlast
  · have hbefore := habreast.seen hseen hread hcontent
    rcases contents_lookAt idOf state path with hsame | ⟨found, hfound, hset⟩
    · rw [hsame]
      exact hbefore
    · rw [hset, Table.get?_set]
      split
      · rename_i hcomponents
        rw [← FileTree.normalize_eq_of_components hnamed hfound hcomponents] at hfound
        exact congrArg some (Except.ok.inj (hfound.symm.trans hcontent))
      · exact hbefore
  · rw [List.mem_singleton.mp hlast] at hread hcontent ⊢
    exact seen_lookAt state hread hcontent

theorem Abreast.foldl_lookAt (hnamed : tree.WellNamed) (paths : List Path) {seen : List Path}
    {state : Watcher × Changes} (habreast : state.1.Abreast tree seen) :
    (paths.foldl (Watcher.lookAt tree idOf) state).1.Abreast tree (seen ++ paths) := by
  induction paths generalizing seen state with
  | nil =>
      rw [List.append_nil]
      exact habreast
  | cons path rest ih =>
      rw [List.foldl_cons, List.append_cons]
      exact ih (habreast.lookAt hnamed path)

/-- A watcher that has collected the modules to reload for some paths is abreast of them. -/
theorem collectTargets_abreast (hnamed : tree.WellNamed) (watcher : Watcher)
    (idOf : Nat → Option Nat) (paths : List Path) :
    (watcher.collectTargets tree idOf paths).1.Abreast tree paths := by
  have hnothing : watcher.Abreast tree [] := fun path hpath => by cases hpath
  have hlooked : (paths.foldl (Watcher.lookAt tree idOf)
      (watcher, ⟨[], []⟩)).1.Abreast tree ([] ++ paths) :=
    Abreast.foldl_lookAt hnamed paths hnothing
  exact hlooked.foldl_unwatch _

/-- A path that brings no news changes nothing. -/
theorem lookAt_of_abreast {paths : List Path} (habreast : watcher.Abreast tree paths) {path : Path}
    (hpath : path ∈ paths) (changes : Changes) :
    Watcher.lookAt tree idOf (watcher, changes) path = (watcher, changes) := by
  unfold Watcher.lookAt
  dsimp only
  split
  · rfl
  · rename_i hread
    have hread : watcher.isRead (tree.normalize path) = true := by simpa using hread
    split
    · rfl
    · rename_i content hcontent
      exact if_pos (habreast.seen hpath hread hcontent)

/-- A watcher that is abreast of the paths finds no modules to reload and remains as it is. -/
theorem Abreast.collectTargets {paths : List Path} (habreast : watcher.Abreast tree paths)
    (idOf : Nat → Option Nat) : watcher.collectTargets tree idOf paths = (watcher, []) := by
  have hfold : ∀ rest : List Path, (∀ path ∈ rest, path ∈ paths) →
      rest.foldl (Watcher.lookAt tree idOf) (watcher, ⟨[], []⟩) = (watcher, ⟨[], []⟩) := by
    intro rest hrest
    induction rest with
    | nil => rfl
    | cons path rest ih =>
        rw [List.foldl_cons, lookAt_of_abreast habreast (hrest path List.mem_cons_self)]
        exact ih fun other hother => hrest other (List.mem_cons_of_mem _ hother)
  unfold Watcher.collectTargets
  rw [hfold paths fun _ hpath => hpath]
  rfl

/-! ### Registering again -/

/-- What the reload of a module does to a watcher: its registration ends, and another one is made
from the same files. -/
inductive Renews (tree : FileTree) (id target : Nat) : Watcher → Watcher → Prop
  | unwatch (watcher : Watcher) : Renews tree id target watcher (watcher.unwatch id)
  | watch (watcher : Watcher) (files : List Path) :
      Renews tree id target watcher (watcher.watch tree id target files).1

/-- A reload of a module, as far as the watcher goes. -/
abbrev Renewed (tree : FileTree) (id target : Nat) : Watcher → Watcher → Prop :=
  Relation.ReflTransGen (Renews tree id target)

theorem Abreast.renewed {paths : List Path} {id target : Nat} {later : Watcher}
    (habreast : watcher.Abreast tree paths) (hnamed : tree.WellNamed)
    (hrenewed : Renewed tree id target watcher later) : later.Abreast tree paths := by
  induction hrenewed with
  | refl => exact habreast
  | tail _ hrenews ih =>
      cases hrenews with
      | unwatch => exact ih.unwatch id
      | watch => exact ih.register hnamed _ id target _

/-- The reload of a module concerns registrations under its number, and makes them for it. -/
theorem Renewed.registrations {id target : Nat} {later : Watcher}
    (hrenewed : Renewed tree id target watcher later) :
    (∀ registration ∈ later.registrations, registration ∈ watcher.registrations ∨
      registration.id = id ∧ registration.target = target) ∧
    ∀ registration ∈ watcher.registrations, registration.id ≠ id →
      registration ∈ later.registrations := by
  induction hrenewed with
  | refl => exact ⟨fun _ hmem => .inl hmem, fun _ hmem _ => hmem⟩
  | @tail middle _ _ hrenews ih =>
      obtain ⟨hsound, hkept⟩ := ih
      cases hrenews with
      | unwatch =>
          exact ⟨fun registration hmem => hsound registration (mem_of_mem_unwatch hmem),
            fun registration hmem hne => mem_unwatch_of_ne (hkept registration hmem hne) hne⟩
      | watch files =>
          refine ⟨fun registration hmem => ?_, fun registration hmem hne => ?_⟩
          · rcases mem_watch hmem with rfl | hold
            · exact .inr ⟨rfl, rfl⟩
            · exact hsound registration hold
          · have hstill := mem_unwatch_of_ne (hkept registration hmem hne) hne
            rcases middle.watch_registrations tree id target files with hsame | hnew
            · rwa [hsame]
            · rw [hnew]
              exact List.mem_append_left _ hstill

end ScriptHost.Watcher
