import ScriptHost.Proofs.Table
import ScriptHost.Proofs.Watching

/-!
The books of the watcher. It counts the registered files of each directory, and remembers contents
of registered files alone, whatever calls are made on it; only what a registration has taken in
before it failed stays in the books, although no registration reads it.
-/

namespace ScriptHost

namespace Watcher

variable {accepts : Path → Bool} {tree : FileTree} {idOf : Nat → Option Nat}
  {watcher after : Watcher} {file directory : Path} {files more : List Path}
  {err : WatchError} {key : List Path.Component}

/-! ### Taking files in and forgetting them -/

/-- The number of files in a directory. -/
def countIn (files : List Path) (key : List Path.Component) : Nat :=
  files.countP fun file => file.parent?.map Path.components == some key

theorem countIn_cons (file : Path) (files : List Path) (key : List Path.Component) :
    countIn (file :: files) key =
      countIn files key + if file.parent?.map Path.components = some key then 1 else 0 := by
  simp [countIn, List.countP_cons]

/-- The books show exactly `files`: their number for each directory that has some, and contents of
none but them. -/
structure Shows (watcher : Watcher) (files : List Path) : Prop where
  counts : ∀ key, watcher.directories.get? key =
    if countIn files key = 0 then none else some (countIn files key)
  contents : ∀ key, (watcher.contents.get? key).isSome = true →
    ∃ file ∈ files, file.components = key

theorem Shows.perm (hshows : watcher.Shows files) (hperm : files.Perm more) :
    watcher.Shows more where
  counts := by
    intro key
    have hcount : countIn files key = countIn more key := hperm.countP_eq _
    rw [← hcount]
    exact hshows.counts key
  contents := by
    intro key hkey
    obtain ⟨file, hfile, hsame⟩ := hshows.contents key hkey
    exact ⟨file, hperm.mem_iff.mp hfile, hsame⟩

theorem empty_shows : Watcher.empty.Shows [] where
  counts := fun _ => rfl
  contents := fun key hkey => by cases hkey

theorem countIn_cons_parent (hparent : file.parent? = some directory) :
    countIn (file :: files) directory.components = countIn files directory.components + 1 := by
  rw [countIn_cons, if_pos (by rw [hparent]; rfl)]

theorem countIn_cons_other (hparent : file.parent? = some directory)
    (hkey : directory.components ≠ key) : countIn (file :: files) key = countIn files key := by
  rw [countIn_cons, if_neg (by rw [hparent]; simpa using hkey), Nat.add_zero]

theorem countIn_cons_rootless (hparent : file.parent? = none) (key : List Path.Component) :
    countIn (file :: files) key = countIn files key := by
  rw [countIn_cons, if_neg (by rw [hparent]; simp), Nat.add_zero]

theorem retainDirectory_counts (hshows : watcher.Shows files)
    (hparent : file.parent? = some directory)
    (hretained : watcher.retainDirectory accepts directory = .ok after) (key : List Path.Component) :
    after.directories.get? key =
      if countIn (file :: files) key = 0 then none else some (countIn (file :: files) key) := by
  have hcount := hshows.counts directory.components
  have hset : ∀ count, count = countIn files directory.components + 1 →
      after = { watcher with
        directories := watcher.directories.set directory.components count } →
      after.directories.get? key =
        if countIn (file :: files) key = 0 then none else some (countIn (file :: files) key) := by
    rintro count rfl rfl
    rw [Table.get?_set]
    split
    · rename_i hkey
      rw [← hkey, countIn_cons_parent hparent, if_neg (Nat.succ_ne_zero _)]
    · rename_i hkey
      rw [countIn_cons_other hparent hkey]
      exact hshows.counts key
  unfold retainDirectory at hretained
  split at hretained
  · rename_i count hfound
    rw [hfound] at hcount
    split at hcount
    · cases hcount
    · cases hcount
      cases hretained
      exact hset _ rfl rfl
  · rename_i hfound
    rw [hfound] at hcount
    split at hcount
    · rename_i hzero
      split at hretained
      · cases hretained
        exact hset _ (by rw [hzero]) rfl
      · cases hretained
    · cases hcount

theorem retainDirectory_contents
    (hretained : watcher.retainDirectory accepts directory = .ok after) :
    after.contents = watcher.contents := by
  unfold retainDirectory at hretained
  split at hretained
  · cases hretained
    rfl
  · split at hretained
    · cases hretained
      rfl
    · cases hretained

/-- A file that is taken in is in the books. -/
theorem Shows.takeFile (hshows : watcher.Shows files)
    (htaken : takeFile accepts tree watcher file = (after, .ok ())) :
    after.Shows (file :: files) := by
  have hretained : ∃ retained : Watcher, retained.contents = watcher.contents ∧
      (∀ key, retained.directories.get? key =
        if countIn (file :: files) key = 0 then none else some (countIn (file :: files) key)) ∧
      (after = retained ∨ ∃ content, after = { retained with
        contents := retained.contents.set file.components content }) := by
    unfold Watcher.takeFile at htaken
    cases hparent : file.parent? with
    | none =>
        rw [hparent] at htaken
        dsimp only at htaken
        refine ⟨watcher, rfl, fun key => ?_, ?_⟩
        · rw [countIn_cons_rootless hparent]
          exact hshows.counts key
        · split at htaken
          · rename_i content _
            cases htaken
            exact .inr ⟨content, rfl⟩
          · cases htaken
            exact .inl rfl
    | some directory =>
        rw [hparent] at htaken
        dsimp only at htaken
        split at htaken
        · cases htaken
        · rename_i retained hfound
          refine ⟨retained, retainDirectory_contents hfound,
            retainDirectory_counts hshows hparent hfound, ?_⟩
          split at htaken
          · rename_i content _
            cases htaken
            exact .inr ⟨content, rfl⟩
          · cases htaken
            exact .inl rfl
  obtain ⟨retained, hcontents, hcounts, hafter⟩ := hretained
  have hold : ∀ key, (retained.contents.get? key).isSome = true →
      ∃ other ∈ file :: files, other.components = key := by
    intro key hkey
    rw [hcontents] at hkey
    obtain ⟨other, hother, hsame⟩ := hshows.contents key hkey
    exact ⟨other, List.mem_cons_of_mem _ hother, hsame⟩
  rcases hafter with rfl | ⟨content, rfl⟩
  · exact ⟨hcounts, hold⟩
  · refine ⟨hcounts, fun key hkey => ?_⟩
    by_cases hsame : file.components = key
    · exact ⟨file, List.mem_cons_self, hsame⟩
    · dsimp only at hkey
      rw [Table.get?_set_other _ _ hsame] at hkey
      exact hold key hkey

theorem releaseDirectory_counts (hshows : watcher.Shows (file :: files))
    (hparent : file.parent? = some directory) (key : List Path.Component) :
    (watcher.releaseDirectory directory).directories.get? key =
      if countIn files key = 0 then none else some (countIn files key) := by
  have hcount := hshows.counts directory.components
  rw [countIn_cons_parent hparent, if_neg (Nat.succ_ne_zero _)] at hcount
  unfold releaseDirectory
  rw [hcount]
  dsimp only
  by_cases hkey : directory.components = key
  · subst hkey
    split
    · rw [Table.get?_erase_self, if_pos (by omega)]
    · rw [Table.get?_set_self, if_neg (by omega), Nat.add_sub_cancel]
  · have hother := hshows.counts key
    rw [countIn_cons_other hparent hkey] at hother
    split
    · rw [Table.get?_erase_other _ hkey]
      exact hother
    · rw [Table.get?_set_other _ _ hkey]
      exact hother

theorem releaseDirectory_rest (watcher : Watcher) (directory : Path) :
    (watcher.releaseDirectory directory).contents = watcher.contents ∧
      (watcher.releaseDirectory directory).registrations = watcher.registrations := by
  unfold releaseDirectory
  split
  · exact ⟨rfl, rfl⟩
  · split <;> exact ⟨rfl, rfl⟩

/-- The files that registrations read. -/
def registered (watcher : Watcher) : List Path :=
  watcher.registrations.flatMap Registration.files

theorem isRead_iff (watcher : Watcher) (file : Path) :
    watcher.isRead file = true ↔
      ∃ other ∈ watcher.registered, other.components = file.components := by
  simp only [isRead, registered, Registration.reads, Path.same, List.any_eq_true, beq_iff_eq,
    List.mem_flatMap]
  constructor
  · rintro ⟨registration, hregistration, other, hother, hsame⟩
    exact ⟨other, ⟨registration, hregistration, hother⟩, hsame⟩
  · rintro ⟨other, ⟨registration, hregistration, hother⟩, hsame⟩
    exact ⟨registration, hregistration, other, hother, hsame⟩

/-- A file that is forgotten is taken out of the books once. -/
theorem Shows.forget (hshows : watcher.Shows (file :: files))
    (hregistered : watcher.registered ⊆ files) : (watcher.forget file).Shows files := by
  have hreleased : ∃ released : Watcher, released.contents = watcher.contents ∧
      released.registrations = watcher.registrations ∧
      (∀ key, released.directories.get? key =
        if countIn files key = 0 then none else some (countIn files key)) ∧
      watcher.forget file = if released.isRead file then released
        else { released with contents := released.contents.erase file.components } := by
    unfold Watcher.forget
    cases hparent : file.parent? with
    | none =>
        refine ⟨watcher, rfl, rfl, fun key => ?_, rfl⟩
        rw [← countIn_cons_rootless hparent]
        exact hshows.counts key
    | some directory =>
        obtain ⟨hcontents, hregistrations⟩ := watcher.releaseDirectory_rest directory
        exact ⟨watcher.releaseDirectory directory, hcontents, hregistrations,
          releaseDirectory_counts hshows hparent, rfl⟩
  obtain ⟨released, hcontents, hregistrations, hcounts, hforgotten⟩ := hreleased
  have hold : ∀ key, file.components ≠ key → (released.contents.get? key).isSome = true →
      ∃ other ∈ files, other.components = key := by
    intro key hne hkey
    rw [hcontents] at hkey
    obtain ⟨other, hother, hsame⟩ := hshows.contents key hkey
    rcases List.mem_cons.mp hother with rfl | hother
    · exact absurd hsame hne
    · exact ⟨other, hother, hsame⟩
  rw [hforgotten]
  split
  · rename_i hread
    refine ⟨hcounts, fun key hkey => ?_⟩
    by_cases hsame : file.components = key
    · obtain ⟨other, hother, hcomponents⟩ := (released.isRead_iff file).mp hread
      refine ⟨other, hregistered ?_, hcomponents.trans hsame⟩
      rw [registered, ← hregistrations]
      exact hother
    · exact hold key hsame hkey
  · refine ⟨hcounts, fun key hkey => ?_⟩
    by_cases hsame : file.components = key
    · dsimp only at hkey
      rw [hsame, Table.get?_erase_self] at hkey
      cases hkey
    · dsimp only at hkey
      rw [Table.get?_erase_other _ hsame] at hkey
      exact hold key hsame hkey

theorem Shows.foldl_forget {gone : List Path} (hshows : watcher.Shows (gone ++ files))
    (hregistered : watcher.registered ⊆ files) : (gone.foldl Watcher.forget watcher).Shows files := by
  induction gone generalizing watcher with
  | nil => exact hshows
  | cons file rest ih =>
      refine ih (hshows.forget fun other hother => List.mem_append_right _ (hregistered hother)) ?_
      rw [registered, registrations_forget]
      exact hregistered

/-- Ending a registration takes its files out of the books. -/
theorem Shows.unwatch {strays : List Path} (hshows : watcher.Shows (watcher.registered ++ strays))
    (id : Nat) : (watcher.unwatch id).Shows ((watcher.unwatch id).registered ++ strays) := by
  unfold Watcher.unwatch
  cases hplace : watcher.registrations.findIdx? (·.id == id) with
  | none => exact hshows
  | some place =>
      obtain ⟨hlength, -, -⟩ := List.findIdx?_eq_some_iff_getElem.mp hplace
      dsimp only
      rw [List.getElem?_eq_getElem hlength, Option.map_some, Option.getD_some]
      have hperm : watcher.registrations.Perm
          (watcher.registrations[place] :: swapRemove watcher.registrations place) :=
        (List.getElem_cons_eraseIdx_perm hlength).symm.trans
          ((swapRemove_perm watcher.registrations hlength).symm.cons _)
      have hfiles : (watcher.registered ++ strays).Perm
          (watcher.registrations[place].files ++
            ((swapRemove watcher.registrations place).flatMap Registration.files ++ strays)) := by
        rw [← List.append_assoc]
        refine List.Perm.append_right _ ?_
        rw [registered, ← List.flatMap_cons]
        exact hperm.flatMap_right _
      rw [registered, registrations_foldl_forget]
      refine Shows.foldl_forget ?_ fun other hother => List.mem_append_left _ hother
      have hafter := hshows.perm hfiles
      exact ⟨hafter.counts, hafter.contents⟩

/-! ### Registrations that fail -/

/-- The files that a registration takes in: all of them, or those in front of the first that
fails. -/
def takenIn (accepts : Path → Bool) (tree : FileTree) (watcher : Watcher) : List Path → List Path
  | [] => []
  | file :: rest =>
    match takeFile accepts tree watcher file with
    | (after, .ok _) => file :: takenIn accepts tree after rest
    | (_, .error _) => []

theorem takeFile_error {result : Watcher × Except WatchError Unit}
    (htaken : takeFile accepts tree watcher file = result) (hfails : result.2 = .error err) :
    result.1 = watcher ∧ ∃ directory, file.parent? = some directory ∧
      watcher.directories.get? directory.components = none ∧ accepts directory = false := by
  subst htaken
  unfold takeFile at hfails ⊢
  cases hparent : file.parent? with
  | none =>
      rw [hparent] at hfails
      dsimp only at hfails
      split at hfails <;> cases hfails
  | some directory =>
      rw [hparent] at hfails
      dsimp only at hfails ⊢
      split at hfails
      · rename_i hretained
        unfold retainDirectory at hretained
        split at hretained
        · cases hretained
        · rename_i hnone
          split at hretained
          · cases hretained
          · rename_i hrefused
            simp only [Bool.not_eq_true] at hrefused
            exact ⟨rfl, directory, rfl, hnone, hrefused⟩
      · split at hfails <;> cases hfails

theorem Shows.takeFiles {old : List Path} (hshows : watcher.Shows old) (accepts : Path → Bool)
    (tree : FileTree) (files : List Path) :
    (takeFiles accepts tree watcher files).1.Shows (takenIn accepts tree watcher files ++ old) := by
  induction files generalizing watcher old with
  | nil => exact hshows
  | cons file rest ih =>
      unfold Watcher.takeFiles takenIn
      cases htaken : Watcher.takeFile accepts tree watcher file with
      | mk taken outcome =>
          cases outcome with
          | ok _ => exact (ih (hshows.takeFile htaken)).perm List.perm_middle
          | error err =>
              obtain ⟨hsame, -⟩ := takeFile_error htaken rfl
              dsimp only at hsame ⊢
              rw [hsame]
              exact hshows

theorem takenIn_of_ok (hok : (takeFiles accepts tree watcher files).2 = .ok ()) :
    takenIn accepts tree watcher files = files := by
  induction files generalizing watcher with
  | nil => rfl
  | cons file rest ih =>
      unfold takeFiles at hok
      unfold takenIn
      cases htaken : takeFile accepts tree watcher file with
      | mk taken outcome =>
          rw [htaken] at hok
          cases outcome with
          | ok _ => exact congrArg (file :: ·) (ih hok)
          | error err => cases hok

/-- A registration that fails is stopped by a directory that the system refuses to watch. Up to there
it has taken its files in. -/
theorem takeFiles_error (hfails : (takeFiles accepts tree watcher files).2 = .error err) :
    ∃ failing rest directory,
      files = takenIn accepts tree watcher files ++ failing :: rest ∧
      failing.parent? = some directory ∧ accepts directory = false ∧
      takeFiles accepts tree watcher (takenIn accepts tree watcher files) =
        ((takeFiles accepts tree watcher files).1, .ok ()) := by
  induction files generalizing watcher with
  | nil => cases hfails
  | cons file rest ih =>
      unfold takeFiles at hfails
      cases htaken : takeFile accepts tree watcher file with
      | mk taken outcome =>
          rw [htaken] at hfails
          cases outcome with
          | ok _ =>
              obtain ⟨failing, behind, directory, hfiles, hparent, hrefused, hbefore⟩ := ih hfails
              refine ⟨failing, behind, directory, ?_, hparent, hrefused, ?_⟩
              · rw [takenIn, htaken]
                exact congrArg (file :: ·) hfiles
              · rw [takenIn, htaken]
                dsimp only
                rw [takeFiles, takeFiles, htaken]
                exact hbefore
          | error err' =>
              obtain ⟨hsame, directory, hparent, -, hrefused⟩ := takeFile_error htaken rfl
              dsimp only at hsame
              refine ⟨file, rest, directory, ?_, hparent, hrefused, ?_⟩
              · rw [takenIn, htaken]
                rfl
              · rw [takenIn, htaken]
                dsimp only
                rw [takeFiles, takeFiles, htaken]
                dsimp only
                rw [hsame]

/-! ### Calls -/

/-- A call on the watcher. What the system accepts to watch, what the files are and which modules
live may be different at each call. -/
inductive Call
  | watch (accepts : Path → Bool) (tree : FileTree) (id target : Nat) (files : List Path)
  | unwatch (id : Nat)
  | change (tree : FileTree) (idOf : Nat → Option Nat) (paths : List Path)

/-- The watcher after a call. -/
def Call.perform (watcher : Watcher) : Call → Watcher
  | .watch accepts tree id target files => (watcher.register accepts tree id target files).1
  | .unwatch id => watcher.unwatch id
  | .change tree idOf paths => (watcher.collectTargets tree idOf paths).1

/-- The files that a call takes in without a registration for them: those in front of the file by
which a registration fails. -/
def Call.strays (watcher : Watcher) : Call → List Path
  | .watch accepts tree id target files =>
    match (watcher.register accepts tree id target files).2 with
    | .ok _ => []
    | .error _ => takenIn accepts tree (watcher.unwatch id) (files.map tree.normalize)
  | .unwatch _ => []
  | .change _ _ _ => []

/-- The watcher after calls, with the files that were taken in without a registration. -/
def run (calls : List Call) : Watcher × List Path :=
  calls.foldl (fun state call => (call.perform state.1, state.2 ++ call.strays state.1))
    (.empty, [])

/-- No number has two registrations, and the books show the registered files and strays. -/
structure Books (watcher : Watcher) (strays : List Path) : Prop where
  distinct : watcher.Distinct
  shows : watcher.Shows (watcher.registered ++ strays)

variable {strays : List Path}

theorem Books.unwatch (hbooks : watcher.Books strays) (id : Nat) :
    (watcher.unwatch id).Books strays :=
  ⟨hbooks.distinct.unwatch id, hbooks.shows.unwatch id⟩

theorem Books.register (hbooks : watcher.Books strays) (accepts : Path → Bool) (tree : FileTree)
    (id target : Nat) (files : List Path) :
    (watcher.register accepts tree id target files).1.Books
      (strays ++ (Call.watch accepts tree id target files).strays watcher) := by
  refine ⟨hbooks.distinct.register accepts tree id target files, ?_⟩
  have hregistrations := registrations_takeFiles accepts tree (files.map tree.normalize)
    (watcher.unwatch id)
  have htaken := (hbooks.unwatch id).shows.takeFiles accepts tree (files.map tree.normalize)
  unfold Call.strays Watcher.register
  dsimp only
  cases houtcome : Watcher.takeFiles accepts tree (watcher.unwatch id)
      (files.map tree.normalize) with
  | mk taken outcome =>
      rw [houtcome] at hregistrations htaken
      cases outcome with
      | ok _ =>
          rw [takenIn_of_ok (by rw [houtcome])] at htaken
          dsimp only at hregistrations htaken ⊢
          have hregistered : registered { taken with registrations := taken.registrations ++
              [⟨id, target, files.map tree.normalize⟩] } =
                (watcher.unwatch id).registered ++ files.map tree.normalize := by
            simp [registered, hregistrations]
          have hperm : (files.map tree.normalize ++ ((watcher.unwatch id).registered ++ strays)).Perm
              (registered { taken with registrations := taken.registrations ++
                [⟨id, target, files.map tree.normalize⟩] } ++ (strays ++ [])) := by
            rw [hregistered, List.append_nil, ← List.append_assoc]
            exact List.Perm.append_right _ List.perm_append_comm
          exact ⟨(htaken.perm hperm).counts, (htaken.perm hperm).contents⟩
      | error err =>
          dsimp only at hregistrations htaken ⊢
          refine htaken.perm ?_
          rw [registered, registered, hregistrations]
          refine List.perm_append_comm.trans ?_
          rw [List.append_assoc]

theorem Books.lookAt {changes : Changes} (hbooks : watcher.Books strays) (path : Path) :
    (lookAt tree idOf (watcher, changes) path).1.Books strays := by
  unfold Watcher.lookAt
  dsimp only
  split
  · exact hbooks
  · rename_i hread
    split
    · exact hbooks
    · split
      · exact hbooks
      · refine ⟨hbooks.distinct, hbooks.shows.counts, fun key hkey => ?_⟩
        dsimp only at hkey
        by_cases hsame : (tree.normalize path).components = key
        · have hregistered : watcher.isRead (tree.normalize path) = true := by simpa using hread
          obtain ⟨other, hother, hcomponents⟩ := (watcher.isRead_iff _).mp hregistered
          exact ⟨other, List.mem_append_left _ hother, hcomponents.trans hsame⟩
        · rw [Table.get?_set_other _ _ hsame] at hkey
          exact hbooks.shows.contents key hkey

theorem Books.collectTargets (hbooks : watcher.Books strays) (paths : List Path) :
    (watcher.collectTargets tree idOf paths).1.Books strays := by
  have hlooked : ∀ state : Watcher × Changes, state.1.Books strays →
      (paths.foldl (Watcher.lookAt tree idOf) state).1.Books strays := by
    induction paths with
    | nil => exact fun _ hstate => hstate
    | cons path rest ih => exact fun state hstate => ih _ (hstate.lookAt path)
  have hended : ∀ (ids : List Nat) (watcher : Watcher), watcher.Books strays →
      (ids.foldl Watcher.unwatch watcher).Books strays := by
    intro ids
    induction ids with
    | nil => exact fun _ hwatcher => hwatcher
    | cons id rest ih => exact fun _ hwatcher => ih _ (hwatcher.unwatch id)
  exact hended _ _ (hlooked (watcher, ⟨[], []⟩) hbooks)

theorem Books.perform (hbooks : watcher.Books strays) (call : Call) :
    (call.perform watcher).Books (strays ++ call.strays watcher) := by
  cases call with
  | watch accepts tree id target files => exact hbooks.register accepts tree id target files
  | unwatch id =>
      rw [Call.strays, List.append_nil]
      exact hbooks.unwatch id
  | change tree idOf paths =>
      rw [Call.strays, List.append_nil]
      exact hbooks.collectTargets paths

theorem run_books (calls : List Call) : (run calls).1.Books (run calls).2 := by
  have hfold : ∀ state : Watcher × List Path, state.1.Books state.2 →
      (calls.foldl (fun state call => (call.perform state.1, state.2 ++ call.strays state.1))
        state).1.Books
      (calls.foldl (fun state call => (call.perform state.1, state.2 ++ call.strays state.1))
        state).2 := by
    induction calls with
    | nil => exact fun _ hstate => hstate
    | cons call rest ih => exact fun state hstate => ih _ (hstate.perform call)
  exact hfold (.empty, []) ⟨empty_distinct, empty_shows⟩

/-- Whatever calls are made on the watcher, and whatever the system refuses to watch, no number has
two registrations, and the books show the registered files together with the files that failed
registrations have taken in. A registration fails at the first file whose directory is refused; it
leaves what the end of the old registration leaves, once the files in front of that one are taken
in. -/
theorem calls_keep_books (calls : List Call) :
    let watcher := (run calls).1
    let files := watcher.registered ++ (run calls).2
    watcher.Distinct ∧
    (∀ directory : Path, watcher.directories.get? directory.components =
      if countIn files directory.components = 0 then none
      else some (countIn files directory.components)) ∧
    (∀ file : Path, (watcher.contents.get? file.components).isSome = true →
      ∃ other ∈ files, other.same file = true) ∧
    ∀ accepts tree id target listed err,
      (watcher.register accepts tree id target listed).2 = .error err →
      ∃ failing rest directory,
        listed.map tree.normalize =
          (Call.watch accepts tree id target listed).strays watcher ++ failing :: rest ∧
        failing.parent? = some directory ∧ accepts directory = false ∧
        takeFiles accepts tree (watcher.unwatch id)
            ((Call.watch accepts tree id target listed).strays watcher) =
          ((watcher.register accepts tree id target listed).1, .ok ()) ∧
        ((Call.watch accepts tree id target listed).strays watcher = [] →
          (watcher.register accepts tree id target listed).1 = watcher.unwatch id) := by
  intro watcher files
  have hbooks : watcher.Books (run calls).2 := run_books calls
  refine ⟨hbooks.distinct, fun directory => hbooks.shows.counts _, fun file hfile => ?_, ?_⟩
  · obtain ⟨other, hother, hsame⟩ := hbooks.shows.contents _ hfile
    exact ⟨other, hother, by simpa [Path.same] using hsame⟩
  · intro accepts tree id target listed err hfails
    have hstrays : (Call.watch accepts tree id target listed).strays watcher =
        takenIn accepts tree (watcher.unwatch id) (listed.map tree.normalize) := by
      simp only [Call.strays, hfails]
    rw [hstrays]
    unfold register at hfails ⊢
    dsimp only at hfails ⊢
    cases houtcome : takeFiles accepts tree (watcher.unwatch id) (listed.map tree.normalize) with
    | mk taken outcome =>
        rw [houtcome] at hfails
        cases outcome with
        | ok _ => cases hfails
        | error err' =>
            obtain ⟨failing, rest, directory, hlisted, hparent, hrefused, hbefore⟩ :=
              takeFiles_error (show (takeFiles accepts tree (watcher.unwatch id)
                (listed.map tree.normalize)).2 = .error err' by rw [houtcome])
            rw [houtcome] at hbefore
            refine ⟨failing, rest, directory, hlisted, hparent, hrefused, hbefore, fun hnone => ?_⟩
            rw [hnone] at hbefore
            cases hbefore
            rfl

/-- A directory with one file. -/
def oneFile : FileTree :=
  ⟨.directory [("a.rhai", .file (.text "let x = 1;"))], []⟩

/-- A registration of that file and of one whose directory is missing. -/
def failingWatch : Call :=
  .watch (fun directory => (oneFile.node directory).toBool) oneFile 1 1
    [⟨"/a.rhai"⟩, ⟨"/missing/b.rhai"⟩]

theorem calls_keep_books_failing :
    (run [failingWatch]).2 = [⟨"/a.rhai"⟩] ∧
    (run [failingWatch]).1.directories.get? (Path.mk "/").components = some 1 ∧
    (run [failingWatch]).1.Distinct := by
  refine ⟨by decide +kernel, ?_, (calls_keep_books [failingWatch]).1⟩
  rw [(calls_keep_books [failingWatch]).2.1 ⟨"/"⟩]
  decide +kernel

/-- The failed registration leaves a directory counted and a content remembered, although nothing is
registered; without it neither is there. -/
theorem failed_registration_leaks :
    (run [failingWatch]).1.registrations.isEmpty = true ∧
    (run [failingWatch]).1.directories.get? (Path.mk "/").components = some 1 ∧
    (run [failingWatch]).1.contents.get? (Path.mk "/a.rhai").components =
      some (.text "let x = 1;") ∧
    (Watcher.empty.unwatch 1).directories.get? (Path.mk "/").components = none ∧
    (Watcher.empty.unwatch 1).contents.get? (Path.mk "/a.rhai").components = none := by
  decide +kernel

end Watcher

end ScriptHost
