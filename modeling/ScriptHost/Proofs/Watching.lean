import Mathlib.Data.List.Perm.Basic
import ScriptHost.Watch.Watcher

/-!
Registrations of watched files. Ending a registration takes out the one of a
number and leaves the others, in whatever order; registering puts at most one new
registration in place of the old one. Hence a number never has two registrations.
-/

namespace ScriptHost

namespace Watcher

/-- The numbers of registrations are distinct. -/
def Distinct (watcher : Watcher) : Prop :=
  (watcher.registrations.map Registration.id).Nodup

theorem empty_distinct : Watcher.empty.Distinct :=
  List.nodup_nil

theorem swapRemove_perm {α : Type} (list : List α) {place : Nat}
    (hplace : place < list.length) :
    (swapRemove list place).Perm (list.eraseIdx place) := by
  rcases List.eq_nil_or_concat list with rfl | ⟨init, last, rfl⟩
  · simp at hplace
  · rw [List.concat_eq_append] at hplace ⊢
    unfold swapRemove
    rw [List.getLast?_append_of_ne_nil _ (by simp)]
    simp only [List.getLast?_singleton]
    by_cases hinit : place < init.length
    · rw [List.set_append_left _ _ hinit, List.dropLast_concat,
        List.eraseIdx_append_of_lt_length hinit]
      exact (List.set_perm_cons_eraseIdx hinit last).trans
        (List.perm_append_singleton last _).symm
    · have hlast : place = init.length := by
        simp only [List.length_append, List.length_singleton] at hplace
        omega
      subst hlast
      rw [List.set_append_right _ _ (Nat.le_refl _), Nat.sub_self, List.set_cons_zero,
        List.dropLast_concat, List.eraseIdx_append_of_length_le (Nat.le_refl _),
        Nat.sub_self]
      simp

@[simp]
theorem registrations_forget (watcher : Watcher) (file : Path) :
    (watcher.forget file).registrations = watcher.registrations := by
  have hrelease : ∀ directory,
      (watcher.releaseDirectory directory).registrations = watcher.registrations := by
    intro directory
    unfold releaseDirectory
    split
    · rfl
    · split <;> rfl
  unfold forget
  cases file.parent? with
  | none =>
      dsimp only
      split <;> rfl
  | some directory =>
      dsimp only
      split
      · exact hrelease directory
      · exact hrelease directory

theorem registrations_foldl_forget (files : List Path) (watcher : Watcher) :
    (files.foldl forget watcher).registrations = watcher.registrations := by
  induction files generalizing watcher with
  | nil => rfl
  | cons file rest ih =>
      rw [List.foldl_cons, ih, registrations_forget]

/-- Ending a registration takes the first one of the number out, if there is one. -/
theorem unwatch_registrations (watcher : Watcher) (id : Nat) :
    ((∀ registration ∈ watcher.registrations, registration.id ≠ id) ∧
      (watcher.unwatch id).registrations = watcher.registrations) ∨
    ∃ gone, gone.id = id ∧
      watcher.registrations.Perm (gone :: (watcher.unwatch id).registrations) := by
  unfold unwatch
  cases hplace : watcher.registrations.findIdx? (·.id == id) with
  | none =>
      refine .inl ⟨fun registration hmem => ?_, rfl⟩
      simpa using List.findIdx?_eq_none_iff.mp hplace registration hmem
  | some place =>
      obtain ⟨hlength, hid, -⟩ := List.findIdx?_eq_some_iff_getElem.mp hplace
      refine .inr ⟨watcher.registrations[place], by simpa using hid, ?_⟩
      dsimp only
      rw [registrations_foldl_forget]
      exact (List.getElem_cons_eraseIdx_perm hlength).symm.trans
        ((swapRemove_perm watcher.registrations hlength).symm.cons _)

theorem mem_of_mem_unwatch {watcher : Watcher} {id : Nat}
    {registration : Registration}
    (hmem : registration ∈ (watcher.unwatch id).registrations) :
    registration ∈ watcher.registrations := by
  rcases watcher.unwatch_registrations id with ⟨-, hsame⟩ | ⟨gone, -, hperm⟩
  · exact hsame ▸ hmem
  · exact hperm.mem_iff.mpr (List.mem_cons_of_mem _ hmem)

/-- Other numbers keep their registrations. -/
theorem mem_unwatch_of_ne {watcher : Watcher} {id : Nat}
    {registration : Registration} (hmem : registration ∈ watcher.registrations)
    (hne : registration.id ≠ id) :
    registration ∈ (watcher.unwatch id).registrations := by
  rcases watcher.unwatch_registrations id with ⟨-, hsame⟩ | ⟨gone, hid, hperm⟩
  · exact hsame ▸ hmem
  · rcases List.mem_cons.mp (hperm.mem_iff.mp hmem) with rfl | hrest
    · exact absurd hid hne
    · exact hrest

theorem Distinct.unwatch {watcher : Watcher} (hwatcher : watcher.Distinct)
    (id : Nat) : (watcher.unwatch id).Distinct := by
  rcases watcher.unwatch_registrations id with ⟨-, hsame⟩ | ⟨gone, -, hperm⟩
  · unfold Distinct
    rw [hsame]
    exact hwatcher
  · exact (List.nodup_cons.mp ((hperm.map Registration.id).nodup_iff.mp hwatcher)).2

/-- A number whose registration has ended has none. -/
theorem Distinct.id_ne_of_mem_unwatch {watcher : Watcher}
    (hwatcher : watcher.Distinct) {id : Nat} {registration : Registration}
    (hmem : registration ∈ (watcher.unwatch id).registrations) :
    registration.id ≠ id := by
  rcases watcher.unwatch_registrations id with ⟨hnone, hsame⟩ | ⟨gone, hid, hperm⟩
  · exact hnone registration (hsame ▸ hmem)
  · intro hsame
    have hnodup := (hperm.map Registration.id).nodup_iff.mp hwatcher
    refine (List.nodup_cons.mp hnodup).1 ?_
    rw [hid]
    exact List.mem_map.mpr ⟨registration, hmem, hsame⟩

theorem Distinct.foldl_unwatch (ids : List Nat) {watcher : Watcher}
    (hwatcher : watcher.Distinct) : (ids.foldl Watcher.unwatch watcher).Distinct := by
  induction ids generalizing watcher with
  | nil => exact hwatcher
  | cons id rest ih => exact ih (hwatcher.unwatch id)

/-! ### Registering -/

theorem registrations_takeFile (accepts : Path → Bool) (tree : FileTree) (watcher : Watcher)
    (file : Path) :
    (takeFile accepts tree watcher file).1.registrations = watcher.registrations := by
  have hretain : ∀ directory found,
      watcher.retainDirectory accepts directory = .ok found →
        found.registrations = watcher.registrations := by
    intro directory found hfound
    unfold retainDirectory at hfound
    split at hfound
    · cases hfound
      rfl
    · split at hfound
      · cases hfound
        rfl
      · cases hfound
  unfold takeFile
  cases hparent : file.parent? with
  | none =>
      dsimp only
      split <;> rfl
  | some directory =>
      dsimp only
      split
      · rfl
      · rename_i found hfound
        split
        · exact hretain directory found hfound
        · exact hretain directory found hfound

theorem registrations_takeFiles (accepts : Path → Bool) (tree : FileTree) (files : List Path)
    (watcher : Watcher) :
    (takeFiles accepts tree watcher files).1.registrations = watcher.registrations := by
  induction files generalizing watcher with
  | nil => rfl
  | cons file rest ih =>
      have hfile := registrations_takeFile accepts tree watcher file
      unfold takeFiles
      split
      · rename_i taken _ htaken
        rw [ih, ← hfile, htaken]
      · rename_i taken err htaken
        rw [← hfile, htaken]

/-- Registering puts a new registration, if any, in the place of that of the
number. -/
theorem register_registrations (accepts : Path → Bool) (watcher : Watcher) (tree : FileTree)
    (id target : Nat) (files : List Path) :
    (watcher.register accepts tree id target files).1.registrations =
        (watcher.unwatch id).registrations ∨
      (watcher.register accepts tree id target files).1.registrations =
        (watcher.unwatch id).registrations ++
          [⟨id, target, files.map tree.normalize⟩] := by
  have htaken := registrations_takeFiles accepts tree (files.map tree.normalize)
    (watcher.unwatch id)
  unfold register
  dsimp only
  split
  · rename_i taken _ heq
    rw [heq] at htaken
    exact .inr (by rw [← htaken])
  · rename_i taken err heq
    rw [heq] at htaken
    exact .inl htaken

theorem Distinct.register {watcher : Watcher} (hwatcher : watcher.Distinct)
    (accepts : Path → Bool) (tree : FileTree) (id target : Nat) (files : List Path) :
    (watcher.register accepts tree id target files).1.Distinct := by
  unfold Distinct
  rcases watcher.register_registrations accepts tree id target files with hsame | hnew
  · rw [hsame]
    exact hwatcher.unwatch id
  · rw [hnew, List.map_append, List.map_singleton]
    refine List.nodup_append.mpr ⟨hwatcher.unwatch id, by simp, ?_⟩
    intro other hother found hfound
    obtain ⟨registration, hmem, rfl⟩ := List.mem_map.mp hother
    rw [List.mem_singleton.mp hfound]
    exact hwatcher.id_ne_of_mem_unwatch hmem

theorem Distinct.watch {watcher : Watcher} (hwatcher : watcher.Distinct)
    (tree : FileTree) (id target : Nat) (files : List Path) :
    (watcher.watch tree id target files).1.Distinct :=
  hwatcher.register _ tree id target files

theorem watch_registrations (watcher : Watcher) (tree : FileTree)
    (id target : Nat) (files : List Path) :
    (watcher.watch tree id target files).1.registrations =
        (watcher.unwatch id).registrations ∨
      (watcher.watch tree id target files).1.registrations =
        (watcher.unwatch id).registrations ++
          [⟨id, target, files.map tree.normalize⟩] :=
  watcher.register_registrations _ tree id target files

theorem mem_watch {watcher : Watcher} {tree : FileTree} {id target : Nat}
    {files : List Path} {registration : Registration}
    (hmem : registration ∈ (watcher.watch tree id target files).1.registrations) :
    registration = ⟨id, target, files.map tree.normalize⟩ ∨
      registration ∈ watcher.registrations := by
  rcases watcher.watch_registrations tree id target files with hsame | hnew
  · exact .inr (mem_of_mem_unwatch (hsame ▸ hmem))
  · rw [hnew, List.mem_append, List.mem_singleton] at hmem
    exact (hmem.imp_left mem_of_mem_unwatch).symm

/-! ### Changed files -/

variable {tree : FileTree} {idOf : Nat → Option Nat}

/-- What the content of a path was when it was last seen is not what it is now. -/
def IsNews (watcher : Watcher) (tree : FileTree) (path : Path) : Prop :=
  ∃ content, tree.read (tree.normalize path) = .ok content ∧
    watcher.contents.get? (tree.normalize path).components ≠ some content

theorem registrations_lookAt (state : Watcher × Changes) (path : Path) :
    (lookAt tree idOf state path).1.registrations = state.1.registrations := by
  obtain ⟨watcher, changes⟩ := state
  unfold lookAt
  dsimp only
  split
  · rfl
  · split
    · rfl
    · split <;> rfl

theorem registrations_foldl_lookAt (paths : List Path) (state : Watcher × Changes) :
    (paths.foldl (lookAt tree idOf) state).1.registrations =
      state.1.registrations := by
  induction paths generalizing state with
  | nil => rfl
  | cons path rest ih => rw [List.foldl_cons, ih, registrations_lookAt]

theorem mem_foldl_unwatch {ids : List Nat} {watcher : Watcher}
    {registration : Registration}
    (hmem : registration ∈ (ids.foldl Watcher.unwatch watcher).registrations) :
    registration ∈ watcher.registrations := by
  induction ids generalizing watcher with
  | nil => exact hmem
  | cons id rest ih => exact mem_of_mem_unwatch (ih hmem)

theorem mem_of_mem_collectTargets {watcher : Watcher} {paths : List Path}
    {registration : Registration}
    (hmem : registration ∈
      (watcher.collectTargets tree idOf paths).1.registrations) :
    registration ∈ watcher.registrations := by
  have hlooked := mem_foldl_unwatch hmem
  rw [registrations_foldl_lookAt] at hlooked
  exact hlooked

theorem Distinct.collectTargets {watcher : Watcher} (hwatcher : watcher.Distinct)
    (paths : List Path) : (watcher.collectTargets tree idOf paths).1.Distinct := by
  refine Distinct.foldl_unwatch _ ?_
  unfold Distinct
  rw [registrations_foldl_lookAt]
  exact hwatcher

end Watcher

end ScriptHost
