import ScriptHost.Proofs.Table
import ScriptHost.Proofs.Watching

/-!
Which modules changed paths concern. A registration counts if it reads one of the
paths and the content of that path is not the one last seen, and for no other
reason; as long as registrations bear the numbers of their modules, no module
comes twice.
-/

namespace ScriptHost

theorem Registration.reads_congr (registration : Registration) {a b : Path}
    (hsame : a.components = b.components) :
    registration.reads a = registration.reads b := by
  simp only [Registration.reads, Path.same, hsame]

namespace Watcher

variable {tree : FileTree} {idOf : Nat → Option Nat}

/-- Whether registrations of living modules bear the numbers of these. -/
def Numbered (watcher : Watcher) (idOf : Nat → Option Nat) : Prop :=
  ∀ registration ∈ watcher.registrations, ∀ id,
    idOf registration.target = some id → id = registration.id

/-- Some changed path is one that a registration reads, and its content is not the
one last seen. -/
def Concerns (watcher : Watcher) (tree : FileTree) (paths : List Path)
    (registration : Registration) : Prop :=
  ∃ path ∈ paths, registration.reads (tree.normalize path) = true ∧
    watcher.IsNews tree path

theorem Concerns.append {watcher : Watcher} {paths : List Path}
    {registration : Registration} (hconcerns : watcher.Concerns tree paths registration)
    (more : List Path) : watcher.Concerns tree (paths ++ more) registration := by
  obtain ⟨path, hpath, hrest⟩ := hconcerns
  exact ⟨path, List.mem_append_left more hpath, hrest⟩

/-! ### Adding registrations -/

namespace Changes

variable {path : Path} {changes : Changes} {registration : Registration}

theorem mem_add {target : Path × Registration}
    (hmem : target ∈ (changes.add idOf path registration).targets) :
    target ∈ changes.targets ∨
      target = (path, registration) ∧ (idOf registration.target).isSome = true := by
  unfold add at hmem
  split at hmem
  · exact .inl hmem
  · split at hmem
    · rename_i hlives
      rcases List.mem_append.mp hmem with hold | hnew
      · exact .inl hold
      · exact .inr ⟨List.mem_singleton.mp hnew, hlives⟩
    · exact .inl hmem

theorem mem_add_of_mem {target : Path × Registration}
    (hmem : target ∈ changes.targets) :
    target ∈ (changes.add idOf path registration).targets := by
  unfold add
  split
  · exact hmem
  · split
    · exact List.mem_append_left _ hmem
    · exact hmem

/-- A living module that a registration is added for counts afterwards. -/
theorem add_complete (hid : idOf registration.target = some registration.id) :
    ∃ target ∈ (changes.add idOf path registration).targets,
      idOf target.2.target = some registration.id := by
  unfold add
  split
  · rename_i hany
    obtain ⟨target, hmem, htarget⟩ := List.any_eq_true.mp hany
    exact ⟨target, hmem, by simpa using htarget⟩
  · rw [if_pos (by rw [hid]; rfl)]
    exact ⟨(path, registration), by simp, hid⟩

theorem add_nodup
    (hid : ∀ id, idOf registration.target = some id → id = registration.id)
    (hnodup : (changes.targets.map fun target => target.2.target).Nodup) :
    ((changes.add idOf path registration).targets.map
      fun target => target.2.target).Nodup := by
  unfold add
  split
  · exact hnodup
  · rename_i hfresh
    split
    · rename_i hlives
      rw [List.map_append, List.map_singleton]
      refine List.nodup_append.mpr ⟨hnodup, by simp, ?_⟩
      intro address haddress other hother hsame
      obtain ⟨target, hmem, rfl⟩ := List.mem_map.mp haddress
      obtain ⟨id, hsome⟩ := Option.isSome_iff_exists.mp hlives
      rw [List.mem_singleton.mp hother] at hsame
      refine hfresh (List.any_eq_true.mpr ⟨target, hmem, ?_⟩)
      rw [hsame, hsome, hid id hsome]
      exact beq_self_eq_true _
    · exact hnodup

theorem mem_foldl_add {registrations : List Registration} :
    ∀ {changes : Changes} {target : Path × Registration},
      target ∈ (registrations.foldl (add idOf path) changes).targets →
        target ∈ changes.targets ∨
          target.2 ∈ registrations ∧ (idOf target.2.target).isSome = true := by
  induction registrations with
  | nil => exact fun hmem => .inl hmem
  | cons first rest ih =>
      intro changes target hmem
      rcases ih hmem with hadded | ⟨hrest, hlives⟩
      · rcases mem_add hadded with hold | ⟨rfl, hlives⟩
        · exact .inl hold
        · exact .inr ⟨List.mem_cons_self, hlives⟩
      · exact .inr ⟨List.mem_cons_of_mem _ hrest, hlives⟩

theorem mem_foldl_add_of_mem (registrations : List Registration) :
    ∀ {changes : Changes} {target : Path × Registration}, target ∈ changes.targets →
      target ∈ (registrations.foldl (add idOf path) changes).targets := by
  induction registrations with
  | nil => exact fun hmem => hmem
  | cons first rest ih => exact fun hmem => ih (mem_add_of_mem hmem)

theorem foldl_add_complete {registrations : List Registration}
    (hmem : registration ∈ registrations)
    (hid : idOf registration.target = some registration.id) (changes : Changes) :
    ∃ target ∈ (registrations.foldl (add idOf path) changes).targets,
      idOf target.2.target = some registration.id := by
  induction registrations generalizing changes with
  | nil => cases hmem
  | cons first rest ih =>
      rcases List.mem_cons.mp hmem with hfirst | hrest
      · subst hfirst
        obtain ⟨target, htarget, hsame⟩ : ∃ target ∈ (changes.add idOf path registration).targets,
            idOf target.2.target = some registration.id := add_complete hid
        exact ⟨target, mem_foldl_add_of_mem rest htarget, hsame⟩
      · exact ih hrest _

theorem foldl_add_nodup {registrations : List Registration}
    (hids : ∀ registration ∈ registrations, ∀ id,
      idOf registration.target = some id → id = registration.id) :
    ∀ {changes : Changes},
      (changes.targets.map fun target => target.2.target).Nodup →
        ((registrations.foldl (add idOf path) changes).targets.map
          fun target => target.2.target).Nodup := by
  induction registrations with
  | nil => exact fun hnodup => hnodup
  | cons first rest ih =>
      intro changes hnodup
      exact ih (fun registration hmem => hids registration (List.mem_cons_of_mem _ hmem))
        (add_nodup (hids first List.mem_cons_self) hnodup)

end Changes

/-! ### Looking at paths -/

/-- What has become of a watcher and its changes once it has looked at the paths
`seen`. -/
structure Looked (watcher : Watcher) (tree : FileTree) (idOf : Nat → Option Nat)
    (seen : List Path) (state : Watcher × Changes) : Prop where
  registrations : state.1.registrations = watcher.registrations
  contents : ∀ components,
    state.1.contents.get? components ≠ watcher.contents.get? components →
      ∃ path ∈ seen, (tree.normalize path).components = components ∧
        watcher.IsNews tree path
  sound : ∀ target ∈ state.2.targets, target.2 ∈ watcher.registrations ∧
    (idOf target.2.target).isSome = true ∧ watcher.Concerns tree seen target.2
  complete : watcher.Numbered idOf → ∀ registration ∈ watcher.registrations,
    watcher.Concerns tree seen registration →
      (idOf registration.target).isSome = true →
        ∃ target ∈ state.2.targets, idOf target.2.target = some registration.id
  nodup : watcher.Numbered idOf →
    (state.2.targets.map fun target => target.2.target).Nodup

theorem looked_nil (watcher : Watcher) :
    watcher.Looked tree idOf [] (watcher, ⟨[], []⟩) where
  registrations := rfl
  contents := fun _ hne => absurd rfl hne
  sound := by simp
  complete := by
    rintro _ registration _ ⟨path, hpath, -⟩
    cases hpath
  nodup := by simp

/-- A path that brings nothing new leaves everything as it is. -/
private theorem Looked.skip {watcher : Watcher} {seen : List Path}
    {state : Watcher × Changes} (hlooked : watcher.Looked tree idOf seen state)
    (path : Path) (hskip : ∀ registration ∈ watcher.registrations,
      registration.reads (tree.normalize path) = true → watcher.IsNews tree path →
        watcher.Concerns tree seen registration) :
    watcher.Looked tree idOf (seen ++ [path]) state where
  registrations := hlooked.registrations
  contents := by
    intro components hne
    obtain ⟨earlier, hmem, hrest⟩ := hlooked.contents components hne
    exact ⟨earlier, List.mem_append_left _ hmem, hrest⟩
  sound := by
    intro target hmem
    obtain ⟨hregistered, hlives, hconcerns⟩ := hlooked.sound target hmem
    exact ⟨hregistered, hlives, hconcerns.append _⟩
  complete := by
    rintro hnumbered registration hmem ⟨other, hother, hreads, hnews⟩ hlives
    refine hlooked.complete hnumbered registration hmem ?_ hlives
    rcases List.mem_append.mp hother with hseen | hlast
    · exact ⟨other, hseen, hreads, hnews⟩
    · rw [List.mem_singleton.mp hlast] at hreads hnews
      exact hskip registration hmem hreads hnews
  nodup := hlooked.nodup

/-- What one path does. -/
theorem Looked.lookAt {watcher : Watcher} {seen : List Path}
    {state : Watcher × Changes} (hlooked : watcher.Looked tree idOf seen state)
    (path : Path) :
    watcher.Looked tree idOf (seen ++ [path]) (lookAt tree idOf state path) := by
  obtain ⟨current, changes⟩ := state
  unfold Watcher.lookAt
  dsimp only
  split
  · rename_i hunread
    refine hlooked.skip path fun registration hmem hreads _ => ?_
    have hcurrent : registration ∈ current.registrations :=
      hlooked.registrations ▸ hmem
    have hread : current.isRead (tree.normalize path) = true :=
      List.any_eq_true.mpr ⟨registration, hcurrent, hreads⟩
    rw [hread] at hunread
    cases hunread
  · split
    · rename_i err hread
      refine hlooked.skip path fun registration _ _ hnews => ?_
      obtain ⟨content, hcontent, -⟩ := hnews
      rw [hread] at hcontent
      cases hcontent
    · rename_i content hread
      split
      · rename_i hsame
        refine hlooked.skip path fun registration _ hreads hnews => ?_
        obtain ⟨found, hfound, hne⟩ := hnews
        rw [hread] at hfound
        cases hfound
        obtain ⟨earlier, hmem, hcomponents, hearlier⟩ := hlooked.contents
          (tree.normalize path).components fun heq => hne (heq ▸ hsame)
        refine ⟨earlier, hmem, ?_, hearlier⟩
        rw [registration.reads_congr hcomponents]
        exact hreads
      · rename_i hnew
        -- Either this path brings news itself, or an earlier one of its components.
        have hnews : ∃ other ∈ seen ++ [path],
            (tree.normalize other).components = (tree.normalize path).components ∧
              watcher.IsNews tree other := by
          by_cases hkept : current.contents.get? (tree.normalize path).components =
              watcher.contents.get? (tree.normalize path).components
          · rw [hkept] at hnew
            exact ⟨path, by simp, rfl, content, hread, hnew⟩
          · obtain ⟨earlier, hmem, hrest⟩ := hlooked.contents _ hkept
            exact ⟨earlier, List.mem_append_left _ hmem, hrest⟩
        have hsub : ∀ registration ∈ (current.registrations.filter
            (·.reads (tree.normalize path))), registration ∈ watcher.registrations ∧
              registration.reads (tree.normalize path) = true := by
          intro registration hmem
          obtain ⟨hcurrent, hreads⟩ := List.mem_filter.mp hmem
          exact ⟨hlooked.registrations ▸ hcurrent, hreads⟩
        refine ⟨hlooked.registrations, ?_, ?_, ?_, ?_⟩
        · intro components hne
          dsimp only at hne
          rw [Table.get?_set] at hne
          by_cases hcomponents : (tree.normalize path).components = components
          · rw [← hcomponents]
            exact hnews
          · rw [if_neg hcomponents] at hne
            obtain ⟨earlier, hmem, hrest⟩ := hlooked.contents components hne
            exact ⟨earlier, List.mem_append_left _ hmem, hrest⟩
        · intro target hmem
          rcases Changes.mem_foldl_add hmem with hold | ⟨hregistered, hlives⟩
          · obtain ⟨hregistered, hlives, hconcerns⟩ := hlooked.sound target hold
            exact ⟨hregistered, hlives, hconcerns.append _⟩
          · obtain ⟨hregistered, hreads⟩ := hsub _ hregistered
            obtain ⟨other, hother, hcomponents, hisNews⟩ := hnews
            refine ⟨hregistered, hlives, other, hother, ?_, hisNews⟩
            rw [target.2.reads_congr hcomponents]
            exact hreads
        · rintro hnumbered registration hmem ⟨other, hother, hreads, hisNews⟩ hlives
          rcases List.mem_append.mp hother with hseen | hlast
          · obtain ⟨target, htarget, hid⟩ := hlooked.complete hnumbered registration
              hmem ⟨other, hseen, hreads, hisNews⟩ hlives
            exact ⟨target, Changes.mem_foldl_add_of_mem _ htarget, hid⟩
          · rw [List.mem_singleton.mp hlast] at hreads
            obtain ⟨id, hsome⟩ := Option.isSome_iff_exists.mp hlives
            have hid := hnumbered registration hmem id hsome
            subst hid
            exact Changes.foldl_add_complete (List.mem_filter.mpr
              ⟨hlooked.registrations ▸ hmem, hreads⟩) hsome _
        · intro hnumbered
          exact Changes.foldl_add_nodup (fun registration hmem =>
            hnumbered registration (hsub registration hmem).1) (hlooked.nodup hnumbered)

theorem Looked.foldl {watcher : Watcher} (paths : List Path) :
    ∀ {seen : List Path} {state : Watcher × Changes},
      watcher.Looked tree idOf seen state →
        watcher.Looked tree idOf (seen ++ paths)
          (paths.foldl (Watcher.lookAt tree idOf) state) := by
  induction paths with
  | nil =>
      intro seen state hlooked
      rw [List.append_nil]
      exact hlooked
  | cons path rest ih =>
      intro seen state hlooked
      have hrest := ih (hlooked.lookAt path)
      rw [List.append_assoc] at hrest
      exact hrest

/-! ### The modules to reload -/

/-- Only modules that live and that changed paths concern are to be reloaded. -/
theorem mem_targets {watcher : Watcher} {paths : List Path}
    {target : Path × Registration}
    (hmem : target ∈ (watcher.collectTargets tree idOf paths).2) :
    target.2 ∈ watcher.registrations ∧ (idOf target.2.target).isSome = true ∧
      watcher.Concerns tree paths target.2 :=
  ((looked_nil watcher).foldl paths).sound target hmem

/-- Every living module that changed paths concern is to be reloaded. -/
theorem exists_target {watcher : Watcher} {paths : List Path}
    {registration : Registration} (hnumbered : watcher.Numbered idOf)
    (hregistered : registration ∈ watcher.registrations)
    (hlives : (idOf registration.target).isSome = true)
    (hconcerns : watcher.Concerns tree paths registration) :
    ∃ target ∈ (watcher.collectTargets tree idOf paths).2,
      idOf target.2.target = some registration.id :=
  ((looked_nil watcher).foldl paths).complete hnumbered registration hregistered
    hconcerns hlives

theorem targets_nodup {watcher : Watcher} (hnumbered : watcher.Numbered idOf)
    (paths : List Path) :
    ((watcher.collectTargets tree idOf paths).2.map
      fun target => target.2.target).Nodup :=
  ((looked_nil watcher).foldl paths).nodup hnumbered

end Watcher

end ScriptHost
