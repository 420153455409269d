import Mathlib.Data.List.Destutter
import Mathlib.Data.List.Nodup
import ScriptHost.SourceSearch

/-!
The order of paths. Components are ordered by kind and names by their characters, paths step by step,
and of two paths with different components one comes first. Hence the files that a search collects
are in increasing order, and their components are determined by which files there are: neither the
order in which they come up nor how often they do so matters.
-/

namespace ScriptHost

namespace Path

namespace Component

variable {a b c : Component}

theorem less_irrefl (a : Component) : a.less a = false := by
  cases a with
  | root | current | parent => rfl
  | normal name => exact decide_eq_false (String.lt_irrefl name)

/-- Names are ordered by their characters, and other components stand in front of them. -/
theorem less_iff :
    a.less b = true ↔
      a.rank < b.rank ∨ ∃ first second, a = .normal first ∧ b = .normal second ∧ first < second := by
  cases a <;> cases b <;> simp [less, rank]

theorem less_trans (hab : a.less b = true) (hbc : b.less c = true) : a.less c = true := by
  rw [less_iff] at hab hbc ⊢
  rcases hab with hab | ⟨first, second, rfl, rfl, hab⟩
  · rcases hbc with hbc | ⟨second, third, rfl, rfl, hbc⟩
    · exact .inl (Nat.lt_trans hab hbc)
    · exact .inl hab
  · rcases hbc with hbc | ⟨_, third, hsame, rfl, hbc⟩
    · exact .inl hbc
    · cases hsame
      exact .inr ⟨first, third, rfl, rfl, String.lt_trans hab hbc⟩

/-- Of two different components one comes first. -/
theorem less_total (hne : a ≠ b) : a.less b = true ∨ b.less a = true := by
  cases a with
  | normal first =>
      cases b with
      | normal second =>
          rcases Std.lt_trichotomy first second with hlt | rfl | hlt
          · exact .inl (decide_eq_true hlt)
          · exact absurd rfl hne
          · exact .inr (decide_eq_true hlt)
      | root | current | parent => exact .inr rfl
  | root | current | parent =>
      cases b <;> simp [less, rank] at hne ⊢

end Component

theorem lessComponents_irrefl (steps : List Component) : lessComponents steps steps = false := by
  induction steps with
  | nil => rfl
  | cons step rest ih => rw [lessComponents, if_pos rfl, ih]

theorem lessComponents_cons_iff (a b : Component) (as bs : List Component) :
    lessComponents (a :: as) (b :: bs) = true ↔
      a.less b = true ∨ a = b ∧ lessComponents as bs = true := by
  rw [lessComponents]
  by_cases hsame : a = b
  · subst hsame
    simp [Component.less_irrefl]
  · simp [hsame]

theorem lessComponents_trans {first second third : List Component}
    (hfirst : lessComponents first second = true) (hsecond : lessComponents second third = true) :
    lessComponents first third = true := by
  induction first generalizing second third with
  | nil =>
      cases second with
      | nil => cases hfirst
      | cons b bs =>
          cases third with
          | nil => cases hsecond
          | cons c cs => rfl
  | cons a as ih =>
      cases second with
      | nil => cases hfirst
      | cons b bs =>
          cases third with
          | nil => cases hsecond
          | cons c cs =>
              rw [lessComponents_cons_iff] at hfirst hsecond ⊢
              rcases hfirst with hab | ⟨rfl, has⟩
              · rcases hsecond with hbc | ⟨rfl, -⟩
                · exact .inl (Component.less_trans hab hbc)
                · exact .inl hab
              · rcases hsecond with hbc | ⟨rfl, hbs⟩
                · exact .inl hbc
                · exact .inr ⟨rfl, ih has hbs⟩

theorem lessComponents_total {first second : List Component} (hne : first ≠ second) :
    lessComponents first second = true ∨ lessComponents second first = true := by
  induction first generalizing second with
  | nil =>
      cases second with
      | nil => exact absurd rfl hne
      | cons b bs => exact .inl rfl
  | cons a as ih =>
      cases second with
      | nil => exact .inr rfl
      | cons b bs =>
          rw [lessComponents_cons_iff, lessComponents_cons_iff]
          by_cases hsame : a = b
          · subst hsame
            rcases ih fun hrest => hne (congrArg (a :: ·) hrest) with hless | hless
            · exact .inl (.inr ⟨rfl, hless⟩)
            · exact .inr (.inr ⟨rfl, hless⟩)
          · exact (Component.less_total hsame).imp Or.inl Or.inl

variable {a b c : Path}

theorem same_iff : a.same b = true ↔ a.components = b.components := beq_iff_eq

theorem less_trans (hab : a.less b = true) (hbc : b.less c = true) : a.less c = true :=
  lessComponents_trans hab hbc

theorem components_ne_of_less (hless : a.less b = true) : a.components ≠ b.components := by
  intro hsame
  rw [less, hsame, lessComponents_irrefl] at hless
  cases hless

theorem less_asymm (hab : a.less b = true) : b.less a = false := by
  cases hba : b.less a with
  | false => rfl
  | true => exact absurd rfl (components_ne_of_less (less_trans hab hba))

/-- Of two paths with different components one comes first. -/
theorem less_total (hne : a.components ≠ b.components) : a.less b = true ∨ b.less a = true :=
  lessComponents_total hne

end Path

namespace SourceSearch

open ScriptHost.Path

variable {paths others : List Path} {path : Path}

/-- Leaving out repetitions is a case of leaving out what is not related to what stands before it. -/
theorem dedup_eq_destutter (paths : List Path) :
    dedup paths = paths.destutter fun a b => a.same b = false := by
  induction paths using dedup.induct with
  | case1 => rw [dedup, List.destutter_nil]
  | case2 path => rw [dedup, List.destutter_singleton]
  | case3 a b rest hsame ih =>
      rw [dedup, if_pos hsame, ih, List.destutter_cons', List.destutter_cons',
        List.destutter'_cons_neg _ (by simp [hsame])]
  | case4 a b rest hsame ih =>
      rw [dedup, if_neg hsame, ih, List.destutter_cons', List.destutter_cons',
        List.destutter'_cons_pos _ (by simpa using hsame)]

theorem dedup_sublist (paths : List Path) : (dedup paths).Sublist paths := by
  rw [dedup_eq_destutter]
  exact List.destutter_sublist _ paths

/-- Whatever is left out has the components of something that stays. -/
theorem exists_mem_dedup (hpath : path ∈ paths) :
    ∃ kept ∈ dedup paths, kept.components = path.components := by
  induction paths using dedup.induct generalizing path with
  | case1 => cases hpath
  | case2 only =>
      rw [dedup]
      exact ⟨path, hpath, rfl⟩
  | case3 a b rest hsame ih =>
      rw [dedup, if_pos hsame]
      rcases List.mem_cons.mp hpath with rfl | hrest
      · exact ih List.mem_cons_self
      · rcases List.mem_cons.mp hrest with rfl | hrest
        · obtain ⟨kept, hkept, heq⟩ := ih List.mem_cons_self
          exact ⟨kept, hkept, heq.trans (same_iff.mp hsame)⟩
        · exact ih (List.mem_cons_of_mem a hrest)
  | case4 a b rest hsame ih =>
      rw [dedup, if_neg hsame]
      rcases List.mem_cons.mp hpath with rfl | hrest
      · exact ⟨path, List.mem_cons_self, rfl⟩
      · obtain ⟨kept, hkept, heq⟩ := ih hrest
        exact ⟨kept, List.mem_cons_of_mem a hkept, heq⟩

/-- Sorted paths without repetitions increase. -/
theorem dedup_increasing (hsorted : paths.Pairwise fun a b => b.less a = false) :
    (dedup paths).Pairwise fun a b => a.less b = true := by
  have hdistinct : (dedup paths).IsChain fun a b => a.same b = false := by
    rw [dedup_eq_destutter]
    exact List.isChain_destutter _ paths
  have hkept := hsorted.sublist (dedup_sublist paths)
  have htrans : IsTrans Path fun a b => a.less b = true := ⟨fun _ _ _ => less_trans⟩
  refine ((List.isChain_isInfix (dedup paths)).imp fun a b hpair => ?_).pairwise
  have hsame := List.isChain_pair.mp <| List.IsChain.infix hdistinct hpair
  have hle := List.pairwise_pair.mp (hkept.sublist hpair.sublist)
  have hne : a.components ≠ b.components := by
    intro heq
    rw [same_iff.mpr heq] at hsame
    cases hsame
  exact (less_total hne).resolve_right (by simp [hle])

/-- The sorted list of some paths without repetitions. -/
def arranged (paths : List Path) : List Path :=
  dedup (paths.mergeSort fun a b => !b.less a)

theorem arranged_increasing (paths : List Path) :
    (arranged paths).Pairwise fun a b => a.less b = true := by
  have htrans : ∀ a b c : Path, (!b.less a) = true → (!c.less b) = true → (!c.less a) = true := by
    intro a b c hab hbc
    rw [Bool.not_eq_true'] at hab hbc ⊢
    cases hca : c.less a with
    | false => rfl
    | true =>
        -- between c and a lies b, in front of neither
        by_cases heq : a.components = b.components
        · rw [less, heq] at hca
          rw [less, hca] at hbc
          cases hbc
        · have hless := (less_total heq).resolve_right (by simp [hab])
          rw [less_trans hca hless] at hbc
          cases hbc
  have htotal : ∀ a b : Path, (!b.less a || !a.less b) = true := by
    intro a b
    cases hba : b.less a with
    | false => rfl
    | true => simp [less_asymm hba]
  refine dedup_increasing ?_
  have hsorted := List.pairwise_mergeSort htrans htotal paths
  exact hsorted.imp fun hle => by simpa using hle

theorem mem_of_mem_arranged (hpath : path ∈ arranged paths) : path ∈ paths :=
  List.mem_mergeSort.mp ((dedup_sublist _).subset hpath)

theorem exists_mem_arranged (hpath : path ∈ paths) :
    ∃ kept ∈ arranged paths, kept.components = path.components :=
  exists_mem_dedup (List.mem_mergeSort.mpr hpath)

/-- In which order paths are given does not matter to the components of their sorted list. -/
theorem arranged_components (hperm : paths.Perm others) :
    (arranged paths).map components = (arranged others).map components := by
  have hincreasing : ∀ paths : List Path,
      ((arranged paths).map components).Pairwise fun a b => lessComponents a b = true :=
    fun paths => List.pairwise_map.mpr (arranged_increasing paths)
  have hnodup : ∀ paths : List Path, ((arranged paths).map components).Nodup := by
    intro paths
    refine (hincreasing paths).imp fun {a b} hless heq => ?_
    rw [heq, lessComponents_irrefl] at hless
    cases hless
  have hsubset : ∀ {paths others : List Path}, paths.Perm others → ∀ steps,
      steps ∈ (arranged paths).map components → steps ∈ (arranged others).map components := by
    intro paths others hperm steps hsteps
    obtain ⟨path, hpath, rfl⟩ := List.mem_map.mp hsteps
    obtain ⟨kept, hkept, heq⟩ :=
      exists_mem_arranged (hperm.mem_iff.mp (mem_of_mem_arranged hpath))
    exact List.mem_map.mpr ⟨kept, hkept, heq⟩
  refine List.Perm.eq_of_pairwise (fun a b _ _ hab hba => ?_) (hincreasing paths)
    (hincreasing others) ((List.perm_ext_iff_of_nodup (hnodup paths) (hnodup others)).mpr
      fun steps => ⟨hsubset hperm steps, hsubset hperm.symm steps⟩)
  have hirrefl := lessComponents_trans hab hba
  rw [lessComponents_irrefl] at hirrefl
  cases hirrefl

end SourceSearch

end ScriptHost
