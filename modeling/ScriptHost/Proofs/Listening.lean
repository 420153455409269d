import ScriptHost.Proofs.Building
import ScriptHost.Proofs.Calls

/-!
The listeners found in a module belong to the compiled script that the module
holds, and so do the functions that are looked up in it by name.
-/

namespace ScriptHost

namespace ListenerIndex

open ScriptModule (ListenersOf)

theorem find?_compiled {index : ListenerIndex} {compiled : Compiled}
    (hindex : ListenersOf index compiled) {name : String}
    {genericType : Option String} {entry : ListenerEntry}
    (hfind : index.find? name genericType = some entry) :
    entry.function.compiled = compiled :=
  hindex _ (Table.mem_of_get? index.entries hfind)

theorem list_compiled {index : ListenerIndex} {compiled : Compiled}
    (hindex : ListenersOf index compiled) {entry : ListenerEntry}
    (hentry : entry ∈ index.list) : entry.function.compiled = compiled := by
  obtain ⟨found, hfound, rfl⟩ := List.mem_map.mp hentry
  exact hindex found hfound

end ListenerIndex

namespace Act

open World
open ScriptModule (ListenersOf)

variable {held : Holdings} {may : Touch → Prop} {world : World} {address : Nat}

/-- Apart from building the module, looking for its listeners notes them at
most. -/
theorem listenerIndex_reaches (hwithin : world.Within may address)
    (hbuild : world.Reaches held may (after (build address) world)) :
    world.Reaches held may (after (listenerIndex address) world) := by
  unfold listenerIndex
  rw [after_bind]
  split
  · exact hbuild
  · rename_i compiled hresult
    obtain ⟨module, hmodule, hcompiled, -, -⟩ := build_result hresult
    rw [after_get_bind]
    split
    · exact hbuild
    · rw [after_bind, after_bind, after_onModule, after_pure]
      have hquiet := IsQuiet.forM warn_isQuiet (ListenerIndex.build compiled).2
        (after (build address) world)
      have hwarned := hbuild.trans (hquiet.reaches hbuild.sound)
      refine hwarned.trans (hwarned.sound.reaches_edit (hwithin.of_reaches hwarned)
        _ ?_ fun _ _ => .inl rfl)
      intro found hfound
      rw [hquiet.module?, hmodule] at hfound
      cases hfound
      exact ⟨rfl, rfl, rfl, rfl, rfl, .inl rfl, .inr ⟨compiled, hcompiled, rfl⟩, .inl rfl,
        .inl rfl⟩

/-- The listeners that are found belong to the compiled script that the module
holds. -/
theorem listenerIndex_result (hworld : world.Sound held) {index : ListenerIndex}
    (hresult : result (listenerIndex address) world = some index) :
    ∃ module compiled,
      (after (listenerIndex address) world).module? address = some module ∧
      module.compiled = some compiled ∧ module.state = .built ∧
      ListenersOf index compiled := by
  have hbuild := build_reaches hworld (within_ordinary address world) trivial
  unfold listenerIndex at hresult ⊢
  rw [result_bind] at hresult
  rw [after_bind]
  cases hcompiled : result (build address) world with
  | none =>
      rw [hcompiled] at hresult
      cases hresult
  | some compiled =>
      rw [hcompiled] at hresult
      dsimp only at hresult ⊢
      rw [result_get_bind] at hresult
      rw [after_get_bind]
      obtain ⟨module, hmodule, hown, hbuilt, -⟩ := build_result hcompiled
      rw [hmodule, Option.bind_some] at hresult ⊢
      cases hlisteners : module.listeners with
      | some found =>
          rw [hlisteners] at hresult
          cases hresult
          obtain ⟨compiled', hown', hof⟩ :=
            (hbuild.sound.scripts.wellFormed hmodule).listed index hlisteners
          exact ⟨module, compiled', hmodule, hown', hbuilt, hof⟩
      | none =>
          rw [hlisteners] at hresult
          dsimp only at hresult ⊢
          rw [after_bind, after_bind, after_onModule, after_pure]
          have hquiet := IsQuiet.forM warn_isQuiet (ListenerIndex.build compiled).2
            (after (build address) world)
          have hindex : index = (ListenerIndex.build compiled).1 := by
            cases hresult
            rfl
          refine ⟨{ module with listeners := some (ListenerIndex.build compiled).1 },
            compiled, ?_, hown, hbuilt, ?_⟩
          · rw [module?_withModule, if_pos rfl, hquiet.module?, hmodule]
            rfl
          · rw [hindex]
            exact (ListenerIndex.build_keyed compiled).listed

theorem findListener_reaches (hwithin : world.Within may address)
    (hbuild : world.Reaches held may (after (build address) world)) (name : String)
    (genericType : Option String) :
    world.Reaches held may (after (findListener address name genericType) world) :=
  listenerIndex_reaches hwithin hbuild

theorem findListener_result (hworld : world.Sound held) {name : String}
    {genericType : Option String} {entry : ListenerEntry}
    (hresult : result (findListener address name genericType) world = some entry) :
    ∃ module, (after (findListener address name genericType) world).module?
        address = some module ∧
      module.compiled = some entry.function.compiled := by
  have hfound : (result (listenerIndex address) world).bind
      (·.find? name genericType) = some entry := hresult
  obtain ⟨index, hindex, hentry⟩ := Option.bind_eq_some_iff.mp hfound
  obtain ⟨module, compiled, hmodule, hcompiled, -, hof⟩ :=
    listenerIndex_result hworld hindex
  refine ⟨module, hmodule, ?_⟩
  rw [ListenerIndex.find?_compiled hof hentry]
  exact hcompiled

theorem listeners_reaches (hwithin : world.Within may address)
    (hbuild : world.Reaches held may (after (build address) world)) :
    world.Reaches held may (after (listeners address) world) :=
  listenerIndex_reaches hwithin hbuild

theorem function_reaches (hworld : world.Sound held)
    (hwithin : world.Within may address) (hwatch : may (.watch address))
    (name : String) (count : Nat) :
    world.Reaches held may (after (function address name count) world) := by
  have hbuild := build_reaches hworld hwithin hwatch
  unfold function
  rw [after_get_bind]
  split
  · exact .refl hworld
  · rw [after_bind]
    split
    · rw [after_get_bind]
      split
      · exact hbuild
      · exact hbuild
    · split
      · exact hbuild
      · exact hbuild

/-- A function that is found belongs to the compiled script that the module
holds. -/
theorem function_result {name : String} {count : Nat} {found : FunctionRef}
    (hresult : result (function address name count) world = .ok found) :
    ∃ module, (after (function address name count) world).module? address =
        some module ∧ module.compiled = some found.compiled := by
  unfold function at hresult ⊢
  rw [result_get_bind] at hresult
  rw [after_get_bind]
  split at hresult
  · cases hresult
  · rename_i hrunning
    rw [if_neg hrunning, after_bind]
    rw [result_bind] at hresult
    cases hcompiled : result (build address) world with
    | none =>
        rw [hcompiled] at hresult
        dsimp only at hresult
        rw [result_get_bind] at hresult
        split at hresult
        · cases hresult
        · cases hresult
    | some compiled =>
        rw [hcompiled] at hresult
        dsimp only at hresult ⊢
        obtain ⟨module, hmodule, hown, -, -⟩ := build_result hcompiled
        cases hresolve : compiled.resolve? name count with
        | none =>
            rw [hresolve] at hresult
            cases hresult
        | some resolved =>
            rw [hresolve] at hresult
            cases hresult
            refine ⟨module, hmodule, ?_⟩
            obtain ⟨arity, -, harity⟩ := Option.map_eq_some_iff.mp hresolve
            rw [← harity]
            exact hown

end Act

end ScriptHost
