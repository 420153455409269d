import ScriptHost.Proofs.Arranging
import ScriptHost.Proofs.Declaring

/-!
Loads end. The modules on the stack of nested loads have names of their own, and each name
is declared by a description file; so there are never more modules on the stack than
files, and a load that may nest deeper than that does the same.
-/

namespace ScriptHost

namespace LoadAct

variable {α β : Type} {world : World}

/-- Whether two steps of loads come to the same in a world. -/
structure Agree (left right : LoadAct α) (world : World) : Prop where
  result : Act.result left.run world = Act.result right.run world
  after : Act.after left.run world = Act.after right.run world

theorem Agree.refl (step : LoadAct α) (world : World) : Agree step step world :=
  ⟨rfl, rfl⟩

theorem Agree.trans {first second third : LoadAct α} (hfirst : Agree first second world)
    (hsecond : Agree second third world) : Agree first third world :=
  ⟨hfirst.result.trans hsecond.result, hfirst.after.trans hsecond.after⟩

theorem Agree.bind {left right : LoadAct α} {next other : α → LoadAct β}
    (hstep : Agree left right world)
    (hnext : ∀ value, Act.result left.run world = .ok value →
      Agree (next value) (other value) (Act.after left.run world)) :
    Agree (left >>= next) (right >>= other) world := by
  constructor
  · rw [result_run_bind, result_run_bind, ← hstep.result, ← hstep.after]
    cases hresult : Act.result left.run world with
    | ok value => exact (hnext value hresult).result
    | error err => rfl
  · rw [after_run_bind, after_run_bind, ← hstep.result, ← hstep.after]
    cases hresult : Act.result left.run world with
    | ok value => exact (hnext value hresult).after
    | error err => rfl

/-- Steps that begin with the same operation. -/
theorem Agree.lift {act : Act α} {next other : α → LoadAct β}
    (hnext : Agree (next (Act.result act world)) (other (Act.result act world))
      (Act.after act world)) :
    Agree (liftM act >>= next) (liftM act >>= other) world := by
  constructor
  · rw [result_run_lift_bind, result_run_lift_bind]
    exact hnext.result
  · rw [after_run_lift_bind, after_run_lift_bind]
    exact hnext.after

theorem Agree.get {next other : World → LoadAct β} (hnext : Agree (next world) (other world)
    world) : Agree (get >>= next) (get >>= other) world :=
  ⟨hnext.result, hnext.after⟩

theorem Agree.attempt {left right : LoadAct α} (hstep : Agree left right world) :
    Agree (Act.attempt left) (Act.attempt right) world := by
  constructor
  · rw [result_run_attempt, result_run_attempt, hstep.result]
  · rw [after_run_attempt, after_run_attempt, hstep.after]

end LoadAct

namespace World

variable {kept : List (Nat × GameModule)} {base world : World} {address : Nat}
  {start : GameModule}

/-- The modules on the stack of nested loads: they are being initialized, each of them has
been made by the loader from a description file, and none of them is there twice. -/
structure Stacked (kept : List (Nat × GameModule)) (world : World) : Prop where
  marked : ∀ entry ∈ kept, entry.2.initializing = true
  distinct : (kept.map Prod.fst).Nodup
  made : ∀ entry ∈ kept, world.loader.map Loader.serial = some entry.2.loader
  declared : ∀ entry ∈ kept, entry.2.name ∈ world.files.declared

theorem Stacked.continues (hbase : base.Stacked kept) (hcontinues : base.Continues world) :
    world.Stacked kept where
  marked := hbase.marked
  distinct := hbase.distinct
  made := fun entry hentry => hcontinues.serial.trans (hbase.made entry hentry)
  declared := fun entry hentry => hcontinues.files.symm ▸ hbase.declared entry hentry

/-- There are no more modules on the stack than files. -/
theorem Stacked.length_le (hstacked : world.Stacked kept) (hworld : world.Orderly kept [] []) :
    kept.length ≤ world.files.fileCount := by
  have hinstance : ∀ entry ∈ kept, world.IsInstance entry.2.name entry.1 entry.2 :=
    fun entry hentry => ⟨(hworld.of_entry hentry).1, rfl, hstacked.made entry hentry⟩
  have hnames : (kept.map fun entry => entry.2.name).Nodup := by
    rw [List.Nodup, List.pairwise_map]
    refine List.Pairwise.imp_of_mem (fun {first second} hfirst hsecond hne hname => ?_)
      (List.pairwise_map.mp hstacked.distinct)
    have hother := hinstance second hsecond
    rw [← hname] at hother
    exact hne (hworld.instance_unique (hinstance first hfirst) hother)
  have hdeclared : (kept.map fun entry => entry.2.name) ⊆ world.files.declared := by
    intro name hname
    obtain ⟨entry, hentry, rfl⟩ := List.mem_map.mp hname
    exact hstacked.declared entry hentry
  have hlength := List.Nodup.length_le_of_subset hnames hdeclared
  rw [List.length_map] at hlength
  exact Nat.le_trans hlength world.files.length_declared_le

/-- A module that is being initialized is on the stack above the others. -/
theorem Undergoes.stacked (hworld : world.Undergoes kept address start true)
    (hkept : world.Stacked kept) (hmade : world.loader.map Loader.serial = some start.loader)
    (hdeclared : start.name ∈ world.files.declared) :
    ∃ game, game.description = start.description ∧
      world.Orderly ((address, game) :: kept) [] [] ∧
        world.Stacked ((address, game) :: kept) := by
  obtain ⟨⟨game, hdescription, hloader, -, hmarked, horderly⟩, hothers⟩ := hworld
  have hname : game.name = start.name := congrArg Description.name hdescription
  refine ⟨game, hdescription, horderly, ⟨?_, ?_, ?_, ?_⟩⟩
  · exact List.forall_mem_cons.mpr ⟨hmarked, hkept.marked⟩
  · refine List.nodup_cons.mpr ⟨fun hmem => ?_, hkept.distinct⟩
    obtain ⟨entry, hentry, hsame⟩ := List.mem_map.mp hmem
    exact hothers entry hentry hsame
  · exact List.forall_mem_cons.mpr ⟨hmade.trans (congrArg some hloader.symm), hkept.made⟩
  · exact List.forall_mem_cons.mpr ⟨hname ▸ hdeclared, hkept.declared⟩

end World

namespace Act

open World LoadAct

variable {kept : List (Nat × GameModule)} {base world : World} {address script : Nat}
  {start game : GameModule} {loader : Loader} {load other : String → String → LoadAct Nat}

/-- Whether two loads come to the same wherever a module is being initialized. -/
def AgreeWithin (kept : List (Nat × GameModule)) (address : Nat) (start : GameModule)
    (base : World) (load other : String → String → LoadAct Nat) : Prop :=
  ∀ world, base.Continues world → world.Undergoes kept address start true →
    ∀ name requestedBy, Agree (load name requestedBy) (other name requestedBy) world

theorem takeImports_agree (hload : Arranges load)
    (hkept : ∀ entry ∈ kept, entry.2.initializing = true)
    (hagree : AgreeWithin kept address start base load other) (requestedBy : String)
    (names : List String) (hbase : base.Continues world)
    (hworld : world.Undergoes kept address start true) :
    Agree (takeImports load address script requestedBy names)
      (takeImports other address script requestedBy names) world := by
  induction names generalizing world with
  | nil => exact .refl _ world
  | cons name rest ih =>
      unfold takeImports
      refine .bind (hagree world hbase hworld name requestedBy) fun dependency hresult => ?_
      refine .bind (.refl _ _) fun added _ => ?_
      obtain ⟨hready, hcontinues, hbelow, hne, hothers⟩ :=
        @loadExports_undergoes kept world address script start load hload hkept hworld name
          requestedBy dependency hresult _ rfl
      rw [after_run_attempt]
      cases added with
      | ok value =>
          refine .lift ?_
          rw [after_onGame]
          exact ih ((hbase.trans hcontinues).trans (continues_withGame _ _))
            (push_undergoes hready hbelow hne hothers)
      | error err => exact .refl _ _

end Act

namespace LoadAct

open World

variable {α β : Type} {kept : List (Nat × GameModule)} {base world : World} {address : Nat}
  {start : GameModule}

/-- Steps that begin with one which leaves a module to its initialization. -/
theorem Sustains.agree {step : LoadAct α} {next following : α → LoadAct β}
    (hstep : Sustains kept address start step) (hbase : base.Continues world)
    (hworld : world.Undergoes kept address start true)
    (hnext : ∀ value world, base.Continues world →
      world.Undergoes kept address start true → Agree (next value) (following value) world) :
    Agree (step >>= next) (step >>= following) world := by
  obtain ⟨hafter, hcontinues⟩ := hstep.run hworld
  exact .bind (.refl step world) fun value _ =>
    hnext value _ (hbase.trans hcontinues) hafter

end LoadAct

namespace Act

open World LoadAct

variable {kept : List (Nat × GameModule)} {base world : World} {address : Nat}
  {start game : GameModule} {loader : Loader} {load other : String → String → LoadAct Nat}

theorem prepareScript_agree (hload : Arranges load)
    (hkept : ∀ entry ∈ kept, entry.2.initializing = true)
    (hagree : AgreeWithin kept address start base load other) (hbase : base.Continues world)
    (hworld : world.Undergoes kept address start true) (game : GameModule) :
    Agree (prepareScript load address game) (prepareScript other address game) world := by
  unfold prepareScript
  refine (createModule_sustains game.name _).agree hbase hworld fun script world hbase hworld => ?_
  refine Sustains.agree ?_ hbase hworld fun _ world hbase hworld => ?_
  · exact IsSteady.sustains (.lift (onModule_isSteady script fun _ => List.Subset.refl _))
  refine Sustains.agree ⟨fun {world} hworld => ⟨hworld.withGame _ (fun _ => ⟨rfl, rfl, rfl⟩)
    (fun _ => id) fun _ _ => .inl, rfl, rfl, rfl⟩⟩ hbase hworld fun _ world hbase hworld => ?_
  refine (addSources_isSteady game script).sustains.agree hbase hworld
    fun _ world hbase hworld => ?_
  exact .bind (takeImports_agree hload hkept hagree game.name _ hbase hworld) fun _ _ => .refl _ _

theorem makeReady_agree (hload : Arranges load)
    (hkept : ∀ entry ∈ kept, entry.2.initializing = true)
    (hworld : world.Orderly ((address, game) :: kept) [] [])
    (hothers : ∀ entry ∈ kept, entry.1 ≠ address) (hinitialized : game.initialized = false)
    (hinitializing : game.initializing = false)
    (hagree : AgreeWithin kept address game world load other) :
    Agree (makeReady load address) (makeReady other address) world := by
  have hbegun : (world.withGame address fun game =>
      { game with initializing := true }).Undergoes kept address game true :=
    ⟨⟨{ game with initializing := true }, rfl, rfl, rfl, rfl,
      hworld.withGame hothers (fun game => { game with initializing := true }) rfl rfl rfl
        fun _ => .inl⟩, hothers⟩
  unfold makeReady
  refine .get ?_
  rw [(hworld.kept List.mem_cons_self).1]
  dsimp only
  rw [hinitialized, hinitializing]
  simp only [Bool.false_eq_true, if_false]
  refine .lift ?_
  rw [after_onGame]
  exact .bind (prepareScript_agree hload hkept hagree (continues_withGame _ _) hbegun game).attempt
    fun _ _ => .refl _ _

/-- Whether two loads come to the same wherever a module from a description file is being
initialized above those that are kept. -/
def AgreeAbove (kept : List (Nat × GameModule)) (files : FileTree)
    (load other : String → String → LoadAct Nat) : Prop :=
  ∀ {base address start}, base.Stacked kept → base.files = files →
    base.loader.map Loader.serial = some start.loader → start.name ∈ files.declared →
      AgreeWithin kept address start base load other

theorem loadDescription_agree (hload : Arranges load) (hstacked : world.Stacked kept)
    (habove : AgreeAbove kept world.files load other)
    (hworld : world.Orderly kept [] []) (hloader : world.loader = some loader)
    {description : Description} {path : Path}
    (hdescription : Description.load world.files path = .ok description)
    (hnone : ∀ address game, ¬ world.IsInstance description.name address game)
    (requestedBy : String) :
    Agree (loadDescription load loader description requestedBy)
      (loadDescription other loader description requestedBy) world := by
  obtain ⟨hresult, hmade, hcontinues⟩ := makeGame_orderly hworld hloader hnone requestedBy
  have hothers : ∀ entry ∈ kept, entry.1 ≠ world.objects.next := fun entry hentry =>
    Nat.ne_of_lt (hworld.lt_next (hworld.of_entry hentry).1)
  have hserial : (after (makeGame loader description requestedBy) world).loader.map
      Loader.serial = some (newGame loader description requestedBy).loader := by
    rw [hcontinues.serial, hloader]
    rfl
  have hagree := makeReady_agree hload hstacked.marked hmade hothers rfl rfl
    (habove (hstacked.continues hcontinues) hcontinues.files hserial
      (Description.mem_declared hdescription))
  unfold loadDescription
  refine .lift ?_
  rw [hresult]
  exact .bind hagree.attempt fun _ _ => .refl _ _

/-- Loads that look for a living game module first, and go on only where none is found. -/
theorem liveInstance_agree (hworld : world.Orderly kept [] []) (hdrained : world.IsDrained)
    {name requestedBy : String} {next following : Option Nat → LoadAct Nat}
    (hsome : ∀ address, next (some address) = following (some address))
    (hnone : (∀ address game, ¬ world.IsInstance name address game) →
      Agree (next none) (following none) world) :
    Agree (liveInstance name requestedBy >>= next) (liveInstance name requestedBy >>= following)
      world := by
  refine .bind (.refl _ _) fun found hfound => ?_
  rcases liveInstance_cases hworld hdrained name requestedBy with
    ⟨hresult, hafter, hunnamed⟩ | ⟨address, game, -, ⟨-, hresult, -⟩ | ⟨-, hresult, -⟩⟩
  · rw [hresult, Except.ok.injEq] at hfound
    subst hfound
    rw [hafter]
    exact hnone hunnamed
  · rw [hresult, Except.ok.injEq] at hfound
    subst hfound
    rw [hsome]
    exact .refl _ _
  · rw [hresult] at hfound
    cases hfound

theorem loadWith_agree (hload : Arranges load) (hworld : world.Orderly kept [] [])
    (hstacked : world.Stacked kept) (habove : AgreeAbove kept world.files load other)
    (name requestedBy : String) :
    Agree (loadWith load name requestedBy) (loadWith other name requestedBy) world := by
  have hdrained := hworld.drained
  have hreported := isDrained_drained world
  have hstacked' : (world.changingLoader Loader.drained).Stacked kept :=
    hstacked.continues (continues_changingLoader _ fun _ => rfl)
  have habove' : AgreeAbove kept (world.changingLoader Loader.drained).files load other := habove
  unfold loadWith
  refine .lift ?_
  rw [after_onLoader]
  generalize world.changingLoader Loader.drained = drained at *
  refine liveInstance_agree hdrained hreported (fun _ => rfl) fun _ => ?_
  refine .get ?_
  split
  · exact .refl _ _
  · rename_i loader hloader
    split
    · exact .refl _ _
    · split
      · exact .refl _ _
      · rename_i path _ description hdescription
        refine liveInstance_agree hdrained hreported (fun _ => rfl) fun hnone => ?_
        exact loadDescription_agree hload hstacked' habove' hdrained hloader hdescription hnone
          requestedBy

/-- Loads that may nest deeper than there are files come to the same: none of them nests that
deep. -/
theorem loadNested_agree {depth : Nat} (extra : Nat) (hworld : world.Orderly kept [] [])
    (hstacked : world.Stacked kept) (hdepth : world.files.fileCount < depth + kept.length)
    (name requestedBy : String) :
    Agree (loadNested depth name requestedBy) (loadNested (depth + extra) name requestedBy)
      world := by
  induction depth generalizing kept world name requestedBy with
  | zero =>
      have hlength := hstacked.length_le hworld
      omega
  | succ depth ih =>
      rw [Nat.succ_add]
      refine loadWith_agree (loadNested_arranges depth) hworld hstacked ?_ name requestedBy
      intro base address start hbase hfiles hserial hdeclared world hcontinues hundergoes
      have hsame : world.files = base.files := hcontinues.files
      rw [← hfiles, ← hsame] at hdeclared
      obtain ⟨game, -, horderly, hdeeper⟩ := hundergoes.stacked (hbase.continues hcontinues)
        (hcontinues.serial.trans hserial) hdeclared
      refine ih horderly hdeeper ?_
      rw [hsame, hfiles, List.length_cons]
      omega

end Act

end ScriptHost
