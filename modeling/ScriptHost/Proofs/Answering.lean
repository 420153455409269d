import ScriptHost.Proofs.Imports

/-!
How the requests of a load are answered. A request that finds a living game module finds one
that was there at first, or one that has been made for a description of the same name; if that
is still being initialized the request closes a circle of imports. A request that finds nobody
opens what it would have opened at first.
-/

namespace ScriptHost

namespace World

variable {base before after world : World} {root request name : String} {place target : Nat}
  {game : GameModule} {description found : Description} {making : List Nat}

/-- Game modules live on with their descriptions, and so does the loader that has made them. -/
structure Persists (before after : World) : Prop where
  serial : after.loader.map Loader.serial = before.loader.map Loader.serial
  games : ∀ {place game}, before.game? place = some game → ∃ kept,
    after.game? place = some kept ∧ kept.description = game.description ∧
      kept.loader = game.loader

/-- A game module that has answered a request. -/
def Answers (base : World) (root : String) (world : World) (request : String) (target : Nat) :
    Prop :=
  ∃ game, world.IsInstance game.name target game ∧ base.Stands root request game.description

/-- A request is made on behalf of all game modules of a list. -/
def Awaits (base : World) (making : List Nat) (request : String) (world : World) : Prop :=
  ∀ place ∈ making, ∃ game, world.game? place = some game ∧ base.Leads game.description request

theorem Persists.instance (hpersists : before.Persists after)
    (hfound : before.IsInstance name target game) :
    ∃ kept, after.IsInstance name target kept ∧ kept.description = game.description := by
  obtain ⟨kept, hkept, hdescription, hloader⟩ := hpersists.games hfound.found
  exact ⟨kept, ⟨hkept, (congrArg Description.name hdescription).trans hfound.named,
    hpersists.serial.trans (hfound.made.trans (congrArg some hloader.symm))⟩, hdescription⟩

theorem Persists.answers (hpersists : before.Persists after)
    (hanswers : base.Answers root before request target) :
    base.Answers root after request target := by
  obtain ⟨game, hfound, hstands⟩ := hanswers
  obtain ⟨kept, hkept, hdescription⟩ := hpersists.instance hfound
  have hname : kept.name = game.name := congrArg Description.name hdescription
  exact ⟨kept, hname.symm ▸ hkept, hdescription.symm ▸ hstands⟩

theorem Persists.awaits (hpersists : before.Persists after)
    (hawaits : base.Awaits making request before) : base.Awaits making request after := by
  intro place hmem
  obtain ⟨game, hgame, hleads⟩ := hawaits place hmem
  obtain ⟨kept, hkept, hdescription, -⟩ := hpersists.games hgame
  exact ⟨kept, hkept, hdescription.symm ▸ hleads⟩

/-- A world in the middle of a load of `root`, which has begun in the world `base`. The game
modules in `making` are being initialized; the others that have come since are initialized. -/
structure Supplies (base : World) (root : String) (making : List Nat) (world : World) :
    Prop where
  continues : base.Continues world
  /-- The loader has got to know description files of game modules that live now. -/
  known : ∀ {loader now}, base.loader = some loader → world.loader = some now →
    ∀ request, now.known.get? request = loader.known.get? request ∨
      ∃ address game, world.IsInstance request address game
  old : ∀ {place game}, base.game? place = some game → world.game? place = some game
  made : ∀ {place game}, world.game? place = some game → base.game? place = none →
    world.IsInstance game.name place game ∧ base.Visits root game.description ∧
      (place ∈ making → game.initializing = true) ∧
      (place ∉ making → game.initializing = false ∧ game.initialized = true ∧
        base.Clear game.description ∧
          List.Forall₂ (base.Answers root world) game.description.imports game.dependencies)
  stacked : ∀ place ∈ making, base.game? place = none ∧ ∃ game, world.game? place = some game
  distinct : making.Nodup

theorem Supplies.refl (base : World) (root : String) : base.Supplies root [] base where
  continues := .refl base
  known := fun hloader hnow request => by
    rw [hloader, Option.some.injEq] at hnow
    exact .inl (hnow ▸ rfl)
  old := id
  made := fun hgame hnone => by simp [hgame] at hnone
  stacked := by simp
  distinct := List.nodup_nil

/-- Whoever has been there at first is there. -/
theorem Supplies.instance_of_base (hsupplies : base.Supplies root making world)
    (hfound : base.IsInstance name target game) : world.IsInstance name target game where
  found := hsupplies.old hfound.found
  named := hfound.named
  made := hsupplies.continues.serial.trans hfound.made

/-- A request that nobody answers by its name leads where it has led at first. -/
theorem Supplies.leads (hsupplies : base.Supplies root making world)
    (hnone : ∀ address game, ¬ world.IsInstance request address game) :
    world.LeadsTo request description ↔ base.LeadsTo request description := by
  have hfiles := hsupplies.continues.files
  have hpath : ∀ {loader now}, base.loader = some loader → world.loader = some now →
      now.descriptionPath? world.files request = loader.descriptionPath? base.files request := by
    intro loader now hloader hnow
    have hknown := (hsupplies.known hloader hnow request).resolve_right fun hfound =>
      hfound.elim fun address hfound => hfound.elim (hnone address)
    unfold Loader.descriptionPath?
    rw [hknown, hfiles]
  have hloaders : base.loader.map Loader.serial = world.loader.map Loader.serial :=
    hsupplies.continues.serial.symm
  constructor
  · rintro ⟨now, path, hnow, hleads, hload⟩
    rw [hnow] at hloaders
    obtain ⟨loader, hloader, -⟩ := Option.map_eq_some_iff.mp hloaders
    exact ⟨loader, path, hloader, hpath hloader hnow ▸ hleads, hfiles ▸ hload⟩
  · rintro ⟨loader, path, hloader, hleads, hload⟩
    rw [hloader] at hloaders
    obtain ⟨now, hnow, -⟩ := Option.map_eq_some_iff.mp hloaders.symm
    exact ⟨now, path, hnow, (hpath hloader hnow).symm ▸ hleads, hfiles.symm ▸ hload⟩

/-- A request that nobody answers by its name leads somewhere. -/
theorem Supplies.exists_leadsTo (hsupplies : base.Supplies root making world)
    (hvalid : base.Valid root) (hrequests : base.Requests root request)
    (hnone : ∀ address game, ¬ world.IsInstance request address game) :
    ∃ description, world.LeadsTo request description := by
  obtain ⟨answer, hstands⟩ := hvalid.stands request hrequests
  cases hstands with
  | living hfound => exact absurd (hsupplies.instance_of_base hfound) (hnone _ _)
  | declared _ hleads _ => exact ⟨_, (hsupplies.leads hnone).mpr hleads⟩
  | opened hopens _ _ => exact ⟨_, (hsupplies.leads hnone).mpr hopens.leads⟩

/-- What is opened now would have been opened at first. -/
theorem Supplies.opens (hsupplies : base.Supplies root making world)
    (hopens : world.Opens request description) : base.Opens request description where
  unnamed := fun address game hfound =>
    hopens.unnamed address game (hsupplies.instance_of_base hfound)
  leads := (hsupplies.leads hopens.unnamed).mp hopens.leads
  unmade := fun address game hfound =>
    hopens.unmade address game (hsupplies.instance_of_base hfound)

/-- A request that stands for a name and is another one leads to a description of it. -/
theorem Denotes.leads (hdenotes : world.Denotes name request) :
    request = name ∨ (∀ address game, ¬ world.IsInstance request address game) ∧
      ∃ description, world.LeadsTo request description ∧ description.name = name := by
  cases hdenotes with
  | name => exact .inl rfl
  | file hunnamed hloader hpath hload hname =>
      exact .inr ⟨hunnamed, _, ⟨_, _, hloader, hpath, hload⟩, hname⟩

/-! ### Requests that find somebody -/

/-- A request that finds a game module which was there at first opens nothing. -/
theorem Supplies.answers_old (hsupplies : base.Supplies root making world)
    (hgame : base.game? target = some game) (hfound : world.IsInstance game.name target game)
    (hdenotes : world.Denotes game.name request) :
    base.Stands root request game.description ∧ ∀ found, ¬ base.Opens request found := by
  have hbase : base.IsInstance game.name target game :=
    ⟨hgame, rfl, hsupplies.continues.serial.symm.trans hfound.made⟩
  rcases hdenotes.leads with rfl | ⟨hnone, description, hleads, hname⟩
  · exact ⟨.living hbase, fun found hopens => hopens.unnamed _ _ hbase⟩
  · have hfirst := (hsupplies.leads hnone).mp hleads
    rw [← hname] at hbase
    refine ⟨.declared (fun address game hinstance =>
      hnone address game (hsupplies.instance_of_base hinstance)) hfirst hbase, ?_⟩
    intro found hopens
    rw [← hopens.leads.unique hfirst] at hopens
    exact hopens.unmade _ _ hbase

/-- A request that finds a game module which has come since opens a description that is the same
but for its path. -/
theorem Supplies.answers_new (hsupplies : base.Supplies root making world)
    (hvalid : base.Valid root) (hworld : world.Orderly [] [] [])
    (hrequests : base.Requests root request) (hnew : base.game? target = none)
    (hfound : world.IsInstance game.name target game)
    (hdenotes : world.Denotes game.name request) :
    ∃ opened, base.Opens request opened ∧ game.description.Same opened := by
  obtain ⟨-, hvisits, -⟩ := hsupplies.made hfound.found hnew
  obtain ⟨other, hother, hopens⟩ := hvisits.opened
  rcases hdenotes.leads with hname | ⟨hnone, description, hleads, hname⟩
  · obtain ⟨answer, hstands⟩ := hvalid.stands request hrequests
    cases hstands with
    | living hinstance =>
        have hthere := hsupplies.instance_of_base hinstance
        rw [hname] at hthere
        obtain rfl := hworld.instance_unique hfound hthere
        exact absurd (hnew.symm.trans hinstance.found) nofun
    | @declared description address made hunnamed hleads hinstance =>
        have hsame := hvalid.distinct hrequests hother hleads hopens.leads (.inl hname.symm)
        rw [← hsame.name] at hinstance
        exact absurd hinstance (hopens.unmade _ _)
    | opened hopened hvisited hnamed =>
        exact ⟨_, hopened,
          hvalid.distinct hrequests hother hopened.leads hopens.leads (.inl hname.symm)⟩
  · have hfirst := (hsupplies.leads hnone).mp hleads
    refine ⟨description, ⟨fun address game hinstance => ?_, hfirst, fun address made hmade => ?_⟩,
      hvalid.distinct hrequests hother hfirst hopens.leads (.inr hname.symm)⟩
    · exact hnone address game (hsupplies.instance_of_base hinstance)
    · rw [hname] at hmade
      exact hopens.unmade address made hmade

/-- A request that finds a game module which is initialized has its answer, and leads to no
circle. -/
theorem Supplies.answered (hsupplies : base.Supplies root making world)
    (hvalid : base.Valid root) (hworld : world.Orderly [] [] [])
    (hrequests : base.Requests root request) (hfound : world.IsInstance game.name target game)
    (hdenotes : world.Denotes game.name request) (hidle : game.initializing = false) :
    base.Answers root world request target ∧
      ∀ opened, base.Opens request opened → base.Clear opened := by
  cases hbase : base.game? target with
  | some earlier =>
      have hsame := hsupplies.old hbase
      rw [hfound.found, Option.some.injEq] at hsame
      subst hsame
      obtain ⟨hstands, hnothing⟩ := hsupplies.answers_old hbase hfound hdenotes
      exact ⟨⟨game, hfound, hstands⟩, fun opened hopens => absurd hopens (hnothing opened)⟩
  | none =>
      obtain ⟨opened, hopens, hsame⟩ :=
        hsupplies.answers_new hvalid hworld hrequests hbase hfound hdenotes
      obtain ⟨-, hvisits, hmarked, hdone⟩ := hsupplies.made hfound.found hbase
      have hout : target ∉ making := fun hmem => by
        have hcontra := hmarked hmem
        rw [hidle] at hcontra
        cases hcontra
      refine ⟨⟨game, hfound, .opened hopens hvisits hsame.name⟩, fun other hother => ?_⟩
      rw [hopens.leads.unique hother.leads]
      exact (hdone hout).2.2.1.congr hsame.imports

/-- A request that finds a game module which is being initialized closes a circle, if it is made
on behalf of whatever is being initialized. -/
theorem Supplies.closes (hsupplies : base.Supplies root making world)
    (hvalid : base.Valid root) (hworld : world.Orderly [] [] [])
    (hrequests : base.Requests root request)
    (hawaits : base.Awaits making request world)
    (hfound : world.IsInstance game.name target game)
    (hdenotes : world.Denotes game.name request) (hmarked : game.initializing = true) :
    base.HasCircle root := by
  cases hbase : base.game? target with
  | some earlier =>
      have hsame := hsupplies.old hbase
      rw [hfound.found, Option.some.injEq] at hsame
      subst hsame
      rw [(hvalid.live target game hbase).2] at hmarked
      cases hmarked
  | none =>
      obtain ⟨opened, hopens, hsame⟩ :=
        hsupplies.answers_new hvalid hworld hrequests hbase hfound hdenotes
      obtain ⟨-, -, -, hdone⟩ := hsupplies.made hfound.found hbase
      have hmem : target ∈ making := by
        by_contra hout
        rw [(hdone hout).1] at hmarked
        cases hmarked
      obtain ⟨awaiting, hawaiting, hleads⟩ := hawaits target hmem
      rw [hfound.found, Option.some.injEq] at hawaiting
      subst hawaiting
      have hpath := hleads.opens hopens
      exact ⟨opened, hrequests.visits hopens, circle_of_path hpath hsame.imports⟩

/-! ### What happens to game modules meanwhile -/

/-- Game modules remain as they are, and so do the description files that the loader knows; those
that are being initialized change in other respects than their descriptions. -/
structure Passes (making : List Nat) (before after : World) : Prop where
  continues : before.Continues after
  known : ∀ {loader now}, before.loader = some loader → after.loader = some now →
    now.known = loader.known
  games : ∀ place, after.game? place = before.game? place ∨ place ∈ making ∧
    ∃ game changed, before.game? place = some game ∧ after.game? place = some changed ∧
      changed.description = game.description ∧ changed.loader = game.loader ∧
        changed.initializing = game.initializing

theorem Passes.persists (hpasses : Passes making before after) : before.Persists after := by
  refine ⟨hpasses.continues.serial, fun {place game} hgame => ?_⟩
  rcases hpasses.games place with hsame | ⟨-, earlier, changed, hearlier, hchanged,
    hdescription, hloader, -⟩
  · exact ⟨game, hsame.trans hgame, rfl, rfl⟩
  · rw [hgame, Option.some.injEq] at hearlier
    subst hearlier
    exact ⟨changed, hchanged, hdescription, hloader⟩

/-- What the loader knows is known of game modules that live, or has been known at first. -/
theorem Supplies.knows (hsupplies : base.Supplies root making before)
    (hpersists : before.Persists after)
    (hknown : ∀ {loader now}, before.loader = some loader → after.loader = some now →
      ∀ request, now.known.get? request = loader.known.get? request ∨
        ∃ address game, after.IsInstance request address game) :
    ∀ {loader now}, base.loader = some loader → after.loader = some now →
      ∀ request, now.known.get? request = loader.known.get? request ∨
        ∃ address game, after.IsInstance request address game := by
  intro loader now hloader hnow request
  have hserial := hpersists.serial
  rw [hnow] at hserial
  obtain ⟨middle, hmiddle, -⟩ := Option.map_eq_some_iff.mp hserial.symm
  rcases hknown hmiddle hnow request with hsame | hfound
  · rw [hsame]
    refine (hsupplies.known hloader hmiddle request).imp_right ?_
    rintro ⟨address, game, hfound⟩
    obtain ⟨kept, hkept, -⟩ := hpersists.instance hfound
    exact ⟨address, kept, hkept⟩
  · exact .inr hfound

/-- Whatever has been said of a load still holds. -/
theorem Supplies.passes (hsupplies : base.Supplies root making before)
    (hpasses : Passes making before after) : base.Supplies root making after := by
  refine ⟨hsupplies.continues.trans hpasses.continues, hsupplies.knows hpasses.persists
      fun hloader hnow _ => .inl (by rw [hpasses.known hloader hnow]),
    fun {place game} hgame => ?_, fun {place game} hgame hnone => ?_, fun place hmem => ?_,
    hsupplies.distinct⟩
  · have hthere := hsupplies.old hgame
    rcases hpasses.games place with hsame | ⟨hmem, -⟩
    · exact hsame.trans hthere
    · rw [(hsupplies.stacked place hmem).1] at hgame
      cases hgame
  · rcases hpasses.games place with hsame | ⟨hmem, earlier, changed, hearlier, hchanged,
      hdescription, hloader, hinitializing⟩
    · rw [hsame] at hgame
      obtain ⟨hfound, hvisits, hmarked, hdone⟩ := hsupplies.made hgame hnone
      refine ⟨⟨hsame.trans hgame, rfl, hpasses.continues.serial.trans hfound.made⟩, hvisits,
        hmarked, fun hout => ?_⟩
      obtain ⟨hidle, hinit, hclear, hanswers⟩ := hdone hout
      exact ⟨hidle, hinit, hclear, hanswers.imp fun _ _ => hpasses.persists.answers⟩
    · rw [hgame, Option.some.injEq] at hchanged
      subst hchanged
      obtain ⟨hfound, hvisits, hmarked, -⟩ := hsupplies.made hearlier hnone
      exact ⟨⟨hgame, rfl, hpasses.continues.serial.trans
        (hfound.made.trans (congrArg some hloader.symm))⟩, hdescription ▸ hvisits,
        fun hmem => hinitializing.trans (hmarked hmem), fun hout => absurd hmem hout⟩
  · obtain ⟨hnone, game, hgame⟩ := hsupplies.stacked place hmem
    refine ⟨hnone, ?_⟩
    rcases hpasses.games place with hsame | ⟨-, _, changed, -, hchanged, -⟩
    · exact ⟨game, hsame.trans hgame⟩
    · exact ⟨changed, hchanged⟩

/-- A game module that is made for a request is being initialized from then on. -/
theorem Supplies.enters (hsupplies : base.Supplies root making before)
    (hrequests : base.Requests root request) (hopens : before.Opens request description)
    (hcontinues : before.Continues after) (hbefore : before.game? place = none)
    (hgames : ∀ other, after.game? other = if place = other then some game
      else before.game? other) (hdescription : game.description = description)
    (hmarked : game.initializing = true)
    (hmade : before.loader.map Loader.serial = some game.loader)
    (hknown : ∀ {loader now}, before.loader = some loader → after.loader = some now →
      ∀ request, now.known.get? request = loader.known.get? request ∨
        request = description.name) : base.Supplies root (place :: making) after := by
  have hplace : after.game? place = some game := by rw [hgames, if_pos rfl]
  have hstays : ∀ {other found}, before.game? other = some found →
      after.game? other = some found := by
    intro other found hfound
    rw [hgames, if_neg, hfound]
    rintro rfl
    rw [hbefore] at hfound
    cases hfound
  have hpersists : before.Persists after :=
    ⟨hcontinues.serial, fun hfound => ⟨_, hstays hfound, rfl, rfl⟩⟩
  have hself : after.IsInstance description.name place game :=
    ⟨hplace, congrArg Description.name hdescription, hcontinues.serial.trans hmade⟩
  have hknows : ∀ {loader now}, before.loader = some loader → after.loader = some now →
      ∀ request, now.known.get? request = loader.known.get? request ∨
        ∃ address game, after.IsInstance request address game := by
    intro loader now hloader hnow other
    refine (hknown hloader hnow other).imp_right ?_
    rintro rfl
    exact ⟨place, game, hself⟩
  refine ⟨hsupplies.continues.trans hcontinues, hsupplies.knows hpersists hknows,
    fun hgame => hstays (hsupplies.old hgame), fun {other found} hfound hnone => ?_,
    fun other hmem => ?_, List.nodup_cons.mpr ⟨fun hmem => ?_, hsupplies.distinct⟩⟩
  · by_cases hsame : place = other
    · subst hsame
      rw [hplace, Option.some.injEq] at hfound
      subst hfound
      refine ⟨⟨hplace, rfl, hself.made⟩, ?_, fun _ => hmarked, fun hout =>
        absurd List.mem_cons_self hout⟩
      rw [hdescription]
      exact hrequests.visits (hsupplies.opens hopens)
    · rw [hgames, if_neg hsame] at hfound
      obtain ⟨hearlier, hvisits, hmarks, hdone⟩ := hsupplies.made hfound hnone
      refine ⟨⟨hstays hearlier.found, rfl, hcontinues.serial.trans hearlier.made⟩, hvisits,
        fun hmem => hmarks ((List.mem_cons.mp hmem).resolve_left (Ne.symm hsame)),
        fun hout => ?_⟩
      obtain ⟨hidle, hinit, hclear, hanswers⟩ :=
        hdone fun hmem => hout (List.mem_cons_of_mem _ hmem)
      exact ⟨hidle, hinit, hclear, hanswers.imp fun _ _ => hpersists.answers⟩
  · rcases List.mem_cons.mp hmem with rfl | hrest
    · refine ⟨Option.eq_none_iff_forall_ne_some.mpr fun old hold => ?_, game, hplace⟩
      rw [hsupplies.old hold] at hbefore
      cases hbefore
    · obtain ⟨hnone, found, hfound⟩ := hsupplies.stacked other hrest
      exact ⟨hnone, found, hstays hfound⟩
  · obtain ⟨-, found, hfound⟩ := hsupplies.stacked place hmem
    rw [hbefore] at hfound
    cases hfound

/-- A game module is initialized once its imports have been answered. -/
theorem Supplies.finishes {earlier : GameModule}
    (hsupplies : base.Supplies root (place :: making) before)
    (hcontinues : before.Continues after) (hbefore : before.game? place = some earlier)
    (hgames : ∀ other, after.game? other = if place = other then some game
      else before.game? other) (hdescription : game.description = earlier.description)
    (hmade : game.loader = earlier.loader) (hidle : game.initializing = false)
    (hinit : game.initialized = true) (hclear : base.Clear game.description)
    (hanswers : List.Forall₂ (base.Answers root before) game.description.imports
      game.dependencies)
    (hknown : ∀ {loader now}, before.loader = some loader → after.loader = some now →
      now.known = loader.known) : base.Supplies root making after := by
  have hplace : after.game? place = some game := by rw [hgames, if_pos rfl]
  obtain ⟨hout, hdistinct⟩ := List.nodup_cons.mp hsupplies.distinct
  have hpersists : before.Persists after := by
    refine ⟨hcontinues.serial, fun {other found} hfound => ?_⟩
    by_cases hsame : place = other
    · subst hsame
      rw [hbefore, Option.some.injEq] at hfound
      subst hfound
      exact ⟨game, hplace, hdescription, hmade⟩
    · exact ⟨found, (hgames other).trans ((if_neg hsame).trans hfound), rfl, rfl⟩
  obtain ⟨hnone, -⟩ := hsupplies.stacked place List.mem_cons_self
  refine ⟨hsupplies.continues.trans hcontinues, hsupplies.knows hpersists
      fun hloader hnow _ => .inl (by rw [hknown hloader hnow]),
    fun {other found} hfound => ?_, fun {other found} hfound hnew => ?_, fun other hmem => ?_,
    hdistinct⟩
  · rw [hgames, if_neg, hsupplies.old hfound]
    rintro rfl
    rw [hnone] at hfound
    cases hfound
  · by_cases hsame : place = other
    · subst hsame
      rw [hplace, Option.some.injEq] at hfound
      subst hfound
      obtain ⟨hearlier, hvisits, -⟩ := hsupplies.made hbefore hnone
      refine ⟨⟨hplace, rfl, hcontinues.serial.trans (hearlier.made.trans
        (congrArg some hmade.symm))⟩, hdescription ▸ hvisits, fun hmem => absurd hmem hout,
        fun _ => ⟨hidle, hinit, hclear, hanswers.imp fun _ _ => hpersists.answers⟩⟩
    · have hstays := hfound
      rw [hgames, if_neg hsame] at hfound
      obtain ⟨hearlier, hvisits, hmarks, hdone⟩ := hsupplies.made hfound hnew
      refine ⟨⟨hstays, rfl, hcontinues.serial.trans hearlier.made⟩, hvisits,
        fun hmem => hmarks (List.mem_cons_of_mem _ hmem), fun hother => ?_⟩
      obtain ⟨hidle', hinit', hclear', hanswers'⟩ := hdone fun hmem =>
        (List.mem_cons.mp hmem).elim (fun heq => hsame heq.symm) hother
      exact ⟨hidle', hinit', hclear', hanswers'.imp fun _ _ => hpersists.answers⟩
  · obtain ⟨hnew, found, hfound⟩ := hsupplies.stacked other (List.mem_cons_of_mem _ hmem)
    refine ⟨hnew, found, ?_⟩
    rw [hgames, if_neg, hfound]
    rintro rfl
    exact hout hmem

/-- No more game modules are being initialized than there are files. -/
theorem Supplies.length_le (hsupplies : base.Supplies root making world)
    (hworld : world.Orderly [] [] []) : making.length ≤ base.files.fileCount := by
  have hstacked : ∀ place ∈ making, ∃ game, world.IsInstance game.name place game ∧
      game.name ∈ base.files.declared := by
    intro place hmem
    obtain ⟨hnone, game, hgame⟩ := hsupplies.stacked place hmem
    obtain ⟨hfound, hvisits, -⟩ := hsupplies.made hgame hnone
    obtain ⟨_, -, hopens⟩ := hvisits.opened
    obtain ⟨_, _, -, -, hload⟩ := hopens.leads
    exact ⟨game, hfound, Description.mem_declared hload⟩
  have hnames : (making.map fun place => (world.game? place).map GameModule.name).Nodup := by
    rw [List.Nodup, List.pairwise_map]
    refine List.Pairwise.imp_of_mem (fun {first second} hfirst hsecond hne hname => ?_)
      hsupplies.distinct
    obtain ⟨game, hgame, -⟩ := hstacked first hfirst
    obtain ⟨other, hother, -⟩ := hstacked second hsecond
    rw [hgame.found, hother.found, Option.map_some, Option.map_some, Option.some.injEq] at hname
    exact hne (hworld.instance_unique hgame (hname.symm ▸ hother))
  have hdeclared : (making.map fun place => (world.game? place).map GameModule.name) ⊆
      base.files.declared.map some := by
    intro found hfound
    obtain ⟨place, hplace, rfl⟩ := List.mem_map.mp hfound
    obtain ⟨game, hgame, hname⟩ := hstacked place hplace
    rw [hgame.found]
    exact List.mem_map_of_mem hname
  have hlength := List.Nodup.length_le_of_subset hnames hdeclared
  rw [List.length_map, List.length_map] at hlength
  exact Nat.le_trans hlength base.files.length_declared_le

end World

end ScriptHost
