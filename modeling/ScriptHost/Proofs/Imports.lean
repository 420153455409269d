import ScriptHost.Proofs.Hatching
import ScriptHost.Proofs.Rebuilding
import ScriptHost.Proofs.Terminating
import Mathlib.Logic.Relation

/-!
The graph of imports that a load finds: a request which no living game module answers opens a
description, and that has further requests. While game modules come into being, each of them has
been made from a description that the load has come to; once it is no longer being initialized
its imports have been answered, and no circle can be reached from its description.
-/

namespace ScriptHost

/-- Two descriptions are the same but for the path by which their file is called. -/
def Description.Same (first second : Description) : Prop :=
  { first with path := second.path } = second

theorem Description.Same.name {first second : Description} (hsame : first.Same second) :
    first.name = second.name :=
  congrArg (fun description => description.name) hsame

theorem Description.Same.imports {first second : Description} (hsame : first.Same second) :
    first.imports = second.imports :=
  congrArg (fun description => description.imports) hsame

namespace World

variable {base before after world : World} {root request other name : String}
  {place target : Nat} {game : GameModule} {description imported found : Description}
  {making : List Nat}

/-! ### The graph -/

/-- A request leads to the description in a file. -/
def LeadsTo (world : World) (request : String) (description : Description) : Prop :=
  ∃ loader path, world.loader = some loader ∧
    loader.descriptionPath? world.files request = some path ∧
      Description.load world.files path = .ok description

/-- A request makes a load look into a description: no living game module answers it. -/
structure Opens (world : World) (request : String) (description : Description) : Prop where
  unnamed : ∀ address game, ¬ world.IsInstance request address game
  leads : world.LeadsTo request description
  unmade : ∀ address game, ¬ world.IsInstance description.name address game

/-- The edges of the graph of imports. Nothing is imported on behalf of game modules that live
already. -/
def Imports (world : World) (importer imported : Description) : Prop :=
  ∃ request ∈ importer.imports, world.Opens request imported

/-- The descriptions that a load of `root` looks into, unless it fails before. -/
def Visits (world : World) (root : String) (description : Description) : Prop :=
  ∃ first, world.Opens root first ∧ Relation.ReflTransGen world.Imports first description

/-- What a load of `root` requests, unless it fails before. -/
inductive Requests (world : World) (root : String) : String → Prop
  | root : Requests world root root
  | imported {description : Description} {request : String}
      (visits : world.Visits root description) (mem : request ∈ description.imports) :
      Requests world root request

/-- A load of `root` comes to a circle of imports. -/
def HasCircle (world : World) (root : String) : Prop :=
  ∃ description, world.Visits root description ∧
    Relation.TransGen world.Imports description description

/-- No circle can be reached from a description. -/
def Clear (world : World) (description : Description) : Prop :=
  Acc (fun imported importer => world.Imports importer imported) description

/-- A description has a request, or imports one that has it, and so on. -/
def Leads (world : World) (description : Description) (request : String) : Prop :=
  ∃ importer, Relation.ReflTransGen world.Imports description importer ∧
    request ∈ importer.imports

/-- The descriptions of the game modules that may answer a request in a load of `root`: the
one that lives already and is called so; the one that lives already and is declared by the file
to which the request leads; or else one that is made for a description of the same name. -/
inductive Stands (world : World) (root request : String) : Description → Prop
  | living {address : Nat} {game : GameModule}
      (found : world.IsInstance request address game) : Stands world root request game.description
  | declared {description : Description} {address : Nat} {game : GameModule}
      (unnamed : ∀ address game, ¬ world.IsInstance request address game)
      (leads : world.LeadsTo request description)
      (found : world.IsInstance description.name address game) :
      Stands world root request game.description
  | opened {description made : Description} (opens : world.Opens request description)
      (visits : world.Visits root made) (named : made.name = description.name) :
      Stands world root request made

/-! ### Files -/

/-- The segments that a description provides under source names. -/
def Provides (world : World) (description : Description) (names : List String)
    (segments : List Segment) : Prop :=
  List.Forall₂ (fun name segment => ∃ path,
    world.executor.search.findSource world.files name description.baseDirectory? = some path ∧
      Segment.ofFile world.files path = .ok segment) names segments

/-- The segments that the exports of whoever answers a request provide. -/
def Exports (world : World) (root request : String) (segments : List Segment) : Prop :=
  ∃ description, world.Stands root request description ∧
    world.Provides description description.exports segments

/-- The access of the script module of a description. -/
def accessOf (description : Description) : AccessMask :=
  AccessMask.moduleDefault.union description.extraAccess

/-- The script module of a description can be built from some segments. -/
def Builds (world : World) (description : Description) (segments : List Segment) : Prop :=
  let module := (ScriptModule.create 0 description.name description.path.text).furnished segments
    (accessOf description)
  module.state = .readyToBuild ∧
    ∃ built, (module.compile world.executor world.files).1 = .ok built

/-- Whatever a load of `root` comes to is in order, but for circles: all descriptions are valid
and declare different names, all sources and exports are there, all builds succeed, and the game
modules that live already are initialized. -/
structure Valid (world : World) (root : String) : Prop where
  stands : ∀ request, world.Requests root request →
    ∃ description, world.Stands root request description
  /-- A name is declared by one file, which may be called by different paths. -/
  distinct : ∀ {request other description found}, world.Requests root request →
    world.Requests root other → world.LeadsTo request description → world.LeadsTo other found →
      found.name = request ∨ found.name = description.name → found.Same description
  sources : ∀ description, world.Visits root description →
    ∃ segments, world.Provides description description.sourceFiles segments
  exports : ∀ request description, world.Requests root request →
    world.Stands root request description →
      ∃ segments, world.Provides description description.exports segments
  builds : ∀ description sources exported, world.Visits root description →
    world.Provides description description.sourceFiles sources →
      List.Forall₂ (world.Exports root) description.imports exported →
        world.Builds description (sources ++ exported.flatten)
  live : ∀ place game, world.game? place = some game →
    game.initialized = true ∧ game.initializing = false

theorem LeadsTo.unique (hleads : world.LeadsTo request description)
    (hother : world.LeadsTo request found) : found = description := by
  obtain ⟨loader, path, hloader, hpath, hload⟩ := hleads
  obtain ⟨loader', path', hloader', hpath', hload'⟩ := hother
  rw [hloader, Option.some.injEq] at hloader'
  subst hloader'
  rw [hpath, Option.some.injEq] at hpath'
  subst hpath'
  rw [hload, Except.ok.injEq] at hload'
  exact hload'.symm

/-- Whatever is visited has been requested. -/
theorem Visits.opened (hvisits : world.Visits root description) :
    ∃ request, world.Requests root request ∧ world.Opens request description := by
  obtain ⟨first, hopens, hpath⟩ := hvisits
  cases hpath with
  | refl => exact ⟨root, .root, hopens⟩
  | tail hearlier hlast =>
      obtain ⟨request, hmem, hopens'⟩ := hlast
      exact ⟨request, .imported ⟨first, hopens, hearlier⟩ hmem, hopens'⟩

/-- Whatever is requested and opened is visited. -/
theorem Requests.visits (hrequests : world.Requests root request)
    (hopens : world.Opens request description) : world.Visits root description := by
  cases hrequests with
  | root => exact ⟨description, hopens, .refl⟩
  | imported hvisits hmem =>
      obtain ⟨first, hfirst, hpath⟩ := hvisits
      exact ⟨first, hfirst, hpath.tail ⟨request, hmem, hopens⟩⟩

theorem Leads.of_mem (hmem : request ∈ description.imports) : world.Leads description request :=
  ⟨description, .refl, hmem⟩

/-- A description that leads to a request leads to what that opens. -/
theorem Leads.opens (hleads : world.Leads description request)
    (hopens : world.Opens request imported) :
    Relation.TransGen world.Imports description imported := by
  obtain ⟨importer, hpath, hmem⟩ := hleads
  exact .tail' hpath ⟨request, hmem, hopens⟩

theorem Leads.trans (hleads : world.Leads description request)
    (hopens : world.Opens request imported) (hmem : other ∈ imported.imports) :
    world.Leads description other :=
  ⟨imported, (hleads.opens hopens).to_reflTransGen, hmem⟩

/-- Descriptions with the same imports have the same edges. -/
theorem Imports.congr (hsame : found.imports = description.imports)
    (himports : world.Imports found imported) : world.Imports description imported := by
  obtain ⟨request, hmem, hopens⟩ := himports
  exact ⟨request, hsame ▸ hmem, hopens⟩

theorem Clear.congr (hclear : world.Clear found) (hsame : found.imports = description.imports) :
    world.Clear description :=
  .intro _ fun _ himports => hclear.inv (himports.congr hsame.symm)

/-- A path from a description to one with the same imports closes a circle. -/
theorem circle_of_path (hpath : Relation.TransGen world.Imports found description)
    (hsame : found.imports = description.imports) :
    Relation.TransGen world.Imports description description := by
  obtain ⟨next, hfirst, hrest⟩ := Relation.TransGen.head'_iff.mp hpath
  exact .head' (hfirst.congr hsame) hrest

/-- A description from which no circle can be reached is on none. -/
theorem Clear.no_circle (hclear : world.Clear description) :
    ¬ Relation.TransGen world.Imports description description := by
  induction hclear with
  | intro description _ ih =>
      intro hcircle
      obtain ⟨next, hfirst, hrest⟩ := Relation.TransGen.head'_iff.mp hcircle
      exact ih next hfirst (.tail' hrest hfirst)

theorem Clear.of_path (hclear : world.Clear description)
    (hpath : Relation.ReflTransGen world.Imports description found) : world.Clear found := by
  induction hpath with
  | refl => exact hclear
  | tail _ hlast ih => exact ih.inv hlast

/-- Nothing that answers a request leads to a circle, if what it opens does not. -/
theorem not_hasCircle (hclear : ∀ description, world.Opens root description →
    world.Clear description) : ¬ world.HasCircle root := by
  rintro ⟨description, ⟨first, hopens, hpath⟩, hcircle⟩
  exact ((hclear first hopens).of_path hpath).no_circle hcircle

end World

end ScriptHost
