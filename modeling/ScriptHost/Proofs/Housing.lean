import ScriptHost.Proofs.Arena
import ScriptHost.Proofs.Shedding

/-!
Orderly worlds. The arena of the loader has slots for exactly the living game modules
that the loader has made and for those whose destruction it has not dealt with yet.
While modules are being initialized, each of them has its one handle on the stack: no
object and no hooks own another, and those that are lent to a script are given back.
So a module whose initialization fails is destroyed for certain.
-/

namespace ScriptHost

namespace World

variable {kept : List (Nat × GameModule)} {outside lent : List Nat}
  {base before after world : World} {address : Nat}

/-- Whether an object or the hooks of a script module own a handle of the object at an
address. -/
def Claimed (world : World) (address : Nat) : Prop :=
  (∃ place body, world.objects.get? place = some body ∧ address ∈ body.owned) ∨
    world.Hooked address

/-- The places of the living game modules that a loader has made, without those that
have lost their slots already. -/
def seats (world : World) (serial : Nat) (outside : List Nat) (address : Nat) :
    Option Seat :=
  if address ∈ outside then none
  else (world.game? address).bind fun game =>
    if game.loader = serial then some ⟨game.name, game.slot⟩ else none

/-- A world whose loader has slots for its game modules. What lives where the loader has
put a game module is that one. The game modules that are
`kept` have one handle each apart from those that are `lent`; those `outside` have no
slots any more. -/
structure Orderly (kept : List (Nat × GameModule)) (outside lent : List Nat)
    (world : World) : Prop where
  objects : world.objects.Sound
  modules : world.modules.Sound
  bounded : ∀ {address}, world.Claimed address → address < world.objects.next
  serials : ∀ {address game}, world.game? address = some game →
    game.loader < world.loaders
  loader : ∀ {loader}, world.loader = some loader → loader.serial < world.loaders
  houses : ∀ {loader}, world.loader = some loader →
    loader.arena.Houses loader.reports (world.seats loader.serial outside)
      world.objects.next
  filled : ∀ {loader}, world.loader = some loader → ∀ {key entry game},
    loader.arena.Holds key entry → world.game? entry.address = some game →
      game.name = entry.name ∧ game.loader = loader.serial
  outer : ∀ {loader}, world.loader = some loader → ∀ {address game},
    address ∈ outside → world.game? address = some game →
      game.loader = loader.serial → loader.arena.Issued game.slot ∧
        ∀ {other seat}, world.seats loader.serial outside other = some seat →
          seat.key ≠ game.slot
  kept : ∀ {address game}, (address, game) ∈ kept →
    world.game? address = some game ∧ ¬ world.Claimed address ∧
      world.objects.strongCount address = 1 + lent.count address

/-- What is known of an entry of those that are kept. -/
theorem Orderly.of_entry (hworld : world.Orderly kept outside lent)
    {entry : Nat × GameModule} (hentry : entry ∈ kept) :
    world.game? entry.1 = some entry.2 ∧ ¬ world.Claimed entry.1 ∧
      world.objects.strongCount entry.1 = 1 + lent.count entry.1 :=
  hworld.kept hentry

theorem seats_eq_some_iff {serial address : Nat} {seat : Seat} :
    world.seats serial outside address = some seat ↔ address ∉ outside ∧
      ∃ game, world.game? address = some game ∧ game.loader = serial ∧
        seat = ⟨game.name, game.slot⟩ := by
  unfold seats
  split
  · rename_i hmem
    simp [hmem]
  · rename_i hmem
    simp only [hmem, not_false_eq_true, true_and, Option.bind_eq_some_iff]
    constructor
    · rintro ⟨game, hgame, hseat⟩
      split at hseat
      · exact ⟨game, hgame, ‹_›, (Option.some.inj hseat).symm⟩
      · cases hseat
    · rintro ⟨game, hgame, hserial, rfl⟩
      exact ⟨game, hgame, if_pos hserial⟩

theorem seats_congr (hgames : ∀ address, after.game? address = before.game? address)
    (serial : Nat) (outside : List Nat) :
    after.seats serial outside = before.seats serial outside := by
  funext address
  simp only [seats, hgames]

theorem get?_of_game? {address : Nat} {game : GameModule}
    (hgame : world.game? address = some game) :
    world.objects.get? address = some (.game game) :=
  (game?_eq_some_iff world address game).mp hgame

theorem Orderly.lt_next (hworld : world.Orderly kept outside lent) {address : Nat}
    {game : GameModule} (hgame : world.game? address = some game) :
    address < world.objects.next :=
  Heap.lt_next_of_get? hworld.objects (get?_of_game? hgame)

/-! ### What does not concern game modules -/

/-- An operation after which the same game modules live. -/
theorem Orderly.of_games (hbefore : before.Orderly kept outside lent) {left : List Nat}
    (hobjects : after.objects.Sound) (hmodules : after.modules.Sound)
    (hnext : before.objects.next ≤ after.objects.next)
    (hclaimed : ∀ {address}, after.Claimed address → before.Claimed address)
    (hgames : ∀ address, after.game? address = before.game? address)
    (hloader : after.loader = before.loader) (hloaders : after.loaders = before.loaders)
    (hcounts : ∀ {address game}, (address, game) ∈ kept →
      after.objects.strongCount address = 1 + left.count address) :
    after.Orderly kept outside left where
  objects := hobjects
  modules := hmodules
  bounded := fun hafter => Nat.lt_of_lt_of_le (hbefore.bounded (hclaimed hafter)) hnext
  serials := by
    intro address game hgame
    rw [hgames] at hgame
    exact hloaders ▸ hbefore.serials hgame
  loader := by
    intro loader hsome
    rw [hloader] at hsome
    exact hloaders ▸ hbefore.loader hsome
  houses := by
    intro loader hsome
    rw [hloader] at hsome
    rw [seats_congr hgames]
    exact (hbefore.houses hsome).mono hnext
  filled := by
    intro loader hsome key entry game hholds hgame
    rw [hloader] at hsome
    rw [hgames] at hgame
    exact hbefore.filled hsome hholds hgame
  outer := by
    intro loader hsome address game hmem hgame hserial
    rw [hloader] at hsome
    rw [hgames] at hgame
    rw [seats_congr hgames]
    exact hbefore.outer hsome hmem hgame hserial
  kept := by
    intro address game hmem
    obtain ⟨hgame, hunclaimed, -⟩ := hbefore.kept hmem
    exact ⟨(hgames address).trans hgame, fun hafter => hunclaimed (hclaimed hafter),
      hcounts hmem⟩

/-- Handles of others may be lent as well. -/
theorem Orderly.relend (hworld : world.Orderly kept outside lent) (left : List Nat)
    (hleft : ∀ {address game}, (address, game) ∈ kept →
      left.count address = lent.count address) :
    world.Orderly kept outside left :=
  hworld.of_games hworld.objects hworld.modules (Nat.le_refl _) id (fun _ => rfl) rfl rfl
    fun hmem => (hleft hmem) ▸ (hworld.kept hmem).2.2

theorem Keeps.claimed {handed : List Nat} (hkeeps : base.Keeps world handed)
    {address : Nat} (hclaimed : world.Claimed address) : base.Claimed address := by
  rcases hclaimed with ⟨place, body, hget, hmem⟩ | hhooked
  · rcases hkeeps.objects.fresh hget with hbase | ⟨hbare, -⟩
    · exact .inl ⟨place, body, hbase, hmem⟩
    · rw [hbare.owned] at hmem
      cases hmem
  · exact .inr (hkeeps.hooked hhooked)

/-- An operation that hands out handles lends them. -/
theorem Orderly.keeps (hbase : base.Orderly kept outside lent) {handed : List Nat}
    (hkeeps : base.Keeps world handed) : world.Orderly kept outside (handed ++ lent) := by
  refine hbase.of_games hkeeps.objects.sound (hkeeps.modules hbase.modules)
    hkeeps.objects.next hkeeps.claimed (fun address => ?_) hkeeps.loader hkeeps.loaders
    fun {address game} hmem => ?_
  · cases hgame : base.game? address with
    | some game => exact hkeeps.game? hgame
    | none =>
        cases hafter : world.game? address with
        | none => rfl
        | some game =>
            rw [hkeeps.game?_earlier hafter] at hgame
            cases hgame
  · obtain ⟨hgame, -, hcount⟩ := hbase.kept hmem
    rw [(hkeeps.objects.kept (get?_of_game? hgame)).2, hcount, List.count_append]
    omega

/-- The executor, the host, the files and the counters may change. -/
theorem Orderly.steady (hbefore : before.Orderly kept outside lent)
    (hsteady : before.Steady after) : after.Orderly kept outside lent := by
  have hkeeps := (World.Keeps.refl hbefore.objects).steady hsteady
  exact hbefore.keeps hkeeps

/-! ### Objects that go -/

theorem claimed_without {address target : Nat} {body : ObjectBody}
    (hworld : world.objects.Sound)
    (hclaimed : (world.without address body).Claimed target) : world.Claimed target := by
  rcases hclaimed with ⟨place, found, hget, hmem⟩ | hhooked
  · rw [objects_without, hworld.get?_release] at hget
    split at hget
    · cases hget
    · exact .inl ⟨place, found, hget, hmem⟩
  · exact .inr hhooked

theorem Orderly.count_release (hworld : world.Orderly kept outside (address :: lent))
    {target : Nat} {game : GameModule} (hmem : (target, game) ∈ kept) :
    (world.objects.release address).1.strongCount target = 1 + lent.count target := by
  have hcount := (hworld.kept hmem).2.2
  rw [List.count_cons] at hcount
  rw [Heap.strongCount_release, hcount]
  by_cases htarget : address = target
  · simp only [htarget, beq_self_eq_true, if_true]
    omega
  · simp [htarget]

/-- A handle is given back, and others are left. -/
theorem Orderly.release (hworld : world.Orderly kept outside (address :: lent))
    (hnone : (world.objects.release address).2 = none) :
    { world with objects := (world.objects.release address).1 }.Orderly kept outside
      lent := by
  have hget := hworld.objects.get?_release_of_none hnone
  refine hworld.of_games (hworld.objects.release address) hworld.modules
    (Nat.le_of_eq (Heap.next_release world.objects address).symm) ?_ (fun place => ?_)
    rfl rfl hworld.count_release
  · rintro target (⟨place, body, hbody, hmem⟩ | hhooked)
    · exact .inl ⟨place, body, (hget place).symm.trans hbody, hmem⟩
    · exact .inr hhooked
  · simp only [World.game?, hget]

/-- What is destroyed is not kept. -/
theorem Orderly.ne_of_last (hworld : world.Orderly kept outside (address :: lent))
    {body : ObjectBody} (hsome : (world.objects.release address).2 = some body)
    {target : Nat} {game : GameModule} (hmem : (target, game) ∈ kept) :
    address ≠ target := by
  rintro rfl
  have hcount := (hworld.kept hmem).2.2
  rw [List.count_cons_self] at hcount
  rw [hworld.objects.release_snd, if_neg (by omega)] at hsome
  cases hsome

/-- The game modules left once an object is gone. -/
theorem game?_without (hworld : world.objects.Sound) {body : ObjectBody}
    (hsome : (world.objects.release address).2 = some body) (place : Nat) :
    (world.without address body).game? place =
      if address = place then none else world.game? place := by
  obtain ⟨-, hgone⟩ := hworld.get?_release_of_some hsome
  unfold World.game?
  rw [objects_without, hgone]
  by_cases hplace : address = place
  · rw [if_pos hplace, if_pos hplace]
  · rw [if_neg hplace, if_neg hplace]

/-- An object that is no game module goes. -/
theorem Orderly.without_other (hworld : world.Orderly kept outside (address :: lent))
    {body : ObjectBody} (hsome : (world.objects.release address).2 = some body)
    (hother : ∀ game, body ≠ .game game)
    (hloader : (world.without address body).loader = world.loader) :
    (world.without address body).Orderly kept outside lent := by
  refine hworld.of_games (hworld.objects.release address) hworld.modules
    (Nat.le_of_eq (Heap.next_release world.objects address).symm)
    (claimed_without hworld.objects) (fun place => ?_) hloader rfl hworld.count_release
  rw [game?_without hworld.objects hsome]
  split
  · rename_i hplace
    subst hplace
    obtain ⟨hget, -⟩ := hworld.objects.get?_release_of_some hsome
    cases hgame : world.game? address with
    | none => rfl
    | some game =>
        rw [get?_of_game? hgame] at hget
        exact absurd (Option.some.inj hget).symm (hother game)
  · rfl

/-- The report of a game module that is gone takes its place. -/
theorem Orderly.houses_take (hworld : world.Orderly kept outside lent) {loader : Loader}
    (hloader : world.loader = some loader) {gone : GameModule}
    (hgone : world.game? address = some gone) {staying : Nat → Option Seat}
    (hstaying : ∀ {place seat}, staying place = some seat ↔
      address ≠ place ∧ world.seats loader.serial outside place = some seat) :
    loader.arena.Houses (loader.take gone).reports staying world.objects.next := by
  have hhouses := hworld.houses hloader
  by_cases hserial : gone.loader = loader.serial
  · rw [Loader.reports_take, if_pos hserial]
    by_cases hout : address ∈ outside
    · obtain ⟨hissued, hothers⟩ := hworld.outer hloader hout hgone hserial
      refine hhouses.report hissued (fun hseat => ?_) fun {place seat} hseat => .inl ?_
      · have hearlier := (hstaying.mp hseat).2
        exact ⟨hearlier, hothers hearlier⟩
      · refine hstaying.mpr ⟨?_, hseat⟩
        rintro rfl
        exact (seats_eq_some_iff.mp hseat).1 hout
    · have hown : world.seats loader.serial outside address =
          some ⟨gone.name, gone.slot⟩ :=
        seats_eq_some_iff.mpr ⟨hout, gone, hgone, hserial, rfl⟩
      refine hhouses.report (.inl ⟨_, (hhouses.seated hown).1⟩) (fun hseat => ?_)
        fun {place seat} hseat => ?_
      · obtain ⟨hne, hearlier⟩ := hstaying.mp hseat
        exact ⟨hearlier, hhouses.key_ne hearlier hown hne.symm⟩
      · by_cases hplace : address = place
        · subst hplace
          rw [hown] at hseat
          cases hseat
          exact .inr rfl
        · exact .inl (hstaying.mpr ⟨hplace, hseat⟩)
  · rw [Loader.reports_take, if_neg hserial]
    have hsame : staying = world.seats loader.serial outside := by
      funext place
      refine Option.ext fun seat => hstaying.trans ⟨And.right, fun hseat => ⟨?_, hseat⟩⟩
      rintro rfl
      obtain ⟨-, game, hgame, hmade, -⟩ := seats_eq_some_iff.mp hseat
      rw [hgone] at hgame
      cases hgame
      exact hserial hmade
    exact hsame ▸ hhouses

/-- A game module goes and reports it. -/
theorem Orderly.without_game (hworld : world.Orderly kept outside (address :: lent))
    {gone : GameModule} (hsome : (world.objects.release address).2 = some (.game gone)) :
    (world.without address (.game gone)).Orderly kept outside lent := by
  have hgame := game?_without hworld.objects hsome
  have hfound : world.game? address = some gone := by
    rw [game?_eq_some_iff]
    exact (hworld.objects.get?_release_of_some hsome).1
  have hnext : (world.without address (.game gone)).objects.next = world.objects.next :=
    Heap.next_release world.objects address
  have hearlier : ∀ {place game}, (world.without address (.game gone)).game? place =
      some game → world.game? place = some game := by
    intro place game hstill
    rw [hgame] at hstill
    split at hstill
    · cases hstill
    · exact hstill
  have hseats : ∀ {serial place seat},
      (world.without address (.game gone)).seats serial outside place = some seat ↔
        address ≠ place ∧ world.seats serial outside place = some seat := by
    intro serial place seat
    simp only [seats_eq_some_iff, hgame]
    by_cases hplace : address = place
    · simp [hplace]
    · simp [hplace]
  have hloader : ∀ {loader}, (world.without address (.game gone)).loader = some loader →
      ∃ earlier, world.loader = some earlier ∧ loader = earlier.take gone :=
    fun hloader => by
      obtain ⟨earlier, hsome, htaken⟩ := Option.map_eq_some_iff.mp hloader
      exact ⟨earlier, hsome, htaken.symm⟩
  refine ⟨hworld.objects.release address, hworld.modules, ?_, ?_, ?_, ?_, ?_, ?_, ?_⟩
  · intro target hclaimed
    rw [hnext]
    exact hworld.bounded (claimed_without hworld.objects hclaimed)
  · exact fun hstill => hworld.serials (hearlier hstill)
  · intro loader hafter
    obtain ⟨earlier, hbefore, rfl⟩ := hloader hafter
    rw [Loader.serial_take]
    exact hworld.loader hbefore
  · intro loader hafter
    obtain ⟨earlier, hbefore, rfl⟩ := hloader hafter
    rw [hnext, Loader.serial_take, Loader.arena_take]
    exact hworld.houses_take hbefore hfound hseats
  · intro loader hafter key entry game hholds hstill
    obtain ⟨earlier, hbefore, rfl⟩ := hloader hafter
    rw [Loader.serial_take]
    rw [Loader.arena_take] at hholds
    exact hworld.filled hbefore hholds (hearlier hstill)
  · intro loader hafter place game hmem hstill hserial
    obtain ⟨earlier, hbefore, rfl⟩ := hloader hafter
    rw [Loader.serial_take] at hserial ⊢
    rw [Loader.arena_take]
    obtain ⟨hissued, hothers⟩ := hworld.outer hbefore hmem (hearlier hstill) hserial
    exact ⟨hissued, fun hseat => hothers (hseats.mp hseat).2⟩
  · intro target game hmem
    obtain ⟨hkept, hunclaimed, -⟩ := hworld.kept hmem
    refine ⟨?_, fun hclaimed => hunclaimed (claimed_without hworld.objects hclaimed),
      hworld.count_release hmem⟩
    rw [hgame, if_neg (hworld.ne_of_last hsome hmem)]
    exact hkept

theorem Orderly.without (hworld : world.Orderly kept outside (address :: lent))
    {body : ObjectBody} (hsome : (world.objects.release address).2 = some body) :
    (world.without address body).Orderly kept outside lent := by
  cases body with
  | thing label => exact hworld.without_other hsome (fun _ => nofun) rfl
  | event occasion => exact hworld.without_other hsome (fun _ => nofun) rfl
  | game gone => exact hworld.without_game hsome

/-- What something owns is not kept. -/
theorem Orderly.count_claimed (hworld : world.Orderly kept outside lent)
    {targets : List Nat} (htargets : ∀ target ∈ targets, world.Claimed target)
    {game : GameModule} (hmem : (address, game) ∈ kept) : targets.count address = 0 :=
  List.count_eq_zero_of_not_mem fun htarget =>
    (hworld.kept hmem).2.1 (htargets address htarget)

end World

namespace Act

open World

variable {kept : List (Nat × GameModule)} {outside lent : List Nat} {world : World}

/-! ### Dropping -/

theorem dropOne_orderly (handle : Owned)
    (hworld : world.Orderly kept outside (Owned.objects [handle] ++ lent)) :
    (after (dropOne handle) world).Orderly kept outside
      (Owned.objects (result (dropOne handle) world) ++ lent) := by
  cases handle with
  | module address =>
      obtain ⟨hkeeps, hhooked, -⟩ :=
        dropOne_module address hworld.objects hworld.modules
      refine (hworld.keeps hkeeps).relend _ fun hmem => ?_
      rw [List.count_append, hworld.count_claimed (fun target htarget =>
        .inr (hhooked target htarget)) hmem, Nat.zero_add]
      rfl
  | object ref =>
      cases hbody : (world.objects.release ref.address).2 with
      | none =>
          obtain ⟨hresult, hafter⟩ := dropOne_of_none hbody
          rw [hresult, hafter]
          exact hworld.release hbody
      | some body =>
          obtain ⟨⟨refs, rest, hresult, hkeeps, hrest⟩, -⟩ :=
            dropOne_handsOut hworld.objects hbody
          have hgone : (world.without ref.address body).Orderly kept outside lent :=
            hworld.without hbody
          dsimp only at hresult
          refine (hgone.keeps hkeeps).relend _ fun hmem => ?_
          obtain ⟨hget, -⟩ := hworld.objects.get?_release_of_some hbody
          have hclaimed : ∀ target ∈ Owned.objects rest, world.Claimed target := by
            intro target htarget
            rcases hrest target htarget with hhooked | howned
            · exact .inr hhooked
            · exact .inl ⟨ref.address, body, hget, howned⟩
          simp only [hresult, Owned.objects_append, Owned.objects_objects,
            List.count_append, hworld.count_claimed hclaimed hmem, Nat.add_zero]

/-- A world stays orderly while handles are dropped. -/
theorem orderly_drains (kept : List (Nat × GameModule)) (outside : List Nat) :
    Drains fun lent world => world.Orderly kept outside lent :=
  ⟨fun hworld => hworld.objects, fun hworld => hworld.modules, fun handle => dropOne_orderly handle⟩

/-- Dropping handles keeps a world orderly, and all of them are dropped. -/
theorem dropAll_orderly (handles : List Owned)
    (hworld : world.Orderly kept outside (Owned.objects handles ++ lent)) :
    (after (dropAll handles) world).Orderly kept outside lent ∧
      world.Sheds (after (dropAll handles) world) :=
  (orderly_drains kept outside).dropAll handles hworld

theorem dropObjects_orderly (refs : List ObjectRef)
    (hworld : world.Orderly kept outside (refs.map ObjectRef.address ++ lent)) :
    (after (dropObjects refs) world).Orderly kept outside lent ∧
      world.Sheds (after (dropObjects refs) world) :=
  (orderly_drains kept outside).dropObjects refs hworld

theorem after_dropSome_singleton (handle : Owned) (world : World) :
    after (dropSome [handle]) world = after (dropOne handle) world := by
  unfold dropSome
  rw [after_bind]
  split
  · rfl
  · rfl

/-- What a single handle is dropped for goes first. -/
theorem dropUpTo_singleton_sheds (owners : Nat) (handle : Owned)
    (henough : world.population ≤ owners)
    (hworld : world.Orderly kept outside (Owned.objects [handle] ++ lent)) :
    (after (dropOne handle) world).Sheds (after (dropUpTo owners [handle]) world) := by
  rw [← after_dropSome_singleton]
  cases owners with
  | zero => exact .refl _
  | succ owners =>
      obtain ⟨hsome, -, hless⟩ := (orderly_drains kept outside).dropSome [handle] hworld
      unfold dropUpTo
      rw [after_bind]
      split
      · exact .refl _
      · rename_i hleft
        have hlt := hless hleft
        exact ((orderly_drains kept outside).dropUpTo owners _ (by omega) hsome).2

/-- A game module whose last handle is dropped is gone. -/
theorem dropObjects_gone (ref : ObjectRef)
    (hworld : world.Orderly kept outside (ref.address :: lent))
    (hlast : world.objects.strongCount ref.address = 1) :
    (after (dropObjects [ref]) world).game? ref.address = none := by
  have hsheds : (after (dropOne (.object ref)) world).Sheds
      (after (dropObjects [ref]) world) :=
    dropUpTo_singleton_sheds _ (.object ref) world.population_le hworld
  have hreleased := hworld.objects.release_snd ref.address
  rw [if_pos hlast] at hreleased
  have hgone : (after (dropOne (.object ref)) world).game? ref.address = none := by
    cases hbody : (world.objects.release ref.address).2 with
    | none =>
        rw [(dropOne_of_none hbody).2]
        rw [hbody] at hreleased
        unfold World.game?
        rw [hworld.objects.get?_release_of_none hbody, ← hreleased]
    | some body =>
        obtain ⟨⟨refs, rest, -, hkeeps, -⟩, -⟩ := dropOne_handsOut hworld.objects hbody
        refine Option.eq_none_iff_forall_ne_some.mpr fun game hgame => ?_
        have hearlier := hkeeps.game?_earlier hgame
        rw [game?_without hworld.objects hbody, if_pos rfl] at hearlier
        cases hearlier
  refine Option.eq_none_iff_forall_ne_some.mpr fun game hgame => ?_
  rw [hsheds.game? hgame] at hgone
  cases hgone

end Act

end ScriptHost
