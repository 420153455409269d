import ScriptHost.Proofs.Hatching

/-!
What a failed load leaves. Every game module that has come with it had to be imported by one
that heard the init event later; as nobody holds a handle of any of them in the end, they are
all gone, and with them their script modules and all that was recorded of those.
-/

namespace ScriptHost

namespace Delivery

variable {since : List Delivery} {place : Nat} {first second : Delivery}

/-- Who has heard two events one after the other has heard two events. -/
theorem two_le_heard {later between earlier : List Delivery} (hfirst : first.game = place)
    (hsecond : second.game = place) :
    2 ≤ (heard place (later ++ first :: between ++ second :: earlier)).length := by
  simp only [heard_append, heard_cons, if_pos hfirst, if_pos hsecond, List.length_append,
    List.length_cons]
  omega

/-- Where one event is all that a game module has heard, it stands in one place. -/
theorem place_unique {later earlier later' earlier' : List Delivery}
    (hlength : (heard place since).length ≤ 1) (hfirst : first.game = place)
    (hsecond : second.game = place) (hsince : since = later ++ first :: earlier)
    (hsame : since = later' ++ second :: earlier') : later'.length = later.length := by
  rw [hsince] at hsame
  rcases List.append_eq_append_iff.mp hsame with ⟨between, hlater, hrest⟩ |
    ⟨between, hlater, hrest⟩
  · cases between with
    | nil => rw [hlater, List.append_nil]
    | cons next between =>
        rw [List.cons_append, List.cons.injEq] at hrest
        rw [hsince, hrest.2, ← List.cons_append, ← List.append_assoc] at hlength
        have htwo := @two_le_heard _ _ _ later between earlier' hfirst hsecond
        omega
  · cases between with
    | nil => rw [hlater, List.append_nil]
    | cons next between =>
        rw [List.cons_append, List.cons.injEq] at hrest
        rw [hsince, hlater, ← hrest.1] at hlength
        have htwo := @two_le_heard _ _ _ later' between earlier hsecond hfirst
        omega

end Delivery

namespace World

open Delivery

variable {outset : Outset} {making unheard lent : List Nat} {since more : List Delivery}
  {held : Holdings} {before after world : World} {place address : Nat} {game : GameModule}

/-- Where nothing is being initialized and no handles are lent, a game module that has come
since and lives is imported by one that has heard the init event after it. -/
theorem Grows.exists_later (hgrows : world.Grows outset [] [] [] since)
    (hnew : outset.New world place game) :
    ∃ owner found, outset.New world owner found ∧ Precedes since place owner := by
  obtain ⟨-, owner, found, howner, himport⟩ := hgrows.exists_importer hnew List.not_mem_nil
  have hvoice := hgrows.voiced.voices owner
  refine ⟨owner, found, howner, ?_⟩
  cases hinit : found.initialized with
  | false =>
      rw [(hvoice.idle howner List.not_mem_nil hinit).2] at himport
      exact absurd himport List.not_mem_nil
  | true => exact (hvoice.order howner hinit place himport).resolve_left fun hold => hold hnew.2

/-- Hence nothing that has come since lives. -/
theorem Grows.no_survivors (hgrows : world.Grows outset [] [] [] since) (honce : outset.once)
    (place : Nat) (game : GameModule) : ¬ outset.New world place game := by
  -- each importer has heard its one init event later than what it imports
  have hnone : ∀ length later delivery earlier, ∀ place game, outset.New world place game →
      since = later ++ delivery :: earlier → delivery.game = place → later.length = length →
        False := by
    intro length
    induction length using Nat.strong_induction_on with
    | _ length ih =>
        rintro later delivery earlier place game hnew hsince hplace rfl
        obtain ⟨owner, found, howner, later', delivery', earlier', hsince', hplace', -, hbegan⟩ :=
          hgrows.exists_later hnew
        obtain ⟨other, hmem, hother, -⟩ := hbegan
        obtain ⟨between, rest, hsplit⟩ := List.append_of_mem hmem
        have hagain : since = (later' ++ delivery' :: between) ++ other :: rest := by
          rw [hsince', hsplit]
          simp
        have hsame := place_unique (((hgrows.voiced.voices place).once honce).2 game hnew).1
          hplace hother hsince hagain
        refine ih later'.length ?_ later' delivery' earlier' owner found howner hsince' hplace' rfl
        rw [← hsame, List.length_append, List.length_cons]
        omega
  intro hnew
  obtain ⟨⟨delivery, hmem, hplace, -⟩, -⟩ := hgrows.exists_importer hnew List.not_mem_nil
  obtain ⟨later, earlier, hsince⟩ := List.append_of_mem hmem
  exact hnone _ later delivery earlier place game hnew hsince hplace rfl

end World

end ScriptHost
