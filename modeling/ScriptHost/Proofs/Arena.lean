import ScriptHost.Game.Arena
import ScriptHost.Proofs.Table

/-!
The integrity of an arena. The free slots are those without an entry, each of them
once, and a name stands for a slot that has an entry of this name. A slot is freed by
a report of the game module that had it, or because the module could not be
initialized; a report of a slot that has been freed already is stale and frees
nothing.
-/

namespace ScriptHost

/-- The place of a living game module: its name and the key of its slot. -/
structure Seat where
  name : String
  key : SlotKey

namespace Arena

variable {arena : Arena} {key : SlotKey} {name : String} {reports : List SlotKey}
  {seats : Nat → Option Seat} {next : Nat}

/-- The slot of a key that is not stale has an entry. -/
def Holds (arena : Arena) (key : SlotKey) (entry : SlotEntry) : Prop :=
  arena.slots[key.index]? = some ⟨key.generation, some entry⟩

/-- The key has been given out for a slot, which it holds or which has moved on. -/
def Issued (arena : Arena) (key : SlotKey) : Prop :=
  (∃ entry, arena.Holds key entry) ∨
    ∃ slot, arena.slots[key.index]? = some slot ∧ key.generation < slot.generation

structure Sound (arena : Arena) : Prop where
  free : arena.free.Nodup
  vacant : ∀ index, index ∈ arena.free ↔
    ∃ generation, arena.slots[index]? = some ⟨generation, none⟩
  named : ∀ {name key}, arena.byName.get? name = some key →
    ∃ address, arena.Holds key ⟨name, address⟩

/-- The arena has a slot for each of the living game modules and for no others but
those whose destruction has been reported. Entries are for addresses below `next`. -/
structure Houses (arena : Arena) (reports : List SlotKey) (seats : Nat → Option Seat)
    (next : Nat) : Prop extends arena.Sound where
  seated : ∀ {address seat}, seats address = some seat →
    arena.Holds seat.key ⟨seat.name, address⟩ ∧
      arena.byName.get? seat.name = some seat.key
  entered : ∀ {key entry}, arena.Holds key entry → entry.address < next ∧
    (seats entry.address = some ⟨entry.name, key⟩ ∨ key ∈ reports)
  reported : ∀ {key}, key ∈ reports → arena.Issued key ∧
    ∀ {address seat}, seats address = some seat → seat.key ≠ key

theorem empty_houses (next : Nat) : Arena.empty.Houses [] (fun _ => none) next where
  free := List.nodup_nil
  vacant := by simp [Arena.empty]
  named := by simp [Arena.empty]
  seated := by simp
  entered := by simp [Arena.empty, Holds]
  reported := by simp

/-! ### Reading an arena -/

/-- A slot is held by one key, for one entry. -/
theorem Holds.unique {other : SlotKey} {entry taken : SlotEntry}
    (hholds : arena.Holds key entry) (hother : arena.Holds other taken)
    (hindex : key.index = other.index) : key = other ∧ entry = taken := by
  unfold Holds at hholds hother
  rw [hindex, hother] at hholds
  simp only [Option.some.injEq, Slot.mk.injEq] at hholds
  obtain ⟨hgeneration, hentry⟩ := hholds
  cases key
  cases other
  simp_all

theorem Holds.entry_unique {entry other : SlotEntry} (hholds : arena.Holds key entry)
    (hother : arena.Holds key other) : entry = other :=
  (hholds.unique hother rfl).2

theorem slot?_eq_some_iff {slot : Slot} : arena.slot? key = some slot ↔
    arena.slots[key.index]? = some slot ∧ slot.generation = key.generation := by
  unfold slot?
  constructor
  · intro hslot
    obtain ⟨found, hfound, hgeneration⟩ := Option.bind_eq_some_iff.mp hslot
    split at hgeneration
    · cases hgeneration
      exact ⟨hfound, ‹_›⟩
    · cases hgeneration
  · rintro ⟨hfound, hgeneration⟩
    simp [hfound, hgeneration]

theorem Holds.slot? {entry : SlotEntry} (hholds : arena.Holds key entry) :
    arena.slot? key = some ⟨key.generation, some entry⟩ :=
  slot?_eq_some_iff.mpr ⟨hholds, rfl⟩

/-- The names lead to entries of their own. -/
theorem Sound.address?_eq_some_iff (harena : arena.Sound) {address : Nat} :
    arena.address? name = some address ↔
      ∃ key, arena.byName.get? name = some key ∧ arena.Holds key ⟨name, address⟩ := by
  unfold address?
  constructor
  · intro haddress
    obtain ⟨key, hkey, hslot⟩ := Option.bind_eq_some_iff.mp haddress
    obtain ⟨other, hholds⟩ := harena.named hkey
    rw [hholds.slot?] at hslot
    simp only [Option.bind_some, Option.map_some, Option.some.injEq] at hslot
    exact ⟨key, hkey, hslot ▸ hholds⟩
  · rintro ⟨key, hkey, hholds⟩
    simp [hkey, hholds.slot?]

theorem mem_addresses {address : Nat} : address ∈ arena.addresses ↔
    ∃ key entry, arena.Holds key entry ∧ entry.address = address := by
  unfold addresses
  rw [List.mem_filterMap]
  constructor
  · rintro ⟨slot, hslot, hentry⟩
    obtain ⟨entry, hsome, haddress⟩ := Option.map_eq_some_iff.mp hentry
    obtain ⟨index, hindex⟩ := List.mem_iff_getElem?.mp hslot
    refine ⟨⟨index, slot.generation⟩, entry, ?_, haddress⟩
    unfold Holds
    rw [hindex, ← hsome]
  · rintro ⟨key, entry, hholds, haddress⟩
    exact ⟨⟨key.generation, some entry⟩, List.mem_of_getElem? hholds, by simp [haddress]⟩

/-- The free slots are not in use. -/
theorem Sound.not_free (harena : arena.Sound) {entry : SlotEntry}
    (hholds : arena.Holds key entry) : key.index ∉ arena.free := by
  intro hfree
  obtain ⟨generation, hvacant⟩ := (harena.vacant key.index).mp hfree
  rw [hholds] at hvacant
  simp at hvacant

/-! ### What an arena says of the living game modules -/

/-- The living game modules have names of their own. -/
theorem Houses.address_unique (hhouses : arena.Houses reports seats next)
    {address other : Nat} {seat taken : Seat} (hseat : seats address = some seat)
    (htaken : seats other = some taken) (hname : seat.name = taken.name) :
    address = other := by
  obtain ⟨hholds, hkey⟩ := hhouses.seated hseat
  obtain ⟨hholds', hkey'⟩ := hhouses.seated htaken
  rw [hname, hkey', Option.some.injEq] at hkey
  rw [hkey] at hholds'
  exact congrArg SlotEntry.address (hholds.entry_unique hholds')

/-- The living game modules have keys of their own. -/
theorem Houses.key_ne (hhouses : arena.Houses reports seats next)
    {address other : Nat} {seat taken : Seat} (hseat : seats address = some seat)
    (htaken : seats other = some taken) (hne : address ≠ other) :
    seat.key ≠ taken.key := by
  intro hkey
  have hholds := (hhouses.seated hseat).1
  rw [hkey] at hholds
  exact hne (congrArg SlotEntry.address
    (hholds.entry_unique (hhouses.seated htaken).1))

/-- A living game module is found by its name. -/
theorem Houses.address?_of_seat (hhouses : arena.Houses reports seats next)
    {address : Nat} {seat : Seat} (hseat : seats address = some seat) :
    arena.address? seat.name = some address := by
  obtain ⟨hholds, hkey⟩ := hhouses.seated hseat
  exact hhouses.address?_eq_some_iff.mpr ⟨seat.key, hkey, hholds⟩

/-- Once all reports are dealt with, a name is found if its game module lives. -/
theorem Houses.seat_of_address? (hhouses : arena.Houses [] seats next) {address : Nat}
    (haddress : arena.address? name = some address) :
    ∃ key, seats address = some ⟨name, key⟩ := by
  obtain ⟨key, -, hholds⟩ := hhouses.address?_eq_some_iff.mp haddress
  exact ⟨key, (hhouses.entered hholds).2.resolve_right (List.not_mem_nil)⟩

/-- Once all reports are dealt with, the slots in use are those of the living game
modules. -/
theorem Houses.mem_addresses_iff (hhouses : arena.Houses [] seats next) {address : Nat} :
    address ∈ arena.addresses ↔ ∃ seat, seats address = some seat := by
  rw [mem_addresses]
  constructor
  · rintro ⟨key, entry, hholds, rfl⟩
    exact ⟨_, (hhouses.entered hholds).2.resolve_right (List.not_mem_nil)⟩
  · rintro ⟨seat, hseat⟩
    exact ⟨seat.key, _, (hhouses.seated hseat).1, rfl⟩

theorem Houses.mono (hhouses : arena.Houses reports seats next) {later : Nat}
    (hlater : next ≤ later) : arena.Houses reports seats later where
  toSound := hhouses.toSound
  seated := hhouses.seated
  entered := fun hholds =>
    ⟨Nat.lt_of_lt_of_le (hhouses.entered hholds).1 hlater, (hhouses.entered hholds).2⟩
  reported := hhouses.reported

/-! ### Freeing slots -/

/-- What freeing the slot of a key that holds it does. -/
structure Frees (arena : Arena) (key : SlotKey) (entry : SlotEntry) (freed : Arena) :
    Prop where
  slots : ∀ index, freed.slots[index]? =
    if index = key.index then some ⟨key.generation + 1, none⟩ else arena.slots[index]?
  free : freed.free = key.index :: arena.free
  names : ∀ name, freed.byName.get? name =
    if arena.byName.get? entry.name = some key ∧ entry.name = name then none
    else arena.byName.get? name

theorem Holds.frees {entry : SlotEntry} (hholds : arena.Holds key entry) :
    arena.Frees key entry (arena.freeSlot key) := by
  have hbelow : key.index < arena.slots.length := (List.getElem?_eq_some_iff.mp hholds).1
  unfold freeSlot
  rw [hholds.slot?]
  dsimp only [dropName, setSlot]
  constructor
  · intro index
    split <;>
    · rw [List.getElem?_set]
      by_cases hindex : key.index = index
      · subst hindex
        simp [hbelow]
      · simp [hindex, Ne.symm hindex]
  · split <;> rfl
  · intro name
    split
    · rename_i hkey
      rw [Table.get?_erase]
      simp [hkey]
    · rename_i hkey
      simp [hkey]

theorem freeSlot_of_stale {slot : Slot} (hslot : arena.slots[key.index]? = some slot)
    (hstale : slot.generation ≠ key.generation) : arena.freeSlot key = arena := by
  unfold freeSlot slot?
  simp [hslot, hstale]

/-- No key holds a slot that has just been freed, and the others hold what they
held. -/
theorem Frees.holds_iff {freed : Arena} {entry other : SlotEntry}
    (hfrees : arena.Frees key entry freed) {kept : SlotKey} :
    freed.Holds kept other ↔ kept.index ≠ key.index ∧ arena.Holds kept other := by
  unfold Holds
  rw [hfrees.slots]
  by_cases hindex : kept.index = key.index
  · simp [hindex]
  · simp [hindex]

theorem Frees.issued {freed : Arena} {entry : SlotEntry} (hholds : arena.Holds key entry)
    (hfrees : arena.Frees key entry freed) {old : SlotKey} (hissued : arena.Issued old) :
    freed.Issued old := by
  by_cases hindex : old.index = key.index
  · refine .inr ⟨⟨key.generation + 1, none⟩, by rw [hfrees.slots, if_pos hindex], ?_⟩
    have hslot : arena.slots[old.index]? = some ⟨key.generation, some entry⟩ :=
      hindex ▸ hholds
    rcases hissued with ⟨held, hheld⟩ | ⟨slot, hfound, hlater⟩
    · rw [hheld] at hslot
      simp only [Option.some.injEq, Slot.mk.injEq] at hslot
      exact Nat.lt_succ_of_le (Nat.le_of_eq hslot.1)
    · rw [hfound, Option.some.injEq] at hslot
      subst hslot
      exact Nat.lt_succ_of_lt hlater
  · rcases hissued with ⟨held, hheld⟩ | ⟨slot, hfound, hlater⟩
    · exact .inl ⟨held, hfrees.holds_iff.mpr ⟨hindex, hheld⟩⟩
    · exact .inr ⟨slot, by rw [hfrees.slots, if_neg hindex, hfound], hlater⟩

theorem Frees.sound {freed : Arena} {entry : SlotEntry} (harena : arena.Sound)
    (hholds : arena.Holds key entry) (hfrees : arena.Frees key entry freed) :
    freed.Sound where
  free := by
    rw [hfrees.free]
    exact List.nodup_cons.mpr ⟨harena.not_free hholds, harena.free⟩
  vacant := by
    intro index
    rw [hfrees.free, hfrees.slots, List.mem_cons]
    by_cases hindex : index = key.index
    · simp [hindex]
    · simp [hindex, harena.vacant index]
  named := by
    intro name other hother
    rw [hfrees.names] at hother
    split at hother
    · cases hother
    · rename_i hkept
      obtain ⟨address, hheld⟩ := harena.named hother
      refine ⟨address, hfrees.holds_iff.mpr ⟨fun hindex => hkept ?_, hheld⟩⟩
      obtain ⟨rfl, hentry⟩ := hheld.unique hholds hindex
      have hname : name = entry.name := congrArg SlotEntry.name hentry
      exact ⟨hname ▸ hother, hname.symm⟩

/-- A key that has been given out stays so when its slot is freed. -/
theorem Issued.freeSlot (hissued : arena.Issued key) : (arena.freeSlot key).Issued key := by
  rcases hissued with ⟨entry, hholds⟩ | ⟨slot, hslot, hlater⟩
  · exact hholds.frees.issued hholds (.inl ⟨entry, hholds⟩)
  · rw [freeSlot_of_stale hslot (Nat.ne_of_gt hlater)]
    exact .inr ⟨slot, hslot, hlater⟩

theorem slots_dropName (arena : Arena) (key : SlotKey) (entry : Option SlotEntry) :
    (arena.dropName key entry).slots = arena.slots := by
  cases entry with
  | some entry =>
      simp only [dropName]
      split <;> rfl
  | none =>
      simp only [dropName]
      cases arena.byName.find? (·.2 == key) <;> rfl

/-- Freeing a slot puts nothing into any. -/
theorem holds_of_freeSlot {entry : SlotEntry} {kept : SlotKey}
    (hholds : (arena.freeSlot key).Holds kept entry) : arena.Holds kept entry := by
  unfold Holds at *
  cases hslot : arena.slot? key with
  | none =>
      simp only [freeSlot, hslot] at hholds
      exact hholds
  | some slot =>
      simp only [freeSlot, hslot, slots_dropName, setSlot, List.getElem?_set] at hholds
      by_cases hindex : key.index = kept.index
      · by_cases hbelow : key.index < arena.slots.length
        · rw [if_pos hindex, if_pos hbelow] at hholds
          simp at hholds
        · rw [if_pos hindex, if_neg hbelow] at hholds
          cases hholds
      · rw [if_neg hindex] at hholds
        exact hholds

theorem holds_of_drained {entry : SlotEntry} {kept : SlotKey} {dealt : List SlotKey}
    (hholds : (dealt.foldl Arena.freeSlot arena).Holds kept entry) :
    arena.Holds kept entry := by
  induction dealt generalizing arena with
  | nil => exact hholds
  | cons key rest ih => exact holds_of_freeSlot (ih hholds)

/-- The slot of a key that has been given out is freed. The game modules that stay
have other keys. -/
theorem Houses.freeSlot (hhouses : arena.Houses reports seats next)
    (hissued : arena.Issued key) {fewer : List SlotKey} {staying : Nat → Option Seat}
    (hfewer : ∀ other ∈ fewer, other ∈ reports)
    (hleft : ∀ other ∈ reports, other = key ∨ other ∈ fewer)
    (hstaying : ∀ address seat, staying address = some seat ↔
      seats address = some seat ∧ seat.key ≠ key) :
    (arena.freeSlot key).Houses fewer staying next := by
  rcases hissued with ⟨entry, hholds⟩ | ⟨slot, hslot, hlater⟩
  · have hfrees := hholds.frees
    refine ⟨hfrees.sound hhouses.toSound hholds, ?_, ?_, ?_⟩
    · intro address seat hseat
      obtain ⟨hearlier, hne⟩ := (hstaying address seat).mp hseat
      obtain ⟨hheld, hname⟩ := hhouses.seated hearlier
      have hindex : seat.key.index ≠ key.index :=
        fun hindex => hne (hheld.unique hholds hindex).1
      refine ⟨hfrees.holds_iff.mpr ⟨hindex, hheld⟩, ?_⟩
      rw [hfrees.names, if_neg]
      · exact hname
      · rintro ⟨hkey, hsame⟩
        rw [hsame, hname, Option.some.injEq] at hkey
        exact hne hkey
    · intro kept other hkept
      obtain ⟨hindex, hheld⟩ := hfrees.holds_iff.mp hkept
      have hne : kept ≠ key := fun hsame => hindex (congrArg SlotKey.index hsame)
      obtain ⟨hbelow, hsome⟩ := hhouses.entered hheld
      refine ⟨hbelow, ?_⟩
      rcases hsome with hseat | hreport
      · exact .inl ((hstaying _ _).mpr ⟨hseat, hne⟩)
      · exact .inr ((hleft kept hreport).resolve_left hne)
    · intro report hreport
      obtain ⟨hold, hothers⟩ := hhouses.reported (hfewer report hreport)
      exact ⟨hfrees.issued hholds hold, fun hseat =>
        hothers ((hstaying _ _).mp hseat).1⟩
  · rw [freeSlot_of_stale hslot (Nat.ne_of_gt hlater)]
    refine ⟨hhouses.toSound, ?_, ?_, ?_⟩
    · intro address seat hseat
      exact hhouses.seated ((hstaying address seat).mp hseat).1
    · intro kept other hkept
      have hne : kept ≠ key := by
        rintro rfl
        rw [hkept, Option.some.injEq] at hslot
        subst hslot
        exact Nat.lt_irrefl _ hlater
      obtain ⟨hbelow, hsome⟩ := hhouses.entered hkept
      refine ⟨hbelow, ?_⟩
      rcases hsome with hseat | hreport
      · exact .inl ((hstaying _ _).mpr ⟨hseat, hne⟩)
      · exact .inr ((hleft kept hreport).resolve_left hne)
    · intro report hreport
      obtain ⟨hold, hothers⟩ := hhouses.reported (hfewer report hreport)
      exact ⟨hold, fun hseat => hothers ((hstaying _ _).mp hseat).1⟩

/-- Dealing with reports one after another frees no slot of a living game module. -/
theorem Houses.drainedUpTo {dealt left : List SlotKey}
    (hhouses : arena.Houses (dealt ++ left) seats next) :
    (dealt.foldl Arena.freeSlot arena).Houses left seats next := by
  induction dealt generalizing arena with
  | nil => exact hhouses
  | cons key dealt ih =>
      obtain ⟨hissued, hothers⟩ := hhouses.reported List.mem_cons_self
      refine ih (hhouses.freeSlot hissued (fun _ => List.mem_cons_of_mem key)
        (fun _ => List.mem_cons.mp) fun address seat => ?_)
      exact ⟨fun hseat => ⟨hseat, hothers hseat⟩, And.left⟩

/-- Dealing with all reports leaves the slots of the living game modules. -/
theorem Houses.drained (hhouses : arena.Houses reports seats next) :
    (reports.foldl Arena.freeSlot arena).Houses [] seats next := by
  rw [← List.append_nil reports] at hhouses
  exact hhouses.drainedUpTo

/-- A game module that goes leaves a report. -/
theorem Houses.report (hhouses : arena.Houses reports seats next)
    (hissued : arena.Issued key) {staying : Nat → Option Seat}
    (hstaying : ∀ {address seat}, staying address = some seat →
      seats address = some seat ∧ seat.key ≠ key)
    (hleft : ∀ {address seat}, seats address = some seat →
      staying address = some seat ∨ seat.key = key) :
    arena.Houses (reports ++ [key]) staying next where
  toSound := hhouses.toSound
  seated := fun hseat => hhouses.seated (hstaying hseat).1
  entered := by
    intro kept entry hheld
    obtain ⟨hbelow, hsome⟩ := hhouses.entered hheld
    refine ⟨hbelow, ?_⟩
    rcases hsome with hseat | hreport
    · exact (hleft hseat).imp_right fun hkey => by simp [← hkey]
    · exact .inr (List.mem_append_left _ hreport)
  reported := by
    intro report hreport
    rcases List.mem_append.mp hreport with hearlier | hlast
    · obtain ⟨hold, hothers⟩ := hhouses.reported hearlier
      exact ⟨hold, fun hseat => hothers (hstaying hseat).1⟩
    · rw [List.mem_singleton] at hlast
      subst hlast
      exact ⟨hissued, fun hseat => (hstaying hseat).2⟩

/-! ### Taking slots -/

/-- What putting a game module into a slot of its own does. -/
structure Admits (arena : Arena) (key : SlotKey) (entry : SlotEntry) (admitted : Arena) :
    Prop where
  unused : arena.slots[key.index]? = none ∨
    arena.slots[key.index]? = some ⟨key.generation, none⟩
  slots : ∀ index, admitted.slots[index]? =
    if index = key.index then some ⟨key.generation, some entry⟩ else arena.slots[index]?
  nodup : admitted.free.Nodup
  free : ∀ index, index ∈ admitted.free ↔ index ∈ arena.free ∧ index ≠ key.index
  names : admitted.byName = arena.byName.set entry.name key

theorem occupy_of_slot? {slot : Slot} (hslot : arena.slot? key = some slot)
    (entry : SlotEntry) :
    arena.occupy key entry = arena.setSlot key { slot with entry := some entry } := by
  unfold occupy
  rw [hslot]

/-- The slot that is taken is a free one or a new one. -/
theorem Sound.admits (harena : arena.Sound) (name : String) (address : Nat) :
    arena.Admits (arena.allocate name).1 ⟨name, address⟩
      ((arena.allocate name).2.occupy (arena.allocate name).1 ⟨name, address⟩) := by
  unfold allocate
  split
  · rename_i index rest hfree
    obtain ⟨generation, hvacant⟩ :=
      (harena.vacant index).mp (hfree ▸ List.mem_cons_self)
    have hbelow : index < arena.slots.length := (List.getElem?_eq_some_iff.mp hvacant).1
    have hnodup : (index :: rest).Nodup := hfree ▸ harena.free
    simp only [hvacant, Option.map_some, Option.getD_some]
    rw [occupy_of_slot? (slot?_eq_some_iff.mpr ⟨hvacant, rfl⟩)]
    constructor
    · exact .inr hvacant
    · intro other
      simp only [setSlot, List.getElem?_set]
      by_cases hother : index = other
      · subst hother
        simp [hbelow]
      · simp [hother, Ne.symm hother]
    · exact (List.nodup_cons.mp hnodup).2
    · intro other
      have hnot := (List.nodup_cons.mp hnodup).1
      simp only [setSlot, hfree, List.mem_cons]
      constructor
      · exact fun hmem => ⟨.inr hmem, fun hsame => hnot (hsame ▸ hmem)⟩
      · exact fun ⟨hmem, hne⟩ => hmem.resolve_left hne
    · rfl
  · rename_i hfree
    dsimp only
    have hslot : Arena.slot? { arena with
        slots := arena.slots ++ [⟨0, none⟩],
        byName := arena.byName.set name ⟨arena.slots.length, 0⟩ }
        ⟨arena.slots.length, 0⟩ = some ⟨0, none⟩ :=
      slot?_eq_some_iff.mpr ⟨by simp, rfl⟩
    rw [occupy_of_slot? hslot]
    constructor
    · exact .inl (by simp)
    · intro other
      simp only [setSlot, List.getElem?_set]
      by_cases hother : arena.slots.length = other
      · subst hother
        simp
      · simp only [hother, if_false, Ne.symm hother]
        rcases Nat.lt_or_gt_of_ne hother with hlater | hbefore
        · rw [List.getElem?_eq_none (by simp; omega), List.getElem?_eq_none (by omega)]
        · rw [List.getElem?_append_left hbefore]
    · exact hfree ▸ List.nodup_nil
    · intro other
      simp [setSlot, hfree]
    · rfl

/-- What is put into a slot is all that is new there. -/
theorem Admits.holds {admitted : Arena} {entry other : SlotEntry} {kept : SlotKey}
    (hadmits : arena.Admits key entry admitted) (hholds : admitted.Holds kept other) :
    other = entry ∨ arena.Holds kept other := by
  unfold Holds at hholds
  rw [hadmits.slots] at hholds
  split at hholds
  · simp only [Option.some.injEq, Slot.mk.injEq] at hholds
    exact .inl hholds.2.symm
  · exact .inr hholds

/-- A fresh game module is admitted if no living one has its name. -/
theorem Houses.admitted (hhouses : arena.Houses reports seats next) {address : Nat}
    (hfresh : next ≤ address)
    (hname : ∀ {other seat}, seats other = some seat → seat.name ≠ name) :
    ((arena.allocate name).2.occupy (arena.allocate name).1 ⟨name, address⟩).Houses reports
      (fun other => if other = address then some ⟨name, (arena.allocate name).1⟩
        else seats other) (address + 1) := by
  have hadmits := hhouses.toSound.admits name address
  generalize (arena.allocate name).2.occupy (arena.allocate name).1 ⟨name, address⟩ =
    admitted at hadmits ⊢
  generalize (arena.allocate name).1 = key at hadmits ⊢
  have hheld : ∀ {other entry}, other.index ≠ key.index →
      (admitted.Holds other entry ↔ arena.Holds other entry) := by
    intro other entry hindex
    unfold Holds
    rw [hadmits.slots, if_neg hindex]
  have hown : admitted.Holds key ⟨name, address⟩ := by
    unfold Holds
    rw [hadmits.slots, if_pos rfl]
  have hunused : ∀ {other entry}, arena.Holds other entry → other.index ≠ key.index := by
    intro other entry hholds hindex
    unfold Holds at hholds
    rw [hindex] at hholds
    rcases hadmits.unused with hnone | hvacant
    · rw [hnone] at hholds
      cases hholds
    · rw [hvacant] at hholds
      simp at hholds
  have hissued : ∀ {old}, arena.Issued old → admitted.Issued old ∧ old ≠ key := by
    intro old hold
    rcases hold with ⟨entry, hholds⟩ | ⟨slot, hslot, hlater⟩
    · have hindex := hunused hholds
      exact ⟨.inl ⟨entry, (hheld hindex).mpr hholds⟩,
        fun hsame => hindex (congrArg SlotKey.index hsame)⟩
    · by_cases hindex : old.index = key.index
      · rw [hindex] at hslot
        rcases hadmits.unused with hnone | hvacant
        · rw [hnone] at hslot
          cases hslot
        · rw [hvacant, Option.some.injEq] at hslot
          subst hslot
          refine ⟨.inr ⟨⟨key.generation, some ⟨name, address⟩⟩, ?_, hlater⟩, ?_⟩
          · rw [hadmits.slots, if_pos hindex]
          · rintro rfl
            exact Nat.lt_irrefl _ hlater
      · refine ⟨.inr ⟨slot, ?_, hlater⟩, fun hsame => hindex (congrArg SlotKey.index hsame)⟩
        rw [hadmits.slots, if_neg hindex, hslot]
  refine ⟨⟨hadmits.nodup, ?_, ?_⟩, ?_, ?_, ?_⟩
  · intro index
    rw [hadmits.free, hadmits.slots, hhouses.vacant]
    by_cases hindex : index = key.index
    · simp [hindex]
    · simp [hindex]
  · intro other found hfound
    rw [hadmits.names, Table.get?_set] at hfound
    split at hfound
    · rename_i hsame
      cases hfound
      exact ⟨address, hsame ▸ hown⟩
    · obtain ⟨place, hholds⟩ := hhouses.named hfound
      exact ⟨place, (hheld (hunused hholds)).mpr hholds⟩
  · intro other seat hseat
    rw [hadmits.names, Table.get?_set]
    split at hseat
    · rename_i hother
      cases hseat
      subst hother
      exact ⟨hown, if_pos rfl⟩
    · obtain ⟨hholds, hfound⟩ := hhouses.seated hseat
      exact ⟨(hheld (hunused hholds)).mpr hholds,
        (if_neg (Ne.symm (hname hseat))).trans hfound⟩
  · intro other entry hholds
    by_cases hindex : other.index = key.index
    · obtain ⟨rfl, rfl⟩ := hown.unique hholds hindex.symm
      exact ⟨Nat.lt_succ_self address, .inl (if_pos rfl)⟩
    · obtain ⟨hbelow, hsome⟩ := hhouses.entered ((hheld hindex).mp hholds)
      refine ⟨by omega, hsome.imp_left fun hseat => ?_⟩
      rw [if_neg (by omega)]
      exact hseat
  · intro report hreport
    obtain ⟨hold, hothers⟩ := hhouses.reported hreport
    refine ⟨(hissued hold).1, fun {other seat} hseat => ?_⟩
    split at hseat
    · cases hseat
      exact Ne.symm (hissued hold).2
    · exact hothers hseat

end Arena

end ScriptHost
