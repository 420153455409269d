import ScriptHost.Game.Basic

/-!
The arena of a loader: the slots of the game modules it has made, by name as well. Each slot has a
generation, which moves on when the slot is freed, so that keys from before are stale.
-/

namespace ScriptHost

/-- What a slot in use says: the name and the address of a game module. -/
structure SlotEntry where
  name : String
  address : Nat
  deriving DecidableEq, Repr

/-- A slot. -/
structure Slot where
  generation : Nat
  entry : Option SlotEntry
  deriving DecidableEq, Repr

/-- The slots, the free ones among them, and the keys of names. -/
structure Arena where
  slots : List Slot
  /-- The free slots; the first one is used next. -/
  free : List Nat
  byName : Table String SlotKey

namespace Arena

/-- The arena without slots. -/
def empty : Arena := ⟨[], [], []⟩

/-- The slot of a key that is not stale. -/
def slot? (arena : Arena) (key : SlotKey) : Option Slot :=
  arena.slots[key.index]?.bind fun slot =>
    if slot.generation = key.generation then some slot else none

/-- Changes the slot of a key that is not stale. -/
def setSlot (arena : Arena) (key : SlotKey) (slot : Slot) : Arena :=
  { arena with slots := arena.slots.set key.index slot }

/-- Takes a free slot, or a new one, for a name. -/
def allocate (arena : Arena) (name : String) : SlotKey × Arena :=
  match arena.free with
  | index :: free =>
    let generation := (arena.slots[index]?.map Slot.generation).getD 0
    let key : SlotKey := ⟨index, generation⟩
    (key, { arena with free := free, byName := arena.byName.set name key })
  | [] =>
    let key : SlotKey := ⟨arena.slots.length, 0⟩
    (key,
      { arena with slots := arena.slots ++ [⟨0, none⟩], byName := arena.byName.set name key })

/-- Puts a game module into its slot. -/
def occupy (arena : Arena) (key : SlotKey) (entry : SlotEntry) : Arena :=
  match arena.slot? key with
  | some slot => arena.setSlot key { slot with entry := some entry }
  | none => arena

/-- Takes the name away that a key which is being freed stands for. -/
def dropName (arena : Arena) (key : SlotKey) : Option SlotEntry → Arena
  | some entry =>
    if arena.byName.get? entry.name = some key then
      { arena with byName := arena.byName.erase entry.name }
    else arena
  | none =>
    match arena.byName.find? (·.2 == key) with
    | some (name, _) => { arena with byName := arena.byName.erase name }
    | none => arena

/-- Frees the slot of a key; a stale key frees nothing. -/
def freeSlot (arena : Arena) (key : SlotKey) : Arena :=
  match arena.slot? key with
  | none => arena
  | some slot =>
    let arena := (arena.setSlot key ⟨slot.generation + 1, none⟩).dropName key slot.entry
    { arena with free := key.index :: arena.free }

/-- The address under a name whose key is not stale. -/
def address? (arena : Arena) (name : String) : Option Nat :=
  (arena.byName.get? name).bind fun key =>
    (arena.slot? key).bind fun slot => slot.entry.map SlotEntry.address

/-- The addresses in the slots in use, in their order. -/
def addresses (arena : Arena) : List Nat :=
  arena.slots.filterMap fun slot => slot.entry.map SlotEntry.address

end Arena

/-- The state of a loader of game modules. -/
structure Loader where
  /-- The number of the loader, by which reports find it. -/
  serial : Nat
  search : SourceSearch
  moduleExtension : String
  /-- The description files found so far, by the names they declare. -/
  known : Table String Path
  arena : Arena
  /-- The keys of destroyed game modules whose slots are not freed yet, in their order. -/
  reports : List SlotKey

namespace Loader

/-- A loader without knowledge. Leading dots of the extension do not count. -/
def create (serial : Nat) (search : SourceSearch) (moduleExtension : String) : Loader where
  serial := serial
  search := search
  moduleExtension := String.ofList (moduleExtension.toList.dropWhile (· == '.'))
  known := []
  arena := .empty
  reports := []

/-- Frees the slots of the game modules that have reported their destruction. -/
def drained (loader : Loader) : Loader :=
  { loader with arena := loader.reports.foldl Arena.freeSlot loader.arena, reports := [] }

/-- Takes a report of a destroyed game module, if the loader has made it. -/
def take (loader : Loader) (game : GameModule) : Loader :=
  if game.loader = loader.serial then { loader with reports := loader.reports ++ [game.slot] }
  else loader

/-- Looks at one description file of a scan. -/
def scanFile (tree : FileTree) (state : Table String Path × List String) (path : Path) :
    Table String Path × List String :=
  let (known, complaints) := state
  match Description.load tree path with
  | .error err => (known, complaints ++ [s!"skipping description: {err.message}"])
  | .ok description =>
    if known.has description.name then (known, complaints ++ ["duplicate game module name"])
    else (known.setSorted description.name path, complaints)

/-- Looks for description files anew. What is complained about comes second. -/
def scan (loader : Loader) (tree : FileTree) : Loader × List String :=
  let files := loader.search.collectFiles tree loader.moduleExtension
  let (known, complaints) := files.foldl (scanFile tree) ([], [])
  ({ loader with known := known }, complaints)

end Loader

end ScriptHost
