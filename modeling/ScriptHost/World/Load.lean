import ScriptHost.Game.LoadError
import ScriptHost.World.Registry

/-!
Loading game modules. A game module is loaded by its name or by the path of its description file, once
as long as it lives. Loading it compiles its sources together with the exported files of the modules
it imports, which are loaded first, and then delivers its init event. A module that is requested again
while it is initializing is in a circle of imports.
-/

namespace ScriptHost

/-- A step of a load, which may fail. What it has done by then stays done. -/
abbrev LoadAct := ExceptT LoadError Act

/-- The path of the description file that a name or a path stands for. -/
def Loader.descriptionPath? (loader : Loader) (tree : FileTree) (name : String) : Option Path :=
  match loader.known.get? name with
  | some path => some path
  | none => if tree.isFile ⟨name⟩ then some ⟨name⟩ else none

namespace Act

/-- Takes a step of a load and hands out how it has ended. -/
def attempt {α : Type} (step : LoadAct α) : LoadAct (Except LoadError α) :=
  ExceptT.lift step.run

/-- Changes the loader, if there is one. -/
def onLoader (change : Loader → Loader) : Act Unit :=
  modify fun world => { world with loader := world.loader.map change }

/-- Makes a loader that holds the executor; the loader before it is gone then. The handles that come up
are to be dropped. -/
def makeLoader (search : SourceSearch) (moduleExtension : String) : Act (List Owned) := do
  let world ← get
  let owned ← if world.loader.isSome then releaseExecutor else pure []
  modify fun world => { world with
    loader := some (.create world.loaders search moduleExtension)
    loaders := world.loaders + 1
    holders := world.holders + 1 }
  return owned

/-- Looks for description files anew and gives the number of modules found. -/
def scan : Act Nat := do
  let world ← get
  match world.loader with
  | none => return 0
  | some loader =>
    let (loader, complaints) := loader.scan world.files
    onLoader fun _ => loader
    complaints.forM warn
    return loader.known.length

/-- A handle of the living game module of a name. -/
def loadedModule (name : String) : Act (Option Nat) := do
  let world ← get
  match world.loader.bind (·.arena.address? name) with
  | none => return none
  | some address =>
    match world.objects.upgrade address with
    | none => return none
    | some objects =>
      set { world with objects := objects }
      return some address

/-- Whether a game module is being initialized. -/
def isInitializing (address : Nat) : Act Bool := do
  return (((← get).game? address).map GameModule.initializing).getD false

/-- A handle of the living game module of a name. One that is initializing cannot be had. -/
def liveInstance (name requestedBy : String) : LoadAct (Option Nat) := do
  match ← loadedModule name with
  | none => return none
  | some address =>
    if ← isInitializing address then
      dropObjects [⟨.gameModule, address⟩]
      throw (.circularDependency name requestedBy)
    else return some address

/-- Makes the game module of a description and gives it a slot. The handle is the caller's, and the
module holds the executor. -/
def makeGame (loader : Loader) (description : Description) (requestedBy : String) :
    Act (Nat × SlotKey) := do
  let world ← get
  let file := world.files.normalize description.path
  let known := if loader.known.has description.name then loader.known
    else loader.known.setSorted description.name file
  let (slot, arena) := loader.arena.allocate description.name
  let game : GameModule := .create description requestedBy loader.serial slot
  let ref ← allocate .gameModule (.game game)
  modify fun world => { world with holders := world.holders + 1 }
  onLoader fun loader => { loader with
    known := known
    arena := arena.occupy slot ⟨description.name, ref.address⟩ }
  return (ref.address, slot)

/-- Adds files to the script module of a game module, up to the first one that cannot be read. -/
def addFiles (game : String) (script : Nat) : List Path → LoadAct Unit
  | [] => return ()
  | path :: rest => do
    match ← addFile script path with
    | .ok _ => addFiles game script rest
    | .error err =>
      error err.message
      throw (.initFailed game)

/-- The exported files of a game module, or the first one that is not found. -/
def exportPaths (address : Nat) : Act (Except String (List Path)) := do
  let world ← get
  match world.game? address with
  | none => return .ok []
  | some game =>
    return game.resolveFiles world.executor.search world.files game.description.exports

/-- Adds the exported files of an imported game module. -/
def addExports (game : String) (script dependency : Nat) : LoadAct Unit := do
  match ← exportPaths dependency with
  | .ok paths => addFiles game script paths
  | .error missing =>
    error s!"export file '{missing}' not found"
    throw (.initFailed game)

/-- Loads the imports of a game module one after another. The module holds on to each of them once its
exported files are added. -/
def takeImports (load : String → String → LoadAct Nat) (address script : Nat) (game : String) :
    List String → LoadAct Unit
  | [] => return ()
  | name :: rest => do
    let dependency ← load name game
    match ← attempt (addExports game script dependency) with
    | .ok _ =>
      onGame address fun game => { game with dependencies := game.dependencies ++ [dependency] }
      takeImports load address script game rest
    | .error err =>
      dropObjects [⟨.gameModule, dependency⟩]
      throw err

/-- Adds the source files of a game module. -/
def addSources (game : GameModule) (script : Nat) : LoadAct Unit := do
  let world ← get
  match game.resolveFiles world.executor.search world.files game.description.sourceFiles with
  | .ok paths => addFiles game.name script paths
  | .error missing =>
    error s!"source file '{missing}' not found"
    throw (.initFailed game.name)

/-- Compiles the script module of a game module and takes its listeners in. -/
def compileGame (game : GameModule) (address script : Nat) : LoadAct Unit := do
  match ← build script with
  | none => throw (.initFailed game.name)
  | some _ =>
    let _ ← setHooks script (.game address)
    let entries ← listeners script
    (Subscription.complaints entries).forM fun complaint => warn complaint

/-- Gives a game module a script module that is built from its sources and imports. -/
def prepareScript (load : String → String → LoadAct Nat) (address : Nat) (game : GameModule) :
    LoadAct Unit := do
  let script ← createModule game.name game.description.path.text
  onModule script fun module => { module with
    access := AccessMask.moduleDefault.union game.description.extraAccess }
  onGame address fun game => { game with script := some script }
  addSources game script
  takeImports load address script game.name game.description.imports
  compileGame game address script

/-- Notes that a game module gets the init event, if it has a script module. -/
def noteInit (address : Nat) : Act Unit := do
  match ((← get).game? address).bind GameModule.script with
  | none => return ()
  | some script => note address script .init

/-- Delivers the init event to a game module. -/
def fireInit (address : Nat) : Act Unit := do
  noteInit address
  let (outcome, owned) ← fire address (.plain .init)
  dropAll owned
  match outcome with
  | .ok _ => return ()
  | .error err => error s!"init listener failed: {err.message}"

/-- Initializes a game module that is not initialized yet. -/
def makeReady (load : String → String → LoadAct Nat) (address : Nat) : LoadAct Unit := do
  match (← get).game? address with
  | none => return ()
  | some game =>
    if game.initialized then return ()
    if game.initializing then throw (.circularDependency game.name game.name)
    onGame address fun game => { game with initializing := true }
    let result ← attempt (prepareScript load address game)
    onGame address fun game => { game with initializing := false }
    match result with
    | .ok _ =>
      onGame address fun game => { game with initialized := true }
      fireInit address
    | .error err =>
      error s!"initialization failed: {err.message}"
      dropAll (← detachGame address false)
      throw err

/-- Makes and initializes the game module of a description. If that fails its slot is free again. -/
def loadDescription (load : String → String → LoadAct Nat) (loader : Loader)
    (description : Description) (requestedBy : String) : LoadAct Nat := do
  let (address, slot) ← makeGame loader description requestedBy
  match ← attempt (makeReady load address) with
  | .ok _ => return address
  | .error err =>
    onLoader fun loader => { loader with arena := loader.arena.freeSlot slot }
    dropObjects [⟨.gameModule, address⟩]
    throw err

/-- Loads a game module; `load` loads its imports. -/
def loadWith (load : String → String → LoadAct Nat) (name requestedBy : String) : LoadAct Nat := do
  onLoader Loader.drained
  match ← liveInstance name requestedBy with
  | some address => return address
  | none =>
    let world ← get
    match world.loader with
    | none => throw (.notFound name)
    | some loader =>
      match loader.descriptionPath? world.files name with
      | none => throw (.notFound name)
      | some path =>
        match Description.load world.files path with
        | .error cause => throw (.invalidDescription path cause)
        | .ok description =>
          match ← liveInstance description.name requestedBy with
          | some address => return address
          | none => loadDescription load loader description requestedBy

/-- Loads a game module with at most `depth` modules being initialized at once. -/
def loadNested : Nat → String → String → LoadAct Nat
  | 0, name, _ => throw (.notFound name)
  | depth + 1, name, requestedBy => loadWith (loadNested depth) name requestedBy

/-- The number of modules that can be initializing at once: each of them has a description file of its
own, and the last request may find one of them. -/
def nestingBound (world : World) : Nat :=
  world.files.fileCount + 1

/-- Loads a game module and gives a handle of it. -/
def load (name requestedBy : String) : Act (Except LoadError Nat) := do
  (loadNested (nestingBound (← get)) name requestedBy).run

/-- Initializes a game module again, and tells whether that has worked. -/
def initializeGame (address : Nat) : Act Bool := do
  match ← (makeReady (loadNested (nestingBound (← get))) address).run with
  | .ok _ => return true
  | .error _ => return false

/-- The number of slots in use, those of destroyed modules being freed first. -/
def loadedCount : Act Nat := do
  onLoader Loader.drained
  return (((← get).loader.map (·.arena.addresses)).getD []).length

/-- The names of the living game modules in the order of their slots, after those of destroyed modules
have been freed. -/
def loadedModules : Act (List String) := do
  onLoader Loader.drained
  let world ← get
  let addresses := (world.loader.map (·.arena.addresses)).getD []
  return addresses.filterMap fun address => (world.game? address).map GameModule.name

end Act

end ScriptHost
