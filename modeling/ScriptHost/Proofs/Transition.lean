import ScriptHost.Proofs.Lookup
import ScriptHost.Proofs.Scripts

/-!
The transitions of script modules. Each is labelled with what it touches, so that
a run which may not touch a thing leaves it as it is. A module goes from `empty`
over `readyToBuild` to `built` or `failed`; a built module becomes ready again by
a reload, and what is discarded remains so.
-/

namespace ScriptHost

/-- What an operation on the world may touch. -/
inductive Touch
  /-- The script module at an address, and the registration under its number. -/
  | module (address id : Nat)
  /-- A script module that is made. -/
  | creation
  /-- The build of the module at an address, up to the registration of the files that it
  is built from. -/
  | watch (address : Nat)
  /-- A name and number that the host chooses for a script module. -/
  | number (name : String) (id : Nat)
  /-- Registrations of files that the host makes. -/
  | registrations
  /-- The contents last seen of watched files, and registrations of modules that
  are gone. -/
  | changedFiles
  /-- The compiled script that is entered under an internal name. -/
  | compiled (internalName : String)
  /-- The game module at an address. -/
  | game (address : Nat)

namespace Touch

/-- Everything may be touched. -/
def anything : Touch → Prop := fun _ => True

/-- Everything but registrations that the host makes and numbers that it chooses may
be touched. -/
def ordinary : Touch → Prop
  | .number _ _ => False
  | .registrations => False
  | _ => True

/-- Only script modules with certain addresses and numbers may be touched, and
none of them is built. -/
def modules (may : Nat → Nat → Prop) : Touch → Prop
  | .module address id => may address id
  | _ => False

/-- Only script modules with certain addresses and numbers may be touched, those that are
made among them. -/
def working (may : Nat → Nat → Prop) : Touch → Prop
  | .module address id => may address id
  | .watch _ => True
  | .creation => True
  | _ => False

/-- Whoever builds no modules does less than work on them. -/
theorem working_of_modules {may : Nat → Nat → Prop} (touch : Touch)
    (hmay : modules may touch) : working may touch := by
  cases touch with
  | module address id => exact hmay
  | _ => exact hmay.elim

theorem working_mono {may might : Nat → Nat → Prop}
    (hmono : ∀ address id, may address id → might address id) (touch : Touch)
    (hmay : working may touch) : working might touch := by
  cases touch with
  | module address id => exact hmono address id hmay
  | _ => exact hmay

/-- Whoever touches script modules alone touches ordinary things. -/
theorem ordinary_of_modules {may : Nat → Nat → Prop} (touch : Touch)
    (hmay : modules may touch) : ordinary touch := by
  cases touch with
  | number name id => exact hmay
  | registrations => exact hmay
  | _ => trivial

end Touch

/-- A segment that comes from a file begins where the file does. -/
def Segment.Whole (segment : Segment) : Prop :=
  segment.fromDisk = true → segment.startLine = 1

theorem Segment.inline_whole (file : String) (line : Nat) (code : String) :
    (inline file line code).Whole := by
  intro hdisk
  cases hdisk

theorem Segment.whole_of_ofFile {tree : FileTree} {path : Path} {segment : Segment}
    (hfile : ofFile tree path = .ok segment) : segment.Whole := by
  unfold ofFile at hfile
  split at hfile
  · cases hfile
    exact fun _ => rfl
  · cases hfile

namespace ScriptModule

/-- Whether all functions in a listener index belong to a compiled script. -/
def ListenersOf (index : ListenerIndex) (compiled : Compiled) : Prop :=
  ∀ entry ∈ index.entries, entry.2.function.compiled = compiled

/-- A change of a module that neither compiles nor discards it. -/
structure Edit (before after : ScriptModule) : Prop where
  id : after.id = before.id
  name : after.name = before.name
  internalName : after.internalName = before.internalName
  reloads : after.reloads = before.reloads
  compiled : after.compiled = before.compiled
  state : after.state = before.state ∨
    before.state = .empty ∧ after.state = .readyToBuild ∧ after.segments ≠ [] ∨
    before.state = .readyToBuild ∧ after.state = .failed
  listeners : after.listeners = before.listeners ∨
    ∃ compiled, before.compiled = some compiled ∧
      after.listeners = some (ListenerIndex.build compiled).1
  segments : after.segments = before.segments ∨
    ∃ segment, segment.Whole ∧ before.overlaps segment = false ∧
      after.segments = before.segments ++ [segment]
  watched : after.watched = before.watched ∨ after.watched = [] ∨ before.state = .built

/-- A module that follows the changes of files. -/
def watching (module : ScriptModule) (files : List Path) : ScriptModule :=
  { module with watched := files }

/-- A module without lifecycle hooks. -/
def unhooked (module : ScriptModule) : ScriptModule :=
  { module with hooks := none }

/-- A module with the listeners that were found in it. -/
def listening (module : ScriptModule) (listeners : Option ListenerIndex) :
    ScriptModule :=
  { module with listeners := listeners }

/-- A module with its compiled script. -/
def withBuild (module : ScriptModule) (compiled : Compiled) : ScriptModule :=
  { module with compiled := some compiled, listeners := none, state := .built }

end ScriptModule

namespace Scripts

/-- The scripts with another state of the watcher. -/
def withWatcher (scripts : Scripts) (change : Watcher → Watcher) : Scripts :=
  { scripts with watcher := scripts.watcher.map change }

@[simp]
theorem put_withWatcher (scripts : Scripts) (change : Watcher → Watcher)
    (address : Nat) (module : Option ScriptModule) :
    (scripts.withWatcher change).put address module =
      (scripts.put address module).withWatcher change := rfl

theorem withWatcher_of_none (scripts : Scripts) (change : Watcher → Watcher)
    (hnone : scripts.watcher = none) : scripts.withWatcher change = scripts := by
  ext1 <;> simp [withWatcher, hnone]

/-- The scripts with a new module that is registered under its number, and with
another number for the next one. -/
def create (scripts : Scripts) (counter : Nat) (module : ScriptModule) : Scripts :=
  { scripts.put scripts.next (some module) with
    next := scripts.next + 1
    counter := counter
    registry := scripts.registry.set module.id scripts.next }

/-- The scripts without the record of a number in the registry. -/
def unregister (scripts : Scripts) (id : Nat) : Scripts :=
  { scripts with registry := scripts.registry.erase id }

/-- The scripts once the executor is gone. -/
def close (scripts : Scripts) : Scripts :=
  { scripts with
    compiled := [], grants := [], registry := [], watcher := none, running := false }

/-- Whether the module registered under a number is discarded or gone. -/
def IsVacant (scripts : Scripts) (id : Nat) : Prop :=
  ∀ address module, scripts.registry.get? id = some address →
    scripts.module? address = some module → module.state = .discarded

/-- A number for a new module: the next one, which is used up, or another one that the
host has chosen. -/
def Numbers (scripts : Scripts) (chosen : Prop) (id counter : Nat) : Prop :=
  id = scripts.counter ∧ counter = scripts.counter + 1 ∨
    chosen ∧ counter = scripts.counter

/-- One transition, which touches only what it may. -/
inductive Change (may : Touch → Prop) : Scripts → Scripts → Prop
  | edit {scripts : Scripts} {address : Nat} {module : ScriptModule}
      (edited : ScriptModule)
      (hmodule : scripts.module? address = some module)
      (hmay : may (.module address module.id)) (hedit : module.Edit edited)
      (hstate : edited.state = module.state ∨ may (.watch address)) :
      Change may scripts (scripts.put address (some edited))
  | build {scripts : Scripts} {address : Nat} {module : ScriptModule}
      (compiled : Compiled)
      (hmodule : scripts.module? address = some module)
      (hmay : may (.module address module.id))
      (hready : module.state = .readyToBuild) (hrunning : scripts.running = true)
      (hname : compiled.internalName = module.internalName)
      (hwatch : may (.watch address)) :
      Change may scripts
        ((scripts.put address (some (module.withBuild compiled))).enter compiled)
  | discard {scripts : Scripts} {address : Nat} {module : ScriptModule}
      (hmodule : scripts.module? address = some module)
      (hmay : may (.module address module.id)) :
      Change may scripts
        ((scripts.put address (some module.discarded)).leave module.compiled)
  | renew {scripts : Scripts} {address : Nat} {module : ScriptModule}
      (tree : FileTree)
      (hmodule : scripts.module? address = some module)
      (hmay : may (.module address module.id))
      (hbuilt : module.state = .built) (hwatch : may (.watch address)) :
      Change may scripts
        ((scripts.put address (some (module.renewed tree))).leave module.compiled)
  | vanish {scripts : Scripts} {address : Nat} {module : ScriptModule}
      (hmodule : scripts.module? address = some module)
      (hmay : may (.module address module.id))
      (hfree : ∀ id, scripts.registry.get? id ≠ some address) :
      Change may scripts ((scripts.put address none).leave module.compiled)
  | unwatch {scripts : Scripts} {address : Nat} (id : Nat)
      (hmay : may (.module address id)) :
      Change may scripts (scripts.withWatcher (·.unwatch id))
  | watch {scripts : Scripts} {address : Nat} {module : ScriptModule}
      (tree : FileTree) (files : List Path)
      (hmodule : scripts.module? address = some module)
      (hmay : may (.module address module.id)) (hwatch : may (.watch address)) :
      Change may scripts
        (scripts.withWatcher fun watcher =>
          (watcher.watch tree module.id address files).1)
  | register {scripts : Scripts} (tree : FileTree) (id address : Nat)
      (files : List Path) (hmay : may .registrations) :
      Change may scripts
        (scripts.withWatcher fun watcher =>
          (watcher.watch tree id address files).1)
  | collect {scripts : Scripts} (tree : FileTree) (paths : List Path)
      (hmay : may .changedFiles) :
      Change may scripts
        (scripts.withWatcher fun watcher =>
          (watcher.collectTargets tree scripts.idOf paths).1)
  | revoke {scripts : Scripts} (internalName : String)
      (hmay : may (.compiled internalName)) :
      Change may scripts (scripts.remove internalName)
  | create {scripts : Scripts} (name source : String) (id counter : Nat)
      (hmay : may .creation) (hself : may (.module scripts.next id))
      (hnumber : scripts.Numbers (may (.number name id)) id counter)
      (hrunning : scripts.running = true) (hvacant : scripts.IsVacant id) :
      Change may scripts (scripts.create counter (.create id name source))
  | unregister {scripts : Scripts} {address : Nat} (id : Nat)
      (hmay : may (.module address id))
      (hregistered : scripts.registry.get? id = some address)
      (hvacant : scripts.IsVacant id) :
      Change may scripts (scripts.unregister id)
  | close {scripts : Scripts} : Change may scripts scripts.close

/-- A run of transitions. -/
abbrev Changes (may : Touch → Prop) : Scripts → Scripts → Prop :=
  Relation.ReflTransGen (Change may)

theorem Change.mono {may might : Touch → Prop}
    (hmono : ∀ touch, may touch → might touch) {before after : Scripts}
    (hchange : Change may before after) : Change might before after := by
  cases hchange with
  | edit edited hmodule hmay hedit hstate =>
      exact .edit edited hmodule (hmono _ hmay) hedit (hstate.imp_right (hmono _))
  | build compiled hmodule hmay hready hrunning hname hwatch =>
      exact .build compiled hmodule (hmono _ hmay) hready hrunning hname (hmono _ hwatch)
  | discard hmodule hmay => exact .discard hmodule (hmono _ hmay)
  | renew tree hmodule hmay hbuilt hwatch =>
      exact .renew tree hmodule (hmono _ hmay) hbuilt (hmono _ hwatch)
  | vanish hmodule hmay hfree => exact .vanish hmodule (hmono _ hmay) hfree
  | unwatch id hmay => exact .unwatch id (hmono _ hmay)
  | watch tree files hmodule hmay hwatch =>
      exact .watch tree files hmodule (hmono _ hmay) (hmono _ hwatch)
  | register tree id address files hmay =>
      exact .register tree id address files (hmono _ hmay)
  | collect tree paths hmay => exact .collect tree paths (hmono _ hmay)
  | revoke internalName hmay => exact .revoke internalName (hmono _ hmay)
  | create name source id counter hmay hself hnumber hrunning hvacant =>
      exact .create name source id counter (hmono _ hmay) (hmono _ hself)
        (hnumber.imp_right fun hchosen => ⟨hmono _ hchosen.1, hchosen.2⟩) hrunning
        hvacant
  | unregister id hmay hregistered hvacant =>
      exact .unregister id (hmono _ hmay) hregistered hvacant
  | close => exact .close

theorem Changes.mono {may might : Touch → Prop}
    (hmono : ∀ touch, may touch → might touch) {before after : Scripts}
    (hchanges : Changes may before after) : Changes might before after :=
  Relation.ReflTransGen.mono (fun _ _ hchange => hchange.mono hmono) _ _ hchanges

/-- A run from scripts that are equal to the ones a run begins with. -/
theorem Changes.of_eq {may : Touch → Prop} {before after : Scripts}
    (heq : after = before) : Changes may before after :=
  heq ▸ .refl

end Scripts

end ScriptHost
