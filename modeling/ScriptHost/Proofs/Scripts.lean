import Mathlib.Logic.Relation
import ScriptHost.Proofs.InternalName
import ScriptHost.Proofs.Table
import ScriptHost.World.Basic

/-!
The script modules of a world as a transition system of their own. Its states
hold the modules, the tables of the executor that they are entered in, and
whether the executor is there; its transitions are everything that can become of
these. Operations of the world are shown elsewhere to be runs of this system, so
that what every transition keeps is kept by all of them.
-/

namespace ScriptHost

/-- What decides about the script modules of a world. -/
@[ext]
structure Scripts where
  /-- The living module at an address. -/
  module? : Nat → Option ScriptModule
  /-- The address that the next module gets. -/
  next : Nat
  /-- The number that the next module gets, unless the host chooses one. -/
  counter : Nat
  compiled : Table String Compiled
  grants : Table String AccessMask
  registry : Table Nat Nat
  watcher : Option Watcher
  running : Bool

/-- The script modules of a world. -/
def World.scripts (world : World) : Scripts where
  module? := world.module?
  next := world.modules.next
  counter := world.executor.nextId
  compiled := world.executor.compiled
  grants := world.executor.grants
  registry := world.executor.registry
  watcher := world.executor.watcher
  running := world.isRunning

namespace Scripts

/-- The scripts with another module, or none, at an address. -/
def put (scripts : Scripts) (address : Nat) (module : Option ScriptModule) :
    Scripts :=
  { scripts with
    module? := fun other =>
      if address = other then module else scripts.module? other }

/-- The scripts with a compiled script entered under its internal name. -/
def enter (scripts : Scripts) (compiled : Compiled) : Scripts :=
  { scripts with
    compiled := scripts.compiled.set compiled.internalName compiled
    grants := scripts.grants.set compiled.internalName compiled.access }

/-- The scripts with the compiled script of an internal name taken out. -/
def remove (scripts : Scripts) (internalName : String) : Scripts :=
  { scripts with
    compiled := scripts.compiled.erase internalName
    grants := scripts.grants.erase internalName }

/-- The scripts with the compiled script of a module taken out, if it has one. -/
def leave (scripts : Scripts) : Option Compiled → Scripts
  | some compiled => scripts.remove compiled.internalName
  | none => scripts

/-- The number of the living module at an address. -/
def idOf (scripts : Scripts) (address : Nat) : Option Nat :=
  (scripts.module? address).map ScriptModule.id

@[simp]
theorem module?_put (scripts : Scripts) (address other : Nat)
    (module : Option ScriptModule) :
    (scripts.put address module).module? other =
      if address = other then module else scripts.module? other := rfl

theorem module?_put_self (scripts : Scripts) (address : Nat)
    (module : Option ScriptModule) :
    (scripts.put address module).module? address = module := by
  simp

theorem module?_put_other (scripts : Scripts) {address other : Nat}
    (module : Option ScriptModule) (hne : address ≠ other) :
    (scripts.put address module).module? other = scripts.module? other := by
  simp [hne]

/-- A module put in the place where it is changes nothing. -/
theorem put_self (scripts : Scripts) (address : Nat) :
    scripts.put address (scripts.module? address) = scripts := by
  ext1 <;> try rfl
  funext other
  by_cases ha : address = other
  · subst ha
    simp
  · simp [ha]

@[simp]
theorem put_put (scripts : Scripts) (address : Nat)
    (first second : Option ScriptModule) :
    (scripts.put address first).put address second =
      scripts.put address second := by
  ext1 <;> try rfl
  funext other
  by_cases ha : address = other <;> simp [ha]

theorem get?_compiled_leave (scripts : Scripts) (compiled : Option Compiled)
    (name : String) :
    (scripts.leave compiled).compiled.get? name =
      if compiled.map Compiled.internalName = some name then none
      else scripts.compiled.get? name := by
  cases compiled with
  | none => simp [leave]
  | some compiled => simp [leave, remove, Table.get?_erase]

theorem get?_grants_leave (scripts : Scripts) (compiled : Option Compiled)
    (name : String) :
    (scripts.leave compiled).grants.get? name =
      if compiled.map Compiled.internalName = some name then none
      else scripts.grants.get? name := by
  cases compiled with
  | none => simp [leave]
  | some compiled => simp [leave, remove, Table.get?_erase]

@[simp]
theorem module?_leave (scripts : Scripts) (compiled : Option Compiled) :
    (scripts.leave compiled).module? = scripts.module? := by
  cases compiled <;> rfl

@[simp]
theorem next_leave (scripts : Scripts) (compiled : Option Compiled) :
    (scripts.leave compiled).next = scripts.next := by
  cases compiled <;> rfl

@[simp]
theorem counter_leave (scripts : Scripts) (compiled : Option Compiled) :
    (scripts.leave compiled).counter = scripts.counter := by
  cases compiled <;> rfl

@[simp]
theorem registry_leave (scripts : Scripts) (compiled : Option Compiled) :
    (scripts.leave compiled).registry = scripts.registry := by
  cases compiled <;> rfl

@[simp]
theorem watcher_leave (scripts : Scripts) (compiled : Option Compiled) :
    (scripts.leave compiled).watcher = scripts.watcher := by
  cases compiled <;> rfl

@[simp]
theorem running_leave (scripts : Scripts) (compiled : Option Compiled) :
    (scripts.leave compiled).running = scripts.running := by
  cases compiled <;> rfl

@[simp]
theorem put_leave (scripts : Scripts) (compiled : Option Compiled) (address : Nat)
    (module : Option ScriptModule) :
    (scripts.leave compiled).put address module =
      (scripts.put address module).leave compiled := by
  cases compiled <;> rfl

@[simp]
theorem put_enter (scripts : Scripts) (compiled : Compiled) (address : Nat)
    (module : Option ScriptModule) :
    (scripts.enter compiled).put address module =
      (scripts.put address module).enter compiled := rfl

/-- Where nothing is entered, nothing can be taken out. -/
theorem leave_of_empty (scripts : Scripts) (compiled : Option Compiled)
    (hcompiled : scripts.compiled = []) (hgrants : scripts.grants = []) :
    scripts.leave compiled = scripts := by
  cases compiled with
  | none => rfl
  | some compiled =>
      ext1 <;> simp [leave, remove, hcompiled, hgrants, Table.erase]

end Scripts

end ScriptHost
