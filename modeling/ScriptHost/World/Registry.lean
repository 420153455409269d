import ScriptHost.World.Ownership

/-!
The registry of script modules. It holds one handle of every registered module, under the number of
the module. Whoever makes a module gets a handle as well. A number that is used again releases the
module that had it.
-/

namespace ScriptHost

namespace Act

/-- Makes a script module under a number that the caller has chosen. -/
def createModuleWithId (name source : String) (id : Nat) : Act Nat := do
  let world ← get
  let (address, modules) := world.modules.alloc (.create id name source)
  let replaced := world.executor.registry.get? id
  set { world with modules := modules.retain address }
  onExecutor fun executor => { executor with registry := executor.registry.set id address }
  match replaced with
  | none => pure ()
  | some old =>
    warn "module id reused, previous module released"
    let owned ← release old
    dropAll (owned ++ [.module old])
  return address

/-- Makes a script module under the next number. -/
def createModule (name source : String) : Act Nat := do
  let id := (← get).executor.nextId
  onExecutor fun executor => { executor with nextId := id + 1 }
  createModuleWithId name source id

/-- Removes a module from the registry if nobody else holds it, and tells whether it did. All handles
that come up are to be dropped. -/
def deleteUnreferenced (id : Nat) : Act (Bool × List Owned) := do
  let world ← get
  match world.executor.registry.get? id with
  | none => return (false, [])
  | some address =>
    if world.modules.strongCount address = 1 then deleteModule id else return (false, [])

/-- Takes the compiled script of an internal name away from whoever owns it; tells whether there was
one. Its module is discarded at its next use. -/
def discardCompiled (internalName : String) : Act Bool := do
  let found := (← get).executor.isCompiled internalName
  onExecutor (·.removeCompiled internalName)
  return found

end Act

/-- What an executor has counted. -/
structure ExecutorStats where
  builds : Nat
  reloads : Nat
  invocations : Nat
  modules : Nat
  compiled : Nat
  deriving DecidableEq, Repr

/-- What the executor has counted. -/
def Executor.stats (executor : Executor) : ExecutorStats :=
  ⟨executor.builds, executor.reloads, executor.invocations, executor.registry.length,
    executor.compiled.length⟩

end ScriptHost
