import ScriptHost.Description

/-! The reasons why a game module cannot be loaded, and their wording. -/

namespace ScriptHost

/-- Why a game module cannot be loaded. -/
inductive LoadError
  | notFound (name : String)
  | invalidDescription (path : Path) (cause : DescriptionError)
  | circularDependency (module requestedBy : String)
  | initFailed (name : String)

/-- The wording of a load error. -/
def LoadError.message : LoadError → String
  | .notFound name => s!"game module '{name}' not found"
  | .invalidDescription path cause => s!"invalid module description '{path}': {cause.message}"
  | .circularDependency module requestedBy =>
    s!"circular dependency: '{module}' requested by '{requestedBy}' while it is initializing"
  | .initFailed name => s!"game module '{name}' failed to initialize"

end ScriptHost
