import ScriptHost.Call.Error

/-!
Values that a step of a session gives. They name objects of the session, or describe new ones.
-/

namespace ScriptHost

/-- An object that a step names, or one that is made for it. -/
inductive GivenObject
  | named (name : String)
  | fresh (type : ObjectType) (label : String) (value : Int64)

/-- A script value that a step gives. -/
inductive GivenScript
  | unit
  | bool (value : Bool)
  | int (value : Int64)
  | float (value : Float)
  | char (value : Char)
  | string (value : String)
  | array (items : List GivenScript)
  | map (entries : List (String × GivenScript))
  | object (given : GivenObject)
  deriving Inhabited

/-- A value of the host that a step gives. -/
inductive GivenNative
  /-- A value without objects. -/
  | plain (value : NativeValue)
  | object (given : GivenObject)
  | script (given : GivenScript)

/-- How a step makes a call: with what arguments, how, and what it wants back. -/
structure GivenCall where
  args : List GivenNative
  setup : RunSetup
  wanted : ReturnType

end ScriptHost
