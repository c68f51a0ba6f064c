import Tr069d.Transformer.Engine

/-!
# The transformer as the daemon sees it

`LuaTransformer` runs the functions of the engine under a mutex and translates
their results; `DataModel` is the part of it that the daemon reads through.
An engine that could not be loaded is `none`.

That these functions are what the code does over the Lua stack is shown in the modules
on the binding.
-/

namespace Tr069d

open Effects

structure SetResult where
  success : Bool := false
  error : String := ""
  failedParameter : String := ""
  deriving DecidableEq, Repr

structure LuaTransformer where
  engine : Option Engine
  lastError : String := ""

namespace LuaTransformer

variable (transformer : LuaTransformer)

def ready : Bool :=
  transformer.engine.isSome

/-- `LuaTransformer::getParameterValues`: the values, and the invalid paths. -/
def getParameterValues (paths : List String) (revealSecrets : Bool) :
    SystemProg (List ParameterValue × List String) :=
  match transformer.engine with
  | none => return ([], paths)
  | some engine => engine.getParameterValues paths revealSecrets

/-- How a result of the engine is reported. -/
def setResult : Except SetError Unit → SetResult
  | .ok () => { success := true }
  | .error error =>
      { error := if error.message == "" then "Transformer transaction failed" else error.message
        failedParameter := error.path }

/-- `LuaTransformer::setParameterValues` -/
def setParameterValues (values : List ParameterValue) (parameterKey : String) :
    SystemProg (SetResult × LuaTransformer) :=
  match transformer.engine with
  | none => return ({ error := transformer.lastError }, transformer)
  | some engine => do
      let (result, engine') ← engine.setParameterValues values parameterKey
      return (setResult result, { transformer with engine := some engine' })

/-- `LuaTransformer::getParameterNames`: the names, and the error text. -/
def getParameterNames (path : String) : SystemProg (List ParameterInfo × String) :=
  match transformer.engine with
  | none => return ([], transformer.lastError)
  | some engine => do
      match ← engine.getParameterNames path with
      | .error error => return ([], error)
      | .ok names => return (names, "")

/-- `DataModel::get` -/
def get (path : String) : SystemProg (Option ParameterValue) := do
  let (values, _) ← transformer.getParameterValues [path] false
  return values.head?

/-- `DataModel::getInternal` -/
def getInternal (path : String) : SystemProg (Option ParameterValue) := do
  let (values, _) ← transformer.getParameterValues [path] true
  return values.head?

end LuaTransformer

end Tr069d
