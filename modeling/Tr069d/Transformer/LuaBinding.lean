import Tr069d.Lua.Api
import Tr069d.Transformer.LuaTransformer

/-!
# The transformer behind the Lua C API

`lua_transformer.cpp`, statement by statement: how a `LuaTransformer` loads the
engine, hands it the arguments of a call over the Lua stack and reads the
results back.

Every function is a sequence of calls of the API in the order of the source, with the
number of values that it leaves on the stack.  The constructor is split where the source
returns early: after the state, after the script and after the call of `new`.
-/

namespace Tr069d

open Effects Lua

variable {σ α β : Type}

/-- The members of `LuaTransformer`. -/
structure LuaBinding (σ : Type) where
  state : Option (Lua.State σ)
  engineRef : Int
  lastError : String

namespace LuaBinding

def ready (self : LuaBinding σ) : Bool :=
  self.state.isSome && decide (0 ≤ self.engineRef)

abbrev Method (σ α : Type) : Type :=
  StateT (LuaBinding σ) (ExceptT Lua.Fault SystemProg) α

/-- A function of the Lua API on `state_`. -/
def lua (op : Lua.Api σ α) : Method σ α := fun self =>
  match self.state with
  | none => throw .unprotected
  | some s =>
      match op s with
      | .error fault => throw fault
      | .ok (result, s') => pure (result, { self with state := some s' })

/-- `lua_pcall(state_, nargs, nresults, 0) == LUA_OK` -/
def protectedCall (callee : Callee system σ) (nargs nresults : Nat) : Method σ Bool := fun self =>
  match self.state with
  | none => throw .unprotected
  | some s => do
      let (returned, s') ← ExceptT.mk (pcall callee nargs nresults s)
      return (returned, { self with state := some s' })

/-! ## The source -/

def fieldString (index : Int) (field : String) : Lua.Api σ String := do
  let index ← Api.absindex index
  Api.getfield index field
  let text := (← Api.value (-1)).text?
  Api.pop 1
  return (text.map cText).getD ""

def fieldBool (index : Int) (field : String) : Lua.Api σ Bool := do
  let index ← Api.absindex index
  Api.getfield index field
  let value := (← Api.value (-1)).truthy
  Api.pop 1
  return value

/-- `LuaTransformer::popLuaError`, on a state that is open. -/
def popLuaError : Lua.Api σ String := do
  let error := (← Api.value (-1)).text?
  Api.pop 1
  return (error.map cText).getD "unknown Lua error"

def setLastError (text : String) : Method σ Unit :=
  modify fun self => { self with lastError := text }

/-- `LuaTransformer::pushFunction` -/
def pushFunction (name : String) : Method σ Bool := do
  let self ← get
  if !self.ready then return false
  lua (Api.rawgetref self.engineRef.toNat)
  lua (Api.getfield (-1) name)
  lua (Api.remove (-2))
  if !(← lua (Api.value (-1))).isFunction then
    lua (Api.pop 1)
    setLastError ("Transformer method missing: " ++ name)
    return false
  return true

/-- The body of the loop over the values that came back. -/
def valueEntry : Lua.Api σ (List ParameterValue) := do
  if (← Api.value (-1)).isTable then
    let name ← fieldString (-1) "name"
    let value ← fieldString (-1) "value"
    let type ← fieldString (-1) "type"
    return [⟨name, value, type⟩]
  else return []

/-- The body of the loop over the invalid paths that came back. -/
def pathEntry : Lua.Api σ (List String) := do
  return ((← Api.value (-1)).text?.map cText).toList

/-- The body of the loop over the names that came back. -/
def infoEntry : Lua.Api σ (List ParameterInfo) := do
  if (← Api.value (-1)).isTable then
    let name ← fieldString (-1) "name"
    let writable ← fieldBool (-1) "writable"
    return [⟨name, writable⟩]
  else return []

/-- The loop over a result, if it is a table. -/
def collectTable (border : Border) (index : Int) (body : Lua.Api σ (List α)) :
    Lua.Api σ (List α) := do
  if (← Api.value index).isTable then
    let count ← Api.rawlen border index
    Api.collect index body 1 count
  else return []

/-- The table of one value to set. -/
def pushValue (value : ParameterValue) : Lua.Api σ Unit := do
  Api.push (.table [])
  Api.push (.string value.name)
  Api.setfield (-2) "name"
  Api.push (.string value.value)
  Api.setfield (-2) "value"
  Api.push (.string value.type)
  Api.setfield (-2) "type"

variable (border : Border) (callee : Callee system σ)

/-- `LuaTransformer::getParameterValues`: the values, and the invalid paths. -/
def getParameterValues (paths : List String) (revealSecrets : Bool) :
    Method σ (List ParameterValue × List String) := do
  if !(← pushFunction "getParameterValues") then return ([], paths)
  lua (Api.push (.table []))
  lua (Api.fill (fun path => Api.push (.string path)) 0 paths)
  lua (Api.push (.boolean revealSecrets))
  if !(← protectedCall callee 2 2) then
    let error ← lua popLuaError
    setLastError error
    lua Api.clear
    return ([], paths)
  let result ← lua (collectTable border (-2) valueEntry)
  let invalidPaths ← lua (collectTable border (-1) pathEntry)
  lua Api.clear
  return (result, invalidPaths)

/-- The error of a refused `setParameterValues`, and the path it names. -/
def refusal : Lua.Api σ (String × String) := do
  let second ← Api.value (-1)
  if second.isTable then
    let message ← fieldString (-1) "message"
    let path ← fieldString (-1) "path"
    return (message, path)
  else if second.isString then return ((second.text?.map cText).getD "", "")
  else return ("", "")

/-- `LuaTransformer::setParameterValues` -/
def setParameterValues (values : List ParameterValue) (parameterKey : String) :
    Method σ SetResult := do
  if !(← pushFunction "setParameterValues") then return { error := (← get).lastError }
  lua (Api.push (.table []))
  lua (Api.fill pushValue 0 values)
  lua (Api.push (.string parameterKey))
  if !(← protectedCall callee 2 2) then
    let error ← lua popLuaError
    lua Api.clear
    return { error := error }
  if (← lua (Api.value (-2))).truthy then
    lua Api.clear
    return { success := true }
  let (error, failedParameter) ← lua refusal
  lua Api.clear
  return {
    error := if error == "" then "Transformer transaction failed" else error
    failedParameter := failedParameter }

/-- `LuaTransformer::getParameterNames`: the names, and the error text. -/
def getParameterNames (path : String) : Method σ (List ParameterInfo × String) := do
  if !(← pushFunction "getParameterNames") then return ([], (← get).lastError)
  lua (Api.push (.string path))
  if !(← protectedCall callee 1 2) then
    let error ← lua popLuaError
    lua Api.clear
    return ([], error)
  if !(← lua (Api.value (-2))).isTable then
    let second ← lua (Api.value (-1))
    lua Api.clear
    return ([], (second.text?.map cText).getD "unknown parameter path")
  let result ← lua (collectTable border (-2) infoEntry)
  lua Api.clear
  return (result, "")

/-- `lua_close(state_); state_ = nullptr;` -/
def close : Method σ Unit :=
  modify fun self => { self with state := none }

/-- What the constructor finds: a new state, if memory allows it, and the
compiled script or the error of `luaL_loadfile`. -/
structure Setting (σ : Type) where
  newstate : Option (Lua.State σ)
  newstate_stack : ∀ s ∈ newstate, s.stack = []
  loadfile : Except TValue String

/-- `luaL_loadfile`: whether the script was compiled. -/
def loadfile (setting : Setting σ) : Method σ Bool := do
  match setting.loadfile with
  | .ok chunk =>
      lua (Api.push (.function chunk))
      return true
  | .error error =>
      lua (Api.push error)
      return false

/-- `lastError_ = text; lua_close(state_); state_ = nullptr;` -/
def giveUp (text : String) : Method σ Unit := do
  setLastError text
  close

/-- The constructor from the call of `new` on. -/
def callNew (mapPath : String) : Method σ Unit := do
  lua (Api.push (.string mapPath))
  if !(← protectedCall callee 1 2) then
    giveUp (← lua popLuaError)
    return
  if !(← lua (Api.value (-2))).isTable then
    let second ← lua (Api.value (-1))
    giveUp ((second.text?.map cText).getD "cannot create Transformer engine")
    return
  lua (Api.pushvalue (-2))
  let reference ← lua Api.ref
  modify fun self => { self with engineRef := reference }
  lua Api.clear

/-- The constructor from the result of the script on. -/
def useModule (mapPath : String) : Method σ Unit := do
  if !(← lua (Api.value (-1))).isTable then
    giveUp "transformer.lua did not return a module table"
    return
  lua (Api.getfield (-1) "new")
  lua (Api.remove (-2))
  if !(← lua (Api.value (-1))).isFunction then
    giveUp "transformer.lua does not export new()"
    return
  callNew callee mapPath

/-- The constructor of `LuaTransformer`. -/
def construct (setting : Setting σ) (mapPath : String) : Method σ Unit := do
  set { state := setting.newstate, engineRef := -1, lastError := "" : LuaBinding σ }
  if setting.newstate.isNone then
    setLastError "cannot create Lua state"
    return
  if !(← loadfile setting <&&> protectedCall callee 0 1) then
    giveUp (← lua popLuaError)
    return
  useModule callee mapPath

end LuaBinding

end Tr069d
