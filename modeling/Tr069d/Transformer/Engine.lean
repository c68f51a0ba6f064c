import Tr069d.Types
import Tr069d.Transformer.Normalize
import Tr069d.Uci.Commands

/-!
# The transformer engine

`M.new` of `transformer.lua` and the functions of the engine it returns, as
programs over the system calls.  The mock database is the one piece of mutable
Lua state, so that a call which may change it returns the engine as well.

The getters (serial number, software version, Connection Request URL) are a
parameter of the engine.
-/

namespace Tr069d

open Effects

/-- The order in which `pairs` walks a table: some permutation of its entries. -/
structure PairsOrder (α : Type) where
  order : List α → List α
  perm : ∀ entries, (order entries).Perm entries

/-- The mock database: its path and its values. -/
structure MockDatabase where
  path : String
  values : Table

structure Engine where
  model : DeviceMap
  getters : Getter → Spec → SystemProg (Option String)
  ubusBin : String
  traceEnabled : Bool
  mock : Option MockDatabase
  pairs : PairsOrder (String × Option String)

/-- The second result of a refused `setParameterValues`. -/
structure SetError where
  path : String
  message : String
  deriving DecidableEq, Repr

/-- An item that passed validation.  Only parameters with a UCI option do. -/
structure StagedValue where
  path : String
  spec : Spec
  location : UciLocation
  mapped : spec.uci = some location
  value : String

def StagedValue.key (item : StagedValue) : String :=
  uciKey item.location

/-! ## What the trace shows -/

def orEmpty (value : String) : String :=
  if value == "" then "<empty>" else value

def displayValue (spec : Spec) (value : String) : String :=
  if spec.secret then "<redacted>" else orEmpty value

def displayUciValue (key : String) (value : Option String) : String :=
  if "password".toList <:+: key.toList ∨ "secret".toList <:+: key.toList then "<redacted>"
  else
    match value with
    | none => "<missing>"
    | some value => orEmpty value

/-- `display_value` of a value that may be missing. -/
def displayMaybe (spec : Spec) (value : Option String) : String :=
  displayValue spec (value.getD "")

namespace Engine

variable (engine : Engine)

def trace (layer message : String) : SystemProg Unit :=
  if engine.traceEnabled then
    @Prog.ask system (.stderr ("[TRANSFORMER][" ++ layer ++ "] " ++ message ++ "\n"))
  else pure ()

/-! ## UCI commands -/

/-- `raw_get` -/
def rawGet (phase : Phase) (key : String) : SystemProg (Option String) := do
  let value ← match engine.mock with
    | some mock => pure (mock.values.lookup key)
    | none => @Prog.ask system (.uciGet phase key)
  engine.trace "UCI" ("get key=" ++ key ++ " value=" ++ displayUciValue key value)
  return value

/-- `notify_runtime_reload` -/
def notifyRuntimeReload : SystemProg Bool := do
  engine.trace "UBUS"
    ("notify runtime reload command=" ++ engine.ubusBin ++ " call tr69 reload")
  let ok ← @Prog.ask system
    (.executeOk (engine.ubusBin ++ " call tr69 reload '{}' >/dev/null 2>&1"))
  if ok then
    engine.trace "UBUS" "notify runtime reload status=success"
    return ok
  else
    engine.trace "UBUS" "notify runtime reload status=failed"
    @Prog.ask system
      (.stderr "transformer: UCI committed but ubus tr69 reload notification failed\n")
    return ok

/-! ## Reading -/

def read (path : String) (revealSecrets : Bool) : SystemProg (Option String) :=
  match engine.model.lookup path with
  | none => return none
  | some spec =>
      if spec.secret && !revealSecrets then return some ""
      else
        match spec.getter, spec.uci with
        | some getter, _ => do
            let value ← engine.getters getter spec
            return some ((value.or spec.default).getD "")
        | none, none => return some (spec.default.getD "")
        | none, some location => do
            match ← engine.rawGet .lookup (uciKey location) with
            | none => return some (spec.default.getD "")
            | some value => return some (if value == "" then spec.default.getD "" else value)

/-- `engine.getParameterValues`: the values, and the unknown names. -/
def getParameterValues (paths : List String) (revealSecrets : Bool) :
    SystemProg (List ParameterValue × List String) := do
  engine.trace "GET" ("request count=" ++ toString paths.length ++
    " reveal_secrets=" ++ toString revealSecrets)
  loop paths
where
  loop : List String → SystemProg (List ParameterValue × List String)
    | [] => return ([], [])
    | path :: rest =>
        match engine.model.lookup path with
        | none => do
            engine.trace "GET" ("invalid parameter=" ++ path)
            let (values, invalid) ← loop rest
            return (values, path :: invalid)
        | some spec => do
            engine.trace "GET" ("read parameter=" ++ path ++ " uci=" ++ parameterUciKey spec)
            let value := (← engine.read path revealSecrets).getD ""
            engine.trace "GET" ("result parameter=" ++ path ++ " value=" ++
              displayValue spec value ++ " type=xsd:" ++ spec.type.name)
            let (values, invalid) ← loop rest
            return (⟨path, value, "xsd:" ++ spec.type.name⟩ :: values, invalid)

/-- `engine.getParameterNames` -/
def getParameterNames (path : String) :
    SystemProg (Except String (List ParameterInfo)) := do
  engine.trace "NAMES" ("request path=" ++ path)
  let found := engine.model.parameters.filter fun entry => path.toList <+: entry.1.toList
  let names := (found.map fun entry =>
    ParameterInfo.mk entry.1 (entry.2.access == .readWrite)).mergeSort fun a b => a.name ≤ b.name
  if names.isEmpty then
    engine.trace "NAMES" ("result path=" ++ path ++ " error=unknown parameter or object")
    return .error ("unknown parameter or object: " ++ path)
  else
    engine.trace "NAMES" ("result path=" ++ path ++ " count=" ++ toString names.length)
    return .ok names

/-! ## Writing: validation -/

/-- One round of the validation loop of `engine.setParameterValues`. -/
def stageItem (item : ParameterValue) : SystemProg (Except SetError StagedValue) :=
  match engine.model.lookup item.name with
  | none => do
      engine.trace "SET" ("reject parameter=" ++ item.name ++ " error=unknown parameter")
      return .error ⟨item.name, "unknown parameter"⟩
  | some spec =>
      if spec.access ≠ .readWrite then do
        engine.trace "SET" ("reject parameter=" ++ item.name ++ " uci=" ++
          parameterUciKey spec ++ " error=read-only")
        return .error ⟨item.name, "parameter is read-only"⟩
      else
        match hmapped : spec.uci with
        | none => do
            engine.trace "SET" ("reject parameter=" ++ item.name ++ " uci=" ++
              parameterUciKey spec ++ " error=read-only")
            return .error ⟨item.name, "parameter is read-only"⟩
        | some location =>
            match validateDeclaredType spec item.type with
            | some typeError => do
                engine.trace "SET" ("reject parameter=" ++ item.name ++ " uci=" ++
                  parameterUciKey spec ++ " error=" ++ typeError)
                return .error ⟨item.name, typeError⟩
            | none =>
                match normalize spec item.value with
                | .error message => do
                    engine.trace "SET" ("reject parameter=" ++ item.name ++ " uci=" ++
                      parameterUciKey spec ++ " value=" ++ displayValue spec item.value ++
                      " error=" ++ message)
                    return .error ⟨item.name, message⟩
                | .ok value => do
                    engine.trace "SET" ("stage parameter=" ++ item.name ++ " uci=" ++
                      uciKey location ++ " value=" ++ displayValue spec value ++
                      " type=" ++ item.type)
                    return .ok ⟨item.name, spec, location, hmapped, value⟩

/-- The validation loop: the first item that is refused ends it. -/
def stageItems : List ParameterValue → SystemProg (Except SetError (List StagedValue))
  | [] => return .ok []
  | item :: rest => do
      match ← engine.stageItem item with
      | .error error => return .error error
      | .ok staged =>
          match ← stageItems rest with
          | .error error => return .error error
          | .ok others => return .ok (staged :: others)

def parameterKeyPath : String := "Device.ManagementServer.ParameterKey"

/-- The validation of the parameter key, staged like an item. -/
def stageParameterKey (parameterKey : String) : SystemProg (Except SetError StagedValue) :=
  let missing : SystemProg (Except SetError StagedValue) := do
    engine.trace "SET" ("reject parameter=" ++ parameterKeyPath ++ " error=mapping missing")
    return .error ⟨parameterKeyPath, "mapping missing"⟩
  match engine.model.lookup parameterKeyPath with
  | none => missing
  | some spec =>
      match hmapped : spec.uci with
      | none => missing
      | some location =>
          match normalize spec parameterKey with
          | .error message => do
              engine.trace "SET" ("reject parameter=" ++ parameterKeyPath ++ " error=" ++ message)
              return .error ⟨parameterKeyPath, message⟩
          | .ok value => return .ok ⟨parameterKeyPath, spec, location, hmapped, value⟩

/-! ## Writing: the transaction -/

/-- `originals`: the first value read for each key, in the order of the reads. -/
abbrev Originals : Type := List (String × Option String)

/-- `if originals[key] == nil then originals[key] = { value = raw_get(key) } end` -/
def saveOriginal (key : String) (originals : Originals) : SystemProg Originals :=
  if key ∈ originals.map Prod.fst then return originals
  else do
    let value ← engine.rawGet .lookup key
    return originals ++ [(key, value)]

/-- The loop that saves the original values. -/
def saveOriginals : List StagedValue → Originals → SystemProg Originals
  | [], originals => return originals
  | item :: rest, originals => do
      let originals ← engine.saveOriginal item.key originals
      engine.trace "UCI" ("original key=" ++ item.key ++ " value=" ++
        match (originals.lookup item.key).join with
        | none => "<missing>"
        | some value => displayValue item.spec value)
      saveOriginals rest originals

/-- The body of the rollback loop. -/
def restoreOriginal (key : String) : Option String → SystemProg Unit
  | none => do
      engine.trace "UCI" ("rollback delete key=" ++ key)
      let _ ← @Prog.ask system (.uciDelete .rollback key)
  | some value => do
      engine.trace "UCI" ("rollback restore key=" ++ key)
      let _ ← @Prog.ask system (.uciSet .rollback key value)

def restoreLoop : Originals → SystemProg Unit
  | [] => return ()
  | (key, value) :: rest => do
      engine.restoreOriginal key value
      restoreLoop rest

/-- `restore_originals` -/
def restoreOriginals (count : Nat) (originals : Originals) : SystemProg Unit := do
  engine.trace "UCI" ("rollback start count=" ++ toString (count + 1))
  engine.restoreLoop (engine.pairs.order originals)
  let ok ← @Prog.ask system (.uciCommit .rollback "tr69")
  engine.trace "UCI" ("rollback commit package=tr69 status=" ++
    if ok then "success" else "failed")

/-- The `uci set` of a staged value. -/
def setStaged (item : StagedValue) : SystemProg Bool := do
  engine.trace "UCI" ("set key=" ++ item.key ++ " parameter=" ++ item.path ++
    " value=" ++ displayValue item.spec item.value)
  let ok ← @Prog.ask system (.uciSet .forward item.key item.value)
  engine.trace "UCI" ("set key=" ++ item.key ++ " status=" ++ if ok then "success" else "failed")
  return ok

/-- The loop of the forward sets: the first item whose set failed. -/
def setAll : List StagedValue → SystemProg (Option StagedValue)
  | [] => return none
  | item :: rest => do
      if ← engine.setStaged item then setAll rest else return some item

/-- Reading a staged value back. -/
def readBack (item : StagedValue) : SystemProg Bool := do
  let applied ← engine.rawGet .readBack item.key
  engine.trace "UCI" ("readback key=" ++ item.key ++ " expected=" ++
    displayValue item.spec item.value ++ " actual=" ++ displayMaybe item.spec applied)
  return applied == some item.value

/-- The read-back loop: the first item that does not read back as set. -/
def readBackAll : List StagedValue → SystemProg (Option StagedValue)
  | [] => return none
  | item :: rest => do
      if ← engine.readBack item then readBackAll rest else return some item

/-- The UCI branch of `engine.setParameterValues`.  The parameter key is set and
read back like the items, after them. -/
def commitStaged (staged : List StagedValue) (parameterKey : StagedValue) :
    SystemProg (Except SetError Unit) := do
  let originals ← engine.saveOriginals staged []
  let originals ← engine.saveOriginal parameterKey.key originals
  engine.trace "UCI" ("parameter_key uci=" ++ parameterKey.key ++ " value=" ++
    displayValue parameterKey.spec parameterKey.value)
  match ← engine.setAll (staged ++ [parameterKey]) with
  | some item => do
      engine.restoreOriginals staged.length originals
      return .error ⟨item.path, "UCI set failed"⟩
  | none => do
      engine.trace "UCI" "commit package=tr69"
      if ← @Prog.ask system (.uciCommit .forward "tr69") then
        engine.trace "UCI" "commit package=tr69 status=success"
        match ← engine.readBackAll (staged ++ [parameterKey]) with
        | some item => do
            engine.restoreOriginals staged.length originals
            return .error ⟨item.path, "UCI read-back verification failed"⟩
        | none => do
            let _ ← engine.notifyRuntimeReload
            engine.trace "SET" ("transaction committed count=" ++ toString staged.length)
            return .ok ()
      else
        engine.trace "UCI" "commit package=tr69 status=failed"
        engine.restoreOriginals staged.length originals
        return .error ⟨"", "UCI commit failed"⟩

/-- The mock branch of `engine.setParameterValues`. -/
def commitMock (mock : MockDatabase) (staged : List StagedValue) (parameterKey : StagedValue) :
    SystemProg (Except SetError Unit × Engine) := do
  let candidate := (staged ++ [parameterKey]).foldl
    (fun values item => values.insert item.key item.value) mock.values
  match ← @Prog.ask system (.saveMock mock.path candidate) with
  | some message => do
      engine.trace "SET" ("mock transaction failed error=" ++ message)
      return (.error ⟨"", message⟩, engine)
  | none => do
      engine.trace "SET" ("mock transaction committed count=" ++ toString staged.length)
      return (.ok (), { engine with mock := some { mock with values := candidate } })

/-- `engine.setParameterValues` -/
def setParameterValues (values : List ParameterValue) (parameterKey : String) :
    SystemProg (Except SetError Unit × Engine) := do
  engine.trace "SET" ("transaction start count=" ++ toString values.length ++
    " parameter_key=" ++ orEmpty parameterKey)
  match ← engine.stageItems values with
  | .error error => return (.error error, engine)
  | .ok staged =>
      match ← engine.stageParameterKey parameterKey with
      | .error error => return (.error error, engine)
      | .ok normalizedKey =>
          match engine.mock with
          | some mock => engine.commitMock mock staged normalizedKey
          | none => do
              let result ← engine.commitStaged staged normalizedKey
              return (result, engine)

end Engine

end Tr069d
