import Tr069d.Daemon.Config
import Tr069d.Transformer.AllOrNothing

/-!
# What reading the configuration gives

On a UCI store without faults, reading changes nothing, and its result is a
function of what the options capture (`captured`).

* `internalText` is what the data model reports for a parameter with its secrets revealed.
* `configFrom` and `logLevelFrom` are what `readConfig` makes of a store, field by field.
* `run_readConfig` says that a transformer that is ready reads exactly this.
-/

namespace Tr069d

open Effects

/-- What a caller of `uci get` captures. -/
def captured (store : Store) (key : String) : Option String :=
  (store.view key).map printed

/-- `if value == nil or value == "" then return spec.default or "" end return value` -/
def valueOrDefault (spec : Spec) (value : Option String) : String :=
  match value with
  | none => spec.default.getD ""
  | some value => if value == "" then spec.default.getD "" else value

/-- What the engine reports for a parameter that has no getter. -/
def reportedValue (store : Store) (spec : Spec) : String :=
  match spec.uci with
  | none => spec.default.getD ""
  | some location => valueOrDefault spec (captured store (uciKey location))

/-- The parameter is in the map and has no getter. -/
def isPlain (path : String) : Bool :=
  match deviceMap.lookup path with
  | some spec => spec.getter.isNone
  | none => false

/-- What the data model reports for a parameter, with its secrets revealed. -/
def internalText (store : Store) (path : String) : String :=
  match deviceMap.lookup path with
  | some spec => reportedValue store spec
  | none => ""

/-- What `raw_get` returns, on either backend. -/
def Engine.rawValue (engine : Engine) (store : Store) (key : String) : Option String :=
  match engine.mock with
  | some mock => mock.values.lookup key
  | none => captured store key

variable (engine : UciEngine) (store : Store)

theorem run_trace (engine : Engine) (layer message : String) :
    (engine.trace layer message).run uciHandler store = ((), store) := by
  unfold Engine.trace
  split_ifs <;> rfl

theorem run_rawGet_eq (engine : Engine) (phase : Phase) (key : String) :
    (engine.rawGet phase key).run uciHandler store = (engine.rawValue store key, store) := by
  unfold Engine.rawGet Engine.rawValue
  cases engine.mock with
  | some mock => simp only [Prog.run_bind, run_trace, Prog.pure_eq_done, Prog.run_done]
  | none =>
      simp only [Prog.run_bind, run_trace, Prog.pure_eq_done, Prog.run_done]
      rfl

theorem run_rawGet (phase : Phase) (key : String) :
    (engine.rawGet phase key).run uciHandler store = (captured store key, store) := by
  rw [run_rawGet_eq, Engine.rawValue, engine.notMock]

theorem run_read {path : String} {spec : Spec} (hlookup : deviceMap.lookup path = some spec)
    (hgetter : spec.getter = none) {revealSecrets : Bool}
    (hshown : spec.secret = false ∨ revealSecrets = true) :
    (engine.read path revealSecrets).run uciHandler store =
      (some (reportedValue store spec), store) := by
  have hsecret : (spec.secret && !revealSecrets) = false := by
    rcases hshown with h | h <;> simp [h]
  unfold Engine.read reportedValue
  simp only [engine.shipped, hlookup, hsecret, hgetter, Bool.false_eq_true, if_false]
  cases hmapped : spec.uci with
  | none => rfl
  | some location =>
      simp only [Prog.run_bind, run_rawGet]
      cases captured store (uciKey location) <;> rfl

theorem run_getParameterValues {path : String} {spec : Spec}
    (hlookup : deviceMap.lookup path = some spec) (hgetter : spec.getter = none)
    {revealSecrets : Bool} (hshown : spec.secret = false ∨ revealSecrets = true) :
    (engine.getParameterValues [path] revealSecrets).run uciHandler store =
      (([⟨path, reportedValue store spec, "xsd:" ++ spec.type.name⟩], []), store) := by
  simp only [Engine.getParameterValues, Engine.getParameterValues.loop, engine.shipped, hlookup,
    Prog.run_bind, run_trace, run_read engine store hlookup hgetter hshown, Option.getD_some,
    Prog.pure_eq_done, Prog.run_done]

theorem run_internalValue {path : String} (hplain : isPlain path = true)
    (lastError fallback : String) :
    (internalValue ⟨some engine.toEngine, lastError⟩ path fallback).run uciHandler store =
      (internalText store path, store) := by
  unfold isPlain at hplain
  cases hlookup : deviceMap.lookup path with
  | none => simp [hlookup] at hplain
  | some spec =>
      simp only [hlookup, Option.isNone_iff_eq_none] at hplain
      simp only [internalValue, LuaTransformer.getInternal, LuaTransformer.getParameterValues,
        Prog.run_bind, run_getParameterValues engine store hlookup hplain (Or.inr rfl),
        internalText, hlookup, List.head?_cons, Prog.pure_eq_done, Prog.run_done]

theorem run_get {key : String} (hvalid : UciAdapter.validKey key = true) :
    (UciAdapter.get key).run uciHandler store = (captured store key, store) := by
  rw [UciAdapter.get, if_pos hvalid]
  rfl

theorem run_getBool {key : String} (hvalid : UciAdapter.validKey key = true) (fallback : Bool) :
    (UciAdapter.getBool key fallback).run uciHandler store =
      (UciAdapter.boolOf (captured store key) fallback, store) := by
  simp [UciAdapter.getBool, run_get store hvalid]

theorem run_getUnsigned {key : String} (hvalid : UciAdapter.validKey key = true)
    (fallback : Nat) :
    (UciAdapter.getUnsigned key fallback).run uciHandler store =
      (UciAdapter.unsignedOf (captured store key) fallback, store) := by
  simp [UciAdapter.getUnsigned, run_get store hvalid]

theorem run_readMockMode (allowMockReboot : Bool) :
    (readMockMode allowMockReboot).run uciHandler store =
      (allowMockReboot && UciAdapter.boolOf (captured store "tr69.settings.mock_mode") false,
        store) := by
  have hvalid : UciAdapter.validKey "tr69.settings.mock_mode" = true := by decide
  simp only [readMockMode, Prog.run_bind, run_getBool store hvalid]
  cases allowMockReboot <;>
    cases UciAdapter.boolOf (captured store "tr69.settings.mock_mode") false <;> rfl

/-- The log level that is read. -/
def logLevelFrom (store : Store) : LogLevel :=
  if UciAdapter.boolOf (captured store "tr69.settings.debug") false then .debug
  else parseLogLevel ((captured store "tr69.settings.log_level").getD "info")

theorem run_readLogLevel : readLogLevel.run uciHandler store = (logLevelFrom store, store) := by
  have hdebug : UciAdapter.validKey "tr69.settings.debug" = true := by decide
  have hlevel : UciAdapter.validKey "tr69.settings.log_level" = true := by decide
  simp only [readLogLevel, logLevelFrom, Prog.run_bind, run_getBool store hdebug]
  cases UciAdapter.boolOf (captured store "tr69.settings.debug") false with
  | true => rfl
  | false =>
      rw [if_neg Bool.false_ne_true, if_neg Bool.false_ne_true, Prog.run_bind,
        run_get store hlevel]
      rfl

/-- The configuration that is read. -/
def configFrom (store : Store) (allowMockReboot : Bool) (target : DaemonConfig) : DaemonConfig :=
  { target with
    enableCwmp := internalText store "Device.ManagementServer.EnableCWMP" == "true"
    acsUrl := internalText store "Device.ManagementServer.URL"
    acsUsername := internalText store "Device.ManagementServer.Username"
    acsPassword := internalText store "Device.ManagementServer.Password"
    caFile := (captured store "tr69.settings.ssl_ca_cert_path").getD ""
    insecureTls :=
      !UciAdapter.boolOf (captured store "tr69.settings.ssl_cn_verification") true
    periodicEnable := internalText store "Device.ManagementServer.PeriodicInformEnable" == "true"
    periodicInterval := max 1 (stoulOr 300
      (internalText store "Device.ManagementServer.PeriodicInformInterval"))
    periodicInformTime := internalText store "Device.ManagementServer.PeriodicInformTime"
    upgradesManaged := internalText store "Device.ManagementServer.UpgradesManaged" == "true"
    defaultActiveNotificationThrottle := stoulOr 0
      (internalText store "Device.ManagementServer.DefaultActiveNotificationThrottle")
    mockMode := allowMockReboot &&
      UciAdapter.boolOf (captured store "tr69.settings.mock_mode") false
    bootstrapDone := UciAdapter.boolOf (captured store "tr69.settings.bootstrap_done") false
    pendingRebootEvent :=
      UciAdapter.boolOf (captured store "tr69.settings.pending_reboot_event") false
    connectionRequestEnable :=
      UciAdapter.boolOf (captured store "tr69.conn_request.enable") true
    connectionRequest :=
      { target.connectionRequest with
        bindAddress := (captured store "tr69.settings.bind").getD "0.0.0.0"
        port := UciAdapter.unsignedOf (captured store "tr69.settings.port") 7547
        username := internalText store "Device.ManagementServer.ConnectionRequestUsername"
        password := internalText store "Device.ManagementServer.ConnectionRequestPassword"
        auth := (captured store "tr69.conn_request.auth").getD "Digest" }
    retryMinimumWait :=
      max 1 (UciAdapter.unsignedOf (captured store "tr69.mgmt_srv.retry_minimum_wait") 5)
    retryMultiplier :=
      max 1000 (UciAdapter.unsignedOf (captured store "tr69.mgmt_srv.retry_multiplier") 2000) }

/-- Only the realm is kept from the target. -/
theorem configFrom_target {store : Store} {allowMockReboot : Bool} {config : DaemonConfig}
    (h : configFrom store allowMockReboot {} = config) (target : DaemonConfig) :
    configFrom store allowMockReboot target = { config with connectionRequest :=
      { config.connectionRequest with realm := target.connectionRequest.realm } } := by
  rw [← h]
  rfl

/-- On a transformer that is ready, `readConfig` succeeds. -/
theorem run_readConfig (lastError : String) (allowMockReboot : Bool) (target : DaemonConfig) :
    (readConfig ⟨some engine.toEngine, lastError⟩ allowMockReboot target).run uciHandler store =
      (some (configFrom store allowMockReboot target, logLevelFrom store), store) := by
  unfold readConfig
  simp (disch := decide) only [LuaTransformer.ready, Option.isSome_some, Bool.not_true,
    Bool.false_eq_true, if_false, Prog.run_bind, run_internalValue, run_get, run_getBool,
    run_getUnsigned, run_readMockMode, run_readLogLevel, Prog.pure_eq_done, Prog.run_done]
  rfl

end Tr069d
