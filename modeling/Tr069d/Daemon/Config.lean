import Tr069d.Transformer.LuaTransformer
import Tr069d.Uci.Adapter

/-!
# The configuration of the daemon

`Tr069Daemon::readConfig`: part of the configuration is read through the data
model, the rest straight from UCI.
-/

namespace Tr069d

open Effects

structure ConnectionRequestConfig where
  bindAddress : String := "0.0.0.0"
  port : Nat := 7547
  username : String := ""
  password : String := ""
  auth : String := "Digest"
  realm : String := "tr069d"
  deriving DecidableEq, Repr

structure DaemonConfig where
  enableCwmp : Bool := true
  acsUrl : String := ""
  acsUsername : String := ""
  acsPassword : String := ""
  caFile : String := ""
  insecureTls : Bool := false
  periodicEnable : Bool := true
  periodicInterval : Nat := 300
  periodicInformTime : String := ""
  upgradesManaged : Bool := false
  defaultActiveNotificationThrottle : Nat := 0
  mockMode : Bool := true
  bootstrapDone : Bool := false
  pendingRebootEvent : Bool := false
  connectionRequestEnable : Bool := true
  retryMinimumWait : Nat := 5
  retryMultiplier : Nat := 2000
  connectionRequest : ConnectionRequestConfig := {}
  deriving DecidableEq, Repr

/-- `parseLogLevel` -/
def parseLogLevel (value : String) : LogLevel :=
  if value == "debug" then .debug
  else if value == "warn" then .warn
  else if value == "error" then .error
  else .info

/-- `internalValue` -/
def internalValue (transformer : LuaTransformer) (path : String) (fallback : String := "") :
    SystemProg String := do
  let value ← transformer.getInternal path
  return match value with
    | some value => value.value
    | none => fallback

/-- `static_cast<unsigned>(std::stoul(text))`, and `fallback` where it throws. -/
def stoulOr (fallback : Nat) (text : String) : Nat :=
  match stoul text with
  | some (number, _) => toUnsigned number
  | none => fallback

/-- The mock mode, which the environment has to allow. -/
def readMockMode (allowMockReboot : Bool) : SystemProg Bool := do
  let mockMode ← UciAdapter.getBool "tr69.settings.mock_mode" false
  if !allowMockReboot && mockMode then
    Logger.log .warn
      "[RUNTIME] Ignoring UCI mock_mode=1 because TR69_ALLOW_MOCK_REBOOT is not enabled"
    return false
  else
    return mockMode

/-- `if (debug) Debug else parseLogLevel(log_level)` -/
def readLogLevel : SystemProg LogLevel := do
  if ← UciAdapter.getBool "tr69.settings.debug" false then return .debug
  else return parseLogLevel ((← UciAdapter.get "tr69.settings.log_level").getD "info")

/-- `Tr069Daemon::readConfig`: the new configuration and log level, unless the
transformer is not ready. -/
def readConfig (transformer : LuaTransformer) (allowMockReboot : Bool) (target : DaemonConfig) :
    SystemProg (Option (DaemonConfig × LogLevel)) :=
  if !transformer.ready then do
    Logger.log .error ("Transformer initialization failed: " ++ transformer.lastError)
    return none
  else do
    let enableCwmp ← internalValue transformer "Device.ManagementServer.EnableCWMP" "true"
    let acsUrl ← internalValue transformer "Device.ManagementServer.URL"
    let acsUsername ← internalValue transformer "Device.ManagementServer.Username"
    let acsPassword ← internalValue transformer "Device.ManagementServer.Password"
    let caFile ← UciAdapter.get "tr69.settings.ssl_ca_cert_path"
    let verifyTls ← UciAdapter.getBool "tr69.settings.ssl_cn_verification" true
    let periodicEnable ←
      internalValue transformer "Device.ManagementServer.PeriodicInformEnable" "true"
    let periodicInterval ←
      internalValue transformer "Device.ManagementServer.PeriodicInformInterval" "300"
    let periodicInformTime ← internalValue transformer
      "Device.ManagementServer.PeriodicInformTime" "1970-01-01T00:00:00Z"
    let upgradesManaged ←
      internalValue transformer "Device.ManagementServer.UpgradesManaged" "false"
    let throttle ←
      internalValue transformer "Device.ManagementServer.DefaultActiveNotificationThrottle" "0"
    let mockMode ← readMockMode allowMockReboot
    let bootstrapDone ← UciAdapter.getBool "tr69.settings.bootstrap_done" false
    let pendingRebootEvent ← UciAdapter.getBool "tr69.settings.pending_reboot_event" false
    let connectionRequestEnable ← UciAdapter.getBool "tr69.conn_request.enable" true
    let bindAddress ← UciAdapter.get "tr69.settings.bind"
    let port ← UciAdapter.getUnsigned "tr69.settings.port" 7547
    let username ← internalValue transformer
      "Device.ManagementServer.ConnectionRequestUsername" "cpe"
    let password ← internalValue transformer
      "Device.ManagementServer.ConnectionRequestPassword" "change-me"
    let auth ← UciAdapter.get "tr69.conn_request.auth"
    let retryMinimumWait ← UciAdapter.getUnsigned "tr69.mgmt_srv.retry_minimum_wait" 5
    let retryMultiplier ← UciAdapter.getUnsigned "tr69.mgmt_srv.retry_multiplier" 2000
    let level ← readLogLevel
    return some
      ({ target with
          enableCwmp := enableCwmp == "true"
          acsUrl := acsUrl
          acsUsername := acsUsername
          acsPassword := acsPassword
          caFile := caFile.getD ""
          insecureTls := !verifyTls
          periodicEnable := periodicEnable == "true"
          -- a numeral that `stoul` refuses leaves the default, past the lower bound
          periodicInterval := max 1 (stoulOr 300 periodicInterval)
          periodicInformTime := periodicInformTime
          upgradesManaged := upgradesManaged == "true"
          defaultActiveNotificationThrottle := stoulOr 0 throttle
          mockMode := mockMode
          bootstrapDone := bootstrapDone
          pendingRebootEvent := pendingRebootEvent
          connectionRequestEnable := connectionRequestEnable
          connectionRequest :=
            { target.connectionRequest with
              bindAddress := bindAddress.getD "0.0.0.0"
              port := port
              username := username
              password := password
              auth := auth.getD "Digest" }
          retryMinimumWait := max 1 retryMinimumWait
          retryMultiplier := max 1000 retryMultiplier }, level)

end Tr069d
