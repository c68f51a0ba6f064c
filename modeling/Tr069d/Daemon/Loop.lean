import Tr069d.Daemon.Config
import Tr069d.Daemon.Persist
import Tr069d.Session.CwmpSession

/-!
# The loop of the daemon

`Tr069Daemon::run`, as a program that calls what surrounds it.  A round of the
loop ends where `run` overwrites its list of events and where it starts to wait,
so that what happens between two rounds is what other threads and the ACS do.

The functions stand in the order of the source, under its names:

* `refreshConfig` with the comparison, the log of the differences and the restart of
  the listener;
* `wakeReason` and `waitForNextInform`, the waits and the order of the requests;
* `inform` with `recordBootstrap`, `clearPendingReboot`, `runDownload` and `runReboot`,
  which follow a session;
* `start` and `round`, which are `run`.
-/

namespace Tr069d

open Effects

structure HttpConfig where
  url : String
  username : String
  password : String
  caFile : String
  insecureTls : Bool := false
  timeoutSeconds : Nat := 30
  deriving DecidableEq, Repr

/-- The requests of other threads to the daemon; each of them is an atomic flag. -/
inductive Request
  | connection
  | reload
  | reconnect
  | informNow
  deriving DecidableEq, Repr

inductive WakeReason
  | stop
  | periodic
  | connectionRequest
  | reload
  | reconnect
  | informNow
  deriving DecidableEq, Repr

/-- What the loop calls. -/
inductive DaemonCall
  /-- the value of `stop_` -/
  | stopRequested
  /-- `exchange(false)` on the flag of a request -/
  | take (request : Request)
  /-- `waitCv_.wait_for`, or `waitCv_.wait` without a timeout -/
  | wait (timeout : Option Nat)
  | readConfig (target : DaemonConfig)
  /-- `stop` and `reset` of the connection request server, if there is one -/
  | stopServer
  /-- a new connection request server: whether it started -/
  | startServer (config : ConnectionRequestConfig)
  | setState (state : String)
  /-- `CwmpSession::run` of a new session -/
  | session (http : HttpConfig) (events : List String)
  | persist (write : FlagWrite)
  /-- `DownloadManager::execute` -/
  | download (request : DownloadRequest) (http : HttpConfig)
  /-- `CwmpSession::runTransferComplete` of a new session -/
  | transferComplete (http : HttpConfig) (result : TransferResult)
  /-- `RebootHandler::execute` -/
  | reboot (mockMode : Bool) (commandKey : String)
  | sleep (seconds : Nat)
  | log (level : LogLevel) (message : String)
  /-- not a call of the source: it marks where the list of events is assigned -/
  | assigned (events : List String)

/-- The calls with their answers. -/
abbrev daemonCalls : Signature where
  Call := DaemonCall
  Answer
    | .stopRequested => Bool
    | .take _ => Bool
    | .wait _ => Bool
    | .readConfig _ => Option (DaemonConfig × LogLevel)
    | .stopServer => Unit
    | .startServer _ => Bool
    | .setState _ => Unit
    | .session _ _ => SessionOutcome
    | .persist _ => Bool × Bool
    | .download _ _ => TransferResult
    | .transferComplete _ _ => Bool
    | .reboot _ _ => Bool
    | .sleep _ => Unit
    | .log _ _ => Unit
    | .assigned _ => Unit

/-- A program of the daemon thread. -/
abbrev DaemonProg (α : Type) : Type := Prog daemonCalls α

namespace Daemon

/-! ## The calls -/

def stopRequested : DaemonProg Bool := @Prog.ask daemonCalls .stopRequested

def take (request : Request) : DaemonProg Bool := @Prog.ask daemonCalls (.take request)

def wait (timeout : Option Nat) : DaemonProg Bool := @Prog.ask daemonCalls (.wait timeout)

def readConfig (target : DaemonConfig) : DaemonProg (Option (DaemonConfig × LogLevel)) :=
  @Prog.ask daemonCalls (.readConfig target)

def stopServer : DaemonProg Unit := @Prog.ask daemonCalls .stopServer

def startServer (config : ConnectionRequestConfig) : DaemonProg Bool :=
  @Prog.ask daemonCalls (.startServer config)

def setState (state : String) : DaemonProg Unit := @Prog.ask daemonCalls (.setState state)

def session (http : HttpConfig) (events : List String) : DaemonProg SessionOutcome :=
  @Prog.ask daemonCalls (.session http events)

def persist (write : FlagWrite) : DaemonProg (Bool × Bool) :=
  @Prog.ask daemonCalls (.persist write)

def download (request : DownloadRequest) (http : HttpConfig) : DaemonProg TransferResult :=
  @Prog.ask daemonCalls (.download request http)

def transferComplete (http : HttpConfig) (result : TransferResult) : DaemonProg Bool :=
  @Prog.ask daemonCalls (.transferComplete http result)

def reboot (mockMode : Bool) (commandKey : String) : DaemonProg Bool :=
  @Prog.ask daemonCalls (.reboot mockMode commandKey)

def sleep (seconds : Nat) : DaemonProg Unit := @Prog.ask daemonCalls (.sleep seconds)

def log (level : LogLevel) (message : String) : DaemonProg Unit :=
  @Prog.ask daemonCalls (.log level message)

def assigned (events : List String) : DaemonProg Unit :=
  @Prog.ask daemonCalls (.assigned events)

/-! ## The configuration at run time -/

/-- `connectionRequestEqual` -/
def connectionRequestEqual (a b : ConnectionRequestConfig) : Bool :=
  a.bindAddress == b.bindAddress && a.port == b.port &&
  a.username == b.username && a.password == b.password &&
  a.auth == b.auth && a.realm == b.realm

/-- `runtimeConfigEqual` -/
def runtimeConfigEqual (a b : DaemonConfig) : Bool :=
  a.enableCwmp == b.enableCwmp && a.acsUrl == b.acsUrl &&
  a.acsUsername == b.acsUsername && a.acsPassword == b.acsPassword &&
  a.caFile == b.caFile && a.insecureTls == b.insecureTls &&
  a.periodicEnable == b.periodicEnable &&
  a.periodicInterval == b.periodicInterval &&
  a.periodicInformTime == b.periodicInformTime &&
  a.upgradesManaged == b.upgradesManaged &&
  a.defaultActiveNotificationThrottle == b.defaultActiveNotificationThrottle &&
  a.mockMode == b.mockMode &&
  a.connectionRequestEnable == b.connectionRequestEnable &&
  a.retryMinimumWait == b.retryMinimumWait &&
  a.retryMultiplier == b.retryMultiplier &&
  connectionRequestEqual a.connectionRequest b.connectionRequest

/-- `text.empty() ? "<empty>" : text` -/
def orEmptyMark (text : String) : String :=
  if text == "" then "<empty>" else text

/-- `logConfigChange` -/
def logConfigChange (key before after : String) : DaemonProg Unit :=
  if before ≠ after then
    log .info ("[RUNTIME] config changed " ++ key ++ ": " ++
      orEmptyMark before ++ " -> " ++ orEmptyMark after)
  else return ()

/-- `logConfigDiff` -/
def logConfigDiff (before after : DaemonConfig) : DaemonProg Unit := do
  logConfigChange "EnableCWMP" (boolText before.enableCwmp) (boolText after.enableCwmp)
  logConfigChange "ACS URL" before.acsUrl after.acsUrl
  logConfigChange "PeriodicInformEnable" (boolText before.periodicEnable)
    (boolText after.periodicEnable)
  logConfigChange "PeriodicInformInterval" (toString before.periodicInterval)
    (toString after.periodicInterval)
  logConfigChange "PeriodicInformTime" before.periodicInformTime after.periodicInformTime
  logConfigChange "MockMode" (boolText before.mockMode) (boolText after.mockMode)
  logConfigChange "BootstrapDone" (boolText before.bootstrapDone) (boolText after.bootstrapDone)
  logConfigChange "PendingRebootEvent" (boolText before.pendingRebootEvent)
    (boolText after.pendingRebootEvent)
  logConfigChange "ConnectionRequestEnable" (boolText before.connectionRequestEnable)
    (boolText after.connectionRequestEnable)
  logConfigChange "ConnectionRequestBind" before.connectionRequest.bindAddress
    after.connectionRequest.bindAddress
  logConfigChange "ConnectionRequestPort" (toString before.connectionRequest.port)
    (toString after.connectionRequest.port)
  logConfigChange "ConnectionRequestAuth" before.connectionRequest.auth
    after.connectionRequest.auth

/-- `restartConnectionRequestServer` -/
def restartConnectionRequestServer (config : DaemonConfig) : DaemonProg Unit := do
  log .info ("[CONNECTION_REQUEST] restarting server enable=" ++
    boolText config.connectionRequestEnable ++ " bind=" ++
    config.connectionRequest.bindAddress ++ " port=" ++
    toString config.connectionRequest.port ++ " auth=" ++ config.connectionRequest.auth)
  stopServer
  if !config.connectionRequestEnable then
    log .info "Connection Request server disabled"
  else if ← startServer config.connectionRequest then
    return ()
  else
    log .warn "Connection Request server failed to start"

/-- An empty URL is not taken over at run time. -/
def preserveUrl (initial : Bool) (previous updated : DaemonConfig) : DaemonProg DaemonConfig :=
  if !initial && updated.acsUrl == "" && previous.acsUrl != "" then do
    log .warn "[RUNTIME] Ignoring empty ACS URL read-back; preserving previous URL"
    return { updated with acsUrl := previous.acsUrl }
  else return updated

/-- The log of a configuration that changed. -/
def logUpdate (initial : Bool) (previous config : DaemonConfig) : DaemonProg Unit := do
  if !initial then logConfigDiff previous config
  log .info ("Runtime configuration updated: CWMP=" ++
    (if config.enableCwmp then "enabled" else "disabled") ++
    ", URL=" ++ orEmptyMark config.acsUrl ++
    ", PeriodicInform=" ++ (if config.periodicEnable then "enabled/" else "disabled/") ++
    toString config.periodicInterval ++ "s")
  log .info ("[RUNTIME] config applied initial=" ++ boolText initial ++
    " mock_mode=" ++ boolText config.mockMode ++
    " bootstrap_done=" ++ boolText config.bootstrapDone ++
    " pending_reboot_event=" ++ boolText config.pendingRebootEvent)

/-- `refreshConfig`: the configuration after it, and whether it changed. -/
def refreshConfig (initial : Bool) (previous : DaemonConfig) :
    DaemonProg (DaemonConfig × Bool) := do
  match ← readConfig previous with
  | none => return (previous, false)
  | some (read, _) =>
      let updated ← preserveUrl initial previous read
      let connectionChanged :=
        updated.connectionRequestEnable != previous.connectionRequestEnable ||
        !connectionRequestEqual updated.connectionRequest previous.connectionRequest
      let changed := initial || !runtimeConfigEqual updated previous ||
        updated.bootstrapDone != previous.bootstrapDone ||
        updated.pendingRebootEvent != previous.pendingRebootEvent
      if !initial && connectionChanged then restartConnectionRequestServer updated
      if changed then logUpdate initial previous updated
      return (updated, changed)

/-! ## Waiting -/

/-- The CWMP client is on and has an ACS to talk to. -/
def active (config : DaemonConfig) : Bool :=
  config.enableCwmp && config.acsUrl != ""

/-- Why the daemon woke up, and its configuration.  Without a reason the loop of
`waitForNextInform` goes round once more. -/
def wakeReason (config : DaemonConfig) (signaled : Bool) :
    DaemonProg (Option WakeReason × DaemonConfig) := do
  if ← stopRequested then return (some .stop, config)
  else if ← take .connection then return (some .connectionRequest, config)
  else if ← take .reconnect then return (some .reconnect, config)
  else if ← take .informNow then return (some .informNow, config)
  else if ← take .reload then
    let (config, _) ← refreshConfig false config
    return (some .reload, config)
  else if !signaled then return (some .periodic, config)
  else return (none, config)

/-- One pass of the loop of `waitForNextInform`. -/
def waitForNextInform (config : DaemonConfig) :
    DaemonProg (Option WakeReason × DaemonConfig) := do
  if active config && config.periodicEnable then
    let signaled ← wait (some config.periodicInterval)
    wakeReason config signaled
  else
    let _ ← wait none
    wakeReason config true

/-! ## After a session -/

/-- Why the list of events is overwritten. -/
inductive Cause
  | woke (reason : WakeReason)
  | configChanged
  | mockReboot
  deriving DecidableEq, Repr

/-- The list it is overwritten with. -/
def Cause.events : Cause → List String
  | .woke .connectionRequest => ["6 CONNECTION REQUEST"]
  | .woke .periodic => ["2 PERIODIC"]
  | .woke .informNow => ["2 PERIODIC"]
  | .woke _ => ["4 VALUE CHANGE"]
  | .configChanged => ["4 VALUE CHANGE"]
  | .mockReboot => ["1 BOOT", "M Reboot"]

/-- The list that a run starts with. -/
def initialEvents (config : DaemonConfig) : List String :=
  (if !config.bootstrapDone then ["0 BOOTSTRAP"] else []) ++ ["1 BOOT"] ++
    if config.pendingRebootEvent then ["M Reboot"] else []

/-- `bootstrap_done` is set after a success. -/
def recordBootstrap (outcome : SessionOutcome) (config : DaemonConfig) :
    DaemonProg DaemonConfig :=
  if outcome.success && !config.bootstrapDone then do
    let _ ← persist .bootstrapDone
    return { config with bootstrapDone := true }
  else return config

/-- `pending_reboot_event` is cleared after a success that carried it. -/
def clearPendingReboot (outcome : SessionOutcome) (events : List String)
    (config : DaemonConfig) : DaemonProg DaemonConfig :=
  if outcome.success && config.pendingRebootEvent && "M Reboot" ∈ events then do
    let _ ← persist .clearPendingReboot
    return { config with pendingRebootEvent := false }
  else return config

/-- The download that the ACS asked for, and its report. -/
def runDownload (outcome : SessionOutcome) (http : HttpConfig) (config : DaemonConfig) :
    DaemonProg DaemonConfig :=
  match outcome.download with
  | none => return config
  | some request => do
      let transfer ← download request http
      let _ ← transferComplete http transfer
      let (config, _) ← refreshConfig false config
      return config

/-- The reboot that the ACS asked for: whether it was a mock one. -/
def runReboot (outcome : SessionOutcome) (config : DaemonConfig) :
    DaemonProg (DaemonConfig × Bool) :=
  if !outcome.rebootRequested then return (config, false)
  else do
    let config := { config with pendingRebootEvent := true }
    let _ ← persist .setPendingReboot
    let rebootOk ← reboot config.mockMode outcome.rebootCommandKey
    log .warn ("[RUNTIME] reboot request handled mock_mode=" ++
      boolText config.mockMode ++ " scheduled=" ++ boolText rebootOk)
    if config.mockMode then
      let (config, _) ← refreshConfig false config
      sleep 2
      return (config, true)
    else return (config, false)

end Daemon

/-! ## The loop -/

/-- Where a round of the loop starts. -/
inductive Place
  | head
  | waiting
  | overwrite (cause : Daemon.Cause)
  | stopped (code : Nat)
  deriving DecidableEq, Repr

/-- The daemon between two rounds: `config_`, the local `events`, and where it is. -/
structure Daemon where
  config : DaemonConfig
  events : List String
  place : Place
  deriving DecidableEq, Repr

namespace Daemon

/-- The end of `run`. -/
def stop (config : DaemonConfig) (events : List String) : DaemonProg Daemon := do
  stopServer
  log .info "tr69d stopped"
  return ⟨config, events, .stopped 0⟩

/-- `run` up to the loop. -/
def start : DaemonProg Daemon := do
  let (config, changed) ← refreshConfig true {}
  if !changed then return ⟨config, [], .stopped 1⟩
  else
    restartConnectionRequestServer config
    setState "idle"
    assigned (initialEvents config)
    return ⟨config, initialEvents config, .head⟩

/-- A session and what follows it, up to the next wait. -/
def inform (config : DaemonConfig) (events : List String) : DaemonProg Daemon := do
  let http : HttpConfig :=
    { url := config.acsUrl, username := config.acsUsername, password := config.acsPassword
      caFile := config.caFile, insecureTls := config.insecureTls }
  setState "connecting"
  let outcome ← session http events
  setState (if outcome.success then "idle" else "error")
  let config ← recordBootstrap outcome config
  let config ← clearPendingReboot outcome events config
  let config ← runDownload outcome http config
  let (config, mockRebooted) ← runReboot outcome config
  if mockRebooted then return ⟨config, events, .overwrite .mockReboot⟩
  else
    let reloadDuringSession ← take .reload
    let (config, changedAfterSession) ← refreshConfig false config
    if reloadDuringSession || changedAfterSession then
      return ⟨config, events, .overwrite .configChanged⟩
    else if ← stopRequested then stop config events
    else return ⟨config, events, .waiting⟩

/-- A round of the loop of `run`. -/
def round : Daemon → DaemonProg Daemon
  | ⟨config, events, .head⟩ => do
      if ← stopRequested then stop config events
      else if !active config then
        if config.acsUrl == "" then log .warn "CWMP idle: ACS URL is empty"
        return ⟨config, events, .waiting⟩
      else inform config events
  | ⟨config, events, .waiting⟩ => do
      let (wake, config) ← waitForNextInform config
      match wake with
      | none => return ⟨config, events, .waiting⟩
      | some .stop => stop config events
      | some reason => return ⟨config, events, .overwrite (.woke reason)⟩
  | ⟨config, _, .overwrite cause⟩ => do
      assigned cause.events
      return ⟨config, cause.events, .head⟩
  | ⟨config, events, .stopped code⟩ => return ⟨config, events, .stopped code⟩

end Daemon

end Tr069d
