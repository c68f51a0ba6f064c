import Tr069d.Session.RpcHandler
import Tr069d.Soap.Parser

/-!
# A CWMP session

`CwmpSession.cpp`.  The ACS is a script: the answers to the POSTs of the
session, in order.  Once the script is used up, every POST fails.  A session
returns its outcome and its exchanges, the POSTs with their answers.

The loop of `processAcsMessages` is structural on the rest of the script, as a round
that goes on has posted once.  The state of a session is its state machine, the
counter of its ids and the state of the platform.
-/

namespace Tr069d

structure HttpResponse where
  status : Int := 0
  body : String := ""
  error : String := ""
  deriving DecidableEq, Repr

def HttpResponse.ok (response : HttpResponse) : Bool :=
  response.error == "" && 200 ≤ response.status && response.status < 300

/-- A POST and its answer. -/
structure Exchange where
  request : String
  response : HttpResponse
  deriving DecidableEq, Repr

/-- The answer to a POST, and the rest of the script. -/
def nextAnswer : List HttpResponse → HttpResponse × List HttpResponse
  | [] => ({ error := "Couldn't connect to server" }, [])
  | response :: rest => (response, rest)

inductive CwmpState
  | idle
  | connecting
  | informSent
  | rpcProcessing
  | sessionClose
  deriving DecidableEq, Repr

/-- `CwmpStateMachine::transition`, which ignores what is not valid. -/
def CwmpState.transition (state next : CwmpState) : CwmpState :=
  match state, next with
  | .idle, .connecting
  | .connecting, .informSent
  | .informSent, .rpcProcessing
  | .informSent, .sessionClose
  | .rpcProcessing, .rpcProcessing
  | .rpcProcessing, .sessionClose
  | .sessionClose, .idle => next
  | _, _ => state

structure SessionOutcome where
  success : Bool := false
  rebootRequested : Bool := false
  rebootCommandKey : String := ""
  download : Option DownloadRequest := none
  deriving DecidableEq, Repr

/-- The state of a session. -/
structure Session (σ : Type) where
  platformState : σ
  sequence : Nat := 1
  state : CwmpState := .idle

namespace CwmpSession

variable {σ : Type} (platform : Platform σ) (xmlRead : XmlReader)

/-- A call to the platform. -/
def onPlatform {α : Type} (program : StateM σ α) : StateM (Session σ) α := fun session =>
  let (value, s) := program session.platformState
  (value, { session with platformState := s })

def log (level : LogLevel) (message : String) : StateM (Session σ) Unit :=
  onPlatform (platform.log level message)

/-- `stateMachine_.transition` -/
def transition (next : CwmpState) : StateM (Session σ) Unit :=
  modify fun session => { session with state := session.state.transition next }

/-- `stateMachine_.reset` -/
def reset : StateM (Session σ) Unit :=
  modify fun session => { session with state := .idle }

/-- `nextId` -/
def nextId : StateM (Session σ) String := fun session =>
  ("tr069d-" ++ toString session.sequence,
    { session with sequence := (session.sequence + 1) % 2 ^ 32 })

/-- `joinEvents` -/
def joinEvents (events : List String) : String :=
  ",".intercalate events

/-! ## The Inform -/

/-- `valueOr` -/
def valueOr (path fallback : String) : StateM σ String := do
  let (values, _) ← platform.getParameterValues [path] false
  return match values with
    | [] => fallback
    | value :: _ => value.value

/-- The names of `DataModel::informParameters`. -/
def informParameters : List String :=
  ["Device.DeviceInfo.Manufacturer", "Device.DeviceInfo.ManufacturerOUI",
   "Device.DeviceInfo.ProductClass", "Device.DeviceInfo.ModelName",
   "Device.DeviceInfo.SerialNumber", "Device.DeviceInfo.SoftwareVersion",
   "Device.RootDataModelVersion", "Device.ManagementServer.URL",
   "Device.ManagementServer.PeriodicInformEnable",
   "Device.ManagementServer.PeriodicInformInterval",
   "Device.ManagementServer.ConnectionRequestURL"]

/-- `SoapBuilder::inform`, with the values it collects. -/
def informMessage (id : String) (events : List String) : StateM σ String := do
  let manufacturer ← valueOr platform "Device.DeviceInfo.Manufacturer" "dev"
  let oui ← valueOr platform "Device.DeviceInfo.ManufacturerOUI" "000000"
  let productClass ← valueOr platform "Device.DeviceInfo.ProductClass" "OpenWrt-RPi5"
  let serialNumber ← valueOr platform "Device.DeviceInfo.SerialNumber" "UNKNOWN"
  let (params, _) ← platform.getParameterValues informParameters false
  let time ← platform.isoTimeNow
  return SoapBuilder.inform id ⟨manufacturer, oui, productClass, serialNumber⟩ events params time

/-- `beginInform`, whose POST is answered by `response`: whether it went well,
and the exchange. -/
def beginInform (events : List String) (id : String) (response : HttpResponse) :
    StateM (Session σ) (Bool × Exchange) := do
  reset
  transition .connecting
  log platform .info ("CWMP Inform: events=" ++
    if events.isEmpty then "<none>" else joinEvents events)
  log platform .info "CWMP state: CONNECTING"
  let message ← onPlatform (informMessage platform id events)
  if !response.ok then
    log platform .error ("[CWMP][SESSION] Inform failed id=" ++ id ++ ": " ++
      if response.error == "" then "HTTP " ++ toString response.status else response.error)
    reset
    return (false, ⟨message, response⟩)
  else if !SoapParser.isMethod xmlRead response.body "InformResponse" then
    log platform .error ("[CWMP][SESSION] ACS did not return InformResponse id=" ++ id)
    reset
    return (false, ⟨message, response⟩)
  else
    transition .informSent
    log platform .info "CWMP state: INFORM_SENT"
    return (true, ⟨message, response⟩)

/-! ## The RPCs -/

/-- The end of `processAcsMessages`. -/
def closeSession (outcome : SessionOutcome) : StateM (Session σ) SessionOutcome := do
  transition .sessionClose
  log platform .info "CWMP state: SESSION_CLOSE"
  transition .idle
  return { outcome with success := true }

/-- What a handled RPC adds to the outcome. -/
def recordResult (outcome : SessionOutcome) (handled : RpcResult) : SessionOutcome :=
  let outcome := if handled.requestReboot then
    { outcome with rebootRequested := true, rebootCommandKey := handled.rebootCommandKey }
    else outcome
  match handled.download with
  | some request => { outcome with download := some request }
  | none => outcome

/-- The answer to an RPC that could not be parsed, or whose response failed. -/
def postFailed (rpc : ParsedRpc) (outcome : SessionOutcome) (response : HttpResponse) :
    StateM (Session σ) SessionOutcome := do
  log platform .error ("[CWMP][SESSION] RPC response POST failed method=" ++ rpc.method ++
    ": " ++ response.error)
  return outcome

/-- `processAcsMessages`: the loop on the body that was delivered last.  The
outcome is the loop variable. -/
def processAcsMessages (outcome : SessionOutcome) (script : List HttpResponse) (body : String) :
    StateM (Session σ) (SessionOutcome × List Exchange) := do
  if body = "" then return (← closeSession platform outcome, [])
  else
    match SoapParser.parseRpc xmlRead body with
    | .error error => do
        log platform .error ("[CWMP][SESSION] Cannot parse ACS RPC: " ++ error)
        return (outcome, [])
    | .ok rpc => do
        transition .rpcProcessing
        let handled ← onPlatform (RpcHandler.handle platform rpc)
        match script with
        | [] => do
            let response := (nextAnswer []).1
            return (← postFailed platform rpc outcome response,
              [⟨handled.responseXml, response⟩])
        | response :: rest => do
            let exchange : Exchange := ⟨handled.responseXml, response⟩
            if !response.ok then
              return (← postFailed platform rpc outcome response, [exchange])
            else
              let outcome := recordResult outcome handled
              -- the body of this answer is not looked at any more
              if outcome.rebootRequested || outcome.download.isSome then
                return (← closeSession platform outcome, [exchange])
              else
                let (outcome, exchanges) ← processAcsMessages outcome rest response.body
                return (outcome, exchange :: exchanges)

/-! ## The two sessions -/

/-- `CwmpSession::run` -/
def run (events : List String) (script : List HttpResponse) :
    StateM (Session σ) (SessionOutcome × List Exchange) := do
  let id ← nextId
  let (response, script) := nextAnswer script
  let (began, inform) ← beginInform platform xmlRead events id response
  if !began then return ({}, [inform])
  else
    let (response, script) := nextAnswer script
    if !response.ok then
      log platform .error ("[CWMP][SESSION] Empty CWMP POST failed: " ++ response.error)
      return ({}, [inform, ⟨"", response⟩])
    else
      let (outcome, exchanges) ←
        processAcsMessages platform xmlRead {} script response.body
      return (outcome, inform :: ⟨"", response⟩ :: exchanges)

/-- `CwmpSession::runTransferComplete` -/
def runTransferComplete (result : TransferResult) (script : List HttpResponse) :
    StateM (Session σ) (Bool × List Exchange) := do
  let id ← nextId
  let (response, script) := nextAnswer script
  let (began, inform) ←
    beginInform platform xmlRead ["7 TRANSFER COMPLETE", "M Download"] id response
  if !began then return (false, [inform])
  else
    let id ← nextId
    let (response, script) := nextAnswer script
    let transfer : Exchange := ⟨SoapBuilder.transferComplete id result, response⟩
    if !response.ok || !SoapParser.isMethod xmlRead response.body "TransferCompleteResponse" then
      log platform .error "[CWMP][SESSION] TransferComplete was not acknowledged"
      return (false, [inform, transfer])
    else
      let (response, script) := nextAnswer script
      if !response.ok then return (false, [inform, transfer, ⟨"", response⟩])
      else
        let (outcome, exchanges) ←
          processAcsMessages platform xmlRead {} script response.body
        return (outcome.success, inform :: transfer :: ⟨"", response⟩ :: exchanges)

end CwmpSession

end Tr069d
