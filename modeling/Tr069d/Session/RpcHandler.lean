import Tr069d.Soap.Builder
import Tr069d.Transformer.LuaTransformer

/-!
# Handling an RPC

`RpcHandler::handle`: every RPC is answered with one message, and a `Reboot` or
a `Download` is passed on to the daemon.  The transformer is behind the
interface `TransformerApi`; its state is whatever its functions share.

`handle` has one branch for each method, and writes the lines that the source logs,
for a line may show a value.  `command` is what an RPC asks the daemon to do, and
`passedOn` what a result tells it.
-/

namespace Tr069d

open Effects

/-- `transformer_api.hpp`, over the state that the calls share. -/
structure TransformerApi (σ : Type) where
  getParameterValues : List String → Bool → StateM σ (List ParameterValue × List String)
  setParameterValues : List ParameterValue → String → StateM σ SetResult
  getParameterNames : String → StateM σ (List ParameterInfo × String)

/-- What a session uses besides the connection to the ACS. -/
structure Platform (σ : Type) extends TransformerApi σ where
  log : LogLevel → String → StateM σ Unit
  isoTimeNow : StateM σ String

/-- The embedded transformer, on a system that answers its calls. -/
def LuaTransformer.api {σ : Type} (handler : (c : SystemCall) → σ → system.Answer c × σ) :
    TransformerApi (LuaTransformer × σ) where
  getParameterValues paths revealSecrets := fun (transformer, s) =>
    let (result, s') := (transformer.getParameterValues paths revealSecrets).run handler s
    (result, (transformer, s'))
  setParameterValues values parameterKey := fun (transformer, s) =>
    let ((result, transformer'), s') :=
      (transformer.setParameterValues values parameterKey).run handler s
    (result, (transformer', s'))
  getParameterNames path := fun (transformer, s) =>
    let (result, s') := (transformer.getParameterNames path).run handler s
    (result, (transformer, s'))

variable {σ : Type} (platform : Platform σ)

namespace RpcHandler

/-- `secret` -/
def isSecret (name : String) : Bool :=
  name ∈ ["Device.ManagementServer.Password",
    "Device.ManagementServer.ConnectionRequestPassword"]

/-- A line for each value, with the secret ones redacted. -/
def logValues (what : String) (values : List ParameterValue) : StateM σ Unit :=
  values.forM fun value => platform.log .info ("ACS " ++ what ++ ": " ++ value.name ++ "=" ++
    if isSecret value.name then "<redacted>" else value.value)

def getParameterValues (id : String) (rpc : ParsedRpc) : StateM σ RpcResult := do
  rpc.parameterNames.forM fun name => platform.log .info ("ACS get request: " ++ name)
  let (values, invalid) ← platform.getParameterValues rpc.parameterNames false
  logValues platform "get result" values
  invalid.forM fun name =>
    platform.log .warn ("GetParameterValues invalid parameter: " ++ name)
  return { responseXml :=
    if invalid.isEmpty then SoapBuilder.getParameterValuesResponse id values
    else SoapBuilder.fault id 9005 "Invalid parameter name" invalid }

def getParameterNames (id : String) (rpc : ParsedRpc) : StateM σ RpcResult := do
  platform.log .info ("ACS get names request: " ++ orEmpty rpc.parameterPath)
  let (names, error) ← platform.getParameterNames rpc.parameterPath
  platform.log .info ("ACS get names result: count=" ++ toString names.length ++
    if error == "" then "" else ", error=" ++ error)
  return { responseXml :=
    if error == "" then SoapBuilder.getParameterNamesResponse id names
    else SoapBuilder.fault id 9005 error }

def setParameterValues (id : String) (rpc : ParsedRpc) : StateM σ RpcResult := do
  logValues platform "set request" rpc.parameterValues
  let result ← platform.setParameterValues rpc.parameterValues rpc.parameterKey
  if result.success then
    platform.log .info ("SetParameterValues committed " ++
      toString rpc.parameterValues.length ++ " parameter(s)")
    let (applied, _) ← platform.getParameterValues (rpc.parameterValues.map (·.name)) true
    logValues platform "set applied" applied
    return { responseXml := SoapBuilder.setParameterValuesResponse id }
  else
    let failed := if result.failedParameter == "" then [] else [result.failedParameter]
    platform.log .warn ("SetParameterValues transaction rejected: " ++ result.error)
    return { responseXml := SoapBuilder.fault id 9003 result.error failed }

def reboot (id : String) (rpc : ParsedRpc) : StateM σ RpcResult := do
  platform.log .warn ("ACS reboot request: CommandKey=" ++ orEmpty rpc.commandKey)
  return { responseXml := SoapBuilder.rebootResponse id
           requestReboot := true
           rebootCommandKey := rpc.commandKey }

def download (id : String) (request : DownloadRequest) : StateM σ RpcResult := do
  platform.log .info ("[RPC][Download] ACS download request command_key=" ++
    request.commandKey ++ " file_type=" ++ request.fileType ++ " url=" ++ request.url)
  return { responseXml :=
             SoapBuilder.downloadResponse id 1 "0001-01-01T00:00:00Z" "0001-01-01T00:00:00Z"
           download := some request }

def unsupported (id : String) (rpc : ParsedRpc) : StateM σ RpcResult := do
  platform.log .warn ("Unsupported ACS RPC: " ++ rpc.method)
  return { responseXml := SoapBuilder.fault id 9000 "Method not supported" }

/-- `RpcHandler::handle` -/
def handle (rpc : ParsedRpc) : StateM σ RpcResult := do
  let id := if rpc.cwmpId == "" then "0" else rpc.cwmpId
  platform.log .info ("ACS RPC: " ++ rpc.method)
  if rpc.method = "GetParameterValues" then getParameterValues platform id rpc
  else if rpc.method = "GetParameterNames" then getParameterNames platform id rpc
  else if rpc.method = "SetParameterValues" then setParameterValues platform id rpc
  else if rpc.method = "Reboot" then reboot platform id rpc
  else
    match decide (rpc.method = "Download"), rpc.download with
    | true, some request => download platform id request
    | _, _ => unsupported platform id rpc

/-! ## What is passed on -/

/-- What an RPC asks the daemon to do. -/
inductive Command
  | reboot (commandKey : String)
  | download (request : DownloadRequest)
  deriving DecidableEq, Repr

/-- The command that an RPC carries. -/
def command (rpc : ParsedRpc) : Option Command :=
  if rpc.method = "Reboot" then some (.reboot rpc.commandKey)
  else if rpc.method = "Download" then rpc.download.map .download
  else none

/-- The commands that a result passes on. -/
def passedOn (reboot : Bool) (commandKey : String) (request : Option DownloadRequest) :
    List Command :=
  (request.map Command.download).toList ++ if reboot then [.reboot commandKey] else []

end RpcHandler

end Tr069d
