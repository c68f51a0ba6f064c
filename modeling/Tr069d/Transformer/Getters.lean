import Tr069d.Text.Patterns
import Tr069d.Transformer.AllOrNothing

/-!
# The getters

The parameters that `transformer.lua` computes instead of reading an option:
the serial number, the software version and the Connection Request URL.

The definitions follow the script: the checks of an override, the sources of an address
in their order, and then the URL.  What a command prints is an answer of the system, so
nothing is assumed of it.
-/

namespace Tr069d

open Effects

/-- `shell_quote` -/
def shellQuote (value : String) : String :=
  "'" ++ String.ofList (value.toList.flatMap fun c =>
    if c = '\'' then "'\\''".toList else [c]) ++ "'"

/-- `shell_safe_name` -/
def shellSafeName (value : String) : Bool :=
  consistsOf (fun c => c.isAlphanum || c ∈ ['.', '_', ':', '-']) value

/-- `usable_ipv4` -/
def usableIpv4 (value : Option String) : Option String :=
  match (trimSpaces (value.getD "").toList).splitOn '.' with
  | [a, b, c, d] =>
      if isDecimal a && isDecimal b && isDecimal c && isDecimal d then
        let (a, b, c, d) := (decimalValue a, decimalValue b, decimalValue c, decimalValue d)
        if 255 < a || 255 < b || 255 < c || 255 < d then none
        else if a = 0 || a = 127 || 224 ≤ a then none
        else some (toString a ++ "." ++ toString b ++ "." ++ toString c ++ "." ++ toString d)
      else none
  | _ => none

/-- `json_string_field` -/
def jsonStringField (json field : String) : Option String :=
  (firstMatch (fun text => (afterField field text).bind quotedText) json.toList).map String.ofList

/-- `"address"%s*:%s*"([^"]+)"`, at a place -/
def addressField (text : List Char) : Option (List Char) :=
  ((afterField "address" text).bind quotedText).filter fun value => !value.isEmpty

/-- The first address in the `ipv4-address` block of an interface status. -/
def interfaceAddress (status : String) : Option String :=
  ((firstMatch (fun text => (afterField "ipv4-address" text).bind bracketed) status.toList).bind
    (firstMatch addressField)).map String.ofList

/-- The host that `acs_url_host` takes off a URL. -/
def routeHost (url : String) : Option String :=
  (((afterScheme url.toList).bind hostPart).map fun host =>
      let host := (host.dropPrefix? ['[']).getD host
      String.ofList ((host.dropSuffix? [']']).getD host)).filter
    (consistsOf fun c => c.isAlphanum || c ∈ ['.', '-'])

/-- What `configured_connection_request_url` checks before it looks at the ACS
URL: the host and the port of the override. -/
def overrideEndpoint (url : String) : Option (String × String) :=
  ((afterHttp url.toList).bind hostAndPort).filter fun endpoint =>
    endpoint.1 ≠ "localhost" &&
      !(endpoint.1.toList.head?.any Char.isDigit && (usableIpv4 (some endpoint.1)).isNone)

/-- The host and the port that it takes off the ACS URL. -/
def acsEndpoint (url : String) : Option (String × String) :=
  (afterScheme url.toList).bind hostAndPort

/-- `acs_host == host and (port == "" or acs_port == "" or port == acs_port)` -/
def pointsAtAcs (endpoint : String × String) (acs : Option (String × String)) : Bool :=
  acs.any fun acs => acs.1 == endpoint.1 &&
    (endpoint.2 == "" || acs.2 == "" || endpoint.2 == acs.2)

/-- `host == acs_host and (port == "3000" or port == "7547")` -/
def usesAcsPort (endpoint : String × String) (acs : Option (String × String)) : Bool :=
  acs.any fun acs => acs.1 == endpoint.1 && (endpoint.2 == "3000" || endpoint.2 == "7547")

/-- The interface that is asked for an address. -/
def interfaceName (option : Option String) : String :=
  let interface := option.getD "wan"
  if consistsOf (fun c => c.isAlphanum || c ∈ ['_', '-']) interface then interface else "wan"

/-- The port of a computed Connection Request URL. -/
def advertisedPort (option : Option String) : String :=
  let port := option.getD "7547"
  if isDecimal port.toList then port else "7547"

namespace Engine

variable (engine : Engine)

/-- `capture` -/
def capture (command : String) : SystemProg (Option String) :=
  @Prog.ask system (.capture command)

/-- `ip_from_ubus_interface` -/
def ipFromUbusInterface (interface : String) : SystemProg (Option String) :=
  if !shellSafeName interface then return none
  else do
    engine.trace "UBUS" ("get network interface status interface=" ++ interface)
    match ← capture (engine.ubusBin ++ " call " ++
        shellQuote ("network.interface." ++ interface) ++ " status") with
    | none => return none
    | some status =>
        if status == "" then return none
        else
          match usableIpv4 (interfaceAddress status) with
          | some ip => return some ip
          | none =>
              match (jsonStringField status "l3_device").or (jsonStringField status "device") with
              | none => return none
              | some device =>
                  if shellSafeName device then do
                    return usableIpv4 (← capture ("ip -4 -o addr show dev " ++
                      shellQuote device ++ " scope global | awk " ++
                      "'\x7bsplit($4,a,\"/\"); print a[1]; exit\x7d'"))
                  else return none

/-- `ip_from_route_to_acs` -/
def ipFromRouteToAcs : SystemProg (Option String) := do
  let url ← engine.rawGet .lookup "tr69.mgmt_srv.url"
  match routeHost (url.getD "") with
  | none => return none
  | some host => do
      return usableIpv4 (← capture ("ip -4 route get " ++ shellQuote host ++ " | awk " ++
        "'\x7bfor(i=1;i<=NF;i++) if($i==\"src\") \x7bprint $(i+1); exit\x7d\x7d'"))

/-- `configured_connection_request_url` -/
def configuredConnectionRequestUrl : SystemProg (Option String) := do
  match ← engine.rawGet .lookup "tr69.conn_request.url" with
  | none => return none
  | some url =>
      match overrideEndpoint url with
      | none => return none
      | some endpoint => do
          let acs := acsEndpoint ((← engine.rawGet .lookup "tr69.mgmt_srv.url").getD "")
          if pointsAtAcs endpoint acs then
            engine.trace "CONNECTION_REQUEST"
              ("ignore configured URL because it points at ACS url=" ++ url)
            return none
          else if usesAcsPort endpoint acs then
            engine.trace "CONNECTION_REQUEST"
              ("ignore configured URL because it uses ACS host/port url=" ++ url)
            return none
          else return some url

/-- The addresses that `getters.connection_request_url` tries in turn. -/
def localIpv4 (interface : String) : SystemProg (Option String) := do
  match ← engine.ipFromUbusInterface interface with
  | some ip => return some ip
  | none =>
      match ← engine.ipFromRouteToAcs with
      | some ip => return some ip
      | none =>
          match usableIpv4 (← engine.rawGet .lookup ("network." ++ interface ++ ".ipaddr")) with
          | some ip => return some ip
          | none => return usableIpv4 (← engine.rawGet .lookup "network.lan.ipaddr")

/-- `getters.connection_request_url` -/
def connectionRequestUrl : SystemProg String := do
  match ← engine.configuredConnectionRequestUrl with
  | some url => return url
  | none => do
      let interface := interfaceName (← engine.rawGet .lookup "tr69.settings.interface")
      match ← engine.localIpv4 interface with
      | none => do
          engine.trace "CONNECTION_REQUEST" "no usable local IPv4 for ConnectionRequestURL"
          return ""
      | some ip => do
          let port := advertisedPort (← engine.rawGet .lookup "tr69.settings.port")
          return "http://" ++ ip ++ ":" ++ port ++ "/connection-request"

/-- The captured output, or the default of the parameter. -/
def capturedOr (spec : Spec) (command : String) : SystemProg (Option String) := do
  match ← capture command with
  | none => return spec.default
  | some value => return if value == "" then spec.default else some value

/-- The table `getters`. -/
def getterTable : Getter → Spec → SystemProg (Option String)
  | .serialNumber, spec => capturedOr spec ("[ -r /proc/device-tree/serial-number ] && " ++
      "tr -d '\\000' < /proc/device-tree/serial-number")
  | .softwareVersion, spec => capturedOr spec (". /etc/openwrt_release 2>/dev/null; " ++
      "printf %s \"$DISTRIB_DESCRIPTION\"")
  | .connectionRequestUrl, _ => do return some (← engine.connectionRequestUrl)

/-- The getters only use the system, so that a table of getters changes none of them. -/
theorem getterTable_withGetters (getters : Getter → Spec → SystemProg (Option String)) :
    ({ engine with getters := getters } : Engine).getterTable = engine.getterTable := by
  funext getter spec
  cases getter <;> rfl

end Engine

/-- An engine as `M.new` makes it: the shipped map and the getters, on the UCI backend. -/
structure CpeEngine extends UciEngine where
  getters_eq : getters = toEngine.getterTable

/-- The engine of `M.new`, whatever the binaries, the trace and `pairs` are. -/
def cpeEngine (ubusBin : String) (traceEnabled : Bool)
    (pairs : PairsOrder (String × Option String)) : CpeEngine :=
  let engine : Engine := { plainEngine.toEngine with
    ubusBin := ubusBin, traceEnabled := traceEnabled, pairs := pairs }
  { toEngine := { engine with getters := engine.getterTable }
    shipped := rfl
    notMock := rfl
    getters_eq := (engine.getterTable_withGetters _).symm }

end Tr069d
