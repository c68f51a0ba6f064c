import Tr069d.Daemon.Reading
import Tr069d.Text.Url
import Tr069d.Transformer.Getters

/-!
# The Connection Request URL

The URL at which the ACS is to call the daemon: an override from UCI that
passes the checks of `configured_connection_request_url`, or else one made of
the first usable address of five sources.

What the data model reports is a function of the options and of what the
commands print (`reportedUrl_eq`).  The computed URL names a usable address
(`endpointOf_urlAt`).
-/

namespace Tr069d

open Effects

/-- UCI without faults, and other commands that print whatever `outputs` says. -/
def cpeHandler (outputs : String → Option String) :
    (c : SystemCall) → Store → system.Answer c × Store
  | .capture command, store => (outputs command, store)
  | c, store => uciHandler c store

/-- UCI with some options set. -/
def storeWith (options : List (String × String)) : Store :=
  .ofCommitted fun key => options.lookup key

def connectionRequestUrlPath : String := "Device.ManagementServer.ConnectionRequestURL"

/-- The Connection Request URL that the data model reports. -/
def CpeEngine.reportedUrl (engine : CpeEngine) (outputs : String → Option String)
    (store : Store) : String :=
  let (values, _) := ((engine.getParameterValues [connectionRequestUrlPath] false).run
    (cpeHandler outputs) store).1
  values.head?.elim "" ParameterValue.value

/-! ## What is reported -/

/-- The ACS URL, as the getter sees it. -/
def acsUrlOption (store : Store) : String :=
  (captured store "tr69.mgmt_srv.url").getD ""

/-- The override, if the checks let it pass. -/
def acceptedOverride (store : Store) : Option String :=
  (captured store "tr69.conn_request.url").filter fun url =>
    (overrideEndpoint url).any fun endpoint =>
      !pointsAtAcs endpoint (acsEndpoint (acsUrlOption store)) &&
        !usesAcsPort endpoint (acsEndpoint (acsUrlOption store))

def statusCommand (ubusBin interface : String) : String :=
  ubusBin ++ " call " ++ shellQuote ("network.interface." ++ interface) ++ " status"

def deviceCommand (device : String) : String :=
  "ip -4 -o addr show dev " ++ shellQuote device ++ " scope global | awk " ++
    "'\x7bsplit($4,a,\"/\"); print a[1]; exit\x7d'"

def routeCommand (host : String) : String :=
  "ip -4 route get " ++ shellQuote host ++ " | awk " ++
    "'\x7bfor(i=1;i<=NF;i++) if($i==\"src\") \x7bprint $(i+1); exit\x7d\x7d'"

/-- What `ubus` says about the interface. -/
def interfaceStatus (ubusBin : String) (outputs : String → Option String) (interface : String) :
    Option String :=
  if shellSafeName interface then (outputs (statusCommand ubusBin interface)).filter (· ≠ "")
  else none

/-- The device of the interface, if its name may stand in a command. -/
def deviceOf (status : String) : Option String :=
  ((jsonStringField status "l3_device").or (jsonStringField status "device")).filter shellSafeName

/-- The five sources of an address, in the order they are tried. -/
def addressSources (ubusBin : String) (outputs : String → Option String) (store : Store) :
    List (Option String) :=
  let interface := interfaceName (captured store "tr69.settings.interface")
  let status := interfaceStatus ubusBin outputs interface
  [status.bind interfaceAddress,
    (status.bind deviceOf).bind fun device => outputs (deviceCommand device),
    (routeHost (acsUrlOption store)).bind fun host => outputs (routeCommand host),
    captured store ("network." ++ interface ++ ".ipaddr"),
    captured store "network.lan.ipaddr"]

/-- The computed URL. -/
def urlAt (ip port : String) : String :=
  "http://" ++ ip ++ ":" ++ port ++ "/connection-request"

/-- The URL as a function of the options and of what the commands print. -/
def urlFrom (ubusBin : String) (outputs : String → Option String) (store : Store) : String :=
  match acceptedOverride store with
  | some url => url
  | none =>
      match (addressSources ubusBin outputs store).findSome? usableIpv4 with
      | none => ""
      | some ip => urlAt ip (advertisedPort (captured store "tr69.settings.port"))

section Reporting

variable {engine : Engine} (hmock : engine.mock = none) (outputs : String → Option String)
  (store : Store)

theorem run_trace_cpe (engine : Engine) (layer message : String) :
    (engine.trace layer message).run (cpeHandler outputs) store = ((), store) := by
  unfold Engine.trace
  split_ifs <;> rfl

include hmock in
theorem run_rawGet_cpe (key : String) :
    (engine.rawGet .lookup key).run (cpeHandler outputs) store = (captured store key, store) := by
  unfold Engine.rawGet
  simp only [hmock, Prog.run_bind, run_trace_cpe, Prog.pure_eq_done, Prog.run_done]
  rfl

theorem run_capture (command : String) :
    (Engine.capture command).run (cpeHandler outputs) store = (outputs command, store) := rfl

include hmock in
theorem run_configuredConnectionRequestUrl :
    engine.configuredConnectionRequestUrl.run (cpeHandler outputs) store =
      (acceptedOverride store, store) := by
  unfold Engine.configuredConnectionRequestUrl acceptedOverride acsUrlOption
  simp only [Prog.run_bind, run_rawGet_cpe hmock]
  cases captured store "tr69.conn_request.url" with
  | none => rfl
  | some url =>
      simp only [Option.filter_some]
      cases overrideEndpoint url with
      | none => rfl
      | some endpoint =>
          simp only [Prog.run_bind, run_rawGet_cpe hmock, Option.any_some]
          by_cases hpoints : pointsAtAcs endpoint
            (acsEndpoint ((captured store "tr69.mgmt_srv.url").getD "")) = true
          · simp [hpoints, run_trace_cpe]
          by_cases huses : usesAcsPort endpoint
            (acsEndpoint ((captured store "tr69.mgmt_srv.url").getD "")) = true
          · simp [hpoints, huses, run_trace_cpe]
          · simp [hpoints, huses]

theorem usableIpv4_none : usableIpv4 none = none := rfl

/-- The first two sources, if the interface has a status. -/
theorem run_ipFromUbusInterface (interface : String) :
    (engine.ipFromUbusInterface interface).run (cpeHandler outputs) store =
      ((usableIpv4 ((interfaceStatus engine.ubusBin outputs interface).bind interfaceAddress)).or
        (usableIpv4 (((interfaceStatus engine.ubusBin outputs interface).bind deviceOf).bind
          fun device => outputs (deviceCommand device))), store) := by
  unfold Engine.ipFromUbusInterface interfaceStatus statusCommand
  cases shellSafeName interface with
  | false => simp [usableIpv4_none]
  | true =>
      simp only [Bool.not_true, Bool.false_eq_true, if_false, if_true, Prog.run_bind,
        run_trace_cpe, run_capture]
      generalize outputs (engine.ubusBin ++ " call " ++
        shellQuote ("network.interface." ++ interface) ++ " status") = printed
      rcases printed with _ | status
      · simp [usableIpv4_none]
      -- a command that prints nothing has no status
      by_cases hempty : status = ""
      · simp [hempty, Option.filter, usableIpv4_none]
      have hcheck : (status == "") = false := by simp [hempty]
      have hkept : Option.filter (· ≠ "") (some status) = some status := by
        simp [Option.filter, hempty]
      simp only [hcheck, hkept, Bool.false_eq_true, if_false, Option.bind_some]
      unfold deviceOf deviceCommand
      cases usableIpv4 (interfaceAddress status) with
      | some ip => simp
      | none =>
          cases (jsonStringField status "l3_device").or (jsonStringField status "device") with
          | none => simp [usableIpv4_none]
          | some device =>
              simp only [Option.filter_some]
              cases shellSafeName device with
              | false => simp [usableIpv4_none]
              | true =>
                  simp only [if_true, Prog.run_bind, run_capture, Prog.pure_eq_done,
                    Prog.run_done, Option.bind_some, Option.none_or]

include hmock in
theorem run_ipFromRouteToAcs :
    engine.ipFromRouteToAcs.run (cpeHandler outputs) store =
      (usableIpv4 ((routeHost (acsUrlOption store)).bind fun host =>
        outputs (routeCommand host)), store) := by
  unfold Engine.ipFromRouteToAcs acsUrlOption
  simp only [Prog.run_bind, run_rawGet_cpe hmock]
  cases routeHost ((captured store "tr69.mgmt_srv.url").getD "") with
  | none => rfl
  | some host => rfl

include hmock in
/-- The sources are tried in turn, until one has a usable address. -/
theorem run_localIpv4 :
    (engine.localIpv4 (interfaceName (captured store "tr69.settings.interface"))).run
        (cpeHandler outputs) store =
      ((addressSources engine.ubusBin outputs store).findSome? usableIpv4, store) := by
  unfold Engine.localIpv4 addressSources
  simp only [Prog.run_bind, run_ipFromUbusInterface, List.findSome?_cons, List.findSome?_nil]
  -- the status of the interface is asked for once and read twice
  generalize interfaceStatus engine.ubusBin outputs
    (interfaceName (captured store "tr69.settings.interface")) = status
  cases usableIpv4 (status.bind interfaceAddress) with
  | some ip => rfl
  | none =>
      rw [Option.none_or]
      cases usableIpv4 ((status.bind deviceOf).bind fun device =>
          outputs (deviceCommand device)) with
      | some ip => rfl
      | none =>
          -- then the route to the ACS, and last the two options of the network configuration
          simp only [Prog.run_bind, run_ipFromRouteToAcs hmock]
          cases usableIpv4 ((routeHost (acsUrlOption store)).bind fun host =>
              outputs (routeCommand host)) with
          | some ip => rfl
          | none =>
              simp only [Prog.run_bind, run_rawGet_cpe hmock]
              cases usableIpv4 (captured store ("network." ++
                  interfaceName (captured store "tr69.settings.interface") ++ ".ipaddr")) with
              | some ip => rfl
              | none =>
                  simp only [Prog.run_bind, run_rawGet_cpe hmock, Prog.pure_eq_done,
                    Prog.run_done]
                  cases usableIpv4 (captured store "network.lan.ipaddr") <;> rfl

include hmock in
theorem run_connectionRequestUrl :
    engine.connectionRequestUrl.run (cpeHandler outputs) store =
      (urlFrom engine.ubusBin outputs store, store) := by
  unfold Engine.connectionRequestUrl urlFrom
  simp only [Prog.run_bind, run_configuredConnectionRequestUrl hmock]
  cases acceptedOverride store with
  | some url => rfl
  | none =>
      simp only [Prog.run_bind, run_rawGet_cpe hmock, run_localIpv4 hmock]
      cases (addressSources engine.ubusBin outputs store).findSome? usableIpv4 with
      | none => simp [run_trace_cpe]
      | some ip =>
          simp only [Prog.run_bind, run_rawGet_cpe hmock]
          rfl

end Reporting

/-- The data model reports what the getter computes. -/
theorem reportedUrl_eq (engine : CpeEngine) (outputs : String → Option String) (store : Store) :
    engine.reportedUrl outputs store = urlFrom engine.ubusBin outputs store := by
  have hlookup : deviceMap.lookup connectionRequestUrlPath =
      some { access := .readOnly, type := .string, getter := some .connectionRequestUrl } := by
    decide
  unfold CpeEngine.reportedUrl Engine.getParameterValues Engine.getParameterValues.loop Engine.read
  simp only [engine.shipped, hlookup, engine.getters_eq, Engine.getterTable, Prog.run_bind,
    run_trace_cpe, Bool.false_and, Bool.false_eq_true, if_false,
    run_connectionRequestUrl engine.notMock, Prog.pure_eq_done, Prog.run_done, Option.some_or,
    Option.getD_some, List.head?_cons, Option.elim_some]

/-! ## Usable addresses -/

/-- A usable address is written without leading zeros, and its first byte is usable. -/
theorem usableIpv4_eq_some {value : Option String} {ip : String}
    (h : usableIpv4 value = some ip) :
    ∃ a b c d, ip.toList =
        Nat.toDigits 10 a ++ '.' :: (Nat.toDigits 10 b ++ '.' ::
          (Nat.toDigits 10 c ++ '.' :: Nat.toDigits 10 d)) ∧
      (a ≤ 255 ∧ b ≤ 255 ∧ c ≤ 255 ∧ d ≤ 255) ∧ unusableByte a = false := by
  unfold usableIpv4 at h
  split at h
  · rename_i a b c d _
    split_ifs at h
    dsimp only at h
    split_ifs at h with hlarge hfirst
    simp only [Bool.or_eq_true, decide_eq_true_eq, not_or, Nat.not_lt] at hlarge
    have htext : (toString (decimalValue a) ++ "." ++ toString (decimalValue b) ++ "." ++
        toString (decimalValue c) ++ "." ++ toString (decimalValue d)).toList = ip.toList :=
      congrArg String.toList (Option.some.inj h)
    refine ⟨decimalValue a, decimalValue b, decimalValue c, decimalValue d, ?_,
      ⟨hlarge.1.1.1, hlarge.1.1.2, hlarge.1.2, hlarge.2⟩, by simpa [unusableByte] using hfirst⟩
    simp only [← htext, String.toList_append, toList_toString, List.append_assoc]
    rfl
  · cases h

theorem ipv4FirstByte_of_usable {value : Option String} {ip : String}
    (h : usableIpv4 value = some ip) :
    ∃ byte, ipv4FirstByte ip.toList = some byte ∧ unusableByte byte = false := by
  obtain ⟨a, b, c, d, htext, hbytes, hfirst⟩ := usableIpv4_eq_some h
  have hdot : ∀ number, '.' ∉ Nat.toDigits 10 number := by
    intro number hmem
    exact absurd (Nat.isDigit_of_mem_toDigits (by decide) (by decide) hmem) (by decide)
  -- digits hold no dot, so that splitting finds the four numbers again
  have hsplit : ip.toList.splitOn '.' =
      [Nat.toDigits 10 a, Nat.toDigits 10 b, Nat.toDigits 10 c, Nat.toDigits 10 d] := by
    rw [htext, List.splitOn_append_cons_self_of_not_mem (hdot a),
      List.splitOn_append_cons_self_of_not_mem (hdot b),
      List.splitOn_append_cons_self_of_not_mem (hdot c), List.splitOn_eq_singleton (hdot d)]
  refine ⟨a, ipv4FirstByte_eq_some_iff.mpr ⟨_, _, _, _, hsplit, ?_, ?_, ?_⟩, hfirst⟩
  · exact ⟨isDecimal_toDigits a, isDecimal_toDigits b, isDecimal_toDigits c, isDecimal_toDigits d⟩
  · simpa only [decimalValue_toDigits] using hbytes
  · exact decimalValue_toDigits a

/-- An address of this machine is a host that can be reached. -/
theorem unreachableHost_of_usable {value : Option String} {ip : String}
    (h : usableIpv4 value = some ip) : unreachableHost ip.toList = false := by
  obtain ⟨byte, hbyte, hfirst⟩ := ipv4FirstByte_of_usable h
  have hdigit := (head_of_ipv4FirstByte hbyte).1
  have hne : ip.toList ≠ [] := by
    intro hnil
    simp [hnil] at hdigit
  have hlocal : ip.toList ≠ "localhost".toList := by
    intro heq
    rw [heq] at hdigit
    exact absurd hdigit (by decide)
  rw [unreachableHost, decide_eq_false hne, decide_eq_false hlocal, hbyte]
  exact hfirst

/-! ## The computed URL -/

theorem isDecimal_advertisedPort (option : Option String) :
    isDecimal (advertisedPort option).toList = true := by
  unfold advertisedPort
  dsimp only
  split_ifs with hdecimal
  · exact hdecimal
  · decide

theorem letters_of_usable {value : Option String} {ip : String}
    (h : usableIpv4 value = some ip) {c : Char} (hc : c ∈ ip.toList) :
    c.isDigit = true ∨ c = '.' := by
  obtain ⟨a, b, c', d, htext, -⟩ := usableIpv4_eq_some h
  have hnumber : ∀ number, c ∈ Nat.toDigits 10 number → c.isDigit = true :=
    fun _ hmem => Nat.isDigit_of_mem_toDigits (by decide) (by decide) hmem
  simp only [htext, List.mem_append, List.mem_cons] at hc
  rcases hc with hc | rfl | hc | rfl | hc | rfl | hc
  all_goals first | exact Or.inr rfl | exact Or.inl (hnumber _ hc)

/-- The endpoint of the computed URL. -/
theorem endpointOf_urlAt {value : Option String} {ip port : String}
    (hip : usableIpv4 value = some ip) (hport : isDecimal port.toList = true) :
    isHttp (urlAt ip port) = true ∧ endpointOf (urlAt ip port) =
      some ⟨ip.toList, some (decimalValue port.toList)⟩ := by
  have hurl : (urlAt ip port).toList = "http://".toList ++
      ((ip.toList ++ ':' :: port.toList) ++ '/' :: "connection-request".toList) := by
    simp only [urlAt, String.toList_append, List.append_assoc]
    rfl
  obtain ⟨hrest, hscheme⟩ := afterScheme_http
    ((ip.toList ++ ':' :: port.toList) ++ '/' :: "connection-request".toList)
  rw [← hurl] at hrest hscheme
  constructor
  · rw [isHttp, hscheme]
    decide
  · rw [endpointOf, hrest, Option.map_some,
      endpointAfter_address (fun c hc => letters_of_usable hip hc) hport]

end Tr069d
