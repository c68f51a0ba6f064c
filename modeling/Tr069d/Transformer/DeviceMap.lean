import Mathlib.Data.List.Nodup

/-!
# The parameter map

`transformer/maps/Device.map`: for each parameter its access, type, limits and
the UCI option it lives in.

A map is a list without repeated names, as a Lua table has each key once.  The lemmas
about the shipped map are checked on its entries, and lifted to every lookup by
`DeviceMap.of_lookup_eq_some`.
-/

namespace Tr069d

inductive Access
  | readOnly
  | readWrite
  deriving DecidableEq, Repr

inductive ParameterType
  | string
  | boolean
  | unsignedInt
  | int
  | dateTime
  deriving DecidableEq, Repr

/-- The name of a type as the map and the ACS write it. -/
def ParameterType.name : ParameterType → String
  | .string => "string"
  | .boolean => "boolean"
  | .unsignedInt => "unsignedInt"
  | .int => "int"
  | .dateTime => "dateTime"

/-- The getters of `transformer.lua`, for parameters that are computed. -/
inductive Getter
  | serialNumber
  | softwareVersion
  | connectionRequestUrl
  deriving DecidableEq, Repr

structure UciLocation where
  config : String
  sectionName : String
  option : String
  deriving DecidableEq, Repr

structure ValueRange where
  min : Nat
  max : Nat
  deriving DecidableEq, Repr

structure Spec where
  access : Access
  type : ParameterType
  default : Option String := none
  max : Option Nat := none
  required : Bool := false
  secret : Bool := false
  range : Option (List ValueRange) := none
  enumeration : Option (List String) := none
  getter : Option Getter := none
  uci : Option UciLocation := none
  deriving DecidableEq, Repr

/-- `uci_key` -/
def uciKey (location : UciLocation) : String :=
  location.config ++ "." ++ location.sectionName ++ "." ++ location.option

/-- `parameter_uci_key` -/
def parameterUciKey (spec : Spec) : String :=
  match spec.uci with
  | some location => uciKey location
  | none => "<none>"

/-- A Lua table from parameter names to specs: no name occurs twice. -/
structure DeviceMap where
  parameters : List (String × Spec)
  nodup : (parameters.map Prod.fst).Nodup

def DeviceMap.lookup (model : DeviceMap) (path : String) : Option Spec :=
  model.parameters.lookup path

/-- The constructor `uci` of the map file. -/
def uci (sectionName option : String) (attributes : Spec) : Spec :=
  { attributes with uci := some ⟨"tr69", sectionName, option⟩ }

/-- `maps/Device.map` -/
def deviceMap : DeviceMap where
  parameters :=
    [("Device.RootDataModelVersion",
        { access := .readOnly, type := .string, default := some "2.18" }),
     ("Device.DeviceInfo.Manufacturer",
        { access := .readOnly, type := .string, default := some "dev" }),
     ("Device.DeviceInfo.ManufacturerOUI",
        { access := .readOnly, type := .string, default := some "000000" }),
     ("Device.DeviceInfo.ProductClass",
        { access := .readOnly, type := .string, default := some "OpenWrt-RPi5" }),
     ("Device.DeviceInfo.ModelName",
        { access := .readOnly, type := .string, default := some "Raspberry Pi 5" }),
     ("Device.DeviceInfo.SerialNumber",
        { access := .readOnly, type := .string, getter := some .serialNumber,
          default := some "UNKNOWN" }),
     ("Device.DeviceInfo.SoftwareVersion",
        { access := .readOnly, type := .string, getter := some .softwareVersion,
          default := some "OpenWrt" }),
     ("Device.ManagementServer.EnableCWMP", uci "mgmt_srv" "enable"
        { access := .readWrite, type := .boolean, default := some "true" }),
     ("Device.ManagementServer.URL", uci "mgmt_srv" "url"
        { access := .readWrite, type := .string, max := some 512, required := true }),
     ("Device.ManagementServer.Username", uci "mgmt_srv" "username"
        { access := .readWrite, type := .string, max := some 256 }),
     ("Device.ManagementServer.Password", uci "mgmt_srv" "password"
        { access := .readWrite, type := .string, max := some 256, secret := true }),
     ("Device.ManagementServer.ParameterKey", uci "mgmt_srv" "parameter_key"
        { access := .readOnly, type := .string, max := some 32, default := some "" }),
     ("Device.ManagementServer.PeriodicInformEnable", uci "periodic_inform" "enable"
        { access := .readWrite, type := .boolean, default := some "true" }),
     ("Device.ManagementServer.PeriodicInformInterval", uci "periodic_inform" "interval"
        { access := .readWrite, type := .unsignedInt, range := some [⟨1, 4294967295⟩],
          default := some "300" }),
     ("Device.ManagementServer.PeriodicInformTime", uci "periodic_inform" "time"
        { access := .readWrite, type := .dateTime, default := some "1970-01-01T00:00:00Z" }),
     ("Device.ManagementServer.ConnectionRequestUsername", uci "conn_request" "username"
        { access := .readWrite, type := .string, max := some 256 }),
     ("Device.ManagementServer.ConnectionRequestPassword", uci "conn_request" "password"
        { access := .readWrite, type := .string, max := some 256, secret := true }),
     ("Device.ManagementServer.ConnectionRequestAuthentication", uci "conn_request" "auth"
        { access := .readWrite, type := .string, enumeration := some ["None", "Digest"],
          default := some "None" }),
     ("Device.ManagementServer.ConnectionRequestURL",
        { access := .readOnly, type := .string, getter := some .connectionRequestUrl }),
     ("Device.ManagementServer.UpgradesManaged", uci "mgmt_srv" "upgrades_managed"
        { access := .readWrite, type := .boolean, default := some "false" }),
     ("Device.ManagementServer.DefaultActiveNotificationThrottle",
        uci "mgmt_srv" "defaultactivenotificationthrottle"
        { access := .readWrite, type := .unsignedInt, default := some "0" }),
     ("Device.ManagementServer.CWMPRetryMinimumWaitInterval",
        uci "mgmt_srv" "retry_minimum_wait"
        { access := .readWrite, type := .unsignedInt, range := some [⟨1, 65535⟩],
          default := some "5" }),
     ("Device.ManagementServer.CWMPRetryIntervalMultiplier",
        uci "mgmt_srv" "retry_multiplier"
        { access := .readWrite, type := .unsignedInt, range := some [⟨1000, 65535⟩],
          default := some "2000" })]
  nodup := by decide

theorem DeviceMap.mem_of_lookup_eq_some {model : DeviceMap} {path : String} {spec : Spec}
    (hlookup : model.lookup path = some spec) : (path, spec) ∈ model.parameters := by
  obtain ⟨before, after, hsplit, _⟩ := List.lookup_eq_some_iff.mp hlookup
  rw [hsplit]
  simp

/-- What holds of every entry of the map holds of every spec a lookup finds. -/
theorem DeviceMap.of_lookup_eq_some {model : DeviceMap} {path : String} {spec : Spec}
    {P : Spec → Prop} (hall : ∀ entry ∈ model.parameters, P entry.2)
    (hlookup : model.lookup path = some spec) : P spec :=
  hall (path, spec) (mem_of_lookup_eq_some hlookup)

end Tr069d
