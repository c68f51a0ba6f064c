import Tr069d.Daemon.Agreement
import Tr069d.Session.AcsView

/-!
# What the ACS sets is what the daemon runs

The configuration that the daemon reads is a machine of its own to the ACS: an
acknowledged `SetParameterValues` replaces the fields that its batch names by what
the values denote, and nothing else changes it.  Sessions of any kind are runs of
that machine (`config_of_sessions`).

Three fields do not follow their table entry in every state, the retry intervals
and the authentication mode, which `readConfig` reads past the data model; they do
after an acknowledged batch that names them.
-/

namespace Tr069d

open Effects

/-! ## A batch on the configuration -/

/-- What the last value of a batch for a parameter denotes, if there is one. -/
def given {α : Type} (items : List ParameterValue) (path : String) (denotes : String → α)
    (kept : α) : α :=
  match lastValue path items with
  | some raw => denotes raw
  | none => kept

/-- The texts that the engine takes for true. -/
def denotesTrue (raw : String) : Bool :=
  (["1", "true", "yes", "on"].map String.toList).contains (raw.toList.map Char.toLower)

def denotedNumber (raw : String) : Nat :=
  decimalValue raw.toList

/-- The configuration after a batch.  Only the notification throttle has no range, and
a numeral that is too long for it is cut or dropped. -/
def DaemonConfig.afterSet (config : DaemonConfig) (items : List ParameterValue) : DaemonConfig :=
  { config with
    enableCwmp := given items "Device.ManagementServer.EnableCWMP" denotesTrue config.enableCwmp
    acsUrl := given items "Device.ManagementServer.URL" id config.acsUrl
    acsUsername := given items "Device.ManagementServer.Username" id config.acsUsername
    acsPassword := given items "Device.ManagementServer.Password" id config.acsPassword
    periodicEnable := given items "Device.ManagementServer.PeriodicInformEnable" denotesTrue
      config.periodicEnable
    periodicInterval := given items "Device.ManagementServer.PeriodicInformInterval" denotedNumber
      config.periodicInterval
    periodicInformTime := given items "Device.ManagementServer.PeriodicInformTime" id
      config.periodicInformTime
    upgradesManaged := given items "Device.ManagementServer.UpgradesManaged" denotesTrue
      config.upgradesManaged
    defaultActiveNotificationThrottle :=
      given items "Device.ManagementServer.DefaultActiveNotificationThrottle" (stoulOr 0)
        config.defaultActiveNotificationThrottle
    retryMinimumWait := given items "Device.ManagementServer.CWMPRetryMinimumWaitInterval"
      denotedNumber config.retryMinimumWait
    retryMultiplier := given items "Device.ManagementServer.CWMPRetryIntervalMultiplier"
      denotedNumber config.retryMultiplier
    connectionRequest :=
      { config.connectionRequest with
        username := given items "Device.ManagementServer.ConnectionRequestUsername" id
          config.connectionRequest.username
        password := given items "Device.ManagementServer.ConnectionRequestPassword" id
          config.connectionRequest.password
        auth := given items "Device.ManagementServer.ConnectionRequestAuthentication" id
          config.connectionRequest.auth } }

/-! ## What a value is taken for -/

section Values

variable {spec : Spec} {raw value : String}

theorem normalize_boolean (htype : spec.type = .boolean) (h : normalize spec raw = .ok value) :
    value ≠ "" ∧ (value == "true") = denotesTrue raw := by
  have htyped := normalizeType_of_normalize h
  rw [htype] at htyped
  simp only [normalizeType] at htyped
  unfold denotesTrue
  split_ifs at htyped with htrue hfalse
  · obtain rfl : "true" = value := Except.ok.inj htyped
    exact ⟨by decide, (List.contains_iff_mem.mpr htrue).symm⟩
  · obtain rfl : "false" = value := Except.ok.inj htyped
    have hnot := mt List.contains_iff_mem.mp htrue
    exact ⟨by decide, (Bool.eq_false_iff.mpr hnot).symm⟩

theorem normalize_unsignedInt (htype : spec.type = .unsignedInt)
    (h : normalize spec raw = .ok value) : value = raw ∧ isDecimal raw.toList = true := by
  have htyped := normalizeType_of_normalize h
  rw [htype] at htyped
  simp only [normalizeType] at htyped
  split_ifs at htyped with hdecimal
  exact ⟨(Except.ok.inj htyped).symm, hdecimal⟩

theorem outsideRange_of_normalize (h : normalize spec raw = .ok value) :
    outsideRange spec value = false := by
  unfold normalize at h
  split_ifs at h
  split at h
  · cases h
  · split_ifs at h with houtside
    cases h
    exact Bool.eq_false_iff.mpr houtside

theorem nonempty_of_isDecimal (h : isDecimal raw.toList = true) : raw ≠ "" := by
  rintro rfl
  cases h

theorem nonempty_of_dateTime (htype : spec.type = .dateTime)
    (h : normalize spec raw = .ok value) : raw ≠ "" := by
  have htyped := normalizeType_of_normalize h
  rw [htype] at htyped
  rintro rfl
  have hpattern : matchesPrefix dateTimePattern "".toList = false := rfl
  rw [normalizeType, hpattern, if_neg Bool.false_ne_true] at htyped
  cases htyped

/-- A number that is taken fits its range. -/
theorem bounds_of_normalize {range : ValueRange} (htype : spec.type = .unsignedInt)
    (hrange : spec.range = some [range]) (h : normalize spec raw = .ok value) :
    range.min ≤ denotedNumber raw ∧ denotedNumber raw ≤ range.max := by
  obtain ⟨rfl, hdecimal⟩ := normalize_unsignedInt htype h
  have hinside := outsideRange_of_normalize h
  simpa [denotedNumber, outsideRange, hrange, tonumber, hdecimal] using hinside

/-- A text that is taken is kept as it is. -/
theorem normalize_text (htype : spec.type ≠ .boolean) (h : normalize spec raw = .ok value) :
    value = raw :=
  eq_of_normalizeType htype (normalizeType_of_normalize h)

end Values

/-! ## What a batch does to an option -/

section Options

variable {store store' : Store} {items : List ParameterValue} {parameterKey : String}
  {written : List StagedValue}

/-- An option holds the last value that is given for its parameter, in its normalized
form, or what it held before. -/
theorem captured_after (hcheck : Engine.checkAll deviceMap items parameterKey = .ok written)
    (htook : Took written (captured store) (captured store')) {path : String} {spec : Spec}
    {location : UciLocation} (hlookup : deviceMap.lookup path = some spec)
    (hmapped : spec.uci = some location) (hpath : path ≠ Engine.parameterKeyPath) :
    match lastValue path items with
    | some raw => ∃ value, normalize spec raw = .ok value ∧
        captured store' (uciKey location) = some value
    | none => captured store' (uciKey location) = captured store (uciKey location) := by
  obtain ⟨staged, normalizedKey, rfl, hstaged, hkeyLookup, -⟩ := checkAll_eq_ok hcheck
  have hother : uciKey location ≠ normalizedKey.key := fun hkey => hpath
    (name_eq_of_uciKey_eq hlookup hkeyLookup hmapped normalizedKey.mapped hkey)
  have hlast := applyWrites_staged hstaged hlookup hmapped (captured store)
  have hraw : captured store' (uciKey location) =
      applyWrites staged (captured store) (uciKey location) := by
    rw [htook, applyWrites, List.foldl_append]
    exact Function.update_of_ne hother ..
  rw [hraw]
  exact hlast

/-- An option that no parameter lives in is left alone. -/
theorem captured_other (hcheck : Engine.checkAll deviceMap items parameterKey = .ok written)
    (htook : Took written (captured store) (captured store')) {key : String}
    (hkey : ∀ entry ∈ deviceMap.parameters, entry.2.uci.map uciKey ≠ some key) :
    captured store' key = captured store key := by
  rw [htook]
  apply applyWrites_of_not_mem
  intro hmem
  obtain ⟨item, hitem, hsame⟩ := List.mem_map.mp hmem
  obtain ⟨path, hlookup⟩ := lookup_of_checkAll hcheck hitem
  apply hkey _ (DeviceMap.mem_of_lookup_eq_some hlookup)
  rw [item.mapped, Option.map_some, ← hsame]
  rfl

section Fields

variable (hcheck : Engine.checkAll deviceMap items parameterKey = .ok written)
  (htook : Took written (captured store) (captured store')) {path : String} {spec : Spec}
  {location : UciLocation} (hlookup : deviceMap.lookup path = some spec)
  (hmapped : spec.uci = some location) (hpath : path ≠ Engine.parameterKeyPath)

include hcheck htook hlookup hmapped hpath

/-- The text that the data model reports for an option of a batch is the normalized one. -/
theorem internalText_after
    (hshown : ∀ raw value, normalize spec raw = .ok value → value = "" →
      spec.default.getD "" = "") :
    match lastValue path items with
    | some raw => ∃ value, normalize spec raw = .ok value ∧ internalText store' path = value
    | none => internalText store' path = internalText store path := by
  have hafter := captured_after hcheck htook hlookup hmapped hpath
  rw [internalText_of_lookup hlookup, internalText_of_lookup hlookup,
    reportedValue_of_mapped hmapped, reportedValue_of_mapped hmapped]
  cases hlast : lastValue path items with
  | none =>
      rw [hlast] at hafter
      exact congrArg _ hafter
  | some raw =>
      rw [hlast] at hafter
      obtain ⟨value, hvalue, hcaptured⟩ := hafter
      refine ⟨value, hvalue, ?_⟩
      rw [hcaptured, valueOrDefault_some]
      split_ifs with hempty
      · rw [hshown raw value hvalue (eq_of_beq hempty), eq_of_beq hempty]
      · rfl

theorem boolean_after (htype : spec.type = .boolean) :
    (internalText store' path == "true") =
      given items path denotesTrue (internalText store path == "true") := by
  have hshown : ∀ raw value, normalize spec raw = .ok value → value = "" →
      spec.default.getD "" = "" :=
    fun raw value hvalue hempty => absurd hempty (normalize_boolean htype hvalue).1
  have hafter := internalText_after hcheck htook hlookup hmapped hpath hshown
  unfold given
  cases hlast : lastValue path items with
  | none =>
      rw [hlast] at hafter
      exact congrArg (· == "true") hafter
  | some raw =>
      rw [hlast] at hafter
      obtain ⟨value, hvalue, htext⟩ := hafter
      rw [htext]
      exact (normalize_boolean htype hvalue).2

/-- A text is the given one. -/
theorem text_after (htype : spec.type ≠ .boolean)
    (hshown : ∀ value, normalize spec "" = .ok value → spec.default.getD "" = "") :
    internalText store' path = given items path id (internalText store path) := by
  have hshown' : ∀ raw value, normalize spec raw = .ok value → value = "" →
      spec.default.getD "" = "" := by
    intro raw value hvalue hempty
    obtain rfl := normalize_text htype hvalue
    subst hempty
    exact hshown _ hvalue
  have hafter := internalText_after hcheck htook hlookup hmapped hpath hshown'
  unfold given
  cases hlast : lastValue path items with
  | none =>
      rw [hlast] at hafter
      exact hafter
  | some raw =>
      rw [hlast] at hafter
      obtain ⟨value, hvalue, htext⟩ := hafter
      rw [htext]
      exact normalize_text htype hvalue

/-- A number is the given one, as `stoul` reads it. -/
theorem stoulOr_after (htype : spec.type = .unsignedInt) (fallback : Nat) :
    stoulOr fallback (internalText store' path) =
      given items path (stoulOr fallback) (stoulOr fallback (internalText store path)) := by
  have hboolean : spec.type ≠ .boolean := by
    rw [htype]
    decide
  have hshown : ∀ value, normalize spec "" = .ok value → spec.default.getD "" = "" :=
    fun value hvalue => absurd rfl (nonempty_of_isDecimal (normalize_unsignedInt htype hvalue).2)
  rw [text_after hcheck htook hlookup hmapped hpath hboolean hshown]
  unfold given
  cases lastValue path items <;> rfl

/-- An option that is read past the data model. -/
theorem captured_text_after (htype : spec.type ≠ .boolean) (fallback : String) :
    (captured store' (uciKey location)).getD fallback =
      given items path id ((captured store (uciKey location)).getD fallback) := by
  have hafter := captured_after hcheck htook hlookup hmapped hpath
  unfold given
  cases hlast : lastValue path items with
  | none =>
      rw [hlast] at hafter
      exact congrArg (·.getD fallback) hafter
  | some raw =>
      rw [hlast] at hafter
      obtain ⟨value, hvalue, hcaptured⟩ := hafter
      rw [hcaptured]
      exact normalize_text htype hvalue

section Ranges

variable {range : ValueRange} (htype : spec.type = .unsignedInt)
  (hrange : spec.range = some [range]) (hfits : range.max < 2 ^ 32)

include htype hrange hfits

/-- A number that has a range is the given one, and the lower bound of `readConfig`
does nothing to it. -/
theorem ranged_after {minimum fallback : Nat} (hminimum : range.min = minimum) :
    max minimum (stoulOr fallback (internalText store' path)) = given items path denotedNumber
      (max minimum (stoulOr fallback (internalText store path))) := by
  have hoption := captured_after hcheck htook hlookup hmapped hpath
  rw [stoulOr_after hcheck htook hlookup hmapped hpath htype]
  unfold given
  cases hlast : lastValue path items with
  | none => rfl
  | some raw =>
      rw [hlast] at hoption
      obtain ⟨value, hvalue, -⟩ := hoption
      obtain ⟨hmin, hmax⟩ := bounds_of_normalize htype hrange hvalue
      have hdecimal := (normalize_unsignedInt htype hvalue).2
      have hsmall : decimalValue raw.toList < 2 ^ 32 := lt_of_le_of_lt hmax hfits
      have hread : stoulOr fallback raw = denotedNumber raw :=
        stoulOr_eq (stoul_of_isDecimal hdecimal (by omega)) hsmall
      dsimp only
      rw [hread]
      omega

theorem unsigned_after {minimum fallback : Nat} (hminimum : range.min = minimum) :
    max minimum (UciAdapter.unsignedOf (captured store' (uciKey location)) fallback) =
      given items path denotedNumber
        (max minimum (UciAdapter.unsignedOf (captured store (uciKey location)) fallback)) := by
  have hoption := captured_after hcheck htook hlookup hmapped hpath
  unfold given
  cases hlast : lastValue path items with
  | none =>
      rw [hlast] at hoption
      rw [show captured store' (uciKey location) = _ from hoption]
  | some raw =>
      rw [hlast] at hoption
      obtain ⟨value, hvalue, hcaptured⟩ := hoption
      obtain ⟨hmin, hmax⟩ := bounds_of_normalize htype hrange hvalue
      obtain ⟨rfl, hdecimal⟩ := normalize_unsignedInt htype hvalue
      have hsmall : decimalValue value.toList < 2 ^ 32 := lt_of_le_of_lt hmax hfits
      have hstoul := stoul_of_isDecimal hdecimal (by omega)
      have hread : UciAdapter.unsignedOf (some value) fallback = denotedNumber value := by
        simp only [UciAdapter.unsignedOf, hstoul, if_true]
        exact toUnsigned_of_lt hsmall
      dsimp only
      rw [hcaptured, hread]
      omega

end Ranges

end Fields

/-- The options that `readConfig` reads and no parameter lives in. -/
def internalKeys : List String :=
  ["tr69.settings.ssl_ca_cert_path", "tr69.settings.ssl_cn_verification",
   "tr69.settings.mock_mode", "tr69.settings.bootstrap_done",
   "tr69.settings.pending_reboot_event", "tr69.conn_request.enable", "tr69.settings.bind",
   "tr69.settings.port"]

theorem internalKeys_unmapped : ∀ key ∈ internalKeys, ∀ entry ∈ deviceMap.parameters,
    entry.2.uci.map uciKey ≠ some key := by
  decide

theorem uciKey_minimum :
    uciKey ⟨"tr69", "mgmt_srv", "retry_minimum_wait"⟩ = "tr69.mgmt_srv.retry_minimum_wait" := by
  decide

theorem uciKey_multiplier :
    uciKey ⟨"tr69", "mgmt_srv", "retry_multiplier"⟩ = "tr69.mgmt_srv.retry_multiplier" := by
  decide

theorem uciKey_auth : uciKey ⟨"tr69", "conn_request", "auth"⟩ = "tr69.conn_request.auth" := by
  decide

/-- The configuration that is read after a batch that was taken. -/
theorem configFrom_afterSet
    (hcheck : Engine.checkAll deviceMap items parameterKey = .ok written)
    (htook : Took written (captured store) (captured store')) (allowMockReboot : Bool)
    (target : DaemonConfig) :
    configFrom store' allowMockReboot target =
      (configFrom store allowMockReboot target).afterSet items := by
  have hunset : ∀ {spec : Spec} (value : String), spec.default = none →
      normalize spec "" = .ok value → spec.default.getD "" = "" := by
    intro spec value hnone _
    rw [hnone]
    rfl
  -- field by field, first those that are read through the data model
  have henable : (internalText store' "Device.ManagementServer.EnableCWMP" == "true") = _ :=
    boolean_after hcheck htook rfl rfl (by decide) rfl
  have hperiodic :
      (internalText store' "Device.ManagementServer.PeriodicInformEnable" == "true") = _ :=
    boolean_after hcheck htook rfl rfl (by decide) rfl
  have hupgrades : (internalText store' "Device.ManagementServer.UpgradesManaged" == "true") = _ :=
    boolean_after hcheck htook rfl rfl (by decide) rfl
  have hurl : internalText store' "Device.ManagementServer.URL" = _ :=
    text_after hcheck htook rfl rfl (by decide) (by decide) fun value => hunset value rfl
  have husername : internalText store' "Device.ManagementServer.Username" = _ :=
    text_after hcheck htook rfl rfl (by decide) (by decide) fun value => hunset value rfl
  have hpassword : internalText store' "Device.ManagementServer.Password" = _ :=
    text_after hcheck htook rfl rfl (by decide) (by decide) fun value => hunset value rfl
  have hrequestUsername :
      internalText store' "Device.ManagementServer.ConnectionRequestUsername" = _ :=
    text_after hcheck htook rfl rfl (by decide) (by decide) fun value => hunset value rfl
  have hrequestPassword :
      internalText store' "Device.ManagementServer.ConnectionRequestPassword" = _ :=
    text_after hcheck htook rfl rfl (by decide) (by decide) fun value => hunset value rfl
  have htime : internalText store' "Device.ManagementServer.PeriodicInformTime" = _ :=
    text_after hcheck htook rfl rfl (by decide) (by decide)
      fun value hvalue => absurd rfl (nonempty_of_dateTime rfl hvalue)
  have hinterval :
      max 1 (stoulOr 300 (internalText store' "Device.ManagementServer.PeriodicInformInterval")) =
        _ :=
    ranged_after hcheck htook rfl rfl (by decide) rfl rfl (by decide) rfl
  have hthrottle : stoulOr 0
      (internalText store' "Device.ManagementServer.DefaultActiveNotificationThrottle") = _ :=
    stoulOr_after hcheck htook rfl rfl (by decide) rfl 0
  -- then the three that are read past it
  have hminimum : max 1 (UciAdapter.unsignedOf
      (captured store' (uciKey ⟨"tr69", "mgmt_srv", "retry_minimum_wait"⟩)) 5) = _ :=
    unsigned_after hcheck htook
      (show deviceMap.lookup "Device.ManagementServer.CWMPRetryMinimumWaitInterval" = _ from rfl)
      rfl (by decide) rfl rfl (by decide) rfl
  have hmultiplier : max 1000 (UciAdapter.unsignedOf
      (captured store' (uciKey ⟨"tr69", "mgmt_srv", "retry_multiplier"⟩)) 2000) = _ :=
    unsigned_after hcheck htook
      (show deviceMap.lookup "Device.ManagementServer.CWMPRetryIntervalMultiplier" = _ from rfl)
      rfl (by decide) rfl rfl (by decide) rfl
  have hauth : (captured store' (uciKey ⟨"tr69", "conn_request", "auth"⟩)).getD "Digest" = _ :=
    captured_text_after hcheck htook
      (show deviceMap.lookup "Device.ManagementServer.ConnectionRequestAuthentication" = _ from rfl)
      rfl (by decide) (by decide) "Digest"
  -- no parameter is kept in the other options
  have hother : ∀ key ∈ internalKeys, captured store' key = captured store key :=
    fun key hkey => captured_other hcheck htook (internalKeys_unmapped key hkey)
  simp only [uciKey_minimum, uciKey_multiplier, uciKey_auth] at hminimum hmultiplier hauth
  simp only [internalKeys, List.forall_mem_cons] at hother
  obtain ⟨hca, hverify, hmock, hbootstrap, hpending, hserver, hbind, hport, -⟩ := hother
  simp only [configFrom, DaemonConfig.afterSet, henable, hperiodic, hupgrades, hurl, husername,
    hpassword, hrequestUsername, hrequestPassword, htime, hinterval, hthrottle, hminimum,
    hmultiplier, hauth, hca, hverify, hmock, hbootstrap, hpending, hserver, hbind, hport]

end Options

/-! ## Sessions -/

/-- The configuration as the ACS moves it. -/
inductive DaemonConfig.Step : DaemonConfig → AcsCall → DaemonConfig → Prop
  | acknowledged {config : DaemonConfig} {rpc : ParsedRpc}
      (hmethod : rpc.method = "SetParameterValues") :
      Step config
        ⟨rpc, some (.answer (RpcHandler.answerId rpc) "SetParameterValuesResponse")⟩
        (config.afterSet rpc.parameterValues)
  | refused {config : DaemonConfig} {rpc : ParsedRpc}
      (hmethod : rpc.method = "SetParameterValues") :
      Step config ⟨rpc, some (.answer (RpcHandler.answerId rpc) "Fault")⟩ config
  | other {config : DaemonConfig} {rpc : ParsedRpc} {reply : Option AcsReply}
      (hmethod : rpc.method ≠ "SetParameterValues") : Step config ⟨rpc, reply⟩ config

/-- The daemon would read this configuration, and every value can be read back. -/
structure Configures (allowMockReboot : Bool) (target config : DaemonConfig) (store : Store) :
    Prop where
  config : configFrom store allowMockReboot target = config
  clean : ∀ key value, store.view key = some value → NoTrailingBreak value

theorem Configures.of_view {allowMockReboot : Bool} {target config : DaemonConfig}
    {store store' : Store} (h : Configures allowMockReboot target config store)
    (hview : store'.view = store.view) : Configures allowMockReboot target config store' := by
  have hcaptured : captured store' = captured store := by
    funext key
    rw [captured, captured, hview]
  refine ⟨?_, hview ▸ h.clean⟩
  rw [← h.config]
  unfold configFrom internalText reportedValue
  rw [hcaptured]

variable {σ : Type} {handler : (c : SystemCall) → σ → system.Answer c × σ}
  {log : LogLevel → String → StateM σ Unit} {isoTimeNow : StateM σ String} {store : σ → Store}
  {mayFail : SystemCall → Prop}

theorem configures_of_handle (hsystem : OnStore handler log isoTimeNow store mayFail)
    (engine : CpeEngine) (allowMockReboot : Bool) (target : DaemonConfig) :
    Simulates engine DaemonConfig.Step (Configures allowMockReboot target)
      (LuaTransformer.platform handler log isoTimeNow) store := by
  intro rpc place config hid hbatch hplace handled
  by_cases hset : rpc.method = "SetParameterValues"
  · rcases cases_handle hsystem hset hid (hbatch hset) hplace.1 hplace.2.clean with
      ⟨hreply, written, hcheck, hreads, hengine, hview⟩ | ⟨hreply, hengine, hview⟩
    · rw [hreply]
      refine ⟨_, .acknowledged hset, hengine, ?_, ?_⟩
      · rw [configFrom_afterSet hcheck (took_of_view hview hreads), hplace.2.config]
      · exact fun _ _ => clean_after_writes hplace.2.clean hview hreads
    · rw [hreply]
      exact ⟨config, .refused hset, hengine, hplace.2.of_view hview⟩
  · exact ⟨config, .other hset, keeps_handle hsystem hset place hplace⟩

/-- The configuration that the daemon reads, if the commands do not fail. -/
def configRead (allowMockReboot : Bool) (target : DaemonConfig) (transformer : LuaTransformer)
    (store : Store) : Option DaemonConfig :=
  ((readConfig transformer allowMockReboot target).run uciHandler store).1.map Prod.fst

theorem configRead_eq {engine : CpeEngine} {place : LuaTransformer × σ} {allowMockReboot : Bool}
    {target config : DaemonConfig}
    (h : AtStore store engine (Configures allowMockReboot target config) place) :
    configRead allowMockReboot target place.1 (store place.2) = some config := by
  obtain ⟨⟨transformer, lastError⟩, s⟩ := place
  obtain ⟨rfl, hconfigures⟩ := h
  unfold configRead
  rw [run_readConfig engine.toUciEngine]
  exact congrArg some hconfigures.config

/-- Whatever the ACS asks for in any number of sessions, and whichever commands fail,
the configuration that the daemon reads afterwards is the one it read before, with
the acknowledged batches put into it one after the other. -/
theorem config_of_sessions (hsystem : OnStore handler log isoTimeNow store mayFail)
    (engine : CpeEngine) (lastError : String) (xmlRead : XmlReader)
    (sessions : List (SessionPurpose × List HttpResponse)) (s : σ)
    (hclean : ∀ key value, (store s).view key = some value → NoTrailingBreak value)
    (allowMockReboot : Bool) (target : DaemonConfig) {calls : List AcsCall} :
    let result := conversations (LuaTransformer.platform handler log isoTimeNow) xmlRead sessions
      (⟨some engine.toEngine, lastError⟩, s)
    List.Forall₂ (Understood xmlRead) result.1 calls →
      ∃ before after,
        configRead allowMockReboot target ⟨some engine.toEngine, lastError⟩ (store s) =
          some before ∧
        Steps DaemonConfig.Step before calls after ∧
        configRead allowMockReboot target result.2.1 (store result.2.2) = some after := by
  intro result hcalls
  let before := configFrom (store s) allowMockReboot target
  have hstart : AtStore store engine (Configures allowMockReboot target before)
      (⟨some engine.toEngine, lastError⟩, s) := ⟨rfl, rfl, hclean⟩
  obtain ⟨after, hsteps, hafter⟩ := steps_of_conversations hsystem
    (configures_of_handle hsystem engine allowMockReboot target) hstart hcalls
  exact ⟨before, after, configRead_eq hstart, hsteps, configRead_eq hafter⟩

/-- The ACS sets the interval of the periodic Inform, and the daemon waits that long. -/
theorem interval_configured : ∃ calls before after, calls.map AcsCall.rpc =
    [intervalSet, intervalGet] ∧ Steps DaemonConfig.Step before calls after ∧
      before.periodicInterval = 300 ∧ after.periodicInterval = 120 := by
  obtain ⟨setReply, getReply, hunderstood⟩ := understood_interval
  obtain ⟨before, after, hbefore, hsteps, hafter⟩ := config_of_sessions onStore_interval
    intervalEngine "" intervalReader [(.events ["1 BOOT"], intervalScript)] emptyStore
    (fun _ _ => nofun) false {} hunderstood
  have hread : (configRead false {} ⟨some intervalEngine.toEngine, ""⟩ emptyStore).map
      DaemonConfig.periodicInterval = some 300 := by
    decide +kernel
  have hread' : (configRead false {} intervalConversation.2.1 intervalConversation.2.2).map
      DaemonConfig.periodicInterval = some 120 := by
    decide +kernel
  have hbefore' : configRead false {} ⟨some intervalEngine.toEngine, ""⟩ emptyStore = some before :=
    hbefore
  have hafter' : configRead false {} intervalConversation.2.1 intervalConversation.2.2 =
      some after := hafter
  rw [hbefore'] at hread
  rw [hafter'] at hread'
  exact ⟨_, before, after, rfl, hsteps, Option.some.inj hread, Option.some.inj hread'⟩

end Tr069d
