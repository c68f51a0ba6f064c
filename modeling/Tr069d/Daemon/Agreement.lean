import Tr069d.Daemon.Reading

/-!
# What the ACS reads is what the daemon runs

Nine parameters of the map are mirrored in the configuration of the daemon.
Where the text the engine reports is a legal value, the field denotes the same
value, with two exceptions: a boolean option that holds `1` is reported as a
legal boolean but taken for false, and a missing or empty authentication mode
is reported as `None` but taken for `Digest` or for an unknown mode.
`agrees_iff` says that these are the only exceptions.
-/

namespace Tr069d

open Effects

/-- What a parameter value denotes. -/
inductive Value
  | boolean (value : Bool)
  | number (value : Nat)
  | text (value : String)
  deriving DecidableEq, Repr

/-- The value of a text that is legal for the type.  No mirrored parameter is an
`int` or a `dateTime`. -/
def typedValue (type : ParameterType) (text : String) : Option Value :=
  match type with
  | .boolean =>
      if text ∈ ["1", "true"] then some (.boolean true)
      else if text ∈ ["0", "false"] then some (.boolean false)
      else none
  | .unsignedInt =>
      if isDecimal text.toList ∧ decimalValue text.toList < 2 ^ 32 then
        some (.number (decimalValue text.toList))
      else none
  | .string => some (.text text)
  | .int | .dateTime => none

/-- The value of a text that is legal for the type, the range and the enumeration. -/
def legalValue (spec : Spec) (text : String) : Option Value :=
  if outsideRange spec text || outsideEnumeration spec text then none
  else typedValue spec.type text

/-- The parameters that the configuration mirrors. -/
inductive Setting
  | enableCwmp
  | periodicInformEnable
  | periodicInformInterval
  | upgradesManaged
  | defaultActiveNotificationThrottle
  | retryMinimumWaitInterval
  | retryIntervalMultiplier
  | connectionRequestUsername
  | connectionRequestAuthentication
  deriving DecidableEq, Repr

def Setting.path : Setting → String
  | .enableCwmp => "Device.ManagementServer.EnableCWMP"
  | .periodicInformEnable => "Device.ManagementServer.PeriodicInformEnable"
  | .periodicInformInterval => "Device.ManagementServer.PeriodicInformInterval"
  | .upgradesManaged => "Device.ManagementServer.UpgradesManaged"
  | .defaultActiveNotificationThrottle =>
      "Device.ManagementServer.DefaultActiveNotificationThrottle"
  | .retryMinimumWaitInterval => "Device.ManagementServer.CWMPRetryMinimumWaitInterval"
  | .retryIntervalMultiplier => "Device.ManagementServer.CWMPRetryIntervalMultiplier"
  | .connectionRequestUsername => "Device.ManagementServer.ConnectionRequestUsername"
  | .connectionRequestAuthentication => "Device.ManagementServer.ConnectionRequestAuthentication"

/-- The field that mirrors a parameter. -/
def Setting.field (config : DaemonConfig) : Setting → Value
  | .enableCwmp => .boolean config.enableCwmp
  | .periodicInformEnable => .boolean config.periodicEnable
  | .periodicInformInterval => .number config.periodicInterval
  | .upgradesManaged => .boolean config.upgradesManaged
  | .defaultActiveNotificationThrottle => .number config.defaultActiveNotificationThrottle
  | .retryMinimumWaitInterval => .number config.retryMinimumWait
  | .retryIntervalMultiplier => .number config.retryMultiplier
  | .connectionRequestUsername => .text config.connectionRequest.username
  | .connectionRequestAuthentication => .text config.connectionRequest.auth

/-- The mirrored booleans, with their UCI options. -/
inductive BooleanSetting : Setting → String → Prop
  | enableCwmp : BooleanSetting .enableCwmp "tr69.mgmt_srv.enable"
  | periodicInformEnable : BooleanSetting .periodicInformEnable "tr69.periodic_inform.enable"
  | upgradesManaged : BooleanSetting .upgradesManaged "tr69.mgmt_srv.upgrades_managed"

/-- The mirrored numbers: the smallest legal one, the UCI option and the default. -/
inductive NumberSetting : Setting → Nat → String → String → Prop
  | periodicInformInterval :
      NumberSetting .periodicInformInterval 1 "tr69.periodic_inform.interval" "300"
  | defaultActiveNotificationThrottle :
      NumberSetting .defaultActiveNotificationThrottle 0
        "tr69.mgmt_srv.defaultactivenotificationthrottle" "0"
  | retryMinimumWaitInterval :
      NumberSetting .retryMinimumWaitInterval 1 "tr69.mgmt_srv.retry_minimum_wait" "5"
  | retryIntervalMultiplier :
      NumberSetting .retryIntervalMultiplier 1000 "tr69.mgmt_srv.retry_multiplier" "2000"

/-- Whenever the engine reports a legal value of a mirrored parameter, the
configuration that the daemon reads holds that value. -/
def Agrees (engine : UciEngine) (lastError : String) (allowMockReboot : Bool)
    (target : DaemonConfig) (store : Store) : Prop :=
  ∀ (setting : Setting) (spec : Spec) (reported : ParameterValue) (value : Value)
    (config : DaemonConfig) (level : LogLevel),
    deviceMap.lookup setting.path = some spec →
    ((engine.getParameterValues [setting.path] false).run uciHandler store).1.1 = [reported] →
    legalValue spec reported.value = some value →
    ((readConfig ⟨some engine.toEngine, lastError⟩ allowMockReboot target).run
      uciHandler store).1 = some (config, level) →
    setting.field config = value

/-! ## One type at a time -/

theorem legalValue_boolean {spec : Spec} (htype : spec.type = .boolean) {text : String}
    {value : Value} (h : legalValue spec text = some value) (hone : text ≠ "1") :
    .boolean (text == "true") = value := by
  unfold legalValue at h
  split_ifs at h
  simp only [htype, typedValue] at h
  split_ifs at h with htrue hfalse
  · have htext : text = "true" := by simpa [hone] using htrue
    simpa [htext] using h
  · have htext : text = "0" ∨ text = "false" := by simpa using hfalse
    rcases htext with rfl | rfl <;> simpa using h

/-- A legal number is what `std::stoul` reads, and it is in the range. -/
theorem legalValue_unsignedInt {spec : Spec} (htype : spec.type = .unsignedInt) {text : String}
    {value : Value} (h : legalValue spec text = some value) :
    ∃ number, value = .number number ∧ stoul text = some (number, text.length) ∧
      number < 2 ^ 32 ∧ ∀ range, spec.range = some [range] →
        range.min ≤ number ∧ number ≤ range.max := by
  unfold legalValue at h
  split_ifs at h with houtside
  simp only [htype, typedValue] at h
  split_ifs at h with hlegal
  refine ⟨_, (Option.some.inj h).symm, stoul_of_isDecimal hlegal.1 (by omega), hlegal.2, ?_⟩
  intro range hrange
  simp only [Bool.or_eq_true, not_or, Bool.not_eq_true] at houtside
  simpa [outsideRange, hrange, tonumber, hlegal.1] using houtside.1

theorem stoulOr_eq {fallback number consumed : Nat} {text : String}
    (h : stoul text = some (number, consumed)) (hfits : number < 2 ^ 32) :
    stoulOr fallback text = number := by
  simp [stoulOr, h, toUnsigned_of_lt hfits]

/-- `getUnsigned` reads what the engine reports, if its fallback is the default. -/
theorem unsignedOf_eq {spec : Spec} {default : String} (hdefault : spec.default = some default)
    {fallback : Nat} (hfallback : stoul default = some (fallback, default.length))
    {value : Option String} {number : Nat}
    (h : stoul (valueOrDefault spec value) =
      some (number, (valueOrDefault spec value).length))
    (hfits : number < 2 ^ 32) : UciAdapter.unsignedOf value fallback = number := by
  have hnone : stoul "" = none := by decide
  cases value with
  | none =>
      simp only [valueOrDefault, hdefault, Option.getD_some, hfallback] at h
      simp only [UciAdapter.unsignedOf]
      exact congrArg Prod.fst (Option.some.inj h)
  | some value =>
      by_cases hempty : value = ""
      · simp only [valueOrDefault, hempty, beq_self_eq_true, if_true, hdefault,
          Option.getD_some, hfallback] at h
        simp only [UciAdapter.unsignedOf, hempty, hnone]
        exact congrArg Prod.fst (Option.some.inj h)
      · simp only [valueOrDefault, beq_iff_eq, hempty, if_false] at h
        simp [UciAdapter.unsignedOf, h, toUnsigned_of_lt hfits]

/-! ## One parameter at a time -/

section Parameters

variable {store : Store} {path : String} {spec : Spec} {value : Value}

theorem internalText_of_lookup (hlookup : deviceMap.lookup path = some spec) :
    internalText store path = reportedValue store spec := by
  simp [internalText, hlookup]

theorem reportedValue_of_mapped {location : UciLocation} (hmapped : spec.uci = some location) :
    reportedValue store spec = valueOrDefault spec (captured store (uciKey location)) := by
  simp [reportedValue, hmapped]

/-- Only an option that holds `1` is reported as `1`. -/
theorem reportedValue_ne_one {location : UciLocation} (hmapped : spec.uci = some location)
    (hdefault : spec.default.getD "" ≠ "1")
    (hone : captured store (uciKey location) ≠ some "1") : reportedValue store spec ≠ "1" := by
  rw [reportedValue_of_mapped hmapped]
  cases hcaptured : captured store (uciKey location) with
  | none => exact hdefault
  | some text =>
      by_cases hempty : text = ""
      · simpa [valueOrDefault, hempty] using hdefault
      · rintro heq
        simp only [valueOrDefault, beq_iff_eq, hempty, if_false] at heq
        exact hone (by rw [hcaptured, heq])

theorem reportedValue_of_captured {location : UciLocation} (hmapped : spec.uci = some location)
    {text : String} (htext : captured store (uciKey location) = some text) (hne : text ≠ "") :
    reportedValue store spec = text := by
  simp [reportedValue_of_mapped hmapped, htext, valueOrDefault, hne]

/-- What the map says of the mirrored parameters. -/
theorem Setting.shown (setting : Setting) :
    ∀ spec, deviceMap.lookup setting.path = some spec →
      spec.getter = none ∧ spec.secret = false := by
  cases setting <;> decide

theorem boolean_agrees {location : UciLocation} (hlookup : deviceMap.lookup path = some spec)
    (htype : spec.type = .boolean) (hmapped : spec.uci = some location)
    (hdefault : spec.default.getD "" ≠ "1")
    (hone : captured store (uciKey location) ≠ some "1")
    (hlegal : legalValue spec (reportedValue store spec) = some value) :
    .boolean (internalText store path == "true") = value := by
  rw [internalText_of_lookup hlookup]
  exact legalValue_boolean htype hlegal (reportedValue_ne_one hmapped hdefault hone)

/-- A boolean option that holds `1` is legal and reads as true. -/
theorem legalValue_one {location : UciLocation} (htype : spec.type = .boolean)
    (henumeration : spec.enumeration = none) (hrange : spec.range = none)
    (hmapped : spec.uci = some location)
    (hone : captured store (uciKey location) = some "1") :
    legalValue spec (reportedValue store spec) = some (.boolean true) := by
  rw [reportedValue_of_captured hmapped hone (by decide)]
  simp [legalValue, outsideRange, outsideEnumeration, hrange, henumeration, typedValue, htype]

end Parameters

/-! ## The exceptions are the only ones -/

variable {engine : UciEngine} {lastError : String} {allowMockReboot : Bool}
  {target : DaemonConfig} {store : Store}

/-- `Agrees`, in terms of what the engine reports and of the configuration that is read. -/
theorem agrees_iff_configFrom : Agrees engine lastError allowMockReboot target store ↔
    ∀ (setting : Setting) spec value, deviceMap.lookup setting.path = some spec →
      legalValue spec (reportedValue store spec) = some value →
      setting.field (configFrom store allowMockReboot target) = value := by
  have hrun := run_readConfig engine store lastError allowMockReboot target
  have hreported : ∀ (setting : Setting) spec, deviceMap.lookup setting.path = some spec →
      ((engine.getParameterValues [setting.path] false).run uciHandler store).1.1 =
        [⟨setting.path, reportedValue store spec, "xsd:" ++ spec.type.name⟩] := by
    intro setting spec hlookup
    obtain ⟨hgetter, hsecret⟩ := setting.shown spec hlookup
    rw [run_getParameterValues engine store hlookup hgetter (Or.inl hsecret)]
  constructor
  · intro hagrees setting spec value hlookup hlegal
    exact hagrees setting spec _ value _ _ hlookup (hreported setting spec hlookup) hlegal
      (by rw [hrun])
  · intro hfields setting spec reported value config level' hlookup hsame hlegal hconfig
    rw [hreported setting spec hlookup, List.cons.injEq] at hsame
    rw [hrun, Option.some.injEq, Prod.mk.injEq] at hconfig
    obtain ⟨rfl, -⟩ := hsame
    obtain ⟨rfl, -⟩ := hconfig
    exact hfields setting spec value hlookup hlegal

/-- The mirrored booleans in the map. -/
theorem boolean_spec {setting : Setting} {key : String} (hsetting : BooleanSetting setting key) :
    ∃ spec location, deviceMap.lookup setting.path = some spec ∧ spec.type = .boolean ∧
      spec.uci = some location ∧ uciKey location = key ∧ spec.default.getD "" ≠ "1" ∧
      spec.enumeration = none ∧ spec.range = none := by
  cases hsetting <;> exact ⟨_, _, rfl, rfl, rfl, by decide, by decide, rfl, rfl⟩

/-- The field of a mirrored boolean compares the text with `true`. -/
theorem boolean_field {setting : Setting} {key : String} (hsetting : BooleanSetting setting key) :
    setting.field (configFrom store allowMockReboot target) =
      .boolean (internalText store setting.path == "true") := by
  cases hsetting <;> rfl

/-- The mirrored numbers in the map. -/
theorem number_spec {setting : Setting} {minimum : Nat} {key default : String}
    (hsetting : NumberSetting setting minimum key default) :
    ∃ spec location, deviceMap.lookup setting.path = some spec ∧ spec.type = .unsignedInt ∧
      spec.uci = some location ∧ uciKey location = key ∧ spec.default = some default ∧
      (minimum = 0 ∨ ∃ range, spec.range = some [range] ∧ range.min = minimum) := by
  cases hsetting with
  | defaultActiveNotificationThrottle =>
      exact ⟨_, _, rfl, rfl, rfl, by decide, rfl, Or.inl rfl⟩
  | periodicInformInterval | retryMinimumWaitInterval | retryIntervalMultiplier =>
      exact ⟨_, _, rfl, rfl, rfl, by decide, rfl, Or.inr ⟨_, rfl, rfl⟩⟩

/-- A legal number that is reported, as `stoul` and `getUnsigned` read it. -/
theorem number_of_legal {setting : Setting} {minimum : Nat} {key default : String}
    (hsetting : NumberSetting setting minimum key default) {spec : Spec} {value : Value}
    (hlookup : deviceMap.lookup setting.path = some spec)
    (hlegal : legalValue spec (reportedValue store spec) = some value) :
    ∃ number, value = .number number ∧ minimum ≤ number ∧
      (∀ fallback, stoulOr fallback (internalText store setting.path) = number) ∧
      ∀ fallback, stoul default = some (fallback, default.length) →
        UciAdapter.unsignedOf (captured store key) fallback = number := by
  obtain ⟨spec', location, hlookup', htype, hmapped, rfl, hdefault, hrange⟩ := number_spec hsetting
  obtain rfl : spec = spec' := Option.some.inj (hlookup.symm.trans hlookup')
  obtain ⟨number, rfl, hstoul, hfits, hrange'⟩ := legalValue_unsignedInt htype hlegal
  refine ⟨number, rfl, ?_, fun fallback => ?_, fun fallback hfallback => ?_⟩
  · rcases hrange with rfl | ⟨range, hsome, rfl⟩
    · exact Nat.zero_le _
    · exact (hrange' range hsome).1
  · rw [internalText_of_lookup hlookup]
    exact stoulOr_eq hstoul hfits
  · rw [reportedValue_of_mapped hmapped] at hstoul
    exact unsignedOf_eq hdefault hfallback hstoul hfits

theorem number_field {setting : Setting} {minimum : Nat} {key default : String}
    (hsetting : NumberSetting setting minimum key default)
    {spec : Spec} {value : Value} (hlookup : deviceMap.lookup setting.path = some spec)
    (hlegal : legalValue spec (reportedValue store spec) = some value) :
    setting.field (configFrom store allowMockReboot target) = value := by
  obtain ⟨number, rfl, hmin, hstoul, hoption⟩ := number_of_legal hsetting hlookup hlegal
  have hmax : max minimum number = number := Nat.max_eq_right hmin
  -- two of the numbers are read through the data model, the others straight from UCI
  cases hsetting with
  | periodicInformInterval => exact congrArg _ ((congrArg (max 1) (hstoul 300)).trans hmax)
  | defaultActiveNotificationThrottle => exact congrArg _ (hstoul 0)
  | retryMinimumWaitInterval =>
      exact congrArg _ ((congrArg (max 1) (hoption 5 (by decide))).trans hmax)
  | retryIntervalMultiplier =>
      exact congrArg _ ((congrArg (max 1000) (hoption 2000 (by decide))).trans hmax)

theorem text_of_legal {spec : Spec} (htype : spec.type = .string) {text : String} {value : Value}
    (h : legalValue spec text = some value) : value = .text text := by
  unfold legalValue at h
  split_ifs at h
  simp only [htype, typedValue, Option.some.injEq] at h
  exact h.symm

/-- The authentication mode in the map. -/
theorem auth_spec : ∃ spec location,
    deviceMap.lookup Setting.connectionRequestAuthentication.path = some spec ∧
      spec.type = .string ∧ spec.uci = some location ∧
      uciKey location = "tr69.conn_request.auth" ∧ spec.default = some "None" ∧
      legalValue spec "None" = some (.text "None") :=
  ⟨_, _, rfl, rfl, rfl, by decide, rfl, by decide⟩

/-- A boolean option that holds `1` is legal and taken for false. -/
theorem boolean_of_agrees {setting : Setting} {key : String}
    (hsetting : BooleanSetting setting key)
    (hagrees : ∀ spec value, deviceMap.lookup setting.path = some spec →
      legalValue spec (reportedValue store spec) = some value →
      setting.field (configFrom store allowMockReboot target) = value) :
    captured store key ≠ some "1" := by
  intro hone
  obtain ⟨spec, location, hlookup, htype, hmapped, rfl, -, henumeration, hrange⟩ :=
    boolean_spec hsetting
  have hfield := hagrees spec _ hlookup (legalValue_one htype henumeration hrange hmapped hone)
  rw [boolean_field hsetting, internalText_of_lookup hlookup,
    reportedValue_of_captured hmapped hone (by decide)] at hfield
  exact absurd hfield (by decide)

/-- Without an authentication mode the two sides read a different default. -/
theorem auth_of_agrees
    (hagrees : ∀ spec value,
      deviceMap.lookup Setting.connectionRequestAuthentication.path = some spec →
      legalValue spec (reportedValue store spec) = some value →
      Setting.connectionRequestAuthentication.field
        (configFrom store allowMockReboot target) = value) :
    ∃ auth, captured store "tr69.conn_request.auth" = some auth ∧ auth ≠ "" := by
  obtain ⟨spec, location, hlookup, _, hmapped, hkey, hdefault, hlegal⟩ := auth_spec
  have hfield : reportedValue store spec = "None" →
      (captured store "tr69.conn_request.auth").getD "Digest" = "None" := by
    intro hreported
    exact Value.text.inj (hagrees spec _ hlookup (hreported ▸ hlegal))
  rw [reportedValue_of_mapped hmapped, hkey] at hfield
  cases hcaptured : captured store "tr69.conn_request.auth" with
  | none =>
      rw [hcaptured] at hfield
      exact absurd (hfield (by simp [valueOrDefault, hdefault])) (by decide)
  | some auth =>
      refine ⟨auth, rfl, ?_⟩
      rintro rfl
      rw [hcaptured] at hfield
      exact absurd (hfield (by simp [valueOrDefault, hdefault])) (by decide)

/-- The agreement holds exactly when no mirrored boolean option holds `1` and
the authentication mode is there and not empty. -/
theorem agrees_iff : Agrees engine lastError allowMockReboot target store ↔
    (∀ setting key, BooleanSetting setting key → captured store key ≠ some "1") ∧
      ∃ auth, captured store "tr69.conn_request.auth" = some auth ∧ auth ≠ "" := by
  rw [agrees_iff_configFrom]
  constructor
  · intro hagrees
    exact ⟨fun setting key hsetting => boolean_of_agrees hsetting (hagrees setting),
      auth_of_agrees (hagrees _)⟩
  · rintro ⟨hbooleans, auth, hauth, hne⟩ setting spec value hlookup hlegal
    -- the three options that are mirrored as booleans agree where they do not hold `1`
    have hboolean : ∀ key, BooleanSetting setting key →
        setting.field (configFrom store allowMockReboot target) = value := by
      intro key hsetting
      obtain ⟨spec', location, hlookup', htype, hmapped, rfl, hdefault, -⟩ := boolean_spec hsetting
      obtain rfl : spec = spec' := Option.some.inj (hlookup.symm.trans hlookup')
      rw [boolean_field hsetting]
      exact boolean_agrees hlookup htype hmapped hdefault (hbooleans _ _ hsetting) hlegal
    cases setting with
    | enableCwmp => exact hboolean _ .enableCwmp
    | periodicInformEnable => exact hboolean _ .periodicInformEnable
    | upgradesManaged => exact hboolean _ .upgradesManaged
    | periodicInformInterval => exact number_field .periodicInformInterval hlookup hlegal
    | defaultActiveNotificationThrottle =>
        exact number_field .defaultActiveNotificationThrottle hlookup hlegal
    | retryMinimumWaitInterval =>
        exact number_field .retryMinimumWaitInterval hlookup hlegal
    | retryIntervalMultiplier => exact number_field .retryIntervalMultiplier hlookup hlegal
    | connectionRequestUsername =>
        have htype : ∀ spec, deviceMap.lookup Setting.connectionRequestUsername.path = some spec →
            spec.type = .string := by decide
        rw [text_of_legal (htype spec hlookup) hlegal, ← internalText_of_lookup hlookup]
        rfl
    -- the mode is read past the data model, which knows its default
    | connectionRequestAuthentication =>
        obtain ⟨spec', location, hlookup', htype, hmapped, hkey, -, -⟩ := auth_spec
        obtain rfl : spec = spec' := Option.some.inj (hlookup.symm.trans hlookup')
        rw [text_of_legal htype hlegal,
          reportedValue_of_captured hmapped (by rw [hkey]; exact hauth) hne]
        exact congrArg (fun read => Value.text (read.getD "Digest")) hauth

/-- A store in which the administrator switched the client on with `1`. -/
theorem not_agrees_enable_one : ¬ Agrees plainEngine "" false {}
    (.ofCommitted fun key => if key = "tr69.mgmt_srv.enable" then some "1"
      else if key = "tr69.conn_request.auth" then some "None" else none) := by
  intro h
  exact boolean_of_agrees .enableCwmp (agrees_iff_configFrom.mp h _) (by decide)

end Tr069d
