import Tr069d.ConnectionRequest.Url

/-!
# The advertised port and the bound port

The option `tr69.settings.port` is read twice: the getter of the Connection
Request URL copies it if it is a decimal numeral, and `readConfig` reads it with
`std::stoul`, narrowed to an `unsigned` and then to the `uint16_t` of the socket
address.  `PortAgrees` says which texts both read as the same port.

* `requestedPort` is what `start` asks for, and `MayBind` what it may get for that.
* `portAgrees_iff` compares the two readings of the text.
* `advertised_port_bound_iff` compares the URL and the socket, over every text of the
  option, and `port_not_bound` has a text for each way in which they differ.
-/

namespace Tr069d

namespace ConnectionRequestServer

/-- `static_cast<uint16_t>(config_.port)`, the port that `start` asks for. -/
def requestedPort (config : ConnectionRequestConfig) : Nat :=
  config.port % 2 ^ 16

/-- A port on which `start` may listen: for 0 the system picks one. -/
def MayBind (config : ConnectionRequestConfig) (port : Nat) : Prop :=
  0 < port ∧ port < 2 ^ 16 ∧ (requestedPort config = 0 ∨ requestedPort config = port)

end ConnectionRequestServer

/-- The port of the URL is a TCP port, and the only one the server may listen on. -/
def AdvertisesBoundPort (url : String) (config : ConnectionRequestConfig) : Prop :=
  ∃ endpoint port, endpointOf url = some endpoint ∧ endpoint.port = some port ∧
    1 ≤ port ∧ port ≤ 65535 ∧
    ∀ bound, ConnectionRequestServer.MayBind config bound → port = bound

/-- The texts that are read as one port.  A text that is no decimal numeral is
advertised as 7547; it binds 7547 as well unless it is one after blanks and a
sign, whose number `stoul` then takes. -/
def PortAgrees : Option String → Prop
  | none => True
  | some text =>
      if isDecimal text.toList then
        1 ≤ decimalValue text.toList ∧ decimalValue text.toList ≤ 65535
      else
        let (negative, digits) := splitSign (text.toList.dropWhile isSpace)
        isDecimal digits → decimalValue digits < 2 ^ 64 →
          (if negative then 2 ^ 64 - decimalValue digits else decimalValue digits) % 2 ^ 16 = 7547

/-! ## What `stoul` takes as a whole -/

theorem length_splitSign_le (text : List Char) : (splitSign text).2.length ≤ text.length := by
  unfold splitSign
  split <;> simp

theorem isDecimal_iff_takeWhile {text : List Char} :
    isDecimal text = true ↔
      text.takeWhile Char.isDigit ≠ [] ∧ text.takeWhile Char.isDigit = text := by
  rw [List.takeWhile_eq_self_iff]
  simp only [isDecimal, Bool.and_eq_true, Bool.not_eq_true', List.isEmpty_eq_false_iff,
    List.all_eq_true]
  constructor
  · rintro ⟨hne, hdigits⟩
    exact ⟨by rwa [List.takeWhile_eq_self_iff.mpr hdigits], hdigits⟩
  · rintro ⟨hne, hdigits⟩
    exact ⟨by rwa [List.takeWhile_eq_self_iff.mpr hdigits] at hne, hdigits⟩

namespace UciAdapter

/-- A numeral after blanks and a sign is read as its number, anything else is
the fallback. -/
theorem unsignedOf_some (text : String) (fallback : Nat) :
    unsignedOf (some text) fallback =
      let (negative, digits) := splitSign (text.toList.dropWhile isSpace)
      if isDecimal digits ∧ decimalValue digits < 2 ^ 64 then
        toUnsigned (if negative then (2 ^ 64 - decimalValue digits) % 2 ^ 64
          else decimalValue digits)
      else fallback := by
  have hlength : (splitSign (text.toList.dropWhile isSpace)).2.length ≤ text.length := by
    rw [← String.length_toList]
    exact (length_splitSign_le _).trans (List.length_dropWhile_le ..)
  simp only [unsignedOf, stoul]
  generalize splitSign (text.toList.dropWhile isSpace) = parts at hlength ⊢
  obtain ⟨negative, rest⟩ := parts
  dsimp only at hlength ⊢
  by_cases hwhole : rest.takeWhile Char.isDigit = rest
  · rw [hwhole, Nat.sub_self, Nat.sub_zero]
    by_cases hnil : rest = []
    · subst hnil
      rfl
    have hdecimal : isDecimal rest = true :=
      isDecimal_iff_takeWhile.mpr ⟨by rwa [hwhole], hwhole⟩
    rw [List.isEmpty_eq_false_iff.mpr hnil, Bool.false_or]
    by_cases hfits : decimalValue rest < 2 ^ 64
    · simp only [decide_eq_false (Nat.not_le.mpr hfits), Bool.false_eq_true, if_false, if_true,
        hdecimal, hfits, and_self]
    · simp only [decide_eq_true (Nat.not_lt.mp hfits), if_true, hfits, and_false, if_false]
  · have hnot : isDecimal rest = false := by
      by_contra hdecimal
      exact hwhole (isDecimal_iff_takeWhile.mp (by simpa using hdecimal)).2
    -- something is left over, so that not the whole text is taken
    have htaken : rest.takeWhile Char.isDigit <+: rest := List.takeWhile_prefix _
    have hshort : (rest.takeWhile Char.isDigit).length < rest.length := by
      apply lt_of_le_of_ne htaken.length_le
      intro hlen
      exact hwhole (htaken.eq_of_length hlen)
    have hpart : text.length - (rest.length - (rest.takeWhile Char.isDigit).length) ≠
        text.length := by
      omega
    simp only [hnot, Bool.false_eq_true, false_and, if_false]
    split
    · rename_i parsed consumed hsome
      split_ifs at hsome
      all_goals
        obtain ⟨-, rfl⟩ : _ ∧ _ = consumed := by simpa using hsome
        exact if_neg hpart
    · rfl

end UciAdapter

theorem decimal_dropWhile {text : List Char} (h : isDecimal text = true) :
    splitSign (text.dropWhile isSpace) = (false, text) := by
  cases text with
  | nil => cases h
  | cons c text =>
      simp only [isDecimal, Bool.and_eq_true, List.all_eq_true] at h
      have hc := h.2 c (List.mem_cons_self ..)
      rw [List.dropWhile_cons_of_neg (by simp [isSpace_of_isDigit hc]),
        splitSign_of_isDigit _ hc]

/-! ## The two readings -/

/-- A port is the only one the server may listen on if it is the one it asks for. -/
theorem only_bound_iff {config : ConnectionRequestConfig} {port : Nat} (hlow : 1 ≤ port)
    (hhigh : port ≤ 65535) :
    (∀ bound, ConnectionRequestServer.MayBind config bound → port = bound) ↔
      ConnectionRequestServer.requestedPort config = port := by
  unfold ConnectionRequestServer.MayBind
  have hlt : ConnectionRequestServer.requestedPort config < 2 ^ 16 :=
    Nat.mod_lt _ (by decide)
  constructor
  · intro hall
    by_cases hzero : ConnectionRequestServer.requestedPort config = 0
    -- port 0 lets the kernel choose, and two choices already differ
    · have hone := hall 1 ⟨by decide, by decide, Or.inl hzero⟩
      have htwo := hall 2 ⟨by decide, by decide, Or.inl hzero⟩
      omega
    · exact (hall _ ⟨Nat.pos_of_ne_zero hzero, hlt, Or.inr rfl⟩).symm
  · rintro hrequested bound ⟨hpos, -, hzero | hbound⟩
    · omega
    · exact hrequested.symm.trans hbound

/-- The two readings of the option give one TCP port. -/
theorem portAgrees_iff (option : Option String) :
    PortAgrees option ↔
      1 ≤ decimalValue (advertisedPort option).toList ∧
      decimalValue (advertisedPort option).toList ≤ 65535 ∧
      UciAdapter.unsignedOf option 7547 % 2 ^ 16 =
        decimalValue (advertisedPort option).toList := by
  have hdefault : decimalValue "7547".toList = 7547 := by decide
  cases option with
  | none => exact iff_of_true trivial (by decide)
  | some text =>
      rw [UciAdapter.unsignedOf_some]
      unfold PortAgrees advertisedPort toUnsigned
      cases hdecimal : isDecimal text.toList with
      | true =>
          simp only [Option.getD_some, hdecimal, decimal_dropWhile hdecimal, if_true,
            Bool.false_eq_true, if_false, true_and]
          split_ifs <;> omega
      | false =>
          simp only [Option.getD_some, hdecimal, Bool.false_eq_true, if_false, hdefault]
          -- the getter falls back to 7547, where `strtoul` may still find a number
          generalize splitSign (text.toList.dropWhile isSpace) = parts
          obtain ⟨negative, digits⟩ := parts
          dsimp only
          by_cases htaken : isDecimal digits = true ∧ decimalValue digits < 2 ^ 64
          · rw [if_pos htaken]
            simp only [htaken.1, htaken.2, forall_const]
            split_ifs <;> omega
          · rw [if_neg htaken]
            refine iff_of_true (fun hdigits hfits => absurd ⟨hdigits, hfits⟩ htaken) ?_
            decide

/-- Where the URL is computed, it names a usable address and the advertised port. -/
theorem reportedUrl_eq_urlAt (engine : CpeEngine) {outputs : String → Option String}
    {store : Store} (hcomputed : acceptedOverride store = none)
    (hreported : engine.reportedUrl outputs store ≠ "") :
    ∃ ip value, usableIpv4 value = some ip ∧ engine.reportedUrl outputs store =
      urlAt ip (advertisedPort (captured store "tr69.settings.port")) := by
  rw [reportedUrl_eq, urlFrom, hcomputed] at hreported ⊢
  cases hfound : (addressSources engine.ubusBin outputs store).findSome? usableIpv4 with
  | none => simp [hfound] at hreported
  | some ip =>
      obtain ⟨value, -, hip⟩ := List.exists_of_findSome?_eq_some hfound
      exact ⟨ip, value, hip, rfl⟩

theorem advertisesBoundPort_urlAt_iff {value option : Option String} {ip : String}
    {config : ConnectionRequestConfig} (hip : usableIpv4 value = some ip) :
    AdvertisesBoundPort (urlAt ip (advertisedPort option)) config ↔
      1 ≤ decimalValue (advertisedPort option).toList ∧
      decimalValue (advertisedPort option).toList ≤ 65535 ∧
      ConnectionRequestServer.requestedPort config =
        decimalValue (advertisedPort option).toList := by
  obtain ⟨-, hendpoint⟩ := endpointOf_urlAt hip (isDecimal_advertisedPort option)
  constructor
  · rintro ⟨endpoint, port, hendpoint', hport, hlow, hhigh, hbound⟩
    rw [hendpoint] at hendpoint'
    cases hendpoint'
    obtain rfl := Option.some.inj hport
    exact ⟨hlow, hhigh, (only_bound_iff hlow hhigh).mp hbound⟩
  · rintro ⟨hlow, hhigh, hrequested⟩
    exact ⟨_, _, hendpoint, rfl, hlow, hhigh, (only_bound_iff hlow hhigh).mpr hrequested⟩

theorem requestedPort_configFrom (store : Store) (allowMockReboot : Bool) (target : DaemonConfig) :
    ConnectionRequestServer.requestedPort
      (configFrom store allowMockReboot target).connectionRequest =
        UciAdapter.unsignedOf (captured store "tr69.settings.port") 7547 % 2 ^ 16 := rfl

/-- `readConfig` builds one configuration. -/
theorem exists_readConfig_iff (engine : UciEngine) (store : Store) (lastError : String)
    (allowMockReboot : Bool) (target : DaemonConfig) (P : DaemonConfig → Prop) :
    (∃ config level, (readConfig ⟨some engine.toEngine, lastError⟩ allowMockReboot target).run
      uciHandler store = (some (config, level), store) ∧ P config) ↔
      P (configFrom store allowMockReboot target) := by
  have hread := run_readConfig engine store lastError allowMockReboot target
  constructor
  · rintro ⟨config, level, hconfig, h⟩
    rw [hread] at hconfig
    cases hconfig
    exact h
  · intro h
    exact ⟨_, _, hread, h⟩

/-- Where the URL is computed, it advertises the port on which the server
listens exactly for the texts that both readings agree on. -/
theorem advertised_port_bound_iff (engine : CpeEngine) (outputs : String → Option String)
    (store : Store) (lastError : String) (allowMockReboot : Bool) (target : DaemonConfig)
    (hcomputed : acceptedOverride store = none)
    (hreported : engine.reportedUrl outputs store ≠ "") :
    (∃ config level, (readConfig ⟨some engine.toEngine, lastError⟩ allowMockReboot target).run
        uciHandler store = (some (config, level), store) ∧
      AdvertisesBoundPort (engine.reportedUrl outputs store) config.connectionRequest) ↔
      PortAgrees (captured store "tr69.settings.port") := by
  obtain ⟨ip, value, hip, hurl⟩ := reportedUrl_eq_urlAt engine hcomputed hreported
  rw [exists_readConfig_iff engine.toUciEngine store lastError allowMockReboot target
      fun config => AdvertisesBoundPort (engine.reportedUrl outputs store) config.connectionRequest,
    hurl, advertisesBoundPort_urlAt_iff hip, requestedPort_configFrom, portAgrees_iff]

/-- A daemon with one address and this port. -/
def addressAndPort (port : String) : Store :=
  storeWith [("network.lan.ipaddr", "10.0.0.1"), ("tr69.settings.port", port)]

theorem port_advertised_and_bound :
    ∃ config level, (readConfig
        ⟨some (cpeEngine "/bin/ubus" false plainEngine.pairs).toEngine, ""⟩ false {}).run
          uciHandler (addressAndPort "8080") = (some (config, level), addressAndPort "8080") ∧
      AdvertisesBoundPort ((cpeEngine "/bin/ubus" false plainEngine.pairs).reportedUrl
        (fun _ => none) (addressAndPort "8080")) config.connectionRequest := by
  have hagrees : PortAgrees (captured (addressAndPort "8080") "tr69.settings.port") := by
    rw [portAgrees_iff]
    decide
  refine (advertised_port_bound_iff _ _ _ _ _ _ (by decide) ?_).mpr hagrees
  rw [reportedUrl_eq]
  decide

/-- Port 0, a port past 65535, a sign and a blank. -/
theorem port_not_bound :
    let engine := cpeEngine "/bin/ubus" false plainEngine.pairs
    let reported := fun port => engine.reportedUrl (fun _ => none) (addressAndPort port)
    let unbound := fun port =>
      acceptedOverride (addressAndPort port) = none ∧ reported port ≠ "" ∧
      ¬∃ config level, (readConfig ⟨some engine.toEngine, ""⟩ false {}).run uciHandler
          (addressAndPort port) = (some (config, level), addressAndPort port) ∧
        AdvertisesBoundPort (reported port) config.connectionRequest
    unbound "0" ∧ unbound "70000" ∧ unbound "+80" ∧ unbound " 80" ∧ unbound "-1" := by
  intro engine reported unbound
  have hip : usableIpv4 (some "10.0.0.1") = some "10.0.0.1" := by decide
  have hunbound : ∀ port ∈ ["0", "70000", "+80", " 80", "-1"], unbound port := by
    intro port hport
    -- the URL is computed, and advertises the option's text as the port
    have hcomputed : acceptedOverride (addressAndPort port) = none := by
      revert port
      decide
    have hurl : reported port = urlAt "10.0.0.1"
        (advertisedPort (captured (addressAndPort port) "tr69.settings.port")) := by
      rw [show reported port = _ from reportedUrl_eq engine _ (addressAndPort port)]
      revert port
      decide
    -- either the advertised number is no port, or it is not the one that is bound
    have hdiffers : ¬(1 ≤ decimalValue (advertisedPort
          (captured (addressAndPort port) "tr69.settings.port")).toList ∧
        decimalValue (advertisedPort
          (captured (addressAndPort port) "tr69.settings.port")).toList ≤ 65535 ∧
        UciAdapter.unsignedOf (captured (addressAndPort port) "tr69.settings.port") 7547 % 2 ^ 16 =
          decimalValue (advertisedPort
            (captured (addressAndPort port) "tr69.settings.port")).toList) := by
      revert port
      decide
    refine ⟨hcomputed, by simp [hurl, urlAt], ?_⟩
    intro hexists
    have hadvertises := (exists_readConfig_iff engine.toUciEngine (addressAndPort port) "" false {}
      fun config => AdvertisesBoundPort (reported port) config.connectionRequest).mp hexists
    rw [hurl, advertisesBoundPort_urlAt_iff hip, requestedPort_configFrom] at hadvertises
    exact hdiffers hadvertises
  refine ⟨?_, ?_, ?_, ?_, ?_⟩
  all_goals exact hunbound _ (by simp)

end Tr069d
