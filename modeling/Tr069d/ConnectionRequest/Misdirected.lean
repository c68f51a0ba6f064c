import Tr069d.ConnectionRequest.Url

/-!
# Where the Connection Request URL may not point

The checks of `configured_connection_request_url` keep the ACS from being sent
to itself or to no other machine.  They see the override and the ACS URL
through patterns, and the computed URL not at all; `Misdirected` is what gets
past them, and everything else is `Acceptable` (`reportedUrl_acceptable_iff`).

* `of_acceptedOverride` says what is known of an override that passes, and
  `unreachableHost_of_plain` and `pointsAtAcs_of_plain` that the checks see what they
  should in a plain URL.
* `Misdirected.not_acceptable` is the other direction.
* `misdirected_urls_reported` has a URL for each of the three ways.
-/

namespace Tr069d

theorem usableIpv4_eq_none {host : String} {byte : Nat}
    (h : ipv4FirstByte host.toList = some byte) (hbyte : unusableByte byte = true) :
    usableIpv4 (some host) = none := by
  obtain ⟨a, b, c, d, hsplit, hdecimal, hbytes, rfl⟩ := ipv4FirstByte_eq_some_iff.mp h
  unfold unusableByte at hbyte
  unfold usableIpv4
  simp only [Option.getD_some, (head_of_ipv4FirstByte h).2, hsplit, hdecimal, Bool.and_self,
    if_true]
  have hfits : (decide (255 < decimalValue a) || decide (255 < decimalValue b) ||
      decide (255 < decimalValue c) || decide (255 < decimalValue d)) = false := by
    simp only [Bool.or_eq_false_iff, decide_eq_false_iff_not]
    omega
  rw [hfits, if_neg Bool.false_ne_true, if_pos hbyte]

/-- Nothing, or an `http` or `https` URL of a host that other machines reach,
and not the endpoint of the ACS itself. -/
def Acceptable (acsUrl url : String) : Prop :=
  url = "" ∨ isHttp url = true ∧ ∃ endpoint, endpointOf url = some endpoint ∧
    unreachableHost endpoint.host = false ∧
    ¬(endpoint.port.isSome = true ∧ endpointOf acsUrl = some endpoint)

/-- What gets past the checks. -/
inductive Misdirected (ubusBin : String) (outputs : String → Option String) (store : Store) : Prop
  /-- The host of the override hides behind user information, upper-case letters
  or a `?` or `#` that ends it. -/
  | hidden {url : String} {endpoint : Endpoint} (haccepted : acceptedOverride store = some url)
      (hspelling : ¬PlainUrl url) (hendpoint : endpointOf url = some endpoint)
      (hhost : unreachableHost endpoint.host = true) : Misdirected ubusBin outputs store
  /-- The override and the ACS URL spell one endpoint in two ways. -/
  | respelled {url : String} {endpoint : Endpoint} (haccepted : acceptedOverride store = some url)
      (hspelling : ¬(PlainUrl url ∧ PlainUrl (acsUrlOption store)))
      (hendpoint : endpointOf url = some endpoint) (hport : endpoint.port.isSome = true)
      (hacs : endpointOf (acsUrlOption store) = some endpoint) : Misdirected ubusBin outputs store
  /-- The ACS runs at the address of this machine, on the advertised port. -/
  | own {ip : String} (hnone : acceptedOverride store = none)
      (hip : (addressSources ubusBin outputs store).findSome? usableIpv4 = some ip)
      (hacs : endpointOf (acsUrlOption store) = some ⟨ip.toList,
        some (decimalValue (advertisedPort (captured store "tr69.settings.port")).toList)⟩) :
      Misdirected ubusBin outputs store

/-- What is known of an override that the checks let pass. -/
theorem of_acceptedOverride {store : Store} {url : String} (h : acceptedOverride store = some url) :
    ∃ text read, afterScheme url.toList = some text ∧ isHttp url = true ∧
      hostAndPort text = some read ∧ read.1 ≠ "localhost" ∧
      ¬(read.1.toList.head?.any Char.isDigit = true ∧ usableIpv4 (some read.1) = none) ∧
      pointsAtAcs read (acsEndpoint (acsUrlOption store)) = false := by
  obtain ⟨-, hchecks⟩ := Option.filter_eq_some_iff.mp h
  obtain ⟨read, hread, hacs⟩ := (Option.any_eq_true ..).mp hchecks
  obtain ⟨hparsed, hhost⟩ := Option.filter_eq_some_iff.mp hread
  obtain ⟨text, htext, hread⟩ := Option.bind_eq_some_iff.mp hparsed
  obtain ⟨hscheme, hhttp⟩ := afterScheme_of_afterHttp htext
  simp only [Bool.and_eq_true, Bool.not_eq_true', decide_eq_true_eq, Bool.and_eq_false_iff]
    at hacs hhost
  refine ⟨text, read, hscheme, hhttp, hread, hhost.1, ?_, hacs.1⟩
  rintro ⟨hdigit, hunusable⟩
  simp [hdigit, hunusable] at hhost

/-- The checks see the host of a plain override. -/
theorem unreachableHost_of_plain {text scheme : List Char} {read : String × String}
    (hplain : PlainAuthority text) (hread : hostAndPort text = some read)
    (hlocal : read.1 ≠ "localhost")
    (haddress : ¬(read.1.toList.head?.any Char.isDigit = true ∧
      usableIpv4 (some read.1) = none)) :
    unreachableHost (endpointAfter scheme text).host = false := by
  by_contra hbad
  have hbad : unreachableHost (endpointAfter scheme text).host = true := by simpa using hbad
  have hhost := read_of_unreachableHost hplain hbad hread
  obtain ⟨hne, hfirst, -⟩ := hostAndPort_eq_some_iff.mp hread
  rw [← hhost] at hbad
  simp only [unreachableHost, Bool.or_eq_true, decide_eq_true_eq] at hbad
  -- an empty host, `localhost`, or an address with an unusable first byte
  rcases hbad with (hempty | hname) | hnumber
  · exact hne (hfirst.symm.trans hempty)
  · exact hlocal (String.toList_inj.mp hname)
  · obtain ⟨byte, hbyte, hunusable⟩ := (Option.any_eq_true ..).mp hnumber
    exact haddress ⟨(head_of_ipv4FirstByte hbyte).1, usableIpv4_eq_none hbyte hunusable⟩

/-- The checks see that a plain override points at a plain ACS URL. -/
theorem pointsAtAcs_of_plain {text text' scheme scheme' : List Char} {read : String × String}
    (hplain : PlainAuthority text ∧ PlainPort text)
    (hplain' : PlainAuthority text' ∧ PlainPort text')
    (hendpoint : endpointAfter scheme text = endpointAfter scheme' text')
    (hport : (endpointAfter scheme text).port.isSome = true)
    (hread : hostAndPort text = some read) : pointsAtAcs read (hostAndPort text') = true := by
  obtain ⟨port, hport⟩ := Option.isSome_iff_exists.mp hport
  obtain ⟨port', hread', hsame⟩ :=
    exists_read_of_endpoint_eq hplain hplain' hendpoint hport hread
  rw [hread']
  simp only [pointsAtAcs, Option.any_some, beq_self_eq_true, Bool.true_and, Bool.or_eq_true,
    beq_iff_eq, or_assoc]
  exact hsame

/-- What gets past the checks may not be told to the ACS. -/
theorem Misdirected.not_acceptable {ubusBin : String} {outputs : String → Option String}
    {store : Store} (h : Misdirected ubusBin outputs store) :
    ¬Acceptable (acsUrlOption store) (urlFrom ubusBin outputs store) := by
  have hnonempty : ∀ url endpoint, endpointOf url = some endpoint → url ≠ "" := by
    rintro _ endpoint hendpoint rfl
    cases hendpoint
  cases h with
  -- an option that passes the textual checks is reported as it is
  | hidden haccepted hspelling hendpoint hhost =>
      rw [urlFrom, haccepted]
      rintro (hempty | ⟨-, endpoint', hendpoint', hreached, -⟩)
      · exact hnonempty _ _ hendpoint hempty
      · rw [hendpoint] at hendpoint'
        cases hendpoint'
        rw [hhost] at hreached
        cases hreached
  | respelled haccepted hspelling hendpoint hport hacs =>
      rw [urlFrom, haccepted]
      rintro (hempty | ⟨-, endpoint', hendpoint', -, hother⟩)
      · exact hnonempty _ _ hendpoint hempty
      · rw [hendpoint] at hendpoint'
        cases hendpoint'
        exact hother ⟨hport, hacs⟩
  -- the computed URL is not checked against the ACS at all
  | own hnone hip hacs =>
      simp only [urlFrom, hnone, hip]
      obtain ⟨value, -, hvalue⟩ := List.exists_of_findSome?_eq_some hip
      obtain ⟨-, hendpoint⟩ := endpointOf_urlAt hvalue
        (isDecimal_advertisedPort (captured store "tr69.settings.port"))
      rintro (hempty | ⟨-, endpoint', hendpoint', -, hother⟩)
      · exact hnonempty _ _ hendpoint hempty
      · rw [hendpoint] at hendpoint'
        cases hendpoint'
        exact hother ⟨rfl, hacs⟩

/-- The URL that is reported may be told to the ACS, unless something gets past
the checks. -/
theorem reportedUrl_acceptable_iff (engine : CpeEngine) (outputs : String → Option String)
    (store : Store) :
    Acceptable (acsUrlOption store) (engine.reportedUrl outputs store) ↔
      ¬Misdirected engine.ubusBin outputs store := by
  rw [reportedUrl_eq]
  constructor
  · intro hacceptable hmisdirected
    exact hmisdirected.not_acceptable hacceptable
  · intro hdirected
    unfold urlFrom
    cases haccepted : acceptedOverride store with
    | some url =>
        obtain ⟨text, read, htext, hhttp, hread, hlocal, haddress, hpoints⟩ :=
          of_acceptedOverride haccepted
        have hendpoint : endpointOf url = some (endpointAfter (schemeOf url.toList) text) := by
          rw [endpointOf, htext]
          rfl
        refine Or.inr ⟨hhttp, _, hendpoint, ?_, ?_⟩
        · by_cases hplain : PlainUrl url
          · exact unreachableHost_of_plain (hplain text htext).1 hread hlocal haddress
          · by_contra hhost
            exact hdirected (.hidden haccepted hplain hendpoint (by simpa using hhost))
        · rintro ⟨hport, hacs⟩
          by_cases hplain : PlainUrl url ∧ PlainUrl (acsUrlOption store)
          · obtain ⟨text', htext', hendpoint'⟩ := Option.map_eq_some_iff.mp hacs
            have htrue := pointsAtAcs_of_plain (hplain.1 text htext) (hplain.2 text' htext')
              hendpoint'.symm hport hread
            rw [acsEndpoint, htext', Option.bind_some, htrue] at hpoints
            cases hpoints
          · exact hdirected (.respelled haccepted hplain hendpoint hport hacs)
    | none =>
        cases hip : (addressSources engine.ubusBin outputs store).findSome? usableIpv4 with
        | none => exact Or.inl rfl
        | some ip =>
            -- nothing compares the computed URL with the ACS
            obtain ⟨value, -, hvalue⟩ := List.exists_of_findSome?_eq_some hip
            obtain ⟨hhttp, hendpoint⟩ := endpointOf_urlAt hvalue
              (isDecimal_advertisedPort (captured store "tr69.settings.port"))
            refine Or.inr ⟨hhttp, _, hendpoint, unreachableHost_of_usable hvalue, ?_⟩
            rintro ⟨-, hacs⟩
            exact hdirected (.own haccepted hip hacs)

/-- User information before a loopback address, the host of the ACS in capitals,
and an ACS at the address and the port of the daemon. -/
theorem misdirected_urls_reported :
    let hidden := storeWith
      [("tr69.conn_request.url", "http://cpe@127.0.0.1:7547/connection-request")]
    let respelled := storeWith
      [("tr69.conn_request.url", "http://ACS:7547/"), ("tr69.mgmt_srv.url", "http://acs:7547/")]
    let own := storeWith
      [("network.lan.ipaddr", "10.0.0.1"), ("tr69.mgmt_srv.url", "http://10.0.0.1:7547/")]
    let reported := (cpeEngine "/bin/ubus" false plainEngine.pairs).reportedUrl fun _ => none
    ¬Acceptable (acsUrlOption hidden) (reported hidden) ∧
      ¬Acceptable (acsUrlOption respelled) (reported respelled) ∧
      ¬Acceptable (acsUrlOption own) (reported own) := by
  intro hidden respelled own reported
  -- each store is one of the three kinds of `Misdirected`
  refine ⟨?_, ?_, ?_⟩
  · have hspelling : ¬PlainUrl "http://cpe@127.0.0.1:7547/connection-request" := by
      intro hplain
      have hat := ((hplain _ (afterScheme_http _).1).1 '@' (by decide)).1
      exact hat (by decide)
    rw [show reported hidden = _ from reportedUrl_eq _ _ hidden]
    apply Misdirected.not_acceptable
    exact .hidden (by decide) hspelling rfl (by decide)
  · have hspelling : ¬PlainUrl "http://ACS:7547/" := by
      intro hplain
      exact ((hplain _ (afterScheme_http _).1).1 'A' (by decide)).2 (by decide)
    rw [show reported respelled = _ from reportedUrl_eq _ _ respelled]
    apply Misdirected.not_acceptable
    exact .respelled (by decide) (fun hplain => hspelling hplain.1) rfl rfl
      (by decide)
  · rw [show reported own = _ from reportedUrl_eq _ _ own]
    apply Misdirected.not_acceptable
    exact .own (by decide) (by decide : _ = some "10.0.0.1") (by decide)

end Tr069d
