import Tr069d.Session.Names
import Tr069d.Soap.Replies

/-!
# The answer to an RPC

Whatever the transformer does, `RpcHandler::handle` answers with one document,
and the parser of the daemon reads it: with the id of the request, and with the
response of its method or a fault.  The strings are those of XML, without the CR
that a reader does not give back.

* `LegalExchange` collects the strings that are written into the answer.
* `repliesWith_handle` goes through the methods, and `faulty` says which of the answers
  are faults.
* `getParameterValues_split` is the engine: the names in the map and the others, in the
  order in which they were asked for, with repetitions.
* `readBack_of_legal` holds on any platform, and `readBack_of_embedded` is the result with
  the embedded transformer.
-/

namespace Tr069d

open Effects Xml

namespace RpcHandler

variable {σ : Type} (platform : Platform σ) (rpc : ParsedRpc)

/-! ## What the transformer answers -/

/-- The id of the answer. -/
def answerId : String :=
  if rpc.cwmpId == "" then "0" else rpc.cwmpId

/-- `GetParameterValues` up to the call of the transformer. -/
def gotten : StateM σ (List ParameterValue × List String) := do
  platform.log .info ("ACS RPC: " ++ rpc.method)
  rpc.parameterNames.forM fun name => platform.log .info ("ACS get request: " ++ name)
  platform.getParameterValues rpc.parameterNames false

/-- `GetParameterNames` up to the call of the transformer. -/
def found : StateM σ (List ParameterInfo × String) := do
  platform.log .info ("ACS RPC: " ++ rpc.method)
  platform.log .info ("ACS get names request: " ++ orEmpty rpc.parameterPath)
  platform.getParameterNames rpc.parameterPath

/-- `SetParameterValues` up to the call of the transformer. -/
def taken : StateM σ SetResult := do
  platform.log .info ("ACS RPC: " ++ rpc.method)
  logValues platform "set request" rpc.parameterValues
  platform.setParameterValues rpc.parameterValues rpc.parameterKey

variable {rpc} (s : σ)

theorem handle_getParameterValues (hmethod : rpc.method = "GetParameterValues") :
    (handle platform rpc s).1.responseXml =
      if (gotten platform rpc s).1.2.isEmpty then
        SoapBuilder.getParameterValuesResponse (answerId rpc) (gotten platform rpc s).1.1
      else SoapBuilder.fault (answerId rpc) 9005 "Invalid parameter name"
        (gotten platform rpc s).1.2 := by
  unfold handle
  rw [if_pos hmethod]
  rfl

theorem handle_getParameterNames (hmethod : rpc.method = "GetParameterNames") :
    (handle platform rpc s).1.responseXml =
      if (found platform rpc s).1.2 == "" then
        SoapBuilder.getParameterNamesResponse (answerId rpc) (found platform rpc s).1.1
      else SoapBuilder.fault (answerId rpc) 9005 (found platform rpc s).1.2 [] := by
  unfold handle
  rw [if_neg (by rw [hmethod]; decide), if_pos hmethod]
  rfl

theorem handle_setParameterValues (hmethod : rpc.method = "SetParameterValues") :
    (handle platform rpc s).1.responseXml =
      if (taken platform rpc s).1.success then
        SoapBuilder.setParameterValuesResponse (answerId rpc)
      else SoapBuilder.fault (answerId rpc) 9003 (taken platform rpc s).1.error
        (if (taken platform rpc s).1.failedParameter == "" then []
          else [(taken platform rpc s).1.failedParameter]) := by
  unfold handle
  rw [if_neg (by rw [hmethod]; decide), if_neg (by rw [hmethod]; decide), if_pos hmethod]
  have hbind : ∀ {α β : Type} (first : StateM σ α) (next : α → StateM σ β) (s : σ),
      (first >>= next) s = next (first s).1 (first s).2 :=
    fun _ _ _ => rfl
  have hid : (if rpc.cwmpId == "" then "0" else rpc.cwmpId) = answerId rpc := rfl
  simp only [setParameterValues, taken, hbind, hid]
  split_ifs <;> rfl

theorem handle_reboot (hmethod : rpc.method = "Reboot") :
    (handle platform rpc s).1.responseXml = SoapBuilder.rebootResponse (answerId rpc) := by
  unfold handle
  rw [if_neg (by rw [hmethod]; decide), if_neg (by rw [hmethod]; decide),
    if_neg (by rw [hmethod]; decide), if_pos hmethod]
  rfl

theorem handle_download (hmethod : rpc.method = "Download") {request : DownloadRequest}
    (hrequest : rpc.download = some request) :
    (handle platform rpc s).1.responseXml = SoapBuilder.downloadResponse (answerId rpc) 1
      "0001-01-01T00:00:00Z" "0001-01-01T00:00:00Z" := by
  unfold handle
  rw [if_neg (by rw [hmethod]; decide), if_neg (by rw [hmethod]; decide),
    if_neg (by rw [hmethod]; decide), if_neg (by rw [hmethod]; decide), hrequest,
    decide_eq_true hmethod]
  rfl

/-- Any other RPC, and a `Download` without its arguments. -/
theorem handle_unsupported (hmethod : rpc.method ∉
      ["GetParameterValues", "GetParameterNames", "SetParameterValues", "Reboot"])
    (hdownload : rpc.method = "Download" → rpc.download = none) :
    (handle platform rpc s).1.responseXml =
      SoapBuilder.fault (answerId rpc) 9000 "Method not supported" [] := by
  simp only [List.mem_cons, List.not_mem_nil, or_false, not_or] at hmethod
  unfold handle
  rw [if_neg hmethod.1, if_neg hmethod.2.1, if_neg hmethod.2.2.1, if_neg hmethod.2.2.2]
  by_cases hname : rpc.method = "Download"
  · rw [hdownload hname]
    cases decide (rpc.method = "Download") <;> rfl
  · rw [decide_eq_false hname]
    rfl

/-! ## What the parser reads -/

/-- Every string that is written into the answer is made of characters of XML
other than CR. -/
structure LegalExchange (rpc : ParsedRpc) (s : σ) : Prop where
  cwmpId : LegalBytes rpc.cwmpId
  values : rpc.method = "GetParameterValues" → ∀ value ∈ (gotten platform rpc s).1.1,
    LegalBytes value.name ∧ LegalBytes value.value ∧ LegalBytes value.type
  invalid : rpc.method = "GetParameterValues" →
    ∀ name ∈ (gotten platform rpc s).1.2, LegalBytes name
  names : rpc.method = "GetParameterNames" →
    ∀ info ∈ (found platform rpc s).1.1, LegalBytes info.name
  error : rpc.method = "GetParameterNames" → LegalBytes (found platform rpc s).1.2
  result : rpc.method = "SetParameterValues" → LegalBytes (taken platform rpc s).1.error ∧
    LegalBytes (taken platform rpc s).1.failedParameter

/-- The answer is a fault where there is something to report. -/
def faulty (rpc : ParsedRpc) (s : σ) : Bool :=
  if rpc.method = "GetParameterValues" then !(gotten platform rpc s).1.2.isEmpty
  else if rpc.method = "GetParameterNames" then !((found platform rpc s).1.2 == "")
  else if rpc.method = "SetParameterValues" then !(taken platform rpc s).1.success
  else if rpc.method = "Reboot" then false
  else !(decide (rpc.method = "Download") && rpc.download.isSome)

theorem legalBytes_answerId (h : LegalBytes rpc.cwmpId) : LegalBytes (answerId rpc) := by
  unfold answerId
  split_ifs
  · exact legalBytes_of_visible (by decide)
  · exact h

/-- `GetParameterValues` lists the names of the values that were gotten. -/
theorem repliesWith_values (h : LegalExchange platform rpc s)
    (hmethod : rpc.method = "GetParameterValues") :
    ∃ node, RepliesWith (handle platform rpc s).1.responseXml (answerId rpc)
        (if faulty platform rpc s then "Fault" else "GetParameterValuesResponse") node ∧
      (faulty platform rpc s = false →
        SoapParser.listedNames (XmlNode.ofNode prefixes node) =
          (gotten platform rpc s).1.1.map ParameterValue.name) := by
  have hid := legalBytes_answerId h.cwmpId
  rw [handle_getParameterValues platform s hmethod, faulty, if_pos hmethod]
  cases hinvalid : (gotten platform rpc s).1.2.isEmpty with
  | true =>
      obtain ⟨node, hnode, hlisted⟩ :=
        repliesWith_getParameterValuesResponse hid (h.values hmethod)
      exact ⟨node, hnode, fun _ => hlisted⟩
  | false =>
      obtain ⟨node, hnode⟩ := repliesWith_fault hid 9005
        (@legalBytes_of_visible "Invalid parameter name" (by decide))
        (h.invalid hmethod)
      exact ⟨node, hnode, fun hfaulty => nomatch hfaulty⟩

/-- The document that is answered, whatever the transformer does. -/
theorem repliesWith_handle (h : LegalExchange platform rpc s) :
    ∃ node, RepliesWith (handle platform rpc s).1.responseXml (answerId rpc)
      (if faulty platform rpc s then "Fault" else rpc.method ++ "Response") node := by
  have hid := legalBytes_answerId h.cwmpId
  have hunsupported : LegalBytes "Method not supported" := legalBytes_of_visible (by decide)
  -- method by method, as the dispatcher asks for them
  by_cases hvalues : rpc.method = "GetParameterValues"
  · obtain ⟨node, hnode, -⟩ := repliesWith_values platform s h hvalues
    rw [hvalues]
    exact ⟨node, hnode⟩
  by_cases hnames : rpc.method = "GetParameterNames"
  · rw [handle_getParameterNames platform s hnames, faulty, if_neg hvalues, if_pos hnames, hnames]
    cases hempty : (found platform rpc s).1.2 == "" with
    | true => exact repliesWith_getParameterNamesResponse hid (h.names hnames)
    | false =>
        exact repliesWith_fault hid 9005 (h.error hnames)
          fun name hname => absurd hname List.not_mem_nil
  by_cases hset : rpc.method = "SetParameterValues"
  · rw [handle_setParameterValues platform s hset, faulty, if_neg hvalues, if_neg hnames,
      if_pos hset, hset]
    obtain ⟨herror, hfailed⟩ := h.result hset
    cases hsuccess : (taken platform rpc s).1.success with
    | true => exact repliesWith_setParameterValuesResponse hid
    | false =>
        refine repliesWith_fault hid 9003 herror fun name hname => ?_
        split_ifs at hname
        · exact absurd hname List.not_mem_nil
        · exact List.mem_singleton.mp hname ▸ hfailed
  by_cases hreboot : rpc.method = "Reboot"
  · rw [handle_reboot platform s hreboot, faulty, if_neg hvalues, if_neg hnames, if_neg hset,
      if_pos hreboot, hreboot]
    exact repliesWith_rebootResponse hid
  rw [faulty, if_neg hvalues, if_neg hnames, if_neg hset, if_neg hreboot]
  -- a `Download` without a request is refused like an unknown method
  by_cases hdownload : rpc.method = "Download" ∧ rpc.download.isSome
  · obtain ⟨hmethod, hsome⟩ := hdownload
    obtain ⟨request, hrequest⟩ := Option.isSome_iff_exists.mp hsome
    have htime : LegalBytes "0001-01-01T00:00:00Z" := legalBytes_of_visible (by decide)
    rw [handle_download platform s hmethod hrequest, hsome, hmethod]
    exact repliesWith_downloadResponse hid 1 htime htime
  · have hfaulty : (decide (rpc.method = "Download") && rpc.download.isSome) = false := by
      simpa using hdownload
    rw [hfaulty, handle_unsupported platform s (by simp [hvalues, hnames, hset, hreboot])
      fun hmethod => by simpa [hmethod] using hdownload]
    exact repliesWith_fault hid 9000 hunsupported fun name hname => absurd hname List.not_mem_nil

end RpcHandler

/-! ## The embedded transformer -/

/-- The parameter is in the map; a map that could not be loaded has none. -/
def LuaTransformer.knows (transformer : LuaTransformer) (path : String) : Bool :=
  transformer.engine.any fun engine => (engine.model.lookup path).isSome

section Embedded

variable {σ : Type} (handler : (c : SystemCall) → σ → system.Answer c × σ)

/-- The engine splits the names into those of the map and the others, in their order. -/
theorem getParameterValues_split (transformer : LuaTransformer) (paths : List String)
    (revealSecrets : Bool) (s : σ) :
    let result := ((transformer.getParameterValues paths revealSecrets).run handler s).1
    result.1.map ParameterValue.name = paths.filter (transformer.knows ·) ∧
      result.2 = paths.filter (!transformer.knows ·) := by
  obtain ⟨engine, lastError⟩ := transformer
  cases engine with
  | none => exact ⟨by simp [LuaTransformer.knows, LuaTransformer.getParameterValues],
      by simp [LuaTransformer.knows, LuaTransformer.getParameterValues]⟩
  | some engine =>
      -- reading a value may move the store, so for every store
      have hloop : ∀ s : σ,
          let result := ((Engine.getParameterValues.loop engine revealSecrets paths).run handler
            s).1
          result.1.map ParameterValue.name =
              paths.filter (fun path => (engine.model.lookup path).isSome) ∧
            result.2 = paths.filter (fun path => !(engine.model.lookup path).isSome) := by
        induction paths with
        | nil => exact fun _ => ⟨rfl, rfl⟩
        | cons path rest ih =>
            intro s
            cases hlookup : engine.model.lookup path with
            | none =>
                simp only [Engine.getParameterValues.loop, hlookup, Prog.run_bind,
                  Prog.pure_eq_done, Prog.run_done]
                obtain ⟨hvalues, hinvalid⟩ := ih _
                rw [List.filter_cons_of_neg (by simp [hlookup]),
                  List.filter_cons_of_pos (by simp [hlookup])]
                exact ⟨hvalues, congrArg (path :: ·) hinvalid⟩
            | some spec =>
                simp only [Engine.getParameterValues.loop, hlookup, Prog.run_bind,
                  Prog.pure_eq_done, Prog.run_done]
                obtain ⟨hvalues, hinvalid⟩ := ih _
                rw [List.filter_cons_of_pos (by simp [hlookup]),
                  List.filter_cons_of_neg (by simp [hlookup])]
                exact ⟨congrArg (path :: ·) hvalues, hinvalid⟩
      simp only [LuaTransformer.getParameterValues, Engine.getParameterValues, Prog.run_bind]
      exact hloop _

variable (log : LogLevel → String → StateM σ Unit) (isoTimeNow : StateM σ String)

/-- Logging does not touch the transformer. -/
theorem forM_log_fst (level : LogLevel) (text : String → String) (names : List String)
    (state : LuaTransformer × σ) :
    ((names.forM fun name =>
      (LuaTransformer.platform handler log isoTimeNow).log level (text name)) state).2.1 =
        state.1 := by
  induction names generalizing state with
  | nil => rfl
  | cons name rest ih => exact ih _

/-- The map of the transformer decides what is gotten. -/
theorem gotten_split (transformer : LuaTransformer) (rpc : ParsedRpc) (s : σ) :
    let result := (RpcHandler.gotten (LuaTransformer.platform handler log isoTimeNow) rpc
      (transformer, s)).1
    result.1.map ParameterValue.name = rpc.parameterNames.filter (transformer.knows ·) ∧
      result.2 = rpc.parameterNames.filter (!transformer.knows ·) := by
  let platform := LuaTransformer.platform handler log isoTimeNow
  -- the state at the call of the transformer
  let called := (rpc.parameterNames.forM (fun name =>
    platform.log .info ("ACS get request: " ++ name))
      (transformer, (log .info ("ACS RPC: " ++ rpc.method) s).2)).2
  have hsame : called.1 = transformer :=
    forM_log_fst handler log isoTimeNow .info ("ACS get request: " ++ ·) rpc.parameterNames _
  have hcall : (RpcHandler.gotten platform rpc (transformer, s)).1 =
      ((called.1.getParameterValues rpc.parameterNames false).run handler called.2).1 := by
    have hapi : ∀ state : LuaTransformer × σ,
        (platform.getParameterValues rpc.parameterNames false state).1 =
          ((state.1.getParameterValues rpc.parameterNames false).run handler state.2).1 :=
      fun ⟨_, _⟩ => rfl
    exact hapi called
  rw [hcall, hsame]
  exact getParameterValues_split handler transformer rpc.parameterNames false called.2

end Embedded

/-! ## The result -/

/-- What the parser reads of an answer. -/
structure ReadBack {σ : Type} (platform : Platform σ) (rpc : ParsedRpc) (s : σ)
    (xmlRead : XmlReader) (answer : ParsedRpc) : Prop where
  parsed : SoapParser.parseRpc xmlRead (RpcHandler.handle platform rpc s).1.responseXml = .ok answer
  cwmpId : answer.cwmpId = if rpc.cwmpId == "" then "0" else rpc.cwmpId
  method : answer.method = rpc.method ++ "Response" ∨ answer.method = "Fault"
  /-- A `SetParameterValues` is answered with a fault if the transaction failed. -/
  set : rpc.method = "SetParameterValues" →
    (answer.method = "Fault" ↔ (RpcHandler.taken platform rpc s).1.success = false)

/-- Whatever the transformer does, the parser reads an answer of the right kind. -/
theorem readBack_of_legal {σ : Type} (platform : Platform σ) (rpc : ParsedRpc) (s : σ)
    (hlegal : RpcHandler.LegalExchange platform rpc s) {xmlRead : XmlReader}
    (hlibxml : ReadsAsXml xmlRead (RpcHandler.handle platform rpc s).1.responseXml) :
    ∃ answer, ReadBack platform rpc s xmlRead answer ∧
      (answer.method = "Fault" ↔ RpcHandler.faulty platform rpc s = true) := by
  obtain ⟨node, hnode⟩ := RpcHandler.repliesWith_handle platform s hlegal
  obtain ⟨-, answer, hparsed, hid, hmethod⟩ := parseRpc_of_repliesWith hnode hlibxml
  have hresponse : ∀ name : String, name ++ "Response" ≠ "Fault" := by
    intro name heq
    have hlast := congrArg (fun text => text.toList.getLast?) heq
    simp at hlast
  have hfault : answer.method = "Fault" ↔ RpcHandler.faulty platform rpc s = true := by
    rw [hmethod]
    split_ifs with hfaulty
    · exact iff_of_true rfl hfaulty
    · exact iff_of_false (hresponse _) hfaulty
  refine ⟨answer, ⟨hparsed, hid, ?_, fun hset => ?_⟩, hfault⟩
  · rw [hmethod]
    split_ifs
    · exact Or.inr rfl
    · exact Or.inl rfl
  · rw [hfault, RpcHandler.faulty, if_neg (by rw [hset]; decide), if_neg (by rw [hset]; decide),
      if_pos hset, Bool.not_eq_true']

/-- With the embedded transformer, `GetParameterValues` is a fault exactly if a
name is not in the map, and else lists the names as they were requested. -/
theorem readBack_of_embedded {σ : Type} (handler : (c : SystemCall) → σ → system.Answer c × σ)
    (log : LogLevel → String → StateM σ Unit) (isoTimeNow : StateM σ String)
    (transformer : LuaTransformer) (rpc : ParsedRpc) (s : σ) {xmlRead : XmlReader} :
    let platform := LuaTransformer.platform handler log isoTimeNow
    let xml := (RpcHandler.handle platform rpc (transformer, s)).1.responseXml
    RpcHandler.LegalExchange platform rpc (transformer, s) → ReadsAsXml xmlRead xml →
      ∃ answer, ReadBack platform rpc (transformer, s) xmlRead answer ∧
        (rpc.method = "GetParameterValues" →
          (answer.method = "Fault" ↔
            ∃ name ∈ rpc.parameterNames, transformer.knows name = false) ∧
          (answer.method ≠ "Fault" → ∃ method, SoapParser.methodElement xmlRead xml = some method ∧
            SoapParser.listedNames method = rpc.parameterNames)) := by
  intro platform xml hlegal hlibxml
  obtain ⟨answer, hread, hfault⟩ := readBack_of_legal platform rpc (transformer, s) hlegal hlibxml
  refine ⟨answer, hread, fun hmethod => ?_⟩
  obtain ⟨hvalues, hinvalid⟩ := gotten_split handler log isoTimeNow transformer rpc s
  have hfaulty : RpcHandler.faulty platform rpc (transformer, s) = true ↔
      ∃ name ∈ rpc.parameterNames, transformer.knows name = false := by
    rw [RpcHandler.faulty, if_pos hmethod, hinvalid]
    simp
  refine ⟨hfault.trans hfaulty, fun hanswer => ?_⟩
  have hclear : RpcHandler.faulty platform rpc (transformer, s) = false :=
    Bool.eq_false_iff.mpr fun hfaulty => hanswer (hfault.mpr hfaulty)
  obtain ⟨node, hnode, hlisted⟩ :=
    RpcHandler.repliesWith_values platform (transformer, s) hlegal hmethod
  refine ⟨_, (parseRpc_of_repliesWith hnode hlibxml).1, ?_⟩
  -- every name is known, so that none is dropped from the list
  have hknown : ∀ name ∈ rpc.parameterNames, transformer.knows name = true := by
    rw [hclear] at hfaulty
    intro name hname
    by_contra hunknown
    exact absurd (hfaulty.mpr ⟨name, hname, Bool.eq_false_iff.mpr hunknown⟩) Bool.false_ne_true
  rw [hlisted hclear, hvalues]
  exact List.filter_eq_self.mpr hknown

/-- A request for a name twice. -/
def urlTwice : ParsedRpc :=
  { method := "GetParameterValues", cwmpId := "7"
    parameterNames := ["Device.ManagementServer.URL", "Device.ManagementServer.URL"] }

/-- XML as it should be read. -/
def xmlReader : XmlReader :=
  fun xml => (readEncoded xml).map fun root => [XmlNode.ofNode [] root]

theorem urlTwice_listed :
    let platform := LuaTransformer.platform uciHandler (fun _ _ => pure ()) (pure "")
    let xml := (RpcHandler.handle platform urlTwice
      (⟨some plainEngine.toEngine, ""⟩, Store.ofCommitted fun _ => none)).1.responseXml
    ∃ answer, SoapParser.parseRpc xmlReader xml = .ok answer ∧ answer.cwmpId = "7" := by
  intro platform xml
  -- the store has no such option, and the default is empty
  have hgotten : (RpcHandler.gotten platform urlTwice
      (⟨some plainEngine.toEngine, ""⟩, Store.ofCommitted fun _ => none)).1 =
        ([⟨"Device.ManagementServer.URL", "", "xsd:string"⟩,
          ⟨"Device.ManagementServer.URL", "", "xsd:string"⟩], []) := by
    rfl
  have hvisible : LegalBytes "Device.ManagementServer.URL" ∧ LegalBytes "" ∧
      LegalBytes "xsd:string" := by
    refine ⟨?_, ?_, ?_⟩ <;> exact legalBytes_of_visible (by decide)
  have hlegal : RpcHandler.LegalExchange platform urlTwice
      (⟨some plainEngine.toEngine, ""⟩, Store.ofCommitted fun _ => none) := by
    refine ⟨legalBytes_of_visible (by decide), fun _ => ?_, fun _ => ?_, nofun, nofun, nofun⟩
    · rw [hgotten]
      simp [hvisible]
    · rw [hgotten]
      simp
  -- the reader is the one that accepts what conforms
  have hlibxml : ReadsAsXml xmlReader xml := by
    intro root hroot
    rw [xmlReader, hroot]
    rfl
  obtain ⟨answer, hread, -⟩ := readBack_of_embedded uciHandler (fun _ _ => pure ()) (pure "")
    ⟨some plainEngine.toEngine, ""⟩ urlTwice (Store.ofCommitted fun _ => none) hlegal hlibxml
  exact ⟨answer, hread.parsed, hread.cwmpId⟩

end Tr069d
