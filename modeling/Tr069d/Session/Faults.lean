import Tr069d.Session.Answers
import Tr069d.Session.Dialogue
import Tr069d.Transformer.Verdict
import Tr069d.Xml.Contents

/-!
# The parameters that a fault names

Every entry `SetParameterValuesFault` of a fault has one `ParameterName`.  That
element stands in no other message, so that `faultEntries` looks for its tag.

`RpcHandler` writes an entry for each invalid name of a `GetParameterValues`, and
one for the parameter that the transformer reports for a `SetParameterValues`, which
may be the parameter key (`namesRightly_handle_iff`).  Of the items that validation
refuses it names the first, unless that has no name (`faultEntries_refused`).
-/

namespace Tr069d

open Effects Xml

/-- The tag of a parameter that a fault names. -/
def nameTag : List Char :=
  "ParameterName".toList

/-- The names in the entries of a fault, as they are printed. -/
def faultEntries (text : String) : List (List Char) :=
  contentsOf nameTag text.toList

/-- A name, as it is printed. -/
def printedName (name : String) : List Char :=
  escape name.toList

theorem printedName_inj {name other : String} :
    printedName name = printedName other ↔ name = other :=
  escape_injective.eq_iff.trans String.toList_inj

namespace SoapBuilder

/-! ## The entries of a message -/

theorem clean_tag : '>' ∉ nameTag ∧ '/' ∉ nameTag ∧
    ' ' ∉ nameTag := by
  decide

/-- The envelope adds no entry to its body. -/
theorem faultEntries_envelope (id : String) {body : String} {text : List Char}
    (hbody : body.toList = '<' :: text) : faultEntries (envelope id body) = faultEntries body := by
  obtain ⟨hgt, hslash, -⟩ := clean_tag
  have hdeclaration : contentsOf nameTag declaration.toList = [] := by decide
  -- none of the tags around the body is the tag of an entry
  have henvelope : CleanHead "soap-env:Envelope" OutgoingMessage.namespaces ∧
      head "soap-env:Envelope" OutgoingMessage.namespaces ≠ nameTag := by
    unfold CleanHead
    decide
  have hsection : CleanHead "soap-env:Body" [] ∧
      head "soap-env:Body" [] ≠ nameTag := by
    unfold CleanHead
    decide
  have hnames : CleanHead "soap-env:Header" [] ∧
      CleanHead "cwmp:ID" [("soap-env:mustUnderstand", "1")] ∧
        head "soap-env:Header" [] ≠ nameTag ∧
          head "cwmp:ID" [("soap-env:mustUnderstand", "1")] ≠ nameTag := by
    unfold CleanHead
    decide
  -- the id is escaped, so it opens no tag either
  have hheader : contentsOf nameTag (idHeader id).print = [] := by
    have hclean : (idHeader id).Clean := ⟨hnames.1, hnames.2.1, trivial⟩
    rw [contentsOf_print hgt hslash _ hclean]
    simp only [idHeader, Element.contents, contentsAll, if_neg hnames.2.2.1,
      if_neg hnames.2.2.2, List.append_nil]
  rw [faultEntries, toList_envelope, contentsOf_append, hdeclaration, envelopeText, contentOf_pair,
    contentsOf_enclose hgt hslash henvelope.1, if_neg henvelope.2, ← List.cons_append,
    contentsOf_append]
  rw [Element.print] at hheader
  rw [hheader, hbody, contentsOf_enclose hgt hslash hsection.1, if_neg hsection.2, ← hbody]
  rfl

/-- An element in the Body. -/
theorem faultEntries_element (id : String) {element : Element} (h : element.Clean) :
    faultEntries (envelope id (OutgoingMessage.printed element)) =
      element.contents nameTag := by
  have htext : (OutgoingMessage.printed element).toList = '<' :: element.inner := by
    rw [OutgoingMessage.printed, String.toList_ofList, Element.print]
  rw [faultEntries_envelope id htext, faultEntries, OutgoingMessage.printed, String.toList_ofList]
  exact contentsOf_print clean_tag.1 clean_tag.2.1 element h

/-- A response with a list of elements that have no entries. -/
theorem faultEntries_list {α : Type} (id : String) {response type : String}
    {element : α → Element} (items : List α) (hresponse : CleanHead response [])
    (hname : head response [] ≠ nameTag) (hclean : ∀ item, (element item).Clean)
    (hquiet : ∀ item, (element item).contents nameTag = []) :
    faultEntries (envelope id (OutgoingMessage.printed (.branch response []
      [.branch "ParameterList" (OutgoingMessage.arrayType type items)
        (items.map element)]))) = [] := by
  have hlist : CleanHead "ParameterList" (OutgoingMessage.arrayType type items) := by
    refine cleanHead_singleton ?_ ?_ _ <;> exact cleanHead_nil (by decide) (by decide)
  have hlistName : head "ParameterList" (OutgoingMessage.arrayType type items) ≠ nameTag :=
    head_singleton_ne clean_tag.2.2 _ _
  have hbranch : (Element.branch response [] [.branch "ParameterList"
      (OutgoingMessage.arrayType type items) (items.map element)]).Clean :=
    ⟨hresponse, ⟨hlist, cleanAll_map fun item _ => hclean item⟩, trivial⟩
  rw [faultEntries_element id hbranch]
  simp only [Element.contents, contentsAll, contentsAll_map, if_neg hname, if_neg hlistName,
    List.append_nil, List.nil_append]
  exact List.flatMap_eq_nil_iff.mpr fun item _ => hquiet item

theorem faultEntries_getParameterValuesResponse (id : String) (values : List ParameterValue) :
    faultEntries (getParameterValuesResponse id values) = [] := by
  have hnames : head "ParameterValueStruct" [] ≠ nameTag ∧ head "Name" [] ≠ nameTag := by decide
  rw [OutgoingMessage.getParameterValuesResponse_eq]
  refine faultEntries_list id values (cleanHead_nil (by decide) (by decide)) (by decide)
    (fun value => ⟨?_, ?_, ?_, trivial⟩) fun value => ?_
  · exact cleanHead_nil (by decide) (by decide)
  · exact cleanHead_nil (by decide) (by decide)
  · exact cleanHead_singleton (cleanHead_nil (by decide) (by decide))
      (cleanHead_nil (by decide) (by decide)) _
  · simp only [OutgoingMessage.valueElement, Element.contents, contentsAll, if_neg hnames.1,
      if_neg hnames.2, if_neg (head_singleton_ne clean_tag.2.2 _ _), List.append_nil]

theorem faultEntries_getParameterNamesResponse (id : String) (names : List ParameterInfo) :
    faultEntries (getParameterNamesResponse id names) = [] := by
  have hnames : head "ParameterInfoStruct" [] ≠ nameTag ∧ head "Name" [] ≠ nameTag ∧
      head "Writable" [] ≠ nameTag := by
    decide
  rw [OutgoingMessage.getParameterNamesResponse_eq]
  refine faultEntries_list id names (cleanHead_nil (by decide) (by decide)) (by decide)
    (fun value => ⟨?_, ?_, ?_, trivial⟩) fun value => ?_
  · exact cleanHead_nil (by decide) (by decide)
  · exact cleanHead_nil (by decide) (by decide)
  · exact cleanHead_nil (by decide) (by decide)
  · simp only [OutgoingMessage.infoElement, Element.contents, contentsAll, if_neg hnames.1,
      if_neg hnames.2.1, if_neg hnames.2.2, List.append_nil]

theorem faultEntries_setParameterValuesResponse (id : String) :
    faultEntries (setParameterValuesResponse id) = [] := by
  have htext : ("<cwmp:SetParameterValuesResponse><Status>" ++ toString (0 : Int) ++
      "</Status></cwmp:SetParameterValuesResponse>").toList =
        '<' :: ("cwmp:SetParameterValuesResponse><Status>" ++ toString (0 : Int) ++
          "</Status></cwmp:SetParameterValuesResponse>").toList := by
    decide
  rw [setParameterValuesResponse, faultEntries_envelope id htext]
  decide

theorem faultEntries_rebootResponse (id : String) : faultEntries (rebootResponse id) = [] := by
  have htext : "<cwmp:RebootResponse/>".toList = '<' :: "cwmp:RebootResponse/>".toList := by
    decide
  rw [rebootResponse, faultEntries_envelope id htext]
  decide

theorem faultEntries_downloadResponse (id : String) (status : Int) (start complete : String) :
    faultEntries (downloadResponse id status start complete) = [] := by
  have hnames : head "cwmp:DownloadResponse" [] ≠ nameTag ∧ head "Status" [] ≠ nameTag ∧
      head "StartTime" [] ≠ nameTag ∧ head "CompleteTime" [] ≠ nameTag := by
    decide
  have hclean : (OutgoingMessage.downloadResponse id status start complete).body.Clean := by
    refine ⟨?_, ?_, ?_, ?_, trivial⟩ <;> exact cleanHead_nil (by decide) (by decide)
  rw [OutgoingMessage.downloadResponse_eq, faultEntries_element id hclean]
  simp only [OutgoingMessage.body, Element.contents, contentsAll, if_neg hnames.1,
    if_neg hnames.2.1, if_neg hnames.2.2.1, if_neg hnames.2.2.2, List.append_nil]

/-- A fault has one entry for each of its parameters. -/
theorem faultEntries_fault (id : String) (code : Int) (message : String)
    (parameterFaults : List String) :
    faultEntries (fault id code message parameterFaults) = parameterFaults.map printedName := by
  have hnames : head "soap-env:Fault" [] ≠ nameTag ∧ head "faultcode" [] ≠ nameTag ∧
      head "faultstring" [] ≠ nameTag ∧ head "detail" [] ≠ nameTag ∧
      head "cwmp:Fault" [] ≠ nameTag ∧ head "FaultCode" [] ≠ nameTag ∧
      head "FaultString" [] ≠ nameTag ∧ head "SetParameterValuesFault" [] ≠ nameTag ∧
      head "ParameterName" [] = nameTag := by
    decide
  obtain ⟨hfault, hcode, hstring, hdetail, hcwmp, hfaultCode, hfaultString, hentry, hname⟩ := hnames
  have hclean : ∀ name : String, name ∈ ["soap-env:Fault", "faultcode", "faultstring", "detail",
      "cwmp:Fault", "FaultCode", "FaultString", "SetParameterValuesFault", "ParameterName"] →
        CleanHead name [] := by
    unfold CleanHead
    decide
  -- an entry has the tag exactly once, around the printed name
  have hentries : ∀ name, (OutgoingMessage.faultElement name).contents nameTag =
      [printedName name] := by
    intro name
    simp only [OutgoingMessage.faultElement, Element.contents, contentsAll, if_neg hentry,
      if_pos hname, if_neg hfaultCode, if_neg hfaultString, List.append_nil, List.nil_append]
    rfl
  have hbody : (OutgoingMessage.fault id code message parameterFaults).body.Clean := by
    have hfaults : CleanAll (parameterFaults.map OutgoingMessage.faultElement) := by
      refine cleanAll_map fun name _ => ⟨?_, ?_, ?_, ?_, trivial⟩ <;> exact hclean _ (by simp)
    refine ⟨?_, ?_, ?_, ⟨?_, ⟨?_, ?_, ?_, hfaults⟩, trivial⟩, trivial⟩ <;> exact hclean _ (by simp)
  rw [OutgoingMessage.fault_eq, faultEntries_element id hbody]
  simp only [OutgoingMessage.body, Element.contents, contentsAll, contentsAll_map, hentries,
    if_neg hfault, if_neg hcode, if_neg hstring, if_neg hdetail, if_neg hcwmp, if_neg hfaultCode,
    if_neg hfaultString, List.append_nil, List.nil_append]
  exact List.map_eq_flatMap.symm

end SoapBuilder

/-! ## Any transformer -/

/-- Only the answer to a `SetParameterValues` has entries, and they name parameters of
its list. -/
structure NamesRightly (rpc : ParsedRpc) (text : String) : Prop where
  onlySet : faultEntries text ≠ [] → rpc.method = "SetParameterValues"
  listed : ∀ entry ∈ faultEntries text, ∃ value ∈ rpc.parameterValues,
    entry = printedName value.name

section AnyTransformer

variable {σ : Type} (platform : Platform σ) (rpc : ParsedRpc) (s : σ)

open RpcHandler

/-- The transformer finds all names that are asked for, and it refuses a batch for a
parameter of its list, or for none. -/
structure ReportsListed : Prop where
  get : rpc.method = "GetParameterValues" → (gotten platform rpc s).1.2 = []
  set : rpc.method = "SetParameterValues" → (taken platform rpc s).1.success = false →
    (taken platform rpc s).1.failedParameter ≠ "" →
      ∃ value ∈ rpc.parameterValues, value.name = (taken platform rpc s).1.failedParameter

variable {rpc}

theorem namesRightly_of_no_entries {text : String} (h : faultEntries text = []) :
    NamesRightly rpc text :=
  ⟨fun hentries => absurd h hentries, fun entry hentry => by
    rw [h] at hentry
    cases hentry⟩

theorem reportsListed_of_other (hget : rpc.method ≠ "GetParameterValues")
    (hset : rpc.method ≠ "SetParameterValues") : ReportsListed platform rpc s :=
  ⟨fun hmethod => absurd hmethod hget, fun hmethod => absurd hmethod hset⟩

theorem faultEntries_handle_get (hmethod : rpc.method = "GetParameterValues") :
    faultEntries (handle platform rpc s).1.responseXml =
      (gotten platform rpc s).1.2.map printedName := by
  rw [handle_getParameterValues platform s hmethod]
  cases hinvalid : (gotten platform rpc s).1.2 with
  | nil => exact SoapBuilder.faultEntries_getParameterValuesResponse _ _
  | cons name names => exact SoapBuilder.faultEntries_fault _ _ _ _

theorem faultEntries_handle_set (hmethod : rpc.method = "SetParameterValues") :
    faultEntries (handle platform rpc s).1.responseXml =
      if (taken platform rpc s).1.success ∨ (taken platform rpc s).1.failedParameter = "" then []
      else [printedName (taken platform rpc s).1.failedParameter] := by
  rw [handle_setParameterValues platform s hmethod]
  cases (taken platform rpc s).1.success with
  | true => exact SoapBuilder.faultEntries_setParameterValuesResponse _
  | false =>
      rw [if_neg Bool.false_ne_true, SoapBuilder.faultEntries_fault]
      by_cases hfailed : (taken platform rpc s).1.failedParameter = "" <;> simp [hfailed]

/-- Any other RPC is answered without entries. -/
theorem faultEntries_handle_other (hget : rpc.method ≠ "GetParameterValues")
    (hset : rpc.method ≠ "SetParameterValues") :
    faultEntries (handle platform rpc s).1.responseXml = [] := by
  by_cases hnames : rpc.method = "GetParameterNames"
  · rw [handle_getParameterNames platform s hnames]
    split_ifs
    · exact SoapBuilder.faultEntries_getParameterNamesResponse _ _
    · exact SoapBuilder.faultEntries_fault _ _ _ _
  by_cases hreboot : rpc.method = "Reboot"
  · rw [handle_reboot platform s hreboot]
    exact SoapBuilder.faultEntries_rebootResponse _
  by_cases hdownload : ∃ request, rpc.method = "Download" ∧ rpc.download = some request
  · obtain ⟨request, hmethod, hrequest⟩ := hdownload
    rw [handle_download platform s hmethod hrequest]
    exact SoapBuilder.faultEntries_downloadResponse _ _ _ _
  · have hother : rpc.method ∉
        ["GetParameterValues", "GetParameterNames", "SetParameterValues", "Reboot"] := by
      simp [hget, hnames, hset, hreboot]
    rw [handle_unsupported platform s hother fun hmethod => Option.eq_none_iff_forall_ne_some.mpr
      fun request hrequest => hdownload ⟨request, hmethod, hrequest⟩]
    exact SoapBuilder.faultEntries_fault _ _ _ _

/-- A fault names the right parameters exactly if the transformer reports them. -/
theorem namesRightly_handle_iff :
    NamesRightly rpc (handle platform rpc s).1.responseXml ↔ ReportsListed platform rpc s := by
  -- `GetParameterValues`: every unknown name gets an entry, which only a set may have
  by_cases hget : rpc.method = "GetParameterValues"
  · have hset : rpc.method ≠ "SetParameterValues" := by
      rw [hget]
      decide
    have hentries := faultEntries_handle_get platform s hget
    constructor
    · intro h
      refine ⟨fun _ => ?_, fun hmethod => absurd hmethod hset⟩
      by_contra hinvalid
      exact hset (h.onlySet (by rw [hentries]; simpa using hinvalid))
    · intro h
      rw [h.get hget] at hentries
      exact namesRightly_of_no_entries hentries
  -- `SetParameterValues`: the entry is the one that the transformer gave
  by_cases hset : rpc.method = "SetParameterValues"
  · have hentries := faultEntries_handle_set platform s hset
    by_cases hnone : (taken platform rpc s).1.success = true ∨
        (taken platform rpc s).1.failedParameter = ""
    · rw [if_pos hnone] at hentries
      refine iff_of_true (namesRightly_of_no_entries hentries)
        ⟨fun hmethod => absurd hmethod hget, fun _ hrefused hfailed => ?_⟩
      rw [hrefused] at hnone
      exact absurd hnone (by simp [hfailed])
    · rw [if_neg hnone] at hentries
      rw [not_or, Bool.not_eq_true] at hnone
      constructor
      · intro h
        refine ⟨fun hmethod => absurd hmethod hget, fun _ _ _ => ?_⟩
        obtain ⟨value, hvalue, hname⟩ := h.listed _ (by rw [hentries]; exact List.mem_cons_self)
        exact ⟨value, hvalue, (printedName_inj.mp hname).symm⟩
      · intro h
        obtain ⟨value, hvalue, hname⟩ := h.set hset hnone.1 hnone.2
        refine ⟨fun _ => hset, fun entry hentry => ⟨value, hvalue, ?_⟩⟩
        rw [hentries, List.mem_singleton] at hentry
        rw [hentry, hname]
  -- no other answer has entries
  · exact iff_of_true
      (namesRightly_of_no_entries (faultEntries_handle_other platform s hget hset))
      (reportsListed_of_other platform s hget hset)

end AnyTransformer

/-! ## The embedded transformer -/

/-- The parameter of an item is unknown or read-only, or its type or its value is
not the one of the parameter. -/
def isFaulty (model : DeviceMap) (item : ParameterValue) : Bool :=
  match model.lookup item.name with
  | none => true
  | some spec => spec.access ≠ .readWrite || spec.uci.isNone ||
      (validateDeclaredType spec item.type).isSome || !(normalize spec item.value).isOk

/-- The first of these items. -/
def firstFaulty (model : DeviceMap) (items : List ParameterValue) : Option ParameterValue :=
  items.find? (isFaulty model)

/-- Validation refuses an item exactly if it is faulty, and reports its name. -/
theorem checkItem_cases (model : DeviceMap) (item : ParameterValue) :
    (isFaulty model item = true ∧ ∃ message, checkItem model item = .error ⟨item.name, message⟩) ∨
      isFaulty model item = false ∧ ∃ staged, checkItem model item = .ok staged := by
  unfold isFaulty checkItem
  cases model.lookup item.name with
  | none => exact Or.inl ⟨rfl, _, rfl⟩
  | some spec =>
      by_cases haccess : spec.access = .readWrite
      · simp only [haccess, ne_eq, not_true_eq_false, if_false, decide_false, Bool.false_or]
        obtain ⟨_, _, _, _, _, _, _, _, _, uci⟩ := spec
        cases uci with
        | none => exact Or.inl ⟨rfl, _, rfl⟩
        | some location =>
            dsimp only
            cases validateDeclaredType _ item.type with
            | some typeError => exact Or.inl ⟨rfl, _, rfl⟩
            | none =>
                dsimp only
                cases normalize _ item.value with
                | error message => exact Or.inl ⟨rfl, _, rfl⟩
                | ok value => exact Or.inr ⟨rfl, _, rfl⟩
      · simp only [haccess, ne_eq, not_false_eq_true, if_true, decide_true, Bool.true_or]
        exact Or.inl ⟨trivial, _, rfl⟩

theorem checkItems_eq (model : DeviceMap) (items : List ParameterValue) :
    (∃ item message, firstFaulty model items = some item ∧
        checkItems model items = .error ⟨item.name, message⟩) ∨
      firstFaulty model items = none ∧ ∃ staged, checkItems model items = .ok staged := by
  induction items with
  | nil => exact Or.inr ⟨rfl, [], rfl⟩
  | cons item items ih =>
      unfold firstFaulty at ih ⊢
      rcases checkItem_cases model item with ⟨hfaulty, message, hcheck⟩ | ⟨hsound, staged, hcheck⟩
      · rw [List.find?_cons_of_pos hfaulty]
        exact Or.inl ⟨item, message, rfl, by simp only [checkItems, hcheck]⟩
      · rw [List.find?_cons_of_neg (by simp [hsound])]
        rcases ih with ⟨first, message, hfirst, hitems⟩ | ⟨hnone, others, hitems⟩
        · exact Or.inl ⟨first, message, hfirst, by simp only [checkItems, hcheck, hitems]⟩
        · exact Or.inr ⟨hnone, staged :: others, by simp only [checkItems, hcheck, hitems]⟩

section Embedded

variable {σ : Type} {handler : (c : SystemCall) → σ → system.Answer c × σ}

variable (log : LogLevel → String → StateM σ Unit) (isoTimeNow : StateM σ String)

/-- The log lines leave the transformer alone. -/
theorem logValues_transformer (what : String) (values : List ParameterValue)
    (transformer : LuaTransformer) (s : σ) :
    (RpcHandler.logValues (LuaTransformer.platform handler log isoTimeNow) what values
      (transformer, s)).2.1 = transformer := by
  unfold RpcHandler.logValues
  induction values generalizing s with
  | nil => rfl
  | cons value values ih => exact ih _

theorem taken_refused {rpc : ParsedRpc} {engine : Engine} {error : SetError}
    (h : Engine.checkAll engine.model rpc.parameterValues rpc.parameterKey = .error error)
    (lastError : String) (s : σ) :
    (RpcHandler.taken (LuaTransformer.platform handler log isoTimeNow) rpc
      (⟨some engine, lastError⟩, s)).1 = LuaTransformer.setResult (.error error) := by
  simp only [RpcHandler.taken, stateM_bind_apply]
  generalize hlogged : RpcHandler.logValues (LuaTransformer.platform handler log isoTimeNow)
    "set request" rpc.parameterValues _ = logged
  have htransformer : logged.2.1 = ⟨some engine, lastError⟩ := by
    rw [← hlogged]
    exact logValues_transformer log isoTimeNow _ _ _ _
  obtain ⟨_, transformer, s'⟩ := logged
  subst htransformer
  have hrefused : ((engine.setParameterValues rpc.parameterValues rpc.parameterKey).run
      handler s').1 = (.error error, engine) :=
    engine.run_setParameterValues_refused s' h
  simp only [LuaTransformer.platform, LuaTransformer.api, LuaTransformer.setParameterValues,
    Prog.run_bind, hrefused]
  rfl

/-- The entries of the fault for a batch that validation refuses. -/
theorem faultEntries_refused {rpc : ParsedRpc} (hmethod : rpc.method = "SetParameterValues")
    {engine : Engine} {error : SetError}
    (h : Engine.checkAll engine.model rpc.parameterValues rpc.parameterKey = .error error)
    (lastError : String) (s : σ) :
    faultEntries (RpcHandler.handle (LuaTransformer.platform handler log isoTimeNow) rpc
        (⟨some engine, lastError⟩, s)).1.responseXml =
      if error.path = "" then [] else [printedName error.path] := by
  rw [faultEntries_handle_set _ _ hmethod, taken_refused log isoTimeNow h]
  simp [LuaTransformer.setResult]

end Embedded

/-- Validation refuses the batch, or the parameter key with it. -/
def Refused (model : DeviceMap) (rpc : ParsedRpc) : Prop :=
  rpc.method = "SetParameterValues" ∧
    ∃ error, Engine.checkAll model rpc.parameterValues rpc.parameterKey = .error error

/-- If the batch is refused, its first faulty item is named, and nothing else. -/
def NamesFirst (model : DeviceMap) (rpc : ParsedRpc) (text : String) : Prop :=
  Refused model rpc → faultEntries text =
    (firstFaulty model rpc.parameterValues).toList.map fun item => printedName item.name

/-- If the batch is refused, it has a faulty item, and the first one has a name. -/
def FirstHasName (model : DeviceMap) (rpc : ParsedRpc) : Prop :=
  Refused model rpc → ∃ item, firstFaulty model rpc.parameterValues = some item ∧ item.name ≠ ""

theorem path_of_checkParameterKey {model : DeviceMap} {parameterKey : String} {error : SetError}
    (h : checkParameterKey model parameterKey = .error error) :
    error.path = Engine.parameterKeyPath := by
  unfold checkParameterKey at h
  split at h
  · cases h
    rfl
  · split at h
    · cases h
      rfl
    · split at h
      · cases h
        rfl
      · cases h

/-- The error that a refused batch is reported with. -/
theorem error_of_checkAll {model : DeviceMap} {items : List ParameterValue}
    {parameterKey : String} {error : SetError}
    (h : Engine.checkAll model items parameterKey = .error error) :
    (∃ item, firstFaulty model items = some item ∧ error.path = item.name) ∨
      firstFaulty model items = none ∧ error.path = Engine.parameterKeyPath := by
  unfold Engine.checkAll at h
  rcases checkItems_eq model items with ⟨item, message, hfirst, hitems⟩ | ⟨hnone, staged, hitems⟩
  · rw [hitems] at h
    cases h
    exact Or.inl ⟨item, hfirst, rfl⟩
  · rw [hitems] at h
    cases hkey : checkParameterKey model parameterKey with
    | error keyError =>
        rw [hkey] at h
        cases h
        exact Or.inr ⟨hnone, path_of_checkParameterKey hkey⟩
    | ok normalizedKey =>
        rw [hkey] at h
        cases h

/-- When `RpcHandler::handle` names the right parameters: for any transformer, and for
what the embedded one refuses. -/
theorem handle_names_iff {σ : Type} :
    (∀ (platform : Platform σ) (rpc : ParsedRpc) (s : σ),
      NamesRightly rpc (RpcHandler.handle platform rpc s).1.responseXml ↔
        ReportsListed platform rpc s) ∧
    ∀ (handler : (c : SystemCall) → σ → system.Answer c × σ)
      (log : LogLevel → String → StateM σ Unit) (isoTimeNow : StateM σ String) (engine : Engine)
      (lastError : String) (s : σ) (rpc : ParsedRpc),
      NamesFirst engine.model rpc (RpcHandler.handle
        (LuaTransformer.platform handler log isoTimeNow) rpc
        (⟨some engine, lastError⟩, s)).1.responseXml ↔ FirstHasName engine.model rpc := by
  refine ⟨fun platform rpc s => namesRightly_handle_iff platform s, ?_⟩
  intro handler log isoTimeNow engine lastError s rpc
  refine forall_congr' fun hrefused => ?_
  obtain ⟨hmethod, error, herror⟩ := hrefused
  rw [faultEntries_refused log isoTimeNow hmethod herror]
  rcases error_of_checkAll herror with ⟨item, hfirst, hpath⟩ | ⟨hnone, hpath⟩
  · rw [hpath, hfirst]
    by_cases hname : item.name = ""
    · simp [hname]
    · simp [hname]
  · have hkey : Engine.parameterKeyPath ≠ "" := by decide
    rw [hpath, hnone, if_neg hkey]
    simp

/-- A `GetParameterValues` for an unknown name is answered with an entry for it. -/
theorem unknownName_not_rightly :
    ¬NamesRightly { method := "GetParameterValues", parameterNames := ["Device.Unknown"] }
      (RpcHandler.handle CwmpSession.uciPlatform
        { method := "GetParameterValues", parameterNames := ["Device.Unknown"] }
        CwmpSession.freshSession.platformState).1.responseXml := by
  intro h
  have hinvalid := ((namesRightly_handle_iff _ _).mp h).get rfl
  cases hinvalid

end Tr069d
