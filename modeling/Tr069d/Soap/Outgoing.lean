import Tr069d.Soap.Builder
import Tr069d.Xml.RoundTrip

/-!
# What the ACS reads

Every message of `SoapBuilder` is the print of a tree, so that a reader of XML
recovers the tree up to the normalization of line ends and of white space in
attribute values.  `escape` leaves CR alone in both places, and TAB and LF in
the attribute `xsi:type`; these are the strings that do not survive.

* `OutgoingMessage` are the messages that carry data, with `text` for what the builder
  writes and `tree` for what that says.
* `printed_branch`, `printed_leaf` and `printed_array` put a print together from those of
  the parts, and there is one equation for each message.
* `text_eq` says that the text is the print of the tree, and that is all the modules
  after this one use of the builder.
-/

namespace Tr069d

open Xml

/-- The time that `isoTimeNow` writes. -/
structure UtcTime where
  year : Nat
  month : Fin 13
  day : Fin 32
  hour : Fin 24
  minute : Fin 60
  second : Fin 61

/-- A number with at least two digits. -/
def twoDigits (number : Nat) : String :=
  if number < 10 then "0" ++ toString number else toString number

/-- `%Y-%m-%dT%H:%M:%SZ` -/
def UtcTime.iso (time : UtcTime) : String :=
  toString time.year ++ "-" ++ twoDigits time.month ++ "-" ++ twoDigits time.day ++ "T" ++
    twoDigits time.hour ++ ":" ++ twoDigits time.minute ++ ":" ++ twoDigits time.second ++ "Z"

/-- The messages that carry data. -/
inductive OutgoingMessage
  | inform (id : String) (device : SoapBuilder.DeviceId) (events : List String)
      (params : List ParameterValue) (time : UtcTime) (retryCount : Nat)
  | getParameterValuesResponse (id : String) (values : List ParameterValue)
  | getParameterNamesResponse (id : String) (values : List ParameterInfo)
  | transferComplete (id : String) (result : TransferResult)
  | downloadResponse (id : String) (status : Int) (start complete : String)
  | fault (id : String) (code : Int) (message : String) (parameterFaults : List String)

namespace OutgoingMessage

/-- The text that `SoapBuilder` writes. -/
def text : OutgoingMessage → String
  | inform id device events params time retryCount =>
      SoapBuilder.inform id device events params time.iso retryCount
  | getParameterValuesResponse id values => SoapBuilder.getParameterValuesResponse id values
  | getParameterNamesResponse id values => SoapBuilder.getParameterNamesResponse id values
  | transferComplete id result => SoapBuilder.transferComplete id result
  | downloadResponse id status start complete =>
      SoapBuilder.downloadResponse id status start complete
  | fault id code message parameterFaults => SoapBuilder.fault id code message parameterFaults

/-- The id of the message. -/
def id : OutgoingMessage → String
  | inform id _ _ _ _ _ | getParameterValuesResponse id _ | getParameterNamesResponse id _
  | transferComplete id _ | downloadResponse id _ _ _ | fault id _ _ _ => id

/-- The values of the message, whose types are written as attributes. -/
def values : OutgoingMessage → List ParameterValue
  | inform _ _ _ params _ _ => params
  | getParameterValuesResponse _ values => values
  | _ => []

/-- The strings of the message that are written as data. -/
def contents : OutgoingMessage → List String
  | inform id device events params _ _ =>
      [id, device.manufacturer, device.oui, device.productClass, device.serialNumber] ++ events ++
        params.map (·.name) ++ params.map (·.value)
  | getParameterValuesResponse id values => id :: values.map (·.name) ++ values.map (·.value)
  | getParameterNamesResponse id values => id :: values.map (·.name)
  | transferComplete id result =>
      [id, result.commandKey, result.faultString, result.startTime, result.completeTime]
  | downloadResponse id _ start complete => [id, start, complete]
  | fault id _ message parameterFaults => id :: message :: parameterFaults

/-! ## The tree of a message -/

/-- `soap-enc:arrayType`, with the number of the elements. -/
def arrayType {α : Type} (type : String) (elements : List α) : List (String × String) :=
  [("soap-enc:arrayType", "cwmp:" ++ type ++ "[" ++ toString elements.length ++ "]")]

def valueElement (value : ParameterValue) : Element :=
  .branch "ParameterValueStruct" []
    [.leaf "Name" [] value.name, .leaf "Value" [("xsi:type", value.type)] value.value]

def infoElement (info : ParameterInfo) : Element :=
  .branch "ParameterInfoStruct" []
    [.leaf "Name" [] info.name, .leaf "Writable" [] (if info.writable then "1" else "0")]

def eventElement (event : String) : Element :=
  .branch "EventStruct" [] [.leaf "EventCode" [] event, .leaf "CommandKey" [] ""]

def faultElement (name : String) : Element :=
  .branch "SetParameterValuesFault" []
    [.leaf "ParameterName" [] name, .leaf "FaultCode" [] "9007",
     .leaf "FaultString" [] "Invalid parameter value"]

/-- The element in the Body. -/
def body : OutgoingMessage → Element
  | inform _ device events params time retryCount =>
      .branch "cwmp:Inform" []
        [.branch "DeviceId" []
          [.leaf "Manufacturer" [] device.manufacturer, .leaf "OUI" [] device.oui,
           .leaf "ProductClass" [] device.productClass,
           .leaf "SerialNumber" [] device.serialNumber],
         .branch "Event" (arrayType "EventStruct" events) (events.map eventElement),
         .leaf "MaxEnvelopes" [] "1", .leaf "CurrentTime" [] time.iso,
         .leaf "RetryCount" [] (toString retryCount),
         .branch "ParameterList" (arrayType "ParameterValueStruct" params)
          (params.map valueElement)]
  | getParameterValuesResponse _ values =>
      .branch "cwmp:GetParameterValuesResponse" []
        [.branch "ParameterList" (arrayType "ParameterValueStruct" values)
          (values.map valueElement)]
  | getParameterNamesResponse _ values =>
      .branch "cwmp:GetParameterNamesResponse" []
        [.branch "ParameterList" (arrayType "ParameterInfoStruct" values)
          (values.map infoElement)]
  | transferComplete _ result =>
      .branch "cwmp:TransferComplete" []
        [.leaf "CommandKey" [] result.commandKey,
         .branch "FaultStruct" []
          [.leaf "FaultCode" [] (toString result.faultCode),
           .leaf "FaultString" [] result.faultString],
         .leaf "StartTime" [] result.startTime, .leaf "CompleteTime" [] result.completeTime]
  | downloadResponse _ status start complete =>
      .branch "cwmp:DownloadResponse" []
        [.leaf "Status" [] (toString status), .leaf "StartTime" [] start,
         .leaf "CompleteTime" [] complete]
  | fault _ code message parameterFaults =>
      .branch "soap-env:Fault" []
        [.leaf "faultcode" [] "Client", .leaf "faultstring" [] "CWMP fault",
         .branch "detail" []
          [.branch "cwmp:Fault" []
            (.leaf "FaultCode" [] (toString code) :: .leaf "FaultString" [] message ::
              parameterFaults.map faultElement)]]

/-- The namespaces that the envelope declares. -/
def namespaces : List (String × String) :=
  [("xmlns:soap-env", "http://schemas.xmlsoap.org/soap/envelope/"),
   ("xmlns:soap-enc", "http://schemas.xmlsoap.org/soap/encoding/"),
   ("xmlns:xsd", "http://www.w3.org/2001/XMLSchema"),
   ("xmlns:xsi", "http://www.w3.org/2001/XMLSchema-instance"),
   ("xmlns:cwmp", "urn:dslforum-org:cwmp-1-2")]

/-- An envelope with an id and a body. -/
def envelopeElement (id : String) (body : Element) : Element :=
  .branch "soap-env:Envelope" namespaces
    [.branch "soap-env:Header" [] [.leaf "cwmp:ID" [("soap-env:mustUnderstand", "1")] id],
     .branch "soap-env:Body" [] [body]]

/-- What the message says. -/
def tree (message : OutgoingMessage) : Element :=
  envelopeElement message.id message.body

/-! ## Plain strings -/

/-- Letters, digits and the signs of a time or a number: nothing that is escaped
or normalized. -/
def isPlain (c : Char) : Bool :=
  c.isAlphanum || c = '-' || c = ':' || c = ' '

def Plain (text : String) : Prop :=
  text.toList.all isPlain = true

instance (text : String) : Decidable (Plain text) := inferInstanceAs (Decidable (_ = true))

theorem plain_append_iff {first second : String} :
    Plain (first ++ second) ↔ Plain first ∧ Plain second := by
  unfold Plain
  rw [String.toList_append, List.all_append, Bool.and_eq_true]

theorem plain_nat (number : Nat) : Plain (toString number) := by
  rw [Plain, List.all_eq_true]
  intro c hc
  have hdigit : c.isDigit = true := by
    rw [Nat.toString_eq_ofList_toDigits, String.toList_ofList] at hc
    exact Nat.isDigit_of_mem_toDigits (by decide) (by decide) hc
  simp [isPlain, Char.isAlphanum, hdigit]

theorem plain_int (number : Int) : Plain (toString number) := by
  rw [Int.toString_eq_repr, Int.repr_eq_if, ← Nat.toString_eq_repr, ← Nat.toString_eq_repr]
  split_ifs
  · exact plain_nat _
  · exact plain_append_iff.mpr ⟨by decide, plain_nat _⟩

theorem plain_iso (time : UtcTime) : Plain time.iso := by
  have htwo : ∀ number, Plain (twoDigits number) := by
    intro number
    unfold twoDigits
    split_ifs
    · exact plain_append_iff.mpr ⟨by decide, plain_nat number⟩
    · exact plain_nat number
  have hsigns : Plain "-" ∧ Plain "T" ∧ Plain ":" ∧ Plain "Z" := by decide
  simp only [UtcTime.iso, plain_append_iff, hsigns, htwo, plain_nat, and_true]

/-! ## The text is the print of the tree -/

/-- `SoapBuilder` escapes as the printer does. -/
theorem toList_escape (value : String) :
    (SoapBuilder.escape value).toList = Xml.escape value.toList := by
  have hjoin : ∀ texts : List String, (String.join texts).toList = texts.flatMap String.toList := by
    intro texts
    simp
  rw [SoapBuilder.escape, hjoin, Xml.escape, List.flatMap_map]
  congr 1
  funext c
  unfold escapeChar
  split <;> simp

theorem escape_of_plain {value : String} (h : Plain value) :
    Xml.escape value.toList = value.toList := by
  have hchar : ∀ c ∈ value.toList, escapeChar c = [c] := by
    intro c hc
    have hplain := List.all_eq_true.mp h c hc
    unfold escapeChar
    split <;> first | rfl | exact absurd hplain (by decide)
  rw [Xml.escape, List.flatMap_congr hchar, List.flatMap_singleton']

/-- A start tag, up to its attributes. -/
def openTag (name : String) : String :=
  "<" ++ name ++ ">"

def openTagWith (name key value : String) : String :=
  "<" ++ name ++ " " ++ key ++ "=\"" ++ value ++ "\">"

def closeTag (name : String) : String :=
  "</" ++ name ++ ">"

/-- The print of an element, as a string. -/
def printed (element : Element) : String :=
  String.ofList element.print

def printedAll (elements : List Element) : String :=
  String.ofList (printAll elements)

theorem printedAll_nil : printedAll [] = "" := rfl

theorem printedAll_cons (element : Element) (rest : List Element) :
    printedAll (element :: rest) = printed element ++ printedAll rest := by
  simp [printedAll, printed, printAll, Element.print, String.append_assoc]

theorem printed_leaf (name content : String) :
    printed (.leaf name [] content) =
      openTag name ++ SoapBuilder.escape content ++ closeTag name := by
  rw [← String.toList_inj]
  simp [printed, openTag, closeTag, toList_escape, Element.print, Element.inner, printAttributes]

theorem printed_leaf_of_plain {name content : String} (h : Plain content) :
    printed (.leaf name [] content) = openTag name ++ content ++ closeTag name := by
  rw [← String.toList_inj]
  simp [printed, openTag, closeTag, escape_of_plain h, Element.print, Element.inner,
    printAttributes]

theorem printed_leaf_with (name key value content : String) :
    printed (.leaf name [(key, value)] content) =
      openTagWith name key (SoapBuilder.escape value) ++ SoapBuilder.escape content ++
        closeTag name := by
  rw [← String.toList_inj]
  simp [printed, openTagWith, closeTag, toList_escape, Element.print, Element.inner,
    printAttributes]

theorem printed_branch (name : String) (children : List Element) :
    printed (.branch name [] children) = openTag name ++ printedAll children ++ closeTag name := by
  rw [← String.toList_inj]
  simp [printed, printedAll, openTag, closeTag, Element.print, Element.inner, printAttributes]

theorem printed_branch_with (name key value : String) (children : List Element) :
    printed (.branch name [(key, value)] children) =
      openTagWith name key (SoapBuilder.escape value) ++ printedAll children ++
        closeTag name := by
  rw [← String.toList_inj]
  simp [printed, printedAll, openTagWith, closeTag, toList_escape, Element.print, Element.inner,
    printAttributes]

/-- A list of elements is printed one after the other. -/
theorem printedAll_map {α : Type} {element : α → Element} {write : α → String}
    (h : ∀ value, write value = printed (element value)) (values : List α) :
    String.join (values.map write) = printedAll (values.map element) := by
  induction values with
  | nil => rfl
  | cons value values ih =>
      rw [List.map_cons, List.map_cons, printedAll_cons, ← h, ← ih, String.join_cons]

theorem valueStruct_eq (value : ParameterValue) :
    SoapBuilder.valueStruct value = printed (valueElement value) := by
  have hopen : "<ParameterValueStruct><Name>" =
      openTag "ParameterValueStruct" ++ openTag "Name" := by
    simp [openTag]
  have hvalue : "</Name><Value xsi:type=\"" = closeTag "Name" ++ "<Value xsi:type=\"" := by
    simp [closeTag]
  have htype : ∀ type, openTagWith "Value" "xsi:type" type =
      "<Value xsi:type=\"" ++ type ++ "\">" := by
    simp [openTagWith]
  have hclose : "</Value></ParameterValueStruct>" =
      closeTag "Value" ++ closeTag "ParameterValueStruct" := by
    simp [closeTag]
  unfold SoapBuilder.valueStruct valueElement
  rw [hopen, hvalue, hclose, printed_branch, printedAll_cons, printedAll_cons, printedAll_nil,
    printed_leaf, printed_leaf_with, htype]
  simp only [String.append_assoc, String.append_empty]

/-- The start tag of the envelope. -/
theorem printed_envelope (children : List Element) :
    printed (.branch "soap-env:Envelope" namespaces children) =
      "<soap-env:Envelope xmlns:soap-env=\"http://schemas.xmlsoap.org/soap/envelope/\" " ++
      "xmlns:soap-enc=\"http://schemas.xmlsoap.org/soap/encoding/\" " ++
      "xmlns:xsd=\"http://www.w3.org/2001/XMLSchema\" " ++
      "xmlns:xsi=\"http://www.w3.org/2001/XMLSchema-instance\" " ++
      "xmlns:cwmp=\"urn:dslforum-org:cwmp-1-2\">" ++ printedAll children ++
      closeTag "soap-env:Envelope" := by
  have htag : String.ofList ('<' :: "soap-env:Envelope".toList ++ printAttributes namespaces ++
      ['>']) =
      "<soap-env:Envelope xmlns:soap-env=\"http://schemas.xmlsoap.org/soap/envelope/\" " ++
      "xmlns:soap-enc=\"http://schemas.xmlsoap.org/soap/encoding/\" " ++
      "xmlns:xsd=\"http://www.w3.org/2001/XMLSchema\" " ++
      "xmlns:xsi=\"http://www.w3.org/2001/XMLSchema-instance\" " ++
      "xmlns:cwmp=\"urn:dslforum-org:cwmp-1-2\">" := by
    decide +kernel
  rw [← htag, ← String.toList_inj]
  simp only [printed, printedAll, closeTag, Element.print, Element.inner, String.toList_append,
    String.toList_ofList, List.append_assoc, List.cons_append, List.nil_append]
  rfl

theorem envelope_eq (id : String) (element : Element) :
    SoapBuilder.envelope id (printed element) =
      declaration ++ printed (envelopeElement id element) := by
  have hheader : "<soap-env:Header><cwmp:ID soap-env:mustUnderstand=\"1\">" =
      openTag "soap-env:Header" ++ openTagWith "cwmp:ID" "soap-env:mustUnderstand" "1" := by
    simp [openTag, openTagWith]
  have hone : SoapBuilder.escape "1" = "1" := by decide
  have hbody : "</cwmp:ID></soap-env:Header><soap-env:Body>" =
      closeTag "cwmp:ID" ++ closeTag "soap-env:Header" ++ openTag "soap-env:Body" := by
    simp [openTag, closeTag]
  have hclose : "</soap-env:Body></soap-env:Envelope>" =
      closeTag "soap-env:Body" ++ closeTag "soap-env:Envelope" := by
    simp [closeTag]
  unfold SoapBuilder.envelope envelopeElement declaration
  rw [hheader, hbody, hclose, printed_envelope, printedAll_cons, printedAll_cons, printedAll_nil,
    printed_branch, printed_branch, printedAll_cons, printedAll_cons, printedAll_nil,
    printed_leaf_with, hone]
  simp only [String.append_assoc, String.append_empty]

/-- A list with its count. -/
theorem printed_array {α : Type} (name type : String) {element : α → Element}
    {write : α → String} (hwrite : ∀ value, write value = printed (element value))
    (htype : Plain type) (values : List α) :
    printed (.branch name (arrayType type values) (values.map element)) =
      "<" ++ name ++ " soap-enc:arrayType=\"cwmp:" ++ type ++ "[" ++ SoapBuilder.count values ++
        "]\">" ++ String.join (values.map write) ++ closeTag name := by
  have hvalue : SoapBuilder.escape ("cwmp:" ++ type ++ "[" ++ toString values.length ++ "]") =
      "cwmp:" ++ type ++ "[" ++ toString values.length ++ "]" := by
    have hcwmp : SoapBuilder.escape "cwmp:" = "cwmp:" := by decide
    have hbrackets : SoapBuilder.escape "[" = "[" ∧ SoapBuilder.escape "]" = "]" := by
      decide
    have happend : ∀ first second : String, SoapBuilder.escape (first ++ second) =
        SoapBuilder.escape first ++ SoapBuilder.escape second := by
      intro first second
      rw [← String.toList_inj, toList_escape]
      simp only [String.toList_append, toList_escape, escape_append]
    have hplain : ∀ {text : String}, Plain text → SoapBuilder.escape text = text := by
      intro text htext
      rw [← String.toList_inj, toList_escape, escape_of_plain htext]
    simp only [happend, hcwmp, hbrackets, hplain htype, hplain (plain_nat _)]
  rw [printedAll_map hwrite, arrayType, printed_branch_with, hvalue, ← String.toList_inj]
  simp [openTagWith, SoapBuilder.count]

theorem event_eq (event : String) :
    "<EventStruct><EventCode>" ++ SoapBuilder.escape event ++
      "</EventCode><CommandKey></CommandKey></EventStruct>" = printed (eventElement event) := by
  have hopen : "<EventStruct><EventCode>" = openTag "EventStruct" ++ openTag "EventCode" := by
    simp [openTag]
  have hclose : "</EventCode><CommandKey></CommandKey></EventStruct>" =
      closeTag "EventCode" ++ (openTag "CommandKey" ++ "" ++ closeTag "CommandKey") ++
        closeTag "EventStruct" := by
    simp [openTag, closeTag]
  unfold eventElement
  rw [hopen, hclose, printed_branch, printedAll_cons, printedAll_cons, printedAll_nil, printed_leaf,
    printed_leaf_of_plain (show Plain "" by decide)]
  simp only [String.append_assoc, String.append_empty]

theorem info_eq (info : ParameterInfo) :
    "<ParameterInfoStruct><Name>" ++ SoapBuilder.escape info.name ++ "</Name><Writable>" ++
      (if info.writable then "1" else "0") ++ "</Writable></ParameterInfoStruct>" =
        printed (infoElement info) := by
  have hopen : "<ParameterInfoStruct><Name>" = openTag "ParameterInfoStruct" ++ openTag "Name" := by
    simp [openTag]
  have hmiddle : "</Name><Writable>" = closeTag "Name" ++ openTag "Writable" := by
    simp [openTag, closeTag]
  have hclose : "</Writable></ParameterInfoStruct>" =
      closeTag "Writable" ++ closeTag "ParameterInfoStruct" := by
    simp [closeTag]
  have hplain : Plain (if info.writable then "1" else "0") := by
    split_ifs <;> decide
  unfold infoElement
  rw [hopen, hmiddle, hclose, printed_branch, printedAll_cons, printedAll_cons, printedAll_nil,
    printed_leaf, printed_leaf_of_plain hplain]
  simp only [String.append_assoc, String.append_empty]

theorem parameterFault_eq (name : String) :
    "<SetParameterValuesFault><ParameterName>" ++ SoapBuilder.escape name ++
      "</ParameterName><FaultCode>9007</FaultCode><FaultString>" ++
      "Invalid parameter value</FaultString></SetParameterValuesFault>" =
        printed (faultElement name) := by
  have hopen : "<SetParameterValuesFault><ParameterName>" =
      openTag "SetParameterValuesFault" ++ openTag "ParameterName" := by
    simp [openTag]
  have hcode : "</ParameterName><FaultCode>9007</FaultCode><FaultString>" =
      closeTag "ParameterName" ++ (openTag "FaultCode" ++ "9007" ++ closeTag "FaultCode") ++
        openTag "FaultString" := by
    simp [openTag, closeTag]
  have hclose : "Invalid parameter value</FaultString></SetParameterValuesFault>" =
      "Invalid parameter value" ++ closeTag "FaultString" ++
        closeTag "SetParameterValuesFault" := by
    simp [closeTag]
  unfold faultElement
  rw [hopen, hcode, hclose, printed_branch, printedAll_cons, printedAll_cons, printedAll_cons,
    printedAll_nil, printed_leaf, printed_leaf_of_plain (show Plain "9007" by decide),
    printed_leaf_of_plain (show Plain "Invalid parameter value" by decide)]
  simp only [String.append_assoc, String.append_empty]

/-! ### The messages -/

theorem inform_eq (id : String) (device : SoapBuilder.DeviceId) (events : List String)
    (params : List ParameterValue) (time : UtcTime) (retryCount : Nat) :
    SoapBuilder.inform id device events params time.iso retryCount =
      SoapBuilder.envelope id
        (printed (inform id device events params time retryCount).body) := by
  -- the literals of the builder are runs of tags, and are cut into these here
  have hopen : "<cwmp:Inform><DeviceId>" = openTag "cwmp:Inform" ++ openTag "DeviceId" := by
    simp [openTag]
  have hmanufacturer : "<Manufacturer>" = openTag "Manufacturer" ∧
      "</Manufacturer>" = closeTag "Manufacturer" := by
    simp [openTag, closeTag]
  have houi : "<OUI>" = openTag "OUI" ∧ "</OUI>" = closeTag "OUI" := by
    simp [openTag, closeTag]
  have hproduct : "<ProductClass>" = openTag "ProductClass" ∧
      "</ProductClass>" = closeTag "ProductClass" := by
    simp [openTag, closeTag]
  have hserial : "<SerialNumber>" = openTag "SerialNumber" ∧
      "</SerialNumber>" = closeTag "SerialNumber" := by
    simp [openTag, closeTag]
  have hevent : "</DeviceId><Event soap-enc:arrayType=\"cwmp:EventStruct[" =
      closeTag "DeviceId" ++
        ("<" ++ "Event" ++ " soap-enc:arrayType=\"cwmp:" ++ "EventStruct" ++ "[") := by
    simp [closeTag]
  have htime : "</Event><MaxEnvelopes>1</MaxEnvelopes><CurrentTime>" =
      closeTag "Event" ++ (openTag "MaxEnvelopes" ++ "1" ++ closeTag "MaxEnvelopes") ++
        openTag "CurrentTime" := by
    simp [openTag, closeTag]
  have hretry : "</CurrentTime><RetryCount>" = closeTag "CurrentTime" ++ openTag "RetryCount" := by
    simp [openTag, closeTag]
  have hlist : "</RetryCount><ParameterList soap-enc:arrayType=\"cwmp:ParameterValueStruct[" =
      closeTag "RetryCount" ++ ("<" ++ "ParameterList" ++ " soap-enc:arrayType=\"cwmp:" ++
        "ParameterValueStruct" ++ "[") := by
    simp [closeTag]
  have hclose : "</ParameterList></cwmp:Inform>" =
      closeTag "ParameterList" ++ closeTag "cwmp:Inform" := by
    simp [closeTag]
  unfold SoapBuilder.inform body
  rw [hopen, hmanufacturer.1, hmanufacturer.2, houi.1, houi.2, hproduct.1, hproduct.2, hserial.1,
    hserial.2, hevent, htime, hretry, hlist, hclose]
  -- then both sides are the same concatenation, up to where it is bracketed
  simp only [printed_branch, printedAll_cons, printedAll_nil, printed_leaf,
    printed_array _ _ event_eq (show Plain "EventStruct" by decide),
    printed_array _ _ valueStruct_eq (show Plain "ParameterValueStruct" by decide),
    printed_leaf_of_plain (plain_nat _), printed_leaf_of_plain (plain_iso _),
    printed_leaf_of_plain (show Plain "1" by decide), String.append_assoc, String.append_empty]

theorem getParameterValuesResponse_eq (id : String) (values : List ParameterValue) :
    SoapBuilder.getParameterValuesResponse id values =
      SoapBuilder.envelope id (printed (getParameterValuesResponse id values).body) := by
  have hopen : "<cwmp:GetParameterValuesResponse><ParameterList " ++
      "soap-enc:arrayType=\"cwmp:ParameterValueStruct[" =
      openTag "cwmp:GetParameterValuesResponse" ++ ("<" ++ "ParameterList" ++
        " soap-enc:arrayType=\"cwmp:" ++ "ParameterValueStruct" ++ "[") := by
    simp [openTag]
  have hclose : "</ParameterList></cwmp:GetParameterValuesResponse>" =
      closeTag "ParameterList" ++ closeTag "cwmp:GetParameterValuesResponse" := by
    simp [closeTag]
  unfold SoapBuilder.getParameterValuesResponse body
  rw [hopen, hclose, printed_branch, printedAll_cons, printedAll_nil,
    printed_array _ _ valueStruct_eq (by decide)]
  simp only [String.append_assoc, String.append_empty]

theorem getParameterNamesResponse_eq (id : String) (values : List ParameterInfo) :
    SoapBuilder.getParameterNamesResponse id values =
      SoapBuilder.envelope id (printed (getParameterNamesResponse id values).body) := by
  have hopen : "<cwmp:GetParameterNamesResponse><ParameterList " ++
      "soap-enc:arrayType=\"cwmp:ParameterInfoStruct[" =
      openTag "cwmp:GetParameterNamesResponse" ++ ("<" ++ "ParameterList" ++
        " soap-enc:arrayType=\"cwmp:" ++ "ParameterInfoStruct" ++ "[") := by
    simp [openTag]
  have hclose : "</ParameterList></cwmp:GetParameterNamesResponse>" =
      closeTag "ParameterList" ++ closeTag "cwmp:GetParameterNamesResponse" := by
    simp [closeTag]
  unfold SoapBuilder.getParameterNamesResponse body
  rw [hopen, hclose, printed_branch, printedAll_cons, printedAll_nil,
    printed_array _ _ info_eq (by decide)]
  simp only [String.append_assoc, String.append_empty]

theorem transferComplete_eq (id : String) (result : TransferResult) :
    SoapBuilder.transferComplete id result =
      SoapBuilder.envelope id (printed (transferComplete id result).body) := by
  have hopen : "<cwmp:TransferComplete><CommandKey>" =
      openTag "cwmp:TransferComplete" ++ openTag "CommandKey" := by
    simp [openTag]
  have hcode : "</CommandKey><FaultStruct><FaultCode>" =
      closeTag "CommandKey" ++ openTag "FaultStruct" ++ openTag "FaultCode" := by
    simp [openTag, closeTag]
  have htext : "</FaultCode><FaultString>" = closeTag "FaultCode" ++ openTag "FaultString" := by
    simp [openTag, closeTag]
  have hstart : "</FaultString></FaultStruct><StartTime>" =
      closeTag "FaultString" ++ closeTag "FaultStruct" ++ openTag "StartTime" := by
    simp [openTag, closeTag]
  have hcomplete : "</StartTime><CompleteTime>" =
      closeTag "StartTime" ++ openTag "CompleteTime" := by
    simp [openTag, closeTag]
  have hclose : "</CompleteTime></cwmp:TransferComplete>" =
      closeTag "CompleteTime" ++ closeTag "cwmp:TransferComplete" := by
    simp [closeTag]
  unfold SoapBuilder.transferComplete body
  rw [hopen, hcode, htext, hstart, hcomplete, hclose]
  simp only [printed_branch, printedAll_cons, printedAll_nil, printed_leaf,
    printed_leaf_of_plain (plain_int _), String.append_assoc, String.append_empty]

theorem downloadResponse_eq (id : String) (status : Int) (start complete : String) :
    SoapBuilder.downloadResponse id status start complete =
      SoapBuilder.envelope id (printed (downloadResponse id status start complete).body) := by
  have hopen : "<cwmp:DownloadResponse><Status>" =
      openTag "cwmp:DownloadResponse" ++ openTag "Status" := by
    simp [openTag]
  have hstart : "</Status><StartTime>" = closeTag "Status" ++ openTag "StartTime" := by
    simp [openTag, closeTag]
  have hcomplete : "</StartTime><CompleteTime>" =
      closeTag "StartTime" ++ openTag "CompleteTime" := by
    simp [openTag, closeTag]
  have hclose : "</CompleteTime></cwmp:DownloadResponse>" =
      closeTag "CompleteTime" ++ closeTag "cwmp:DownloadResponse" := by
    simp [closeTag]
  unfold SoapBuilder.downloadResponse body
  rw [hopen, hstart, hcomplete, hclose]
  simp only [printed_branch, printedAll_cons, printedAll_nil, printed_leaf,
    printed_leaf_of_plain (plain_int _), String.append_assoc, String.append_empty]

theorem fault_eq (id : String) (code : Int) (message : String) (parameterFaults : List String) :
    SoapBuilder.fault id code message parameterFaults =
      SoapBuilder.envelope id (printed (fault id code message parameterFaults).body) := by
  have hopen : "<soap-env:Fault><faultcode>Client</faultcode><faultstring>CWMP fault" =
      openTag "soap-env:Fault" ++ (openTag "faultcode" ++ "Client" ++ closeTag "faultcode") ++
        (openTag "faultstring" ++ "CWMP fault") := by
    simp [openTag, closeTag]
  have hdetail : "</faultstring><detail><cwmp:Fault><FaultCode>" =
      closeTag "faultstring" ++ openTag "detail" ++ openTag "cwmp:Fault" ++
        openTag "FaultCode" := by
    simp [openTag, closeTag]
  have htext : "</FaultCode><FaultString>" = closeTag "FaultCode" ++ openTag "FaultString" := by
    simp [openTag, closeTag]
  have hend : "</FaultString>" = closeTag "FaultString" := by
    simp [closeTag]
  have hclose : "</cwmp:Fault></detail></soap-env:Fault>" =
      closeTag "cwmp:Fault" ++ closeTag "detail" ++ closeTag "soap-env:Fault" := by
    simp [closeTag]
  unfold SoapBuilder.fault body
  rw [printedAll_map parameterFault_eq, hopen, hdetail, htext, hend, hclose]
  simp only [printed_branch, printedAll_cons, printedAll_nil, printed_leaf,
    printed_leaf_of_plain (plain_int _), printed_leaf_of_plain (show Plain "Client" by decide),
    printed_leaf_of_plain (show Plain "CWMP fault" by decide), String.append_assoc,
    String.append_empty]

/-- Every message is the print of its tree. -/
theorem text_eq (message : OutgoingMessage) :
    message.text = declaration ++ printed message.tree := by
  rw [tree, ← envelope_eq]
  cases message with
  | inform id device events params time retryCount =>
      exact inform_eq id device events params time retryCount
  | getParameterValuesResponse id values => exact getParameterValuesResponse_eq id values
  | getParameterNamesResponse id values => exact getParameterNamesResponse_eq id values
  | transferComplete id result => exact transferComplete_eq id result
  | downloadResponse id status start complete => exact downloadResponse_eq id status start complete
  | fault id code message parameterFaults => exact fault_eq id code message parameterFaults

end OutgoingMessage

end Tr069d
