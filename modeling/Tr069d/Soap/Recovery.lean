import Tr069d.Soap.Outgoing
import Tr069d.Text.Numerals
import Tr069d.Xml.WellFormed

/-!
# Which strings reach the ACS

The strings of the daemon are encoded in UTF-8 before `SoapBuilder` escapes
them.

* `readEncoded_text`: whatever characters of XML they contain, the reader recovers
  a tree of the same shape.
* `outgoing_recovered_iff`: it is the tree of the message exactly if no string
  contains a CR and the only white space of every type is the blank.
* `exists_legal_of_readEncoded`: a message with any bytes in its strings is not read
  at all unless each of them is the encoding of characters of XML.
-/

namespace Xml

/-! ## Lists of elements -/

theorem mapStringsAll_map {α : Type} (onContent onValue : List Char → List Char)
    (element : α → Element) (values : List α) :
    mapStringsAll onContent onValue (values.map element) =
      values.map fun value => (element value).mapStrings onContent onValue := by
  induction values with
  | nil => rfl
  | cons value values ih => rw [List.map_cons, List.map_cons, mapStringsAll, ih]

theorem printableAll_iff {elements : List Element} :
    PrintableAll elements ↔ ∀ element ∈ elements, element.Printable := by
  induction elements with
  | nil => simp [PrintableAll]
  | cons element elements ih => rw [PrintableAll, ih, List.forall_mem_cons]

theorem asciiNamesAll_iff {elements : List Element} :
    AsciiNamesAll elements ↔ ∀ element ∈ elements, element.AsciiNames := by
  induction elements with
  | nil => simp [AsciiNamesAll]
  | cons element elements ih => rw [AsciiNamesAll, ih, List.forall_mem_cons]

theorem stableAll_iff {elements : List Element} :
    StableAll elements ↔ ∀ element ∈ elements, element.Stable := by
  induction elements with
  | nil => simp [StableAll]
  | cons element elements ih => rw [StableAll, ih, List.forall_mem_cons]

end Xml

namespace Tr069d

open Xml

namespace OutgoingMessage

/-- The message with every string of it replaced. -/
def map (f : String → String) : OutgoingMessage → OutgoingMessage
  | inform id device events params time retryCount =>
      inform (f id) ⟨f device.manufacturer, f device.oui, f device.productClass,
        f device.serialNumber⟩ (events.map f)
        (params.map fun param => ⟨f param.name, f param.value, f param.type⟩) time retryCount
  | getParameterValuesResponse id values =>
      getParameterValuesResponse (f id)
        (values.map fun value => ⟨f value.name, f value.value, f value.type⟩)
  | getParameterNamesResponse id values =>
      getParameterNamesResponse (f id) (values.map fun info => ⟨f info.name, info.writable⟩)
  | transferComplete id result =>
      transferComplete (f id) ⟨f result.commandKey, result.faultCode, f result.faultString,
        f result.startTime, f result.completeTime⟩
  | downloadResponse id status start complete =>
      downloadResponse (f id) status (f start) (f complete)
  | fault id code message parameterFaults =>
      fault (f id) code (f message) (parameterFaults.map f)

/-- The message as the daemon holds it, in bytes. -/
def encoded (message : OutgoingMessage) : OutgoingMessage :=
  message.map encodeString

/-- Every string consists of characters of XML. -/
structure Legal (message : OutgoingMessage) : Prop where
  contents : ∀ text ∈ message.contents, IsText text
  types : ∀ value ∈ message.values, IsText value.type

instance (message : OutgoingMessage) : Decidable message.Legal :=
  decidable_of_iff ((∀ text ∈ message.contents, IsText text) ∧
      ∀ value ∈ message.values, IsText value.type)
    ⟨fun h => ⟨h.1, h.2⟩, fun h => ⟨h.contents, h.types⟩⟩

/-- No string contains a CR, no type a TAB, LF or CR. -/
structure WithoutBreaks (message : OutgoingMessage) : Prop where
  contents : ∀ text ∈ message.contents, '\r' ∉ text.toList
  types : ∀ value ∈ message.values,
    '\r' ∉ value.type.toList ∧ '\n' ∉ value.type.toList ∧ '\t' ∉ value.type.toList

instance (message : OutgoingMessage) : Decidable message.WithoutBreaks :=
  decidable_of_iff ((∀ text ∈ message.contents, '\r' ∉ text.toList) ∧
      ∀ value ∈ message.values,
        '\r' ∉ value.type.toList ∧ '\n' ∉ value.type.toList ∧ '\t' ∉ value.type.toList)
    ⟨fun h => ⟨h.1, h.2⟩, fun h => ⟨h.contents, h.types⟩⟩

/-! ## Visible strings

The strings that `SoapBuilder` writes of itself are visible characters of ASCII
and blanks: they are text, they are their own encoding, and they are stable. -/

def Visible (text : String) : Prop :=
  text.toList.all (fun c => 0x20 ≤ c.toNat ∧ c.toNat < 128) = true

instance (text : String) : Decidable (Visible text) := inferInstanceAs (Decidable (_ = true))

theorem bounds_of_visible {text : String} (h : Visible text) {c : Char} (hc : c ∈ text.toList) :
    0x20 ≤ c.toNat ∧ c.toNat < 128 :=
  of_decide_eq_true (List.all_eq_true.mp h c hc)

theorem visible_append_iff {first second : String} :
    Visible (first ++ second) ↔ Visible first ∧ Visible second := by
  unfold Visible
  rw [String.toList_append, List.all_append, Bool.and_eq_true]

theorem visible_of_plain {text : String} (h : Plain text) : Visible text := by
  refine List.all_eq_true.mpr fun c hc => decide_eq_true ?_
  have hplain := List.all_eq_true.mp h c hc
  simp only [isPlain, Bool.or_eq_true, decide_eq_true_eq] at hplain
  rcases hplain with ((halphanum | rfl) | rfl) | rfl
  · obtain ⟨hlow, hhigh⟩ := bounds_of_isAlphanum halphanum
    exact ⟨by omega, by omega⟩
  all_goals decide

theorem ascii_of_visible {text : String} (h : Visible text) : Ascii text.toList :=
  List.all_eq_true.mpr fun _ hc => decide_eq_true (bounds_of_visible h hc).2

theorem encodeString_of_visible {text : String} (h : Visible text) : encodeString text = text := by
  rw [encodeString, encode_of_ascii (ascii_of_visible h), String.ofList_toList]

theorem isText_of_visible {text : String} (h : Visible text) : IsText text := by
  intro c hc
  have hbounds := bounds_of_visible h hc
  have hrange : 0x20 ≤ c.toNat ∧ c.toNat ≤ 0xD7FF := ⟨hbounds.1, by omega⟩
  simp [isChar, hrange]

theorem stableValue_of_visible {value : String} (h : Visible value) : StableValue value := by
  intro c hc hspace
  have hbounds := bounds_of_visible h hc
  simp only [Xml.isSpace, Bool.or_eq_true, decide_eq_true_eq] at hspace
  rcases hspace with ((rfl | rfl) | rfl) | rfl
  · rfl
  all_goals exact absurd hbounds.1 (by decide)

theorem stableContent_of_visible {content : String} (h : Visible content) :
    StableContent content :=
  fun hmem => absurd (stableValue_of_visible h _ hmem rfl) (by decide)

theorem visible_arrayType {type : String} (h : Plain type) (count : Nat) :
    Visible ("cwmp:" ++ type ++ "[" ++ toString count ++ "]") := by
  have hmarkup : Visible "cwmp:" ∧ Visible "[" ∧ Visible "]" := by decide
  simp only [visible_append_iff, hmarkup, visible_of_plain h, visible_of_plain (plain_nat count),
    and_self]

/-- A string whose only white space is the blank. -/
theorem stableValue_iff {value : String} :
    StableValue value ↔ '\r' ∉ value.toList ∧ '\n' ∉ value.toList ∧ '\t' ∉ value.toList := by
  constructor
  · intro hstable
    refine ⟨fun hmem => ?_, fun hmem => ?_, fun hmem => ?_⟩
    all_goals exact absurd (hstable _ hmem rfl) (by decide)
  · intro ⟨hcr, hlf, htab⟩ c hc hspace
    simp only [Xml.isSpace, Bool.or_eq_true, decide_eq_true_eq] at hspace
    rcases hspace with ((rfl | rfl) | rfl) | rfl
    · rfl
    · exact absurd hc htab
    · exact absurd hc hlf
    · exact absurd hc hcr

/-! ## The tree of the encoded message -/

section Encoding

theorem mapStrings_leaf (name content : String) :
    (Element.leaf name [] content).mapStrings encode encode =
      .leaf name [] (encodeString content) := rfl

theorem mapStrings_leaf_with (name key value content : String) :
    (Element.leaf name [(key, value)] content).mapStrings encode encode =
      .leaf name [(key, encodeString value)] (encodeString content) := rfl

theorem mapStrings_branch (name : String) (children : List Element) :
    (Element.branch name [] children).mapStrings encode encode =
      .branch name [] (mapStringsAll encode encode children) := rfl

theorem mapStrings_array {α : Type} (name : String) {type : String} (htype : Plain type)
    (element : α → Element) (values : List α) :
    (Element.branch name (arrayType type values) (values.map element)).mapStrings encode encode =
      .branch name (arrayType type values)
        (values.map fun value => (element value).mapStrings encode encode) := by
  have hvalue := encodeString_of_visible (visible_arrayType htype values.length)
  rw [encodeString] at hvalue
  simp only [arrayType, Element.mapStrings, List.map_cons, List.map_nil, hvalue,
    mapStringsAll_map]

theorem arrayType_map {α β : Type} (type : String) (f : α → β) (values : List α) :
    arrayType type (values.map f) = arrayType type values := by
  rw [arrayType, List.length_map]
  rfl

theorem valueElement_encoded (value : ParameterValue) :
    (valueElement value).mapStrings encode encode =
      valueElement ⟨encodeString value.name, encodeString value.value,
        encodeString value.type⟩ := rfl

theorem infoElement_encoded (info : ParameterInfo) :
    (infoElement info).mapStrings encode encode =
      infoElement ⟨encodeString info.name, info.writable⟩ := by
  have hwritable : encodeString (if info.writable then "1" else "0") =
      if info.writable then "1" else "0" := by
    split_ifs
    · exact encodeString_of_visible (by decide)
    · exact encodeString_of_visible (by decide)
  simp only [infoElement, mapStrings_branch, mapStringsAll, mapStrings_leaf, hwritable]

theorem eventElement_encoded (event : String) :
    (eventElement event).mapStrings encode encode = eventElement (encodeString event) := rfl

theorem faultElement_encoded (name : String) :
    (faultElement name).mapStrings encode encode = faultElement (encodeString name) := by
  have hcode : encodeString "9007" = "9007" := encodeString_of_visible (by decide)
  have htext : encodeString "Invalid parameter value" = "Invalid parameter value" :=
    encodeString_of_visible (by decide)
  simp only [faultElement, mapStrings_branch, mapStringsAll, mapStrings_leaf, hcode, htext]

theorem visible_namespaces : ∀ entry ∈ namespaces, Visible entry.2 := by
  decide

theorem envelopeElement_encoded (id : String) (element : Element) :
    (envelopeElement id element).mapStrings encode encode =
      envelopeElement (encodeString id) (element.mapStrings encode encode) := by
  have hnamespaces : (namespaces.map fun entry =>
      (entry.1, String.ofList (encode entry.2.toList))) = namespaces := by
    refine (List.map_congr_left fun entry hentry => ?_).trans (List.map_id _)
    exact Prod.ext rfl (encodeString_of_visible (visible_namespaces entry hentry))
  have hone : encodeString "1" = "1" := encodeString_of_visible (by decide)
  rw [envelopeElement, Element.mapStrings, hnamespaces]
  simp only [mapStringsAll, mapStrings_branch, mapStrings_leaf_with, hone, envelopeElement]

theorem body_encoded (message : OutgoingMessage) :
    message.encoded.body = message.body.mapStrings encode encode := by
  have hevent : Plain "EventStruct" := by decide
  have hvalue : Plain "ParameterValueStruct" := by decide
  have hinfo : Plain "ParameterInfoStruct" := by decide
  -- the texts of the builder itself are visible, so that encoding keeps them
  cases message with
  | inform id device events params time retryCount =>
      have hone : encodeString "1" = "1" := encodeString_of_visible (by decide)
      simp only [encoded, map, body, mapStrings_branch, mapStringsAll, mapStrings_leaf,
        mapStrings_array _ hevent, mapStrings_array _ hvalue, eventElement_encoded,
        valueElement_encoded, arrayType_map, List.map_map, Function.comp_def, hone,
        encodeString_of_visible (visible_of_plain (plain_iso _)),
        encodeString_of_visible (visible_of_plain (plain_nat _))]
  | getParameterValuesResponse id values =>
      simp only [encoded, map, body, mapStrings_branch, mapStringsAll, mapStrings_array _ hvalue,
        valueElement_encoded, arrayType_map, List.map_map, Function.comp_def]
  | getParameterNamesResponse id values =>
      simp only [encoded, map, body, mapStrings_branch, mapStringsAll, mapStrings_array _ hinfo,
        infoElement_encoded, arrayType_map, List.map_map, Function.comp_def]
  | transferComplete id result =>
      simp only [encoded, map, body, mapStrings_branch, mapStringsAll, mapStrings_leaf,
        encodeString_of_visible (visible_of_plain (plain_int _))]
  | downloadResponse id status start complete =>
      simp only [encoded, map, body, mapStrings_branch, mapStringsAll, mapStrings_leaf,
        encodeString_of_visible (visible_of_plain (plain_int _))]
  | fault id code text parameterFaults =>
      have hcode : encodeString "Client" = "Client" := encodeString_of_visible (by decide)
      have htext : encodeString "CWMP fault" = "CWMP fault" :=
        encodeString_of_visible (by decide)
      simp only [encoded, map, body, mapStrings_branch, mapStringsAll, mapStrings_leaf, hcode,
        htext, mapStringsAll_map, faultElement_encoded, List.map_map, Function.comp_def,
        encodeString_of_visible (visible_of_plain (plain_int _))]

theorem tree_encoded (message : OutgoingMessage) :
    message.encoded.tree = message.tree.mapStrings encode encode := by
  have hid : message.encoded.id = encodeString message.id := by
    cases message <;> rfl
  rw [tree, hid, body_encoded, tree, envelopeElement_encoded]

end Encoding

/-! ## The tree can be printed -/

/-- The names of the elements. -/
def tagNames : List String :=
  ["soap-env:Envelope", "soap-env:Header", "cwmp:ID", "soap-env:Body", "cwmp:Inform", "DeviceId",
   "Manufacturer", "OUI", "ProductClass", "SerialNumber", "Event", "EventStruct", "EventCode",
   "CommandKey", "MaxEnvelopes", "CurrentTime", "RetryCount", "ParameterList",
   "ParameterValueStruct", "Name", "Value", "cwmp:GetParameterValuesResponse",
   "cwmp:GetParameterNamesResponse", "ParameterInfoStruct", "Writable", "cwmp:TransferComplete",
   "FaultStruct", "FaultCode", "FaultString", "StartTime", "CompleteTime",
   "cwmp:DownloadResponse", "Status", "soap-env:Fault", "faultcode", "faultstring", "detail",
   "cwmp:Fault", "SetParameterValuesFault", "ParameterName"]

theorem isName_of_mem_tagNames : ∀ name ∈ tagNames, IsName name ∧ Ascii name.toList := by
  decide

/-- An element that is printed and encoded as it should be. -/
structure Sound (element : Element) : Prop where
  printable : element.Printable
  asciiNames : element.AsciiNames

theorem sound_leaf {name content : String} (hcontent : IsText content)
    (hname : name ∈ tagNames := by decide) : Sound (.leaf name [] content) := by
  have htag := isName_of_mem_tagNames name hname
  refine ⟨⟨htag.1, ⟨?_, ?_, ?_⟩, hcontent⟩, htag.2, ?_⟩
  all_goals simp

theorem sound_plain {name content : String} (hcontent : Plain content)
    (hname : name ∈ tagNames := by decide) : Sound (.leaf name [] content) :=
  sound_leaf (isText_of_visible (visible_of_plain hcontent)) hname

theorem printableAttributes_singleton {key value : String} (hkey : IsName key)
    (hvalue : IsText value) : PrintableAttributes [(key, value)] where
  names := List.forall_mem_singleton.mpr hkey
  values := List.forall_mem_singleton.mpr hvalue
  nodup := List.nodup_cons.mpr ⟨List.not_mem_nil, List.nodup_nil⟩

theorem sound_leaf_with {name key value content : String} (hkey : IsName key ∧ Ascii key.toList)
    (hvalue : IsText value) (hcontent : IsText content)
    (hname : name ∈ tagNames := by decide) : Sound (.leaf name [(key, value)] content) := by
  have htag := isName_of_mem_tagNames name hname
  have hattributes := printableAttributes_singleton hkey.1 hvalue
  exact ⟨⟨htag.1, hattributes, hcontent⟩, htag.2, List.forall_mem_singleton.mpr hkey.2⟩

theorem sound_branch_of_attributes {name : String} {attributes : List (String × String)}
    {children : List Element} (hattributes : PrintableAttributes attributes)
    (hascii : ∀ entry ∈ attributes, Ascii entry.1.toList)
    (hchildren : ∀ child ∈ children, Sound child) (hname : name ∈ tagNames := by decide) :
    Sound (.branch name attributes children) := by
  have htag := isName_of_mem_tagNames name hname
  have hprintable : PrintableAll children :=
    printableAll_iff.mpr fun child hchild => (hchildren child hchild).printable
  have hnames : AsciiNamesAll children :=
    asciiNamesAll_iff.mpr fun child hchild => (hchildren child hchild).asciiNames
  exact ⟨⟨htag.1, hattributes, hprintable⟩, htag.2, hascii, hnames⟩

theorem sound_branch {name : String} {children : List Element}
    (hchildren : ∀ child ∈ children, Sound child) (hname : name ∈ tagNames := by decide) :
    Sound (.branch name [] children) := by
  refine sound_branch_of_attributes ⟨?_, ?_, ?_⟩ ?_ hchildren hname
  all_goals simp

theorem sound_array {α : Type} {name type : String} {element : α → Element} {values : List α}
    (hvalues : ∀ value ∈ values, Sound (element value)) (htype : Plain type := by decide)
    (hname : name ∈ tagNames := by decide) :
    Sound (.branch name (arrayType type values) (values.map element)) := by
  have hkey : IsName "soap-enc:arrayType" ∧ Ascii "soap-enc:arrayType".toList := by
    decide
  have htext := isText_of_visible (visible_arrayType htype values.length)
  exact sound_branch_of_attributes (printableAttributes_singleton hkey.1 htext)
    (List.forall_mem_singleton.mpr hkey.2) (List.forall_mem_map.mpr hvalues) hname

theorem sound_valueElement {value : ParameterValue} (hname : IsText value.name)
    (hvalue : IsText value.value) (htype : IsText value.type) : Sound (valueElement value) := by
  have hkey : IsName "xsi:type" ∧ Ascii "xsi:type".toList := by decide
  refine sound_branch (List.forall_mem_cons.mpr
    ⟨sound_leaf hname, List.forall_mem_singleton.mpr ?_⟩)
  exact sound_leaf_with hkey htype hvalue

theorem sound_infoElement {info : ParameterInfo} (hname : IsText info.name) :
    Sound (infoElement info) := by
  refine sound_branch (List.forall_mem_cons.mpr
    ⟨sound_leaf hname, List.forall_mem_singleton.mpr ?_⟩)
  refine sound_plain ?_
  split_ifs
  · decide
  · decide

theorem sound_eventElement {event : String} (hevent : IsText event) :
    Sound (eventElement event) := by
  refine sound_branch (List.forall_mem_cons.mpr
    ⟨sound_leaf hevent, List.forall_mem_singleton.mpr ?_⟩)
  exact sound_plain (by decide)

theorem sound_faultElement {name : String} (hname : IsText name) : Sound (faultElement name) := by
  have htext : Visible "Invalid parameter value" := by decide
  refine sound_branch (List.forall_mem_cons.mpr ⟨sound_leaf hname,
    List.forall_mem_cons.mpr ⟨?_, List.forall_mem_singleton.mpr ?_⟩⟩)
  · exact sound_plain (by decide)
  · exact sound_leaf (isText_of_visible htext)

theorem printable_namespaces : PrintableAttributes namespaces ∧
    ∀ entry ∈ namespaces, Ascii entry.1.toList := by
  have hnames : (∀ entry ∈ namespaces, IsName entry.1 ∧ Ascii entry.1.toList) ∧
      (namespaces.map Prod.fst).Nodup := by
    decide
  exact ⟨⟨fun entry hentry => (hnames.1 entry hentry).1,
    fun entry hentry => isText_of_visible (visible_namespaces entry hentry), hnames.2⟩,
    fun entry hentry => (hnames.1 entry hentry).2⟩

theorem sound_envelopeElement {id : String} {element : Element} (hid : IsText id)
    (helement : Sound element) : Sound (envelopeElement id element) := by
  have hkey : IsName "soap-env:mustUnderstand" ∧ Ascii "soap-env:mustUnderstand".toList := by
    decide
  have hone : IsText "1" := isText_of_visible (by decide)
  have hleaf : Sound (.leaf "cwmp:ID" [("soap-env:mustUnderstand", "1")] id) :=
    sound_leaf_with hkey hone hid
  refine sound_branch_of_attributes printable_namespaces.1 printable_namespaces.2
    (List.forall_mem_cons.mpr ⟨sound_branch ?_, List.forall_mem_singleton.mpr
      (sound_branch ?_)⟩)
  · exact List.forall_mem_singleton.mpr hleaf
  · exact List.forall_mem_singleton.mpr helement

theorem sound_body {message : OutgoingMessage} (h : message.Legal) : Sound message.body := by
  obtain ⟨hcontents, htypes⟩ := h
  -- message by message, with the contents taken apart as the body puts them together
  cases message with
  | inform id device events params time retryCount =>
      simp only [contents, List.forall_mem_append, List.forall_mem_cons, List.forall_mem_map,
        List.not_mem_nil, false_imp_iff, implies_true, and_true] at hcontents
      obtain ⟨⟨⟨⟨-, hmanufacturer, houi, hproduct, hserial⟩, hevents⟩, hnames⟩, hvalues⟩ :=
        hcontents
      -- the four strings that identify the device
      have hdevice : Sound (.branch "DeviceId" []
          [.leaf "Manufacturer" [] device.manufacturer, .leaf "OUI" [] device.oui,
           .leaf "ProductClass" [] device.productClass,
           .leaf "SerialNumber" [] device.serialNumber]) := by
        refine sound_branch ?_
        simp only [List.forall_mem_cons, List.not_mem_nil, false_imp_iff, implies_true, and_true]
        exact ⟨sound_leaf hmanufacturer, sound_leaf houi,
          sound_leaf hproduct, sound_leaf hserial⟩
      refine sound_branch ?_
      simp only [List.forall_mem_cons, List.not_mem_nil, false_imp_iff, implies_true, and_true]
      refine ⟨hdevice, sound_array ?_,
        sound_plain (by decide), sound_plain (plain_iso time),
        sound_plain (plain_nat retryCount),
        sound_array ?_⟩
      · exact fun event hevent => sound_eventElement (hevents event hevent)
      · exact fun param hparam => sound_valueElement (hnames param hparam)
          (hvalues param hparam) (htypes param hparam)
  | getParameterValuesResponse id values =>
      simp only [contents, List.forall_mem_append, List.forall_mem_cons, List.forall_mem_map]
        at hcontents
      refine sound_branch (List.forall_mem_singleton.mpr
        (sound_array fun value hvalue => ?_))
      exact sound_valueElement (hcontents.1.2 value hvalue) (hcontents.2 value hvalue)
        (htypes value hvalue)
  | getParameterNamesResponse id values =>
      simp only [contents, List.forall_mem_cons, List.forall_mem_map] at hcontents
      refine sound_branch (List.forall_mem_singleton.mpr
        (sound_array fun info hinfo => ?_))
      exact sound_infoElement (hcontents.2 info hinfo)
  | transferComplete id result =>
      simp only [contents, List.forall_mem_cons, List.not_mem_nil, false_imp_iff, implies_true,
        and_true] at hcontents
      obtain ⟨-, hcommandKey, hfault, hstart, hcomplete⟩ := hcontents
      -- the result of the transfer
      have hstruct : Sound (.branch "FaultStruct" []
          [.leaf "FaultCode" [] (toString result.faultCode),
           .leaf "FaultString" [] result.faultString]) := by
        refine sound_branch ?_
        simp only [List.forall_mem_cons, List.not_mem_nil, false_imp_iff, implies_true, and_true]
        exact ⟨sound_plain (plain_int _), sound_leaf hfault⟩
      refine sound_branch ?_
      simp only [List.forall_mem_cons, List.not_mem_nil, false_imp_iff, implies_true, and_true]
      exact ⟨sound_leaf hcommandKey, hstruct, sound_leaf hstart,
        sound_leaf hcomplete⟩
  | downloadResponse id status start complete =>
      simp only [contents, List.forall_mem_cons, List.not_mem_nil, false_imp_iff, implies_true,
        and_true] at hcontents
      obtain ⟨-, hstart, hcomplete⟩ := hcontents
      refine sound_branch ?_
      simp only [List.forall_mem_cons, List.not_mem_nil, false_imp_iff, implies_true, and_true]
      exact ⟨sound_plain (plain_int _), sound_leaf hstart,
        sound_leaf hcomplete⟩
  | fault id code text parameterFaults =>
      simp only [contents, List.forall_mem_cons] at hcontents
      obtain ⟨-, htext, hnames⟩ := hcontents
      have hcwmp : Visible "CWMP fault" := by decide
      have hdetail : Sound (.branch "cwmp:Fault" []
          (.leaf "FaultCode" [] (toString code) :: .leaf "FaultString" [] text ::
            parameterFaults.map faultElement)) := by
        refine sound_branch ?_
        simp only [List.forall_mem_cons, List.forall_mem_map]
        exact ⟨sound_plain (plain_int _), sound_leaf htext,
          fun name hname => sound_faultElement (hnames name hname)⟩
      refine sound_branch ?_
      simp only [List.forall_mem_cons, List.not_mem_nil, false_imp_iff, implies_true, and_true]
      exact ⟨sound_plain (by decide), sound_leaf (isText_of_visible hcwmp),
        sound_branch (List.forall_mem_singleton.mpr hdetail)⟩

theorem sound_tree {message : OutgoingMessage} (h : message.Legal) : Sound message.tree := by
  have hid : message.id ∈ message.contents := by
    cases message <;> simp [OutgoingMessage.id, contents]
  exact sound_envelopeElement (h.contents _ hid) (sound_body h)

/-! ## What is recovered -/

/-- The text is well-formed, and its tree has the shape of the message. -/
theorem readEncoded_text {message : OutgoingMessage} (h : message.Legal) :
    readEncoded message.encoded.text = some message.tree.recovered.node := by
  have hsound := sound_tree h
  rw [text_eq, tree_encoded]
  exact readEncoded_print hsound.printable hsound.asciiNames

theorem stable_leaf_iff {name content : String} :
    (Element.leaf name [] content).Stable ↔ StableContent content := by
  simp [Element.Stable]

theorem stable_leaf_with_iff {name key value content : String} :
    (Element.leaf name [(key, value)] content).Stable ↔
      StableContent content ∧ StableValue value := by
  rw [Element.Stable, List.forall_mem_singleton, and_comm]

theorem stable_branch_iff {name : String} {children : List Element} :
    (Element.branch name [] children).Stable ↔ ∀ child ∈ children, child.Stable := by
  simp [Element.Stable, stableAll_iff]

theorem stable_array_iff {α : Type} {name type : String} (htype : Plain type)
    {element : α → Element} {values : List α} :
    (Element.branch name (arrayType type values) (values.map element)).Stable ↔
      ∀ value ∈ values, (element value).Stable := by
  have hvalue := stableValue_of_visible (visible_arrayType htype values.length)
  simp only [Element.Stable, arrayType, List.forall_mem_singleton, hvalue, true_and,
    stableAll_iff, List.forall_mem_map]

theorem stable_valueElement_iff {value : ParameterValue} :
    (valueElement value).Stable ↔
      StableContent value.name ∧ StableContent value.value ∧ StableValue value.type := by
  simp only [valueElement, stable_branch_iff, List.forall_mem_cons, List.not_mem_nil,
    false_imp_iff, implies_true, and_true, stable_leaf_iff, stable_leaf_with_iff]

theorem stable_envelopeElement_iff {id : String} {element : Element} :
    (envelopeElement id element).Stable ↔ StableContent id ∧ element.Stable := by
  have hnamespaces : ∀ entry ∈ namespaces, StableValue entry.2 :=
    fun entry hentry => stableValue_of_visible (visible_namespaces entry hentry)
  have hone : StableValue "1" := stableValue_of_visible (by decide)
  rw [envelopeElement, Element.Stable, stableAll_iff, and_iff_right hnamespaces]
  simp only [List.forall_mem_cons, List.not_mem_nil, false_imp_iff, implies_true, and_true,
    stable_branch_iff, stable_leaf_with_iff, hone]

theorem stable_tree_iff (message : OutgoingMessage) :
    message.tree.Stable ↔
      (∀ text ∈ message.contents, StableContent text) ∧
        ∀ value ∈ message.values, StableValue value.type := by
  -- numbers, times and the texts of the builder itself are stable
  have hplain : ∀ {text : String}, Plain text → StableContent text :=
    fun hplain => stableContent_of_visible (visible_of_plain hplain)
  have hevent : Plain "EventStruct" := by decide
  have hvalue : Plain "ParameterValueStruct" := by decide
  have hinfo : Plain "ParameterInfoStruct" := by decide
  rw [tree, stable_envelopeElement_iff]
  cases message with
  | inform id device events params time retryCount =>
      have hone : StableContent "1" ∧ StableContent "" := ⟨hplain (by decide), hplain (by decide)⟩
      simp only [OutgoingMessage.id, body, contents, values, eventElement, stable_branch_iff,
        stable_array_iff hevent, stable_array_iff hvalue, stable_valueElement_iff,
        stable_leaf_iff, List.forall_mem_append, List.forall_mem_cons, List.forall_mem_map,
        List.not_mem_nil, false_imp_iff, implies_true, and_true, true_and, hone,
        hplain (plain_iso time), hplain (plain_nat retryCount), forall_and]
      tauto
  | getParameterValuesResponse id values =>
      simp only [OutgoingMessage.id, body, contents, OutgoingMessage.values, stable_branch_iff,
        stable_array_iff hvalue, stable_valueElement_iff, List.forall_mem_append,
        List.forall_mem_cons, List.forall_mem_map, List.not_mem_nil, false_imp_iff, implies_true,
        and_true, forall_and]
      tauto
  | getParameterNamesResponse id values =>
      -- what the builder prints for a flag is a digit
      have hwritable : ∀ info : ParameterInfo,
          StableContent (if info.writable then "1" else "0") := by
        intro info
        split_ifs
        · exact hplain (by decide)
        · exact hplain (by decide)
      simp only [OutgoingMessage.id, body, contents, OutgoingMessage.values, infoElement,
        stable_branch_iff, stable_array_iff hinfo, stable_leaf_iff, List.forall_mem_cons,
        List.forall_mem_map, List.not_mem_nil, false_imp_iff, implies_true, and_true, hwritable]
  | transferComplete id result =>
      simp only [OutgoingMessage.id, body, contents, values, stable_branch_iff, stable_leaf_iff,
        List.forall_mem_cons, List.not_mem_nil, false_imp_iff, implies_true, and_true, true_and,
        hplain (plain_int result.faultCode)]
  | downloadResponse id status start complete =>
      simp only [OutgoingMessage.id, body, contents, values, stable_branch_iff, stable_leaf_iff,
        List.forall_mem_cons, List.not_mem_nil, false_imp_iff, implies_true, and_true, true_and,
        hplain (plain_int status)]
  | fault id code text parameterFaults =>
      have hvisible : StableContent "CWMP fault" ∧ StableContent "Invalid parameter value" := by
        constructor <;> exact stableContent_of_visible (by decide)
      have hcodes : StableContent "Client" ∧ StableContent "9007" :=
        ⟨hplain (by decide), hplain (by decide)⟩
      simp only [OutgoingMessage.id, body, contents, values, faultElement, stable_branch_iff,
        stable_leaf_iff, List.forall_mem_cons, List.forall_mem_map, List.not_mem_nil,
        false_imp_iff, implies_true, and_true, true_and, hvisible, hcodes,
        hplain (plain_int code)]

end OutgoingMessage

/-- The reader recovers the id and every string, in their order and number and
with their counts, exactly if no string contains a CR and no type a TAB, LF or
CR. -/
theorem outgoing_recovered_iff {message : OutgoingMessage} (h : message.Legal) :
    readEncoded message.encoded.text = some message.tree.node ↔ message.WithoutBreaks := by
  rw [OutgoingMessage.readEncoded_text h, Option.some_inj, recovered_node_eq_iff,
    OutgoingMessage.stable_tree_iff]
  constructor
  · intro ⟨hcontents, htypes⟩
    exact ⟨hcontents, fun value hvalue =>
      OutgoingMessage.stableValue_iff.mp (htypes value hvalue)⟩
  · intro ⟨hcontents, htypes⟩
    exact ⟨hcontents, fun value hvalue =>
      OutgoingMessage.stableValue_iff.mpr (htypes value hvalue)⟩

/-! ## What was printed -/

/-- The text that the bytes of a string encode. -/
def decodeString (bytes : String) : String :=
  String.ofList ((decode bytes.toList).getD [])

theorem decodeString_encodeString (text : String) : decodeString (encodeString text) = text := by
  rw [decodeString, encodeString, String.toList_ofList, decode_encode, Option.getD_some,
    String.ofList_toList]

namespace OutgoingMessage

theorem map_map (f g : String → String) (message : OutgoingMessage) :
    (message.map f).map g = message.map (g ∘ f) := by
  cases message <;> simp [map, Function.comp_def]

theorem map_eq_self_of_forall {α : Type} {f : α → α} {items : List α}
    (h : ∀ item ∈ items, f item = item) : items.map f = items :=
  (List.map_congr_left h).trans (List.map_id _)

theorem mapValues_eq_self {f : String → String} {values : List ParameterValue}
    (hnames : ∀ value ∈ values, f value.name = value.name)
    (hvalues : ∀ value ∈ values, f value.value = value.value)
    (htypes : ∀ value ∈ values, f value.type = value.type) :
    (values.map fun value => ⟨f value.name, f value.value, f value.type⟩) = values :=
  map_eq_self_of_forall fun value hmem => by
    rw [hnames value hmem, hvalues value hmem, htypes value hmem]

theorem map_eq_self {f : String → String} {message : OutgoingMessage}
    (hcontents : ∀ text ∈ message.contents, f text = text)
    (htypes : ∀ value ∈ message.values, f value.type = value.type) : message.map f = message := by
  -- a function that fixes all strings of a message fixes the message
  cases message with
  | inform id device events params time retryCount =>
      simp only [contents, List.forall_mem_append, List.forall_mem_cons, List.forall_mem_map]
        at hcontents
      obtain ⟨⟨⟨⟨hid, hmanufacturer, houi, hclass, hserial, -⟩, hevents⟩, hnames⟩, hvalues⟩ :=
        hcontents
      rw [map, hid, hmanufacturer, houi, hclass, hserial, map_eq_self_of_forall hevents,
        mapValues_eq_self hnames hvalues htypes]
  | getParameterValuesResponse id values =>
      simp only [contents, List.forall_mem_append, List.forall_mem_cons, List.forall_mem_map]
        at hcontents
      obtain ⟨⟨hid, hnames⟩, hvalues⟩ := hcontents
      rw [map, hid, mapValues_eq_self hnames hvalues htypes]
  | getParameterNamesResponse id values =>
      simp only [contents, List.forall_mem_cons, List.forall_mem_map] at hcontents
      have hinfos : ∀ info ∈ values, ParameterInfo.mk (f info.name) info.writable = info :=
        fun info hmem => by rw [hcontents.2 info hmem]
      rw [map, hcontents.1, map_eq_self_of_forall hinfos]
  | transferComplete id result =>
      simp only [contents, List.forall_mem_cons] at hcontents
      obtain ⟨hid, hkey, hfault, hstart, hcomplete, -⟩ := hcontents
      rw [map, hid, hkey, hfault, hstart, hcomplete]
  | downloadResponse id status start complete =>
      simp only [contents, List.forall_mem_cons] at hcontents
      obtain ⟨hid, hstart, hcomplete, -⟩ := hcontents
      rw [map, hid, hstart, hcomplete]
  | fault id code text parameterFaults =>
      simp only [contents, List.forall_mem_cons] at hcontents
      obtain ⟨hid, htext, hnames⟩ := hcontents
      rw [map, hid, htext, map_eq_self_of_forall hnames]

theorem contents_map (f : String → String) (message : OutgoingMessage) :
    (message.map f).contents = message.contents.map f := by
  cases message <;> simp [map, contents, Function.comp_def]

theorem values_map (f : String → String) (message : OutgoingMessage) :
    (message.map f).values =
      message.values.map fun value => ⟨f value.name, f value.value, f value.type⟩ := by
  cases message <;> rfl

theorem stringsAll_map {α : Type} (element : α → Element) (items : List α) :
    stringsAll (items.map element) = items.flatMap fun item => (element item).strings := by
  induction items with
  | nil => rfl
  | cons item rest ih => rw [List.map_cons, stringsAll, ih, List.flatMap_cons]

theorem mem_strings_tree {message : OutgoingMessage} {text : String} :
    text ∈ message.tree.strings ↔ text ∈ namespaces.map Prod.snd ∨ text = "1" ∨
      text = message.id ∨ text ∈ message.body.strings := by
  simp only [tree, envelopeElement, Element.strings, stringsAll, List.mem_append, List.map_nil,
    List.map_cons, List.mem_cons, List.not_mem_nil, List.append_nil, false_or, or_false, or_assoc]

/-- The strings of a message are among those of its tree. -/
theorem mem_strings_tree_of_mem_contents {message : OutgoingMessage} {text : String}
    (h : text ∈ message.contents) : text ∈ message.tree.strings := by
  rw [mem_strings_tree]
  refine Or.inr (Or.inr ?_)
  -- the tree has a leaf for each of the contents, and more
  cases message with
  | inform id device events params time retryCount =>
      simp only [contents, List.mem_append, List.mem_cons, List.not_mem_nil, or_false,
        List.mem_map] at h
      simp only [OutgoingMessage.id, body, Element.strings, stringsAll, stringsAll_map,
        eventElement, valueElement, List.mem_append, List.mem_flatMap, List.mem_cons,
        List.map_nil, List.map_cons, List.not_mem_nil, or_false, false_or]
      grind
  | getParameterValuesResponse id values =>
      simp only [contents, List.mem_append, List.mem_cons, List.mem_map] at h
      simp only [OutgoingMessage.id, body, Element.strings, stringsAll, stringsAll_map,
        valueElement, List.mem_append, List.mem_flatMap, List.mem_cons, List.map_nil,
        List.map_cons, List.not_mem_nil, or_false, false_or]
      grind
  | getParameterNamesResponse id values =>
      simp only [contents, List.mem_cons, List.mem_map] at h
      simp only [OutgoingMessage.id, body, Element.strings, stringsAll, stringsAll_map,
        infoElement, List.mem_append, List.mem_flatMap, List.mem_cons, List.map_nil,
        List.not_mem_nil, or_false, false_or]
      grind
  | transferComplete id result =>
      simp only [contents, List.mem_cons, List.not_mem_nil, or_false] at h
      simp only [OutgoingMessage.id, body, Element.strings, stringsAll, List.mem_append,
        List.mem_cons, List.map_nil, List.not_mem_nil, or_false, false_or]
      grind
  | downloadResponse id status start complete =>
      simp only [contents, List.mem_cons, List.not_mem_nil, or_false] at h
      simp only [OutgoingMessage.id, body, Element.strings, stringsAll, List.mem_append,
        List.mem_cons, List.map_nil, List.not_mem_nil, or_false, false_or]
      grind
  | fault id code text parameterFaults =>
      simp only [contents, List.mem_cons] at h
      simp only [OutgoingMessage.id, body, Element.strings, stringsAll, stringsAll_map,
        faultElement, List.mem_append, List.mem_flatMap, List.mem_cons, List.map_nil,
        List.not_mem_nil, or_false, false_or]
      grind

theorem mem_strings_tree_of_mem_values {message : OutgoingMessage} {value : ParameterValue}
    (h : value ∈ message.values) : value.type ∈ message.tree.strings := by
  rw [mem_strings_tree]
  refine Or.inr (Or.inr (Or.inr ?_))
  have hitem : value.type ∈ (valueElement value).strings := by
    simp [valueElement, Element.strings, stringsAll]
  cases message with
  | inform id device events params time retryCount =>
      have hparam : ∃ param ∈ params, value.type ∈ (valueElement param).strings :=
        ⟨value, h, hitem⟩
      simp only [body, Element.strings, stringsAll, stringsAll_map, List.mem_append,
        List.mem_flatMap, hparam, true_or, or_true]
  | getParameterValuesResponse id values =>
      simp only [body, Element.strings, stringsAll, stringsAll_map, List.mem_append,
        List.mem_flatMap]
      exact Or.inr (Or.inl (Or.inr ⟨value, h, hitem⟩))
  | getParameterNamesResponse id values => exact absurd h List.not_mem_nil
  | transferComplete id result => exact absurd h List.not_mem_nil
  | downloadResponse id status start complete => exact absurd h List.not_mem_nil
  | fault id code text parameterFaults => exact absurd h List.not_mem_nil

/-- A message that is read at all, whatever bytes its strings have, is the encoding of
one whose strings consist of characters of XML. -/
theorem exists_legal_of_readEncoded {message : OutgoingMessage} {root : Node}
    (hread : readEncoded message.text = some root) :
    ∃ original : OutgoingMessage, original.Legal ∧ original.encoded = message := by
  rw [text_eq] at hread
  have htext : ∀ text ∈ message.tree.strings,
      IsText (decodeString text) ∧ encodeString (decodeString text) = text := by
    intro text hmem
    obtain ⟨original, horiginal, rfl⟩ := exists_text_of_readEncoded hread hmem
    rw [decodeString_encodeString]
    exact ⟨horiginal, rfl⟩
  refine ⟨message.map decodeString, ⟨?_, ?_⟩, ?_⟩
  · rw [contents_map, List.forall_mem_map]
    exact fun text hmem => (htext text (mem_strings_tree_of_mem_contents hmem)).1
  · rw [values_map, List.forall_mem_map]
    exact fun value hmem => (htext value.type (mem_strings_tree_of_mem_values hmem)).1
  · rw [encoded, map_map]
    exact map_eq_self (fun text hmem => (htext text (mem_strings_tree_of_mem_contents hmem)).2)
      fun value hmem => (htext value.type (mem_strings_tree_of_mem_values hmem)).2

end OutgoingMessage

/-- A message with markup, an empty string and a character outside ASCII. -/
def plainResponse : OutgoingMessage :=
  .getParameterValuesResponse "7" [⟨"Device.Name", "a<b & ]]>é\n", "xsd:string"⟩,
    ⟨"Device.Empty", "", "xsd:string"⟩]

theorem plainResponse_recovered :
    readEncoded plainResponse.encoded.text = some plainResponse.tree.node :=
  (outgoing_recovered_iff (by decide)).mpr (by decide)

/-- A response with one value. -/
def valueResponse (value : String) : OutgoingMessage :=
  .getParameterValuesResponse "7" [⟨"Device.Name", value, "xsd:string"⟩]

/-- A CR arrives as a LF. -/
theorem carriageReturn_lost :
    (valueResponse "a\rb").Legal ∧
      readEncoded (valueResponse "a\rb").encoded.text = some (valueResponse "a\nb").tree.node ∧
      readEncoded (valueResponse "a\rb").encoded.text ≠
        some (valueResponse "a\rb").tree.node := by
  have hlegal : (valueResponse "a\rb").Legal := by decide
  have hread := OutgoingMessage.readEncoded_text hlegal
  have hrecovered : (valueResponse "a\rb").tree.recovered = (valueResponse "a\nb").tree := by
    rfl
  refine ⟨hlegal, by rw [hread, hrecovered], ?_⟩
  rw [hread, Ne, Option.some_inj, recovered_node_eq_iff, OutgoingMessage.stable_tree_iff]
  exact fun hcontents => hcontents.1 "a\rb" (by decide) (by decide)

end Tr069d
