import Tr069d.Soap.Replies

/-!
# The values of a response

The ACS reads a `GetParameterValuesResponse` as the daemon reads the list of a
`SetParameterValues`: the two have the same layout.

* `repliesWith_listedValues`: where every string consists of characters of XML other
  than CR, the values are read as they are.
* `listed_of_readEncoded`: where the contents are any bytes at all, a response that is
  read still has one entry for each value, in their order, and the entries whose own
  contents are legal are read as they are.
-/

namespace Tr069d

open Xml XmlNode

/-- The values in the list of a message. -/
def SoapParser.listedValues (method : XmlNode) : List ParameterValue :=
  ((listChildren method "ParameterList").filter (hasName "ParameterValueStruct")).map
    parseValueStruct

/-- The strings of the value as the daemon holds them. -/
def ParameterValue.encoded (value : ParameterValue) : ParameterValue :=
  ⟨encodeString value.name, encodeString value.value, encodeString value.type⟩

/-- The value as a reader gives it: with the line ends of its content normalized. -/
def ParameterValue.received (value : ParameterValue) : ParameterValue :=
  ⟨encodeString value.name, encodeString (String.ofList (normalizeLineEnds value.value.toList)),
    encodeString value.type⟩

theorem ParameterValue.received_eq_encoded {value : ParameterValue}
    (hcontent : '\r' ∉ value.value.toList) : value.received = value.encoded := by
  rw [received, encoded, normalizeLineEnds_of_not_mem hcontent, String.ofList_toList]

/-- A value whose name and type an XML reader gives back. -/
structure ListedPlainly (value : ParameterValue) : Prop where
  name : '\r' ∉ value.name.toList
  type : StableValue value.type

/-- What is read of the entry of a value. -/
theorem parseValueStruct_ofNode (value : ParameterValue) (hplain : ListedPlainly value) :
    let node := XmlNode.ofNode prefixes (OutgoingMessage.valueElement value).recovered.node
    node.hasName "ParameterValueStruct" = true ∧
      SoapParser.parseValueStruct node = value.received := by
  intro node
  let content := String.ofList (normalizeLineEnds value.value.toList)
  have hnames : encodeString (localName prefixes "ParameterValueStruct") =
      "ParameterValueStruct" ∧ encodeString (localName prefixes "Name") = "Name" ∧
      encodeString (localName prefixes "Value") = "Value" := by
    decide
  have hdeclared : declared [("xsi:type", value.type)] = [] :=
    declared_singleton (by decide) value.type
  have htype : typeAttribute prefixes [("xsi:type", value.type)] = some value.type := by
    have hsplit : splitName "xsi:type" = (some "xsi", "type") := by decide
    have hxsi : (prefixes.lookup "xsi" ==
        some "http://www.w3.org/2001/XMLSchema-instance") = true := by
      decide
    simp only [typeAttribute, List.find?_cons, hsplit, hxsi, Option.map_some]
  have hbare : declared [] = [] ∧ typeAttribute prefixes [] = none := ⟨rfl, rfl⟩
  -- the name and the type are recovered as they are
  have hname : String.ofList (normalizeLineEnds value.name.toList) = value.name := by
    rw [normalizeLineEnds_of_not_mem hplain.name, String.ofList_toList]
  have hvalue : String.ofList (normalizeSpaces (normalizeLineEnds value.type.toList)) =
      value.type := by
    rw [normalizeValue_eq_self_iff.mpr hplain.type, String.ofList_toList]
  have hnode : node = .element "ParameterValueStruct" none
      [.element "Name" none (ofNodes prefixes (textNodes value.name)),
       .element "Value" (some (encodeString value.type))
        (ofNodes prefixes (textNodes content))] := by
    simp only [node, content, OutgoingMessage.valueElement, Element.recovered, Element.mapStrings,
      mapStringsAll, Element.node, nodes, List.map_nil, List.map_cons, hname, hvalue, ofNode,
      ofNodes, hdeclared, htype, hbare, hnames, List.nil_append, Option.map_none, Option.map_some]
  rw [hnode]
  refine ⟨rfl, ?_⟩
  have hread := content_ofNodes_textNodes prefixes value.name
  have hcontent := content_ofNodes_textNodes prefixes content
  exact congrArg₂ (ParameterValue.mk · · (encodeString value.type)) hread hcontent

/-- The values of a response are listed in its order. -/
theorem listedValues_of_values (id : String) {values : List ParameterValue}
    (hplain : ∀ value ∈ values, ListedPlainly value) :
    SoapParser.listedValues (ofNode prefixes
      (OutgoingMessage.getParameterValuesResponse id values).body.recovered.node) =
        values.map ParameterValue.received :=
  map_listChildren_of_values id fun value hvalue =>
    parseValueStruct_ofNode value (hplain value hvalue)

/-- A value that the ACS reads as it is. -/
structure LegalValue (value : ParameterValue) : Prop where
  name : LegalBytes value.name
  content : LegalBytes value.value
  type : OutgoingMessage.Visible value.type

/-- The response says which values there are. -/
theorem repliesWith_listedValues {id : String} (hid : LegalBytes id)
    {values : List ParameterValue} (hvalues : ∀ value ∈ values, LegalValue value) :
    ∃ node, RepliesWith (SoapBuilder.getParameterValuesResponse id values) id
        "GetParameterValuesResponse" node ∧
      SoapParser.listedValues (ofNode prefixes node) = values := by
  obtain ⟨text, ⟨htext, hcr⟩, rfl⟩ := hid
  -- the bytes of each value are those of a text, which the reader gives back
  have htexts : ∀ value ∈ values, ∃ original : ParameterValue,
      ((IsText original.name ∧ IsText original.value ∧ IsText original.type) ∧
        ListedPlainly original ∧ '\r' ∉ original.value.toList) ∧ original.encoded = value := by
    intro value hvalue
    obtain ⟨⟨name, hname, hnameBytes⟩, ⟨content, hcontent, hcontentBytes⟩, hvisible⟩ :=
      hvalues value hvalue
    refine ⟨⟨name, content, value.type⟩,
      ⟨⟨hname.1, hcontent.1, ?_⟩, ⟨hname.2, ?_⟩, hcontent.2⟩, ?_⟩
    · exact OutgoingMessage.isText_of_visible hvisible
    · exact OutgoingMessage.stableValue_of_visible hvisible
    · rw [ParameterValue.encoded, hnameBytes, hcontentBytes,
        OutgoingMessage.encodeString_of_visible hvisible]
  obtain ⟨originals, horiginals, rfl⟩ := exists_map_eq htexts
  have hlegal := OutgoingMessage.legal_getParameterValuesResponse htext
    fun original horiginal => (horiginals original horiginal).1
  refine ⟨_, repliesWith_message hlegal hcr rfl (by decide), ?_⟩
  rw [listedValues_of_values text fun original horiginal => (horiginals original horiginal).2.1]
  exact List.map_congr_left fun original horiginal =>
    ParameterValue.received_eq_encoded (horiginals original horiginal).2.2

/-! ## Contents of any bytes -/

theorem eq_of_encodeString_eq {text other : String} (h : encodeString text = encodeString other) :
    text = other := by
  rw [← decodeString_encodeString text, h, decodeString_encodeString]

theorem not_mem_of_legalBytes {text : String} (h : LegalBytes (encodeString text)) :
    '\r' ∉ text.toList := by
  obtain ⟨other, ⟨-, hcr⟩, hsame⟩ := h
  exact eq_of_encodeString_eq hsame ▸ hcr

theorem stableValue_of_visible_encoded {text : String}
    (h : OutgoingMessage.Visible (encodeString text)) : StableValue text := by
  have hsame := eq_of_encodeString_eq (OutgoingMessage.encodeString_of_visible h)
  exact OutgoingMessage.stableValue_of_visible (hsame ▸ h)

/-- How a value is read whose content may be anything. -/
structure ReadsAs (value read : ParameterValue) : Prop where
  name : read.name = value.name
  legal : LegalBytes value.value → read = value

/-- If a response is read, every value has its entry. -/
theorem listed_of_readEncoded {id : String} (hid : LegalBytes id) {values : List ParameterValue}
    (hplain : ∀ value ∈ values, LegalBytes value.name ∧ OutgoingMessage.Visible value.type)
    {root : Node} (hread : readEncoded (SoapBuilder.getParameterValuesResponse id values) =
      some root) :
    ∃ node, RepliesWith (SoapBuilder.getParameterValuesResponse id values) id
        "GetParameterValuesResponse" node ∧
      List.Forall₂ ReadsAs values (SoapParser.listedValues (ofNode prefixes node)) := by
  -- what was read had only characters of XML in it
  obtain ⟨original, hlegal, hencoded⟩ :=
    @OutgoingMessage.exists_legal_of_readEncoded (.getParameterValuesResponse id values) root hread
  cases original with
  | getParameterValuesResponse text originals =>
      obtain ⟨rfl, rfl⟩ : encodeString text = id ∧
          originals.map ParameterValue.encoded = values :=
        OutgoingMessage.getParameterValuesResponse.inj hencoded
      have hplainly : ∀ original ∈ originals, ListedPlainly original := fun original hmem =>
        have hencodedPlain := hplain _ (List.mem_map_of_mem hmem)
        ⟨not_mem_of_legalBytes hencodedPlain.1, stableValue_of_visible_encoded hencodedPlain.2⟩
      refine ⟨_, repliesWith_message hlegal (not_mem_of_legalBytes hid) rfl (by decide), ?_⟩
      rw [listedValues_of_values text hplainly, List.forall₂_map_left_iff,
        List.forall₂_map_right_iff, List.forall₂_same]
      -- the content is given back as long as it has no carriage return
      exact fun original _ =>
        ⟨rfl, fun hcontent =>
          ParameterValue.received_eq_encoded (not_mem_of_legalBytes hcontent)⟩
  | inform => cases hencoded
  | getParameterNamesResponse => cases hencoded
  | transferComplete => cases hencoded
  | downloadResponse => cases hencoded
  | fault => cases hencoded

/-- If a fault is read, whatever names it reports, it is one with its id. -/
theorem repliesWith_fault_of_readEncoded {id : String} (hid : LegalBytes id) {code : Int}
    {message : String} {names : List String} {root : Node}
    (hread : readEncoded (SoapBuilder.fault id code message names) = some root) :
    ∃ node, RepliesWith (SoapBuilder.fault id code message names) id "Fault" node := by
  obtain ⟨original, hlegal, hencoded⟩ :=
    @OutgoingMessage.exists_legal_of_readEncoded (.fault id code message names) root hread
  cases original with
  | fault text number reason originals =>
      obtain ⟨rfl, rfl, rfl, rfl⟩ : encodeString text = id ∧ number = code ∧
          encodeString reason = message ∧ originals.map encodeString = names :=
        OutgoingMessage.fault.inj hencoded
      exact ⟨_, repliesWith_message hlegal (not_mem_of_legalBytes hid) rfl (by decide)⟩
  | inform => cases hencoded
  | getParameterValuesResponse => cases hencoded
  | getParameterNamesResponse => cases hencoded
  | transferComplete => cases hencoded
  | downloadResponse => cases hencoded

end Tr069d
