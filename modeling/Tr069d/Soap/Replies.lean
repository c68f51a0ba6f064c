import Tr069d.Soap.Recovery
import Tr069d.Soap.Rendering
import Tr069d.Xml.EmptyTags

/-!
# What the parser reads of an answer

libxml2 decodes a document, and it resolves its namespaces: an element goes by
its local name, and the type of a value is the attribute `type` of the namespace
of XML Schema instances.  `ReadsAsXml` says that a reader does so on a document.

* `readEncoded_envelope_of_readsAs` reads the envelope around a body that is given as a
  text, and `repliesWith_message` the one around the body of a message.
* `RepliesWith` is what the parser is shown: a document with an id and an element.
* `LegalBytes` are the strings for which that works: bytes of a text of characters of
  XML without the carriage return.
* There is one `repliesWith_` for each answer of the handler, and for those with a list
  it says which names are listed.
-/

namespace Tr069d

open Xml

/-! ## Namespaces -/

/-- The prefix of a name, if it has one, and what follows it. -/
def splitName (name : String) : Option String × String :=
  match name.toList.dropWhile (· ≠ ':') with
  | [] => (none, name)
  | _ :: part =>
      (some (String.ofList (name.toList.takeWhile (· ≠ ':'))), String.ofList part)

/-- The prefixes that a start tag declares, with their namespaces. -/
def declared (attributes : List (String × String)) : List (String × String) :=
  attributes.filterMap fun entry =>
    match splitName entry.1 with
    | (some "xmlns", name) => some (name, entry.2)
    | _ => none

/-- A name without its prefix, if that is declared. -/
def localName (bindings : List (String × String)) (name : String) : String :=
  match splitName name with
  | (some given, part) => if (bindings.lookup given).isSome then part else name
  | (none, _) => name

/-- `xmlGetNsProp` as `localType` calls it. -/
def typeAttribute (bindings attributes : List (String × String)) : Option String :=
  (attributes.find? fun entry =>
    match splitName entry.1 with
    | (some given, "type") =>
        bindings.lookup given == some "http://www.w3.org/2001/XMLSchema-instance"
    | _ => false).map Prod.snd

namespace XmlNode

mutual

/-- A node with its namespaces resolved and its strings in bytes. -/
def ofNode (bindings : List (String × String)) : Node → XmlNode
  | .element name attributes children =>
      .element (encodeString (localName (declared attributes ++ bindings) name))
        ((typeAttribute (declared attributes ++ bindings) attributes).map encodeString)
        (ofNodes (declared attributes ++ bindings) children)
  | .text content => .text (encodeString content)

def ofNodes (bindings : List (String × String)) : List Node → List XmlNode
  | [] => []
  | node :: rest => ofNode bindings node :: ofNodes bindings rest

end

end XmlNode

/-- The document is read as XML says, if it is well-formed. -/
def ReadsAsXml (xmlRead : XmlReader) (xml : String) : Prop :=
  ∀ root, readEncoded xml = some root → xmlRead xml = some [XmlNode.ofNode [] root]

namespace SoapParser

open XmlNode

/-- The first element in the Body, as `parseRpc` finds it. -/
def methodElement (xmlRead : XmlReader) (xml : String) : Option XmlNode :=
  (xmlRead xml).bind fun root => (findDescendant "Body" root).bind fun found =>
    found.head?.bind fun body => body.children.find? isElement

/-- The names in the list of a message. -/
def listedNames (method : XmlNode) : List String :=
  ((listChildren method "ParameterList").filter (hasName "ParameterValueStruct")).map fun item =>
    field item "Name"

theorem parseMethod_method (id name : String) (method : XmlNode) :
    (parseMethod id name method).method = name := by
  simp only [parseMethod]
  split_ifs <;> rfl

end SoapParser

/-! ## The envelope -/

/-- The namespaces of the envelope, by their prefixes. -/
def prefixes : List (String × String) :=
  [("soap-env", "http://schemas.xmlsoap.org/soap/envelope/"),
   ("soap-enc", "http://schemas.xmlsoap.org/soap/encoding/"),
   ("xsd", "http://www.w3.org/2001/XMLSchema"),
   ("xsi", "http://www.w3.org/2001/XMLSchema-instance"),
   ("cwmp", "urn:dslforum-org:cwmp-1-2")]

theorem declared_namespaces : declared OutgoingMessage.namespaces = prefixes := by
  decide

/-- The envelope as it is read. -/
def envelopeNode (id : String) (body : Node) : Node :=
  .element "soap-env:Envelope" OutgoingMessage.namespaces
    [.element "soap-env:Header" []
      [.element "cwmp:ID" [("soap-env:mustUnderstand", "1")] (textNodes id)],
     .element "soap-env:Body" [] [body]]

/-- The parts of the envelope, as the parser sees them. -/
def envelopeParts (id : String) (body : Node) : SoapEnvelope :=
  bareEnvelope
    (some ⟨none, [.element "ID" none (XmlNode.ofNodes prefixes (textNodes id))]⟩)
    ⟨none, [XmlNode.ofNode prefixes body]⟩

theorem ofNode_envelopeNode (id : String) (body : Node) :
    XmlNode.ofNode [] (envelopeNode id body) :: [] = (envelopeParts id body).document := by
  have hnames : encodeString (localName prefixes "soap-env:Envelope") = "Envelope" ∧
      encodeString (localName prefixes "soap-env:Header") = "Header" ∧
      encodeString (localName prefixes "cwmp:ID") = "ID" ∧
      encodeString (localName prefixes "soap-env:Body") = "Body" := by
    decide
  have htypes : typeAttribute prefixes OutgoingMessage.namespaces = none ∧
      typeAttribute prefixes [("soap-env:mustUnderstand", "1")] = none ∧
      declared [("soap-env:mustUnderstand", "1")] = [] := by
    decide
  have hbare : declared [] = [] ∧ typeAttribute prefixes [] = none := ⟨rfl, rfl⟩
  simp only [envelopeNode, XmlNode.ofNode, XmlNode.ofNodes, declared_namespaces, List.append_nil,
    List.nil_append, hnames, htypes, hbare, Option.map_none]
  rfl

theorem content_ofNodes_textNodes (bindings : List (String × String)) (content : String) :
    XmlNode.contents (XmlNode.ofNodes bindings (textNodes content)) = encodeString content := by
  unfold textNodes
  split_ifs with hempty
  · rw [hempty]
    rfl
  · simp [XmlNode.ofNodes, XmlNode.ofNode, XmlNode.contents, XmlNode.content]

theorem isElement_ofNodes_textNodes (bindings : List (String × String)) (content : String) :
    ∀ node ∈ XmlNode.ofNodes bindings (textNodes content), node.isElement = false := by
  unfold textNodes
  split_ifs
  · exact fun node hnode => absurd hnode List.not_mem_nil
  · exact fun node hnode => List.mem_singleton.mp hnode ▸ rfl

/-- The parser finds the id and the element of the message. -/
theorem parseRpc_of_readEncoded {xml id name : String} {attributes : List (String × String)}
    {children : List Node} (hxml : xml ≠ "")
    (hread : readEncoded xml = some (envelopeNode id (.element name attributes children)))
    {xmlRead : XmlReader} (hlibxml : ReadsAsXml xmlRead xml) :
    let method := XmlNode.ofNode prefixes (.element name attributes children)
    SoapParser.methodElement xmlRead xml = some method ∧
      SoapParser.parseRpc xmlRead xml = .ok (SoapParser.parseMethod (encodeString id)
        (encodeString (localName (declared attributes ++ prefixes) name)) method) := by
  intro method
  let parts := envelopeParts id (.element name attributes children)
  have hdocument : xmlRead xml = some parts.document := by
    rw [hlibxml _ hread, ofNode_envelopeNode]
  have hchildren : parts.headerChildren =
      [.element "ID" none (XmlNode.ofNodes prefixes (textNodes id))] := rfl
  -- the Header has one ID and no Body, so that neither is taken for the other
  have hbody : XmlNode.findDescendant "Body" parts.headerChildren = none := by
    have htext := XmlNode.findDescendant_of_not_isElement
      (isElement_ofNodes_textNodes prefixes id) "Body"
    rw [hchildren, XmlNode.findDescendant_cons]
    simp [XmlNode.hasName, XmlNode.findBelow, XmlNode.findDescendant, htext]
  have hown : parts.ownId = some (.element "ID" none
      (XmlNode.ofNodes prefixes (textNodes id))) := by
    rw [SoapEnvelope.ownId, hchildren, XmlNode.findDescendant_cons]
    rfl
  have hmethod : parts.method = some method := rfl
  constructor
  · rw [SoapParser.methodElement, hdocument, Option.bind_some, parts.findDescendant_body hbody]
    exact hmethod
  · rw [parts.parseRpc_document hbody hxml hdocument, hown, Option.some_or, hmethod]
    have hid : XmlNode.nodeText (some (.element "ID" none
        (XmlNode.ofNodes prefixes (textNodes id)))) = encodeString id :=
      content_ofNodes_textNodes prefixes id
    rw [hid]
    rfl

/-! ## The messages -/

theorem recovered_envelopeElement {id : String} (hid : '\r' ∉ id.toList) (body : Element) :
    (OutgoingMessage.envelopeElement id body).recovered.node =
      envelopeNode id body.recovered.node := by
  have hnamespaces := (recoveredAttributes_eq_iff OutgoingMessage.namespaces).mpr
    fun entry hentry => OutgoingMessage.stableValue_of_visible
      (OutgoingMessage.visible_namespaces entry hentry)
  have hone : String.ofList (normalizeSpaces (normalizeLineEnds "1".toList)) = "1" := by decide
  have hcontent : String.ofList (normalizeLineEnds id.toList) = id := by
    rw [normalizeLineEnds_of_not_mem hid, String.ofList_toList]
  simp only [OutgoingMessage.envelopeElement, Element.recovered, Element.mapStrings,
    mapStringsAll, Element.node, nodes, hnamespaces, hone, hcontent, List.map_cons, List.map_nil,
    envelopeNode]

/-- An envelope around an element whose strings are encoded. -/
theorem readEncoded_envelope {id : String} (hid : IsText id) (hcr : '\r' ∉ id.toList)
    {body : Element} (hbody : OutgoingMessage.Sound body) :
    readEncoded (SoapBuilder.envelope (encodeString id)
      (OutgoingMessage.printed (body.mapStrings encode encode))) =
        some (envelopeNode id body.recovered.node) := by
  have hsound := OutgoingMessage.sound_envelopeElement hid hbody
  rw [OutgoingMessage.envelope_eq, ← OutgoingMessage.envelopeElement_encoded,
    ← recovered_envelopeElement hcr]
  exact readEncoded_print hsound.printable hsound.asciiNames

theorem readEncoded_message {message : OutgoingMessage} (h : message.Legal)
    (hcr : '\r' ∉ message.id.toList) :
    readEncoded message.encoded.text =
      some (envelopeNode message.id message.body.recovered.node) := by
  rw [OutgoingMessage.readEncoded_text h, OutgoingMessage.tree, recovered_envelopeElement hcr]

/-- The element of `SetParameterValuesResponse`. -/
def statusElement : Element :=
  .branch "cwmp:SetParameterValuesResponse" [] [.leaf "Status" [] "0"]

theorem readEncoded_setParameterValuesResponse {id : String} (hid : IsText id)
    (hcr : '\r' ∉ id.toList) :
    readEncoded (SoapBuilder.setParameterValuesResponse (encodeString id)) =
      some (envelopeNode id statusElement.recovered.node) := by
  have hsound : OutgoingMessage.Sound statusElement := by
    have hnames : (IsName "cwmp:SetParameterValuesResponse" ∧
        Ascii "cwmp:SetParameterValuesResponse".toList) ∧
        IsName "Status" ∧ Ascii "Status".toList ∧ IsText "0" := by
      decide
    have hnone : PrintableAttributes [] := ⟨by simp, by simp, by simp⟩
    exact ⟨⟨hnames.1.1, hnone, ⟨hnames.2.1, hnone, hnames.2.2.2⟩, trivial⟩,
      hnames.1.2, by simp, ⟨hnames.2.2.1, by simp⟩, trivial⟩
  have hprinted : OutgoingMessage.printed (statusElement.mapStrings encode encode) =
      "<cwmp:SetParameterValuesResponse><Status>" ++ toString (0 : Int) ++
        "</Status></cwmp:SetParameterValuesResponse>" := by
    decide
  rw [SoapBuilder.setParameterValuesResponse, ← hprinted]
  exact readEncoded_envelope hid hcr hsound

/-! ## An envelope around any text -/

def idHeader (id : String) : Element :=
  .branch "soap-env:Header" [] [.leaf "cwmp:ID" [("soap-env:mustUnderstand", "1")] id]

/-- The envelope without its first `<`. -/
def envelopeText (id : String) (body : List Char) : List Char :=
  enclose "soap-env:Envelope" OutgoingMessage.namespaces
    (contentOf [(idHeader id).inner, enclose "soap-env:Body" [] body])

theorem toList_closeTag (name : String) :
    (OutgoingMessage.closeTag name).toList = '<' :: '/' :: (name.toList ++ ['>']) := by
  simp [OutgoingMessage.closeTag]

theorem toList_openTag (name : String) :
    (OutgoingMessage.openTag name).toList = '<' :: (name.toList ++ ['>']) := by
  simp [OutgoingMessage.openTag]

/-- The start tag of the envelope. -/
def envelopeTag : String :=
  "<soap-env:Envelope xmlns:soap-env=\"http://schemas.xmlsoap.org/soap/envelope/\" " ++
  "xmlns:soap-enc=\"http://schemas.xmlsoap.org/soap/encoding/\" " ++
  "xmlns:xsd=\"http://www.w3.org/2001/XMLSchema\" " ++
  "xmlns:xsi=\"http://www.w3.org/2001/XMLSchema-instance\" " ++
  "xmlns:cwmp=\"urn:dslforum-org:cwmp-1-2\">"

theorem toList_envelopeTag : envelopeTag.toList =
    '<' ::
      ("soap-env:Envelope".toList ++ (printAttributes OutgoingMessage.namespaces ++ ['>'])) := by
  have hprinted := congrArg String.toList (OutgoingMessage.printed_envelope [])
  rw [OutgoingMessage.printedAll_nil, String.append_empty, String.toList_append,
    toList_closeTag, OutgoingMessage.printed, String.toList_ofList, Element.print,
    Element.inner] at hprinted
  refine List.append_cancel_right (hprinted.symm.trans ?_)
  simp only [printAll, List.append_assoc, List.cons_append, List.nil_append]

open OutgoingMessage in
theorem envelope_eq_tags (id body : String) :
    SoapBuilder.envelope id body =
      declaration ++ (envelopeTag ++ (OutgoingMessage.printed (idHeader id) ++
        (openTag "soap-env:Body" ++ (body ++ (closeTag "soap-env:Body" ++
          closeTag "soap-env:Envelope"))))) := by
  have hheader : "<soap-env:Header><cwmp:ID soap-env:mustUnderstand=\"1\">" =
      openTag "soap-env:Header" ++ openTagWith "cwmp:ID" "soap-env:mustUnderstand" "1" := by
    simp [openTag, openTagWith]
  have hone : SoapBuilder.escape "1" = "1" := by decide
  have hbody : "</cwmp:ID></soap-env:Header><soap-env:Body>" =
      closeTag "cwmp:ID" ++ closeTag "soap-env:Header" ++ openTag "soap-env:Body" := by
    simp [openTag, closeTag]
  have hclose : "</soap-env:Body></soap-env:Envelope>" =
      closeTag "soap-env:Body" ++ closeTag "soap-env:Envelope" := by
    simp [closeTag]
  unfold SoapBuilder.envelope idHeader declaration envelopeTag
  rw [hheader, hbody, hclose, printed_branch, printedAll_cons, printedAll_nil, printed_leaf_with,
    hone]
  simp only [String.append_assoc, String.append_empty]

theorem toList_envelope (id body : String) :
    (SoapBuilder.envelope id body).toList =
      declaration.toList ++ '<' :: envelopeText id body.toList := by
  rw [envelope_eq_tags]
  simp only [String.toList_append, toList_envelopeTag, toList_openTag, toList_closeTag,
    OutgoingMessage.printed, String.toList_ofList, Element.print, envelopeText, enclose,
    contentOf, List.flatMap_cons, List.flatMap_nil, printAttributes, List.append_assoc,
    List.cons_append, List.nil_append, List.append_nil]

theorem encode_enclose {name : String} {attributes : List (String × String)}
    (hname : Ascii name.toList) (hattributes : Ascii (printAttributes attributes))
    (content : List Char) :
    encode (enclose name attributes content) = enclose name attributes (encode content) := by
  have hmarkup : encodeChar '>' = ['>'] ∧ encodeChar '<' = ['<'] ∧ encodeChar '/' = ['/'] := by
    refine ⟨?_, ?_, ?_⟩ <;> exact encodeChar_of_lt (by decide)
  simp only [enclose, encode_append, encode_cons, encode_of_ascii hname,
    encode_of_ascii hattributes, hmarkup, List.singleton_append]
  rfl

theorem cr_not_mem_enclose {name : String} {attributes : List (String × String)}
    {content : List Char} (hname : '\r' ∉ name.toList)
    (hattributes : '\r' ∉ printAttributes attributes) (hcontent : '\r' ∉ content) :
    '\r' ∉ enclose name attributes content := by
  simp [enclose, hname, hattributes, hcontent]

/-- An element whose strings have no CR is printed without one. -/
theorem cr_not_mem_inner {element : Element} (hprintable : element.Printable)
    (hsame : element.mapStrings normalizeLineEnds normalizeLineEnds = element) :
    '\r' ∉ element.inner := by
  have hinner := normalizeLineEnds_inner element hprintable []
  rw [hsame, List.append_nil] at hinner
  exact normalizeLineEnds_eq_self_iff.mp (hinner.trans (List.append_nil _))

section Around

variable {cwmpId : String} (hid : IsText cwmpId)

include hid

theorem sound_idHeader : OutgoingMessage.Sound (idHeader cwmpId) := by
  have hkey : IsName "soap-env:mustUnderstand" ∧ Ascii "soap-env:mustUnderstand".toList := by
    decide
  have hone : IsText "1" := OutgoingMessage.isText_of_visible (by decide)
  exact OutgoingMessage.sound_branch (List.forall_mem_singleton.mpr
    (OutgoingMessage.sound_leaf_with hkey hone hid))

theorem readsAs_envelopeText {body : List Char} {node : Node} (hbody : ReadsAs body node) :
    ReadsAs (envelopeText cwmpId ('<' :: body)) (envelopeNode cwmpId node) := by
  have hnames : IsName "soap-env:Envelope" ∧ IsName "soap-env:Body" := by decide
  have hnone : PrintableAttributes [] := ⟨by simp, by simp, by simp⟩
  have hparts := readsAs_enclose hnames.1 OutgoingMessage.printable_namespaces.1 (.cons
    (readsAs_inner (sound_idHeader hid).printable)
    (.cons (readsAs_enclose hnames.2 hnone (.cons hbody .nil)) .nil))
  have hvalues : (OutgoingMessage.namespaces.map fun entry =>
      (entry.1, String.ofList (normalizeSpaces entry.2.toList))) =
        OutgoingMessage.namespaces := by
    decide
  have hone : String.ofList (normalizeSpaces "1".toList) = "1" := by decide
  have hheader : ((idHeader cwmpId).mapStrings id normalizeSpaces).node =
      .element "soap-env:Header" []
        [.element "cwmp:ID" [("soap-env:mustUnderstand", "1")] (textNodes cwmpId)] := by
    simp only [idHeader, Element.mapStrings, mapStringsAll, Element.node, nodes, List.map_cons,
      List.map_nil, hone, id_eq, String.ofList_toList]
  rw [hvalues, hheader, contentOf_singleton] at hparts
  exact hparts

/-- The envelope around a text that is read as a node. -/
theorem readEncoded_envelope_of_readsAs (hcr : '\r' ∉ cwmpId.toList) {body : String}
    {text : List Char} {node : Node} (hbody : body.toList = '<' :: text)
    (hascii : Ascii body.toList) (hbodyCr : '\r' ∉ body.toList) (hread : ReadsAs text node) :
    readEncoded (SoapBuilder.envelope (encodeString cwmpId) body) =
      some (envelopeNode cwmpId node) := by
  have hsound := sound_idHeader hid
  have hnames : Ascii declaration.toList ∧ Ascii "soap-env:Envelope".toList ∧
      Ascii "soap-env:Body".toList ∧ Ascii (printAttributes OutgoingMessage.namespaces) := by
    decide +kernel
  have hclean : '\r' ∉ "soap-env:Envelope".toList ∧ '\r' ∉ "soap-env:Body".toList ∧
      '\r' ∉ printAttributes OutgoingMessage.namespaces := by
    decide
  have hone : encodeString "1" = "1" ∧ String.ofList (normalizeLineEnds "1".toList) = "1" := by
    decide
  -- encoding and reading go through the header, whose id is the only text in it
  have hheaderEncoded : (idHeader cwmpId).mapStrings encode encode =
      idHeader (encodeString cwmpId) := by
    simp only [idHeader, OutgoingMessage.mapStrings_branch, mapStringsAll,
      OutgoingMessage.mapStrings_leaf_with, hone]
  have hheaderSame :
      (idHeader cwmpId).mapStrings normalizeLineEnds normalizeLineEnds = idHeader cwmpId := by
    simp only [idHeader, Element.mapStrings, mapStringsAll, List.map_cons, List.map_nil, hone,
      normalizeLineEnds_of_not_mem hcr, String.ofList_toList]
  -- outside the id the envelope is ASCII, so its bytes are its characters
  have hbytes : (SoapBuilder.envelope (encodeString cwmpId) body).toList =
      encode (SoapBuilder.envelope cwmpId body).toList := by
    have hlt : encodeChar '<' = ['<'] := encodeChar_of_lt (by decide)
    rw [toList_envelope, toList_envelope, encode_append, encode_of_ascii hnames.1, encode_cons,
      hlt, envelopeText, envelopeText, encode_enclose hnames.2.1 hnames.2.2.2, contentOf_pair,
      contentOf_pair, encode_cons, encode_append, encode_cons, hlt,
      encode_enclose hnames.2.2.1 (by decide), encode_of_ascii hascii, ← hheaderEncoded,
      encode_inner _ hsound.asciiNames]
    rfl
  -- nor has it carriage returns, which the reader would turn into line feeds
  have hclear : '\r' ∉ envelopeText cwmpId body.toList := by
    refine cr_not_mem_enclose hclean.1 hclean.2.2 ?_
    have hheader := cr_not_mem_inner hsound.printable hheaderSame
    have henclosed := @cr_not_mem_enclose _ [] _ hclean.2.1 (by decide) hbodyCr
    simp [contentOf_pair, hheader, henclosed]
  have htext : SoapBuilder.envelope cwmpId body =
      declaration ++ String.ofList ('<' :: envelopeText cwmpId body.toList) := by
    rw [← String.toList_inj, toList_envelope, String.toList_append, String.toList_ofList]
  rw [readEncoded, hbytes, decode_encode, Option.bind_some, String.ofList_toList, htext]
  refine readDocument_of_readsAs ?_ hclear
  rw [hbody]
  exact readsAs_envelopeText hid hread

theorem readEncoded_rebootResponse (hcr : '\r' ∉ cwmpId.toList) :
    readEncoded (SoapBuilder.rebootResponse (encodeString cwmpId)) =
      some (envelopeNode cwmpId (.element "cwmp:RebootResponse" [] [])) := by
  have hname : IsName "cwmp:RebootResponse" := by decide
  have htext : "<cwmp:RebootResponse/>".toList =
      '<' :: ("cwmp:RebootResponse".toList ++ ['/', '>']) := by
    decide
  exact readEncoded_envelope_of_readsAs hid hcr htext (by decide) (by decide)
    (readsAs_empty hname)

end Around

/-! ## The list of a response -/

theorem nodes_map {α : Type} (element : α → Element) (values : List α) :
    nodes (values.map element) = values.map fun value => (element value).node := by
  induction values with
  | nil => rfl
  | cons value values ih => rw [List.map_cons, nodes, ih, List.map_cons]

theorem ofNodes_map {α : Type} (bindings : List (String × String)) (node : α → Node)
    (values : List α) :
    XmlNode.ofNodes bindings (values.map node) =
      values.map fun value => XmlNode.ofNode bindings (node value) := by
  induction values with
  | nil => rfl
  | cons value values ih => rw [List.map_cons, XmlNode.ofNodes, ih, List.map_cons]

/-- An attribute that declares nothing. -/
theorem declared_singleton {name : String} (hname : (splitName name).1 ≠ some "xmlns")
    (value : String) : declared [(name, value)] = [] := by
  rw [declared, List.filterMap_cons, List.filterMap_nil]
  split
  · rfl
  · rename_i heq
    split at heq
    · rename_i hsplit
      exact absurd (congrArg Prod.fst hsplit) hname
    · cases heq

/-- What is read of the entry of a value. -/
theorem ofNode_valueElement (value : ParameterValue) (hname : '\r' ∉ value.name.toList) :
    ∃ type content, XmlNode.ofNode prefixes (OutgoingMessage.valueElement value).recovered.node =
      .element "ParameterValueStruct" none
        [.element "Name" none (XmlNode.ofNodes prefixes (textNodes value.name)),
         .element "Value" type content] := by
  have hnames : encodeString (localName prefixes "ParameterValueStruct") =
      "ParameterValueStruct" ∧ encodeString (localName prefixes "Name") = "Name" ∧
      encodeString (localName prefixes "Value") = "Value" := by
    decide
  have hdeclared : ∀ type, declared [("xsi:type", type)] = [] :=
    declared_singleton (by decide)
  have hbare : declared [] = [] ∧ typeAttribute prefixes [] = none := ⟨rfl, rfl⟩
  have hcontent : String.ofList (normalizeLineEnds value.name.toList) = value.name := by
    rw [normalizeLineEnds_of_not_mem hname, String.ofList_toList]
  simp only [OutgoingMessage.valueElement, Element.recovered, Element.mapStrings, mapStringsAll,
    Element.node, nodes, List.map_cons, List.map_nil, hcontent, XmlNode.ofNode, XmlNode.ofNodes,
    hdeclared, hbare, hnames, List.nil_append, Option.map_none]
  exact ⟨_, _, rfl⟩

/-- The entries of a response are read in its order, each from its own element. -/
theorem map_listChildren_of_values {β : Type} (id : String) {values : List ParameterValue}
    {read : XmlNode → β} {expected : ParameterValue → β}
    (hread : ∀ value ∈ values,
      let node := XmlNode.ofNode prefixes (OutgoingMessage.valueElement value).recovered.node
      node.hasName "ParameterValueStruct" = true ∧ read node = expected value) :
    ((SoapParser.listChildren (XmlNode.ofNode prefixes
      (OutgoingMessage.getParameterValuesResponse id values).body.recovered.node)
        "ParameterList").filter (XmlNode.hasName "ParameterValueStruct")).map read =
      values.map expected := by
  have hnames : encodeString (localName prefixes "cwmp:GetParameterValuesResponse") =
      "GetParameterValuesResponse" ∧
      encodeString (localName prefixes "ParameterList") = "ParameterList" := by
    decide
  have hdeclared : ∀ type, declared [("soap-enc:arrayType", type)] = [] :=
    declared_singleton (by decide)
  have hbare : declared [] = [] ∧ typeAttribute prefixes [] = none := ⟨rfl, rfl⟩
  let item (value : ParameterValue) :=
    XmlNode.ofNode prefixes (OutgoingMessage.valueElement value).recovered.node
  have hitem : ∀ value node, value ∈ values ∧ node = item value →
      node.hasName "ParameterValueStruct" = true ∧ read node = expected value := by
    intro value node ⟨hvalue, hnode⟩
    rw [hnode]
    exact hread value hvalue
  -- the body as libxml builds it, where the attribute of the list is no namespace
  have hmethod : ∃ type, XmlNode.ofNode prefixes
      (OutgoingMessage.getParameterValuesResponse id values).body.recovered.node =
        .element "GetParameterValuesResponse" none
          [.element "ParameterList" type (values.map item)] := by
    simp only [OutgoingMessage.body, Element.recovered, Element.mapStrings, mapStringsAll,
      mapStringsAll_map, Element.node, nodes, nodes_map, XmlNode.ofNode,
      XmlNode.ofNodes, ofNodes_map, OutgoingMessage.arrayType, List.map_cons, List.map_nil,
      hdeclared, hbare, hnames, List.nil_append, Option.map_none]
    exact ⟨_, rfl⟩
  obtain ⟨type, hmethod⟩ := hmethod
  -- entry by entry, in the order of the values
  have hitems : List.Forall₂ (fun value node => value ∈ values ∧ node = item value) values
      (values.map item) := by
    rw [List.forall₂_map_right_iff, List.forall₂_same]
    exact fun value hvalue => ⟨hvalue, rfl⟩
  rw [hmethod]
  exact map_filter_of_forall₂ hitem hitems

/-- The names of a response are listed in its order. -/
theorem listedNames_of_values (id : String) {values : List ParameterValue}
    (hnames : ∀ value ∈ values, '\r' ∉ value.name.toList) :
    SoapParser.listedNames (XmlNode.ofNode prefixes
      (OutgoingMessage.getParameterValuesResponse id values).body.recovered.node) =
        values.map fun value => encodeString value.name := by
  refine map_listChildren_of_values id fun value hvalue => ?_
  intro node
  obtain ⟨type, content, hnode⟩ := ofNode_valueElement value (hnames value hvalue)
  rw [show node = _ from hnode]
  exact ⟨rfl, content_ofNodes_textNodes prefixes value.name⟩

/-! ## Answers -/

/-- The document is an envelope with an id and an element of a name. -/
structure RepliesWith (xml id name : String) (node : Node) : Prop where
  read : ∃ text, encodeString text = id ∧ readEncoded xml = some (envelopeNode text node)
  named : ∃ qualified children, node = .element qualified [] children ∧
    encodeString (localName prefixes qualified) = name

theorem parseRpc_of_repliesWith {xml id name : String} {node : Node}
    (h : RepliesWith xml id name node) {xmlRead : XmlReader} (hlibxml : ReadsAsXml xmlRead xml) :
    SoapParser.methodElement xmlRead xml = some (XmlNode.ofNode prefixes node) ∧
      ∃ answer, SoapParser.parseRpc xmlRead xml = .ok answer ∧ answer.cwmpId = id ∧
        answer.method = name := by
  obtain ⟨text, rfl, hread⟩ := h.read
  obtain ⟨qualified, children, rfl, rfl⟩ := h.named
  have hxml : xml ≠ "" := by
    rintro rfl
    have hnone : readEncoded "" = none := by decide
    rw [hnone] at hread
    cases hread
  obtain ⟨hmethod, hparse⟩ := parseRpc_of_readEncoded hxml hread hlibxml
  exact ⟨hmethod, _, hparse, SoapEnvelope.parseMethod_cwmpId .., SoapParser.parseMethod_method ..⟩

/-- The bytes of a text of characters of XML that a reader gives back. -/
def LegalBytes (bytes : String) : Prop :=
  ∃ text, (IsText text ∧ '\r' ∉ text.toList) ∧ encodeString text = bytes

theorem legalBytes_of_visible {text : String} (h : OutgoingMessage.Visible text) :
    LegalBytes text := by
  refine ⟨text, ⟨OutgoingMessage.isText_of_visible h, ?_⟩,
    OutgoingMessage.encodeString_of_visible h⟩
  exact OutgoingMessage.stableContent_of_visible h

theorem exists_map_eq {α β : Type} {f : α → β} {P : α → Prop} {values : List β}
    (h : ∀ value ∈ values, ∃ original, P original ∧ f original = value) :
    ∃ originals : List α, (∀ original ∈ originals, P original) ∧ originals.map f = values := by
  induction values with
  | nil => exact ⟨[], fun _ hnone => absurd hnone List.not_mem_nil, rfl⟩
  | cons value values ih =>
      obtain ⟨⟨original, horiginal, rfl⟩, hrest⟩ := List.forall_mem_cons.mp h
      obtain ⟨originals, horiginals, rfl⟩ := ih hrest
      exact ⟨original :: originals, List.forall_mem_cons.mpr ⟨horiginal, horiginals⟩, rfl⟩

/-- A message whose strings are legal. -/
theorem repliesWith_message {message : OutgoingMessage} (h : message.Legal)
    (hcr : '\r' ∉ message.id.toList) {qualified name : String} {children : List Node}
    (hbody : message.body.recovered.node = .element qualified [] children)
    (hname : encodeString (localName prefixes qualified) = name) :
    RepliesWith message.encoded.text (encodeString message.id) name message.body.recovered.node :=
  ⟨⟨message.id, rfl, readEncoded_message h hcr⟩, ⟨qualified, children, hbody, hname⟩⟩

/-- The response is legal if the strings of its values are. -/
theorem OutgoingMessage.legal_getParameterValuesResponse {id : String} (hid : IsText id)
    {values : List ParameterValue}
    (hvalues : ∀ value ∈ values, IsText value.name ∧ IsText value.value ∧ IsText value.type) :
    (OutgoingMessage.getParameterValuesResponse id values).Legal := by
  refine ⟨?_, fun value hvalue => (hvalues value hvalue).2.2⟩
  refine List.forall_mem_append.mpr ⟨List.forall_mem_cons.mpr ⟨hid, ?_⟩, ?_⟩
  · exact List.forall_mem_map.mpr fun value hvalue => (hvalues value hvalue).1
  · exact List.forall_mem_map.mpr fun value hvalue => (hvalues value hvalue).2.1

section Messages

variable {id : String} (hid : LegalBytes id)

include hid

theorem repliesWith_setParameterValuesResponse :
    ∃ node, RepliesWith (SoapBuilder.setParameterValuesResponse id) id
      "SetParameterValuesResponse" node := by
  obtain ⟨text, ⟨htext, hcr⟩, rfl⟩ := hid
  exact ⟨_, ⟨text, rfl, readEncoded_setParameterValuesResponse htext hcr⟩,
    ⟨_, _, rfl, by decide⟩⟩

theorem repliesWith_rebootResponse :
    ∃ node, RepliesWith (SoapBuilder.rebootResponse id) id "RebootResponse" node := by
  obtain ⟨text, ⟨htext, hcr⟩, rfl⟩ := hid
  exact ⟨_, ⟨text, rfl, readEncoded_rebootResponse htext hcr⟩, ⟨_, _, rfl, by decide⟩⟩

theorem repliesWith_fault (code : Int) {message : String} (hmessage : LegalBytes message)
    {names : List String} (hnames : ∀ name ∈ names, LegalBytes name) :
    ∃ node, RepliesWith (SoapBuilder.fault id code message names) id "Fault" node := by
  obtain ⟨text, ⟨htext, hcr⟩, rfl⟩ := hid
  obtain ⟨reason, ⟨hreason, -⟩, rfl⟩ := hmessage
  obtain ⟨originals, horiginals, rfl⟩ := exists_map_eq hnames
  have hlegal : (OutgoingMessage.fault text code reason originals).Legal := by
    refine ⟨?_, fun value hvalue => absurd hvalue List.not_mem_nil⟩
    exact List.forall_mem_cons.mpr ⟨htext, List.forall_mem_cons.mpr
      ⟨hreason, fun original horiginal => (horiginals original horiginal).1⟩⟩
  exact ⟨_, repliesWith_message hlegal hcr rfl (by decide)⟩

theorem repliesWith_downloadResponse (status : Int) {start complete : String}
    (hstart : LegalBytes start) (hcomplete : LegalBytes complete) :
    ∃ node, RepliesWith (SoapBuilder.downloadResponse id status start complete) id
      "DownloadResponse" node := by
  obtain ⟨text, ⟨htext, hcr⟩, rfl⟩ := hid
  obtain ⟨start, ⟨hstart, -⟩, rfl⟩ := hstart
  obtain ⟨complete, ⟨hcomplete, -⟩, rfl⟩ := hcomplete
  have hlegal : (OutgoingMessage.downloadResponse text status start complete).Legal := by
    refine ⟨?_, fun value hvalue => absurd hvalue List.not_mem_nil⟩
    exact List.forall_mem_cons.mpr ⟨htext, List.forall_mem_cons.mpr
      ⟨hstart, List.forall_mem_singleton.mpr hcomplete⟩⟩
  exact ⟨_, repliesWith_message hlegal hcr rfl (by decide)⟩

theorem repliesWith_getParameterNamesResponse {names : List ParameterInfo}
    (hnames : ∀ info ∈ names, LegalBytes info.name) :
    ∃ node, RepliesWith (SoapBuilder.getParameterNamesResponse id names) id
      "GetParameterNamesResponse" node := by
  obtain ⟨text, ⟨htext, hcr⟩, rfl⟩ := hid
  have hinfos : ∀ info ∈ names, ∃ original : ParameterInfo,
      (IsText original.name ∧ '\r' ∉ original.name.toList) ∧
        ParameterInfo.mk (encodeString original.name) original.writable = info := by
    rintro ⟨name, writable⟩ hinfo
    obtain ⟨original, horiginal, hname⟩ := hnames _ hinfo
    exact ⟨⟨original, writable⟩, horiginal, congrArg (ParameterInfo.mk · writable) hname⟩
  obtain ⟨originals, horiginals, rfl⟩ := exists_map_eq hinfos
  have hlegal : (OutgoingMessage.getParameterNamesResponse text originals).Legal := by
    refine ⟨?_, fun value hvalue => absurd hvalue List.not_mem_nil⟩
    exact List.forall_mem_cons.mpr ⟨htext, List.forall_mem_map.mpr
      fun original horiginal => (horiginals original horiginal).1⟩
  exact ⟨_, repliesWith_message hlegal hcr rfl (by decide)⟩

/-- The names of the values are listed, in their order. -/
theorem repliesWith_getParameterValuesResponse {values : List ParameterValue}
    (hvalues : ∀ value ∈ values,
      LegalBytes value.name ∧ LegalBytes value.value ∧ LegalBytes value.type) :
    ∃ node, RepliesWith (SoapBuilder.getParameterValuesResponse id values) id
        "GetParameterValuesResponse" node ∧
      SoapParser.listedNames (XmlNode.ofNode prefixes node) = values.map ParameterValue.name := by
  obtain ⟨text, ⟨htext, hcr⟩, rfl⟩ := hid
  -- the bytes of each value are those of a text, which the reader gives back
  have htexts : ∀ value ∈ values, ∃ original : ParameterValue,
      ((IsText original.name ∧ IsText original.value ∧ IsText original.type) ∧
        '\r' ∉ original.name.toList) ∧
        ParameterValue.mk (encodeString original.name) (encodeString original.value)
          (encodeString original.type) = value := by
    rintro ⟨name, content, type⟩ hvalue
    obtain ⟨⟨name, hname, rfl⟩, ⟨content, hcontent, rfl⟩, ⟨type, htype, rfl⟩⟩ := hvalues _ hvalue
    exact ⟨⟨name, content, type⟩, ⟨⟨hname.1, hcontent.1, htype.1⟩, hname.2⟩, rfl⟩
  obtain ⟨originals, horiginals, rfl⟩ := exists_map_eq htexts
  have hlegal := OutgoingMessage.legal_getParameterValuesResponse htext
    fun original horiginal => (horiginals original horiginal).1
  refine ⟨_, repliesWith_message hlegal hcr rfl (by decide), ?_⟩
  rw [listedNames_of_values text fun original horiginal => (horiginals original horiginal).2,
    List.map_map]
  rfl

end Messages

end Tr069d
