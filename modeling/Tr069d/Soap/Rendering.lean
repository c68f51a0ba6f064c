import Mathlib.Data.List.Forall2
import Tr069d.Soap.Envelope

/-!
# Decoding a request

A rendering of a request is a tree whose elements are those of the request, with
comments, processing instructions and white space anywhere between them.  The
parser looks for every element by its name among the children of another, and
so it reads back the request of every rendering.

* `Renders` relates a request to the trees that say it, method by method, and
  `SoapEnvelope.Carries` to the envelopes.
* `map_filter_of_forall₂` reads a list whole and in its order, and
  `find?_of_mem_fields` a field wherever it stands.
* `parseRpc_of_carries` is the result for whole documents.
-/

namespace Tr069d

namespace XmlNode

/-- The children that are elements. -/
def elements (node : XmlNode) : List XmlNode :=
  node.children.filter isElement

def xsiType : XmlNode → Option String
  | element _ type _ => type
  | _ => none

/-- An element that contains a text, and no elements. -/
structure IsLeaf (name text : String) (node : XmlNode) : Prop where
  hasName : node.hasName name = true
  elements : node.elements = []
  content : node.content = text

/-- An element has one name. -/
theorem hasName_of_ne {name other : String} {node : XmlNode} (h : node.hasName name = true)
    (hne : name ≠ other) : node.hasName other = false := by
  cases node with
  | element nodeName _ _ =>
      exact decide_eq_false fun heq => hne ((of_decide_eq_true h).symm.trans heq)
  | text _ => cases h
  | other => cases h

/-! ## Looking among the elements -/

theorem child_eq (node : XmlNode) (name : String) :
    child (some node) name = node.elements.find? (hasName name) := by
  have hboth : ∀ node : XmlNode, decide (node.isElement = true ∧ node.hasName name = true) =
      node.hasName name := by
    intro node
    cases node <;> simp [isElement, hasName]
  rw [elements, List.find?_filter]
  exact congrArg (node.children.find? ·) (funext fun node => (hboth node).symm)

theorem filter_hasName_children (node : XmlNode) (name : String) :
    node.children.filter (hasName name) = node.elements.filter (hasName name) := by
  rw [elements, List.filter_filter]
  congr 1
  funext node
  cases node <;> simp [hasName, isElement]

end XmlNode

/-- The requests of the ACS whose data the parser reads. -/
inductive IncomingRequest
  | getParameterValues (names : List String)
  | setParameterValues (values : List ParameterValue) (parameterKey : String)
  | getParameterNames (path : String) (nextLevel : Bool)
  | reboot (commandKey : String)
  | download (request : DownloadRequest) (delay_lt : request.delaySeconds < 2 ^ 32)

namespace IncomingRequest

/-- The request as the parser returns it. -/
def rpc (id : String) : IncomingRequest → ParsedRpc
  | getParameterValues names =>
      { method := "GetParameterValues", cwmpId := id, parameterNames := names }
  | setParameterValues values parameterKey =>
      { method := "SetParameterValues", cwmpId := id, parameterValues := values,
        parameterKey := parameterKey }
  | getParameterNames path nextLevel =>
      { method := "GetParameterNames", cwmpId := id, parameterPath := path, nextLevel := nextLevel }
  | reboot commandKey => { method := "Reboot", cwmpId := id, commandKey := commandKey }
  | download request _ => { method := "Download", cwmpId := id, download := some request }

end IncomingRequest

open XmlNode

/-! ## Renderings -/

/-- A parameter with its value and its type. -/
inductive RendersValue (value : ParameterValue) : XmlNode → Prop
  | intro {node name content : XmlNode} (hasName : node.hasName "ParameterValueStruct" = true)
      (elements : node.elements = [name, content]) (isName : IsLeaf "Name" value.name name)
      (isValue : IsLeaf "Value" value.value content)
      (type : content.xsiType = some value.type) : RendersValue value node

/-- The arguments of a Download, among others. -/
structure DownloadFields (request : DownloadRequest) (fields : List (String × String)) : Prop where
  nodup : (fields.map Prod.fst).Nodup
  commandKey : ("CommandKey", request.commandKey) ∈ fields
  fileType : ("FileType", request.fileType) ∈ fields
  url : ("URL", request.url) ∈ fields
  username : ("Username", request.username) ∈ fields
  password : ("Password", request.password) ∈ fields
  targetFileName : ("TargetFileName", request.targetFileName) ∈ fields
  delaySeconds : ∃ digits, ("DelaySeconds", digits) ∈ fields ∧ isDecimal digits.toList = true ∧
    decimalValue digits.toList = request.delaySeconds

/-- The element of a request. -/
inductive Renders : IncomingRequest → XmlNode → Prop
  | getParameterValues {names : List String} {method list : XmlNode}
      (hasName : method.hasName "GetParameterValues" = true) (elements : method.elements = [list])
      (isList : list.hasName "ParameterNames" = true)
      (items : List.Forall₂ (IsLeaf "string") names list.elements) :
      Renders (.getParameterValues names) method
  | setParameterValues {values : List ParameterValue} {parameterKey : String}
      {method list key : XmlNode} (hasName : method.hasName "SetParameterValues" = true)
      (elements : method.elements = [list, key]) (isList : list.hasName "ParameterList" = true)
      (items : List.Forall₂ RendersValue values list.elements)
      (isKey : IsLeaf "ParameterKey" parameterKey key) :
      Renders (.setParameterValues values parameterKey) method
  | getParameterNames {path flag : String} {nextLevel : Bool} {method pathNode flagNode : XmlNode}
      (hasName : method.hasName "GetParameterNames" = true)
      (elements : method.elements = [pathNode, flagNode])
      (isPath : IsLeaf "ParameterPath" path pathNode) (isFlag : IsLeaf "NextLevel" flag flagNode)
      (isBoolean : flag ∈ if nextLevel then ["1", "true"] else ["0", "false"]) :
      Renders (.getParameterNames path nextLevel) method
  | reboot {commandKey : String} {method key : XmlNode} (hasName : method.hasName "Reboot" = true)
      (elements : method.elements = [key]) (isKey : IsLeaf "CommandKey" commandKey key) :
      Renders (.reboot commandKey) method
  | download {request : DownloadRequest} {delay_lt : request.delaySeconds < 2 ^ 32}
      {fields : List (String × String)} {method : XmlNode}
      (hasName : method.hasName "Download" = true)
      (items : List.Forall₂ (fun field => IsLeaf field.1 field.2) fields method.elements)
      (isDownload : DownloadFields request fields) : Renders (.download request delay_lt) method

/-- The envelope has a Header with the id, and the request in its Body. -/
structure SoapEnvelope.Carries (envelope : SoapEnvelope) (id : String) (request : IncomingRequest) :
    Prop where
  header : ∃ part before node after, envelope.header = some part ∧
    part.children = before ++ node :: after ∧ IsLeaf "ID" id node ∧
    findDescendant "ID" before = none ∧ findDescendant "Body" part.children = none
  body : ∃ method, envelope.body.children.filter isElement = [method] ∧ Renders request method

/-! ## Reading a rendering -/

theorem nodeText_of_isLeaf {name text : String} {node : XmlNode} (h : IsLeaf name text node) :
    nodeText (some node) = text :=
  h.content

/-- A list of elements of one name is read whole and in its order. -/
theorem map_filter_of_forall₂ {α β : Type} {R : α → XmlNode → Prop} {name : String}
    {read : XmlNode → β} {value : α → β}
    (h : ∀ item node, R item node → node.hasName name = true ∧ read node = value item)
    {items : List α} {nodes : List XmlNode} (hitems : List.Forall₂ R items nodes) :
    (nodes.filter (hasName name)).map read = items.map value := by
  induction hitems with
  | nil => rfl
  | cons hitem _ ih =>
      obtain ⟨hname, hread⟩ := h _ _ hitem
      rw [List.filter_cons_of_pos hname, List.map_cons, List.map_cons, ih, hread]

/-- Among leaves with different names every one is found by its name. -/
theorem find?_of_mem_fields {fields : List (String × String)} {nodes : List XmlNode}
    (hitems : List.Forall₂ (fun field => IsLeaf field.1 field.2) fields nodes)
    (hnodup : (fields.map Prod.fst).Nodup) {name text : String} (hmem : (name, text) ∈ fields) :
    ∃ node, nodes.find? (hasName name) = some node ∧ IsLeaf name text node := by
  induction hitems with
  | nil => exact absurd hmem List.not_mem_nil
  | @cons field node fields nodes hleaf _ ih =>
      rw [List.map_cons, List.nodup_cons] at hnodup
      rcases List.mem_cons.mp hmem with rfl | hrest
      · exact ⟨node, List.find?_cons_of_pos hleaf.hasName, hleaf⟩
      · have hne : field.1 ≠ name := by
          rintro rfl
          exact hnodup.1 (List.mem_map.mpr ⟨_, hrest, rfl⟩)
        rw [List.find?_cons_of_neg (by simp [hasName_of_ne hleaf.hasName hne])]
        exact ih hnodup.2 hrest

namespace SoapParser

theorem field_of_mem_fields {fields : List (String × String)} {method : XmlNode}
    (hitems : List.Forall₂ (fun field => IsLeaf field.1 field.2) fields method.elements)
    (hnodup : (fields.map Prod.fst).Nodup) {name text : String} (hmem : (name, text) ∈ fields) :
    field method name = text := by
  obtain ⟨node, hfind, hleaf⟩ := find?_of_mem_fields hitems hnodup hmem
  rw [field, child_eq, hfind, nodeText_of_isLeaf hleaf]

theorem parseValueStruct_of_renders {value : ParameterValue} {node : XmlNode}
    (h : RendersValue value node) :
    node.hasName "ParameterValueStruct" = true ∧ parseValueStruct node = value := by
  obtain @⟨name, content, hname, helements, hisName, hisValue, htype⟩ := h
  have hnameNode : child (some node) "Name" = some name := by
    rw [child_eq, helements, List.find?_cons_of_pos hisName.hasName]
  have hvalueNode : child (some node) "Value" = some content := by
    have hne : name.hasName "Value" = false := hasName_of_ne hisName.hasName (by decide)
    rw [child_eq, helements, List.find?_cons_of_neg (by simp [hne]),
      List.find?_cons_of_pos hisValue.hasName]
  have htypeNode : localType (some content) = value.type := by
    cases content with
    | element _ type _ =>
        cases htype
        rfl
    | text _ => cases htype
    | other => cases htype
  refine ⟨hname, ?_⟩
  rw [parseValueStruct, field, field, hnameNode, hvalueNode, htypeNode,
    nodeText_of_isLeaf hisName, nodeText_of_isLeaf hisValue]

theorem parseDownload_of_renders {request : DownloadRequest} {method : XmlNode}
    {fields : List (String × String)} (hdelay : request.delaySeconds < 2 ^ 32)
    (hitems : List.Forall₂ (fun field => IsLeaf field.1 field.2) fields method.elements)
    (h : DownloadFields request fields) : parseDownload method = request := by
  obtain ⟨digits, hmem, hdecimal, hvalue⟩ := h.delaySeconds
  have hstoul : stoul digits = some (request.delaySeconds, digits.length) := by
    rw [← hvalue]
    exact stoul_of_isDecimal hdecimal (by omega)
  simp only [parseDownload, field_of_mem_fields hitems h.nodup hmem,
    field_of_mem_fields hitems h.nodup h.commandKey,
    field_of_mem_fields hitems h.nodup h.fileType, field_of_mem_fields hitems h.nodup h.url,
    field_of_mem_fields hitems h.nodup h.username,
    field_of_mem_fields hitems h.nodup h.password,
    field_of_mem_fields hitems h.nodup h.targetFileName, hstoul, toUnsigned_of_lt hdelay]

theorem listChildren_filter {method list : XmlNode} {name : String} {rest : List XmlNode}
    (helements : method.elements = list :: rest) (hlist : list.hasName name = true)
    (item : String) :
    (listChildren method name).filter (hasName item) = list.elements.filter (hasName item) := by
  rw [listChildren, child_eq, helements, List.find?_cons_of_pos hlist]
  exact filter_hasName_children list item

theorem field_of_elements {method node : XmlNode} {rest : List XmlNode} {name text : String}
    (helements : method.elements = node :: rest) (hleaf : IsLeaf name text node) :
    field method name = text := by
  rw [field, child_eq, helements, List.find?_cons_of_pos hleaf.hasName, nodeText_of_isLeaf hleaf]

theorem field_of_second_element {method first node : XmlNode} {rest : List XmlNode}
    {name text other : String} (helements : method.elements = first :: node :: rest)
    (hfirst : first.hasName other = true) (hne : other ≠ name) (hleaf : IsLeaf name text node) :
    field method name = text := by
  rw [field, child_eq, helements, List.find?_cons_of_neg (by simp [hasName_of_ne hfirst hne]),
    List.find?_cons_of_pos hleaf.hasName, nodeText_of_isLeaf hleaf]

/-- The parser decodes the element of every request. -/
theorem parseMethod_of_renders {request : IncomingRequest} {method : XmlNode}
    (h : Renders request method) (cwmpId : String) :
    ∃ name, method.hasName name = true ∧ parseMethod cwmpId name method = request.rpc cwmpId := by
  -- request by request; text and comments between the elements are passed over
  cases h with
  | @getParameterValues names _ list hname helements hlist hitems =>
      have hnames : (list.elements.filter (hasName "string")).map content =
          names.map fun name => name :=
        map_filter_of_forall₂ (fun _ _ hleaf => ⟨hleaf.hasName, hleaf.content⟩) hitems
      rw [List.map_id'] at hnames
      refine ⟨_, hname, ?_⟩
      simp [parseMethod, IncomingRequest.rpc, listChildren_filter helements hlist, hnames]
  | @setParameterValues values parameterKey _ list key hname helements hlist hitems hkey =>
      have hvalues : (list.elements.filter (hasName "ParameterValueStruct")).map parseValueStruct =
          values.map fun value => value :=
        map_filter_of_forall₂ (fun _ _ hvalue => parseValueStruct_of_renders hvalue) hitems
      rw [List.map_id'] at hvalues
      refine ⟨_, hname, ?_⟩
      simp [parseMethod, IncomingRequest.rpc, listChildren_filter helements hlist, hvalues,
        field_of_second_element helements hlist (by decide) hkey]
  | @getParameterNames path flag nextLevel _ pathNode flagNode hname helements hpath hflag
      hboolean =>
      -- the four spellings of a boolean that are allowed
      have hnext : decide (flag ∈ ["1", "true"]) = nextLevel := by
        cases nextLevel with
        | true => exact decide_eq_true hboolean
        | false =>
            rcases List.mem_pair.mp hboolean with rfl | rfl <;> decide
      refine ⟨_, hname, ?_⟩
      simp only [parseMethod, IncomingRequest.rpc, field_of_elements helements hpath,
        field_of_second_element helements hpath.hasName (by decide) hflag, hnext]
      rfl
  | @reboot commandKey _ key hname helements hkey =>
      refine ⟨_, hname, ?_⟩
      simp [parseMethod, IncomingRequest.rpc, field_of_elements helements hkey]
  | @download request hdelay fields _ hname hitems hdownload =>
      refine ⟨_, hname, ?_⟩
      simp [parseMethod, IncomingRequest.rpc, parseDownload_of_renders hdelay hitems hdownload]

end SoapParser

/-- Every rendering of a request, with an id, is decoded to this request. -/
theorem parseRpc_of_carries {envelope : SoapEnvelope} {cwmpId : String}
    {request : IncomingRequest} (h : envelope.Carries cwmpId request) {xmlRead : XmlReader}
    {xml : String} (hxml : xml ≠ "") (hread : xmlRead xml = some envelope.document) :
    SoapParser.parseRpc xmlRead xml = .ok (request.rpc cwmpId) := by
  obtain ⟨⟨part, before, idNode, after, hheader, hchildren, hid, hnoId, hnoBody⟩,
    method, hbody, hrenders⟩ := h
  obtain ⟨name, hname, hparse⟩ := SoapParser.parseMethod_of_renders hrenders cwmpId
  have hheaderChildren : envelope.headerChildren = part.children := by
    rw [SoapEnvelope.headerChildren, hheader]
    rfl
  -- the id is the first in the Header, since the blocks before it have none
  have hown : envelope.ownId = some idNode := by
    rw [SoapEnvelope.ownId, hheaderChildren, hchildren, findDescendant_append hnoId,
      findDescendant_cons, if_pos hid.hasName]
    rfl
  have hmethod : envelope.method = some method := by
    rw [SoapEnvelope.method, ← List.head?_filter, hbody]
    rfl
  rw [← hheaderChildren] at hnoBody
  rw [envelope.parseRpc_document hnoBody hxml hread, hown, Option.some_or,
    nodeText_of_isLeaf hid, hmethod]
  cases method with
  | element nodeName type children =>
      rw [← of_decide_eq_true hname] at hparse
      exact congrArg Except.ok hparse
  | text _ => cases hname
  | other => cases hname

/-- A parameter set in a document with a comment and white space. -/
def intervalEnvelope : SoapEnvelope :=
  bareEnvelope (some ⟨none, [.text " ", .element "ID" none [.text "42"]]⟩) ⟨none,
    [.other, .element "SetParameterValues" none
      [.text "\n", .element "ParameterList" none
        [.other, .element "ParameterValueStruct" none
          [.element "Name" none [.text "Device.ManagementServer.PeriodicInformInterval"],
           .text " ", .element "Value" (some "xsd:unsignedInt") [.text "120"]]],
       .element "ParameterKey" none [.text "de", .other, .text "mo"]]]⟩

theorem intervalEnvelope_carries :
    intervalEnvelope.Carries "42" (.setParameterValues
      [⟨"Device.ManagementServer.PeriodicInformInterval", "120", "xsd:unsignedInt"⟩] "demo") where
  header := ⟨_, [.text " "], _, [], rfl, rfl, ⟨rfl, rfl, rfl⟩, rfl, rfl⟩
  body := by
    refine ⟨_, rfl, .setParameterValues rfl rfl rfl (.cons ?_ .nil) ⟨rfl, rfl, rfl⟩⟩
    exact .intro rfl rfl ⟨rfl, rfl, rfl⟩ ⟨rfl, rfl, rfl⟩ rfl

theorem intervalEnvelope_decoded :
    SoapParser.parseRpc (fun _ => some intervalEnvelope.document) "<Envelope/>" =
      .ok ((IncomingRequest.setParameterValues
        [⟨"Device.ManagementServer.PeriodicInformInterval", "120", "xsd:unsignedInt"⟩]
        "demo").rpc "42") :=
  @parseRpc_of_carries _ _ _ intervalEnvelope_carries (fun _ => some intervalEnvelope.document)
    "<Envelope/>" (by decide) rfl

end Tr069d
