import Tr069d.Soap.Parser

/-!
# Which elements of an envelope the parser reads

`findDescendant` goes through the document in its order, and it does not stop
behind the node that it starts from.  So the Body that it finds is the one of
the envelope only if the Header contains no element of that name, and an ID that
the Header does not contain is looked for in the Body.

Two elements of the same content are different elements: which one a search
stops at is its place in the document.
-/

namespace Tr069d

namespace XmlNode

/-! ## Places -/

/-- A place as it is seen from `count` nodes before. -/
def shift (count : Nat) : List Nat → List Nat
  | [] => []
  | index :: place => (index + count) :: place

mutual

/-- The place of the node that `findDescendant` stops at: the index of a node,
then the one of a child, and so on. -/
def placeOf (name : String) : List XmlNode → Option (List Nat)
  | [] => none
  | node :: rest =>
      if node.hasName name then some [0]
      else ((placeBelow name node).map (0 :: ·)).or ((placeOf name rest).map (shift 1))

def placeBelow (name : String) : XmlNode → Option (List Nat)
  | element _ _ children => placeOf name children
  | _ => none

end

/-- The node at a place, with the nodes after it. -/
def nodesAt : List Nat → List XmlNode → List XmlNode
  | [], nodes => nodes
  | [index], nodes => nodes.drop index
  | index :: place, nodes => nodesAt place (nodes[index]?.elim [] children)

theorem nodesAt_shift {place : List Nat} (hplace : place ≠ []) (node : XmlNode)
    (rest : List XmlNode) : nodesAt (shift 1 place) (node :: rest) = nodesAt place rest := by
  match place with
  | [index] => simp [shift, nodesAt]
  | index :: next :: place => simp [shift, nodesAt]

theorem nodesAt_below {place : List Nat} (hplace : place ≠ []) (node : XmlNode)
    (rest : List XmlNode) : nodesAt (0 :: place) (node :: rest) = nodesAt place node.children := by
  obtain ⟨index, place, rfl⟩ := List.exists_cons_of_ne_nil hplace
  rfl

theorem placeOf_cons (name : String) (node : XmlNode) (rest : List XmlNode) :
    placeOf name (node :: rest) =
      if node.hasName name then some [0]
      else ((placeBelow name node).map (0 :: ·)).or ((placeOf name rest).map (shift 1)) := by
  rw [placeOf]

theorem findDescendant_cons (name : String) (node : XmlNode) (rest : List XmlNode) :
    findDescendant name (node :: rest) =
      if node.hasName name then some (node :: rest)
      else (findBelow name node).or (findDescendant name rest) := by
  rw [findDescendant]

theorem placeOf_ne_nil {name : String} {nodes : List XmlNode} {place : List Nat}
    (h : placeOf name nodes = some place) : place ≠ [] := by
  induction nodes generalizing place with
  | nil => simp [placeOf] at h
  | cons node rest ih =>
      rw [placeOf_cons] at h
      split_ifs at h with hname
      · exact Option.some.inj h ▸ List.cons_ne_nil _ _
      · rcases Option.or_eq_some_iff.mp h with hbelow | ⟨-, hrest⟩
        · obtain ⟨below, -, rfl⟩ := Option.map_eq_some_iff.mp hbelow
          exact List.cons_ne_nil _ _
        · obtain ⟨later, hlater, rfl⟩ := Option.map_eq_some_iff.mp hrest
          obtain ⟨index, place, rfl⟩ := List.exists_cons_of_ne_nil (ih hlater)
          exact List.cons_ne_nil _ _

mutual

/-- `findDescendant` returns the node at its place. -/
theorem findDescendant_eq (name : String) : ∀ nodes : List XmlNode,
    findDescendant name nodes = (placeOf name nodes).map (nodesAt · nodes)
  | [] => rfl
  | node :: rest => by
      rw [findDescendant_cons, placeOf_cons, findBelow_eq name node, findDescendant_eq name rest]
      split_ifs with hname
      · rfl
      · cases hbelow : placeBelow name node with
        | some place =>
            have hplace : place ≠ [] := by
              cases node with
              | element _ _ children => exact placeOf_ne_nil hbelow
              | text _ => cases hbelow
              | other => cases hbelow
            simp [nodesAt_below hplace]
        | none =>
            cases hrest : placeOf name rest with
            | none => rfl
            | some place => simp [nodesAt_shift (placeOf_ne_nil hrest)]

theorem findBelow_eq (name : String) : ∀ node : XmlNode,
    findBelow name node = (placeBelow name node).map (nodesAt · node.children)
  | .element _ _ children => findDescendant_eq name children
  | .text _ => rfl
  | .other => rfl

end

/-! ## Searching -/

mutual

/-- What is found has the name. -/
theorem exists_cons_of_findDescendant {name : String} : ∀ {nodes found : List XmlNode},
    findDescendant name nodes = some found →
      ∃ node rest, found = node :: rest ∧ node.hasName name = true
  | [], _, h => by cases h
  | node :: rest, found, h => by
      rw [findDescendant_cons] at h
      split_ifs at h with hname
      · exact ⟨node, rest, (Option.some.inj h).symm, hname⟩
      · rcases Option.or_eq_some_iff.mp h with hbelow | ⟨-, hrest⟩
        · exact exists_cons_of_findBelow hbelow
        · exact exists_cons_of_findDescendant hrest

theorem exists_cons_of_findBelow {name : String} : ∀ {node : XmlNode} {found : List XmlNode},
    findBelow name node = some found →
      ∃ node rest, found = node :: rest ∧ node.hasName name = true
  | .element _ _ children, _, h => @exists_cons_of_findDescendant name children _ h
  | .text _, _, h => by cases h
  | .other, _, h => by cases h

end

theorem findDescendant_eq_none_iff {name : String} {nodes : List XmlNode} :
    findDescendant name nodes = none ↔ placeOf name nodes = none := by
  rw [findDescendant_eq, Option.map_eq_none_iff]

/-- A search that finds nothing goes on behind. -/
theorem findDescendant_append {name : String} {nodes : List XmlNode}
    (h : findDescendant name nodes = none) (rest : List XmlNode) :
    findDescendant name (nodes ++ rest) = findDescendant name rest := by
  induction nodes with
  | nil => rfl
  | cons node nodes ih =>
      rw [findDescendant_cons] at h
      split_ifs at h with hname
      obtain ⟨hbelow, hnodes⟩ := Option.or_eq_none_iff.mp h
      rw [List.cons_append, findDescendant_cons, if_neg hname, hbelow, Option.none_or, ih hnodes]

theorem placeOf_append {name : String} {nodes : List XmlNode}
    (h : findDescendant name nodes = none) (rest : List XmlNode) :
    placeOf name (nodes ++ rest) = (placeOf name rest).map (shift nodes.length) := by
  induction nodes with
  | nil =>
      have hshift : shift 0 = id := by
        funext place
        cases place <;> rfl
      rw [List.nil_append, List.length_nil, hshift, Option.map_id, id]
  | cons node nodes ih =>
      rw [findDescendant_cons] at h
      split_ifs at h with hname
      obtain ⟨hbelow, hnodes⟩ := Option.or_eq_none_iff.mp h
      have hplace : placeBelow name node = none := by
        rwa [findBelow_eq, Option.map_eq_none_iff] at hbelow
      have hshift : shift 1 ∘ shift nodes.length = shift (node :: nodes).length := by
        funext place
        cases place with
        | nil => rfl
        | cons index place => simp [shift, Nat.add_assoc]
      rw [List.cons_append, placeOf_cons, if_neg hname, hplace, ih hnodes, Option.map_map, hshift]
      rfl

/-- Where there are no elements nothing is found. -/
theorem findDescendant_of_not_isElement {nodes : List XmlNode}
    (h : ∀ node ∈ nodes, node.isElement = false) (name : String) :
    findDescendant name nodes = none := by
  induction nodes with
  | nil => rfl
  | cons node nodes ih =>
      obtain ⟨hnode, hnodes⟩ := List.forall_mem_cons.mp h
      rw [findDescendant_cons, ih hnodes]
      cases node with
      | element name type children => cases hnode
      | text content => rfl
      | other => rfl

end XmlNode

/-! ## Envelopes -/

/-- An element of the envelope whose name is given by its position. -/
structure Part where
  xsiType : Option String
  children : List XmlNode

def Part.node (name : String) (part : Part) : XmlNode :=
  .element name part.xsiType part.children

theorem Part.hasName_self (name : String) (part : Part) :
    (part.node name).hasName name = true :=
  decide_eq_true rfl

theorem Part.hasName_of_ne {name other : String} (h : name ≠ other) (part : Part) :
    (part.node name).hasName other = false :=
  decide_eq_false h

/-- The tree of a SOAP envelope: an optional Header and a Body, with comments,
processing instructions and white space around them, and whatever the envelope
contains after the Body. -/
structure SoapEnvelope where
  xsiType : Option String
  before : List XmlNode
  header : Option Part
  between : List XmlNode
  body : Part
  after : List XmlNode
  trailing : List XmlNode
  before_isElement : ∀ node ∈ before, node.isElement = false
  between_isElement : ∀ node ∈ between, node.isElement = false
  trailing_isElement : ∀ node ∈ trailing, node.isElement = false

namespace SoapEnvelope

open XmlNode SoapParser

variable (envelope : SoapEnvelope)

/-- What stands before the Body. -/
def prologue : List XmlNode :=
  envelope.before ++ (envelope.header.map (Part.node "Header")).toList ++ envelope.between

/-- The Body and what stands after it. -/
def fromBody : List XmlNode :=
  envelope.body.node "Body" :: envelope.after

/-- What libxml2 returns: the root element and the nodes after it. -/
def document : List XmlNode :=
  .element "Envelope" envelope.xsiType (envelope.prologue ++ envelope.fromBody) ::
    envelope.trailing

def headerChildren : List XmlNode :=
  envelope.header.elim [] Part.children

/-- The place of the Body that is a child of the envelope. -/
def bodyPlace : List Nat :=
  [0, envelope.prologue.length]

/-- The first element in the Body. -/
def method : Option XmlNode :=
  envelope.body.children.find? isElement

/-- The first ID in the Header. -/
def ownId : Option XmlNode :=
  (findDescendant "ID" envelope.headerChildren).bind List.head?

/-- The ID that the search comes to when there is none in the Header: the first
one in the Body and after it, or, without a Header, the first one in and after
an element named Header there. -/
def strayId : Option XmlNode :=
  (match envelope.header with
    | some _ => findDescendant "ID" envelope.fromBody
    | none => (findDescendant "Header" envelope.fromBody).bind (findDescendant "ID")).bind
      List.head?

/-- The request that the envelope carries. -/
def request : Except String ParsedRpc :=
  match envelope.method with
  | some (.element name type children) =>
      .ok (parseMethod (nodeText envelope.ownId) name (.element name type children))
  | _ => .error "SOAP method missing"

/-- The Header contains no Body, and no ID outside the Header stands in for a
missing one. -/
structure Unambiguous : Prop where
  body : findDescendant "Body" envelope.headerChildren = none
  id : envelope.method = none ∨ envelope.ownId ≠ none ∨ nodeText envelope.strayId = ""

/-! ## What the searches find -/

/-- A search goes through the children of the envelope first. -/
theorem findDescendant_document {name : String} (hname : name ≠ "Envelope") :
    findDescendant name envelope.document =
      findDescendant name (envelope.prologue ++ envelope.fromBody) := by
  have hroot : ∀ type children, (element "Envelope" type children).hasName name = false :=
    fun _ _ => decide_eq_false fun heq => hname heq.symm
  rw [document, findDescendant_cons, hroot, if_neg Bool.false_ne_true,
    findDescendant_of_not_isElement envelope.trailing_isElement, Option.or_none]
  rfl

theorem placeOf_document {name : String} (hname : name ≠ "Envelope") :
    placeOf name envelope.document =
      (placeOf name (envelope.prologue ++ envelope.fromBody)).map (0 :: ·) := by
  have hroot : ∀ type children, (element "Envelope" type children).hasName name = false :=
    fun _ _ => decide_eq_false fun heq => hname heq.symm
  have htrailing : placeOf name envelope.trailing = none :=
    findDescendant_eq_none_iff.mp
      (findDescendant_of_not_isElement envelope.trailing_isElement name)
  rw [document, placeOf_cons, hroot, if_neg Bool.false_ne_true, htrailing, Option.map_none,
    Option.or_none]
  rfl

/-- Before the Body only the Header is searched. -/
theorem findDescendant_prologue {name : String} (hname : name ≠ "Header") :
    findDescendant name envelope.prologue = findDescendant name envelope.headerChildren := by
  have hbefore := findDescendant_of_not_isElement envelope.before_isElement name
  have hbetween := findDescendant_of_not_isElement envelope.between_isElement name
  rw [prologue, List.append_assoc, findDescendant_append hbefore, headerChildren]
  cases hheader : envelope.header with
  | none => exact hbetween
  | some part =>
      have hnode : (part.node "Header").hasName name = false :=
        decide_eq_false fun heq => hname heq.symm
      show findDescendant name (part.node "Header" :: envelope.between) =
        findDescendant name part.children
      rw [findDescendant_cons, hnode, if_neg Bool.false_ne_true, hbetween, Option.or_none]
      rfl

/-- The Body is found where it stands exactly if the Header contains none. -/
theorem placeOf_body_iff :
    placeOf "Body" envelope.document = some envelope.bodyPlace ↔
      findDescendant "Body" envelope.headerChildren = none := by
  rw [envelope.placeOf_document (by decide)]
  constructor
  · intro hplace
    by_contra hfound
    cases hheader : envelope.header with
    | none => exact hfound (by rw [headerChildren, hheader]; rfl)
    | some part =>
        have hchildren : envelope.headerChildren = part.children := by
          rw [headerChildren, hheader]
          rfl
        obtain ⟨place, hbelow⟩ : ∃ place, placeOf "Body" part.children = some place := by
          rw [hchildren, findDescendant_eq_none_iff] at hfound
          exact Option.ne_none_iff_exists'.mp hfound
        -- then the search goes into the Header, and the place has three steps
        have hlist : envelope.prologue ++ envelope.fromBody =
            envelope.before ++ part.node "Header" :: (envelope.between ++ envelope.fromBody) := by
          rw [prologue, hheader]
          simp
        have hnode := part.hasName_of_ne (show "Header" ≠ "Body" by decide)
        have hbelow' : placeBelow "Body" (part.node "Header") = some place := hbelow
        rw [hlist, placeOf_append
          (findDescendant_of_not_isElement envelope.before_isElement "Body"), placeOf_cons, hnode,
          if_neg Bool.false_ne_true, hbelow'] at hplace
        have hlength := congrArg List.length (Option.some.inj hplace)
        have hpositive := List.length_pos_iff.mpr (placeOf_ne_nil hbelow)
        simp only [shift, bodyPlace, List.length_cons, List.length_nil] at hlength
        omega
  · intro hnone
    rw [← envelope.findDescendant_prologue (by decide)] at hnone
    rw [placeOf_append hnone, fromBody, placeOf_cons, if_pos (Part.hasName_self _ _)]
    simp [shift, bodyPlace]

theorem findDescendant_body (h : findDescendant "Body" envelope.headerChildren = none) :
    findDescendant "Body" envelope.document = some envelope.fromBody := by
  rw [← envelope.findDescendant_prologue (by decide)] at h
  rw [envelope.findDescendant_document (by decide), findDescendant_append h, fromBody,
    findDescendant_cons, if_pos (Part.hasName_self _ _)]

/-- The ID that the search for it stops at. -/
theorem findDescendant_id :
    ((findDescendant "Header" envelope.document).bind (findDescendant "ID")).bind List.head? =
      envelope.ownId.or envelope.strayId := by
  have hbefore := findDescendant_of_not_isElement envelope.before_isElement
  have hbetween := findDescendant_of_not_isElement envelope.between_isElement
  rw [envelope.findDescendant_document (by decide), ownId, headerChildren, strayId, prologue,
    List.append_assoc, List.append_assoc, findDescendant_append (hbefore _)]
  cases hheader : envelope.header with
  | none =>
      -- without a Header the search for it goes on in the Body
      show ((findDescendant "Header" (envelope.between ++ envelope.fromBody)).bind _).bind _ = _
      rw [findDescendant_append (hbetween _)]
      rfl
  | some part =>
      -- the search for an ID goes through the Header, and then on behind it
      have hid := part.hasName_of_ne (show "Header" ≠ "ID" by decide)
      show ((findDescendant "Header" (part.node "Header" ::
        (envelope.between ++ envelope.fromBody))).bind _).bind _ = _
      rw [findDescendant_cons, if_pos (Part.hasName_self _ _), Option.bind_some,
        findDescendant_cons, hid, if_neg Bool.false_ne_true, findDescendant_append (hbetween _)]
      show ((findDescendant "ID" part.children).or _).bind _ =
        ((findDescendant "ID" part.children).bind _).or _
      cases hown : findDescendant "ID" part.children with
      | none => rfl
      | some found =>
          obtain ⟨node, rest, rfl, -⟩ := exists_cons_of_findDescendant hown
          rfl

/-- What the parser makes of the document. -/
theorem parseRpc_document (h : findDescendant "Body" envelope.headerChildren = none)
    {xmlRead : XmlReader} {xml : String} (hxml : xml ≠ "")
    (hread : xmlRead xml = some envelope.document) :
    parseRpc xmlRead xml =
      match envelope.method with
      | some (.element name type children) =>
          .ok (parseMethod (nodeText (envelope.ownId.or envelope.strayId)) name
            (.element name type children))
      | _ => .error "SOAP method missing" := by
  simp only [parseRpc, if_neg hxml, hread, envelope.findDescendant_body h, fromBody]
  rw [← findDescendant_id]
  rfl

theorem method_cases : envelope.method = none ∨
    ∃ name type children, envelope.method = some (.element name type children) := by
  cases hmethod : envelope.method with
  | none => exact Or.inl rfl
  | some node =>
      have helement := List.find?_some hmethod
      cases node with
      | element name type children => exact Or.inr ⟨name, type, children, rfl⟩
      | text content => cases helement
      | other => cases helement

theorem parseMethod_cwmpId (id name : String) (method : XmlNode) :
    (parseMethod id name method).cwmpId = id := by
  simp only [parseMethod]
  split_ifs <;> rfl

/-- An ID of the Header is read; another one is not noticed if it is empty. -/
theorem nodeText_or_eq_iff (own stray : Option XmlNode) :
    nodeText (own.or stray) = nodeText own ↔ own ≠ none ∨ nodeText stray = "" := by
  cases own with
  | none => simp [nodeText]
  | some node => simp

end SoapEnvelope

open XmlNode in
/-- The parser takes the method from the Body of the envelope and the id from
the Header exactly if the Header contains no Body and no ID outside the Header
stands in for a missing one. -/
theorem parseRpc_reads_own_parts_iff (envelope : SoapEnvelope) {xmlRead : XmlReader} {xml : String}
    (hxml : xml ≠ "") (hread : xmlRead xml = some envelope.document) :
    (placeOf "Body" envelope.document = some envelope.bodyPlace ∧
      SoapParser.parseRpc xmlRead xml = envelope.request) ↔ envelope.Unambiguous := by
  rw [envelope.placeOf_body_iff]
  -- no Body in the Header: the method is the right one, and only the id can be wrong
  have houtcome : findDescendant "Body" envelope.headerChildren = none →
      (SoapParser.parseRpc xmlRead xml = envelope.request ↔
        envelope.method = none ∨ envelope.ownId ≠ none ∨ nodeText envelope.strayId = "") := by
    intro hbody
    rw [envelope.parseRpc_document hbody hxml hread, SoapEnvelope.request]
    rcases envelope.method_cases with hnone | ⟨name, type, children, hmethod⟩
    · simp only [hnone, true_or]
    -- the stray id does no harm beside an own one, or where it is empty
    · have hid := SoapEnvelope.nodeText_or_eq_iff envelope.ownId envelope.strayId
      simp only [hmethod, reduceCtorEq, false_or, ← hid]
      constructor
      · intro heq
        have hcwmpId := congrArg ParsedRpc.cwmpId (Except.ok.inj heq)
        rwa [SoapEnvelope.parseMethod_cwmpId, SoapEnvelope.parseMethod_cwmpId] at hcwmpId
      · intro heq
        rw [heq]
  constructor
  · intro ⟨hbody, hparse⟩
    exact ⟨hbody, (houtcome hbody).mp hparse⟩
  · intro ⟨hbody, hid⟩
    exact ⟨hbody, (houtcome hbody).mpr hid⟩

/-- An envelope without anything between its parts. -/
def bareEnvelope (header : Option Part) (body : Part) : SoapEnvelope where
  xsiType := none
  before := []
  header := header
  between := []
  body := body
  after := []
  trailing := []
  before_isElement := fun _ hnode => absurd hnode List.not_mem_nil
  between_isElement := fun _ hnode => absurd hnode List.not_mem_nil
  trailing_isElement := fun _ hnode => absurd hnode List.not_mem_nil

/-- `<Header><ID>7</ID></Header><Body><Reboot/></Body>` -/
def rebootEnvelope : SoapEnvelope :=
  bareEnvelope (some ⟨none, [.element "ID" none [.text "7"]]⟩) ⟨none, [.element "Reboot" none []]⟩

theorem rebootEnvelope_parsed :
    XmlNode.placeOf "Body" rebootEnvelope.document = some rebootEnvelope.bodyPlace ∧
      SoapParser.parseRpc (fun _ => some rebootEnvelope.document) "<Envelope/>" =
        rebootEnvelope.request :=
  (parseRpc_reads_own_parts_iff rebootEnvelope (by decide) rfl).mpr
    ⟨by rfl, Or.inr (Or.inl (Option.ne_none_iff_exists'.mpr ⟨_, rfl⟩))⟩

/-- A Body in the Header is taken for the one of the envelope. -/
def shadowedEnvelope : SoapEnvelope :=
  bareEnvelope (some ⟨none, [.element "Body" none [.element "Reboot" none []]]⟩)
    ⟨none, [.element "GetParameterValues" none []]⟩

/-- An ID in the Body is taken for the one of the message. -/
def strayIdEnvelope : SoapEnvelope :=
  bareEnvelope (some ⟨none, []⟩)
    ⟨none, [.element "Reboot" none [.element "ID" none [.text "7"]]]⟩

theorem parseRpc_reads_other_parts :
    SoapParser.parseRpc (fun _ => some shadowedEnvelope.document) "<Envelope/>" =
        .ok { method := "Reboot" } ∧
      shadowedEnvelope.request = .ok { method := "GetParameterValues" } ∧
      SoapParser.parseRpc (fun _ => some strayIdEnvelope.document) "<Envelope/>" =
        .ok { method := "Reboot", cwmpId := "7" } ∧
      strayIdEnvelope.request = .ok { method := "Reboot" } :=
  ⟨by rfl, by rfl, by rfl, by rfl⟩

end Tr069d
