import Tr069d.Text.Numerals
import Tr069d.Types

/-!
# Parsing an RPC

`SoapParser.cpp`.  Reading the text into a tree is libxml2's part, a parameter
here; the tree keeps what the parser looks at: local names, the `xsi:type`
attribute and the text.

`findDescendant` walks as the source does: a node, what is below it, and then the
nodes after it, so that the first match in document order is found.  `parseMethod` is
one branch for each method that is known; any other has no arguments.
-/

namespace Tr069d

inductive XmlNode
  | element (name : String) (xsiType : Option String) (children : List XmlNode)
  | text (content : String)
  /-- A comment or a processing instruction. -/
  | other

/-- `xmlReadMemory`: the root element and the nodes after it, if the text is
well-formed. -/
abbrev XmlReader : Type := String → Option (List XmlNode)

namespace XmlNode

mutual

/-- `xmlNodeGetContent`: the text of the node and of all that is below it. -/
def content : XmlNode → String
  | element _ _ children => contents children
  | text content => content
  | other => ""

def contents : List XmlNode → String
  | [] => ""
  | node :: rest => node.content ++ contents rest

end

def hasName (name : String) : XmlNode → Bool
  | element nodeName _ _ => nodeName = name
  | _ => false

def isElement : XmlNode → Bool
  | element _ _ _ => true
  | _ => false

def children : XmlNode → List XmlNode
  | element _ _ children => children
  | _ => []

mutual

/-- `findDescendant`: it looks at a node, below it, and goes on with the nodes
after it; a node that is found comes with the nodes after it. -/
def findDescendant (name : String) : List XmlNode → Option (List XmlNode)
  | [] => none
  | node :: rest =>
      if node.hasName name then some (node :: rest)
      else (findBelow name node).or (findDescendant name rest)

def findBelow (name : String) : XmlNode → Option (List XmlNode)
  | element _ _ children => findDescendant name children
  | _ => none

end

/-- `child` -/
def child (parent : Option XmlNode) (name : String) : Option XmlNode :=
  parent.bind fun parent => parent.children.find? (hasName name)

/-- `nodeText` -/
def nodeText (node : Option XmlNode) : String :=
  match node with
  | none => ""
  | some node => node.content

/-- `localType` -/
def localType : Option XmlNode → String
  | some (element _ (some type) _) => type
  | _ => "xsd:string"

end XmlNode

namespace SoapParser

open XmlNode

/-- The text of a child of the method element. -/
def field (method : XmlNode) (name : String) : String :=
  nodeText (child (some method) name)

def parseDownload (method : XmlNode) : DownloadRequest where
  commandKey := field method "CommandKey"
  fileType := field method "FileType"
  url := field method "URL"
  username := field method "Username"
  password := field method "Password"
  targetFileName := field method "TargetFileName"
  delaySeconds :=
    match stoul (field method "DelaySeconds") with
    | some (delay, _) => toUnsigned delay
    | none => 0

def parseValueStruct (item : XmlNode) : ParameterValue where
  name := field item "Name"
  value := field item "Value"
  type := localType (child (some item) "Value")

/-- The children of a child of the method element. -/
def listChildren (method : XmlNode) (name : String) : List XmlNode :=
  (child (some method) name).elim [] XmlNode.children

/-- What `parseRpc` reads off the method element. -/
def parseMethod (cwmpId name : String) (method : XmlNode) : ParsedRpc :=
  let rpc : ParsedRpc := { method := name, cwmpId := cwmpId }
  if name = "GetParameterValues" then
    { rpc with parameterNames :=
        ((listChildren method "ParameterNames").filter (hasName "string")).map content }
  else if name = "GetParameterNames" then
    { rpc with
      parameterPath := field method "ParameterPath"
      nextLevel := field method "NextLevel" ∈ ["1", "true"] }
  else if name = "SetParameterValues" then
    { rpc with
      parameterValues := ((listChildren method "ParameterList").filter
        (hasName "ParameterValueStruct")).map parseValueStruct
      parameterKey := field method "ParameterKey" }
  else if name = "Reboot" then { rpc with commandKey := field method "CommandKey" }
  else if name = "Download" then { rpc with download := some (parseDownload method) }
  else rpc

/-- `SoapParser::parseRpc` -/
def parseRpc (xmlRead : XmlReader) (xml : String) : Except String ParsedRpc :=
  if xml = "" then .error "Empty SOAP document"
  else
    match xmlRead xml with
    | none => .error "Malformed XML"
    | some root =>
        match findDescendant "Body" root with
        | some (body :: _) =>
            match body.children.find? isElement with
            | some (.element name type children) =>
                let header := (findDescendant "Header" root).bind (findDescendant "ID")
                .ok (parseMethod (nodeText (header.bind List.head?)) name
                  (.element name type children))
            | _ => .error "SOAP method missing"
        | _ => .error "SOAP Body missing"

/-- `SoapParser::isMethod` -/
def isMethod (xmlRead : XmlReader) (xml localName : String) : Bool :=
  match parseRpc xmlRead xml with
  | .ok rpc => rpc.method == localName
  | .error _ => false

end SoapParser

end Tr069d
