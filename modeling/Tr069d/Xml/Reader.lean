import Mathlib.Data.List.Basic
import Mathlib.Data.List.TakeWhile

/-!
# Reading XML

A reader of XML 1.0 documents without comments, processing instructions, CDATA
sections and a document type: what it does not know it refuses, and what it
accepts it reads as the recommendation says.  Line ends are normalized before
anything else, white space in attribute values while they are read, and a
reference stands for its character without any normalization.

The functions take a text and return what they read with the rest of the text.
`fuel` bounds the number of steps; the length of the text is enough.
-/

namespace Xml

/-- An element with its attributes and its content, or a piece of text. -/
inductive Node
  | element (name : String) (attributes : List (String × String)) (children : List Node)
  | text (content : String)

/-! ## Characters -/

/-- The production `Char`. -/
def isChar (c : Char) : Bool :=
  c = '\t' || c = '\n' || c = '\r' || (0x20 ≤ c.toNat && c.toNat ≤ 0xD7FF) ||
    (0xE000 ≤ c.toNat && c.toNat ≤ 0xFFFD) || 0x10000 ≤ c.toNat

/-- The production `S`, one character of it. -/
def isSpace (c : Char) : Bool :=
  c = ' ' || c = '\t' || c = '\n' || c = '\r'

/-- The code points of the production `NameStartChar` beyond ASCII. -/
def nameStartRanges : List (Nat × Nat) :=
  [(0xC0, 0xD6), (0xD8, 0xF6), (0xF8, 0x2FF), (0x370, 0x37D), (0x37F, 0x1FFF),
   (0x200C, 0x200D), (0x2070, 0x218F), (0x2C00, 0x2FEF), (0x3001, 0xD7FF), (0xF900, 0xFDCF),
   (0xFDF0, 0xFFFD), (0x10000, 0xEFFFF)]

/-- The production `NameStartChar`. -/
def isNameStart (c : Char) : Bool :=
  c = ':' || c = '_' || c.isAlpha ||
    nameStartRanges.any fun range => range.1 ≤ c.toNat && c.toNat ≤ range.2

/-- The production `NameChar`. -/
def isNameChar (c : Char) : Bool :=
  isNameStart c || c = '-' || c = '.' || c.isDigit || c.toNat = 0xB7 ||
    (0x300 ≤ c.toNat && c.toNat ≤ 0x36F) || (0x203F ≤ c.toNat && c.toNat ≤ 0x2040)

/-- The normalization of line ends: CR LF and CR alone are read as LF. -/
def normalizeLineEnds : List Char → List Char
  | '\r' :: '\n' :: rest => '\n' :: normalizeLineEnds rest
  | '\r' :: rest => '\n' :: normalizeLineEnds rest
  | c :: rest => c :: normalizeLineEnds rest
  | [] => []

/-! ## References -/

/-- The number that digits of a base denote. -/
def numeral (base : Nat) (digits : List Char) : Option Nat :=
  if digits.isEmpty then none
  else
    digits.foldlM (fun number c =>
      let digit := if c.isDigit then c.toNat - '0'.toNat
        else if 'a' ≤ c && c ≤ 'f' then c.toNat - 'a'.toNat + 10
        else if 'A' ≤ c && c ≤ 'F' then c.toNat - 'A'.toNat + 10
        else base
      if digit < base then some (number * base + digit) else none) 0

/-- The character that `&name;` stands for. -/
def referenced : List Char → Option Char
  | ['a', 'm', 'p'] => some '&'
  | ['l', 't'] => some '<'
  | ['g', 't'] => some '>'
  | ['q', 'u', 'o', 't'] => some '"'
  | ['a', 'p', 'o', 's'] => some '\''
  | '#' :: 'x' :: digits => (numeral 16 digits).map Char.ofNat |>.filter isChar
  | '#' :: digits => (numeral 10 digits).map Char.ofNat |>.filter isChar
  | _ => none

/-- A reference, after its `&`. -/
def readReference (text : List Char) : Option (Char × List Char) :=
  match text.dropWhile (· ≠ ';') with
  | ';' :: rest => (referenced (text.takeWhile (· ≠ ';'))).map (·, rest)
  | _ => none

/-! ## Text and names -/

/-- Character data, up to the next `<`. -/
def readText : Nat → List Char → Option (List Char × List Char)
  | 0, _ => none
  | _ + 1, [] => some ([], [])
  | fuel + 1, c :: rest =>
      if c = '<' then some ([], c :: rest)
      else if c = '&' then do
        let (c, rest) ← readReference rest
        let (content, rest) ← readText fuel rest
        return (c :: content, rest)
      else if !isChar c || [']', ']', '>'].isPrefixOf (c :: rest) then none
      else do
        let (content, rest) ← readText fuel rest
        return (c :: content, rest)

/-- An attribute value, after its opening quote and with its closing one. -/
def readValue (quote : Char) : Nat → List Char → Option (List Char × List Char)
  | 0, _ => none
  | _ + 1, [] => none
  | fuel + 1, c :: rest =>
      if c = quote then some ([], rest)
      else if c = '&' then do
        let (c, rest) ← readReference rest
        let (value, rest) ← readValue quote fuel rest
        return (c :: value, rest)
      else if !isChar c || c = '<' then none
      else do
        let (value, rest) ← readValue quote fuel rest
        return ((if isSpace c then ' ' else c) :: value, rest)

/-- The production `Name`. -/
def readName (text : List Char) : Option (String × List Char) :=
  if text.head?.any isNameStart then
    some (String.ofList (text.takeWhile isNameChar), text.dropWhile isNameChar)
  else none

/-! ## Tags -/

/-- `="value"` or `='value'`, with the white space around the sign. -/
def readAssigned (text : List Char) : Option (String × List Char) :=
  match text.dropWhile isSpace with
  | '=' :: rest =>
      match rest.dropWhile isSpace with
      | quote :: rest =>
          if quote = '"' || quote = '\'' then
            (readValue quote (rest.length + 1) rest).map fun (value, rest) =>
              (String.ofList value, rest)
          else none
      | [] => none
  | _ => none

/-- The rest of a start tag after its name: the attributes, and whether the
element is empty. -/
def readAttributes : Nat → List Char → Option (List (String × String) × Bool × List Char)
  | 0, _ => none
  | fuel + 1, text =>
      match text.dropWhile isSpace with
      | '>' :: rest => some ([], false, rest)
      | '/' :: '>' :: rest => some ([], true, rest)
      | start =>
          -- white space stands before every attribute
          if text.head?.any isSpace then do
            let (name, rest) ← readName start
            let (value, rest) ← readAssigned rest
            let (attributes, closed, rest) ← readAttributes fuel rest
            if name ∈ attributes.map Prod.fst then none
            else return ((name, value) :: attributes, closed, rest)
          else none

/-- An end tag after its `</`, which has to name the element. -/
def readEndTag (name : String) (text : List Char) : Option (List Char) :=
  match readName text with
  | some (endName, rest) =>
      match rest.dropWhile isSpace with
      | '>' :: rest => if endName = name then some rest else none
      | _ => none
  | none => none

mutual

/-- An element, after its `<`. -/
def readElement : Nat → List Char → Option (Node × List Char)
  | 0, _ => none
  | fuel + 1, text => do
      let (name, rest) ← readName text
      let (attributes, closed, rest) ← readAttributes (rest.length + 1) rest
      if closed then return (.element name attributes [], rest)
      else
        let (children, rest) ← readContent fuel rest
        let rest ← readEndTag name rest
        return (.element name attributes children, rest)

/-- The content of an element, and the `</` that ends it. -/
def readContent : Nat → List Char → Option (List Node × List Char)
  | 0, _ => none
  | fuel + 1, text => do
      let (content, rest) ← readText (text.length + 1) text
      let nodes := if content.isEmpty then [] else [.text (String.ofList content)]
      match rest with
      | '<' :: '/' :: rest => return (nodes, rest)
      | '<' :: rest =>
          let (child, rest) ← readElement fuel rest
          let (others, rest) ← readContent fuel rest
          return (nodes ++ child :: others, rest)
      | _ => none

end

/-! ## Documents -/

/-- The declaration that the reader knows. -/
def declaration : String :=
  "<?xml version=\"1.0\" encoding=\"UTF-8\"?>"

/-- A document: its root element, if it is well-formed. -/
def readDocument (document : String) : Option Node :=
  let text := normalizeLineEnds document.toList
  match ((text.dropPrefix? declaration.toList).getD text).dropWhile isSpace with
  | '<' :: rest =>
      match readElement (rest.length + 1) rest with
      | some (root, rest) => if rest.all isSpace then some root else none
      | none => none
  | _ => none

end Xml
