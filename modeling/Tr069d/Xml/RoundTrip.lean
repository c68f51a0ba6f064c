import Tr069d.Xml.Reader

/-!
# Reading back what was printed

An `Element` is a tree of elements with data at the leaves.  `readDocument_print`
says what a reader makes of its text: the same tree, with the line ends of the
data and the white space of the attribute values normalized, whatever characters
the data consists of.

* `readReference_append`, `readAttributes_step`, `readContent_data` and `readElement_step`
  read one piece of the print each, with anything behind it.
* `readElement_inner` and `readContent_printAll` are the induction on the tree.
* `normalizeLineEnds_escape` lets the line ends be normalised before printing.
* `recovered_node_eq_iff` says which trees come back as they are: those without CR in
  the data, and without other white space than blanks in the attribute values.
-/

namespace Xml

/-- An element that contains data, or other elements. -/
inductive Element
  | leaf (name : String) (attributes : List (String × String)) (content : String)
  | branch (name : String) (attributes : List (String × String)) (children : List Element)

/-! ## Printing -/

/-- Escaping of a character in data and in attribute values. -/
def escapeChar : Char → List Char
  | '&' => ['&', 'a', 'm', 'p', ';']
  | '<' => ['&', 'l', 't', ';']
  | '>' => ['&', 'g', 't', ';']
  | '"' => ['&', 'q', 'u', 'o', 't', ';']
  | '\'' => ['&', 'a', 'p', 'o', 's', ';']
  | c => [c]

def escape (text : List Char) : List Char :=
  text.flatMap escapeChar

def printAttributes (attributes : List (String × String)) : List Char :=
  attributes.flatMap fun entry =>
    ' ' :: entry.1.toList ++ '=' :: '"' :: escape entry.2.toList ++ ['"']

mutual

/-- An element without its first `<`. -/
def Element.inner : Element → List Char
  | .leaf name attributes content =>
      name.toList ++ printAttributes attributes ++ '>' :: escape content.toList ++
        '<' :: '/' :: name.toList ++ ['>']
  | .branch name attributes children =>
      name.toList ++ printAttributes attributes ++ '>' :: printAll children ++
        '<' :: '/' :: name.toList ++ ['>']

def printAll : List Element → List Char
  | [] => []
  | element :: rest => '<' :: element.inner ++ printAll rest

end

def Element.print (element : Element) : List Char :=
  '<' :: element.inner

/-! ## What is read -/

/-- The nodes of a text: none for the empty one. -/
def textNodes (content : String) : List Node :=
  if content = "" then [] else [.text content]

mutual

/-- The tree itself, as a reader gives it. -/
def Element.node : Element → Node
  | .leaf name attributes content => .element name attributes (textNodes content)
  | .branch name attributes children => .element name attributes (nodes children)

def nodes : List Element → List Node
  | [] => []
  | element :: rest => element.node :: nodes rest

end

/-- The normalization of white space in an attribute value. -/
def normalizeSpaces (value : List Char) : List Char :=
  value.map fun c => if isSpace c then ' ' else c

mutual

/-- The tree with its strings replaced: those of the content, and the attribute values. -/
def Element.mapStrings (onContent onValue : List Char → List Char) : Element → Element
  | .leaf name attributes content =>
      .leaf name (attributes.map fun entry =>
        (entry.1, String.ofList (onValue entry.2.toList)))
        (String.ofList (onContent content.toList))
  | .branch name attributes children =>
      .branch name (attributes.map fun entry =>
        (entry.1, String.ofList (onValue entry.2.toList)))
        (mapStringsAll onContent onValue children)

def mapStringsAll (onContent onValue : List Char → List Char) : List Element → List Element
  | [] => []
  | element :: rest =>
      element.mapStrings onContent onValue :: mapStringsAll onContent onValue rest

end

/-- What a reader recovers of the tree. -/
def Element.recovered (element : Element) : Element :=
  element.mapStrings normalizeLineEnds fun value => normalizeSpaces (normalizeLineEnds value)

/-! ## What may be printed -/

/-- A text for the production `Name`. -/
def IsName (name : String) : Prop :=
  name.toList.head?.any isNameStart = true ∧ name.toList.all isNameChar = true

instance (name : String) : Decidable (IsName name) := inferInstanceAs (Decidable (_ ∧ _))

/-- Every character is a character of XML. -/
def IsText (text : String) : Prop :=
  ∀ c ∈ text.toList, isChar c = true

instance (text : String) : Decidable (IsText text) :=
  decidable_of_iff (text.toList.all isChar = true) List.all_eq_true

/-- The attributes of one start tag. -/
structure PrintableAttributes (attributes : List (String × String)) : Prop where
  names : ∀ entry ∈ attributes, IsName entry.1
  values : ∀ entry ∈ attributes, IsText entry.2
  nodup : (attributes.map Prod.fst).Nodup

mutual

/-- The names are names and the strings are made of characters of XML. -/
def Element.Printable : Element → Prop
  | .leaf name attributes content =>
      IsName name ∧ PrintableAttributes attributes ∧ IsText content
  | .branch name attributes children =>
      IsName name ∧ PrintableAttributes attributes ∧ PrintableAll children

def PrintableAll : List Element → Prop
  | [] => True
  | element :: rest => element.Printable ∧ PrintableAll rest

end

/-! ## Escaped text -/

@[simp] theorem escape_nil : escape [] = [] := rfl

@[simp] theorem escape_cons (c : Char) (text : List Char) :
    escape (c :: text) = escapeChar c ++ escape text := rfl

/-- A character is printed as itself or as a reference to it. -/
theorem escapeChar_cases (c : Char) :
    (escapeChar c = [c] ∧ c ≠ '&' ∧ c ≠ '<' ∧ c ≠ '>' ∧ c ≠ '"') ∨
      ∃ name, escapeChar c = '&' :: name ++ [';'] ∧ ';' ∉ name ∧ '>' ∉ name ∧
        referenced name = some c ∧ isSpace c = false := by
  unfold escapeChar
  split
  · exact Or.inr ⟨['a', 'm', 'p'], rfl, by decide, by decide, rfl, rfl⟩
  · exact Or.inr ⟨['l', 't'], rfl, by decide, by decide, rfl, rfl⟩
  · exact Or.inr ⟨['g', 't'], rfl, by decide, by decide, rfl, rfl⟩
  · exact Or.inr ⟨['q', 'u', 'o', 't'], rfl, by decide, by decide, rfl, rfl⟩
  · exact Or.inr ⟨['a', 'p', 'o', 's'], rfl, by decide, by decide, rfl, rfl⟩
  · rename_i hamp hlt hgt hquote _
    exact Or.inl ⟨rfl, hamp, hlt, hgt, hquote⟩

theorem gt_not_mem_escape (text : List Char) : '>' ∉ escape text := by
  induction text with
  | nil => simp
  | cons c text ih =>
      rw [escape_cons, List.mem_append, not_or]
      refine ⟨?_, ih⟩
      rcases escapeChar_cases c with ⟨hself, _, _, hgt, _⟩ | ⟨name, hname, _, hgt, _⟩
      · simpa [hself] using hgt.symm
      · simpa [hname] using hgt

/-- A reference is read up to its semicolon. -/
theorem readReference_append {name : List Char} (hname : ';' ∉ name) (rest : List Char) :
    readReference (name ++ ';' :: rest) = (referenced name).map (·, rest) := by
  have hall : ∀ c ∈ name, decide (c ≠ ';') = true := by
    intro c hc
    exact decide_eq_true fun heq => hname (heq ▸ hc)
  have htake : (name ++ ';' :: rest).takeWhile (· ≠ ';') = name := by
    rw [List.takeWhile_append_of_pos hall, List.takeWhile_cons_of_neg (by simp), List.append_nil]
  have hdrop : (name ++ ';' :: rest).dropWhile (· ≠ ';') = ';' :: rest := by
    rw [List.dropWhile_append_of_pos hall, List.dropWhile_cons_of_neg (by simp)]
  unfold readReference
  rw [htake, hdrop]
  rfl

/-- `]]>` does not stand before an end of the data. -/
theorem not_isPrefix_cdataEnd {text rest : List Char} (hgt : '>' ∉ text) :
    [']', ']', '>'].isPrefixOf (text ++ '<' :: rest) = false := by
  rw [Bool.eq_false_iff, ne_eq, List.isPrefixOf_iff_prefix]
  rintro ⟨tail, htail⟩
  match text, hgt with
  | [], _ => simp at htail
  | [a], _ => simp at htail
  | [a, b], _ => simp at htail
  | a :: b :: c :: text, hgt =>
      simp only [List.cons_append, List.nil_append, List.cons.injEq] at htail
      exact hgt (by simp [← htail.2.2.1])

section Steps

variable {fuel : Nat} {c : Char} {rest rest' rest'' content : List Char}

theorem readText_reference (hreference : readReference rest = some (c, rest'))
    (htext : readText fuel rest' = some (content, rest'')) :
    readText (fuel + 1) ('&' :: rest) = some (c :: content, rest'') := by
  have hunfold : readText (fuel + 1) ('&' :: rest) =
      (readReference rest).bind fun found =>
        (readText fuel found.2).bind fun next => some (found.1 :: next.1, next.2) := rfl
  rw [hunfold, hreference, Option.bind_some, htext, Option.bind_some]

theorem readText_char (hlt : c ≠ '<') (hamp : c ≠ '&') (hchar : isChar c = true)
    (hend : [']', ']', '>'].isPrefixOf (c :: rest) = false)
    (htext : readText fuel rest = some (content, rest')) :
    readText (fuel + 1) (c :: rest) = some (c :: content, rest') := by
  simp [readText, hlt, hamp, hchar, hend, htext]

theorem readValue_reference {quote : Char} (hquote : '&' ≠ quote)
    (hreference : readReference rest = some (c, rest'))
    (hvalue : readValue quote fuel rest' = some (content, rest'')) :
    readValue quote (fuel + 1) ('&' :: rest) = some (c :: content, rest'') := by
  simp [readValue, hquote, hreference, hvalue]

theorem readValue_char {quote : Char} (hquote : c ≠ quote) (hlt : c ≠ '<') (hamp : c ≠ '&')
    (hchar : isChar c = true) (hvalue : readValue quote fuel rest = some (content, rest')) :
    readValue quote (fuel + 1) (c :: rest) =
      some ((if isSpace c then ' ' else c) :: content, rest') := by
  simp [readValue, hquote, hlt, hamp, hchar, hvalue]

end Steps

theorem readText_escape {text : List Char} (htext : ∀ c ∈ text, isChar c = true)
    (rest : List Char) {fuel : Nat} (hfuel : (escape text).length < fuel) :
    readText fuel (escape text ++ '<' :: rest) = some (text, '<' :: rest) := by
  induction text generalizing fuel with
  | nil =>
      obtain ⟨fuel, rfl⟩ := Nat.exists_eq_succ_of_ne_zero (Nat.ne_zero_of_lt hfuel)
      rfl
  | cons c text ih =>
      obtain ⟨fuel, rfl⟩ := Nat.exists_eq_succ_of_ne_zero (Nat.ne_zero_of_lt hfuel)
      rw [escape_cons, List.length_append] at hfuel
      have hnext : (escape text).length < fuel →
          readText fuel (escape text ++ '<' :: rest) = some (text, '<' :: rest) :=
        ih fun d hd => htext d (List.mem_cons_of_mem _ hd)
      -- `escape` leaves no `>`, so that no `]]>` can stand in the text
      have hgt := gt_not_mem_escape (c :: text)
      rw [escape_cons] at hgt ⊢
      rcases escapeChar_cases c with ⟨hself, hamp, hlt, _⟩ | ⟨name, hname, hsemi, _, href, _⟩
      · rw [hself] at hfuel hgt ⊢
        have hend := @not_isPrefix_cdataEnd _ rest hgt
        rw [List.singleton_append, List.cons_append] at hend ⊢
        rw [List.length_singleton] at hfuel
        exact readText_char hlt hamp (htext c List.mem_cons_self) hend (hnext (by omega))
      · rw [hname] at hfuel ⊢
        simp only [List.length_append, List.length_cons] at hfuel
        simp only [List.append_assoc, List.cons_append, List.nil_append]
        refine readText_reference (c := c) ?_ (hnext (by omega))
        rw [readReference_append hsemi, href, Option.map_some]

theorem readValue_escape {value : List Char} (hvalue : ∀ c ∈ value, isChar c = true)
    (rest : List Char) {fuel : Nat} (hfuel : (escape value).length < fuel) :
    readValue '"' fuel (escape value ++ '"' :: rest) = some (normalizeSpaces value, rest) := by
  induction value generalizing fuel with
  | nil =>
      obtain ⟨fuel, rfl⟩ := Nat.exists_eq_succ_of_ne_zero (Nat.ne_zero_of_lt hfuel)
      rfl
  | cons c value ih =>
      obtain ⟨fuel, rfl⟩ := Nat.exists_eq_succ_of_ne_zero (Nat.ne_zero_of_lt hfuel)
      rw [escape_cons, List.length_append] at hfuel
      have hnext : (escape value).length < fuel →
          readValue '"' fuel (escape value ++ '"' :: rest) = some (normalizeSpaces value, rest) :=
        ih fun d hd => hvalue d (List.mem_cons_of_mem _ hd)
      rw [escape_cons]
      rcases escapeChar_cases c with
        ⟨hself, hamp, hlt, _, hquote⟩ | ⟨name, hname, hsemi, _, href, hspace⟩
      · rw [hself] at hfuel ⊢
        rw [List.length_singleton] at hfuel
        rw [List.singleton_append, List.cons_append]
        exact readValue_char hquote hlt hamp (hvalue c List.mem_cons_self) (hnext (by omega))
      · rw [hname] at hfuel ⊢
        simp only [List.length_append, List.length_cons] at hfuel
        simp only [List.append_assoc, List.cons_append, List.nil_append]
        -- what a reference stands for is not normalized
        have hself : normalizeSpaces (c :: value) = c :: normalizeSpaces value := by
          simp [normalizeSpaces, hspace]
        rw [hself]
        refine readValue_reference (by decide) (c := c) ?_ (hnext (by omega))
        rw [readReference_append hsemi, href, Option.map_some]

/-! ## Tags -/

section Tags

variable {name : String} {rest : List Char}

/-- A name begins with neither white space nor markup. -/
theorem exists_cons_of_isName (h : IsName name) :
    ∃ c cs, name.toList = c :: cs ∧ isNameStart c = true ∧ isSpace c = false ∧ c ≠ '>' ∧
      c ≠ '/' := by
  obtain ⟨hstart, _⟩ := h
  cases hname : name.toList with
  | nil => simp [hname] at hstart
  | cons c cs =>
      have hc : isNameStart c = true := by simpa [hname] using hstart
      refine ⟨c, cs, rfl, hc, ?_, ?_, ?_⟩
      · cases hspace : isSpace c with
        | false => rfl
        | true =>
            simp only [isSpace, Bool.or_eq_true, decide_eq_true_eq] at hspace
            rcases hspace with ((rfl | rfl) | rfl) | rfl <;> revert hc <;> decide
      · rintro rfl
        revert hc
        decide
      · rintro rfl
        revert hc
        decide

theorem readName_append (h : IsName name) (hrest : rest.head?.any isNameChar = false) :
    readName (name.toList ++ rest) = some (name, rest) := by
  obtain ⟨c, cs, hname, hc, _⟩ := exists_cons_of_isName h
  have hall : ∀ d ∈ name.toList, isNameChar d = true := List.all_eq_true.mp h.2
  have hstop : rest.takeWhile isNameChar = [] ∧ rest.dropWhile isNameChar = rest := by
    cases rest with
    | nil => exact ⟨rfl, rfl⟩
    | cons d rest =>
        have hd : isNameChar d = false := by simpa using hrest
        exact ⟨List.takeWhile_cons_of_neg (by simp [hd]), List.dropWhile_cons_of_neg (by simp [hd])⟩
  have hhead : (name.toList ++ rest).head?.any isNameStart = true := by simp [hname, hc]
  unfold readName
  rw [if_pos hhead, List.takeWhile_append_of_pos hall, List.dropWhile_append_of_pos hall, hstop.1,
    hstop.2, List.append_nil, String.ofList_toList]

theorem readEndTag_append (h : IsName name) :
    readEndTag name (name.toList ++ '>' :: rest) = some rest := by
  unfold readEndTag
  rw [readName_append h rfl]
  simp [isSpace]

theorem readAssigned_append {value : String} (h : IsText value) :
    readAssigned ('=' :: '"' :: (escape value.toList ++ '"' :: rest)) =
      some (String.ofList (normalizeSpaces value.toList), rest) := by
  have hlength : (escape value.toList).length <
      (escape value.toList ++ '"' :: rest).length + 1 := by
    simp only [List.length_append]
    omega
  simp only [readAssigned, List.dropWhile_cons_of_neg (show ¬isSpace '=' = true by decide),
    List.dropWhile_cons_of_neg (show ¬isSpace '"' = true by decide),
    readValue_escape h rest hlength]
  rfl

theorem printAttributes_cons (entry : String × String) (attributes : List (String × String)) :
    printAttributes (entry :: attributes) = ' ' :: (entry.1.toList ++ '=' :: '"' ::
      (escape entry.2.toList ++ '"' :: printAttributes attributes)) := by
  simp [printAttributes]

/-- One more attribute. -/
theorem readAttributes_step {fuel : Nat} {c : Char} {start rest' rest'' : List Char}
    {value : String} {attributes : List (String × String)} {closed : Bool}
    (hc : isSpace c = false ∧ c ≠ '>' ∧ c ≠ '/') (hname : readName (c :: start) = some (name, rest))
    (hvalue : readAssigned rest = some (value, rest'))
    (hattributes : readAttributes fuel rest' = some (attributes, closed, rest''))
    (hnew : name ∉ attributes.map Prod.fst) :
    readAttributes (fuel + 1) (' ' :: c :: start) =
      some ((name, value) :: attributes, closed, rest'') := by
  have hdrop : (' ' :: c :: start).dropWhile isSpace = c :: start := by
    rw [List.dropWhile_cons_of_pos (by decide), List.dropWhile_cons_of_neg (by simp [hc.1])]
  unfold readAttributes
  rw [hdrop]
  split
  · rename_i heq
    exact absurd (List.cons.inj heq).1 hc.2.1
  · rename_i heq
    exact absurd (List.cons.inj heq).1 hc.2.2
  · rw [if_pos (by rfl)]
    simp only [hname, hvalue, hattributes, Option.bind_eq_bind, Option.bind_some, if_neg hnew]
    rfl

theorem readAttributes_print {attributes : List (String × String)}
    (h : PrintableAttributes attributes) {fuel : Nat} (hfuel : attributes.length < fuel) :
    readAttributes fuel (printAttributes attributes ++ '>' :: rest) =
      some (attributes.map fun entry =>
        (entry.1, String.ofList (normalizeSpaces entry.2.toList)), false, rest) := by
  induction attributes generalizing fuel with
  | nil =>
      obtain ⟨fuel, rfl⟩ := Nat.exists_eq_succ_of_ne_zero (Nat.ne_zero_of_lt hfuel)
      rfl
  | cons entry attributes ih =>
      obtain ⟨fuel, rfl⟩ := Nat.exists_eq_succ_of_ne_zero (Nat.ne_zero_of_lt hfuel)
      have hentry := List.mem_cons_self (a := entry) (l := attributes)
      have hnodup := List.nodup_cons.mp h.nodup
      have hrest := ih ⟨fun other hother => h.names other (List.mem_cons_of_mem _ hother),
        fun other hother => h.values other (List.mem_cons_of_mem _ hother), hnodup.2⟩
        (Nat.lt_of_succ_lt_succ hfuel)
      obtain ⟨c, cs, hname, _, hc⟩ := exists_cons_of_isName (h.names entry hentry)
      rw [printAttributes_cons]
      -- the name ends at the equals sign
      have hread := @readName_append _ ('=' :: '"' ::
        (escape entry.2.toList ++ '"' :: (printAttributes attributes ++ '>' :: rest)))
        (h.names entry hentry) rfl
      rw [hname] at hread ⊢
      simp only [List.cons_append, List.append_assoc] at hread ⊢
      refine readAttributes_step hc hread (readAssigned_append (h.values entry hentry)) hrest ?_
      rw [List.map_map]
      exact hnodup.1

end Tags

/-! ## Elements -/

section Elements

variable {fuel : Nat} {name : String} {attributes : List (String × String)}
  {rest text : List Char} {children : List Node}

theorem readElement_step (hname : IsName name) (hattributes : PrintableAttributes attributes)
    (hcontent : readContent fuel text = some (children, name.toList ++ '>' :: rest)) :
    readElement (fuel + 1) (name.toList ++ printAttributes attributes ++ '>' :: text) =
      some (.element name (attributes.map fun entry =>
        (entry.1, String.ofList (normalizeSpaces entry.2.toList))) children, rest) := by
  -- the name ends where the attributes or the bracket begin
  have hstop : (printAttributes attributes ++ '>' :: text).head?.any isNameChar = false := by
    cases attributes with
    | nil => rfl
    | cons entry attributes =>
        rw [printAttributes_cons]
        rfl
  -- every attribute takes a character at least, so that the fuel suffices
  have hlength : attributes.length <
      (printAttributes attributes ++ '>' :: text).length + 1 := by
    have hle : attributes.length ≤ (printAttributes attributes).length := by
      clear hattributes hstop
      induction attributes with
      | nil => simp
      | cons entry attributes ih =>
          rw [printAttributes_cons]
          simp only [List.length_cons, List.length_append]
          omega
    rw [List.length_append]
    omega
  rw [List.append_assoc]
  simp only [readElement, readName_append hname hstop, readAttributes_print hattributes hlength,
    hcontent, readEndTag_append hname, Option.bind_eq_bind, Option.bind_some, Bool.false_eq_true,
    if_false]
  rfl

/-- Data up to the end tag. -/
theorem readContent_data {content : String} (h : IsText content) :
    readContent (fuel + 1) (escape content.toList ++ '<' :: '/' :: rest) =
      some (textNodes content, rest) := by
  have hlength : (escape content.toList).length <
      (escape content.toList ++ '<' :: '/' :: rest).length + 1 := by
    simp only [List.length_append]
    omega
  have hnodes : (if content.toList.isEmpty then [] else [.text (String.ofList content.toList)]) =
      textNodes content := by
    unfold textNodes
    rw [String.ofList_toList]
    by_cases hempty : content = ""
    · subst hempty
      rfl
    · have htoList : content.toList.isEmpty = false := by
        simpa [List.isEmpty_eq_false_iff] using hempty
      rw [htoList, if_neg hempty]
      rfl
  simp only [readContent, readText_escape h _ hlength, Option.bind_eq_bind, Option.bind_some,
    hnodes]
  rfl

theorem readContent_child {c : Char} {child : Node} {rest' : List Char} (hc : c ≠ '/')
    (hchild : readElement fuel (c :: text) = some (child, rest))
    (hothers : readContent fuel rest = some (children, rest')) :
    readContent (fuel + 1) ('<' :: c :: text) = some (child :: children, rest') := by
  have htext : readText (('<' :: c :: text).length + 1) ('<' :: c :: text) =
      some ([], '<' :: c :: text) := rfl
  simp only [readContent, htext, Option.bind_eq_bind, Option.bind_some]
  split
  · rename_i heq
    injection heq with _ heq
    exact absurd (List.cons.inj heq).1 hc
  · rename_i heq
    injection heq with _ heq
    rw [← heq, hchild]
    simp only [Option.bind_some, hothers]
    rfl
  · rename_i hno
    exact absurd rfl (hno _)

end Elements

mutual

/-- A printed element is read back, whatever follows it. -/
theorem readElement_inner : ∀ (element : Element), element.Printable → ∀ (rest : List Char)
    (fuel : Nat), element.inner.length ≤ fuel →
      readElement fuel (element.inner ++ rest) =
        some ((element.mapStrings id normalizeSpaces).node, rest)
  | .leaf name attributes content, hprintable, rest, fuel, hfuel => by
      obtain ⟨hname, hattributes, hcontent⟩ := hprintable
      simp only [Element.inner, List.length_append, List.length_cons] at hfuel
      obtain ⟨fuel, rfl⟩ : ∃ n, fuel = n + 1 + 1 := ⟨fuel - 2, by omega⟩
      have hdata := @readContent_data fuel (name.toList ++ '>' :: rest) content hcontent
      have hread := readElement_step hname hattributes hdata
      simpa [Element.inner, Element.mapStrings, Element.node] using hread
  | .branch name attributes children, hprintable, rest, fuel, hfuel => by
      obtain ⟨hname, hattributes, hchildren⟩ := hprintable
      simp only [Element.inner, List.length_append, List.length_cons] at hfuel
      obtain ⟨fuel, rfl⟩ : ∃ n, fuel = n + 1 := ⟨fuel - 1, by omega⟩
      have hread := readElement_step hname hattributes
        (readContent_printAll children hchildren (name.toList ++ '>' :: rest) fuel (by omega))
      simpa [Element.inner, Element.mapStrings, Element.node] using hread

theorem readContent_printAll : ∀ (elements : List Element), PrintableAll elements →
    ∀ (rest : List Char) (fuel : Nat), (printAll elements).length < fuel →
      readContent fuel (printAll elements ++ '<' :: '/' :: rest) =
        some (nodes (mapStringsAll id normalizeSpaces elements), rest)
  | [], _, rest, fuel, hfuel => by
      obtain ⟨fuel, rfl⟩ := Nat.exists_eq_succ_of_ne_zero (Nat.ne_zero_of_lt hfuel)
      rfl
  | element :: others, hprintable, rest, fuel, hfuel => by
      obtain ⟨helement, hothers⟩ := hprintable
      obtain ⟨fuel, rfl⟩ := Nat.exists_eq_succ_of_ne_zero (Nat.ne_zero_of_lt hfuel)
      simp only [printAll, List.length_append, List.length_cons] at hfuel
      have hread := readElement_inner element helement
        (printAll others ++ '<' :: '/' :: rest) fuel (by omega)
      have hreadOthers := readContent_printAll others hothers rest fuel (by omega)
      -- what follows `<` is a name, so that it is not taken for an end tag
      have hstart : ∃ c text, element.inner = c :: text ∧ c ≠ '/' := by
        cases element with
        | leaf name attributes content =>
            obtain ⟨c, cs, hname, _, _, _, hc⟩ := exists_cons_of_isName helement.1
            exact ⟨c, _, by rw [Element.inner, hname]; rfl, hc⟩
        | branch name attributes children =>
            obtain ⟨c, cs, hname, _, _, _, hc⟩ := exists_cons_of_isName helement.1
            exact ⟨c, _, by rw [Element.inner, hname]; rfl, hc⟩
      obtain ⟨c, text, hinner, hc⟩ := hstart
      rw [hinner] at hread
      have hstep := readContent_child hc hread hreadOthers
      simpa [printAll, hinner, mapStringsAll, nodes] using hstep

end

/-! ## Line ends -/

/-- Markup has no line end to normalize. -/
theorem normalizeLineEnds_append_of_not_mem {text : List Char} (h : '\r' ∉ text)
    (rest : List Char) : normalizeLineEnds (text ++ rest) = text ++ normalizeLineEnds rest := by
  induction text with
  | nil => rfl
  | cons c text ih =>
      rw [List.mem_cons, not_or] at h
      rw [List.cons_append, normalizeLineEnds.eq_def]
      split
      · rename_i heq
        exact absurd (List.cons.inj heq).1.symm h.1
      · rename_i heq
        exact absurd (List.cons.inj heq).1.symm h.1
      · rename_i heq
        rw [← (List.cons.inj heq).1, ← (List.cons.inj heq).2, ih h.2, List.cons_append]
      · rename_i heq
        cases heq

theorem normalizeLineEnds_cons {c : Char} (h : c ≠ '\r') (rest : List Char) :
    normalizeLineEnds (c :: rest) = c :: normalizeLineEnds rest :=
  @normalizeLineEnds_append_of_not_mem [c] (by simpa using h.symm) rest

theorem normalizeLineEnds_of_not_mem {text : List Char} (h : '\r' ∉ text) :
    normalizeLineEnds text = text := by
  simpa [normalizeLineEnds] using normalizeLineEnds_append_of_not_mem h []

/-- A CR that no LF follows. -/
theorem normalizeLineEnds_cr {rest : List Char} (h : rest.head? ≠ some '\n') :
    normalizeLineEnds ('\r' :: rest) = '\n' :: normalizeLineEnds rest := by
  cases rest with
  | nil => rfl
  | cons c rest =>
      have hc : c ≠ '\n' := by simpa using h
      simp [normalizeLineEnds, hc]

/-- A text is normalized for itself unless a LF follows it. -/
theorem normalizeLineEnds_append {rest : List Char} (h : rest.head? ≠ some '\n')
    (text : List Char) :
    normalizeLineEnds (text ++ rest) = normalizeLineEnds text ++ normalizeLineEnds rest := by
  induction text using normalizeLineEnds.induct with
  | case1 text ih => simp only [List.cons_append, normalizeLineEnds, ih]
  | case2 text hno ih =>
      have hhead : text.head? ≠ some '\n' := by
        cases text with
        | nil => simp
        | cons c text => exact fun heq => hno text (by rw [Option.some.inj heq])
      have hheadAppend : (text ++ rest).head? ≠ some '\n' := by
        cases text with
        | nil => exact h
        | cons c text => exact hhead
      rw [List.cons_append, normalizeLineEnds_cr hhead, normalizeLineEnds_cr hheadAppend, ih,
        List.cons_append]
  | case3 c text _ hcr ih =>
      have hc : c ≠ '\r' := fun heq => hcr heq
      rw [List.cons_append, normalizeLineEnds_cons hc, normalizeLineEnds_cons hc, ih,
        List.cons_append]
  | case4 => rfl

theorem escape_append (text rest : List Char) :
    escape (text ++ rest) = escape text ++ escape rest :=
  List.flatMap_append

theorem cr_not_mem_escapeChar {c : Char} (hc : c ≠ '\r') : '\r' ∉ escapeChar c := by
  intro hmem
  unfold escapeChar at hmem
  split at hmem
  all_goals first
    | exact hc (List.mem_singleton.mp hmem).symm
    | revert hmem; decide

/-- Escaping neither makes nor hides a line end. -/
theorem normalizeLineEnds_escape (text : List Char) :
    normalizeLineEnds (escape text) = escape (normalizeLineEnds text) := by
  induction text using normalizeLineEnds.induct with
  | case1 text ih =>
      show '\n' :: normalizeLineEnds (escape text) = '\n' :: escape (normalizeLineEnds text)
      rw [ih]
  | case2 text hno ih =>
      have hhead : text.head? ≠ some '\n' := by
        cases text with
        | nil => simp
        | cons c text => exact fun heq => hno text (by rw [Option.some.inj heq])
      -- what follows a carriage return is a line feed before escaping exactly if after it
      have hescaped : (escape text).head? ≠ some '\n' := by
        cases text with
        | nil => simp
        | cons c text =>
            have hc : c ≠ '\n' := fun heq => hhead (by rw [heq]; rfl)
            intro hfirst
            rcases escapeChar_cases c with ⟨hself, _⟩ | ⟨name, hname, _⟩
            · rw [escape_cons, hself] at hfirst
              exact hc (Option.some.inj hfirst)
            · rw [escape_cons, hname] at hfirst
              exact absurd (Option.some.inj hfirst) (by decide)
      rw [normalizeLineEnds_cr hhead]
      show normalizeLineEnds ('\r' :: escape text) = '\n' :: escape (normalizeLineEnds text)
      rw [normalizeLineEnds_cr hescaped, ih]
  | case3 c text _ hcr ih =>
      have hc : c ≠ '\r' := fun heq => hcr heq
      rw [escape_cons, normalizeLineEnds_append_of_not_mem (cr_not_mem_escapeChar hc), ih,
        normalizeLineEnds_cons hc, escape_cons]
  | case4 => rfl

theorem not_mem_of_isName {name : String} (h : IsName name) : '\r' ∉ name.toList := by
  intro hmem
  have hchar := List.all_eq_true.mp h.2 _ hmem
  revert hchar
  decide

theorem normalizeLineEnds_printAttributes {attributes : List (String × String)}
    (h : ∀ entry ∈ attributes, IsName entry.1) (rest : List Char) :
    normalizeLineEnds (printAttributes attributes ++ rest) =
      printAttributes (attributes.map fun entry =>
        (entry.1, String.ofList (normalizeLineEnds entry.2.toList))) ++
        normalizeLineEnds rest := by
  induction attributes with
  | nil => rfl
  | cons entry attributes ih =>
      have hname := not_mem_of_isName (h entry List.mem_cons_self)
      have hrest := ih fun other hother => h other (List.mem_cons_of_mem _ hother)
      rw [List.map_cons, printAttributes_cons, printAttributes_cons]
      simp only [List.cons_append, List.append_assoc, normalizeLineEnds_cons (c := ' ') (by decide),
        normalizeLineEnds_append_of_not_mem hname, normalizeLineEnds_cons (c := '=') (by decide),
        normalizeLineEnds_cons (c := '"') (by decide),
        @normalizeLineEnds_append ('"' :: _) (by simp), normalizeLineEnds_escape, hrest,
        String.toList_ofList]

mutual

theorem normalizeLineEnds_inner : ∀ (element : Element), element.Printable →
    ∀ rest : List Char, normalizeLineEnds (element.inner ++ rest) =
      (element.mapStrings normalizeLineEnds normalizeLineEnds).inner ++ normalizeLineEnds rest
  | .leaf name attributes content, hprintable, rest => by
      have hname := not_mem_of_isName hprintable.1
      simp only [Element.inner, Element.mapStrings, List.append_assoc, List.cons_append,
        List.nil_append, normalizeLineEnds_append_of_not_mem hname,
        normalizeLineEnds_printAttributes hprintable.2.1.names,
        normalizeLineEnds_cons (c := '>') (by decide),
        normalizeLineEnds_cons (c := '<') (by decide),
        normalizeLineEnds_cons (c := '/') (by decide),
        @normalizeLineEnds_append ('<' :: _) (by simp), normalizeLineEnds_escape,
        String.toList_ofList]
  | .branch name attributes children, hprintable, rest => by
      have hname := not_mem_of_isName hprintable.1
      simp only [Element.inner, Element.mapStrings, List.append_assoc, List.cons_append,
        List.nil_append, normalizeLineEnds_append_of_not_mem hname,
        normalizeLineEnds_printAttributes hprintable.2.1.names,
        normalizeLineEnds_cons (c := '>') (by decide),
        normalizeLineEnds_cons (c := '<') (by decide),
        normalizeLineEnds_cons (c := '/') (by decide),
        normalizeLineEnds_printAll children hprintable.2.2]

theorem normalizeLineEnds_printAll : ∀ (elements : List Element), PrintableAll elements →
    ∀ rest : List Char, normalizeLineEnds (printAll elements ++ rest) =
      printAll (mapStringsAll normalizeLineEnds normalizeLineEnds elements) ++
        normalizeLineEnds rest
  | [], _, rest => rfl
  | element :: others, hprintable, rest => by
      simp only [printAll, mapStringsAll, List.cons_append, List.append_assoc,
        normalizeLineEnds_cons (c := '<') (by decide),
        normalizeLineEnds_inner element hprintable.1,
        normalizeLineEnds_printAll others hprintable.2]

end

/-! ## Documents -/

theorem isText_ofList {text : List Char} (h : ∀ c ∈ text, isChar c = true) :
    IsText (String.ofList text) := by
  simpa [IsText] using h

theorem isChar_of_mem_normalizeLineEnds {text : List Char} (h : ∀ c ∈ text, isChar c = true) :
    ∀ c ∈ normalizeLineEnds text, isChar c = true := by
  induction text using normalizeLineEnds.induct with
  | case1 text ih =>
      have hrest := ih fun c hc => h c (by simp [hc])
      simpa [normalizeLineEnds, isChar] using hrest
  | case2 text hno ih =>
      have hrest := ih fun c hc => h c (by simp [hc])
      have hhead : text.head? ≠ some '\n' := by
        cases text with
        | nil => simp
        | cons c text => exact fun heq => hno text (by rw [Option.some.inj heq])
      rw [normalizeLineEnds_cr hhead]
      simpa [isChar] using hrest
  | case3 c text _ hcr ih =>
      have hrest := ih fun d hd => h d (by simp [hd])
      rw [normalizeLineEnds_cons (fun heq => hcr heq)]
      simpa using ⟨h c List.mem_cons_self, hrest⟩
  | case4 => simp [normalizeLineEnds]

theorem printableAttributes_map {f : List Char → List Char}
    (hf : ∀ text, (∀ c ∈ text, isChar c = true) → ∀ c ∈ f text, isChar c = true)
    {attributes : List (String × String)} (h : PrintableAttributes attributes) :
    PrintableAttributes (attributes.map fun entry =>
      (entry.1, String.ofList (f entry.2.toList))) where
  names entry hentry := by
    obtain ⟨original, horiginal, rfl⟩ := List.mem_map.mp hentry
    exact h.names original horiginal
  values entry hentry := by
    obtain ⟨original, horiginal, rfl⟩ := List.mem_map.mp hentry
    exact isText_ofList (hf _ (h.values original horiginal))
  nodup := by
    rw [List.map_map]
    exact h.nodup

mutual

theorem printable_mapStrings {f g : List Char → List Char}
    (hf : ∀ text, (∀ c ∈ text, isChar c = true) → ∀ c ∈ f text, isChar c = true)
    (hg : ∀ text, (∀ c ∈ text, isChar c = true) → ∀ c ∈ g text, isChar c = true) :
    ∀ element : Element, element.Printable → (element.mapStrings f g).Printable
  | .leaf _ _ _, hprintable =>
      ⟨hprintable.1, printableAttributes_map hg hprintable.2.1,
        isText_ofList (hf _ hprintable.2.2)⟩
  | .branch _ _ children, hprintable =>
      ⟨hprintable.1, printableAttributes_map hg hprintable.2.1,
        printableAll_mapStringsAll hf hg children hprintable.2.2⟩

theorem printableAll_mapStringsAll {f g : List Char → List Char}
    (hf : ∀ text, (∀ c ∈ text, isChar c = true) → ∀ c ∈ f text, isChar c = true)
    (hg : ∀ text, (∀ c ∈ text, isChar c = true) → ∀ c ∈ g text, isChar c = true) :
    ∀ elements : List Element, PrintableAll elements → PrintableAll (mapStringsAll f g elements)
  | [], _ => trivial
  | element :: others, hprintable =>
      ⟨printable_mapStrings hf hg element hprintable.1,
        printableAll_mapStringsAll hf hg others hprintable.2⟩

end

mutual

theorem mapStrings_mapStrings (f g f' g' : List Char → List Char) : ∀ element : Element,
    (element.mapStrings f g).mapStrings f' g' = element.mapStrings (f' ∘ f) (g' ∘ g)
  | .leaf _ _ _ => by simp [Element.mapStrings, Function.comp_def]
  | .branch _ _ children => by
      simp [Element.mapStrings, Function.comp_def, mapStringsAll_mapStringsAll f g f' g' children]

theorem mapStringsAll_mapStringsAll (f g f' g' : List Char → List Char) :
    ∀ elements : List Element,
      mapStringsAll f' g' (mapStringsAll f g elements) =
        mapStringsAll (f' ∘ f) (g' ∘ g) elements
  | [] => rfl
  | element :: others => by
      simp only [mapStringsAll, mapStrings_mapStrings f g f' g' element,
        mapStringsAll_mapStringsAll f g f' g' others]

end

/-- What a reader makes of a printed tree. -/
theorem readDocument_print {element : Element} (h : element.Printable) :
    readDocument (declaration ++ String.ofList element.print) = some element.recovered.node := by
  let normalized := element.mapStrings normalizeLineEnds normalizeLineEnds
  have hdeclaration : '\r' ∉ declaration.toList := by decide
  have htext : normalizeLineEnds (declaration ++ String.ofList element.print).toList =
      declaration.toList ++ '<' :: normalized.inner := by
    rw [String.toList_append, String.toList_ofList, Element.print,
      normalizeLineEnds_append_of_not_mem hdeclaration, normalizeLineEnds_cons (by decide)]
    have hinner := normalizeLineEnds_inner element h []
    rw [List.append_nil] at hinner
    rw [hinner]
    simp [normalizeLineEnds, normalized]
  have hdrop : (declaration.toList ++ '<' :: normalized.inner).dropPrefix? declaration.toList =
      some ('<' :: normalized.inner) := List.dropPrefix?_append_of_beq _ (beq_self_eq_true _)
  have hprintable : normalized.Printable := printable_mapStrings
    (fun _ htext => isChar_of_mem_normalizeLineEnds htext)
    (fun _ htext => isChar_of_mem_normalizeLineEnds htext) element h
  have hread := readElement_inner normalized hprintable [] (normalized.inner.length + 1) (by omega)
  have hrecovered : normalized.mapStrings id normalizeSpaces = element.recovered :=
    mapStrings_mapStrings _ _ _ _ element
  rw [List.append_nil] at hread
  simp only [readDocument, htext, hdrop, Option.getD_some,
    List.dropWhile_cons_of_neg (show ¬isSpace '<' = true by decide), hread, hrecovered]
  rfl

/-! ## What survives -/

/-- Data without a CR. -/
def StableContent (content : String) : Prop :=
  '\r' ∉ content.toList

/-- An attribute value whose only white space is the blank. -/
def StableValue (value : String) : Prop :=
  ∀ c ∈ value.toList, isSpace c = true → c = ' '

mutual

/-- A tree that a reader gives back as it is. -/
def Element.Stable : Element → Prop
  | .leaf _ attributes content =>
      (∀ entry ∈ attributes, StableValue entry.2) ∧ StableContent content
  | .branch _ attributes children =>
      (∀ entry ∈ attributes, StableValue entry.2) ∧ StableAll children

def StableAll : List Element → Prop
  | [] => True
  | element :: rest => element.Stable ∧ StableAll rest

end

theorem cr_not_mem_normalizeLineEnds (text : List Char) : '\r' ∉ normalizeLineEnds text := by
  induction text using normalizeLineEnds.induct with
  | case1 text ih => simpa [normalizeLineEnds] using ih
  | case2 text hno ih =>
      have hhead : text.head? ≠ some '\n' := by
        cases text with
        | nil => simp
        | cons c text => exact fun heq => hno text (by rw [Option.some.inj heq])
      rw [normalizeLineEnds_cr hhead]
      simpa using ih
  | case3 c text _ hcr ih =>
      rw [normalizeLineEnds_cons (fun heq => hcr heq), List.mem_cons, not_or]
      exact ⟨fun heq => hcr heq.symm, ih⟩
  | case4 => simp [normalizeLineEnds]

theorem normalizeLineEnds_eq_self_iff {text : List Char} :
    normalizeLineEnds text = text ↔ '\r' ∉ text := by
  constructor
  · intro heq hmem
    rw [← heq] at hmem
    exact cr_not_mem_normalizeLineEnds text hmem
  · exact normalizeLineEnds_of_not_mem

theorem normalizeValue_eq_self_iff {value : String} :
    normalizeSpaces (normalizeLineEnds value.toList) = value.toList ↔ StableValue value := by
  constructor
  · intro heq c hc hspace
    rw [← heq] at hc
    obtain ⟨d, _, rfl⟩ := List.mem_map.mp hc
    by_cases hd : isSpace d = true
    · exact if_pos hd
    · rw [if_neg hd] at hspace
      exact absurd hspace hd
  · intro hstable
    have hcr : '\r' ∉ value.toList := fun hmem => absurd (hstable _ hmem rfl) (by decide)
    rw [normalizeLineEnds_of_not_mem hcr]
    refine (List.map_congr_left fun c hc => ?_).trans (List.map_id _)
    by_cases hspace : isSpace c = true
    · rw [if_pos hspace, hstable c hc hspace, id]
    · rw [if_neg hspace, id]

theorem ofList_eq_iff {text : List Char} {content : String} :
    String.ofList text = content ↔ text = content.toList := by
  constructor
  · rintro rfl
    exact String.toList_ofList.symm
  · rintro rfl
    exact String.ofList_toList

theorem textNodes_inj {content content' : String} :
    textNodes content = textNodes content' ↔ content = content' := by
  constructor
  · intro h
    unfold textNodes at h
    split_ifs at h with hempty hempty'
    · rw [hempty, hempty']
    · simpa using h
  · exact congrArg textNodes

theorem recoveredAttributes_eq_iff (attributes : List (String × String)) :
    (attributes.map fun entry => (entry.1,
      String.ofList (normalizeSpaces (normalizeLineEnds entry.2.toList)))) = attributes ↔
        ∀ entry ∈ attributes, StableValue entry.2 := by
  induction attributes with
  | nil => simp
  | cons entry attributes ih =>
      rw [List.map_cons, List.cons_eq_cons, ih, List.forall_mem_cons, Prod.ext_iff,
        ofList_eq_iff, normalizeValue_eq_self_iff]
      exact ⟨fun h => ⟨h.1.2, h.2⟩, fun h => ⟨⟨rfl, h.1⟩, h.2⟩⟩

mutual

/-- A reader gives a tree back exactly if the tree is stable. -/
theorem recovered_node_eq_iff : ∀ element : Element,
    element.recovered.node = element.node ↔ element.Stable
  | .leaf name attributes content => by
      simp only [Element.recovered, Element.mapStrings, Element.node, Node.element.injEq, true_and,
        recoveredAttributes_eq_iff, textNodes_inj, ofList_eq_iff, normalizeLineEnds_eq_self_iff,
        Element.Stable, StableContent]
  | .branch name attributes children => by
      simp only [Element.recovered, Element.mapStrings, Element.node, Node.element.injEq, true_and,
        recoveredAttributes_eq_iff, recovered_nodes_eq_iff children, Element.Stable]

theorem recovered_nodes_eq_iff : ∀ elements : List Element,
    nodes (mapStringsAll normalizeLineEnds
      (fun value => normalizeSpaces (normalizeLineEnds value)) elements) = nodes elements ↔
        StableAll elements
  | [] => by simp [mapStringsAll, StableAll]
  | element :: others => by
      have helement := recovered_node_eq_iff element
      unfold Element.recovered at helement
      simp only [mapStringsAll, nodes, List.cons.injEq, helement, recovered_nodes_eq_iff others,
        StableAll]

end

end Xml
