import Tr069d.Xml.RoundTrip

/-!
# Elements that are not printed

`ReadsAs` says of a text, without its first `<`, that it is read as a node
whatever follows it.  The print of an element is, and so is an empty-element tag;
what is read may stand in an element.

`readsAs_enclose` and `readsAs_empty` put such texts together, and
`readDocument_of_readsAs` reads a whole document.
-/

namespace Xml

/-- The text is read as the node, and nothing behind it. -/
structure ReadsAs (text : List Char) (node : Node) : Prop where
  /-- It is not taken for an end tag. -/
  start : ∃ c rest, text = c :: rest ∧ c ≠ '/'
  read : ∀ rest fuel, text.length ≤ fuel → readElement fuel (text ++ rest) = some (node, rest)

/-- An element around its content, without the first `<`. -/
def enclose (name : String) (attributes : List (String × String)) (content : List Char) :
    List Char :=
  name.toList ++ printAttributes attributes ++ '>' :: content ++ '<' :: '/' :: name.toList ++ ['>']

/-- The content of an element, of texts without their first `<`. -/
def contentOf (texts : List (List Char)) : List Char :=
  texts.flatMap ('<' :: ·)

theorem contentOf_cons (text : List Char) (texts : List (List Char)) :
    contentOf (text :: texts) = '<' :: text ++ contentOf texts := rfl

theorem contentOf_singleton (text : List Char) : contentOf [text] = '<' :: text := by
  simp [contentOf]

theorem contentOf_pair (first second : List Char) :
    contentOf [first, second] = '<' :: (first ++ '<' :: second) := by
  simp [contentOf]

theorem start_of_isName {name : String} (hname : IsName name) (rest : List Char) :
    ∃ c text, name.toList ++ rest = c :: text ∧ c ≠ '/' := by
  obtain ⟨c, cs, htoList, _, _, _, hc⟩ := exists_cons_of_isName hname
  exact ⟨c, cs ++ rest, by rw [htoList, List.cons_append], hc⟩

theorem readsAs_inner {element : Element} (h : element.Printable) :
    ReadsAs element.inner (element.mapStrings id normalizeSpaces).node where
  start := by
    cases element with
    | leaf name attributes content =>
        rw [Element.inner, List.append_assoc, List.append_assoc, List.append_assoc]
        exact start_of_isName h.1 _
    | branch name attributes children =>
        rw [Element.inner, List.append_assoc, List.append_assoc, List.append_assoc]
        exact start_of_isName h.1 _
  read := readElement_inner element h

/-- An empty-element tag. -/
theorem readsAs_empty {name : String} (hname : IsName name) :
    ReadsAs (name.toList ++ ['/', '>']) (.element name [] []) where
  start := start_of_isName hname _
  read rest fuel hfuel := by
    rw [List.length_append, List.length_cons] at hfuel
    obtain ⟨fuel, rfl⟩ : ∃ n, fuel = n + 1 := ⟨fuel - 1, by omega⟩
    have hread := @readName_append _ ('/' :: '>' :: rest) hname rfl
    rw [List.append_assoc, List.cons_append, List.cons_append, List.nil_append]
    simp only [readElement, hread, Option.bind_eq_bind, Option.bind_some]
    rfl

theorem readContent_contentOf {texts : List (List Char)} {children : List Node}
    (h : List.Forall₂ ReadsAs texts children) (rest : List Char) {fuel : Nat}
    (hfuel : (contentOf texts).length < fuel) :
    readContent fuel (contentOf texts ++ '<' :: '/' :: rest) = some (children, rest) := by
  induction h generalizing fuel with
  | nil =>
      obtain ⟨fuel, rfl⟩ := Nat.exists_eq_succ_of_ne_zero (Nat.ne_zero_of_lt hfuel)
      rfl
  | @cons text node texts children hfirst _ ih =>
      obtain ⟨fuel, rfl⟩ := Nat.exists_eq_succ_of_ne_zero (Nat.ne_zero_of_lt hfuel)
      rw [contentOf_cons, List.length_append, List.length_cons] at hfuel
      have hread := hfirst.read (contentOf texts ++ '<' :: '/' :: rest) fuel (by omega)
      obtain ⟨c, cs, rfl, hc⟩ := hfirst.start
      have hothers := @ih fuel (by omega)
      rw [contentOf_cons, List.append_assoc]
      exact readContent_child hc hread hothers

/-- Whatever is read as nodes is so in an element. -/
theorem readsAs_enclose {name : String} {attributes : List (String × String)}
    (hname : IsName name) (hattributes : PrintableAttributes attributes)
    {texts : List (List Char)} {children : List Node}
    (h : List.Forall₂ ReadsAs texts children) :
    ReadsAs (enclose name attributes (contentOf texts))
      (.element name (attributes.map fun entry =>
        (entry.1, String.ofList (normalizeSpaces entry.2.toList))) children) where
  start := by
    simp only [enclose, List.append_assoc]
    exact start_of_isName hname _
  read rest fuel hfuel := by
    simp only [enclose, List.length_append, List.length_cons] at hfuel
    obtain ⟨fuel, rfl⟩ : ∃ n, fuel = n + 1 := ⟨fuel - 1, by omega⟩
    have hcontent := @readContent_contentOf _ _ h (name.toList ++ '>' :: rest) fuel (by omega)
    have hread := readElement_step hname hattributes hcontent
    simpa [enclose] using hread

/-- A document without a CR whose root is read. -/
theorem readDocument_of_readsAs {text : List Char} {node : Node} (h : ReadsAs text node)
    (hcr : '\r' ∉ text) :
    readDocument (declaration ++ String.ofList ('<' :: text)) = some node := by
  have hdeclaration : '\r' ∉ declaration.toList := by decide
  have htext : normalizeLineEnds (declaration ++ String.ofList ('<' :: text)).toList =
      declaration.toList ++ '<' :: text := by
    rw [String.toList_append, String.toList_ofList, normalizeLineEnds_of_not_mem]
    rw [List.mem_append, List.mem_cons]
    rintro (hmem | hmem | hmem)
    · exact hdeclaration hmem
    · exact absurd hmem (by decide)
    · exact hcr hmem
  have hdrop : (declaration.toList ++ '<' :: text).dropPrefix? declaration.toList =
      some ('<' :: text) := List.dropPrefix?_append_of_beq _ (beq_self_eq_true _)
  have hread := h.read [] (text.length + 1) (by omega)
  rw [List.append_nil] at hread
  simp only [readDocument, htext, hdrop, Option.getD_some,
    List.dropWhile_cons_of_neg (show ¬isSpace '<' = true by decide), hread]
  rfl

end Xml
