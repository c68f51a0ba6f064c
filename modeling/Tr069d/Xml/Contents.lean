import Tr069d.Xml.EmptyTags

/-!
# The data behind a tag

`contentsOf` looks through a text for the start tags of one name and returns what
stands behind each of them, up to the next `<`.  Of the print of an element it
returns the data of the leaves with that name (`contentsOf_print`).

* `contentsOf_append` cuts a text at a `<`, which is where all the pieces begin.
* `contentsOf_startTag`, `contentsOf_endTag` and `contentsOf_enclose` are the tags.
* `escapeChar_append_inj` says that printed data can be compared instead of the data.
-/

namespace Xml

/-! ## Looking through a text -/

/-- What follows each `<`, up to the next one. -/
def pieces : List Char → List (List Char)
  | [] => []
  | c :: rest => if c = '<' then rest.takeWhile (· ≠ '<') :: pieces rest else pieces rest

/-- What stands behind the start tag `name>`, if the piece begins with it. -/
def dataBehind (name piece : List Char) : Option (List Char) :=
  if name ++ ['>'] <+: piece then some (piece.drop (name.length + 1)) else none

def contentsOf (name text : List Char) : List (List Char) :=
  (pieces text).filterMap (dataBehind name)

theorem pieces_of_not_mem {text : List Char} (h : '<' ∉ text) : pieces text = [] := by
  induction text with
  | nil => rfl
  | cons c rest ih =>
      rw [List.mem_cons, not_or] at h
      rw [pieces, if_neg (Ne.symm h.1), ih h.2]

theorem takeWhile_append_stop (stop : Char) (first rest : List Char) :
    (first ++ stop :: rest).takeWhile (· ≠ stop) = first.takeWhile (· ≠ stop) := by
  induction first with
  | nil => simp
  | cons c first ih =>
      rw [List.cons_append, List.takeWhile_cons, List.takeWhile_cons, ih]

theorem takeWhile_of_not_mem {stop : Char} {text : List Char} (h : stop ∉ text) :
    text.takeWhile (· ≠ stop) = text := by
  refine List.takeWhile_eq_self_iff.mpr fun c hc => decide_eq_true ?_
  rintro rfl
  exact h hc

theorem pieces_append (first rest : List Char) :
    pieces (first ++ '<' :: rest) = pieces first ++ pieces ('<' :: rest) := by
  induction first with
  | nil => rfl
  | cons c first ih =>
      rw [List.cons_append, pieces, pieces]
      split_ifs
      · rw [takeWhile_append_stop, ih, List.cons_append]
      · exact ih

theorem pieces_lt {text : List Char} (h : '<' ∉ text) : pieces ('<' :: text) = [text] := by
  rw [pieces, if_pos rfl, takeWhile_of_not_mem h, pieces_of_not_mem h]

theorem contentsOf_append (name first rest : List Char) :
    contentsOf name (first ++ '<' :: rest) =
      contentsOf name first ++ contentsOf name ('<' :: rest) := by
  rw [contentsOf, pieces_append, List.filterMap_append]
  rfl

theorem dataBehind_eq {name head : List Char} (hname : '>' ∉ name) (hhead : '>' ∉ head)
    (data : List Char) :
    dataBehind name (head ++ '>' :: data) = if head = name then some data else none := by
  unfold dataBehind
  by_cases hsame : head = name
  · rw [if_pos hsame, if_pos (by simp [hsame]), hsame]
    simp
  · rw [if_neg hsame, if_neg]
    rintro ⟨rest, hrest⟩
    rw [List.append_assoc, List.singleton_append] at hrest
    have hheads := congrArg (List.takeWhile (· ≠ '>')) hrest
    rw [takeWhile_append_stop, takeWhile_append_stop, takeWhile_of_not_mem hname,
      takeWhile_of_not_mem hhead] at hheads
    exact hsame hheads.symm

/-! ## The print of an element -/

/-- What is printed between `<` and `>`. -/
def head (name : String) (attributes : List (String × String)) : List Char :=
  name.toList ++ printAttributes attributes

mutual

/-- The data of the elements that are printed with this head; a branch has none. -/
def Element.contents (tag : List Char) : Element → List (List Char)
  | .leaf name attributes content =>
      if head name attributes = tag then [escape content.toList] else []
  | .branch name attributes children =>
      (if head name attributes = tag then [[]] else []) ++ contentsAll tag children

def contentsAll (tag : List Char) : List Element → List (List Char)
  | [] => []
  | element :: rest => element.contents tag ++ contentsAll tag rest

end

/-- The head has no markup in it. -/
def CleanHead (name : String) (attributes : List (String × String)) : Prop :=
  '<' ∉ head name attributes ∧ '>' ∉ head name attributes

mutual

def Element.Clean : Element → Prop
  | .leaf name attributes _ => CleanHead name attributes
  | .branch name attributes children => CleanHead name attributes ∧ CleanAll children

def CleanAll : List Element → Prop
  | [] => True
  | element :: rest => element.Clean ∧ CleanAll rest

end

theorem lt_not_mem_escape (text : List Char) : '<' ∉ escape text := by
  intro hmem
  obtain ⟨c, -, hc⟩ := List.mem_flatMap.mp hmem
  unfold escapeChar at hc
  split at hc
  · exact absurd hc (by decide)
  · exact absurd hc (by decide)
  · exact absurd hc (by decide)
  · exact absurd hc (by decide)
  · exact absurd hc (by decide)
  · rename_i _ hlt _ _ _
    exact hlt (List.mem_singleton.mp hc).symm

/-- A list of elements followed by markup is markup. -/
theorem exists_printAll_append (elements : List Element) (rest : List Char) :
    ∃ text, printAll elements ++ '<' :: rest = '<' :: text := by
  cases elements with
  | nil => exact ⟨rest, rfl⟩
  | cons element elements => exact ⟨_, rfl⟩

section Print

variable {tag : List Char}

/-- A start tag, with data behind it. -/
theorem contentsOf_startTag (hgt : '>' ∉ tag) {name : String} {attributes : List (String × String)}
    (h : CleanHead name attributes) {data : List Char} (hdata : '<' ∉ data) :
    contentsOf tag ('<' :: (head name attributes ++ '>' :: data)) =
      if head name attributes = tag then [data] else [] := by
  have hlt : '<' ∉ head name attributes ++ '>' :: data := by simp [h.1, hdata]
  rw [contentsOf, pieces_lt hlt, List.filterMap_cons, dataBehind_eq hgt h.2]
  split_ifs <;> rfl

/-- An end tag has no data. -/
theorem contentsOf_endTag (hgt : '>' ∉ tag) (hslash : '/' ∉ tag) {name : String}
    (hlt : '<' ∉ name.toList) (hname : '>' ∉ name.toList) :
    contentsOf tag ('<' :: '/' :: (name.toList ++ ['>'])) = [] := by
  have hpiece : '<' ∉ '/' :: (name.toList ++ ['>']) := by simp [hlt]
  have hhead : '>' ∉ '/' :: name.toList := by simp [hname]
  have hne : '/' :: name.toList ≠ tag := by
    rintro rfl
    exact hslash List.mem_cons_self
  have hbehind := dataBehind_eq hgt hhead []
  rw [if_neg hne, List.cons_append] at hbehind
  rw [contentsOf, pieces_lt hpiece, List.filterMap_cons, hbehind]
  rfl

mutual

theorem contentsOf_print (hgt : '>' ∉ tag) (hslash : '/' ∉ tag) (element : Element)
    (h : element.Clean) : contentsOf tag element.print = element.contents tag := by
  cases element with
  | leaf name attributes content =>
      have hname : '<' ∉ name.toList ∧ '>' ∉ name.toList :=
        ⟨fun hmem => h.1 (List.mem_append_left _ hmem),
          fun hmem => h.2 (List.mem_append_left _ hmem)⟩
      have hstart := contentsOf_startTag hgt h (lt_not_mem_escape content.toList)
      -- the end tag adds nothing, so it is cut off and put back
      have hsplit := contentsOf_append tag
        ('<' :: (head name attributes ++ '>' :: escape content.toList))
        ('/' :: (name.toList ++ ['>']))
      rw [hstart, contentsOf_endTag hgt hslash hname.1 hname.2, List.append_nil] at hsplit
      rw [Element.contents, ← hsplit]
      simp only [Element.print, Element.inner, head, List.append_assoc, List.cons_append]
  | branch name attributes children =>
      obtain ⟨hhead, hchildren⟩ := h
      have hname : '<' ∉ name.toList ∧ '>' ∉ name.toList :=
        ⟨fun hmem => hhead.1 (List.mem_append_left _ hmem),
          fun hmem => hhead.2 (List.mem_append_left _ hmem)⟩
      have hstart := contentsOf_startTag hgt hhead List.not_mem_nil
      obtain ⟨text, htext⟩ := exists_printAll_append children ('/' :: (name.toList ++ ['>']))
      have hrest := contentsOf_printAll hgt hslash children hchildren
        ('/' :: (name.toList ++ ['>']))
      have hsplit := contentsOf_append tag ('<' :: (head name attributes ++ ['>'])) text
      rw [hstart, ← htext, hrest, contentsOf_endTag hgt hslash hname.1 hname.2,
        List.append_nil] at hsplit
      rw [Element.contents, ← hsplit]
      simp only [Element.print, Element.inner, head, List.append_assoc, List.cons_append,
        List.nil_append]

theorem contentsOf_printAll (hgt : '>' ∉ tag) (hslash : '/' ∉ tag) (elements : List Element)
    (h : CleanAll elements) (rest : List Char) :
    contentsOf tag (printAll elements ++ '<' :: rest) =
      contentsAll tag elements ++ contentsOf tag ('<' :: rest) := by
  cases elements with
  | nil => rfl
  | cons element elements =>
      obtain ⟨text, htext⟩ := exists_printAll_append elements rest
      have hprint := contentsOf_print hgt hslash element h.1
      have hrest := contentsOf_printAll hgt hslash elements h.2 rest
      rw [htext] at hrest
      rw [printAll, List.append_assoc, htext, contentsAll, List.append_assoc, ← hrest, ← hprint]
      exact contentsOf_append tag element.print text

end

/-- An element around markup. -/
theorem contentsOf_enclose (hgt : '>' ∉ tag) (hslash : '/' ∉ tag) {name : String}
    {attributes : List (String × String)} (h : CleanHead name attributes) (content : List Char) :
    contentsOf tag ('<' :: enclose name attributes ('<' :: content)) =
      (if head name attributes = tag then [[]] else []) ++ contentsOf tag ('<' :: content) := by
  have hname : '<' ∉ name.toList ∧ '>' ∉ name.toList :=
    ⟨fun hmem => h.1 (List.mem_append_left _ hmem), fun hmem => h.2 (List.mem_append_left _ hmem)⟩
  have hend := contentsOf_append tag ('<' :: content) ('/' :: (name.toList ++ ['>']))
  rw [contentsOf_endTag hgt hslash hname.1 hname.2, List.append_nil] at hend
  rw [← contentsOf_startTag hgt h List.not_mem_nil, ← hend, List.cons_append, ← contentsOf_append]
  simp only [enclose, head, List.append_assoc, List.cons_append, List.nil_append]

end Print

/-! ## Heads and lists -/

theorem head_nil (name : String) : head name [] = name.toList :=
  List.append_nil _

theorem cleanHead_nil {name : String} (hlt : '<' ∉ name.toList) (hgt : '>' ∉ name.toList) :
    CleanHead name [] := by
  rw [CleanHead, head_nil]
  exact ⟨hlt, hgt⟩

theorem cleanHead_singleton {name key : String} (hname : CleanHead name [])
    (hkey : CleanHead key []) (value : String) : CleanHead name [(key, value)] := by
  simp only [CleanHead, head, printAttributes, List.flatMap_nil, List.append_nil] at hname hkey
  simp [CleanHead, head, printAttributes, hname, hkey, lt_not_mem_escape, gt_not_mem_escape]

/-- A start tag with an attribute has a space in it. -/
theorem head_singleton_ne {tag : List Char} (hspace : ' ' ∉ tag) (name : String)
    (entry : String × String) : head name [entry] ≠ tag := by
  rintro rfl
  exact hspace (by simp [head, printAttributes])

theorem contentsAll_map {α : Type} (tag : List Char) (element : α → Element) (items : List α) :
    contentsAll tag (items.map element) =
      items.flatMap fun item => (element item).contents tag := by
  induction items with
  | nil => rfl
  | cons item items ih => rw [List.map_cons, contentsAll, ih, List.flatMap_cons]

theorem cleanAll_map {α : Type} {element : α → Element} {items : List α}
    (h : ∀ item ∈ items, (element item).Clean) : CleanAll (items.map element) := by
  induction items with
  | nil => trivial
  | cons item items ih =>
      exact ⟨h item List.mem_cons_self, ih fun other hmem => h other (List.mem_cons_of_mem _ hmem)⟩

/-! ## Escaping loses nothing -/

/-- A printed character is read back, with what stands behind it. -/
theorem escapeChar_append_inj {c d : Char} {rest others : List Char}
    (h : escapeChar c ++ rest = escapeChar d ++ others) : c = d ∧ rest = others := by
  rcases escapeChar_cases c with ⟨hc, hne, -⟩ | ⟨name, hc, hname, -, hreads, -⟩ <;>
    rcases escapeChar_cases d with ⟨hd, hne', -⟩ | ⟨name', hd, hname', -, hreads', -⟩ <;>
    rw [hc, hd] at h
  · exact List.cons.inj h
  · exact absurd (List.cons.inj h).1 hne
  · exact absurd (List.cons.inj h).1.symm hne'
  · have htails : name ++ ';' :: rest = name' ++ ';' :: others := by simpa using h
    have hread := congrArg readReference htails
    rw [readReference_append hname, readReference_append hname', hreads, hreads'] at hread
    exact Prod.mk.inj (Option.some.inj hread)

theorem escape_injective : Function.Injective escape := by
  have hne : ∀ c : Char, escapeChar c ≠ [] := by
    intro c
    unfold escapeChar
    split <;> simp
  intro text other h
  induction text generalizing other with
  | nil =>
      cases other with
      | nil => rfl
      | cons d other => exact absurd (List.append_eq_nil_iff.mp h.symm).1 (hne d)
  | cons c text ih =>
      cases other with
      | nil => exact absurd (List.append_eq_nil_iff.mp h).1 (hne c)
      | cons d other =>
          obtain ⟨rfl, hrest⟩ := escapeChar_append_inj h
          rw [ih hrest]

end Xml
