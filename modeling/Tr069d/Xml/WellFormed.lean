import Tr069d.Text.Numerals
import Tr069d.Xml.Utf8

/-!
# What the reader accepts

`readDocument_print` says how a tree of texts is read.  This module goes the other
way, from a document that is read to the strings that were printed into it.

* `chars_of_readDocument`: a document that is read consists of characters of XML.
  Every function of the reader satisfies the same implication: if what it leaves
  consists of such characters, then so does what it was given.
* `exists_split_encode`: markup in ASCII cuts an encoded document where it cuts the
  text, since no byte of another character looks like it.
* `exists_text_of_readEncoded`: a string that stands in a printed tree, whatever bytes
  it has, is the encoding of a text of characters of XML if the tree is read.
-/

namespace Xml

/-- A text of characters of XML. -/
def Chars (text : List Char) : Prop :=
  ∀ c ∈ text, isChar c = true

instance (text : List Char) : Decidable (Chars text) :=
  decidable_of_iff (text.all isChar = true) List.all_eq_true

theorem chars_append {text rest : List Char} : Chars (text ++ rest) ↔ Chars text ∧ Chars rest :=
  List.forall_mem_append

theorem chars_cons {c : Char} {text : List Char} :
    Chars (c :: text) ↔ isChar c = true ∧ Chars text :=
  List.forall_mem_cons

theorem chars_nil : Chars [] :=
  fun _ hc => absurd hc List.not_mem_nil

/-! ## Classes of characters -/

theorem isChar_of_range {c : Char} (hlow : 0x20 ≤ c.toNat)
    (hhigh : c.toNat ≤ 0xD7FF ∨ 0xE000 ≤ c.toNat ∧ c.toNat ≤ 0xFFFD ∨ 0x10000 ≤ c.toNat) :
    isChar c = true := by
  simp only [isChar, Bool.or_eq_true, Bool.and_eq_true, decide_eq_true_eq]
  omega

theorem isChar_of_isSpace {c : Char} (h : isSpace c = true) : isChar c = true := by
  simp only [isSpace, Bool.or_eq_true, decide_eq_true_eq] at h
  rcases h with ((rfl | rfl) | rfl) | rfl <;> decide

theorem isChar_of_isAlphanum {c : Char} (h : c.isAlphanum = true) : isChar c = true := by
  have hbounds := Tr069d.bounds_of_isAlphanum h
  exact isChar_of_range (by omega) (Or.inl (by omega))

theorem isChar_of_isDigit {c : Char} (h : c.isDigit = true) : isChar c = true :=
  isChar_of_isAlphanum (by rw [Char.isAlphanum, h, Bool.or_true])

theorem isChar_of_isNameStart {c : Char} (h : isNameStart c = true) : isChar c = true := by
  simp only [isNameStart, Bool.or_eq_true, decide_eq_true_eq] at h
  rcases h with ((rfl | rfl) | halpha) | hrange
  · decide
  · decide
  · exact isChar_of_isAlphanum (by rw [Char.isAlphanum, halpha, Bool.true_or])
  · simp only [nameStartRanges, List.any_cons, List.any_nil, Bool.or_eq_true, Bool.and_eq_true,
      decide_eq_true_eq, Bool.false_eq_true, or_false] at hrange
    exact isChar_of_range (by omega) (by omega)

theorem isChar_of_isNameChar {c : Char} (h : isNameChar c = true) : isChar c = true := by
  simp only [isNameChar, Bool.or_eq_true, Bool.and_eq_true, decide_eq_true_eq] at h
  rcases h with (((((hstart | rfl) | rfl) | hdigit) | hdot) | hmarks) | hties
  · exact isChar_of_isNameStart hstart
  · decide
  · decide
  · exact isChar_of_isDigit hdigit
  · exact isChar_of_range (by omega) (by omega)
  · exact isChar_of_range (by omega) (by omega)
  · exact isChar_of_range (by omega) (by omega)

theorem chars_of_dropWhile {p : Char → Bool} (hp : ∀ c, p c = true → isChar c = true)
    {text : List Char} (h : Chars (text.dropWhile p)) : Chars text := by
  rw [← List.takeWhile_append_dropWhile (p := p) (l := text)]
  exact chars_append.mpr ⟨fun c hc => hp c (List.mem_takeWhile_imp hc), h⟩

/-! ## References -/

/-- Where a fold succeeds, it succeeds at every element. -/
theorem exists_of_foldlM {α β : Type} {step : β → α → Option β} {start result : β} {items : List α}
    (h : items.foldlM step start = some result) :
    ∀ item ∈ items, ∃ before after, step before item = some after := by
  induction items generalizing start with
  | nil => exact fun _ hnone => absurd hnone List.not_mem_nil
  | cons item rest ih =>
      rw [List.foldlM_cons] at h
      obtain ⟨after, hstep, hrest⟩ := Option.bind_eq_some_iff.mp h
      exact List.forall_mem_cons.mpr ⟨⟨start, after, hstep⟩, ih hrest⟩

/-- A numeral consists of digits and letters. -/
theorem chars_of_numeral {base n : Nat} {digits : List Char} (h : numeral base digits = some n) :
    Chars digits := by
  intro c hc
  unfold numeral at h
  split_ifs at h
  obtain ⟨before, after, hstep⟩ := exists_of_foldlM h c hc
  have hletter : ∀ low high : Char, 0x20 ≤ low.toNat → high.toNat < 128 →
      (decide (low ≤ c) && decide (c ≤ high)) = true → isChar c = true := by
    intro low high hlow hhigh hbetween
    rw [Bool.and_eq_true, decide_eq_true_eq, decide_eq_true_eq] at hbetween
    have hleft : low.toNat ≤ c.toNat := hbetween.1
    have hright : c.toNat ≤ high.toNat := hbetween.2
    exact isChar_of_range (by omega) (Or.inl (by omega))
  by_cases hdigit : c.isDigit = true
  · exact isChar_of_isDigit hdigit
  by_cases hlower : (decide ('a' ≤ c) && decide (c ≤ 'f')) = true
  · exact hletter _ _ (by decide) (by decide) hlower
  by_cases hupper : (decide ('A' ≤ c) && decide (c ≤ 'F')) = true
  · exact hletter _ _ (by decide) (by decide) hupper
  -- any other character counts as the base itself, and is refused
  · simp [hdigit, hlower, hupper] at hstep

theorem chars_of_referenced {name : List Char} {c : Char} (h : referenced name = some c) :
    Chars name := by
  unfold referenced at h
  split at h
  · decide
  · decide
  · decide
  · decide
  · decide
  · obtain ⟨hfound, -⟩ := Option.filter_eq_some_iff.mp h
    obtain ⟨n, hnumeral, -⟩ := Option.map_eq_some_iff.mp hfound
    exact chars_cons.mpr ⟨by decide, chars_cons.mpr ⟨by decide, chars_of_numeral hnumeral⟩⟩
  · obtain ⟨hfound, -⟩ := Option.filter_eq_some_iff.mp h
    obtain ⟨n, hnumeral, -⟩ := Option.map_eq_some_iff.mp hfound
    exact chars_cons.mpr ⟨by decide, chars_of_numeral hnumeral⟩
  · cases h

theorem chars_of_readReference {text rest : List Char} {c : Char}
    (h : readReference text = some (c, rest)) (hrest : Chars rest) : Chars text := by
  unfold readReference at h
  split at h
  · rename_i after hdrop
    obtain ⟨d, hreferenced, heq⟩ := Option.map_eq_some_iff.mp h
    obtain ⟨rfl, rfl⟩ := Prod.mk.inj heq
    rw [← List.takeWhile_append_dropWhile (p := fun c => decide (c ≠ ';')) (l := text), hdrop]
    exact chars_append.mpr
      ⟨chars_of_referenced hreferenced, chars_cons.mpr ⟨by decide, hrest⟩⟩
  · cases h

/-! ## The functions of the reader -/

section Reading

variable {fuel : Nat} {text rest : List Char}

theorem chars_of_readText {content : List Char} (h : readText fuel text = some (content, rest))
    (hrest : Chars rest) : Chars text := by
  induction fuel generalizing text content with
  | zero => cases h
  | succ fuel ih =>
      cases text with
      | nil => exact chars_nil
      | cons c text =>
          rw [readText] at h
          split_ifs at h with hlt hamp hchar
          · obtain ⟨-, rfl⟩ := Prod.mk.inj (Option.some.inj h)
            exact hrest
          · obtain ⟨found, hreference, hnext⟩ := Option.bind_eq_some_iff.mp h
            obtain ⟨next, hread, hresult⟩ := Option.bind_eq_some_iff.mp hnext
            obtain ⟨-, rfl⟩ := Prod.mk.inj (Option.some.inj hresult)
            exact hamp ▸ chars_cons.mpr ⟨by decide, chars_of_readReference hreference (ih hread)⟩
          · obtain ⟨next, hread, hresult⟩ := Option.bind_eq_some_iff.mp h
            obtain ⟨-, rfl⟩ := Prod.mk.inj (Option.some.inj hresult)
            simp only [Bool.or_eq_true, Bool.not_eq_true', not_or, Bool.not_eq_false] at hchar
            exact chars_cons.mpr ⟨hchar.1, ih hread⟩

theorem chars_of_readValue {quote : Char} (hquote : isChar quote = true) {value : List Char}
    (h : readValue quote fuel text = some (value, rest)) (hrest : Chars rest) : Chars text := by
  -- on the fuel: every character that is passed over has been looked at
  induction fuel generalizing text value with
  | zero => cases h
  | succ fuel ih =>
      cases text with
      | nil => exact chars_nil
      | cons c text =>
          rw [readValue] at h
          split at h
          · rename_i hend
            obtain ⟨-, rfl⟩ := Prod.mk.inj (Option.some.inj h)
            exact hend ▸ chars_cons.mpr ⟨hquote, hrest⟩
          split at h
          · rename_i hamp
            obtain ⟨found, hreference, hnext⟩ := Option.bind_eq_some_iff.mp h
            obtain ⟨next, hread, hresult⟩ := Option.bind_eq_some_iff.mp hnext
            obtain ⟨-, rfl⟩ := Prod.mk.inj (Option.some.inj hresult)
            exact hamp ▸ chars_cons.mpr ⟨by decide, chars_of_readReference hreference (ih hread)⟩
          split at h
          · cases h
          · rename_i hchar
            obtain ⟨next, hread, hresult⟩ := Option.bind_eq_some_iff.mp h
            obtain ⟨-, rfl⟩ := Prod.mk.inj (Option.some.inj hresult)
            simp only [Bool.or_eq_true, Bool.not_eq_true', not_or, Bool.not_eq_false] at hchar
            exact chars_cons.mpr ⟨hchar.1, ih hread⟩

theorem chars_of_readName {name : String} (h : readName text = some (name, rest))
    (hrest : Chars rest) : Chars text := by
  unfold readName at h
  split_ifs at h
  obtain ⟨-, rfl⟩ := Prod.mk.inj (Option.some.inj h)
  exact chars_of_dropWhile (fun _ => isChar_of_isNameChar) hrest

theorem chars_of_readAssigned {value : String} (h : readAssigned text = some (value, rest))
    (hrest : Chars rest) : Chars text := by
  refine chars_of_dropWhile (fun _ => isChar_of_isSpace) ?_
  unfold readAssigned at h
  split at h
  · rename_i after hequals
    rw [hequals]
    refine chars_cons.mpr ⟨by decide, chars_of_dropWhile (fun _ => isChar_of_isSpace) ?_⟩
    split at h
    · rename_i quote start hquoted
      rw [hquoted]
      split_ifs at h with hquote
      obtain ⟨found, hread, heq⟩ := Option.map_eq_some_iff.mp h
      obtain ⟨-, rfl⟩ := Prod.mk.inj heq
      have hchar : isChar quote = true := by
        simp only [Bool.or_eq_true, decide_eq_true_eq] at hquote
        rcases hquote with rfl | rfl <;> decide
      exact chars_cons.mpr ⟨hchar, chars_of_readValue hchar hread hrest⟩
    · cases h
  · cases h

theorem chars_of_readAttributes {attributes : List (String × String)} {closed : Bool}
    (h : readAttributes fuel text = some (attributes, closed, rest)) (hrest : Chars rest) :
    Chars text := by
  induction fuel generalizing text attributes with
  | zero => cases h
  | succ fuel ih =>
      refine chars_of_dropWhile (fun _ => isChar_of_isSpace) ?_
      unfold readAttributes at h
      split at h
      · rename_i after hend
        obtain ⟨-, -, rfl⟩ : _ ∧ _ ∧ _ := by simpa using h
        exact hend ▸ chars_cons.mpr ⟨by decide, hrest⟩
      · rename_i after hend
        obtain ⟨-, -, rfl⟩ : _ ∧ _ ∧ _ := by simpa using h
        exact hend ▸ chars_cons.mpr ⟨by decide, chars_cons.mpr ⟨by decide, hrest⟩⟩
      · split_ifs at h
        obtain ⟨name, hname, hafter⟩ := Option.bind_eq_some_iff.mp h
        obtain ⟨value, hvalue, hnext⟩ := Option.bind_eq_some_iff.mp hafter
        obtain ⟨⟨others, _, left⟩, hothers, hresult⟩ := Option.bind_eq_some_iff.mp hnext
        dsimp only at hresult
        split_ifs at hresult
        obtain ⟨-, rfl, rfl⟩ : _ ∧ _ ∧ _ := by simpa using hresult
        exact chars_of_readName hname (chars_of_readAssigned hvalue (ih hothers))

theorem chars_of_readEndTag {name : String} (h : readEndTag name text = some rest)
    (hrest : Chars rest) : Chars text := by
  unfold readEndTag at h
  split at h
  · rename_i endName after hname
    refine chars_of_readName hname (chars_of_dropWhile (fun _ => isChar_of_isSpace) ?_)
    split at h
    · rename_i after' hend
      split_ifs at h
      obtain rfl := Option.some.inj h
      exact hend ▸ chars_cons.mpr ⟨by decide, hrest⟩
    · cases h
  · cases h

end Reading

mutual

theorem chars_of_readElement : ∀ (fuel : Nat) {text rest : List Char} {node : Node},
    readElement fuel text = some (node, rest) → Chars rest → Chars text
  | 0, _, _, _, h, _ => by cases h
  | fuel + 1, text, rest, node, h, hrest => by
      rw [readElement] at h
      obtain ⟨name, hname, hafter⟩ := Option.bind_eq_some_iff.mp h
      obtain ⟨start, hstart, hnext⟩ := Option.bind_eq_some_iff.mp hafter
      refine chars_of_readName hname (chars_of_readAttributes hstart ?_)
      dsimp only at hnext
      split_ifs at hnext
      · obtain ⟨-, rfl⟩ := Prod.mk.inj (Option.some.inj hnext)
        exact hrest
      · obtain ⟨content, hcontent, hend⟩ := Option.bind_eq_some_iff.mp hnext
        obtain ⟨left, hleft, hresult⟩ := Option.bind_eq_some_iff.mp hend
        obtain ⟨-, rfl⟩ := Prod.mk.inj (Option.some.inj hresult)
        exact chars_of_readContent fuel hcontent (chars_of_readEndTag hleft hrest)

theorem chars_of_readContent : ∀ (fuel : Nat) {text rest : List Char} {nodes : List Node},
    readContent fuel text = some (nodes, rest) → Chars rest → Chars text
  | 0, _, _, _, h, _ => by cases h
  | fuel + 1, text, rest, nodes, h, hrest => by
      rw [readContent] at h
      obtain ⟨data, hdata, hafter⟩ := Option.bind_eq_some_iff.mp h
      refine chars_of_readText hdata ?_
      dsimp only at hafter
      split at hafter
      · rename_i left hend
        obtain ⟨-, rfl⟩ := Prod.mk.inj (Option.some.inj hafter)
        exact hend ▸ chars_cons.mpr ⟨by decide, chars_cons.mpr ⟨by decide, hrest⟩⟩
      · rename_i left hchild
        obtain ⟨child, helement, hnext⟩ := Option.bind_eq_some_iff.mp hafter
        obtain ⟨others, hothers, hresult⟩ := Option.bind_eq_some_iff.mp hnext
        obtain ⟨-, rfl⟩ := Prod.mk.inj (Option.some.inj hresult)
        exact hchild ▸ chars_cons.mpr ⟨by decide, chars_of_readElement fuel helement
          (chars_of_readContent fuel hothers hrest)⟩
      · cases hafter

end

/-- The normalization of line ends leaves and takes only characters of XML. -/
theorem chars_of_normalizeLineEnds {text : List Char} (h : Chars (normalizeLineEnds text)) :
    Chars text := by
  induction text using normalizeLineEnds.induct with
  | case1 text ih =>
      rw [normalizeLineEnds] at h
      exact chars_cons.mpr ⟨by decide, chars_cons.mpr ⟨by decide, ih (chars_cons.mp h).2⟩⟩
  | case2 text hno ih =>
      rw [normalizeLineEnds_cr fun hhead => ?_] at h
      · exact chars_cons.mpr ⟨by decide, ih (chars_cons.mp h).2⟩
      · obtain ⟨tail, htail⟩ := List.head?_eq_some_iff.mp hhead
        exact hno tail htail
  | case3 c text _ hcr ih =>
      rw [normalizeLineEnds_cons (fun heq => hcr heq)] at h
      exact chars_cons.mpr ⟨(chars_cons.mp h).1, ih (chars_cons.mp h).2⟩
  | case4 => exact chars_nil

/-- A document that is read consists of characters of XML. -/
theorem chars_of_readDocument {document : String} {root : Node}
    (h : readDocument document = some root) : Chars document.toList := by
  refine chars_of_normalizeLineEnds ?_
  have hdeclaration : Chars declaration.toList := by decide
  unfold readDocument at h
  dsimp only at h
  -- behind the declaration there are blanks, an element and blanks
  have hbody : Chars (((normalizeLineEnds document.toList).dropPrefix? declaration.toList).getD
      (normalizeLineEnds document.toList)) := by
    refine chars_of_dropWhile (fun _ => isChar_of_isSpace) ?_
    split at h
    · rename_i rest hstart
      rw [hstart]
      refine chars_cons.mpr ⟨by decide, ?_⟩
      split at h
      · rename_i read left hread
        split_ifs at h with hleft
        exact chars_of_readElement _ hread fun c hc =>
          isChar_of_isSpace (List.all_eq_true.mp hleft c hc)
      · cases h
    · cases h
  cases hdropped : (normalizeLineEnds document.toList).dropPrefix? declaration.toList with
  | none =>
      rw [hdropped] at hbody
      exact hbody
  | some rest =>
      rw [hdropped] at hbody
      obtain ⟨before, hsplit, hbefore⟩ := List.dropPrefix?_eq_some_iff.mp hdropped
      rw [hsplit, eq_of_beq hbefore]
      exact chars_append.mpr ⟨hdeclaration, hbody⟩

/-! ## Bytes -/

/-- Markup in ASCII cuts an encoded text where it cuts the text. -/
theorem exists_split_encode {c : Char} (hc : c.toNat < 128) {text before after : List Char}
    (h : encode text = before ++ c :: after) :
    ∃ first second, text = first ++ c :: second ∧ encode first = before ∧
      encode second = after := by
  induction text generalizing before with
  | nil =>
      have hnil : before ++ c :: after = [] := h.symm
      simp at hnil
  | cons d text ih =>
      rw [encode_cons] at h
      rcases List.append_eq_append_iff.mp h with ⟨middle, hbefore, hrest⟩ | ⟨middle, hbytes, hrest⟩
      · -- the cut is behind the bytes of the first character
        obtain ⟨first, second, rfl, hfirst, hsecond⟩ := ih hrest
        refine ⟨d :: first, second, rfl, ?_, hsecond⟩
        rw [encode_cons, hfirst, hbefore]
      · -- the cut is at a byte of the first character, which is then the character itself
        cases middle with
        | nil =>
            rw [List.nil_append] at hrest
            have hcut : encode text = [] ++ c :: after := hrest.symm
            obtain ⟨first, second, rfl, hfirst, hsecond⟩ := ih hcut
            refine ⟨d :: first, second, rfl, ?_, hsecond⟩
            rw [encode_cons, hfirst, hbytes]
            simp
        | cons e middle =>
            obtain ⟨rfl, hafter⟩ := List.cons.inj hrest
            have hmem : c ∈ encodeChar d := by
              rw [hbytes]
              simp
            have hd : d.toNat < 128 := by
              by_contra hlarge
              have hle := le_of_mem_encodeChar (Nat.le_of_not_lt hlarge) hmem
              omega
            rw [encodeChar_of_lt hd] at hbytes
            have hsingle : before = [] ∧ d = c ∧ middle = [] := by
              cases before with
              | nil => simpa [eq_comm] using hbytes
              | cons b before => simp at hbytes
            obtain ⟨rfl, rfl, rfl⟩ := hsingle
            exact ⟨[], text, rfl, rfl, hafter.symm⟩

theorem encode_eq_nil_iff {text : List Char} : encode text = [] ↔ text = [] := by
  constructor
  · intro h
    have hdecoded := decode_encode text
    rw [h] at hdecoded
    exact (Option.some.inj (hdecoded.symm.trans (decode_encode []))).symm ▸ rfl
  · rintro rfl
    rfl

/-- A text whose bytes begin with ASCII begins with it. -/
theorem exists_append_of_encode {start : List Char} (hstart : Ascii start)
    {text rest : List Char} (h : encode text = start ++ rest) :
    ∃ text', text = start ++ text' ∧ encode text' = rest := by
  induction start generalizing text with
  | nil => exact ⟨text, rfl, h⟩
  | cons c start ih =>
      have hall := List.all_eq_true.mp hstart
      have hc : c.toNat < 128 := by simpa using hall c List.mem_cons_self
      have hrest : Ascii start :=
        List.all_eq_true.mpr fun d hd => hall d (List.mem_cons_of_mem _ hd)
      have hcut : encode text = [] ++ c :: (start ++ rest) := h
      obtain ⟨first, second, rfl, hfirst, hsecond⟩ := exists_split_encode hc hcut
      obtain rfl := encode_eq_nil_iff.mp hfirst
      obtain ⟨text', rfl, htext'⟩ := ih hrest hsecond
      exact ⟨text', rfl, htext'⟩

theorem ascii_escapeChar {c : Char} (h : c.toNat < 128) : Ascii (escapeChar c) := by
  unfold escapeChar
  split
  all_goals first | decide | simpa [Ascii] using h

/-- Bytes beyond ASCII are escaped as they are. -/
theorem exists_append_of_escape {start : List Char} (hstart : ∀ c ∈ start, 128 ≤ c.toNat)
    {bytes rest : List Char} (h : escape bytes = start ++ rest) :
    ∃ bytes', bytes = start ++ bytes' ∧ escape bytes' = rest := by
  induction start generalizing bytes with
  | nil => exact ⟨bytes, rfl, h⟩
  | cons c start ih =>
      obtain ⟨hc, hrest⟩ := List.forall_mem_cons.mp hstart
      cases bytes with
      | nil => simp at h
      | cons b bytes =>
          rw [escape_cons] at h
          -- a reference that stands for a byte begins with an ampersand, which is ASCII
          have hb : 128 ≤ b.toNat := by
            by_contra hsmall
            have hascii := ascii_escapeChar (Nat.lt_of_not_le hsmall)
            rcases escapeChar_cases b with ⟨hself, -⟩ | ⟨name, hname, -⟩
            · rw [hself] at h
              obtain ⟨rfl, -⟩ := List.cons.inj h
              exact hsmall hc
            · rw [hname] at h
              obtain ⟨rfl, -⟩ := List.cons.inj h
              exact absurd hc (by decide)
          rw [escapeChar_of_le hb] at h
          obtain ⟨rfl, hbytes⟩ := List.cons.inj h
          obtain ⟨bytes', rfl, hescape⟩ := ih hrest hbytes
          exact ⟨bytes', rfl, hescape⟩

/-- Bytes that are escaped into the encoding of a text are those of a text. -/
theorem exists_text_of_escape (n : Nat) {bytes text : List Char} (hn : bytes.length ≤ n)
    (h : encode text = escape bytes) :
    ∃ original, escape original = text ∧ encode original = bytes := by
  induction n generalizing bytes text with
  | zero =>
      obtain rfl := List.length_eq_zero_iff.mp (Nat.le_zero.mp hn)
      exact ⟨[], (encode_eq_nil_iff.mp h).symm, rfl⟩
  | succ n ih =>
      cases bytes with
      | nil => exact ⟨[], (encode_eq_nil_iff.mp h).symm, rfl⟩
      | cons b bytes =>
          rw [List.length_cons] at hn
          rw [escape_cons] at h
          rcases Nat.lt_or_ge b.toNat 128 with hb | hb
          · obtain ⟨text', rfl, htext'⟩ := exists_append_of_encode (ascii_escapeChar hb) h
            obtain ⟨original, rfl, rfl⟩ := ih (by omega) htext'
            exact ⟨b :: original, rfl, by rw [encode_cons, encodeChar_of_lt hb]; rfl⟩
          · rw [escapeChar_of_le hb] at h
            cases text with
            | nil => cases h
            | cons c text =>
                rw [encode_cons] at h
                -- the first byte is one of those of a longer character, and so are all of these
                have hlarge : 128 ≤ c.toNat := by
                  by_contra hsmall
                  rw [encodeChar_of_lt (Nat.lt_of_not_le hsmall)] at h
                  obtain ⟨rfl, -⟩ := List.cons.inj h
                  exact hsmall hb
                have hbytes : ∀ d ∈ encodeChar c, 128 ≤ d.toNat :=
                  fun d hd => le_of_mem_encodeChar hlarge hd
                cases hencoded : encodeChar c with
                | nil =>
                    have hnil : encode [c] = [] := by
                      rw [encode_cons, hencoded]
                      rfl
                    cases encode_eq_nil_iff.mp hnil
                | cons d tail =>
                    rw [hencoded] at h hbytes
                    obtain ⟨rfl, hrest⟩ := List.cons.inj h
                    obtain ⟨bytes', rfl, hescape⟩ := exists_append_of_escape
                      (List.forall_mem_cons.mp hbytes).2 hrest.symm
                    rw [List.length_append] at hn
                    obtain ⟨original, rfl, rfl⟩ := ih (by omega) hescape.symm
                    refine ⟨c :: original, ?_, ?_⟩
                    · rw [escape_cons, escapeChar_of_le hlarge]
                      rfl
                    · rw [encode_cons, hencoded]
                      rfl

/-! ## The strings of a tree -/

mutual

/-- The strings of a tree: the attribute values and the contents. -/
def Element.strings : Element → List String
  | .leaf _ attributes content => attributes.map Prod.snd ++ [content]
  | .branch _ attributes children => attributes.map Prod.snd ++ stringsAll children

def stringsAll : List Element → List String
  | [] => []
  | element :: rest => element.strings ++ stringsAll rest

end

/-- A string is printed into a text between two characters of ASCII. -/
def PrintedIn (s : String) (text : List Char) : Prop :=
  ∃ before after left right, text = before ++ left :: (escape s.toList ++ right :: after) ∧
    left.toNat < 128 ∧ right.toNat < 128

theorem PrintedIn.append_left {s : String} {text : List Char} (h : PrintedIn s text)
    (before : List Char) : PrintedIn s (before ++ text) := by
  obtain ⟨start, after, left, right, rfl, hascii⟩ := h
  exact ⟨before ++ start, after, left, right, by simp, hascii⟩

theorem PrintedIn.append_right {s : String} {text : List Char} (h : PrintedIn s text)
    (after : List Char) : PrintedIn s (text ++ after) := by
  obtain ⟨before, stop, left, right, rfl, hascii⟩ := h
  exact ⟨before, stop ++ after, left, right, by simp, hascii⟩

theorem printedIn_printAttributes {attributes : List (String × String)} {s : String}
    (hs : s ∈ attributes.map Prod.snd) : PrintedIn s (printAttributes attributes) := by
  obtain ⟨entry, hentry, rfl⟩ := List.mem_map.mp hs
  obtain ⟨earlier, later, rfl⟩ := List.append_of_mem hentry
  refine ⟨printAttributes earlier ++ ' ' :: (entry.1.toList ++ ['=']), printAttributes later,
    '"', '"', ?_, by decide, by decide⟩
  simp [printAttributes]

mutual

theorem printedIn_inner : ∀ (element : Element) {s : String}, s ∈ element.strings →
    PrintedIn s element.inner
  | .leaf name attributes content, s, hs => by
      rw [Element.inner]
      rcases List.mem_append.mp hs with hvalue | hcontent
      · have hprinted := (printedIn_printAttributes hvalue).append_left name.toList
        simpa using hprinted.append_right
          ('>' :: escape content.toList ++ '<' :: '/' :: name.toList ++ ['>'])
      · obtain rfl := List.mem_singleton.mp hcontent
        exact ⟨name.toList ++ printAttributes attributes, '/' :: name.toList ++ ['>'], '>', '<',
          by simp, by decide, by decide⟩
  | .branch name attributes children, s, hs => by
      rw [Element.inner]
      rcases List.mem_append.mp hs with hvalue | hchild
      · have hprinted := (printedIn_printAttributes hvalue).append_left name.toList
        simpa using hprinted.append_right
          ('>' :: printAll children ++ '<' :: '/' :: name.toList ++ ['>'])
      · have hprinted := ((printedIn_printAll children hchild).append_left ['>']).append_left
          (name.toList ++ printAttributes attributes)
        simpa using hprinted.append_right ('<' :: '/' :: name.toList ++ ['>'])

theorem printedIn_printAll : ∀ (elements : List Element) {s : String}, s ∈ stringsAll elements →
    PrintedIn s (printAll elements)
  | [], s, hs => absurd hs List.not_mem_nil
  | element :: others, s, hs => by
      rw [printAll]
      rcases List.mem_append.mp hs with hhere | hlater
      · have hprinted := (printedIn_inner element hhere).append_left ['<']
        simpa using hprinted.append_right (printAll others)
      · have hprinted := printedIn_printAll others hlater
        simpa using hprinted.append_left ('<' :: element.inner)

end

/-- A character that is printed is one of XML if what it is printed as consists of such. -/
theorem chars_of_escape {text : List Char} (h : Chars (escape text)) : Chars text := by
  induction text with
  | nil => exact chars_nil
  | cons c text ih =>
      rw [escape_cons, chars_append] at h
      refine chars_cons.mpr ⟨?_, ih h.2⟩
      unfold escapeChar at h
      split at h
      all_goals first | rfl | exact h.1 c (List.mem_singleton.mpr rfl)

/-- If a printed tree is read, whatever bytes its strings have, then each of them is
the encoding of a text of characters of XML. -/
theorem exists_text_of_readEncoded {element : Element} {root : Node}
    (hread : readEncoded (declaration ++ String.ofList element.print) = some root) {s : String}
    (hs : s ∈ element.strings) : ∃ text, IsText text ∧ encodeString text = s := by
  obtain ⟨decoded, hdecoded, hdocument⟩ := Option.bind_eq_some_iff.mp hread
  have hchars := chars_of_readDocument hdocument
  rw [String.toList_ofList] at hchars
  have hprinted : PrintedIn s (declaration ++ String.ofList element.print).toList := by
    rw [String.toList_append, String.toList_ofList, Element.print]
    exact ((printedIn_inner element hs).append_left ['<']).append_left _
  obtain ⟨before, after, left, right, hbytes, hleft, hright⟩ := hprinted
  have hencoded := (encode_of_decode hdecoded).trans hbytes
  -- the two characters of ASCII cut the piece of the string out of the decoded text
  obtain ⟨first, second, rfl, -, hsecond⟩ := exists_split_encode hleft hencoded
  obtain ⟨piece, rest, rfl, hpiece, -⟩ := exists_split_encode hright hsecond
  obtain ⟨original, rfl, horiginal⟩ := exists_text_of_escape _ le_rfl hpiece
  have hescaped : Chars (escape original) :=
    (chars_append.mp (chars_cons.mp (chars_append.mp hchars).2).2).1
  refine ⟨String.ofList original, isText_ofList (chars_of_escape hescaped), ?_⟩
  rw [encodeString, String.toList_ofList, horiginal, String.ofList_toList]

end Xml
