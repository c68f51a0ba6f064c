import Tr069d.ConnectionRequest.Server

/-!
# Headers and parameters

What the scans of the server mean, said without them.

* `HasHeader`: the header block gives a value under a name. `hasHeader_iff` says
  that these are the values the scan for a header visits.
* `Gives` and `Reads`: the text that follows the first textual `key=` of a value,
  in quotes or up to a comma. `reads_iff` says that it is what `digestValue`
  returns. Neither asks where that `key=` stands: it may be the end of another
  parameter's name, or inside another parameter's value.
-/

namespace Tr069d

/-! ### Headers -/

/-- A line of the header block: it follows the request line and no empty line
precedes it. -/
def InHeaderBlock (request line : List Char) : Prop :=
  ∃ first earlier rest,
    request = first ++ crlf ++ earlier.flatMap (· ++ crlf) ++ line ++ crlf ++ rest ∧
      (∀ l ∈ first :: (earlier ++ [line]), ¬crlf <:+: l) ∧ ∀ l ∈ earlier ++ [line], l ≠ []

/-- The header block gives `value` under a name, in any letter case. -/
def HasHeader (request name value : List Char) : Prop :=
  ∃ written blanks, InHeaderBlock request (written ++ ':' :: (blanks ++ value)) ∧
    ':' ∉ written ∧ sameIgnoringCase written name ∧ (∀ c ∈ blanks, c = ' ' ∨ c = '\t') ∧
      ∀ c ∈ value.head?, c ≠ ' ' ∧ c ≠ '\t'

theorem crlf_ne_nil : crlf ≠ [] := by
  decide

/-- A line break that begins in a line ends in it. -/
theorem not_crlf_infix_append {line : List Char} (h : ¬crlf <:+: line) :
    ¬crlf <:+: line ++ crlf.dropLast := by
  intro hstands
  have hbreak : ['\r'] ++ ['\n'] <:+: line ++ ['\r'] := hstands
  exact h (infix_of_infix_append (by decide) hbreak)

/-- Where a visited line stands in the request, and the lines before it. -/
theorem exists_block_of_headerLines {request line : List Char} {earlier later : List (List Char)}
    (hblock : headerLines request = earlier ++ line :: later) :
    ∃ first rest,
      request = first ++ crlf ++ earlier.flatMap (· ++ crlf) ++ line ++ crlf ++ rest ∧
        (∀ l ∈ first :: (earlier ++ [line]), ¬crlf <:+: l) ∧ ∀ l ∈ earlier ++ [line], l ≠ [] := by
  unfold headerLines at hblock
  -- the visited lines are those before the first empty one
  have hfull : ∀ l ∈ earlier ++ [line], l ≠ [] := fun l hl => by
    have hl' : l ∈ ((terminatedLines crlf request).drop 1).takeWhile (· ≠ []) := by
      rw [hblock]
      rcases List.mem_append.mp hl with hl | hl
      · exact List.mem_append_left _ hl
      · exact List.mem_append_right _ (by simpa using Or.inl (List.mem_singleton.mp hl))
    simpa using List.mem_takeWhile_imp hl'
  obtain ⟨after, hafter⟩ := List.takeWhile_prefix (l := (terminatedLines crlf request).drop 1)
    fun l => decide (l ≠ [])
  rw [hblock] at hafter
  -- the first line is the request line, which is not visited
  cases hlines : terminatedLines crlf request with
  | nil => simp [hlines] at hafter
  | cons first lines =>
      rw [hlines, List.drop_one, List.tail_cons] at hafter
      have hsplit : terminatedLines crlf request =
          (first :: earlier) ++ line :: (later ++ after) := by
        rw [hlines, ← hafter]
        simp
      obtain ⟨⟨rest, htext⟩, hfree⟩ := eq_append_of_terminatedLines crlf_ne_nil hsplit
      exact ⟨first, rest, by simpa using htext, by simpa using hfree, hfull⟩

/-- A line of the header block is visited, after the lines before it. -/
theorem exists_headerLines_eq {first line : List Char} {earlier : List (List Char)}
    (rest : List Char) (hfree : ∀ l ∈ first :: (earlier ++ [line]), ¬crlf <:+: l)
    (hfull : ∀ l ∈ earlier ++ [line], l ≠ []) :
    ∃ later, headerLines
      (first ++ crlf ++ earlier.flatMap (· ++ crlf) ++ line ++ crlf ++ rest) =
        earlier ++ line :: later := by
  have hlines : terminatedLines crlf
      (first ++ crlf ++ earlier.flatMap (· ++ crlf) ++ line ++ crlf ++ rest) =
        first :: (earlier ++ line :: terminatedLines crlf rest) := by
    have hflat : first ++ crlf ++ earlier.flatMap (· ++ crlf) ++ line ++ crlf ++ rest =
        (first :: (earlier ++ [line])).flatMap (· ++ crlf) ++ rest := by
      simp
    rw [hflat, terminatedLines_flatMap_append _ crlf_ne_nil fun l hl =>
      not_crlf_infix_append (hfree l hl)]
    simp
  have hall : ∀ l ∈ earlier ++ [line], decide (l ≠ []) = true := fun l hl =>
    decide_eq_true (hfull l hl)
  have happend : earlier ++ line :: terminatedLines crlf rest =
      (earlier ++ [line]) ++ terminatedLines crlf rest := by
    simp
  refine ⟨(terminatedLines crlf rest).takeWhile (· ≠ []), ?_⟩
  rw [headerLines, hlines, List.drop_one, List.tail_cons, happend,
    List.takeWhile_append_of_pos hall, List.append_assoc, List.singleton_append]

theorem inHeaderBlock_iff {request line : List Char} :
    InHeaderBlock request line ↔ line ∈ headerLines request := by
  constructor
  · rintro ⟨first, earlier, rest, rfl, hfree, hfull⟩
    obtain ⟨later, hlines⟩ := exists_headerLines_eq rest hfree hfull
    rw [hlines]
    simp
  · intro hmem
    obtain ⟨earlier, later, hblock⟩ := List.append_of_mem hmem
    obtain ⟨first, rest, h⟩ := exists_block_of_headerLines hblock
    exact ⟨first, earlier, rest, h⟩

theorem headerLineValue_eq_some_iff {name line value : List Char} :
    headerLineValue name line = some value ↔
      ∃ written blanks, line = written ++ ':' :: (blanks ++ value) ∧ ':' ∉ written ∧
        sameIgnoringCase written name ∧ (∀ c ∈ blanks, c = ' ' ∨ c = '\t') ∧
          ∀ c ∈ value.head?, c ≠ ' ' ∧ c ≠ '\t' := by
  unfold headerLineValue
  constructor
  · intro h
    split at h
    · rename_i headerName text hfound
      -- the name ends at the first colon, and the value begins behind the blanks
      have hfirst := firstAt_of_splitAtFirst (List.cons_ne_nil _ _) hfound
      obtain rfl := hfirst.1
      split at h
      · rename_i hsame
        obtain rfl : text.dropWhile (fun c => c = ' ' || c = '\t') = value := by simpa using h
        refine ⟨headerName, text.takeWhile fun c => c = ' ' || c = '\t', ?_, ?_, hsame, ?_, ?_⟩
        · simp
        · exact hfirst.not_mem
        · intro c hc
          simpa using List.mem_takeWhile_imp hc
        · intro c hc
          have hhead := List.head?_dropWhile_not (fun c => c = ' ' || c = '\t') text
          rw [Option.mem_def.mp hc] at hhead
          simpa using hhead
      · cases h
    · cases h
  · rintro ⟨written, blanks, rfl, hcolon, hsame, hblanks, hvalue⟩
    have hfound : splitAtFirst [':'] (written ++ ':' :: (blanks ++ value)) =
        some (written, blanks ++ value) :=
      (splitAtFirst_eq_some_iff (List.cons_ne_nil _ _)).mpr
        ⟨by simp, not_singleton_infix_of_not_mem hcolon⟩
    have hall : ∀ c ∈ blanks, (decide (c = ' ') || decide (c = '\t')) = true := fun c hc => by
      simpa using hblanks c hc
    -- the value begins with no blank, so no more than the blanks is skipped
    have hstop : value.dropWhile (fun c => c = ' ' || c = '\t') = value := by
      cases value with
      | nil => rfl
      | cons c value =>
          have hc := hvalue c rfl
          exact List.dropWhile_cons_of_neg (by simp [hc.1, hc.2])
    simp only [hfound, hsame, if_true, List.dropWhile_append_of_pos hall, hstop]

theorem hasHeader_iff {request name value : List Char} :
    HasHeader request name value ↔
      value ∈ (headerLines request).filterMap (headerLineValue name) := by
  rw [List.mem_filterMap]
  constructor
  · rintro ⟨written, blanks, hline, h⟩
    exact ⟨_, inHeaderBlock_iff.mp hline,
      headerLineValue_eq_some_iff.mpr ⟨written, blanks, rfl, h⟩⟩
  · rintro ⟨line, hline, hvalue⟩
    obtain ⟨written, blanks, rfl, h⟩ := headerLineValue_eq_some_iff.mp hvalue
    exact ⟨written, blanks, inHeaderBlock_iff.mpr hline, h⟩

/-- A header the scan finds is one of the header block. -/
theorem hasHeader_headerValue {request name : List Char} (h : headerValue request name ≠ []) :
    HasHeader request name (headerValue request name) := by
  rw [hasHeader_iff, List.mem_filterMap]
  unfold headerValue at h ⊢
  cases hfound : (headerLines request).findSome? (headerLineValue name) with
  | none => simp [hfound] at h
  | some value =>
      obtain ⟨line, hline, hvalue⟩ := List.exists_of_findSome?_eq_some hfound
      exact ⟨line, hline, hvalue⟩

/-! ### Parameters -/

/-- What follows `key=` gives a text: in quotes, in quotes that nothing closes,
or as a token that a comma or the end of the header ends. -/
inductive ParameterText : List Char → List Char → Prop
  | quoted {text rest : List Char} (hfree : '"' ∉ text) :
      ParameterText ('"' :: (text ++ '"' :: rest)) text
  | unclosed {text : List Char} (hfree : '"' ∉ text) : ParameterText ('"' :: text) text
  | token {text spaces rest : List Char} (hunquoted : '"' ∉ text.head?) (hfree : ',' ∉ text)
      (hlast : ' ' ∉ text.getLast?) (hspaces : ∀ c ∈ spaces, c = ' ')
      (hrest : ∀ c ∈ rest.head?, c = ',') : ParameterText (text ++ spaces ++ rest) text

/-- The text that follows the first textual `key=` of a header. It is the header's
parameter of that name only where nothing before the parameter holds `key=`. -/
def Gives (auth key text : List Char) : Prop :=
  ∃ before rest, FirstAt (key ++ ['=']) auth before rest ∧ ParameterText rest text

/-- The same, with the empty text for a `key=` that stands nowhere. -/
def Reads (auth key text : List Char) : Prop :=
  Gives auth key text ∨ ¬(key ++ ['=']) <:+: auth ∧ text = []

theorem gives_of_reads {auth key text : List Char} (h : Reads auth key text) (hne : text ≠ []) :
    Gives auth key text :=
  h.resolve_right fun hnowhere => hne hnowhere.2

theorem rdropWhile_append_of_pos {p : Char → Bool} {text tail : List Char}
    (htail : ∀ c ∈ tail, p c) : (text ++ tail).rdropWhile p = text.rdropWhile p := by
  unfold List.rdropWhile
  rw [List.reverse_append,
    List.dropWhile_append_of_pos fun c hc => htail c (List.mem_reverse.mp hc)]

theorem parameterText_of_unquoted {rest : List Char} (h : '"' ∉ rest.head?) :
    parameterText rest = (rest.takeWhile (· ≠ ',')).rdropWhile (· = ' ') := by
  unfold parameterText
  split
  · simp at h
  · rfl

theorem ParameterText.eq {rest text : List Char} (h : ParameterText rest text) :
    parameterText rest = text := by
  cases h with
  | quoted hfree => exact takeWhile_ne_append_cons hfree
  | unclosed hfree => exact takeWhile_ne_eq_self hfree
  | @token _ spaces tail hunquoted hfree hlast hspaces hrest =>
      -- an unquoted text is not read as a quoted one, also if it is empty
      have hhead : '"' ∉ (text ++ spaces ++ tail).head? := by
        cases text with
        | cons c text => simpa using hunquoted
        | nil =>
            cases spaces with
            | cons c spaces =>
                obtain rfl := hspaces c (List.mem_cons_self ..)
                simp
            | nil =>
                intro hquote
                cases hrest _ hquote
      -- it ends at the comma, and the spaces before that are dropped
      have hcomma : ',' ∉ text ++ spaces := fun hmem => by
        rcases List.mem_append.mp hmem with hmem | hmem
        · exact hfree hmem
        · cases hspaces _ hmem
      have htake : (text ++ spaces ++ tail).takeWhile (· ≠ ',') = text ++ spaces := by
        cases tail with
        | nil => rw [List.append_nil, takeWhile_ne_eq_self hcomma]
        | cons c tail =>
            obtain rfl := hrest c rfl
            exact takeWhile_ne_append_cons hcomma
      have hstrip : (text ++ spaces).rdropWhile (· = ' ') = text := by
        rw [rdropWhile_append_of_pos fun c hc => decide_eq_true (hspaces c hc)]
        refine List.rdropWhile_eq_self_iff.mpr fun hne => ?_
        rw [List.getLast?_eq_some_getLast hne] at hlast
        simpa [eq_comm] using hlast
      rw [parameterText_of_unquoted hhead, htake, hstrip]

theorem parameterText_spec (rest : List Char) : ParameterText rest (parameterText rest) := by
  by_cases hquote : '"' ∈ rest.head?
  · obtain ⟨tail, rfl⟩ := List.head?_eq_some_iff.mp (Option.mem_def.mp hquote)
    have hfree := not_mem_takeWhile_ne tail '"'
    have htext : parameterText ('"' :: tail) = tail.takeWhile (· ≠ '"') := rfl
    rw [htext]
    rcases eq_takeWhile_append tail '"' with hall | ⟨after, hsplit⟩
    · have hunclosed := ParameterText.unclosed hfree
      rwa [← hall] at hunclosed ⊢
    · have hquoted := @ParameterText.quoted _ after hfree
      rwa [← hsplit] at hquoted
  · rw [parameterText_of_unquoted hquote]
    -- the token is what precedes the comma; its trailing spaces are cut off
    have htoken := @ParameterText.token
      ((rest.takeWhile (· ≠ ',')).rdropWhile (· = ' '))
      ((rest.takeWhile (· ≠ ',')).rtakeWhile (· = ' '))
      (rest.dropWhile (· ≠ ',')) ?_ ?_ ?_ ?_ ?_
    · rwa [List.rdropWhile_append_rtakeWhile, List.takeWhile_append_dropWhile] at htoken
    · intro hmem
      have hstarts := (List.rdropWhile_prefix (p := fun c => decide (c = ' '))
        (rest.takeWhile (· ≠ ','))).trans (List.takeWhile_prefix _)
      obtain ⟨tail, htail⟩ := List.head?_eq_some_iff.mp (Option.mem_def.mp hmem)
      rw [htail] at hstarts
      obtain ⟨after, rfl⟩ := hstarts
      exact hquote rfl
    · exact fun hmem => not_mem_takeWhile_ne rest ',' ((List.rdropWhile_prefix _ _).subset hmem)
    · intro hmem
      have hne : (rest.takeWhile (· ≠ ',')).rdropWhile (· = ' ') ≠ [] := by
        intro hnil
        rw [hnil] at hmem
        cases hmem
      have hlast := List.rdropWhile_last_not _ _ hne
      rw [List.getLast?_eq_some_getLast hne, Option.mem_some_iff] at hmem
      exact hlast (decide_eq_true hmem)
    · intro c hc
      simpa using List.mem_rtakeWhile_imp hc
    · intro c hc
      have hhead := List.head?_dropWhile_not (fun c => decide (c ≠ ',')) rest
      rw [Option.mem_def.mp hc] at hhead
      simpa using hhead

theorem reads_iff {auth key text : List Char} :
    Reads auth key text ↔ digestValue auth key = text := by
  have hne : key ++ ['='] ≠ [] := by simp
  unfold Reads Gives digestValue
  cases hfound : splitAtFirst (key ++ ['=']) auth with
  | none =>
      have hnowhere := (splitAtFirst_eq_none_iff hne).mp hfound
      constructor
      · rintro (⟨before, rest, hfirst, -⟩ | ⟨-, rfl⟩)
        · exact absurd hfirst.isInfix hnowhere
        · rfl
      · rintro rfl
        exact Or.inr ⟨hnowhere, rfl⟩
  | some found =>
      have hfirst := firstAt_of_splitAtFirst hne hfound
      constructor
      · rintro (⟨before, rest, hother, htext⟩ | ⟨hnowhere, -⟩)
        · rw [(splitAtFirst_eq_some_iff hne).mpr hother] at hfound
          cases hfound
          exact htext.eq
        · exact absurd hfirst.isInfix hnowhere
      · rintro rfl
        exact Or.inl ⟨found.1, found.2, hfirst, parameterText_spec _⟩

end Tr069d
