import Tr069d.ConnectionRequest.Grammar

/-!
# The parameters of a header

`Gives` and `Reads` speak of the text that the scan for `key=` stops at. This
module speaks of the parameters that a client writes into an `Authorization`
value, `Digest name=value, name="value", ...`, and says when the two agree.

* `HeaderParameter`: a name and a value, in quotes or as a token, with spaces
  around; `digestHeader` joins a list of them with commas.
* `Unshadowed`: nothing written before the parameter of a name holds the name
  followed by `=`, neither the end of another name nor another value.
* `firstAt_parameter`: then the first `key=` is the one of that parameter, and
  `parameterText_written` says what the scan takes from there.
* `digestValue_digestHeader`: an unshadowed name reads as its parameter's value,
  and as the empty text where the list has no parameter of that name.

The lemmas about texts ask nothing of who wrote the header; `Answer` uses them
for the header of a client that knows the credentials, `authenticates_of_accepted` for
the header of any client.
-/

namespace Tr069d

/-- A text a client can write without quotes. -/
def IsToken (text : List Char) : Prop :=
  '"' ∉ text ∧ ',' ∉ text ∧ ' ' ∉ text

instance (text : List Char) : Decidable (IsToken text) :=
  inferInstanceAs (Decidable (_ ∧ _))

/-- A name in front of an equals sign. -/
def IsParameterName (text : List Char) : Prop :=
  IsToken text ∧ '=' ∉ text

instance (text : List Char) : Decidable (IsParameterName text) :=
  inferInstanceAs (Decidable (_ ∧ _))

/-! ### Where the scan stops -/

/-- An `Authorization` value up to the end of `stem`, after the texts of earlier
parameters and some spaces. -/
def headerUpTo (earlier : List (List Char)) (spaces : Nat) (stem : List Char) : List Char :=
  "Digest ".toList ++ (earlier.flatMap (· ++ [',']) ++ (List.replicate spaces ' ' ++ stem))

/-- Where no earlier parameter holds `key=`, nothing before a name does. -/
theorem not_needle_infix_headerUpTo {key stem : List Char} {earlier : List (List Char)}
    {spaces : Nat} (hkey : IsParameterName key) (hstem : '=' ∉ stem)
    (hearlier : ∀ text ∈ earlier, ¬key ++ ['='] <:+: text) :
    ¬key ++ ['='] <:+: headerUpTo earlier spaces stem ++ key := by
  intro hstands
  obtain ⟨⟨-, hcomma, hspace⟩, hequals⟩ := hkey
  have hcomma' : ',' ∉ key ++ ['='] := by simp [hcomma]
  have hspace' : ' ' ∉ key ++ ['='] := by simp [hspace]
  have hmem : '=' ∈ key ++ ['='] := by simp
  -- a name holds no `=`, so the whole `key=` stands before it
  have hbefore : key ++ ['='] <:+: headerUpTo earlier spaces stem :=
    infix_of_infix_append hequals hstands
  have hdigest : headerUpTo earlier spaces stem = "Digest".toList ++ ' ' ::
      (earlier.flatMap (· ++ [',']) ++ (List.replicate spaces ' ' ++ stem)) := rfl
  rw [hdigest] at hbefore
  -- the blank after the scheme and the commas cut the header into its parts
  rcases infix_or_infix_of_separated hspace' hbefore with hscheme | hrest
  · exact absurd (hscheme.subset hmem) (by decide)
  rcases exists_infix_of_infix_flatMap hcomma' hrest with ⟨text, htext, hneedle⟩ | hname
  · exact hearlier text htext hneedle
  · rcases List.mem_append.mp (hname.subset hmem) with hblank | hinside
    · exact absurd (List.eq_of_mem_replicate hblank) (by decide)
    · exact hstem hinside

/-- Where no earlier parameter holds `key=`, the first `key=` is that of a
parameter whose name ends with the key. -/
theorem firstAt_parameter {key stem rest written : List Char} {earlier later : List (List Char)}
    {spaces : Nat} (hkey : IsParameterName key) (hstem : '=' ∉ stem)
    (hwritten : written = List.replicate spaces ' ' ++ (stem ++ key) ++ '=' :: rest)
    (hearlier : ∀ text ∈ earlier, ¬key ++ ['='] <:+: text) :
    FirstAt (key ++ ['=']) ("Digest ".toList ++ [','].intercalate (earlier ++ written :: later))
      (headerUpTo earlier spaces stem) (rest ++ later.flatMap ([','] ++ ·)) := by
  refine ⟨?_, ?_⟩
  · rw [intercalate_append_cons, hwritten]
    unfold headerUpTo
    generalize "Digest ".toList = scheme
    simp only [List.append_assoc, List.cons_append, List.nil_append]
  · rw [List.dropLast_concat]
    exact not_needle_infix_headerUpTo hkey hstem hearlier

/-- What follows the `=` of a parameter reads as its value. -/
theorem parameterText_written {quoted : Bool} {value : List Char} {after : Nat}
    (hquotable : quoted = true → '"' ∉ value) (htoken : quoted = false → IsToken value)
    (later : List (List Char)) :
    ParameterText
      ((if quoted then '"' :: (value ++ ['"']) else value) ++ List.replicate after ' ' ++
        later.flatMap ([','] ++ ·)) value := by
  cases hquoted : quoted with
  | true =>
      have h := @ParameterText.quoted value
        (List.replicate after ' ' ++ later.flatMap ([','] ++ ·)) (hquotable hquoted)
      simpa using h
  | false =>
      obtain ⟨hquote, hcomma, hspace⟩ := htoken hquoted
      refine ParameterText.token ?_ hcomma ?_ (fun c hc => List.eq_of_mem_replicate hc) ?_
      · exact fun hmem => hquote (List.mem_of_head? hmem)
      · exact fun hmem => hspace (List.mem_of_getLast? hmem)
      · cases later <;> simp

/-! ### A header as a list of parameters -/

/-- A parameter as a client writes it: a name and its value, in quotes or as a
token, with spaces around. -/
structure HeaderParameter where
  name : List Char
  value : List Char
  quoted : Bool
  before : Nat := 1
  after : Nat := 0
  isName : IsParameterName name
  quotable : quoted = true → '"' ∉ value
  isToken : quoted = false → IsToken value

def HeaderParameter.written (p : HeaderParameter) : List Char :=
  List.replicate p.before ' ' ++ p.name ++ '=' ::
    ((if p.quoted then '"' :: (p.value ++ ['"']) else p.value) ++ List.replicate p.after ' ')

/-- An `Authorization` value with these parameters. -/
def digestHeader (parameters : List HeaderParameter) : List Char :=
  "Digest ".toList ++ [','].intercalate (parameters.map HeaderParameter.written)

/-- The value of the first parameter of a name. -/
def valueOf (parameters : List HeaderParameter) (name : List Char) : Option (List Char) :=
  (parameters.find? (·.name = name)).map (·.value)

/-- Nothing written before the parameter of a name holds the name and an equals
sign; where there is no such parameter, nothing in the header does. -/
def Unshadowed (parameters : List HeaderParameter) (name : List Char) : Prop :=
  ∀ p ∈ parameters.takeWhile (·.name ≠ name), ¬name ++ ['='] <:+: p.written

instance (parameters : List HeaderParameter) (name : List Char) :
    Decidable (Unshadowed parameters name) :=
  inferInstanceAs (Decidable (∀ p ∈ _, _))

variable {parameters : List HeaderParameter} {name : List Char}

/-- The first parameter of a name is the one read, where none before it holds the
name and an equals sign. -/
theorem gives_of_split {p : HeaderParameter} {earlier later : List HeaderParameter}
    (hearlier : ∀ q ∈ earlier, ¬p.name ++ ['='] <:+: q.written) :
    Gives (digestHeader (earlier ++ p :: later)) p.name p.value := by
  have hwritten : p.written = List.replicate p.before ' ' ++ ([] ++ p.name) ++ '=' ::
      ((if p.quoted then '"' :: (p.value ++ ['"']) else p.value) ++ List.replicate p.after ' ') :=
    rfl
  have hearlier' : ∀ text ∈ earlier.map HeaderParameter.written, ¬p.name ++ ['='] <:+: text :=
    List.forall_mem_map.mpr hearlier
  have hfirst := @firstAt_parameter _ _ _ _ _ (later.map HeaderParameter.written) _ p.isName
    List.not_mem_nil hwritten hearlier'
  rw [← List.map_cons, ← List.map_append] at hfirst
  exact ⟨_, _, hfirst, parameterText_written p.quotable p.isToken _⟩

/-- A name that no written parameter holds stands nowhere in the header. -/
theorem not_infix_digestHeader (hname : IsParameterName name)
    (hnone : ∀ p ∈ parameters, ¬name ++ ['='] <:+: p.written) :
    ¬name ++ ['='] <:+: digestHeader parameters := by
  intro hstands
  rcases List.eq_nil_or_concat' parameters with rfl | ⟨earlier, last, rfl⟩
  · have hmem : '=' ∈ digestHeader [] := hstands.subset (by simp)
    exact absurd hmem (by decide)
  have hheader : digestHeader (earlier ++ [last]) = "Digest".toList ++ ' ' ::
      ((earlier.map HeaderParameter.written).flatMap (· ++ [',']) ++ last.written) := by
    have hjoined : [','].intercalate ((earlier ++ [last]).map HeaderParameter.written) =
        (earlier.map HeaderParameter.written).flatMap (· ++ [',']) ++ last.written := by
      rw [List.map_append, List.map_singleton, intercalate_append_cons, List.flatMap_nil,
        List.append_nil]
    have hblank : "Digest ".toList = "Digest".toList ++ [' '] := by decide
    unfold digestHeader
    rw [hjoined, hblank]
    exact (List.append_cons _ _ _).symm
  rw [hheader] at hstands
  -- a name and its equals sign hold neither a blank nor a comma
  rcases infix_or_infix_of_separated (by simp [hname.1.2.2]) hstands with hscheme | hrest
  · have hmem : '=' ∈ "Digest".toList := hscheme.subset (by simp)
    exact absurd hmem (by decide)
  rcases exists_infix_of_infix_flatMap (by simp [hname.1.2.1]) hrest with ⟨text, htext, h⟩ | h
  · obtain ⟨p, hp, rfl⟩ := List.mem_map.mp htext
    exact hnone p (List.mem_append_left _ hp) h
  · exact hnone last (by simp) h

/-- An unshadowed name reads as the value of its parameter, or as the empty text
where the header has none. -/
theorem digestValue_digestHeader (hname : IsParameterName name) (h : Unshadowed parameters name) :
    digestValue (digestHeader parameters) name = (valueOf parameters name).getD [] := by
  cases hfound : parameters.find? (·.name = name) with
  | none =>
      have habsent : ∀ p ∈ parameters, p.name ≠ name := by
        simpa using List.find?_eq_none.mp hfound
      have hall : parameters.takeWhile (·.name ≠ name) = parameters :=
        List.takeWhile_eq_self_iff.mpr fun p hp => decide_eq_true (habsent p hp)
      unfold Unshadowed at h
      rw [hall] at h
      rw [valueOf, hfound]
      exact reads_iff.mp (Or.inr ⟨not_infix_digestHeader hname h, rfl⟩)
  | some p =>
      obtain ⟨hp, earlier, later, rfl, hearlier⟩ := List.find?_eq_some_iff_append.mp hfound
      obtain rfl : p.name = name := by simpa using hp
      have hbefore : (earlier ++ p :: later).takeWhile (·.name ≠ p.name) = earlier := by
        rw [List.takeWhile_append_of_pos fun q hq => by simpa using hearlier q hq]
        simp
      unfold Unshadowed at h
      rw [hbefore] at h
      rw [valueOf, hfound]
      exact reads_iff.mp (Or.inl (gives_of_split h))

end Tr069d
