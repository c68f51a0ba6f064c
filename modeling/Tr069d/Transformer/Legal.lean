import Tr069d.Transformer.AllOrNothing
import Tr069d.Transformer.Alone

/-!
# Which values are legal

The values a parameter may have, by its type.  `normalize` accepts every legal
value as it is (`normalize_of_legal`), and what it accepts is legal with two
exceptions (`Slips`): the pattern of a `dateTime` looks at the first 19
characters only and not at the numbers in them, and an `unsignedInt` without a
range has no bound.

Stripping the line breaks at its end, as every `uci get` does, keeps a value
legal unless nothing is left of a required one (`legal_printed`).
-/

namespace Tr069d

/-! ## Dates -/

/-- The number in `length` characters of the text. -/
def numberAt (text : List Char) (start length : Nat) : Nat :=
  decimalValue ((text.drop start).take length)

def isLeapYear (year : Nat) : Bool :=
  year % 4 = 0 && (year % 100 ≠ 0 || year % 400 = 0)

def daysInMonth (year month : Nat) : Nat :=
  if month = 2 then (if isLeapYear year then 29 else 28)
  else if month ∈ [4, 6, 9, 11] then 30
  else 31

/-- What follows the fraction of the seconds, if it is well formed. -/
def dropFraction : List Char → Option (List Char)
  | '.' :: rest =>
      if (rest.takeWhile Char.isDigit).isEmpty then none else some (rest.dropWhile Char.isDigit)
  | rest => some rest

/-- Nothing, `Z` or an offset. -/
def isZone : List Char → Bool
  | [] => true
  | ['Z'] => true
  | [sign, h, h', ':', m, m'] =>
      (sign = '+' || sign = '-') && [h, h', m, m'].all Char.isDigit &&
        decimalValue [h, h'] < 24 && decimalValue [m, m'] < 60
  | _ => false

/-- A complete date and time of ISO 8601, with an optional fraction and zone. -/
def isDateTime (text : List Char) : Bool :=
  matchesPrefix dateTimePattern text &&
    1 ≤ numberAt text 5 2 && numberAt text 5 2 ≤ 12 &&
    1 ≤ numberAt text 8 2 &&
    numberAt text 8 2 ≤ daysInMonth (numberAt text 0 4) (numberAt text 5 2) &&
    numberAt text 11 2 < 24 && numberAt text 14 2 < 60 && numberAt text 17 2 < 60 &&
    (dropFraction (text.drop 19)).any isZone

example : isDateTime "2024-02-29T23:59:59.5+01:00".toList = true := by decide

example : isDateTime "2023-02-29T00:00:00Z".toList = false := by decide

/-! ## Legal values -/

/-- A legal value of a parameter. -/
def Legal (spec : Spec) (value : String) : Prop :=
  match spec.type with
  | .string =>
      (∀ max, spec.max = some max → value.length ≤ max) ∧ (spec.required = true → value ≠ "") ∧
        ∀ items, spec.enumeration = some items → value ∈ items
  | .boolean => value = "true" ∨ value = "false"
  | .unsignedInt =>
      isDecimal value.toList = true ∧ decimalValue value.toList ≤ 4294967295 ∧
        ∀ ranges, spec.range = some ranges →
          ∃ range ∈ ranges, range.min ≤ decimalValue value.toList ∧
            decimalValue value.toList ≤ range.max
  | .int => normalizeType .int value = .ok value
  | .dateTime => isDateTime value.toList = true

/-- A value that `normalize` lets through although it is not legal. -/
def Slips (spec : Spec) (raw : String) : Prop :=
  match spec.type with
  | .dateTime => matchesPrefix dateTimePattern raw.toList = true ∧ isDateTime raw.toList = false
  | .unsignedInt => spec.range = none ∧ isDecimal raw.toList = true ∧
      4294967295 < decimalValue raw.toList
  | _ => False

/-- What the specs of the shipped map have in common. -/
structure Regular (spec : Spec) : Prop where
  string : spec.type ≠ .string → spec.max = none ∧ spec.required = false ∧ spec.enumeration = none
  range : spec.type ≠ .unsignedInt → spec.range = none
  bounded : ∀ range ∈ spec.range.getD [], range.max ≤ 4294967295
  unbroken : ∀ item ∈ spec.enumeration.getD [], trimLineBreaks item = item

instance (spec : Spec) : Decidable (Regular spec) :=
  decidable_of_iff ((spec.type ≠ .string →
      spec.max = none ∧ spec.required = false ∧ spec.enumeration = none) ∧
    (spec.type ≠ .unsignedInt → spec.range = none) ∧
    (∀ range ∈ spec.range.getD [], range.max ≤ 4294967295) ∧
    ∀ item ∈ spec.enumeration.getD [], trimLineBreaks item = item)
    ⟨fun h => ⟨h.1, h.2.1, h.2.2.1, h.2.2.2⟩,
      fun h => ⟨h.string, h.range, h.bounded, h.unbroken⟩⟩

theorem regular_of_lookup {path : String} {spec : Spec}
    (hlookup : deviceMap.lookup path = some spec) : Regular spec :=
  deviceMap.of_lookup_eq_some (by decide) hlookup

/-! ## Normalizing -/

section Normalizing

variable {spec : Spec} {raw value : String}

theorem outsideRange_of_ne_unsignedInt (hregular : Regular spec)
    (htype : spec.type ≠ .unsignedInt) : outsideRange spec value = false := by
  rw [outsideRange, hregular.range htype]

/-- A number is checked against the ranges. -/
theorem outsideRange_eq_false_iff (hdecimal : isDecimal value.toList = true) :
    outsideRange spec value = false ↔ ∀ ranges, spec.range = some ranges →
      ∃ range ∈ ranges, range.min ≤ decimalValue value.toList ∧
        decimalValue value.toList ≤ range.max := by
  rw [outsideRange, tonumber, if_pos hdecimal]
  cases spec.range with
  | none => simp
  | some ranges =>
      simp only [Option.some.injEq, forall_eq', Bool.not_eq_false', List.any_eq_true,
        Bool.and_eq_true, decide_eq_true_eq]

/-- Other values than strings are checked for their type and their range. -/
theorem normalize_eq_ok_iff_of_ne_string (hregular : Regular spec) (htype : spec.type ≠ .string) :
    normalize spec raw = .ok value ↔
      normalizeType spec.type raw = .ok value ∧ outsideRange spec value = false := by
  obtain ⟨hmax, hrequired, henumeration⟩ := hregular.string htype
  simp only [normalize, hmax, hrequired, outsideEnumeration, henumeration, Bool.false_and,
    Bool.false_eq_true, if_false, Option.any_none]
  cases normalizeType spec.type raw with
  | error message => simp
  | ok normalized =>
      dsimp only
      split_ifs with hrange
      · constructor
        · intro h
          cases h
        · intro ⟨heq, hinside⟩
          rw [Except.ok.inj heq, hinside] at hrange
          cases hrange
      · constructor
        · intro heq
          exact ⟨heq, by rw [← Except.ok.inj heq]; simpa using hrange⟩
        · exact fun h => h.1

/-- A string is taken as it is, or refused. -/
theorem normalize_eq_ok_iff_of_string (hregular : Regular spec) (htype : spec.type = .string) :
    normalize spec raw = .ok value ↔ value = raw ∧ Legal spec raw := by
  have hrange := @outsideRange_of_ne_unsignedInt spec raw hregular (by simp [htype])
  have hmax : spec.max.any (· < raw.length) = false ↔ ∀ max, spec.max = some max →
      raw.length ≤ max := by
    cases spec.max <;> simp
  have hrequired : (spec.required && raw == "") = false ↔ (spec.required = true → raw ≠ "") := by
    cases spec.required <;> simp
  have henumeration : outsideEnumeration spec raw = false ↔
      ∀ items, spec.enumeration = some items → raw ∈ items := by
    rw [outsideEnumeration]
    cases spec.enumeration <;> simp
  simp only [normalize, htype, normalizeType, hrange, Legal, Bool.false_eq_true, if_false,
    ← hmax, ← hrequired, ← henumeration]
  split_ifs with hempty hlong hoff
  · simp [hempty]
  · simp [hlong]
  · simp [hoff]
  · simp only [Bool.not_eq_true] at hempty hlong hoff
    simp only [hempty, hlong, hoff, Except.ok.injEq, and_self, and_true]
    exact eq_comm

/-- A legal value is accepted, and it is its own normal form. -/
theorem normalize_of_legal (hregular : Regular spec) (hlegal : Legal spec value) :
    normalize spec value = .ok value := by
  -- by type, as both definitions are
  cases htype : spec.type with
  | string => exact (normalize_eq_ok_iff_of_string hregular htype).mpr ⟨rfl, hlegal⟩
  | boolean =>
      rw [normalize_eq_ok_iff_of_ne_string hregular (by simp [htype]), htype]
      simp only [Legal, htype] at hlegal
      refine ⟨?_, outsideRange_of_ne_unsignedInt hregular (by simp [htype])⟩
      rcases hlegal with rfl | rfl
      · decide
      · decide
  | unsignedInt =>
      rw [normalize_eq_ok_iff_of_ne_string hregular (by simp [htype]), htype]
      simp only [Legal, htype] at hlegal
      obtain ⟨hdecimal, -, hrange⟩ := hlegal
      exact ⟨if_pos hdecimal, (outsideRange_eq_false_iff hdecimal).mpr hrange⟩
  | int =>
      rw [normalize_eq_ok_iff_of_ne_string hregular (by simp [htype]), htype]
      simp only [Legal, htype] at hlegal
      exact ⟨hlegal, outsideRange_of_ne_unsignedInt hregular (by simp [htype])⟩
  | dateTime =>
      rw [normalize_eq_ok_iff_of_ne_string hregular (by simp [htype]), htype]
      simp only [Legal, htype] at hlegal
      refine ⟨if_pos ?_, outsideRange_of_ne_unsignedInt hregular (by simp [htype])⟩
      -- the pattern of the code is the first part of what makes a time
      simp only [isDateTime, Bool.and_eq_true] at hlegal
      exact hlegal.1.1.1.1.1.1.1.1

/-- What is accepted is legal, unless it slips through. -/
theorem legal_of_normalize (hregular : Regular spec) (hslips : ¬Slips spec raw)
    (h : normalize spec raw = .ok value) : Legal spec value := by
  -- by type: only a number without range and a time can slip through
  cases htype : spec.type with
  | string =>
      obtain ⟨rfl, hlegal⟩ := (normalize_eq_ok_iff_of_string hregular htype).mp h
      exact hlegal
  | boolean =>
      rw [normalize_eq_ok_iff_of_ne_string hregular (by simp [htype]), htype] at h
      obtain ⟨hvalue, -⟩ := h
      simp only [normalizeType] at hvalue
      simp only [Legal, htype]
      split_ifs at hvalue
      · exact Or.inl (Except.ok.inj hvalue).symm
      · exact Or.inr (Except.ok.inj hvalue).symm
  | unsignedInt =>
      rw [normalize_eq_ok_iff_of_ne_string hregular (by simp [htype]), htype] at h
      obtain ⟨hvalue, hrange⟩ := h
      simp only [normalizeType] at hvalue
      split_ifs at hvalue with hdecimal
      rw [← Except.ok.inj hvalue] at hrange ⊢
      simp only [Slips, htype, hdecimal, true_and, not_and, Nat.not_lt] at hslips
      simp only [Legal, htype]
      have hinside := (outsideRange_eq_false_iff hdecimal).mp hrange
      refine ⟨hdecimal, ?_, hinside⟩
      -- the ranges of the map lie within 32 bits
      cases hranges : spec.range with
      | none => exact hslips hranges
      | some ranges =>
          obtain ⟨range, hmem, -, hmax⟩ := hinside ranges hranges
          exact hmax.trans (hregular.bounded range (by rw [hranges]; exact hmem))
  | int =>
      rw [normalize_eq_ok_iff_of_ne_string hregular (by simp [htype]), htype] at h
      obtain ⟨hvalue, -⟩ := h
      have hraw : value = raw := eq_of_normalizeType (by simp) hvalue
      simp only [Legal, htype]
      rwa [hraw] at hvalue ⊢
  | dateTime =>
      rw [normalize_eq_ok_iff_of_ne_string hregular (by simp [htype]), htype] at h
      obtain ⟨hvalue, -⟩ := h
      simp only [normalizeType] at hvalue
      split_ifs at hvalue with hstart
      simp only [Slips, htype, hstart, true_and, Bool.not_eq_false] at hslips
      simp only [Legal, htype]
      rwa [← Except.ok.inj hvalue]

end Normalizing

/-! ## Reading a legal value -/

theorem isLineBreak_of_isDigit {c : Char} (h : c.isDigit = true) : isLineBreak c = false := by
  by_contra hbreak
  simp only [isLineBreak, Bool.not_eq_false, Bool.or_eq_true, decide_eq_true_eq] at hbreak
  rcases hbreak with rfl | rfl
  all_goals exact absurd h (by decide)

theorem isLineBreak_of_isDecimal {text : List Char} (h : isDecimal text = true) :
    ∀ c ∈ text, isLineBreak c = false := by
  intro c hc
  simp only [isDecimal, Bool.and_eq_true, List.all_eq_true] at h
  exact isLineBreak_of_isDigit (h.2 c hc)

/-- What a pattern without line breaks matches contains none. -/
theorem isLineBreak_of_matchesPrefix {pattern text : List Char}
    (hpattern : pattern.any isLineBreak = false) (h : matchesPrefix pattern text = true) :
    ∀ c ∈ text.take pattern.length, isLineBreak c = false := by
  induction pattern, text using matchesPrefix.induct with
  | case1 text => simp
  | case2 p pattern => cases h
  | case3 pattern c text ih =>
      simp only [matchesPrefix, Bool.and_eq_true] at h
      rw [List.any_cons, Bool.or_eq_false_iff] at hpattern
      rw [List.length_cons, List.take_succ_cons, List.forall_mem_cons]
      exact ⟨isLineBreak_of_isDigit h.1, ih hpattern.2 h.2⟩
  | case4 p pattern c text hdigit ih =>
      rw [List.any_cons, Bool.or_eq_false_iff] at hpattern
      rw [matchesPrefix, Bool.and_eq_true, beq_iff_eq] at h
      · rw [List.length_cons, List.take_succ_cons, List.forall_mem_cons]
        exact ⟨h.1 ▸ hpattern.1, ih hpattern.2 h.2⟩
      · exact hdigit

theorem isLineBreak_of_isZone {text : List Char} (h : isZone text = true) :
    ∀ c ∈ text, isLineBreak c = false := by
  unfold isZone at h
  split at h
  · simp
  · simp [isLineBreak]
  · simp only [Bool.and_eq_true, Bool.or_eq_true, decide_eq_true_eq, List.all_cons, List.all_nil,
      and_true] at h
    obtain ⟨⟨⟨hsign, hh, hh', hm, hm'⟩, -⟩, -⟩ := h
    simp only [List.forall_mem_cons, isLineBreak_of_isDigit hh, isLineBreak_of_isDigit hh',
      isLineBreak_of_isDigit hm, isLineBreak_of_isDigit hm', true_and]
    refine ⟨?_, by decide, by simp⟩
    rcases hsign with rfl | rfl
    · rfl
    · rfl
  · cases h

theorem isLineBreak_of_isDateTime {text : List Char} (h : isDateTime text = true) :
    ∀ c ∈ text, isLineBreak c = false := by
  simp only [isDateTime, Bool.and_eq_true] at h
  have hstart := isLineBreak_of_matchesPrefix rfl h.1.1.1.1.1.1.1.1
  have hrest := h.2
  intro c hc
  rw [← List.take_append_drop 19 text] at hc
  rcases List.mem_append.mp hc with hc | hc
  · exact hstart c hc
  · generalize text.drop 19 = rest at hrest hc
    unfold dropFraction at hrest
    split at hrest
    · rename_i rest'
      split_ifs at hrest
      · cases hrest
      · rcases List.mem_cons.mp hc with rfl | hc
        · rfl
        · rw [← List.takeWhile_append_dropWhile (p := Char.isDigit) (l := rest')] at hc
          rcases List.mem_append.mp hc with hc | hc
          · exact isLineBreak_of_isDigit (List.mem_takeWhile_imp hc)
          · exact isLineBreak_of_isZone hrest c hc
    · exact isLineBreak_of_isZone hrest c hc

theorem length_printed_le (value : String) : (printed value).length ≤ value.length := by
  rw [printed_eq_trimLineBreaks, trimLineBreaks, String.length_ofList, ← String.length_toList]
  exact (List.rdropWhile_prefix _ _).length_le

/-- Only a legal string may end with line breaks. -/
theorem noTrailingBreak_of_legal {spec : Spec} {value : String} (hstring : spec.type ≠ .string)
    (hlegal : Legal spec value) : NoTrailingBreak value := by
  -- every other type has an alphabet without line breaks
  cases htype : spec.type with
  | string => exact absurd htype hstring
  | boolean =>
      simp only [Legal, htype] at hlegal
      rcases hlegal with rfl | rfl
      · rfl
      · rfl
  | unsignedInt =>
      simp only [Legal, htype] at hlegal
      exact noTrailingBreak_of_forall (isLineBreak_of_isDecimal hlegal.1)
  | int =>
      simp only [Legal, htype, normalizeType] at hlegal
      apply noTrailingBreak_of_forall
      split at hlegal
      · rename_i digits hdigits
        split_ifs at hlegal with hdecimal
        rw [hdigits, List.forall_mem_cons]
        exact ⟨rfl, isLineBreak_of_isDecimal hdecimal⟩
      · split_ifs at hlegal with hdecimal
        exact isLineBreak_of_isDecimal hdecimal
  | dateTime =>
      simp only [Legal, htype] at hlegal
      exact noTrailingBreak_of_forall (isLineBreak_of_isDateTime hlegal)

/-- What is read of a legal value is legal, unless nothing is left of a required one. -/
theorem legal_printed {spec : Spec} {value : String} (hregular : Regular spec)
    (hlegal : Legal spec value) (hrequired : spec.required = true → printed value ≠ "") :
    Legal spec (printed value) := by
  by_cases htype : spec.type = .string
  · simp only [Legal, htype] at hlegal ⊢
    obtain ⟨hmax, -, henumeration⟩ := hlegal
    refine ⟨?_, hrequired, ?_⟩
    · intro max hsome
      exact (length_printed_le value).trans (hmax max hsome)
    · intro items hitems
      have hmem := henumeration items hitems
      have hunbroken : NoTrailingBreak value := by
        apply hregular.unbroken value
        rw [hitems]
        exact hmem
      rwa [printed_of_noTrailingBreak hunbroken]
  · rwa [printed_of_noTrailingBreak (noTrailingBreak_of_legal htype hlegal)]

end Tr069d
