import Mathlib.Data.List.DropRight
import Tr069d.Text.Numerals
import Tr069d.Transformer.DeviceMap

/-!
# Validation of a value

`normalize` and `validate_declared_type` of `transformer.lua`.

A value is refused for its length, then normalised by its type, and then compared with
the range and the enumeration of the map.  The pattern of a time is only anchored at its
start, and a number has no upper bound where the map gives no range.
-/

namespace Tr069d

/-- `tonumber` on the texts that reach it: every spec with a range is an
`unsignedInt`, so that they all match `^%d+$` (`isDecimal_of_range`). -/
def tonumber (value : String) : Option Nat :=
  if isDecimal value.toList then some (decimalValue value.toList) else none

/-- The pattern `^%d%d%d%d%-%d%d%-%d%dT%d%d:%d%d:%d%d`, with `d` for `%d`. -/
def dateTimePattern : List Char :=
  "dddd-dd-ddTdd:dd:dd".toList

/-- Whether a prefix of the text matches the pattern. -/
def matchesPrefix : List Char → List Char → Bool
  | [], _ => true
  | _ :: _, [] => false
  | 'd' :: pattern, c :: text => c.isDigit && matchesPrefix pattern text
  | p :: pattern, c :: text => (p == c) && matchesPrefix pattern text

/-- The branch of `normalize` on the type. -/
def normalizeType (type : ParameterType) (value : String) : Except String String :=
  match type with
  | .string => .ok value
  | .boolean =>
      let lower := value.toList.map Char.toLower
      if lower ∈ ["1", "true", "yes", "on"].map String.toList then .ok "true"
      else if lower ∈ ["0", "false", "no", "off"].map String.toList then .ok "false"
      else .error "expected boolean"
  | .unsignedInt => if isDecimal value.toList then .ok value else .error "expected unsignedInt"
  | .int =>
      match value.toList with
      | '-' :: digits => if isDecimal digits then .ok value else .error "expected int"
      | digits => if isDecimal digits then .ok value else .error "expected int"
  | .dateTime =>
      if matchesPrefix dateTimePattern value.toList then .ok value
      else .error "expected ISO-8601 dateTime"

/-- `spec.range and tonumber(value)`, and no range contains it. -/
def outsideRange (spec : Spec) (value : String) : Bool :=
  match spec.range, tonumber value with
  | some ranges, some number => !ranges.any fun range => range.min ≤ number && number ≤ range.max
  | _, _ => false

def outsideEnumeration (spec : Spec) (value : String) : Bool :=
  match spec.enumeration with
  | some items => !items.contains value
  | none => false

def normalize (spec : Spec) (raw : String) : Except String String :=
  if spec.required && raw == "" then .error "value is required"
  else if spec.max.any (· < raw.length) then .error "value exceeds maximum length"
  else
    match normalizeType spec.type raw with
    | .error message => .error message
    | .ok value =>
        if outsideRange spec value then .error "value outside allowed range"
        else if outsideEnumeration spec value then .error "value not in enumeration"
        else .ok value

theorem normalizeType_of_normalize {spec : Spec} {raw value : String}
    (h : normalize spec raw = .ok value) : normalizeType spec.type raw = .ok value := by
  unfold normalize at h
  split_ifs at h
  split at h
  · cases h
  · split_ifs at h
    cases h
    assumption

/-- Only a boolean is rewritten. -/
theorem eq_of_normalizeType {type : ParameterType} (htype : type ≠ .boolean)
    {raw value : String} (h : normalizeType type raw = .ok value) : value = raw := by
  cases type with
  | boolean => exact absurd rfl htype
  | string => exact (Except.ok.inj h).symm
  | unsignedInt =>
      simp only [normalizeType] at h
      split_ifs at h
      exact (Except.ok.inj h).symm
  | int =>
      simp only [normalizeType] at h
      split at h <;> split_ifs at h <;> exact (Except.ok.inj h).symm
  | dateTime =>
      simp only [normalizeType] at h
      split_ifs at h
      exact (Except.ok.inj h).symm

/-- `declared:match("([^:]+)$") or declared` -/
def localTypeName (declared : String) : String :=
  match declared.toList.rtakeWhile (· ≠ ':') with
  | [] => declared
  | tail => String.ofList tail

/-- The error message, if the declared type does not fit. -/
def validateDeclaredType (spec : Spec) (declared : String) : Option String :=
  if declared == "" then none
  else if localTypeName declared ≠ spec.type.name then
    some ("type mismatch: expected " ++ spec.type.name ++ ", received " ++ localTypeName declared)
  else none

/-- In the shipped map only an `unsignedInt` has a range. -/
theorem type_eq_unsignedInt_of_range {path : String} {spec : Spec}
    (hlookup : deviceMap.lookup path = some spec) (hrange : spec.range ≠ none) :
    spec.type = .unsignedInt :=
  deviceMap.of_lookup_eq_some (P := fun spec => spec.range ≠ none → spec.type = .unsignedInt)
    (by decide) hlookup hrange

/-- So `tonumber` in the range check only sees decimal numerals. -/
theorem isDecimal_of_range {path : String} {spec : Spec} {raw value : String}
    (hlookup : deviceMap.lookup path = some spec) (hrange : spec.range ≠ none)
    (hvalue : normalizeType spec.type raw = .ok value) : isDecimal value.toList := by
  rw [type_eq_unsignedInt_of_range hlookup hrange] at hvalue
  simp only [normalizeType] at hvalue
  split_ifs at hvalue with hdecimal
  · rwa [← Except.ok.inj hvalue]

end Tr069d
