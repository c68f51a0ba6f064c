import Tr069d.ConnectionRequest.Port
import Tr069d.Soap.Parser

/-!
# Numbers that are read from a text

Four places convert a text with `std::stoul` and narrow the result to an
`unsigned`: `UciAdapter::getUnsigned`, which looks whether the whole text was
taken, and the interval, the throttle and `DelaySeconds`, which do not.  What is
taken may come after blanks and a sign, and past 2^32 only its remainder is left.

* `takenNumeral` is what a conversion takes of a text, and `narrowed` what it makes of it.
* `HarmlessText` are the texts for which that is the number they denote.
* `conversions_iff` says for each of the four places that these are exactly the texts
  it treats as it should.
-/

namespace Tr069d

/-- The number that the whole text denotes, but at least `lower`, or the fallback. -/
def PlainOr (lower fallback : Nat) (text : String) (result : Nat) : Prop :=
  isDecimal text.toList = true ∧ decimalValue text.toList ≤ 4294967295 ∧
      result = max lower (decimalValue text.toList) ∨
    result = fallback

instance (lower fallback : Nat) (text : String) (result : Nat) :
    Decidable (PlainOr lower fallback text result) :=
  inferInstanceAs (Decidable (_ ∨ _))

/-- The sign and the numeral that a conversion takes, after blanks; `whole` says
that the rest of the text has to be the numeral. -/
def takenNumeral (whole : Bool) (text : String) : Bool × List Char :=
  let (negative, rest) := splitSign (text.toList.dropWhile isSpace)
  (negative, if whole then rest else rest.takeWhile Char.isDigit)

/-- The text is a decimal numeral below 2^32, or no number is taken from it, or
what is left of that number happens to be the fallback. -/
def HarmlessText (whole : Bool) (fallback : Nat) (text : String) : Prop :=
  isDecimal text.toList = true ∧ decimalValue text.toList < 2 ^ 32 ∨
    let (negative, digits) := takenNumeral whole text
    isDecimal digits = true → decimalValue digits < 2 ^ 64 →
      (if negative then 2 ^ 64 - decimalValue digits else decimalValue digits) % 2 ^ 32 = fallback

/-! ## What the conversions take -/

/-- The number that is taken, narrowed, or the fallback. -/
def narrowed (whole : Bool) (fallback : Nat) (text : String) : Nat :=
  let (negative, digits) := takenNumeral whole text
  if isDecimal digits = true ∧ decimalValue digits < 2 ^ 64 then
    (if negative then 2 ^ 64 - decimalValue digits else decimalValue digits) % 2 ^ 32
  else fallback

theorem toUnsigned_stoul (negative : Bool) (number : Nat) :
    toUnsigned (if negative then (2 ^ 64 - number) % 2 ^ 64 else number) =
      (if negative then 2 ^ 64 - number else number) % 2 ^ 32 := by
  cases negative with
  | true => exact Nat.mod_mod_of_dvd _ ⟨2 ^ 32, by decide⟩
  | false => rfl

theorem unsignedOf_eq_narrowed (text : String) (fallback : Nat) :
    UciAdapter.unsignedOf (some text) fallback = narrowed true fallback text := by
  rw [UciAdapter.unsignedOf_some]
  simp only [narrowed, takenNumeral, if_true, toUnsigned_stoul]

theorem stoulOr_eq_narrowed (text : String) (fallback : Nat) :
    stoulOr fallback text = narrowed false fallback text := by
  unfold stoulOr stoul narrowed takenNumeral
  generalize splitSign (text.toList.dropWhile isSpace) = parts
  obtain ⟨negative, rest⟩ := parts
  have hdigits : isDecimal (rest.takeWhile Char.isDigit) =
      !(rest.takeWhile Char.isDigit).isEmpty := by
    simp [isDecimal, List.all_takeWhile]
  dsimp only
  rw [if_neg Bool.false_ne_true, hdigits]
  cases hempty : (rest.takeWhile Char.isDigit).isEmpty with
  | true => rfl
  | false =>
      by_cases hfits : decimalValue (rest.takeWhile Char.isDigit) < 2 ^ 64
      · simp only [Bool.false_or, decide_eq_true_eq, Nat.not_le.mpr hfits, if_false, Bool.not_false,
          hfits, and_self, if_true, toUnsigned_stoul]
      · simp only [Bool.false_or, decide_eq_true_eq, Nat.not_lt.mp hfits, if_true, hfits,
          and_false, if_false]

/-- A decimal numeral is taken as it is. -/
theorem takenNumeral_of_isDecimal (whole : Bool) {text : String}
    (h : isDecimal text.toList = true) : takenNumeral whole text = (false, text.toList) := by
  rw [takenNumeral, decimal_dropWhile h]
  cases whole with
  | true => rfl
  | false => exact Prod.ext rfl (isDecimal_iff_takeWhile.mp h).2

/-- The conversions do what their numerals say exactly for the harmless texts. -/
theorem plainOr_narrowed_iff (whole : Bool) {lower fallback : Nat} (text : String)
    (hlower : lower = 0 ∨ lower < fallback) :
    PlainOr lower fallback text (max lower (narrowed whole fallback text)) ↔
      HarmlessText whole fallback text := by
  unfold PlainOr HarmlessText narrowed
  cases hdecimal : isDecimal text.toList with
  | true =>
      rw [takenNumeral_of_isDecimal whole hdecimal]
      simp only [hdecimal, true_and, Bool.false_eq_true, if_false, forall_const]
      split_ifs <;> omega
  | false =>
      generalize takenNumeral whole text = taken
      obtain ⟨negative, digits⟩ := taken
      simp only [Bool.false_eq_true, false_and, false_or]
      by_cases htaken : isDecimal digits = true ∧ decimalValue digits < 2 ^ 64
      · rw [if_pos htaken]
        simp only [htaken.1, htaken.2, forall_const]
        omega
      · rw [if_neg htaken]
        exact iff_of_true (by omega) fun hdigits hfits => absurd ⟨hdigits, hfits⟩ htaken

/-! ## The four conversions -/

theorem plainOr_stoulOr_iff (text : String) :
    PlainOr 0 0 text (stoulOr 0 text) ↔ HarmlessText false 0 text := by
  rw [stoulOr_eq_narrowed, ← Nat.zero_max (narrowed false 0 text)]
  exact plainOr_narrowed_iff false text (Or.inl rfl)

/-- Each conversion returns the number that the text denotes, or its fallback,
exactly for the texts that are harmless for it. -/
theorem conversions_iff (text : String) (method : XmlNode) :
    let delay := SoapParser.field method "DelaySeconds"
    (∀ fallback, PlainOr 0 fallback text (UciAdapter.unsignedOf (some text) fallback) ↔
      HarmlessText true fallback text) ∧
    (PlainOr 1 300 text (max 1 (stoulOr 300 text)) ↔ HarmlessText false 300 text) ∧
    (PlainOr 0 0 text (stoulOr 0 text) ↔ HarmlessText false 0 text) ∧
    (PlainOr 0 0 delay (SoapParser.parseDownload method).delaySeconds ↔
      HarmlessText false 0 delay) := by
  refine ⟨fun fallback => ?_, ?_, plainOr_stoulOr_iff text, plainOr_stoulOr_iff _⟩
  · rw [unsignedOf_eq_narrowed, ← Nat.zero_max (narrowed true fallback text)]
    exact plainOr_narrowed_iff true text (Or.inl rfl)
  · rw [stoulOr_eq_narrowed]
    exact plainOr_narrowed_iff false text (Or.inr (by decide))

/-- A negative port, an interval past 2^32, a throttle with a tail and a negative delay. -/
theorem conversions_wrap :
    let delay : XmlNode := .element "DelaySeconds" none [.text "-1"]
    let method : XmlNode := .element "Download" none [delay]
    ¬PlainOr 0 7547 "-1" (UciAdapter.unsignedOf (some "-1") 7547) ∧
    ¬PlainOr 1 300 "4294967301" (max 1 (stoulOr 300 "4294967301")) ∧
    ¬PlainOr 0 0 "60s" (stoulOr 0 "60s") ∧
    ¬PlainOr 0 0 "-1" (SoapParser.parseDownload method).delaySeconds := by
  decide

end Tr069d
