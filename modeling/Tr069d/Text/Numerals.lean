import Mathlib.Algebra.Group.Nat.Defs
import Mathlib.Data.List.TakeWhile

/-!
# Numerals

How the two languages read a number off a text: the decimal numerals of the Lua
pattern `^%d+$`, and `std::stoul`, which also takes blanks, a sign and a tail.
On a decimal numeral that fits 64 bits both read the same number
(`stoul_of_isDecimal`).

`stoul` gives the number and the count of characters it took, for some callers look
whether the whole text was taken and others do not.
-/

namespace Tr069d

/-- `^%d+$` -/
def isDecimal (text : List Char) : Bool :=
  !text.isEmpty && text.all Char.isDigit

/-- The number a decimal numeral denotes. -/
def decimalValue (text : List Char) : Nat :=
  Nat.ofDigitChars 10 text 0

theorem isDecimal_toDigits (number : Nat) : isDecimal (Nat.toDigits 10 number) = true := by
  have hdigits : ∀ c ∈ Nat.toDigits 10 number, c.isDigit = true := fun c hc =>
    Nat.isDigit_of_mem_toDigits (by decide) (by decide) hc
  simp [isDecimal, Nat.toDigits_ne_nil, List.all_eq_true.mpr hdigits]

theorem decimalValue_toDigits (number : Nat) : decimalValue (Nat.toDigits 10 number) = number :=
  Nat.ofDigitChars_ten_toDigits

theorem toList_toString (number : Nat) : (toString number).toList = Nat.toDigits 10 number := by
  rw [Nat.toString_eq_ofList_toDigits, String.toList_ofList]

/-! ## Letters of ASCII -/

theorem isUpper_iff {c : Char} : c.isUpper = true ↔ 65 ≤ c.toNat ∧ c.toNat ≤ 90 :=
  decide_eq_true_iff

theorem isLower_iff {c : Char} : c.isLower = true ↔ 97 ≤ c.toNat ∧ c.toNat ≤ 122 := by
  rw [← @decide_eq_true_iff (_ ∧ _), Bool.decide_and]
  exact Iff.rfl

theorem bounds_of_isAlphanum {c : Char} (h : c.isAlphanum = true) :
    48 ≤ c.toNat ∧ c.toNat ≤ 122 := by
  have hsplit : ((c.isUpper || c.isLower) || c.isDigit) = true := h
  rw [Bool.or_eq_true, Bool.or_eq_true, isUpper_iff, isLower_iff, Char.isDigit_iff_toNat] at hsplit
  have hzero : '0'.toNat = 48 := rfl
  have hnine : '9'.toNat = 57 := rfl
  omega

/-! ## `std::stoul` -/

/-- `std::isspace` in the C locale. -/
def isSpace (c : Char) : Bool :=
  c = ' ' || c = '\t' || c = '\n' || c = '\x0b' || c = '\x0c' || c = '\r'

/-- Whether the numeral is negated, and what follows its sign. -/
def splitSign : List Char → Bool × List Char
  | '-' :: rest => (true, rest)
  | '+' :: rest => (false, rest)
  | rest => (false, rest)

/-- `std::stoul` with a 64-bit `unsigned long`: the number and the count of
characters it took, or `none` where it throws. -/
def stoul (text : String) : Option (Nat × Nat) :=
  let (negative, rest) := splitSign (text.toList.dropWhile isSpace)
  let digits := rest.takeWhile Char.isDigit
  if digits.isEmpty || 2 ^ 64 ≤ decimalValue digits then none
  else
    some (if negative then (2 ^ 64 - decimalValue digits) % 2 ^ 64 else decimalValue digits,
      text.length - (rest.length - digits.length))

/-- `static_cast<unsigned>` -/
def toUnsigned (number : Nat) : Nat :=
  number % 2 ^ 32

theorem toUnsigned_of_lt {number : Nat} (h : number < 2 ^ 32) : toUnsigned number = number :=
  Nat.mod_eq_of_lt h

theorem isSpace_of_isDigit {c : Char} (h : c.isDigit) : isSpace c = false := by
  have hdigit : '0' ≤ c ∧ c ≤ '9' := by simpa [Char.isDigit, Char.le_def] using h
  by_contra hspace
  simp only [isSpace, Bool.not_eq_false, Bool.or_eq_true, decide_eq_true_eq] at hspace
  rcases hspace with ((((rfl | rfl) | rfl) | rfl) | rfl) | rfl <;> revert hdigit <;> decide

theorem splitSign_of_isDigit {c : Char} (rest : List Char) (h : c.isDigit) :
    splitSign (c :: rest) = (false, c :: rest) := by
  unfold splitSign
  split
  · rename_i heq
    cases heq
    exact absurd h (by decide)
  · rename_i heq
    cases heq
    exact absurd h (by decide)
  · rfl

theorem stoul_of_isDecimal {text : String} (h : isDecimal text.toList)
    (hfits : decimalValue text.toList < 2 ^ 64) :
    stoul text = some (decimalValue text.toList, text.length) := by
  have hlength : text.toList.length = text.length := String.length_toList
  simp only [isDecimal, Bool.and_eq_true, Bool.not_eq_true', List.isEmpty_eq_false_iff,
    List.all_eq_true] at h
  obtain ⟨hne, hdigits⟩ := h
  unfold stoul
  rw [← hlength]
  cases htext : text.toList with
  | nil => exact absurd htext hne
  | cons c rest =>
      rw [htext] at hfits hdigits
      have hc := hdigits c (List.mem_cons_self ..)
      have htake : (c :: rest).takeWhile Char.isDigit = c :: rest :=
        List.takeWhile_eq_self_iff.mpr hdigits
      rw [List.dropWhile_cons_of_neg (by simp [isSpace_of_isDigit hc]), splitSign_of_isDigit _ hc]
      have hno : ¬2 ^ 64 ≤ decimalValue (c :: rest) := Nat.not_le.mpr hfits
      simp only [htake, List.isEmpty_cons, Bool.false_or, decide_eq_true_eq, if_neg hno,
        Bool.false_eq_true, if_false, Nat.sub_self, Nat.sub_zero]

example : stoul " +12ab" = some (12, 4) := by decide

example : stoul "" = none := by decide

end Tr069d
