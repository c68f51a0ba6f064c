import Tr069d.Text.Search

/-!
# Positions in a text

Searches and parts of a text by position, as `std::string` has them: `find` gives
the first place from a position on where a text stands, and `substr` a stretch of
a length.  A search from a position is a search of the rest of the text
(`find_eq_map`), so that what holds of `splitAtFirst` holds of the places that are
found.
-/

namespace Tr069d

variable {α : Type*} [DecidableEq α]

/-- `text.find(needle, start)`, for a text to be found that is not empty. -/
def find (needle text : List α) (start : Nat) : Option Nat :=
  (List.range' start (text.length - start)).find? fun i => needle.isPrefixOf (text.drop i)

omit [DecidableEq α] in
/-- `text.substr(start, count)` -/
def substr (text : List α) (start count : Nat) : List α :=
  (text.drop start).take count

theorem find_eq_map {needle : List α} (hne : needle ≠ []) (text : List α) (start : Nat) :
    find needle text start =
      (splitAtFirst needle (text.drop start)).map fun found => start + found.1.length := by
  induction hleft : text.length - start generalizing start with
  | zero =>
      have hdrop : text.drop start = [] := List.drop_eq_nil_of_le (by omega)
      simp [find, hleft, hdrop, splitAtFirst, hne]
  | succ left ih =>
      have hstart : start < text.length := by omega
      have hrest := ih (start + 1) (by omega)
      rw [find, show text.length - (start + 1) = left by omega] at hrest
      rw [find, hleft, List.range'_succ, List.find?_cons, hrest,
        List.drop_eq_getElem_cons hstart]
      cases hhere : needle.isPrefixOf (text[start] :: text.drop (start + 1)) with
      | true =>
          rw [splitAtFirst, if_pos hhere]
          rfl
      | false =>
          rw [splitAtFirst, hhere, if_neg Bool.false_ne_true, Option.map_map]
          refine congrArg (Option.map · _) (funext fun found => ?_)
          simp only [Function.comp_apply, List.length_cons]
          omega

/-! ### What is found -/

section Found

variable {needle text before after : List α} {start : Nat}

/-- A place that is found comes after what precedes it. -/
theorem find_eq_some (hne : needle ≠ [])
    (hfound : splitAtFirst needle (text.drop start) = some (before, after)) :
    find needle text start = some (start + before.length) := by
  rw [find_eq_map hne, hfound]
  rfl

theorem find_eq_none (hne : needle ≠ [])
    (hfound : splitAtFirst needle (text.drop start) = none) : find needle text start = none := by
  rw [find_eq_map hne, hfound]
  rfl

/-- Behind a place that is found stands the rest of the text. -/
theorem drop_of_splitAtFirst (hne : needle ≠ [])
    (hfound : splitAtFirst needle (text.drop start) = some (before, after)) :
    text.drop (start + before.length + needle.length) = after := by
  have htext := (firstAt_of_splitAtFirst hne hfound).1
  rw [← List.drop_drop, ← List.drop_drop, htext, List.append_assoc, List.drop_left,
    List.drop_left]

omit [DecidableEq α] in
theorem substr_of_drop_eq (hdrop : text.drop start = before ++ after) :
    substr text start before.length = before := by
  rw [substr, hdrop, List.take_left]

end Found

end Tr069d
