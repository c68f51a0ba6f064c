import Mathlib.Data.List.Basic

/-!
# Lines

The lines of a text as `file:lines()` of Lua reads them.  A break ends a line; the
last line may do without one.

`linesOf_flatMap` reads back what was written with a break behind every line.
-/

namespace Tr069d

/-- The lines of a text, the first of them begun with `line`. -/
def linesFrom (line : List Char) : List Char → List (List Char)
  | [] => if line.isEmpty then [] else [line]
  | c :: text => if c = '\n' then line :: linesFrom [] text else linesFrom (line ++ [c]) text

def linesOf (text : List Char) : List (List Char) :=
  linesFrom [] text

theorem linesFrom_append {more : List Char} (hmore : '\n' ∉ more) (line text : List Char) :
    linesFrom line (more ++ '\n' :: text) = (line ++ more) :: linesOf text := by
  induction more generalizing line with
  | nil => simp [linesFrom, linesOf]
  | cons c more ih =>
      rw [List.mem_cons, not_or] at hmore
      rw [List.cons_append, linesFrom, if_neg (Ne.symm hmore.1), ih hmore.2]
      simp

/-- No line has a break in it. -/
theorem not_mem_of_mem_linesFrom {line text piece : List Char} (hline : '\n' ∉ line)
    (hpiece : piece ∈ linesFrom line text) : '\n' ∉ piece := by
  induction text generalizing line with
  | nil =>
      unfold linesFrom at hpiece
      split_ifs at hpiece
      · cases hpiece
      · rwa [List.mem_singleton.mp hpiece]
  | cons c text ih =>
      unfold linesFrom at hpiece
      split_ifs at hpiece with hbreak
      · rcases List.mem_cons.mp hpiece with rfl | hrest
        · exact hline
        · exact ih (by simp) hrest
      · exact ih (by simp [hline, Ne.symm hbreak]) hpiece

theorem not_mem_of_mem_linesOf {text piece : List Char} (hpiece : piece ∈ linesOf text) :
    '\n' ∉ piece :=
  not_mem_of_mem_linesFrom (by simp) hpiece

/-- The lines of a text that was written line by line. -/
theorem linesOf_flatMap {pieces : List (List Char)} (hpieces : ∀ piece ∈ pieces, '\n' ∉ piece) :
    linesOf (pieces.flatMap fun piece => piece ++ ['\n']) = pieces := by
  induction pieces with
  | nil => rfl
  | cons piece pieces ih =>
      obtain ⟨hpiece, hrest⟩ := List.forall_mem_cons.mp hpieces
      rw [List.flatMap_cons, List.append_assoc, linesOf, List.singleton_append,
        linesFrom_append hpiece, ih hrest, List.nil_append]

example : linesOf "a=1\n\nb=2".toList = ["a=1".toList, [], "b=2".toList] := by decide

end Tr069d
