import Mathlib.Data.List.Infix
import Mathlib.Data.List.TakeWhile

/-!
# Searching a text

Finding the first place where a text stands in another, and the lines a
separator ends. `splitAtFirst_eq_some_iff` says what a search finds, for any
alphabet; the scans of a request are built from these two.

* `FirstAt` says where the first place is, and `FirstAt.append` that it stays the first
  one in every longer text.
* `terminatedLines_eq_cons_iff` takes the first line off a text, and
  `eq_append_of_terminatedLines` puts a line back into the text it comes from.
* `infix_or_infix_of_separated` and `exists_infix_of_infix_flatMap` are for texts that are
  joined with a separator: what does not hold it stands within one of them.
-/

namespace Tr069d

variable {α : Type*} [DecidableEq α]

/-- What stands before and after the first place where `needle` stands in a
text: `find`, with the two halves for the position. -/
def splitAtFirst (needle : List α) : List α → Option (List α × List α)
  | [] => if needle = [] then some ([], []) else none
  | c :: text =>
      if needle.isPrefixOf (c :: text) then some ([], (c :: text).drop needle.length)
      else (splitAtFirst needle text).map fun found => (c :: found.1, found.2)

/-- `needle` stands between `before` and `after`, and nowhere earlier. -/
def FirstAt (needle text before after : List α) : Prop :=
  text = before ++ needle ++ after ∧ ¬needle <:+: before ++ needle.dropLast

omit [DecidableEq α] in
theorem not_infix_dropLast {needle : List α} (hne : needle ≠ []) :
    ¬needle <:+: needle.dropLast := by
  intro hstands
  have hlength := hstands.length_le
  have hpos := List.length_pos_iff.mpr hne
  rw [List.length_dropLast] at hlength
  omega

omit [DecidableEq α] in
/-- Where `needle` stands only later, no prefix of the text is `needle`. -/
theorem not_isPrefix_of_new {needle before after : List α} {c : α}
    (hnew : ¬needle <:+: c :: before ++ needle.dropLast) :
    ¬needle <+: c :: before ++ needle ++ after := by
  intro hstarts
  have hshort : c :: before ++ needle.dropLast <+: c :: before ++ needle ++ after := by
    rw [List.append_assoc]
    exact (List.prefix_append_right_inj _).mpr
      ((List.dropLast_prefix needle).trans (List.prefix_append ..))
  have hlength : needle.length ≤ (c :: before ++ needle.dropLast).length := by
    simp only [List.cons_append, List.length_cons, List.length_append, List.length_dropLast]
    omega
  exact hnew (List.prefix_of_prefix_length_le hstarts hshort hlength).isInfix

theorem firstAt_of_splitAtFirst {needle : List α} (hne : needle ≠ []) {text before after : List α}
    (h : splitAtFirst needle text = some (before, after)) : FirstAt needle text before after := by
  induction text generalizing before with
  | nil => simp [splitAtFirst, hne] at h
  | cons c text ih =>
      unfold splitAtFirst at h
      split at h
      · rename_i hstarts
        obtain ⟨rfl, rfl⟩ : [] = before ∧ (c :: text).drop needle.length = after := by
          simpa using h
        have hsplit := List.prefix_iff_eq_append.mp (List.isPrefixOf_iff_prefix.mp hstarts)
        exact ⟨by simpa using hsplit.symm, by simpa using not_infix_dropLast hne⟩
      · rename_i hstarts
        obtain ⟨found, hfound, heq⟩ := Option.map_eq_some_iff.mp h
        obtain ⟨rfl, rfl⟩ : c :: found.1 = before ∧ found.2 = after := by simpa using heq
        obtain ⟨htext, hnew⟩ := ih hfound
        refine ⟨by simpa using htext, fun hstands => ?_⟩
        -- an earlier place is the very start, which the test excluded, or one in the rest
        rcases List.infix_cons_iff.mp hstands with hstart | hrest
        · have hshort : c :: (found.1 ++ needle.dropLast) <+: c :: text := by
            rw [htext, List.append_assoc]
            exact List.cons_prefix_cons.mpr ⟨rfl, (List.prefix_append_right_inj _).mpr
              ((List.dropLast_prefix needle).trans (List.prefix_append ..))⟩
          exact hstarts (List.isPrefixOf_iff_prefix.mpr (hstart.trans hshort))
        · exact hnew hrest

theorem splitAtFirst_append {needle before after : List α} (hne : needle ≠ [])
    (hnew : ¬needle <:+: before ++ needle.dropLast) :
    splitAtFirst needle (before ++ needle ++ after) = some (before, after) := by
  induction before with
  | nil =>
      obtain ⟨c, rest, rfl⟩ := List.exists_cons_of_ne_nil hne
      simp [splitAtFirst]
  | cons c before ih =>
      have hrest : ¬needle <:+: before ++ needle.dropLast := fun hstands =>
        hnew (List.infix_cons_iff.mpr (Or.inr hstands))
      have hstart : ¬needle.isPrefixOf (c :: (before ++ needle ++ after)) := fun hstarts =>
        not_isPrefix_of_new hnew (List.isPrefixOf_iff_prefix.mp hstarts)
      simp only [List.cons_append, splitAtFirst, hstart, ih hrest]
      rfl

/-- A search finds the first place. -/
theorem splitAtFirst_eq_some_iff {needle text before after : List α} (hne : needle ≠ []) :
    splitAtFirst needle text = some (before, after) ↔ FirstAt needle text before after := by
  constructor
  · exact firstAt_of_splitAtFirst hne
  · rintro ⟨rfl, hnew⟩
    exact splitAtFirst_append hne hnew

omit [DecidableEq α] in
theorem FirstAt.isInfix {needle text before after : List α} (h : FirstAt needle text before after) :
    needle <:+: text :=
  ⟨before, after, h.1.symm⟩

omit [DecidableEq α] in
/-- The first place in a text is the first one in every longer text. -/
theorem FirstAt.append {needle text before after : List α} (h : FirstAt needle text before after)
    (tail : List α) : FirstAt needle (text ++ tail) before (after ++ tail) :=
  ⟨by rw [h.1, List.append_assoc _ after tail], h.2⟩

/-- A search fails where there is nothing to find. -/
theorem splitAtFirst_eq_none_iff {needle text : List α} (hne : needle ≠ []) :
    splitAtFirst needle text = none ↔ ¬needle <:+: text := by
  induction text with
  | nil => simp [splitAtFirst, hne]
  | cons c text ih =>
      rw [List.infix_cons_iff, not_or, ← ih, ← List.isPrefixOf_iff_prefix, splitAtFirst]
      split
      · rename_i hstarts
        simp [hstarts]
      · rename_i hstarts
        simp [hstarts]

omit [DecidableEq α] in
/-- A single letter is first found where no earlier letter is it. -/
theorem not_singleton_infix_of_not_mem {c : α} {before : List α} (h : c ∉ before) :
    ¬[c] <:+: before ++ [c].dropLast := by
  simpa [List.singleton_infix_iff] using h

omit [DecidableEq α] in
theorem FirstAt.not_mem {c : α} {text before after : List α}
    (h : FirstAt [c] text before after) : c ∉ before := by
  simpa [List.singleton_infix_iff] using h.2

/-- A letter that a text lacks is found behind it, if at all. -/
theorem length_le_of_splitAtFirst_append {c : α} {text tail before after : List α}
    (hc : splitAtFirst [c] text = none)
    (h : splitAtFirst [c] (text ++ tail) = some (before, after)) :
    text.length ≤ before.length := by
  rw [splitAtFirst_eq_none_iff (List.cons_ne_nil _ _), List.singleton_infix_iff] at hc
  by_contra hshort
  have hprefix : before ++ [c] <+: text ++ tail :=
    ⟨after, (firstAt_of_splitAtFirst (List.cons_ne_nil _ _) h).1.symm⟩
  have hwithin : before ++ [c] <+: text :=
    List.prefix_of_prefix_length_le hprefix (List.prefix_append text tail) (by simp; omega)
  exact hc (hwithin.subset (by simp))

omit [DecidableEq α] in
/-- A text that ends with a letter the tail lacks cannot reach into the tail. -/
theorem infix_of_infix_append {stem tail text : List α} {c : α} (hc : c ∉ tail)
    (h : stem ++ [c] <:+: text ++ tail) : stem ++ [c] <:+: text := by
  induction tail using List.reverseRecOn with
  | nil => simpa using h
  | append_singleton tail d ih =>
      have hd : c ≠ d := by
        rintro rfl
        simp at hc
      rw [← List.append_assoc] at h
      rcases List.infix_concat_iff.mp h with hsuffix | hstands
      · exfalso
        have hlast := hsuffix.getLast (by simp)
        simp at hlast
        exact hd hlast
      · exact ih (fun hmem => hc (List.mem_append_left _ hmem)) hstands

omit [DecidableEq α] in
/-- A text free of `c` does not reach across a `c`. -/
theorem infix_or_infix_of_separated {needle left right : List α} {c : α} (hc : c ∉ needle)
    (h : needle <:+: left ++ c :: right) : needle <:+: left ∨ needle <:+: right := by
  rcases List.infix_append_iff.mp h with hleft | hright | ⟨head, tail, rfl, hhead, htail⟩
  · exact Or.inl hleft
  · rcases List.infix_cons_iff.mp hright with hstart | hrest
    · rcases List.prefix_cons_iff.mp hstart with rfl | ⟨rest, rfl, -⟩
      · exact Or.inl ⟨[], left, by simp⟩
      · simp at hc
    · exact Or.inr hrest
  · rcases List.prefix_cons_iff.mp htail with rfl | ⟨rest, rfl, -⟩
    · exact Or.inl (by simpa using hhead.isInfix)
    · simp at hc

/-! ### Joined texts -/

omit [DecidableEq α] in
theorem intercalate_cons (sep text : List α) (texts : List (List α)) :
    sep.intercalate (text :: texts) = text ++ texts.flatMap (sep ++ ·) := by
  induction texts generalizing text with
  | nil => simp
  | cons next texts ih => rw [List.intercalate_cons_cons, ih, List.flatMap_cons]; simp

omit [DecidableEq α] in
theorem intercalate_append_cons (sep text : List α) (earlier later : List (List α)) :
    sep.intercalate (earlier ++ text :: later) =
      earlier.flatMap (· ++ sep) ++ text ++ later.flatMap (sep ++ ·) := by
  induction earlier with
  | nil => simp [intercalate_cons]
  | cons first earlier ih =>
      rw [List.cons_append, List.intercalate_cons_of_ne_nil (by simp), ih, List.flatMap_cons]
      simp

omit [DecidableEq α] in
theorem not_mem_intercalate {c : α} {sep : List α} {texts : List (List α)} (hsep : c ∉ sep)
    (htexts : ∀ text ∈ texts, c ∉ text) : c ∉ sep.intercalate texts := by
  cases texts with
  | nil => simp
  | cons text texts =>
      rw [intercalate_cons, List.mem_append, List.mem_flatMap, not_or]
      refine ⟨htexts text (List.mem_cons_self ..), ?_⟩
      rintro ⟨other, hother, hmem⟩
      rcases List.mem_append.mp hmem with hmem | hmem
      · exact hsep hmem
      · exact htexts other (List.mem_cons_of_mem _ hother) hmem

omit [DecidableEq α] in
/-- A text free of the separator stands within one of the joined texts. -/
theorem exists_infix_of_infix_flatMap {needle tail : List α} {c : α} {texts : List (List α)}
    (hc : c ∉ needle) (h : needle <:+: texts.flatMap (· ++ [c]) ++ tail) :
    (∃ text ∈ texts, needle <:+: text) ∨ needle <:+: tail := by
  induction texts with
  | nil => exact Or.inr h
  | cons text texts ih =>
      have hsplit : (text :: texts).flatMap (· ++ [c]) ++ tail =
          text ++ c :: (texts.flatMap (· ++ [c]) ++ tail) := by
        simp
      rw [hsplit] at h
      rcases infix_or_infix_of_separated hc h with htext | hrest
      · exact Or.inl ⟨text, List.mem_cons_self .., htext⟩
      · rcases ih hrest with ⟨other, hmem, hother⟩ | htail
        · exact Or.inl ⟨other, List.mem_cons_of_mem _ hmem, hother⟩
        · exact Or.inr htail

/-! ### Up to a letter -/

theorem takeWhile_ne_eq_self {text : List α} {c : α} (hc : c ∉ text) :
    text.takeWhile (· ≠ c) = text := by
  refine List.takeWhile_eq_self_iff.mpr fun d hd => ?_
  have hne : d ≠ c := fun heq => hc (heq ▸ hd)
  simpa using hne

theorem takeWhile_ne_append_cons {text rest : List α} {c : α} (hc : c ∉ text) :
    (text ++ c :: rest).takeWhile (· ≠ c) = text := by
  have hall : ∀ d ∈ text, decide (d ≠ c) = true := fun d hd => by
    have hne : d ≠ c := fun heq => hc (heq ▸ hd)
    simpa using hne
  rw [List.takeWhile_append_of_pos hall, List.takeWhile_cons_of_neg (by simp), List.append_nil]

omit [DecidableEq α] in
theorem takeWhile_append_cons_of_neg {p : α → Bool} {c : α} (text rest : List α) (hc : ¬p c) :
    (text ++ c :: rest).takeWhile p = text.takeWhile p := by
  induction text with
  | nil => exact List.takeWhile_cons_of_neg hc
  | cons d text ih => simp only [List.cons_append, List.takeWhile_cons, ih]

theorem dropWhile_ne_append_cons {text rest : List α} {c : α} (hc : c ∉ text) :
    (text ++ c :: rest).dropWhile (· ≠ c) = c :: rest := by
  have hall : ∀ d ∈ text, decide (d ≠ c) = true := by
    intro d hd
    have hne : d ≠ c := fun heq => hc (heq ▸ hd)
    simpa using hne
  rw [List.dropWhile_append_of_pos hall, List.dropWhile_cons_of_neg (by simp)]

theorem not_mem_takeWhile_ne (text : List α) (c : α) : c ∉ text.takeWhile (· ≠ c) := by
  intro hmem
  simpa using List.mem_takeWhile_imp hmem

/-- A text ends where `c` first stands, or `c` does not stand in it. -/
theorem eq_takeWhile_append (text : List α) (c : α) :
    text = text.takeWhile (· ≠ c) ∨ ∃ rest, text = text.takeWhile (· ≠ c) ++ c :: rest := by
  have hsplit := (List.takeWhile_append_dropWhile (p := fun d => decide (d ≠ c)) (l := text)).symm
  cases hrest : text.dropWhile fun d => decide (d ≠ c) with
  | nil =>
      rw [hrest, List.append_nil] at hsplit
      exact Or.inl hsplit
  | cons d rest =>
      have hhead := List.head?_dropWhile_not (fun d => decide (d ≠ c)) text
      rw [hrest] at hhead
      obtain rfl : d = c := by simpa using hhead
      rw [hrest] at hsplit
      exact Or.inr ⟨rest, hsplit⟩

/-! ### Terminated lines -/

/-- The lines of a text that `sep` ends, at most `fuel` of them. -/
def linesWithin (sep : List α) : Nat → List α → List (List α)
  | 0, _ => []
  | fuel + 1, text =>
      match splitAtFirst sep text with
      | none => []
      | some (line, rest) => line :: linesWithin sep fuel rest

/-- The lines of a text that `sep` ends; what stands after the last `sep` is
no line. -/
def terminatedLines (sep text : List α) : List (List α) :=
  linesWithin sep text.length text

theorem length_lt_of_splitAtFirst {needle text before after : List α} (hne : needle ≠ [])
    (h : splitAtFirst needle text = some (before, after)) : after.length < text.length := by
  obtain ⟨rfl, -⟩ := firstAt_of_splitAtFirst hne h
  have hpos := List.length_pos_iff.mpr hne
  simp only [List.length_append]
  omega

/-- The length of the text is fuel enough. -/
theorem linesWithin_of_le {sep : List α} (hne : sep ≠ []) {fuel : Nat} {text : List α}
    (hfuel : text.length ≤ fuel) : linesWithin sep fuel text = terminatedLines sep text := by
  unfold terminatedLines
  induction fuel using Nat.strong_induction_on generalizing text with
  | h fuel ih =>
      cases fuel with
      | zero =>
          have hnil : text = [] := List.length_eq_zero_iff.mp (by omega)
          subst hnil
          rfl
      | succ fuel =>
          cases text with
          | nil => simp [linesWithin, splitAtFirst, hne]
          | cons c text =>
              simp only [List.length_cons, linesWithin]
              cases hfound : splitAtFirst sep (c :: text) with
              | none => rfl
              | some found =>
                  have hshorter := length_lt_of_splitAtFirst hne hfound
                  simp only [List.length_cons] at hshorter hfuel
                  have hmore := ih fuel (by omega) (show found.2.length ≤ fuel by omega)
                  have hless :=
                    ih text.length (by omega) (show found.2.length ≤ text.length by omega)
                  simp [hmore, hless]

/-- The first line ends at the first separator. -/
theorem terminatedLines_eq {sep : List α} (hne : sep ≠ []) (text : List α) :
    terminatedLines sep text = match splitAtFirst sep text with
      | none => []
      | some (line, rest) => line :: terminatedLines sep rest := by
  rw [← linesWithin_of_le hne (Nat.le_succ text.length), linesWithin]
  cases hfound : splitAtFirst sep text with
  | none => rfl
  | some found =>
      have hshorter := length_lt_of_splitAtFirst hne hfound
      simp only [linesWithin_of_le hne hshorter.le]

/-- The lines begin with the text before the first separator. -/
theorem terminatedLines_eq_cons_iff {sep text line : List α} {lines : List (List α)}
    (hne : sep ≠ []) :
    terminatedLines sep text = line :: lines ↔
      ∃ rest, FirstAt sep text line rest ∧ terminatedLines sep rest = lines := by
  rw [terminatedLines_eq hne]
  cases hfound : splitAtFirst sep text with
  | none =>
      refine iff_of_false (by simp) ?_
      rintro ⟨rest, hfirst, -⟩
      rw [(splitAtFirst_eq_some_iff hne).mpr hfirst] at hfound
      cases hfound
  | some found =>
      constructor
      · intro h
        obtain ⟨rfl, rfl⟩ : found.1 = line ∧ terminatedLines sep found.2 = lines := by simpa using h
        exact ⟨found.2, firstAt_of_splitAtFirst hne hfound, rfl⟩
      · rintro ⟨rest, hfirst, rfl⟩
        rw [(splitAtFirst_eq_some_iff hne).mpr hfirst] at hfound
        cases hfound
        rfl

/-- A text that goes on has the lines it had, and more. -/
theorem terminatedLines_prefix {sep : List α} (hne : sep ≠ []) (text tail : List α) :
    terminatedLines sep text <+: terminatedLines sep (text ++ tail) := by
  induction hlines : terminatedLines sep text generalizing text with
  | nil => exact List.nil_prefix
  | cons line lines ih =>
      obtain ⟨rest, hfirst, hrest⟩ := (terminatedLines_eq_cons_iff hne).mp hlines
      have hlonger : terminatedLines sep (text ++ tail) =
          line :: terminatedLines sep (rest ++ tail) :=
        (terminatedLines_eq_cons_iff hne).mpr ⟨rest ++ tail, hfirst.append tail, rfl⟩
      rw [hlonger]
      exact List.cons_prefix_cons.mpr ⟨rfl, ih rest hrest⟩

theorem terminatedLines_append {sep line : List α} (rest : List α) (hne : sep ≠ [])
    (hnew : ¬sep <:+: line ++ sep.dropLast) :
    terminatedLines sep (line ++ sep ++ rest) = line :: terminatedLines sep rest :=
  (terminatedLines_eq_cons_iff hne).mpr ⟨rest, ⟨rfl, hnew⟩, rfl⟩

/-- A text that begins with lines gives them back. -/
theorem terminatedLines_flatMap_append {sep : List α} {lines : List (List α)} (rest : List α)
    (hne : sep ≠ []) (hnew : ∀ line ∈ lines, ¬sep <:+: line ++ sep.dropLast) :
    terminatedLines sep (lines.flatMap (· ++ sep) ++ rest) =
      lines ++ terminatedLines sep rest := by
  induction lines with
  | nil => simp
  | cons line lines ih =>
      have hline := hnew line (List.mem_cons_self ..)
      have hlines := ih fun l hl => hnew l (List.mem_cons_of_mem _ hl)
      rw [List.flatMap_cons, List.append_assoc, terminatedLines_append _ hne hline, hlines,
        List.cons_append]

/-- Every line stands in the text with its separator, after the lines before
it, and holds no separator itself. -/
theorem eq_append_of_terminatedLines {sep text line : List α} {earlier later : List (List α)}
    (hne : sep ≠ []) (h : terminatedLines sep text = earlier ++ line :: later) :
    (∃ rest, text = earlier.flatMap (· ++ sep) ++ line ++ sep ++ rest) ∧
      ∀ l ∈ earlier ++ [line], ¬sep <:+: l := by
  induction earlier generalizing text with
  | nil =>
      obtain ⟨rest, ⟨rfl, hnew⟩, -⟩ := (terminatedLines_eq_cons_iff hne).mp h
      refine ⟨⟨rest, by simp⟩, fun l hl hstands => ?_⟩
      obtain rfl : l = line := by simpa using hl
      exact hnew (hstands.trans (List.prefix_append ..).isInfix)
  | cons head earlier ih =>
      obtain ⟨rest, ⟨rfl, hnew⟩, hrest⟩ := (terminatedLines_eq_cons_iff hne).mp h
      obtain ⟨⟨tail, rfl⟩, hfree⟩ := ih hrest
      refine ⟨⟨tail, by simp⟩, fun l hl hstands => ?_⟩
      rcases List.mem_cons.mp hl with rfl | hl
      · exact hnew (hstands.trans (List.prefix_append ..).isInfix)
      · exact hfree l hl hstands

end Tr069d
