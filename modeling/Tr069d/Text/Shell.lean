import Mathlib.Data.List.TakeWhile

/-!
# The words of a shell command

How a POSIX shell splits a simple command into words and removes the quotes.  A
text that asks for more than that (an operator, an expansion, a comment) or that
leaves a quote open is refused, so that the words of what is not refused are
literally those that the command is called with.

* `splitWords` reads one character after the other, in the state of its quotes.
* `splitWords_literals`, `splitWords_quoted` and `splitWords_space` read a whole piece.
* `shellWords_eq` is a command of literal words with one quoted part.
-/

namespace Shell

/-- What the next character is read as. -/
inductive Quoting
  | plain
  /-- after a backslash outside of quotes -/
  | escaped
  | single
  | double
  /-- after a backslash in double quotes -/
  | doubleEscaped
  deriving DecidableEq, Repr

/-- They separate words. -/
def blanks : List Char :=
  [' ', '\t']

/-- They are operators, expansions and comments, or may be. -/
def actives : List Char :=
  ['\n', ';', '&', '|', '<', '>', '(', ')', '$', '`', '*', '?', '[', '~', '#']

/-- Outside of quotes, every other character stands for itself. -/
def specials : List Char :=
  ['\'', '"', '\\'] ++ blanks ++ actives

/-- A word with one more character. -/
def push (word : Option (List Char)) (c : Char) : Option (List Char) :=
  some (word.getD [] ++ [c])

/-- The words of the rest of a command, where `word` is what there is of the
current one. -/
def splitWords : Quoting → Option (List Char) → List Char → Option (List (List Char))
  | .plain, word, [] => some word.toList
  | _, _, [] => none
  | .plain, word, c :: rest =>
      if c = '\'' then splitWords .single (some (word.getD [])) rest
      else if c = '"' then splitWords .double (some (word.getD [])) rest
      else if c = '\\' then splitWords .escaped word rest
      else if c ∈ blanks then (splitWords .plain none rest).map (word.toList ++ ·)
      else if c ∈ actives then none
      else splitWords .plain (push word c) rest
  | .escaped, word, c :: rest =>
      if c = '\n' then splitWords .plain word rest else splitWords .plain (push word c) rest
  | .single, word, c :: rest =>
      if c = '\'' then splitWords .plain word rest else splitWords .single (push word c) rest
  | .double, word, c :: rest =>
      if c = '"' then splitWords .plain word rest
      else if c = '\\' then splitWords .doubleEscaped word rest
      else if c ∈ ['$', '`'] then none
      else splitWords .double (push word c) rest
  | .doubleEscaped, word, c :: rest =>
      if c = '\n' then splitWords .double word rest
      else if c ∈ ['$', '`', '"', '\\'] then splitWords .double (push word c) rest
      else splitWords .double (push (push word '\\') c) rest

/-- The words of a command, which is a C string and ends at its first NUL. -/
def shellWords (command : String) : Option (List String) :=
  (splitWords .plain none (command.toList.takeWhile (· ≠ '\x00'))).map (·.map String.ofList)

/-- What a character in single quotes is written as: a quote closes them, and is
written outside of them. -/
def inQuotes (c : Char) : List Char :=
  if c = '\'' then ['\'', '\\', '\'', '\''] else [c]

def quoted (text : List Char) : List Char :=
  '\'' :: text.flatMap inQuotes ++ ['\'']

variable {word : Option (List Char)} {c : Char} {text rest : List Char}

theorem splitWords_literal (hc : c ∉ specials) :
    splitWords .plain word (c :: rest) = splitWords .plain (push word c) rest := by
  simp only [specials, List.mem_append, List.mem_cons, not_or] at hc
  obtain ⟨⟨⟨hquote, hdouble, hbackslash, -⟩, hblank⟩, hactive⟩ := hc
  rw [splitWords, if_neg hquote, if_neg hdouble, if_neg hbackslash, if_neg hblank, if_neg hactive]

/-- Every character of a text stands for itself. -/
def isLiteral (text : List Char) : Bool :=
  text.all fun c => c ∉ specials

theorem isLiteral_iff : isLiteral text = true ↔ ∀ c ∈ text, c ∉ specials := by
  simp [isLiteral]

/-- Literal characters are added to the word. -/
theorem splitWords_literals (hne : text ≠ []) (htext : isLiteral text = true) :
    splitWords .plain word (text ++ rest) =
      splitWords .plain (some (word.getD [] ++ text)) rest := by
  rw [isLiteral_iff] at htext
  induction text generalizing word with
  | nil => exact absurd rfl hne
  | cons c text ih =>
      obtain ⟨hc, hrest⟩ := List.forall_mem_cons.mp htext
      rw [List.cons_append, splitWords_literal hc]
      cases text with
      | nil => rfl
      | cons next text =>
          rw [ih (List.cons_ne_nil _ _) hrest, push, Option.getD_some, List.append_assoc,
            List.singleton_append]

/-- In single quotes the text is added to the word, and its quotes end where they did. -/
theorem splitWords_single (present : List Char) :
    splitWords .single (some present) (text.flatMap inQuotes ++ '\'' :: rest) =
      splitWords .plain (some (present ++ text)) rest := by
  induction text generalizing present with
  | nil => simp [splitWords]
  | cons c text ih =>
      rw [List.flatMap_cons, List.append_assoc]
      by_cases hc : c = '\''
      · -- the quotes are closed, and opened once more
        subst hc
        have hescaped : splitWords .single (some present)
            (['\'', '\\', '\'', '\''] ++ (text.flatMap inQuotes ++ '\'' :: rest)) =
              splitWords .single (some (present ++ ['\'']))
                (text.flatMap inQuotes ++ '\'' :: rest) := by
          simp [splitWords, push]
        rw [inQuotes, if_pos rfl, hescaped, ih, List.append_assoc, List.singleton_append]
      · rw [inQuotes, if_neg hc, List.singleton_append, splitWords, if_neg hc, push,
          Option.getD_some, ih, List.append_assoc, List.singleton_append]

/-- A quoted text is part of one word, and nothing of what follows it is. -/
theorem splitWords_quoted :
    splitWords .plain word (quoted text ++ rest) =
      splitWords .plain (some (word.getD [] ++ text)) rest := by
  rw [quoted, List.cons_append, List.cons_append, List.append_assoc, List.singleton_append,
    splitWords, if_pos rfl, splitWords_single]

/-- A blank ends a word. -/
theorem splitWords_space (present : List Char) :
    splitWords .plain (some present) (' ' :: rest) =
      (splitWords .plain none rest).map (present :: ·) := by
  rw [splitWords]
  rfl

/-- A command of literal words and one that has a quoted part. -/
theorem shellWords_eq {command : String} (hnul : '\x00' ∉ command.toList)
    {words : List (List Char)} (hwords : splitWords .plain none command.toList = some words) :
    shellWords command = some (words.map String.ofList) := by
  have hall : command.toList.takeWhile (· ≠ '\x00') = command.toList := by
    rw [List.takeWhile_eq_self_iff]
    intro c hc
    exact decide_eq_true fun hsame => hnul (hsame ▸ hc)
  rw [shellWords, hall, hwords]
  rfl

end Shell
