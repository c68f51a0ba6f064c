import Tr069d.Text.Shell
import Tr069d.Transformer.Getters
import Tr069d.Uci.Adapter

/-!
# The `uci set` commands as the shell reads them

The transformer quotes the whole assignment, and `UciAdapter` only the value.  A
string of the source is a string of bytes, here a string of characters.

* `shellQuote_eq_gsub` shows that the pattern of the script replaces as `shellQuote` does.
* `shellWords_command` reads a command with one quoted part at its end.
* `shellQuote_oneWord` is the result, for the quoting and for both kinds of command.
-/

namespace Tr069d

open Shell

/-! ## Quoting -/

/-- What `string.gsub` replaces a match of a one-character pattern with: `%` is
its escape character, and a backslash stands for itself. -/
def expandReplacement (found : Char) : List Char → Option (List Char)
  | [] => some []
  | '%' :: c :: rest =>
      if c = '%' then (expandReplacement found rest).map ('%' :: ·)
      else if c ∈ ['0', '1'] then (expandReplacement found rest).map (found :: ·)
      else none
  | ['%'] => none
  | c :: rest => (expandReplacement found rest).map (c :: ·)

/-- `text:gsub(found, replacement)`; an invalid replacement is an error. -/
def gsubChar (found : Char) (replacement text : String) : Option String :=
  (expandReplacement found replacement.toList).map fun expanded =>
    String.ofList (text.toList.flatMap fun c => if c = found then expanded else [c])

/-- `UciAdapter::shellQuote` -/
def UciAdapter.shellQuote (value : String) : String :=
  value.toList.foldl
    (fun out c => out ++ if c = '\'' then "'\\''" else String.singleton c) "'" ++ "'"

/-! ## Commands -/

/-- The command of the transformer that sets an option. -/
def setCommand (uciBin key value : String) : String :=
  uciBin ++ " -q set " ++ shellQuote (key ++ "=" ++ value)

/-- The command that `UciAdapter::set` runs. -/
def UciAdapter.setCommand (uciBinary key value : String) : String :=
  uciBinary ++ " -q set " ++ key ++ "=" ++ UciAdapter.shellQuote value

/-- The paths that `uci` is called by. -/
def uciBinaries : List String :=
  ["/sbin/uci", "uci"]

/-- A key of letters, digits, `_` and `.`. -/
def isPlainKey (key : String) : Bool :=
  key.toList.all fun c => UciAdapter.isAlnum c || c ∈ ['_', '.']

/-! ## What the shell makes of them -/

theorem toList_shellQuote (value : String) : (shellQuote value).toList = quoted value.toList := by
  simp [shellQuote, quoted]
  rfl

/-- The pattern of `shell_quote` replaces as its definition here does. -/
theorem shellQuote_eq_gsub (value : String) :
    (gsubChar '\'' "'\\''" value).map (fun text => "'" ++ text ++ "'") =
      some (shellQuote value) := by
  have hexpanded : expandReplacement '\'' "'\\''".toList = some "'\\''".toList := by decide
  rw [gsubChar, hexpanded]
  rfl

theorem shellQuote_eq (value : String) : UciAdapter.shellQuote value = shellQuote value := by
  have hloop : ∀ (text : List Char) (out : String),
      (text.foldl (fun out c => out ++ if c = '\'' then "'\\''" else String.singleton c)
        out).toList = out.toList ++ text.flatMap inQuotes := by
    intro text
    induction text with
    | nil => simp
    | cons c text ih =>
        intro out
        rw [List.foldl_cons, ih, String.toList_append, List.append_assoc, List.flatMap_cons]
        by_cases hc : c = '\'' <;> simp [inQuotes, hc]
  rw [← String.toList_inj, toList_shellQuote, UciAdapter.shellQuote, String.toList_append, hloop]
  rfl

theorem nul_notMem_quoted {text : List Char} (htext : '\x00' ∉ text) : '\x00' ∉ quoted text := by
  simp only [quoted, List.mem_append, List.mem_cons, List.mem_flatMap, not_or, not_exists]
  refine ⟨⟨by decide, ?_⟩, by decide⟩
  rintro c ⟨hmem, hc⟩
  unfold inQuotes at hc
  split at hc
  · revert hc
    decide
  · obtain rfl := List.mem_singleton.mp hc
    exact htext hmem

theorem literal_of_isPlainKey {key : String} (hkey : isPlainKey key = true) :
    ∀ c ∈ key.toList, c ∉ specials ∧ c ≠ '\x00' := by
  have hspecial : ('\x00' :: specials).all
      (fun c => !(UciAdapter.isAlnum c || c ∈ ['_', '.'])) = true := by decide
  have hnot : ∀ c ∈ '\x00' :: specials, (UciAdapter.isAlnum c || c ∈ ['_', '.']) = false :=
    fun c hc => by simpa using List.all_eq_true.mp hspecial c hc
  intro c hmem
  have hplain := List.all_eq_true.mp hkey c hmem
  refine ⟨fun hc => ?_, fun hc => ?_⟩
  · exact absurd hplain (by rw [hnot c (List.mem_cons_of_mem _ hc)]; decide)
  · exact absurd hplain (by rw [hnot c (hc ▸ List.mem_cons_self)]; decide)

/-- What every command starts with. -/
theorem splitWords_uci {uciBin : String} (hbin : uciBin ∈ uciBinaries) (rest : List Char) :
    splitWords .plain none ((uciBin ++ " -q set ").toList ++ rest) =
      (splitWords .plain none rest).map
        ([uciBin.toList, "-q".toList, "set".toList] ++ ·) := by
  have hliteral : ∀ uciBin ∈ uciBinaries,
      uciBin.toList ≠ [] ∧ isLiteral uciBin.toList = true := by decide
  obtain ⟨hnonempty, hplain⟩ := hliteral uciBin hbin
  have hwords : (uciBin ++ " -q set ").toList ++ rest =
      uciBin.toList ++ ' ' :: ("-q".toList ++ ' ' :: ("set".toList ++ ' ' :: rest)) := by simp
  rw [hwords, splitWords_literals hnonempty hplain, splitWords_space,
    splitWords_literals (by decide) (by decide), splitWords_space,
    splitWords_literals (by decide) (by decide), splitWords_space, Option.map_map, Option.map_map]
  rfl

/-- The one argument that follows, which ends with a quoted text. -/
theorem shellWords_command {uciBin command : String} (hbin : uciBin ∈ uciBinaries)
    (start text : List Char)
    (hcommand : command.toList = (uciBin ++ " -q set ").toList ++ (start ++ quoted text))
    (hstart : ∀ c ∈ start, c ∉ specials ∧ c ≠ '\x00') (htext : '\x00' ∉ text) :
    shellWords command = some [uciBin, "-q", "set", String.ofList (start ++ text)] := by
  have hargument : splitWords .plain none (start ++ quoted text) = some [start ++ text] := by
    rw [← List.append_nil (quoted text)]
    cases start with
    | nil => exact splitWords_quoted
    | cons c start =>
        have hliteral := isLiteral_iff.mpr fun d hd => (hstart d hd).1
        rw [splitWords_literals (List.cons_ne_nil _ _) hliteral, splitWords_quoted]
        rfl
  have hnul : '\x00' ∉ command.toList := by
    have hbins : ∀ uciBin ∈ uciBinaries, '\x00' ∉ (uciBin ++ " -q set ").toList := by decide
    rw [hcommand, List.mem_append, List.mem_append, not_or, not_or]
    exact ⟨hbins uciBin hbin, fun hmem => (hstart _ hmem).2 rfl, nul_notMem_quoted htext⟩
  have hwords : splitWords .plain none command.toList =
      some [uciBin.toList, "-q".toList, "set".toList, start ++ text] := by
    rw [hcommand, splitWords_uci hbin, hargument]
    rfl
  rw [shellWords_eq hnul hwords]
  simp

/-- A quoted value is one word, and the commands pass it in one argument. -/
theorem shellQuote_oneWord (value : String) (hvalue : '\x00' ∉ value.toList) :
    shellQuote value = UciAdapter.shellQuote value ∧
    shellWords (shellQuote value) = some [value] ∧
    (∀ word rest, splitWords .plain word ((shellQuote value).toList ++ rest) =
      splitWords .plain (some (word.getD [] ++ value.toList)) rest) ∧
    ∀ uciBin ∈ uciBinaries, ∀ key, isPlainKey key = true →
      shellWords (setCommand uciBin key value) =
        some [uciBin, "-q", "set", key ++ "=" ++ value] ∧
      shellWords (UciAdapter.setCommand uciBin key value) =
        some [uciBin, "-q", "set", key ++ "=" ++ value] := by
  refine ⟨(shellQuote_eq value).symm, ?_, fun word rest => ?_, fun uciBin hbin key hkey => ?_⟩
  · have hword : splitWords .plain none (shellQuote value).toList = some [value.toList] := by
      rw [toList_shellQuote, ← List.append_nil (quoted _)]
      exact splitWords_quoted
    have hnul : '\x00' ∉ (shellQuote value).toList := by
      rw [toList_shellQuote]
      exact nul_notMem_quoted hvalue
    rw [shellWords_eq hnul hword]
    simp
  · rw [toList_shellQuote]
    exact splitWords_quoted
  · have hliteral := literal_of_isPlainKey hkey
    constructor
    -- the engine quotes the assignment as a whole
    · have hassignment : '\x00' ∉ (key ++ "=" ++ value).toList := by
        simp only [String.toList_append, List.mem_append, not_or]
        exact ⟨⟨fun hmem => (hliteral _ hmem).2 rfl, by decide⟩, hvalue⟩
      rw [shellWords_command hbin [] (key ++ "=" ++ value).toList
        (by simp [setCommand, toList_shellQuote]) nofun hassignment]
      simp [← String.toList_inj]
    -- the daemon quotes the value only, so the key has to be plain
    · have hstart : ∀ c ∈ key.toList ++ ['='], c ∉ specials ∧ c ≠ '\x00' := by
        simp only [List.forall_mem_append, List.forall_mem_singleton]
        exact ⟨hliteral, by decide⟩
      rw [shellWords_command hbin (key.toList ++ ['=']) value.toList
        (by simp [UciAdapter.setCommand, shellQuote_eq, toList_shellQuote]) hstart hvalue]
      simp [← String.toList_inj]

/-- A value with a quote, and one that would be a command of its own. -/
theorem shellQuote_reboot :
    shellWords (shellQuote "it's; reboot $(x)\\") = some ["it's; reboot $(x)\\"] ∧
      shellWords (UciAdapter.setCommand "uci" "tr69.mgmt_srv.url" "'; reboot #") =
        some ["uci", "-q", "set", "tr69.mgmt_srv.url='; reboot #"] := by
  have hword := shellQuote_oneWord "it's; reboot $(x)\\" (by decide)
  have hcommand := (shellQuote_oneWord "'; reboot #" (by decide)).2.2.2 "uci" (by decide)
    "tr69.mgmt_srv.url" (by decide)
  exact ⟨hword.2.1, hcommand.2⟩

end Tr069d
