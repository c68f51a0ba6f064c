import Mathlib.Data.Finset.Sort
import Mathlib.Data.String.Basic
import Tr069d.Text.Lines
import Tr069d.Text.Search
import Tr069d.Transformer.Getters
import Tr069d.Transformer.MockBackend

/-!
# The file of the mock database

`load_mock` and `save_mock` of `transformer.lua`.  A key and its value take one line,
`key=value`, and nothing in it is escaped.  So what is loaded is always `Clean`, and a
table is loaded as it was saved exactly if it is `Clean` (`mockTable_mockText_iff`).

Validation lets line breaks through.  An engine that took one for an option and
still has it differs from an engine that loads its file (`durable_iff`).
-/

namespace Tr069d

open Effects

/-! ## The text of a table -/

/-- `line:match("^([^=]+)=(.*)$")` -/
def mockEntry (line : List Char) : Option (String × String) :=
  let key := line.takeWhile (· ≠ '=')
  if key.isEmpty then none
  else
    match line.dropWhile (· ≠ '=') with
    | [] => none
    | _ :: value => some (String.ofList key, String.ofList value)

/-- One round of the loop of `load_mock`. -/
def loadLine (values : Table) (line : List Char) : Table :=
  match mockEntry line with
  | some (key, value) => values.insert key value
  | none => values

/-- `load_mock`, of the text of the file. -/
def mockTable (text : String) : Table :=
  (linesOf text.toList).foldl loadLine ∅

/-- `load_mock`: a file that cannot be opened is an empty table. -/
def loadMock : Option String → Table
  | none => ∅
  | some text => mockTable text

/-- The line of a key, without its break. -/
def mockLine (values : Table) (key : String) : List Char :=
  key.toList ++ '=' :: ((values.lookup key).getD "").toList

/-- The text that `save_mock` writes: the keys in order. -/
def mockText (values : Table) : String :=
  String.ofList (((values.keys.sort (· ≤ ·)).map (mockLine values)).flatMap fun line =>
    line ++ ['\n'])

/-- A text that can be the key of a line. -/
structure CleanKey (key : String) : Prop where
  nonempty : key ≠ ""
  noEquals : '=' ∉ key.toList
  oneLine : '\n' ∉ key.toList

/-- A table that its lines can hold. -/
structure Clean (values : Table) : Prop where
  key : ∀ key ∈ values, CleanKey key
  value : ∀ key value, values.lookup key = some value → '\n' ∉ value.toList

theorem mockEntry_eq_some_iff {line : List Char} {key value : String} :
    mockEntry line = some (key, value) ↔
      line = key.toList ++ '=' :: value.toList ∧ key ≠ "" ∧ '=' ∉ key.toList := by
  constructor
  · intro h
    have hline := List.takeWhile_append_dropWhile (p := fun c => decide (c ≠ '=')) (l := line)
    have hstop := List.head?_dropWhile_not (fun c => decide (c ≠ '=')) line
    have hequals := not_mem_takeWhile_ne line '='
    unfold mockEntry at h
    dsimp only at h
    split_ifs at h with hempty
    split at h
    · cases h
    · rename_i first rest hrest
      rw [hrest] at hline hstop
      obtain rfl : first = '=' := by simpa using hstop
      cases h
      rw [String.toList_ofList, String.toList_ofList]
      refine ⟨hline.symm, fun hkey => hempty ?_, hequals⟩
      rw [String.ofList_eq_empty_iff.mp hkey, List.isEmpty_nil]
  · rintro ⟨rfl, hkey, hequals⟩
    have hnonempty : key.toList.isEmpty = false := by simpa using hkey
    simp only [mockEntry, takeWhile_ne_append_cons hequals, dropWhile_ne_append_cons hequals,
      hnonempty, Bool.false_eq_true, if_false, String.ofList_toList]

/-! ## What is loaded -/

theorem Clean.empty : Clean ∅ :=
  ⟨fun key hkey => absurd hkey Finmap.notMem_empty, fun key value hvalue => by
    rw [Finmap.lookup_empty] at hvalue
    cases hvalue⟩

theorem Clean.insert {values : Table} (h : Clean values) {key value : String}
    (hkey : CleanKey key) (hvalue : '\n' ∉ value.toList) : Clean (values.insert key value) := by
  refine ⟨fun other hother => ?_, fun other found hfound => ?_⟩
  · rcases Finmap.mem_insert.mp hother with rfl | hother
    · exact hkey
    · exact h.key other hother
  · by_cases hsame : other = key
    · rw [hsame, Finmap.lookup_insert] at hfound
      cases hfound
      exact hvalue
    · rw [Finmap.lookup_insert_of_ne _ hsame] at hfound
      exact h.value other found hfound

theorem clean_loadLine {values : Table} (h : Clean values) {line : List Char}
    (hline : '\n' ∉ line) : Clean (loadLine values line) := by
  unfold loadLine
  cases hentry : mockEntry line with
  | none => exact h
  | some entry =>
      obtain ⟨key, value⟩ := entry
      obtain ⟨rfl, hkey, hequals⟩ := mockEntry_eq_some_iff.mp hentry
      rw [List.mem_append, List.mem_cons, not_or, not_or] at hline
      exact h.insert ⟨hkey, hequals, hline.1⟩ hline.2.2

theorem clean_foldl_loadLine {values : Table} (h : Clean values) {lines : List (List Char)}
    (hlines : ∀ line ∈ lines, '\n' ∉ line) : Clean (lines.foldl loadLine values) := by
  induction lines generalizing values with
  | nil => exact h
  | cons line lines ih =>
      obtain ⟨hline, hrest⟩ := List.forall_mem_cons.mp hlines
      exact ih (clean_loadLine h hline) hrest

/-- Whatever the file holds, the table is clean. -/
theorem clean_loadMock (file : Option String) : Clean (loadMock file) := by
  cases file with
  | none => exact Clean.empty
  | some text => exact clean_foldl_loadLine Clean.empty fun line => not_mem_of_mem_linesOf

/-! ## Loading what was saved -/

/-- The line of a key is read as its entry. -/
theorem loadLine_mockLine {values : Table} {key : String} (hkey : CleanKey key) (loaded : Table) :
    loadLine loaded (mockLine values key) =
      loaded.insert key ((values.lookup key).getD "") := by
  have hentry : mockEntry (mockLine values key) = some (key, (values.lookup key).getD "") :=
    mockEntry_eq_some_iff.mpr ⟨rfl, hkey.nonempty, hkey.noEquals⟩
  rw [loadLine, hentry]

theorem lookup_foldl_mockLine {values : Table} {keys : List String}
    (hkeys : ∀ key ∈ keys, CleanKey key) (loaded : Table) (key : String) :
    ((keys.map (mockLine values)).foldl loadLine loaded).lookup key =
      if key ∈ keys then some ((values.lookup key).getD "") else loaded.lookup key := by
  induction keys generalizing loaded with
  | nil => simp
  | cons first keys ih =>
      obtain ⟨hfirst, hrest⟩ := List.forall_mem_cons.mp hkeys
      rw [List.map_cons, List.foldl_cons, loadLine_mockLine hfirst, ih hrest]
      by_cases hmem : key ∈ keys
      · rw [if_pos hmem, if_pos (List.mem_cons_of_mem _ hmem)]
      · by_cases hsame : key = first
        · rw [if_neg hmem, hsame, Finmap.lookup_insert, if_pos List.mem_cons_self]
        · rw [if_neg hmem, if_neg (by simp [hsame, hmem]), Finmap.lookup_insert_of_ne _ hsame]

theorem not_mem_mockLine {values : Table} (h : Clean values) {key : String} (hkey : key ∈ values) :
    '\n' ∉ mockLine values key := by
  obtain ⟨value, hvalue⟩ := Finmap.mem_iff.mp hkey
  simp only [mockLine, hvalue, Option.getD_some, List.mem_append, List.mem_cons, not_or]
  exact ⟨(h.key key hkey).oneLine, by decide, h.value key value hvalue⟩

/-- `load_mock` undoes `save_mock` exactly on the clean tables. -/
theorem mockTable_mockText_iff {values : Table} :
    mockTable (mockText values) = values ↔ Clean values := by
  constructor
  · intro hsame
    rw [← hsame]
    exact clean_loadMock (some (mockText values))
  · intro hclean
    have hsorted : ∀ key, key ∈ values.keys.sort (· ≤ ·) ↔ key ∈ values := fun key => by
      rw [Finset.mem_sort, Finmap.mem_keys]
    have hlines : ∀ line ∈ (values.keys.sort (· ≤ ·)).map (mockLine values), '\n' ∉ line := by
      intro line hline
      obtain ⟨key, hkey, rfl⟩ := List.mem_map.mp hline
      exact not_mem_mockLine hclean ((hsorted key).mp hkey)
    refine Finmap.ext_lookup fun key => ?_
    rw [mockTable, mockText, String.toList_ofList, linesOf_flatMap hlines,
      lookup_foldl_mockLine fun key hkey => hclean.key key ((hsorted key).mp hkey)]
    by_cases hkey : key ∈ values
    · obtain ⟨value, hvalue⟩ := Finmap.mem_iff.mp hkey
      rw [if_pos ((hsorted key).mpr hkey), hvalue, Option.getD_some]
    · rw [if_neg fun hmem => hkey ((hsorted key).mp hmem), Finmap.lookup_empty,
        Finmap.lookup_eq_none.mpr hkey]

/-! ## An engine and its file -/

/-- The text of every file. -/
abbrev Files : Type :=
  String → Option String

/-- What can keep `save_mock` from replacing the file. -/
inductive SaveFault
  | cannotOpen (message : String)
  | cannotRename
  deriving DecidableEq, Repr

/-- `save_mock`: the error message, and the files. -/
def saveMock (path : String) (values : Table) (files : Files) :
    Option SaveFault → Option String × Files
  | some (.cannotOpen message) => (some message, files)
  | some .cannotRename =>
      (some "cannot replace mock database",
        Function.update files (path ++ ".tmp") (some (mockText values)))
  | none =>
      (none, Function.update (Function.update files (path ++ ".tmp") none) path
        (some (mockText values)))

/-- The files while a call runs; UCI is not asked, and every other command fails. -/
def disk (fault : Option SaveFault) : (c : SystemCall) → Files → system.Answer c × Files
  | .saveMock path values, files => saveMock path values files fault
  | .uciGet _ _, files => (none, files)
  | .uciSet _ _ _, files => (false, files)
  | .uciDelete _ _, files => (false, files)
  | .uciCommit _ _, files => (false, files)
  | .capture _, files => (none, files)
  | .executeOk _, files => (false, files)
  | .stderr _, files => ((), files)
  | .log _ _, files => ((), files)

theorem quiet_disk (fault : Option SaveFault) : Quiet (disk fault) :=
  fun _ _ => rfl

/-- The getters read the mock database that the engine has now. -/
def Engine.bindGetters (engine : Engine) : Engine :=
  { engine with getters := engine.getterTable }

/-- `M.new` with the mock database at `path`. -/
def CpeEngine.openMock (engine : CpeEngine) (path : String) (files : Files) : Engine :=
  (engine.onMock ⟨path, loadMock (files path)⟩).bindGetters

/-- A call of `engine.setParameterValues`, and what happens to the file in it. -/
structure SetCall where
  items : List ParameterValue
  parameterKey : String
  fault : Option SaveFault

/-- The engine and the files after a call. -/
def SetCall.run (state : Engine × Files) (call : SetCall) : Engine × Files :=
  let outcome := (state.1.setParameterValues call.items call.parameterKey).run
    (disk call.fault) state.2
  (outcome.1.2.bindGetters, outcome.2)

/-- An engine that is opened, and the calls on it. -/
def CpeEngine.afterCalls (engine : CpeEngine) (path : String) (files : Files)
    (calls : List SetCall) : Engine × Files :=
  calls.foldl SetCall.run (engine.openMock path files, files)

/-- The engines return the same for every parameter, and hold the same for every key. -/
structure ReadAlike (reopened engine : Engine) : Prop where
  parameters : ∀ {σ : Type} (handler : (c : SystemCall) → σ → system.Answer c × σ)
    (paths : List String) (revealSecrets : Bool) (s : σ),
      (reopened.getParameterValues paths revealSecrets).run handler s =
        (engine.getParameterValues paths revealSecrets).run handler s
  keys : ∀ key, reopened.mockValue key = engine.mockValue key

/-! ## What the calls assign -/

/-- The option that a parameter is kept in. -/
def uciOption (name : String) : Option String :=
  ((deviceMap.lookup name).bind Spec.uci).map uciKey

/-- Validation accepts the batch, and the file is replaced. -/
def SetCall.kept (call : SetCall) : Bool :=
  (Engine.checkAll deviceMap call.items call.parameterKey).isOk && call.fault.isNone

/-- An option and the value for it, as it came. -/
def assignment (name value : String) : Option (String × String) :=
  (uciOption name).map fun key => (key, value)

/-- The options of a batch and of its parameter key. -/
def SetCall.assigned (call : SetCall) : List (String × String) :=
  (call.items.filterMap fun item => assignment item.name item.value) ++
    (assignment Engine.parameterKeyPath call.parameterKey).toList

/-- What the calls assign that are kept. -/
def keptAssignments (calls : List SetCall) : List (String × String) :=
  (calls.filter SetCall.kept).flatMap SetCall.assigned

/-- The value that an option is assigned last, after `before`. -/
def lastAssigned (key : String) (before : Option String)
    (assignments : List (String × String)) : Option String :=
  assignments.foldl (fun last entry => if entry.1 = key then some entry.2 else last) before

/-- No option is left with a value that has a line break. -/
def OneLine (calls : List SetCall) : Prop :=
  ∀ key value, lastAssigned key none (keptAssignments calls) = some value → '\n' ∉ value.toList

/-! ## Line breaks in values -/

/-- There is a value, and it has a line break. -/
def HasBreak (value : Option String) : Prop :=
  ∃ text ∈ value, '\n' ∈ text.toList

/-- A boolean is one of these words before it is rewritten, and one of two after. -/
theorem not_mem_of_normalizeType_boolean {raw value : String}
    (h : normalizeType .boolean raw = .ok value) : '\n' ∉ raw.toList ∧ '\n' ∉ value.toList := by
  have hwords : ∀ word ∈ ["1", "true", "yes", "on"].map String.toList ++
      ["0", "false", "no", "off"].map String.toList, '\n' ∉ word := by
    decide
  have hlower : '\n' ∈ raw.toList → '\n' ∈ raw.toList.map Char.toLower :=
    fun hmem => List.mem_map.mpr ⟨'\n', hmem, by decide⟩
  simp only [normalizeType] at h
  split_ifs at h with htrue hfalse
  · cases h
    exact ⟨fun hmem => hwords _ (List.mem_append_left _ htrue) (hlower hmem), by decide⟩
  · cases h
    exact ⟨fun hmem => hwords _ (List.mem_append_right _ hfalse) (hlower hmem), by decide⟩

/-- Validation keeps the line breaks of a value. -/
theorem newline_mem_normalize {spec : Spec} {raw value : String}
    (h : normalize spec raw = .ok value) : '\n' ∈ value.toList ↔ '\n' ∈ raw.toList := by
  have htype := normalizeType_of_normalize h
  by_cases hboolean : spec.type = .boolean
  · rw [hboolean] at htype
    obtain ⟨hraw, hvalue⟩ := not_mem_of_normalizeType_boolean htype
    exact iff_of_false hvalue hraw
  · rw [eq_of_normalizeType hboolean htype]

/-- What is staged for an assignment. -/
structure StagedFor (staged : StagedValue) (entry : String × String) : Prop where
  key : staged.key = entry.1
  lineBreak : '\n' ∈ staged.value.toList ↔ '\n' ∈ entry.2.toList

theorem exists_assignment {name raw : String} {staged : StagedValue}
    (hlookup : deviceMap.lookup name = some staged.spec)
    (hvalue : normalize staged.spec raw = .ok staged.value) :
    ∃ entry, assignment name raw = some entry ∧ StagedFor staged entry := by
  have hoption : uciOption name = some staged.key := by
    rw [uciOption, hlookup, Option.bind_some, staged.mapped]
    rfl
  refine ⟨(staged.key, raw), ?_, rfl, newline_mem_normalize hvalue⟩
  rw [assignment, hoption, Option.map_some]

theorem forall₂_assignments {items : List ParameterValue} {staged : List StagedValue}
    (h : List.Forall₂ (Staged deviceMap) items staged) :
    List.Forall₂ StagedFor staged
      (items.filterMap fun item => assignment item.name item.value) := by
  induction h with
  | nil => exact .nil
  | cons hitem _ ih =>
      obtain ⟨entry, hentry, hstaged⟩ := exists_assignment hitem.lookup hitem.normalized
      simp only [List.filterMap_cons, hentry]
      exact .cons hstaged ih

/-- What an accepted batch writes is what it assigns. -/
theorem forall₂_assigned {call : SetCall} {written : List StagedValue}
    (h : Engine.checkAll deviceMap call.items call.parameterKey = .ok written) :
    List.Forall₂ StagedFor written call.assigned := by
  obtain ⟨staged, normalizedKey, rfl, hitems, hlookup, hkey⟩ := checkAll_eq_ok h
  obtain ⟨entry, hentry, hstaged⟩ := exists_assignment hlookup hkey
  rw [SetCall.assigned, hentry, Option.toList_some]
  exact List.rel_append (forall₂_assignments hitems) (.cons hstaged .nil)

/-- After the writes, a key has a line break if it was assigned one last. -/
theorem hasBreak_applyWrites {written : List StagedValue} {assignments : List (String × String)}
    (h : List.Forall₂ StagedFor written assignments) {view : String → Option String}
    {key : String} {before : Option String} (hbefore : HasBreak (view key) ↔ HasBreak before) :
    HasBreak (applyWrites written view key) ↔ HasBreak (lastAssigned key before assignments) := by
  induction h generalizing view before with
  | nil => exact hbefore
  | @cons item entry written assignments hitem _ ih =>
      rw [applyWrites_cons, lastAssigned, List.foldl_cons]
      refine ih ?_
      by_cases hkey : key = item.key
      · rw [hkey, Function.update_self, if_pos hitem.key.symm]
        simp only [HasBreak, Option.mem_def, Option.some.injEq, exists_eq_left', hitem.lineBreak]
      · rw [Function.update_of_ne hkey, if_neg fun hsame => hkey (hsame.symm.trans hitem.key.symm)]
        exact hbefore

/-! ## Every run of calls -/

/-- The keys of the map can be keys of a line. -/
theorem cleanKey_of_lookup {name : String} {staged : StagedValue}
    (hlookup : deviceMap.lookup name = some staged.spec) : CleanKey staged.key := by
  have hall : ∀ entry ∈ deviceMap.parameters, ∀ location ∈ entry.2.uci,
      uciKey location ≠ "" ∧ '=' ∉ (uciKey location).toList ∧ '\n' ∉ (uciKey location).toList := by
    decide
  obtain ⟨hnonempty, hequals, hbreak⟩ := deviceMap.of_lookup_eq_some
    (P := fun spec => ∀ location ∈ spec.uci, uciKey location ≠ "" ∧
      '=' ∉ (uciKey location).toList ∧ '\n' ∉ (uciKey location).toList)
    hall hlookup staged.location staged.mapped
  exact ⟨hnonempty, hequals, hbreak⟩

/-- After calls that assigned `assignments`, the engine holds `values`, and the file
holds them or was saved with them. -/
structure Holding (engine : CpeEngine) (path : String) (assignments : List (String × String))
    (state : Engine × Files) (values : Table) : Prop where
  engine : state.1 = (engine.onMock ⟨path, values⟩).bindGetters
  file : loadMock (state.2 path) = values ∨ state.2 path = some (mockText values)
  keys : ∀ key ∈ values, CleanKey key
  breaks : ∀ key, HasBreak (values.lookup key) ↔ HasBreak (lastAssigned key none assignments)

theorem Engine.bindGetters_withMock (engine : Engine) (mock : Option MockDatabase) :
    ({ engine.bindGetters with mock := mock } : Engine).bindGetters =
      ({ engine with mock := mock } : Engine).bindGetters := by
  unfold Engine.bindGetters
  rw [({ engine with mock := mock } : Engine).getterTable_withGetters]

theorem path_ne_temporary (path : String) : path ≠ path ++ ".tmp" := by
  intro h
  have hlength := congrArg String.length h
  rw [String.length_append] at hlength
  have htemporary : ".tmp".length = 4 := by decide
  omega

/-- Engines on the same backend read alike exactly if their mock databases are equal. -/
theorem readAlike_iff (engine : CpeEngine) (path : String) (values other : Table) :
    ReadAlike (engine.onMock ⟨path, values⟩).bindGetters
      (engine.onMock ⟨path, other⟩).bindGetters ↔ values = other := by
  constructor
  · intro h
    exact Finmap.ext_lookup h.keys
  · rintro rfl
    exact ⟨fun _ _ _ _ => rfl, fun _ => rfl⟩

namespace Holding

variable {engine : CpeEngine} {path : String} {assignments : List (String × String)}
  {state : Engine × Files} {values : Table}

theorem start (engine : CpeEngine) (path : String) (files : Files) :
    Holding engine path [] (engine.openMock path files, files) (loadMock (files path)) := by
  have hclean := clean_loadMock (files path)
  refine ⟨rfl, Or.inl rfl, hclean.key, fun key => iff_of_false ?_ ?_⟩
  · rintro ⟨value, hvalue, hbreak⟩
    exact hclean.value key value hvalue hbreak
  · rintro ⟨value, hvalue, -⟩
    cases hvalue

/-- A call that leaves the file alone and the mock database of the engine. -/
theorem kept_out (h : Holding engine path assignments state values) {files : Files}
    (hfiles : files path = state.2 path) :
    Holding engine path assignments (state.1.bindGetters, files) values := by
  refine ⟨?_, ?_, h.keys, h.breaks⟩
  · rw [h.engine]
    exact Engine.bindGetters_withMock (engine.onMock ⟨path, values⟩) _
  · dsimp only
    rw [hfiles]
    exact h.file

/-- A call that is kept. -/
theorem written (h : Holding engine path assignments state values) {call : SetCall}
    {written : List StagedValue}
    (hcheck : Engine.checkAll deviceMap call.items call.parameterKey = .ok written)
    {files : Files} :
    let values' := written.foldl (fun values item => values.insert item.key item.value) values
    files path = some (mockText values') →
      Holding engine path (assignments ++ call.assigned)
        (({ state.1 with mock := some ⟨path, values'⟩ } : Engine).bindGetters, files) values' := by
  intro values' hfile
  have hlookup := lookup_foldl_insert written values
  refine ⟨?_, Or.inr hfile, fun key hkey => ?_, fun key => ?_⟩
  · rw [h.engine]
    exact Engine.bindGetters_withMock (engine.onMock ⟨path, values⟩) _
  · by_cases hmem : key ∈ written.map StagedValue.key
    · obtain ⟨item, hitem, rfl⟩ := List.mem_map.mp hmem
      obtain ⟨name, hname⟩ := lookup_of_checkAll hcheck hitem
      exact cleanKey_of_lookup hname
    · have hold : key ∈ values := by
        rw [← Finmap.lookup_isSome] at hkey ⊢
        rwa [hlookup, applyWrites_of_not_mem hmem] at hkey
      exact h.keys key hold
  · rw [hlookup, lastAssigned, List.foldl_append]
    exact hasBreak_applyWrites (forall₂_assigned hcheck) (h.breaks key)

/-- What one call does. -/
theorem run (h : Holding engine path assignments state values) (call : SetCall) :
    ∃ values', Holding engine path
      (assignments ++ if call.kept then call.assigned else []) (call.run state) values' := by
  have hmock : state.1.mock = some ⟨path, values⟩ := by
    rw [h.engine]
    rfl
  have hmodel : state.1.model = deviceMap := by
    rw [h.engine]
    exact engine.shipped
  have htemporary := path_ne_temporary path
  unfold SetCall.run SetCall.kept
  rw [Engine.run_setParameterValues_mock _ _ (quiet_disk _) hmock, ← hmodel]
  cases hcheck : Engine.checkAll state.1.model call.items call.parameterKey with
  | error error =>
      refine ⟨values, ?_⟩
      simp only [Except.isOk, Except.toBool, Bool.false_and, Bool.false_eq_true, if_false,
        List.append_nil]
      exact h.kept_out rfl
  | ok staged =>
      cases hfault : call.fault with
      | some fault =>
          refine ⟨values, ?_⟩
          simp only [Option.isNone_some, Bool.and_false, Bool.false_eq_true, if_false,
            List.append_nil]
          -- the data base is renamed into place only after it was written, and kept until then
          cases fault with
          | cannotOpen message => exact h.kept_out rfl
          | cannotRename => exact h.kept_out (Function.update_of_ne htemporary _ _)
      | none =>
          rw [hmodel] at hcheck
          exact ⟨_, h.written hcheck (Function.update_self ..)⟩

/-- What a run of calls does. -/
theorem foldl_run (h : Holding engine path assignments state values) (calls : List SetCall) :
    ∃ values', Holding engine path (assignments ++ keptAssignments calls)
      (calls.foldl SetCall.run state) values' := by
  induction calls generalizing assignments state values with
  | nil =>
      rw [keptAssignments, List.filter_nil, List.flatMap_nil, List.append_nil]
      exact ⟨values, h⟩
  | cons call calls ih =>
      obtain ⟨values₁, h₁⟩ := h.run call
      have hkept : keptAssignments (call :: calls) =
          (if call.kept then call.assigned else []) ++ keptAssignments calls := by
        unfold keptAssignments
        by_cases hcall : call.kept = true <;> simp [hcall]
      rw [List.foldl_cons, hkept, ← List.append_assoc]
      exact ih h₁

/-- The table is loaded from the file if it is clean, and then only. -/
theorem loadMock_eq_iff (h : Holding engine path assignments state values) :
    loadMock (state.2 path) = values ↔ Clean values := by
  rcases h.file with hloaded | hsaved
  · refine iff_of_true hloaded ?_
    rw [← hloaded]
    exact clean_loadMock _
  · rw [hsaved]
    exact mockTable_mockText_iff

theorem clean_iff (h : Holding engine path assignments state values) :
    Clean values ↔ ∀ key value, lastAssigned key none assignments = some value →
      '\n' ∉ value.toList := by
  constructor
  · intro hclean key value hvalue hbreak
    obtain ⟨held, hheld, hheldBreak⟩ := (h.breaks key).mpr ⟨value, hvalue, hbreak⟩
    exact hclean.value key held hheld hheldBreak
  · intro hlines
    refine ⟨h.keys, fun key value hvalue hbreak => ?_⟩
    obtain ⟨last, hlast, hlastBreak⟩ := (h.breaks key).mp ⟨value, hvalue, hbreak⟩
    exact hlines key last hlast hlastBreak

/-- An engine that loads the file reads like the one that held the table. -/
theorem readAlike_openMock_iff (h : Holding engine path assignments state values) :
    ReadAlike (engine.openMock path state.2) state.1 ↔
      ∀ key value, lastAssigned key none assignments = some value → '\n' ∉ value.toList := by
  rw [h.engine, CpeEngine.openMock, readAlike_iff]
  exact h.loadMock_eq_iff.trans h.clean_iff

end Holding

/-- The mock database is durable exactly if no option is left with a value that has a
line break. -/
theorem mock_durable_iff (engine : CpeEngine) (path : String) (files : Files)
    (calls : List SetCall) :
    let state := engine.afterCalls path files calls
    ReadAlike (engine.openMock path state.2) state.1 ↔ OneLine calls := by
  intro state
  obtain ⟨values, hholding⟩ := (Holding.start engine path files).foldl_run calls
  exact hholding.readAlike_openMock_iff

/-- A user name with a line break in it that looks like the ACS URL. -/
def nameWithUrl : List SetCall :=
  [⟨[⟨"Device.ManagementServer.Username", "cpe\ntr69.mgmt_srv.url=http://acs", ""⟩], "", none⟩]

theorem nameWithUrl_not_durable :
    let engine := cpeEngine "/bin/ubus" false plainEngine.pairs
    let state := engine.afterCalls "tr69.db" (fun _ => none) nameWithUrl
    ¬ReadAlike (engine.openMock "tr69.db" state.2) state.1 := by
  intro engine state hsame
  obtain ⟨values, hholding⟩ :=
    (Holding.start engine "tr69.db" fun _ => none).foldl_run nameWithUrl
  refine hholding.readAlike_openMock_iff.mp hsame "tr69.mgmt_srv.username"
    "cpe\ntr69.mgmt_srv.url=http://acs" ?_ (by decide)
  rfl

end Tr069d
