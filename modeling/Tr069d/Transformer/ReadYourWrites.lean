import Tr069d.Daemon.Reading
import Tr069d.Transformer.MockBackend

/-!
# Reading what was written

After a batch that was taken, on either backend, `getParameterValues` returns for
each name the last value that the batch gives for it, and for the other options
what it returned before.  Both backends read an option by `raw_get`, so that it is
enough to know what the batch does to that (`Took`).

* `lastValue` and `valueAfter` are the specification: the last item of a name, and what a
  read of it returns.
* `applyWrites_staged` is the induction on the batch.
* `took_of_exec` goes through the two backends, and `readYourWrites_of_ok` is the result
  for every option, those that the batch does not name included.
-/

namespace Tr069d

open Effects

/-! ## What is read -/

/-- The parameter lives in a UCI option. -/
def isUciBacked (path : String) : Bool :=
  (deviceMap.lookup path).any fun spec => spec.uci.isSome

/-- `engine.getParameterValues` with the secrets revealed. -/
def Engine.revealed (engine : Engine) (store : Store) (paths : List String) :
    List ParameterValue × List String :=
  ((engine.getParameterValues paths true).run uciHandler store).1

/-- The last value that a batch gives for a parameter. -/
def lastValue (path : String) : List ParameterValue → Option String
  | [] => none
  | item :: rest => (lastValue path rest).or (if item.name = path then some item.value else none)

/-- What a value of a batch reads as: its normalized form, or the default if
that form is empty. -/
def shownValue (path raw : String) : String :=
  match deviceMap.lookup path with
  | none => ""
  | some spec =>
      match normalize spec raw with
      | .ok value => if value == "" then spec.default.getD "" else value
      | .error _ => ""

/-- What is read after a batch, from what was read before. -/
def valueAfter (items : List ParameterValue) (parameterKey : String) (value : ParameterValue) :
    ParameterValue :=
  { value with value :=
      if value.name = Engine.parameterKeyPath then parameterKey
      else
        match lastValue value.name items with
        | some raw => shownValue value.name raw
        | none => value.value }

/-- Every request for options is answered with the values of the batch, and
otherwise with those that it was answered with before. -/
def ReadYourWrites (items : List ParameterValue) (parameterKey : String)
    (before after : List String → List ParameterValue × List String) : Prop :=
  ∀ paths, (∀ path ∈ paths, isUciBacked path = true) →
    ∃ values, before paths = (values, []) ∧ values.map ParameterValue.name = paths ∧
      after paths = (values.map (valueAfter items parameterKey), [])

/-! ## Reading options -/

/-- What is read for an option. -/
def Engine.optionValue (engine : Engine) (store : Store) (path : String) (spec : Spec)
    (location : UciLocation) : ParameterValue :=
  ⟨path, valueOrDefault spec (engine.rawValue store (uciKey location)), "xsd:" ++ spec.type.name⟩

/-- The value is what is read for the option of a parameter. -/
def Engine.OptionRead (engine : Engine) (store : Store) (path : String) (value : ParameterValue) :
    Prop :=
  ∃ spec location, deviceMap.lookup path = some spec ∧ spec.uci = some location ∧
    value = engine.optionValue store path spec location

theorem names_of_optionRead {engine : Engine} {store : Store} {paths : List String}
    {values : List ParameterValue} (h : List.Forall₂ (engine.OptionRead store) paths values) :
    values.map ParameterValue.name = paths := by
  induction h with
  | nil => rfl
  | cons hvalue _ ih =>
      obtain ⟨spec, location, -, -, rfl⟩ := hvalue
      rw [List.map_cons, ih]
      rfl

theorem getter_eq_none_of_mapped {path : String} {spec : Spec} {location : UciLocation}
    (hlookup : deviceMap.lookup path = some spec) (hmapped : spec.uci = some location) :
    spec.getter = none :=
  deviceMap.of_lookup_eq_some (P := fun spec => spec.uci ≠ none → spec.getter = none)
    (by decide) hlookup (by simp [hmapped])

theorem exists_of_isUciBacked {path : String} (h : isUciBacked path = true) :
    ∃ spec location, deviceMap.lookup path = some spec ∧ spec.uci = some location := by
  obtain ⟨spec, hlookup, hmapped⟩ := (Option.any_eq_true _ _).mp h
  obtain ⟨location, hlocation⟩ := Option.isSome_iff_exists.mp hmapped
  exact ⟨spec, location, hlookup, hlocation⟩

section Reading

variable {engine : Engine} (hshipped : engine.model = deviceMap) (store : Store)

include hshipped

theorem run_read_option {path : String} {spec : Spec} {location : UciLocation}
    (hlookup : deviceMap.lookup path = some spec) (hmapped : spec.uci = some location) :
    (engine.read path true).run uciHandler store =
      (some (engine.optionValue store path spec location).value, store) := by
  unfold Engine.read Engine.optionValue
  simp only [hshipped, hlookup, Bool.not_true, Bool.and_false, Bool.false_eq_true, if_false,
    getter_eq_none_of_mapped hlookup hmapped, hmapped, Prog.run_bind, run_rawGet_eq]
  cases engine.rawValue store (uciKey location) <;> rfl

/-- A request for options is answered name by name. -/
theorem revealed_options {paths : List String}
    (hbacked : ∀ path ∈ paths, isUciBacked path = true) :
    ∃ values, engine.revealed store paths = (values, []) ∧
      List.Forall₂ (engine.OptionRead store) paths values := by
  have hloop : ∃ values, (Engine.getParameterValues.loop engine true paths).run uciHandler store =
      ((values, []), store) ∧ List.Forall₂ (engine.OptionRead store) paths values := by
    induction paths with
    | nil => exact ⟨[], rfl, .nil⟩
    | cons path rest ih =>
        obtain ⟨hpath, hrest⟩ := List.forall_mem_cons.mp hbacked
        obtain ⟨values, hrun, hvalues⟩ := ih hrest
        obtain ⟨spec, location, hlookup, hmapped⟩ := exists_of_isUciBacked hpath
        refine ⟨_, ?_, .cons ⟨spec, location, hlookup, hmapped, rfl⟩ hvalues⟩
        simp only [Engine.getParameterValues.loop, hshipped, hlookup, Prog.run_bind, run_trace,
          run_read_option hshipped store hlookup hmapped, hrun, Option.getD_some,
          Prog.pure_eq_done, Prog.run_done]
        rfl
  obtain ⟨values, hrun, hvalues⟩ := hloop
  refine ⟨values, ?_, hvalues⟩
  rw [Engine.revealed, Engine.getParameterValues]
  simp only [Prog.run_bind, run_trace, hrun]

end Reading

/-! ## What a batch writes -/

/-- `raw_get` reads the writes of the batch, and else what it read before. -/
def Took (written : List StagedValue) (before after : String → Option String) : Prop :=
  ∀ key, after key = applyWrites written before key

/-- An option of the batch holds the last value given for it. -/
theorem applyWrites_staged {items : List ParameterValue} {staged : List StagedValue}
    (hstaged : List.Forall₂ (Staged deviceMap) items staged) {path : String} {spec : Spec}
    {location : UciLocation} (hlookup : deviceMap.lookup path = some spec)
    (hmapped : spec.uci = some location) (view : String → Option String) :
    match lastValue path items with
    | some raw => ∃ value, normalize spec raw = .ok value ∧
        applyWrites staged view (uciKey location) = some value
    | none => applyWrites staged view (uciKey location) = view (uciKey location) := by
  induction hstaged generalizing view with
  | nil => rfl
  | @cons item first rest others hfirst _ ih =>
      rw [applyWrites_cons, lastValue]
      have hlater := ih (Function.update view first.key (some first.value))
      cases hlast : lastValue path rest with
      | some raw =>
          rw [hlast] at hlater
          exact hlater
      | none =>
          rw [hlast] at hlater
          by_cases hname : item.name = path
          · -- the last item of this name
            have hspec : first.spec = spec := by
              rw [← hname] at hlookup
              exact Option.some.inj (hfirst.lookup.symm.trans hlookup)
            have hlocation : first.location = location := by
              have hfound := first.mapped
              rw [hspec] at hfound
              exact Option.some.inj (hfound.symm.trans hmapped)
            rw [if_pos hname, Option.none_or]
            refine ⟨first.value, hspec ▸ hfirst.normalized, hlater.trans ?_⟩
            rw [StagedValue.key, hlocation, Function.update_self]
          · rw [if_neg hname, Option.none_or]
            -- another name is another option, since no two names share one
            have hother : uciKey location ≠ first.key := fun hkey => hname
              (name_eq_of_uciKey_eq hfirst.lookup hlookup first.mapped hmapped hkey.symm)
            exact hlater.trans (Function.update_of_ne hother ..)

/-- The parameter key is a text without further conditions than its length. -/
theorem parameterKey_spec {spec : Spec}
    (hlookup : deviceMap.lookup Engine.parameterKeyPath = some spec) :
    spec.type = .string ∧ spec.default.getD "" = "" := by
  have hall : ∀ entry ∈ deviceMap.parameters, entry.1 = Engine.parameterKeyPath →
      entry.2.type = .string ∧ entry.2.default.getD "" = "" := by
    decide
  exact hall _ (DeviceMap.mem_of_lookup_eq_some hlookup) rfl

/-- The parameter key is stored as it is given. -/
theorem value_of_normalize_parameterKey {spec : Spec}
    (hlookup : deviceMap.lookup Engine.parameterKeyPath = some spec) {parameterKey value : String}
    (hvalue : normalize spec parameterKey = .ok value) :
    value = parameterKey ∧ spec.default.getD "" = "" := by
  obtain ⟨htype, hdefault⟩ := parameterKey_spec hlookup
  exact ⟨eq_of_normalizeType (by simp [htype]) (normalizeType_of_normalize hvalue), hdefault⟩

theorem valueOrDefault_some (spec : Spec) (value : String) :
    valueOrDefault spec (some value) = if value == "" then spec.default.getD "" else value := rfl

/-- What is read after a batch that was taken. -/
theorem optionValue_after {engine engine' : Engine} {store store' : Store}
    {items : List ParameterValue} {parameterKey : String} {written : List StagedValue}
    (hcheck : Engine.checkAll deviceMap items parameterKey = .ok written)
    (htook : Took written (engine.rawValue store) (engine'.rawValue store'))
    {path : String} {spec : Spec} {location : UciLocation}
    (hlookup : deviceMap.lookup path = some spec) (hmapped : spec.uci = some location) :
    engine'.optionValue store' path spec location =
      valueAfter items parameterKey (engine.optionValue store path spec location) := by
  obtain ⟨staged, normalizedKey, rfl, hstaged, hkeyLookup, hkeyValue⟩ := checkAll_eq_ok hcheck
  obtain ⟨hvalue, hdefault⟩ := value_of_normalize_parameterKey hkeyLookup hkeyValue
  -- the parameter key is written last
  have hraw : engine'.rawValue store' (uciKey location) =
      Function.update (applyWrites staged (engine.rawValue store)) normalizedKey.key
        (some normalizedKey.value) (uciKey location) := by
    rw [htook, applyWrites, List.foldl_append]
    rfl
  unfold Engine.optionValue valueAfter
  rw [ParameterValue.mk.injEq]
  refine ⟨rfl, ?_, rfl⟩
  dsimp only
  -- so it wins over an item of the batch with its name
  by_cases hpath : path = Engine.parameterKeyPath
  · subst hpath
    obtain rfl : normalizedKey.spec = spec := Option.some.inj (hkeyLookup.symm.trans hlookup)
    have hlocation : normalizedKey.location = location :=
      Option.some.inj (normalizedKey.mapped.symm.trans hmapped)
    rw [if_pos rfl, hraw, StagedValue.key, hlocation, Function.update_self, valueOrDefault_some,
      hdefault, hvalue]
    split
    · rename_i hempty
      exact (eq_of_beq hempty).symm
    · rfl
  · have hother : uciKey location ≠ normalizedKey.key := fun hkey => hpath
      (name_eq_of_uciKey_eq hlookup hkeyLookup hmapped normalizedKey.mapped hkey)
    rw [if_neg hpath, hraw, Function.update_of_ne hother]
    have hlast := applyWrites_staged hstaged hlookup hmapped (engine.rawValue store)
    cases hraw : lastValue path items with
    | none =>
        simp only [hraw] at hlast ⊢
        rw [hlast]
    | some raw =>
        simp only [hraw] at hlast ⊢
        obtain ⟨value, hnormalized, happlied⟩ := hlast
        rw [happlied, shownValue, hlookup]
        simp only [hnormalized]
        rfl

theorem optionRead_after {engine engine' : Engine} {store store' : Store}
    {items : List ParameterValue} {parameterKey : String} {written : List StagedValue}
    (hcheck : Engine.checkAll deviceMap items parameterKey = .ok written)
    (htook : Took written (engine.rawValue store) (engine'.rawValue store'))
    {path : String} {value value' : ParameterValue} (h : engine.OptionRead store path value)
    (h' : engine'.OptionRead store' path value') :
    value' = valueAfter items parameterKey value := by
  obtain ⟨spec, location, hlookup, hmapped, rfl⟩ := h
  obtain ⟨spec', location', hlookup', hmapped', rfl⟩ := h'
  obtain rfl : spec' = spec := Option.some.inj (hlookup'.symm.trans hlookup)
  obtain rfl : location' = location := Option.some.inj (hmapped'.symm.trans hmapped)
  exact optionValue_after hcheck htook hlookup hmapped

theorem readYourWrites_of_took {engine engine' : Engine} (hshipped : engine.model = deviceMap)
    (hshipped' : engine'.model = deviceMap) {store store' : Store} {items : List ParameterValue}
    {parameterKey : String} {written : List StagedValue}
    (hcheck : Engine.checkAll deviceMap items parameterKey = .ok written)
    (htook : Took written (engine.rawValue store) (engine'.rawValue store')) :
    ReadYourWrites items parameterKey (engine.revealed store) (engine'.revealed store') := by
  intro paths hbacked
  obtain ⟨values, hbefore, hvalues⟩ := revealed_options hshipped store hbacked
  obtain ⟨values', hafter, hvalues'⟩ := revealed_options hshipped' store' hbacked
  refine ⟨values, hbefore, names_of_optionRead hvalues, ?_⟩
  rw [hafter, Prod.mk.injEq]
  refine ⟨?_, rfl⟩
  clear hbefore hafter hbacked
  induction hvalues generalizing values' with
  | nil => cases hvalues' with | nil => rfl
  | cons hvalue _ ih =>
      cases hvalues' with
      | cons hvalue' hrest' =>
          rw [List.map_cons, ih _ hrest', optionRead_after hcheck htook hvalue hvalue']

/-! ## The transaction under any faults -/

/-- What is in an option of the batch does not depend on what was in it. -/
theorem applyWrites_of_mem {written : List StagedValue} {key : String}
    (hkey : key ∈ written.map StagedValue.key) (view view' : String → Option String) :
    applyWrites written view key = applyWrites written view' key := by
  induction written generalizing view view' with
  | nil => simp at hkey
  | cons item rest ih =>
      rw [applyWrites_cons, applyWrites_cons]
      by_cases hrest : key ∈ rest.map StagedValue.key
      · exact ih hrest _ _
      · have hitem : key = item.key := by simpa [hrest] using hkey
        rw [applyWrites_of_not_mem hrest, applyWrites_of_not_mem hrest, hitem,
          Function.update_self, Function.update_self]

namespace Engine

variable {mayFail : SystemCall → Prop} {engine : Engine} {s : Store}

theorem wp_saveOriginal_alone (hmock : engine.mock = none) {key : String} {originals : Originals}
    {post : Originals → Store → Prop} (h : ∀ originals', post originals' s) :
    wp (uciEnv mayFail) anyCall (engine.saveOriginal key originals) post s := by
  unfold saveOriginal
  split_ifs
  · exact h originals
  · rw [wp_bind]
    exact wp_rawGet_alone hmock fun value _ => h _

theorem wp_saveOriginals_alone (hmock : engine.mock = none) {staged : List StagedValue}
    {originals : Originals} {post : Originals → Store → Prop}
    (h : ∀ originals', post originals' s) :
    wp (uciEnv mayFail) anyCall (engine.saveOriginals staged originals) post s := by
  induction staged generalizing originals with
  | nil => exact h originals
  | cons item rest ih =>
      rw [saveOriginals, wp_bind]
      refine wp_saveOriginal_alone hmock fun originals' => ?_
      rw [wp_bind]
      exact wp_trace_alone ih

/-- Sets that all succeed have applied the writes. -/
theorem wp_setAll_alone {items : List StagedValue} :
    wp (uciEnv mayFail) anyCall (engine.setAll items)
      (fun failed s' => failed = none → s'.view = applyWrites items s.view) s := by
  induction items generalizing s with
  | nil => exact fun _ => rfl
  | cons item rest ih =>
      rw [setAll, wp_bind]
      unfold setStaged
      rw [wp_bind]
      refine wp_trace_alone ?_
      rw [wp_bind]
      refine wp_uciSet_alone ?_ fun _ => ?_
      · rw [wp_bind]
        refine wp_trace_alone ?_
        rw [Prog.pure_eq_done, wp_done, if_pos rfl]
        refine wp_mono ih fun failed s' hrest hnone => ?_
        rw [hrest hnone, view_set]
        rfl
      · rw [wp_bind]
        refine wp_trace_alone ?_
        rw [Prog.pure_eq_done, wp_done, if_neg Bool.false_ne_true]
        exact fun hnone => absurd hnone (Option.some_ne_none _)

theorem wp_readBackAll_alone (hmock : engine.mock = none) {items : List StagedValue} :
    wp (uciEnv mayFail) anyCall (engine.readBackAll items)
      (fun failed s' => s' = s ∧
        (failed = none → ∀ item ∈ items, (s.view item.key).map printed = some item.value)) s := by
  induction items with
  | nil => exact ⟨rfl, fun _ => by simp⟩
  | cons item rest ih =>
      rw [readBackAll, wp_bind]
      unfold readBack
      rw [wp_bind]
      refine wp_rawGet_alone hmock fun applied happlied => ?_
      rw [wp_bind]
      refine wp_trace_alone ?_
      rw [Prog.pure_eq_done, wp_done]
      by_cases hsame : applied = some item.value
      · -- what reads back is what is in the store
        have hitem : (s.view item.key).map printed = some item.value := by
          rcases happlied with hget | ⟨hnone, -⟩
          · exact hget ▸ hsame
          · rw [hnone] at hsame
            cases hsame
        rw [if_pos (beq_iff_eq.mpr hsame)]
        refine wp_mono ih fun failed s' hrest => ⟨hrest.1, fun hnone => ?_⟩
        exact List.forall_mem_cons.mpr ⟨hitem, hrest.2 hnone⟩
      · rw [if_neg (mt beq_iff_eq.mp hsame)]
        exact ⟨rfl, fun hnone => absurd hnone (Option.some_ne_none _)⟩

/-- A transaction that succeeds has applied the writes, and they read back. -/
theorem wp_commitStaged_alone (hmock : engine.mock = none) {staged : List StagedValue}
    {parameterKey : StagedValue} :
    wp (uciEnv mayFail) anyCall (engine.commitStaged staged parameterKey)
      (fun result s' => result = .ok () →
        s'.view = applyWrites (staged ++ [parameterKey]) s.view ∧
          ReadsBack (staged ++ [parameterKey]) s.view) s := by
  -- a rollback ends in an error, of which nothing is said here
  have hrollback : ∀ {count : Nat} {originals : Originals} {error : SetError} (s₁ : Store),
      wp (uciEnv mayFail) anyCall
        (do engine.restoreOriginals count originals; return Except.error error)
        (fun result s' => result = .ok () →
          s'.view = applyWrites (staged ++ [parameterKey]) s.view ∧
            ReadsBack (staged ++ [parameterKey]) s.view) s₁ := by
    intro count originals error s₁
    rw [wp_bind]
    exact wp_mono (wp_anyCall _ _) fun _ _ _ hok => nomatch hok
  unfold commitStaged
  rw [wp_bind]
  refine wp_saveOriginals_alone hmock fun originals₁ => ?_
  rw [wp_bind]
  refine wp_saveOriginal_alone hmock fun originals => ?_
  rw [wp_bind]
  refine wp_trace_alone ?_
  rw [wp_bind]
  refine wp_mono wp_setAll_alone fun failed s₁ hset => ?_
  cases failed with
  | some item => exact hrollback s₁
  | none =>
      have hview := hset rfl
      dsimp only
      rw [wp_bind]
      refine wp_trace_alone ?_
      rw [wp_bind]
      refine wp_uciCommit_alone ?_ fun _ => ?_
      · rw [if_pos rfl, wp_bind]
        refine wp_trace_alone ?_
        rw [wp_bind]
        refine wp_mono (wp_readBackAll_alone hmock) ?_
        rintro failed s₂ ⟨rfl, hread⟩
        cases failed with
        | some item => exact hrollback _
        | none =>
            -- the commit moves the options to the file, and changes no reading
            have hreads := hread rfl
            rw [view_commit, hview] at hreads
            dsimp only
            rw [wp_bind]
            refine wp_notifyRuntimeReload_alone fun _ => ?_
            rw [wp_bind]
            refine wp_trace_alone fun _ => ⟨?_, hreads⟩
            rw [view_commit, hview]
      · rw [if_neg Bool.false_ne_true, wp_bind]
        exact wp_trace_alone (hrollback s₁)

end Engine

/-! ## The result -/

theorem Engine.rawValue_of_mock {engine : Engine} {mock : MockDatabase}
    (hmock : engine.mock = some mock) (store : Store) :
    engine.rawValue store = fun key => mock.values.lookup key := by
  funext key
  rw [Engine.rawValue, hmock]

theorem Engine.rawValue_of_uci {engine : Engine} (hmock : engine.mock = none) (store : Store) :
    engine.rawValue store = captured store := by
  funext key
  rw [Engine.rawValue, hmock]

/-- A transaction on UCI that succeeds. -/
theorem took_of_view {written : List StagedValue} {before after : Store}
    (hview : after.view = applyWrites written before.view)
    (hreads : Engine.ReadsBack written before.view) :
    Took written (captured before) (captured after) := by
  intro key
  rw [captured, hview]
  by_cases hkey : key ∈ written.map StagedValue.key
  · obtain ⟨item, hitem, rfl⟩ := List.mem_map.mp hkey
    obtain ⟨hvalue, hunbroken⟩ := Engine.applyWrites_eq_of_readBack hreads hitem
    rw [applyWrites_of_mem hkey (captured before) before.view, hvalue, Option.map_some,
      printed_of_noTrailingBreak hunbroken]
  · rw [applyWrites_of_not_mem hkey, applyWrites_of_not_mem hkey]
    rfl

/-- A call that returns true has taken what validation accepted. -/
theorem took_of_exec {mayFail : SystemCall → Prop} {engine engine' : Engine} {store store' : Store}
    {items : List ParameterValue} {parameterKey : String}
    (hexec : Exec (uciEnv mayFail) (engine.setParameterValues items parameterKey) store
      (.ok (), engine') store') :
    engine'.model = engine.model ∧
      ∃ written, Engine.checkAll engine.model items parameterKey = .ok written ∧
        Took written (engine.rawValue store) (engine'.rawValue store') := by
  have hpost : wp (uciEnv mayFail) anyCall (engine.setParameterValues items parameterKey)
      (fun result s' => result.1 = .ok () → result.2.model = engine.model ∧
        ∃ written, Engine.checkAll engine.model items parameterKey = .ok written ∧
          Took written (engine.rawValue store) (result.2.rawValue s')) store := by
    refine Engine.wp_setParameterValues_alone (fun error _ hok => nomatch hok) ?_ ?_
    -- the mock backend writes its table and saves it
    · intro mock staged normalizedKey hmock hcheck
      unfold Engine.commitMock
      rw [wp_bind, wp_ask]
      refine ⟨trivial, fun failure s' _ => ?_⟩
      cases failure with
      | some message =>
          rw [wp_bind]
          exact Engine.wp_trace_alone fun hok => nomatch hok
      | none =>
          rw [wp_bind]
          refine Engine.wp_trace_alone fun _ => ⟨rfl, _, hcheck, fun key => ?_⟩
          rw [Engine.rawValue_of_mock hmock]
          exact lookup_foldl_insert _ _ key
    -- the other backend has read back what it wrote
    · intro staged normalizedKey hmock hcheck
      refine wp_mono (Engine.wp_commitStaged_alone hmock) fun result s' hresult hok => ?_
      obtain ⟨hview, hreads⟩ := hresult hok
      refine ⟨rfl, _, hcheck, ?_⟩
      rw [Engine.rawValue_of_uci hmock, Engine.rawValue_of_uci hmock]
      exact took_of_view hview hreads
  exact hexec.of_wp hpost rfl

/-- Only options of the map are taken. -/
theorem isUciBacked_of_checkAll {items : List ParameterValue} {parameterKey : String}
    {written : List StagedValue}
    (hcheck : Engine.checkAll deviceMap items parameterKey = .ok written)
    {item : ParameterValue} (hitem : item ∈ items) : isUciBacked item.name = true := by
  obtain ⟨staged, normalizedKey, -, hstaged, -, -⟩ := checkAll_eq_ok hcheck
  obtain ⟨first, -, hfirst⟩ := exists_of_forall₂_of_mem hstaged hitem
  rw [isUciBacked, hfirst.lookup, Option.any_some, first.mapped]
  rfl

/-- Whatever fails, a batch for which `setParameterValues` returns true is
what is read afterwards, and nothing else has changed. -/
theorem readYourWrites_of_ok {mayFail : SystemCall → Prop} {engine engine' : Engine}
    (hshipped : engine.model = deviceMap) {store store' : Store}
    {items : List ParameterValue} {parameterKey : String}
    (hexec : Exec (uciEnv mayFail) (engine.setParameterValues items parameterKey) store
      (.ok (), engine') store') :
    (∀ item ∈ items, isUciBacked item.name = true) ∧
      ReadYourWrites items parameterKey (engine.revealed store) (engine'.revealed store') := by
  obtain ⟨hmodel, written, hcheck, htook⟩ := took_of_exec hexec
  rw [hshipped] at hcheck
  exact ⟨fun item => isUciBacked_of_checkAll hcheck,
    readYourWrites_of_took hshipped (hmodel.trans hshipped) hcheck htook⟩

/-- A batch that gives a user name twice and turns the periodic Inform off. -/
def renamed (first second : String) : List ParameterValue :=
  [⟨"Device.ManagementServer.Username", first, ""⟩,
   ⟨"Device.ManagementServer.PeriodicInformEnable", "off", "xsd:boolean"⟩,
   ⟨"Device.ManagementServer.Username", second, ""⟩]

/-- UCI takes the same name twice, the mock backend also two names. -/
theorem renamed_read :
    let uci := (plainEngine.setParameterValues (renamed "cpe" "cpe") "step-2").run faultFree
      (Store.ofCommitted fun _ => none)
    let mock := ((plainEngine.onMock emptyMock).setParameterValues (renamed "first" "second")
      "step-2").run faultFree (Store.ofCommitted fun _ => none)
    ReadYourWrites (renamed "cpe" "cpe") "step-2"
        (plainEngine.revealed (Store.ofCommitted fun _ => none)) (uci.1.2.revealed uci.2) ∧
      ReadYourWrites (renamed "first" "second") "step-2"
        ((plainEngine.onMock emptyMock).revealed (Store.ofCommitted fun _ => none))
        (mock.1.2.revealed mock.2) := by
  intro uci mock
  have huci : uci = ((.ok (), uci.1.2), uci.2) := Prod.ext (Prod.ext rfl rfl) rfl
  have hmock : mock = ((.ok (), mock.1.2), mock.2) := Prod.ext (Prod.ext rfl rfl) rfl
  have hexec : Exec (uciEnv fun _ => False)
      (plainEngine.setParameterValues (renamed "cpe" "cpe") "step-2") _ uci.1 uci.2 :=
    exec_run faultFree_mem_uciEnv _ _
  have hexecMock : Exec (uciEnv fun _ => False)
      ((plainEngine.onMock emptyMock).setParameterValues (renamed "first" "second") "step-2") _
      mock.1 mock.2 :=
    exec_run faultFree_mem_uciEnv _ _
  rw [huci] at hexec
  rw [hmock] at hexecMock
  exact ⟨(readYourWrites_of_ok rfl hexec).2, (readYourWrites_of_ok rfl hexecMock).2⟩

end Tr069d
