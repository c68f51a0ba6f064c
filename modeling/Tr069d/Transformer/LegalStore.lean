import Tr069d.Transformer.Legal

/-!
# Only legal values are stored

Over a sequence of calls of `setParameterValues`, with any faults, an option only
gets values that validation accepted or that the rollback read of it before.
Both are legal as long as no value slips through (`Slips`) and no rollback can
read a required value of line breaks only as the empty string (`Proper`).

* `LegalState` is the invariant, for the mock database and for UCI.
* `legalItems_of_checkAll` and `readsLegal_of_checkAll` say that what is written forward
  and what a rollback writes is legal, and `wp_rollback_legal` puts it back.
* `legalState_of_exec` is one call and `Calls.legalState` a run of them.
-/

namespace Tr069d

open Effects

/-- A legal value of the writable parameters that live in an option. -/
def LegalFor (key value : String) : Prop :=
  ∀ path spec location, deviceMap.lookup path = some spec → spec.access = .readWrite →
    spec.uci = some location → uciKey location = key → Legal spec value

/-- What is stored for the options, in the mock database or else in UCI. -/
def Engine.Holds (engine : Engine) (store : Store) (key value : String) : Prop :=
  match engine.mock with
  | some mock => mock.values.lookup key = some value
  | none => store.view key = some value ∨ store.committed key = some value

/-- Every writable option is unset or legal. -/
def LegalState (engine : Engine) (store : Store) : Prop :=
  ∀ key value, engine.Holds store key value → LegalFor key value

/-- A call whose batch is refused, or in which no value slips through and, on
UCI, no required option is written whose value reads as the empty string. -/
def Proper (engine : Engine) (store : Store) (items : List ParameterValue)
    (parameterKey : String) : Prop :=
  (∃ error, Engine.checkAll deviceMap items parameterKey = .error error) ∨
    ∀ item ∈ items, ∀ spec, deviceMap.lookup item.name = some spec →
      ¬Slips spec item.value ∧
        (engine.mock = none → spec.required = true → ∀ location, spec.uci = some location →
          ∀ value, store.view (uciKey location) = some value → printed value ≠ "")

/-- A sequence of calls, each with its own faults; `guard` holds of each. -/
inductive Calls (guard : Engine → Store → List ParameterValue → String → Prop) :
    Engine × Store → Engine × Store → Prop
  | refl (state : Engine × Store) : Calls guard state state
  | step {first : Engine × Store} {engine engine' : Engine} {store store' : Store}
      {items : List ParameterValue} {parameterKey : String} {mayFail : SystemCall → Prop}
      {result : Except SetError Unit} (before : Calls guard first (engine, store))
      (hguard : guard engine store items parameterKey)
      (hexec : Exec (uciEnv mayFail) (engine.setParameterValues items parameterKey) store
        (result, engine') store') : Calls guard first (engine', store')

/-! ## The store -/

/-- Every value in the store is legal for its option. -/
def LegalStore (store : Store) : Prop :=
  ∀ key value, store.view key = some value ∨ store.committed key = some value →
    LegalFor key value

theorem LegalStore.set {store : Store} (h : LegalStore store) {key value : String}
    (hvalue : LegalFor key value) : LegalStore (store.set key value) := by
  intro k v hstored
  rw [view_set, committed_set] at hstored
  by_cases hk : k = key
  · rcases hstored with hview | hcommitted
    · rw [hk, Function.update_self] at hview
      rw [hk, ← Option.some.inj hview]
      exact hvalue
    · exact h k v (Or.inr hcommitted)
  · rw [Function.update_of_ne hk] at hstored
    exact h k v hstored

theorem LegalStore.delete {store : Store} (h : LegalStore store) (key : String) :
    LegalStore (store.delete key) := by
  intro k v hstored
  rw [view_delete, committed_delete] at hstored
  by_cases hk : k = key
  · rw [hk, Function.update_self] at hstored
    rcases hstored with hview | hcommitted
    · cases hview
    · exact hk ▸ h key v (Or.inr hcommitted)
  · rw [Function.update_of_ne hk] at hstored
    exact h k v hstored

theorem LegalStore.commit {store : Store} (h : LegalStore store) (package : String) :
    LegalStore (store.commit package) := by
  intro k v hstored
  rw [view_commit] at hstored
  rcases hstored with hview | hcommitted
  · exact h k v (Or.inl hview)
  · by_cases hk : inPackage package k
    · rw [committed_commit store hk] at hcommitted
      exact h k v (Or.inl hcommitted)
    · simp only [Store.commit, if_neg hk] at hcommitted
      exact h k v (Or.inr hcommitted)

/-! ## The transaction -/

namespace Engine

variable {mayFail : SystemCall → Prop} {engine : Engine} {s : Store}

/-- The values that are to be written. -/
def LegalItems (items : List StagedValue) : Prop :=
  ∀ item ∈ items, LegalFor item.key item.value

/-- The values that a rollback writes. -/
def LegalOriginals (originals : Originals) : Prop :=
  ∀ entry ∈ originals, ∀ value, entry.2 = some value → LegalFor entry.1 value

/-- What is read of the option is legal. -/
def ReadsLegal (store : Store) (key : String) : Prop :=
  ∀ value, store.view key = some value → LegalFor key (printed value)

theorem wp_saveOriginal_legal (hmock : engine.mock = none) {key : String}
    (hkey : ReadsLegal s key) {originals : Originals} (horiginals : LegalOriginals originals) :
    wp (uciEnv mayFail) anyCall (engine.saveOriginal key originals)
      (fun originals' s' => s' = s ∧ LegalOriginals originals') s := by
  unfold saveOriginal
  split_ifs
  · exact ⟨rfl, horiginals⟩
  · rw [wp_bind]
    refine wp_rawGet_alone hmock fun value hvalue => ⟨rfl, fun entry hentry v hv => ?_⟩
    rcases List.mem_append.mp hentry with hold | hnew
    · exact horiginals entry hold v hv
    · rw [List.mem_singleton.mp hnew] at hv ⊢
      rcases hvalue with rfl | ⟨rfl, -⟩
      · obtain ⟨stored, hstored, rfl⟩ := Option.map_eq_some_iff.mp hv
        exact hkey stored hstored
      · cases hv

theorem wp_saveOriginals_legal (hmock : engine.mock = none) {staged : List StagedValue}
    (hstaged : ∀ item ∈ staged, ReadsLegal s item.key) {originals : Originals}
    (horiginals : LegalOriginals originals) :
    wp (uciEnv mayFail) anyCall (engine.saveOriginals staged originals)
      (fun originals' s' => s' = s ∧ LegalOriginals originals') s := by
  induction staged generalizing originals with
  | nil => exact ⟨rfl, horiginals⟩
  | cons item rest ih =>
      obtain ⟨hitem, hrest⟩ := List.forall_mem_cons.mp hstaged
      rw [saveOriginals, wp_bind]
      refine wp_mono (wp_saveOriginal_legal hmock hitem horiginals) ?_
      rintro originals₁ _ ⟨rfl, horiginals₁⟩
      rw [wp_bind]
      exact wp_trace_alone (ih hrest horiginals₁)

theorem wp_restoreLoop_legal (hlegal : LegalStore s) {originals : Originals}
    (horiginals : LegalOriginals originals) :
    wp (uciEnv mayFail) anyCall (engine.restoreLoop originals) (fun _ s' => LegalStore s') s := by
  induction originals generalizing s with
  | nil => exact hlegal
  | cons entry rest ih =>
      obtain ⟨key, value⟩ := entry
      obtain ⟨hentry, hrest⟩ := List.forall_mem_cons.mp horiginals
      rw [restoreLoop, wp_bind]
      cases value with
      | none =>
          rw [restoreOriginal, wp_bind]
          refine wp_trace_alone ?_
          rw [wp_bind]
          apply wp_uciDelete_alone
          · exact fun _ => ih (hlegal.delete key) hrest
          · exact fun _ => ih hlegal hrest
      | some value =>
          rw [restoreOriginal, wp_bind]
          refine wp_trace_alone ?_
          rw [wp_bind]
          apply wp_uciSet_alone
          · exact ih (hlegal.set (hentry value rfl)) hrest
          · exact fun _ => ih hlegal hrest

theorem wp_restoreOriginals_legal (hlegal : LegalStore s) {count : Nat} {originals : Originals}
    (horiginals : LegalOriginals originals) :
    wp (uciEnv mayFail) anyCall (engine.restoreOriginals count originals)
      (fun _ s' => LegalStore s') s := by
  have hperm := engine.pairs.perm originals
  unfold restoreOriginals
  rw [wp_bind]
  refine wp_trace_alone ?_
  rw [wp_bind]
  refine wp_mono (wp_restoreLoop_legal hlegal fun entry hentry =>
    horiginals entry (hperm.mem_iff.mp hentry)) ?_
  intro _ s₁ hs₁
  rw [wp_bind]
  apply wp_uciCommit_alone
  · exact wp_trace_alone (hs₁.commit "tr69")
  · exact fun _ => wp_trace_alone hs₁

theorem wp_setAll_legal (hlegal : LegalStore s) {items : List StagedValue}
    (hitems : LegalItems items) :
    wp (uciEnv mayFail) anyCall (engine.setAll items) (fun _ s' => LegalStore s') s := by
  induction items generalizing s with
  | nil => exact hlegal
  | cons item rest ih =>
      obtain ⟨hitem, hrest⟩ := List.forall_mem_cons.mp hitems
      rw [setAll, wp_bind]
      unfold setStaged
      rw [wp_bind]
      refine wp_trace_alone ?_
      rw [wp_bind]
      apply wp_uciSet_alone
      · rw [wp_bind]
        exact wp_trace_alone (ih (hlegal.set hitem) hrest)
      · intro _
        rw [wp_bind]
        exact wp_trace_alone hlegal

theorem wp_readBackAll_legal (hmock : engine.mock = none) (hlegal : LegalStore s)
    {items : List StagedValue} :
    wp (uciEnv mayFail) anyCall (engine.readBackAll items) (fun _ s' => LegalStore s') s := by
  induction items with
  | nil => exact hlegal
  | cons item rest ih =>
      rw [readBackAll, wp_bind]
      unfold readBack
      rw [wp_bind]
      refine wp_rawGet_alone hmock fun value _ => ?_
      rw [wp_bind]
      refine wp_trace_alone ?_
      rw [Prog.pure_eq_done, wp_done]
      split_ifs
      · exact ih
      · exact hlegal

/-- Wherever the transaction stops, the rollback writes legal values. -/
theorem wp_rollback_legal (hlegal : LegalStore s) {originals : Originals}
    (horiginals : LegalOriginals originals) {count : Nat} {error : SetError} :
    wp (uciEnv mayFail) anyCall
      (do engine.restoreOriginals count originals; return .error error)
      (fun (_ : Except SetError Unit) s' => LegalStore s') s := by
  rw [wp_bind]
  refine wp_mono (wp_restoreOriginals_legal hlegal horiginals) ?_
  intro _ s' hs'
  exact hs'

theorem wp_commitStaged_legal (hmock : engine.mock = none) (hlegal : LegalStore s)
    {staged : List StagedValue} {parameterKey : StagedValue}
    (hitems : LegalItems (staged ++ [parameterKey]))
    (hreads : ∀ item ∈ staged ++ [parameterKey], ReadsLegal s item.key) :
    wp (uciEnv mayFail) anyCall (engine.commitStaged staged parameterKey)
      (fun _ s' => LegalStore s') s := by
  have hstaged : ∀ item ∈ staged, ReadsLegal s item.key :=
    fun item hitem => hreads item (List.mem_append_left _ hitem)
  unfold commitStaged
  rw [wp_bind]
  refine wp_mono (wp_saveOriginals_legal hmock hstaged (fun entry hentry => absurd hentry
    List.not_mem_nil)) ?_
  intro originals₁ s₁ ⟨hs₁, horiginals₁⟩
  rw [hs₁, wp_bind]
  refine wp_mono (wp_saveOriginal_legal hmock (hreads parameterKey (by simp)) horiginals₁) ?_
  intro originals s₂ ⟨hs₂, horiginals⟩
  rw [hs₂, wp_bind]
  refine wp_trace_alone ?_
  rw [wp_bind]
  refine wp_mono (wp_setAll_legal hlegal hitems) ?_
  intro failed s₃ hs₃
  -- a value that cannot be set, a failed commit and a bad read-back all roll back
  cases failed with
  | some item => exact wp_rollback_legal hs₃ horiginals
  | none =>
      dsimp only
      rw [wp_bind]
      refine wp_trace_alone ?_
      rw [wp_bind]
      apply wp_uciCommit_alone
      · rw [if_pos rfl, wp_bind]
        refine wp_trace_alone ?_
        rw [wp_bind]
        refine wp_mono (wp_readBackAll_legal hmock (hs₃.commit "tr69")) ?_
        intro failed s₅ hs₅
        cases failed with
        | some item => exact wp_rollback_legal hs₅ horiginals
        | none =>
            dsimp only
            rw [wp_bind]
            refine wp_notifyRuntimeReload_alone fun _ => ?_
            rw [wp_bind]
            exact wp_trace_alone hs₅
      · intro _
        rw [if_neg Bool.false_ne_true, wp_bind]
        exact wp_trace_alone (wp_rollback_legal hs₃ horiginals)

theorem wp_commitMock_legal {mock : MockDatabase} (hmock : engine.mock = some mock)
    (hlegal : LegalState engine s) {staged : List StagedValue} {parameterKey : StagedValue}
    (hitems : LegalItems (staged ++ [parameterKey])) :
    wp (uciEnv mayFail) anyCall (engine.commitMock mock staged parameterKey)
      (fun result s' => LegalState result.2 s') s := by
  have htable : ∀ key value, mock.values.lookup key = some value → LegalFor key value := by
    intro key value hvalue
    refine hlegal key value ?_
    unfold Holds
    rwa [hmock]
  unfold commitMock
  rw [wp_bind, wp_ask]
  refine ⟨trivial, fun saved s₁ hs₁ => ?_⟩
  rw [hs₁]
  cases saved with
  | some message =>
      rw [wp_bind]
      exact wp_trace_alone hlegal
  | none =>
      rw [wp_bind]
      refine wp_trace_alone ?_
      show ∀ key value, _ → LegalFor key value
      -- a key of the table afterwards is one of the batch or was there before
      intro key value hvalue
      unfold Holds at hvalue
      dsimp only at hvalue
      rw [lookup_foldl_insert] at hvalue
      by_cases hmem : key ∈ (staged ++ [parameterKey]).map StagedValue.key
      · obtain ⟨item, hitem, rfl, happlied⟩ := exists_applyWrites_eq hmem fun k =>
          mock.values.lookup k
        rw [happlied] at hvalue
        exact Option.some.inj hvalue ▸ hitems item hitem
      · rw [applyWrites_of_not_mem hmem] at hvalue
        exact htable key value hvalue

end Engine

/-! ## The batch -/

theorem eq_of_uciKey_eq {path path' : String} {spec spec' : Spec} {location location' : UciLocation}
    (hlookup : deviceMap.lookup path = some spec) (hlookup' : deviceMap.lookup path' = some spec')
    (hmapped : spec.uci = some location) (hmapped' : spec'.uci = some location')
    (hkey : uciKey location = uciKey location') : spec = spec' := by
  obtain rfl := name_eq_of_uciKey_eq hlookup hlookup' hmapped hmapped' hkey
  exact Option.some.inj (hlookup.symm.trans hlookup')

/-- A writable option is written for an item of the batch: the parameter key is read-only. -/
theorem source_of_checkAll {items : List ParameterValue} {parameterKey : String}
    {written : List StagedValue}
    (hcheck : Engine.checkAll deviceMap items parameterKey = .ok written)
    {item : StagedValue} (hitem : item ∈ written) :
    ∃ path, deviceMap.lookup path = some item.spec ∧ (item.spec.access = .readWrite →
      ∃ value ∈ items, value.name = path ∧ normalize item.spec value.value = .ok item.value) := by
  obtain ⟨staged, normalizedKey, rfl, hstaged, hkey, -⟩ := checkAll_eq_ok hcheck
  rcases List.mem_append.mp hitem with hitem | hitem
  · obtain ⟨value, hvalue, hitemStaged⟩ := exists_of_forall₂_of_mem hstaged.flip hitem
    exact ⟨value.name, hitemStaged.lookup, fun _ => ⟨value, hvalue, rfl, hitemStaged.normalized⟩⟩
  · rw [List.mem_singleton.mp hitem]
    refine ⟨_, hkey, fun haccess => ?_⟩
    have hreadOnly : (deviceMap.lookup Engine.parameterKeyPath).map Spec.access =
        some .readOnly := by
      decide
    rw [hkey, Option.map_some, haccess] at hreadOnly
    cases hreadOnly

/-- What is accepted for an option is legal for it, unless it slips through. -/
theorem legalItems_of_checkAll {items : List ParameterValue} {parameterKey : String}
    {written : List StagedValue}
    (hcheck : Engine.checkAll deviceMap items parameterKey = .ok written)
    (hslips : ∀ item ∈ items, ∀ spec, deviceMap.lookup item.name = some spec →
      ¬Slips spec item.value) : Engine.LegalItems written := by
  intro item hitem path' spec location hlookup' haccess hmapped hkey
  obtain ⟨path, hlookup, hsource⟩ := source_of_checkAll hcheck hitem
  have hspec : spec = item.spec := eq_of_uciKey_eq hlookup' hlookup hmapped item.mapped hkey
  subst hspec
  obtain ⟨value, hvalue, rfl, hnormalized⟩ := hsource haccess
  exact legal_of_normalize (regular_of_lookup hlookup) (hslips value hvalue _ hlookup) hnormalized

/-- Reading an option of the batch gives a legal value. -/
theorem readsLegal_of_checkAll {store : Store} (hlegal : LegalStore store)
    {items : List ParameterValue} {parameterKey : String} {written : List StagedValue}
    (hcheck : Engine.checkAll deviceMap items parameterKey = .ok written)
    (hrequired : ∀ item ∈ items, ∀ spec, deviceMap.lookup item.name = some spec →
      spec.required = true → ∀ location, spec.uci = some location →
        ∀ value, store.view (uciKey location) = some value → printed value ≠ "") :
    ∀ item ∈ written, Engine.ReadsLegal store item.key := by
  intro item hitem stored hstored path' spec location hlookup' haccess hmapped hkey
  obtain ⟨path, hlookup, hsource⟩ := source_of_checkAll hcheck hitem
  have hspec : spec = item.spec := eq_of_uciKey_eq hlookup' hlookup hmapped item.mapped hkey
  subst hspec
  obtain ⟨value, hvalue, rfl, -⟩ := hsource haccess
  -- printing strips line breaks, which only leaves nothing where nothing is allowed
  refine legal_printed (regular_of_lookup hlookup)
    (hlegal _ stored (Or.inl hstored) _ _ location hlookup' haccess hmapped hkey) fun hspec => ?_
  exact hrequired value hvalue _ hlookup hspec _ item.mapped stored hstored

/-! ## The sequence -/

/-- A proper call keeps the state legal. -/
theorem legalState_of_exec {engine engine' : Engine} (hmodel : engine.model = deviceMap)
    {store store' : Store} {items : List ParameterValue} {parameterKey : String}
    (hproper : Proper engine store items parameterKey) (hlegal : LegalState engine store)
    {mayFail : SystemCall → Prop} {result : Except SetError Unit}
    (hexec : Exec (uciEnv mayFail) (engine.setParameterValues items parameterKey) store
      (result, engine') store') : LegalState engine' store' := by
  -- only the batch that passes the checks writes, to the table or to UCI
  have hwp : wp (uciEnv mayFail) anyCall (engine.setParameterValues items parameterKey)
      (fun result s' => LegalState result.2 s') store → LegalState engine' store' :=
    fun hwp => hexec.of_wp hwp
  refine hwp (Engine.wp_setParameterValues_alone (fun _ _ => hlegal) ?_ ?_)
  · intro mock staged normalizedKey hmock hcheck
    rw [hmodel] at hcheck
    have hbatch := hproper.resolve_left fun ⟨error, herror⟩ => by
      rw [hcheck] at herror
      cases herror
    exact Engine.wp_commitMock_legal hmock hlegal
      (legalItems_of_checkAll hcheck fun item hitem spec hlookup =>
        (hbatch item hitem spec hlookup).1)
  · intro staged normalizedKey hmock hcheck
    rw [hmodel] at hcheck
    have hbatch := hproper.resolve_left fun ⟨error, herror⟩ => by
      rw [hcheck] at herror
      cases herror
    have hholds : ∀ s key value, engine.Holds s key value ↔
        s.view key = some value ∨ s.committed key = some value := by
      intro s key value
      unfold Engine.Holds
      rw [hmock]
    have hstore : LegalStore store := fun key value hstored =>
      hlegal key value ((hholds store key value).mpr hstored)
    refine wp_mono (Engine.wp_commitStaged_legal hmock hstore
      (legalItems_of_checkAll hcheck fun item hitem spec hlookup =>
        (hbatch item hitem spec hlookup).1)
      (readsLegal_of_checkAll hstore hcheck fun item hitem spec hlookup =>
        (hbatch item hitem spec hlookup).2 hmock)) ?_
    exact fun _ s' hs' key value hvalue => hs' key value ((hholds s' key value).mp hvalue)

theorem model_eq_of_exec {engine engine' : Engine} {store store' : Store}
    {items : List ParameterValue} {parameterKey : String} {mayFail : SystemCall → Prop}
    {result : Except SetError Unit}
    (hexec : Exec (uciEnv mayFail) (engine.setParameterValues items parameterKey) store
      (result, engine') store') : engine'.model = engine.model := by
  have hmodel : wp (uciEnv mayFail) anyCall (engine.setParameterValues items parameterKey)
      (fun result _ => result.2.model = engine.model) store := by
    refine Engine.wp_setParameterValues_alone (fun _ _ => rfl) ?_ ?_
    · intro mock staged normalizedKey _ _
      unfold Engine.commitMock
      rw [wp_bind, wp_ask]
      refine ⟨trivial, fun saved s₁ _ => ?_⟩
      cases saved with
      | some message =>
          rw [wp_bind]
          exact Engine.wp_trace_alone rfl
      | none =>
          rw [wp_bind]
          exact Engine.wp_trace_alone rfl
    · intro staged normalizedKey _ _
      exact wp_mono (wp_anyCall _ _) fun _ _ _ => rfl
  exact hexec.of_wp hmodel

/-- What one proper call keeps, a run of them keeps. -/
theorem Calls.legalState {first last : Engine × Store} (hcalls : Calls Proper first last)
    (hmodel : first.1.model = deviceMap) (hlegal : LegalState first.1 first.2) :
    last.1.model = deviceMap ∧ LegalState last.1 last.2 := by
  induction hcalls with
  | refl => exact ⟨hmodel, hlegal⟩
  | step _ hproper hexec ih =>
      obtain ⟨hbefore, hstate⟩ := ih
      exact ⟨(model_eq_of_exec hexec).trans hbefore,
        legalState_of_exec hbefore hproper hstate hexec⟩

/-- In a run of proper calls every writable option stays unset or legal, and
what is stored is accepted again as it is. -/
theorem stored_legal_of_calls {engine engine' : Engine} {store store' : Store}
    (hmodel : engine.model = deviceMap)
    (hcalls : Calls Proper (engine, store) (engine', store')) (hlegal : LegalState engine store)
    {path : String} {spec : Spec} {location : UciLocation}
    (hlookup : deviceMap.lookup path = some spec) (haccess : spec.access = .readWrite)
    (hmapped : spec.uci = some location) {value : String}
    (hvalue : engine'.Holds store' (uciKey location) value) :
    Legal spec value ∧ normalize spec value = .ok value := by
  have hstate := (hcalls.legalState hmodel hlegal).2
  have hvalueLegal := hstate _ value hvalue path spec location hlookup haccess hmapped rfl
  exact ⟨hvalueLegal, normalize_of_legal (regular_of_lookup hlookup) hvalueLegal⟩

/-- Setting the time of the periodic Inform on an empty store. -/
def setInformTime (time : String) : (Except SetError Unit × Engine) × Store :=
  (plainEngine.setParameterValues
    [⟨"Device.ManagementServer.PeriodicInformTime", time, "xsd:dateTime"⟩] "").run uciHandler
      (Store.ofCommitted fun _ => none)

/-- The same for the throttle of the notifications. -/
def setThrottle (throttle : String) : (Except SetError Unit × Engine) × Store :=
  (plainEngine.setParameterValues
    [⟨"Device.ManagementServer.DefaultActiveNotificationThrottle", throttle, "xsd:unsignedInt"⟩]
    "").run uciHandler (Store.ofCommitted fun _ => none)

theorem setInformTime_legal :
    isDateTime "2024-02-29T12:00:00Z".toList = true ∧
      normalize (uci "periodic_inform" "time"
        { access := .readWrite, type := .dateTime, default := some "1970-01-01T00:00:00Z" })
        "2024-02-29T12:00:00Z" = .ok "2024-02-29T12:00:00Z" := by
  have hempty : LegalState plainEngine.toEngine (Store.ofCommitted fun _ => none) := by
    intro key value hvalue
    rcases hvalue with hview | hcommitted
    · cases hview
    · cases hcommitted
  have hproper : Proper plainEngine.toEngine (Store.ofCommitted fun _ => none)
      [⟨"Device.ManagementServer.PeriodicInformTime", "2024-02-29T12:00:00Z", "xsd:dateTime"⟩]
      "" := by
    refine Or.inr (List.forall_mem_singleton.mpr fun spec hlookup => ?_)
    cases hlookup
    exact ⟨fun hslips => absurd hslips.2 (by decide), fun _ hrequired => nomatch hrequired⟩
  have hcalls : Calls Proper (plainEngine.toEngine, Store.ofCommitted fun _ => none)
      ((setInformTime "2024-02-29T12:00:00Z").1.2, (setInformTime "2024-02-29T12:00:00Z").2) :=
    .step (.refl _) hproper (exec_run (uciHandler_mem_uciEnv fun _ => False) _ _)
  have hstored : (setInformTime "2024-02-29T12:00:00Z").2.view
      (uciKey ⟨"tr69", "periodic_inform", "time"⟩) = some "2024-02-29T12:00:00Z" := rfl
  exact @stored_legal_of_calls _ _ _ _ plainEngine.shipped hcalls hempty
    "Device.ManagementServer.PeriodicInformTime" _ _ rfl rfl rfl _ (Or.inl hstored)

/-- A month 13 with a tail is stored, and so is a number beyond 32 bits. -/
theorem illegal_values_stored :
    (setInformTime "2024-13-45T99:99:99 o'clock").1.1 = .ok () ∧
      (setInformTime "2024-13-45T99:99:99 o'clock").2.committed "tr69.periodic_inform.time" =
        some "2024-13-45T99:99:99 o'clock" ∧
      isDateTime "2024-13-45T99:99:99 o'clock".toList = false ∧
      (setThrottle "4294967296").1.1 = .ok () ∧
      (setThrottle "4294967296").2.committed
        "tr69.mgmt_srv.defaultactivenotificationthrottle" = some "4294967296" := by
  refine ⟨?_, ?_, ?_, ?_, ?_⟩
  · rfl
  · rfl
  · decide
  · rfl
  · rfl

end Tr069d
