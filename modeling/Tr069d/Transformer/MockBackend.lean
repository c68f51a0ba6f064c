import Tr069d.Transformer.AllOrNothing
import Tr069d.Transformer.Alone
import Tr069d.Transformer.Verdict

/-!
# The mock backend against UCI

The mock database takes a batch at once, UCI takes it option by option and is
read back.  On a UCI without faults the two agree on every batch that is refused
or that reads back: where no value ends in a line break and no option is given
two values.

* `Consistent` is the condition on a batch, and mentions neither backend.
* `run_onMock_saving` and `run_onUci` are the two runs.
* `mock_agrees_iff` compares them over every store, batch and key.
-/

namespace Tr069d

open Effects

/-! ## UCI without faults -/

/-- `get` prints the stored value and a newline, and every command succeeds. -/
def faultFree : (c : SystemCall) → Store → system.Answer c × Store
  | .uciGet _ key, store => ((store.view key).map printed, store)
  | .uciSet _ key value, store => (true, store.set key value)
  | .uciDelete _ key, store => (true, store.delete key)
  | .uciCommit _ package, store => (true, store.commit package)
  | .capture _, store => (some "", store)
  | .executeOk _, store => (true, store)
  | .saveMock _ _, store => (none, store)
  | .stderr _, store => ((), store)
  | .log _ _, store => ((), store)

theorem faultFree_mem_uciEnv (c : SystemCall) (store : Store) :
    uciEnv (fun _ => False) c store (faultFree c store).1 (faultFree c store).2 := by
  cases c with
  | uciDelete phase key =>
      by_cases hmissing : store.view key = none <;> simp [uciEnv, faultFree, hmissing]
  | _ => simp [uciEnv, faultFree]

/-- Writing to the trace leaves the store alone. -/
theorem quiet_of_uciEnv {mayFail : SystemCall → Prop}
    {handler : (c : SystemCall) → Store → system.Answer c × Store}
    (hhandler : ∀ c store, uciEnv mayFail c store (handler c store).1 (handler c store).2) :
    Quiet handler :=
  fun text store => Prod.ext rfl (hhandler (.stderr text) store)

/-! ## Agreement -/

/-- The path that a call reports; none if it succeeds. -/
def reportedPath : Except SetError Unit → Option String
  | .ok () => none
  | .error error => some error.path

theorem eq_ok_of_reportedPath {result : Except SetError Unit} (h : reportedPath result = none) :
    result = .ok () := by
  cases result with
  | ok u => rfl
  | error error => cases h

/-- What an engine on the mock backend holds for a key. -/
def Engine.mockValue (engine : Engine) (key : String) : Option String :=
  engine.mock.bind fun mock => mock.values.lookup key

/-- The two calls report the same, and afterwards hold the same values. -/
structure Agree (mock real : (Except SetError Unit × Engine) × Store) : Prop where
  reported : reportedPath mock.1.1 = reportedPath real.1.1
  values : ∀ key, mock.1.2.mockValue key = real.2.view key

/-- The batch is refused, or no value that is written ends in CR or LF and no
option is given two values. -/
def Consistent (items : List ParameterValue) (parameterKey : String) : Prop :=
  ∀ written, Engine.checkAll deviceMap items parameterKey = .ok written →
    (∀ item ∈ written, NoTrailingBreak item.value) ∧
      ∀ first ∈ written, ∀ second ∈ written, first.key = second.key → first.value = second.value

theorem readsBack_iff {written : List StagedValue} {view : String → Option String} :
    Engine.ReadsBack written view ↔ (∀ item ∈ written, NoTrailingBreak item.value) ∧
      ∀ first ∈ written, ∀ second ∈ written,
        first.key = second.key → first.value = second.value := by
  constructor
  · intro hreads
    refine ⟨fun item hitem => (Engine.applyWrites_eq_of_readBack hreads hitem).2, ?_⟩
    intro first hfirst second hsecond hkey
    have hfirstValue := (Engine.applyWrites_eq_of_readBack hreads hfirst).1
    rw [hkey, (Engine.applyWrites_eq_of_readBack hreads hsecond).1] at hfirstValue
    exact (Option.some.inj hfirstValue).symm
  · intro ⟨hunbroken, hunique⟩ item hitem
    obtain ⟨last, hlast, hkey, hvalue⟩ := exists_applyWrites_eq (List.mem_map_of_mem hitem) view
    rw [hvalue, Option.map_some, printed_of_noTrailingBreak (hunbroken last hlast),
      hunique last hlast item hitem hkey]

theorem consistent_of_refused {items : List ParameterValue} {parameterKey : String}
    {error : SetError} (h : Engine.checkAll deviceMap items parameterKey = .error error) :
    Consistent items parameterKey := by
  intro written hwritten
  rw [h] at hwritten
  cases hwritten

theorem consistent_iff_readsBack {items : List ParameterValue} {parameterKey : String}
    {written : List StagedValue} (h : Engine.checkAll deviceMap items parameterKey = .ok written)
    (view : String → Option String) :
    Consistent items parameterKey ↔ Engine.ReadsBack written view := by
  rw [readsBack_iff]
  constructor
  · exact fun hconsistent => hconsistent written h
  · intro hwritten other hother
    rw [h] at hother
    rwa [← Except.ok.inj hother]

/-! ## The two runs -/

/-- The engine on the mock backend. -/
def UciEngine.onMock (engine : UciEngine) (mock : MockDatabase) : Engine :=
  { engine.toEngine with mock := some mock }

/-- The mock backend takes what was accepted, whatever it is, if it can be saved. -/
theorem run_onMock_saving {mayFail : SystemCall → Prop}
    {handler : (c : SystemCall) → Store → system.Answer c × Store}
    (hhandler : ∀ c store, uciEnv mayFail c store (handler c store).1 (handler c store).2)
    {saves : String → Table → Option String}
    (hsaves : ∀ path values store,
      handler (.saveMock path values) store = (saves path values, store))
    (engine : UciEngine) (mock : MockDatabase) (store : Store) (items : List ParameterValue)
    (parameterKey : String) :
    ((engine.onMock mock).setParameterValues items parameterKey).run handler store =
      match Engine.checkAll deviceMap items parameterKey with
      | .error error => ((.error error, engine.onMock mock), store)
      | .ok written =>
          let values := written.foldl (fun values item => values.insert item.key item.value)
            mock.values
          match saves mock.path values with
          | some message => ((.error ⟨"", message⟩, engine.onMock mock), store)
          | none => ((.ok (), engine.onMock { mock with values }), store) := by
  -- neither the map nor the checks depend on the backend
  have hmodel : (engine.onMock mock).model = deviceMap := engine.shipped
  have hmock : (engine.onMock mock).mock = some mock := rfl
  rw [← hmodel, Engine.run_setParameterValues_mock _ _ (quiet_of_uciEnv hhandler) hmock]
  cases Engine.checkAll (engine.onMock mock).model items parameterKey with
  | error error => rfl
  | ok written =>
      simp only [hsaves]
      cases saves mock.path _ <;> rfl

theorem run_onMock (engine : UciEngine) (mock : MockDatabase) (store : Store)
    (items : List ParameterValue) (parameterKey : String) :
    ((engine.onMock mock).setParameterValues items parameterKey).run faultFree store =
      match Engine.checkAll deviceMap items parameterKey with
      | .error error => ((.error error, engine.onMock mock), store)
      | .ok written => ((.ok (), engine.onMock { mock with
          values := written.foldl (fun values item => values.insert item.key item.value)
            mock.values }), store) := by
  have hsaves : ∀ path values store,
      faultFree (.saveMock path values) store = ((none : Option String), store) :=
    fun _ _ _ => rfl
  exact run_onMock_saving faultFree_mem_uciEnv hsaves engine mock store items parameterKey

/-- UCI without faults takes what was accepted exactly if it reads back. -/
theorem run_onUci (engine : UciEngine) (store : Store) (items : List ParameterValue)
    (parameterKey : String) :
    let outcome := (engine.setParameterValues items parameterKey).run faultFree store
    match Engine.checkAll deviceMap items parameterKey with
    | .error error => outcome.1.1 = .error error ∧ ∀ key, outcome.2.view key = store.view key
    | .ok written =>
        (Engine.ReadsBack written store.view → outcome.1.1 = .ok () ∧
          ∀ key, outcome.2.view key = applyWrites written store.view key) ∧
        (¬Engine.ReadsBack written store.view → outcome.1.1 ≠ .ok ()) := by
  intro outcome
  -- the run is one execution, so that what every execution ends in holds of it
  have hended := (exec_run faultFree_mem_uciEnv (engine.setParameterValues items parameterKey)
    store).of_wp (wp_mono_env (Engine.wp_setParameterValues_ended engine.notMock
      ⟨fun _ => id, fun _ _ => id, fun _ => id⟩ (fun _ _ _ _ => trivial))
      (uciEnv_subset_regionEnv (fun _ => True) fun _ => False))
  rw [engine.shipped] at hended
  cases hcheck : Engine.checkAll deviceMap items parameterKey with
  | error error =>
      simp only [hcheck, Engine.Ended] at hended
      exact ⟨hended.1, fun key => hended.2.view trivial⟩
  | ok written =>
      simp only [hcheck, Engine.Ended] at hended
      have hfree : NoForwardFaults fun _ => False := ⟨fun _ _ => id, fun _ => id, fun _ => id⟩
      cases hresult : outcome.1.1 with
      | ok u =>
          rw [show outcome.1.1 = .ok () from hresult] at hended
          refine ⟨fun _ => ⟨rfl, fun key => hended.1 key trivial⟩, fun hreads => ?_⟩
          exact absurd hended.2.1 hreads
      | error error =>
          rw [show outcome.1.1 = .error error from hresult] at hended
          exact ⟨fun hreads => absurd hreads (hended.2.2 hfree), fun _ heq => nomatch heq⟩

/-- The mock backend agrees with UCI without faults exactly on the consistent
batches. -/
theorem mock_agrees_iff (engine : UciEngine) (mock : MockDatabase) (store : Store)
    (hsame : ∀ key, mock.values.lookup key = store.view key) (items : List ParameterValue)
    (parameterKey : String) :
    Agree (((engine.onMock mock).setParameterValues items parameterKey).run faultFree store)
        ((engine.setParameterValues items parameterKey).run faultFree store) ↔
      Consistent items parameterKey := by
  have hreal := run_onUci engine store items parameterKey
  rw [run_onMock]
  cases hcheck : Engine.checkAll deviceMap items parameterKey with
  | error error =>
      simp only [hcheck] at hreal
      refine iff_of_true ⟨?_, fun key => ?_⟩ (consistent_of_refused hcheck)
      · rw [hreal.1]
      · exact (hsame key).trans (hreal.2 key).symm
  | ok written =>
      simp only [hcheck] at hreal
      rw [consistent_iff_readsBack hcheck store.view]
      constructor
      · intro ⟨hreported, _⟩
        -- the mock backend never refuses here, so neither may UCI
        by_contra hreads
        exact hreal.2 hreads (eq_ok_of_reportedPath hreported.symm)
      · intro hreads
        obtain ⟨hok, hview⟩ := hreal.1 hreads
        refine ⟨by rw [hok], fun key => ?_⟩
        have hstored := (lookup_foldl_insert written mock.values key).trans
          (applyWrites_congr written (hsame key))
        exact hstored.trans (hview key).symm

/-- A mock database that holds some options. -/
def filledMock : MockDatabase :=
  ⟨"tr69.db", ((∅ : Finmap fun _ : String => String).insert "tr69.mgmt_srv.url"
    "http://acs.example:7547/").insert "tr69.periodic_inform.interval" "300"⟩

/-- The store that holds them too. -/
def filledStore : Store :=
  .ofCommitted fun key => filledMock.values.lookup key

theorem interval_agrees :
    let items : List ParameterValue :=
      [⟨"Device.ManagementServer.PeriodicInformInterval", "60", ""⟩,
       ⟨"Device.ManagementServer.Username", "cpe", "xsd:string"⟩]
    Agree (((plainEngine.onMock filledMock).setParameterValues items "demo").run faultFree
        filledStore)
      ((plainEngine.setParameterValues items "demo").run faultFree filledStore) := by
  intro items
  refine (mock_agrees_iff plainEngine filledMock filledStore (fun _ => rfl) items "demo").mpr
    fun written hwritten => ?_
  cases hwritten
  refine ⟨?_, ?_⟩
  · simp only [List.cons_append, List.nil_append, List.forall_mem_cons, List.not_mem_nil,
      false_imp_iff, implies_true, and_true]
    exact ⟨rfl, rfl, rfl⟩
  · simp only [List.cons_append, List.nil_append, List.forall_mem_cons, List.not_mem_nil,
      false_imp_iff, implies_true, and_true]
    decide

/-- An empty mock database. -/
def emptyMock : MockDatabase :=
  ⟨"tr69.db", ∅⟩

/-- A batch on an empty mock database and on an empty store. -/
def onBoth (items : List ParameterValue) :
    ((Except SetError Unit × Engine) × Store) × ((Except SetError Unit × Engine) × Store) :=
  (((plainEngine.onMock emptyMock).setParameterValues items "").run faultFree
      (Store.ofCommitted fun _ => none),
    (plainEngine.setParameterValues items "").run faultFree (Store.ofCommitted fun _ => none))

/-- The mock backend takes a user name that ends in a line break and a second
value for an option, UCI neither. -/
theorem mock_disagrees :
    reportedPath (onBoth [⟨"Device.ManagementServer.Username", "cpe\n", ""⟩]).1.1.1 = none ∧
      reportedPath (onBoth [⟨"Device.ManagementServer.Username", "cpe\n", ""⟩]).2.1.1 =
        some "Device.ManagementServer.Username" ∧
      reportedPath (onBoth [⟨"Device.ManagementServer.Username", "first", ""⟩,
        ⟨"Device.ManagementServer.Username", "second", ""⟩]).1.1.1 = none ∧
      reportedPath (onBoth [⟨"Device.ManagementServer.Username", "first", ""⟩,
        ⟨"Device.ManagementServer.Username", "second", ""⟩]).2.1.1 =
          some "Device.ManagementServer.Username" :=
  ⟨rfl, rfl, rfl, rfl⟩

end Tr069d
