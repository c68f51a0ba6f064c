import Tr069d.Transformer.MockBackend
import Tr069d.Transformer.Rollback

/-!
# The order of a batch

Two batches of the same items, of distinct names, come to the same: validation
accepts both or neither, writes to distinct options commute, and the store after
a transaction on a UCI without faults is determined by the view that it leads to
(`Store.settled`), also if it is rolled back.

* `result_of_exec` determines the store after a call from the store before it and the
  verdict, and `exists_of_checkAll_perm` compares the verdicts of the two orders.
* `sameOutcome_onUci` is the backend with commands, `sameOutcome_of_perm` both backends.
-/

namespace Tr069d

open Effects

/-! ## Validation -/

theorem checkItems_eq_ok_iff {model : DeviceMap} {items : List ParameterValue}
    {staged : List StagedValue} :
    checkItems model items = .ok staged ↔
      List.Forall₂ (fun item first => checkItem model item = .ok first) items staged := by
  induction items generalizing staged with
  | nil => simp [checkItems, eq_comm]
  | cons item rest ih =>
      rw [List.forall₂_cons_left_iff, checkItems]
      cases hitem : checkItem model item with
      | error error => simp
      | ok first =>
          cases hrest : checkItems model rest with
          | error error =>
              refine iff_of_false (by simp) ?_
              rintro ⟨_, others, -, hothers, -⟩
              rw [← ih, hrest] at hothers
              cases hothers
          | ok others =>
              simp only [← ih, hrest, Except.ok.injEq]
              constructor
              · intro h
                exact ⟨first, others, rfl, rfl, h.symm⟩
              · rintro ⟨_, _, rfl, rfl, rfl⟩
                rfl

theorem checkAll_perm {model : DeviceMap} {items items' : List ParameterValue}
    (hperm : items.Perm items') {parameterKey : String} {written : List StagedValue}
    (hcheck : Engine.checkAll model items parameterKey = .ok written) :
    ∃ written', Engine.checkAll model items' parameterKey = .ok written' ∧
      written.Perm written' := by
  unfold Engine.checkAll at hcheck
  split at hcheck
  · rename_i staged normalizedKey hitems hkey
    obtain ⟨staged', hstaged', hperm'⟩ :=
      List.perm_comp_forall₂ hperm.symm (checkItems_eq_ok_iff.mp hitems)
    refine ⟨staged' ++ [normalizedKey], ?_, ?_⟩
    · rw [Engine.checkAll, checkItems_eq_ok_iff.mpr hstaged', hkey]
    · rw [← Except.ok.inj hcheck]
      exact hperm'.symm.append_right _
  · cases hcheck
  · cases hcheck

/-- Distinct names have distinct options, none of them that of the parameter key. -/
theorem nodup_keys_of_checkAll {items : List ParameterValue}
    (hnames : (items.map ParameterValue.name).Nodup) {parameterKey : String}
    {written : List StagedValue}
    (hcheck : Engine.checkAll deviceMap items parameterKey = .ok written) :
    (written.map StagedValue.key).Nodup := by
  obtain ⟨staged, normalizedKey, rfl, hstaged, hkeyLookup, -⟩ := checkAll_eq_ok hcheck
  have hkeyAccess : normalizedKey.spec.access = .readOnly := by
    have hmap : (deviceMap.lookup Engine.parameterKeyPath).map Spec.access = some .readOnly := by
      decide
    rw [hkeyLookup] at hmap
    exact Option.some.inj hmap
  rw [List.map_append, List.nodup_append]
  refine ⟨?_, List.nodup_singleton _, ?_⟩
  · clear hcheck
    induction hstaged with
    | nil => exact List.nodup_nil
    | @cons item first rest others hfirst hrest ih =>
        obtain ⟨hitem, hnames⟩ := List.nodup_cons.mp hnames
        refine List.nodup_cons.mpr ⟨fun hmem => ?_, ih hnames⟩
        obtain ⟨other, hother, hkey⟩ := List.mem_map.mp hmem
        obtain ⟨value, hvalue, hstagedOther⟩ := exists_of_forall₂_of_mem hrest.flip hother
        have hname := name_eq_of_uciKey_eq hstagedOther.lookup hfirst.lookup other.mapped
          first.mapped hkey
        exact hitem (hname ▸ List.mem_map_of_mem hvalue)
  · intro key hkey key' hkey' hsame
    obtain ⟨first, hfirst, rfl⟩ := List.mem_map.mp hkey
    rw [List.map_singleton, List.mem_singleton] at hkey'
    obtain ⟨item, -, hitem⟩ := exists_of_forall₂_of_mem hstaged.flip hfirst
    -- the parameter key cannot be in the batch, because it is read-only
    have hspec : first.spec = normalizedKey.spec := by
      have hname := name_eq_of_uciKey_eq hitem.lookup hkeyLookup first.mapped
        normalizedKey.mapped (hsame.trans hkey')
      exact Option.some.inj (hitem.lookup.symm.trans (hname ▸ hkeyLookup))
    have hwritable := hitem.writable
    rw [hspec, hkeyAccess] at hwritable
    cases hwritable

/-! ## Writes in another order -/

section Writes

variable {written written' : List StagedValue} (hperm : written.Perm written')
include hperm

theorem applyWrites_perm (hnodup : (written.map StagedValue.key).Nodup)
    (view : String → Option String) : applyWrites written view = applyWrites written' view := by
  refine hperm.foldl_eq' (fun first hfirst second hsecond view => ?_) view
  by_cases hkey : first.key = second.key
  · rw [List.inj_on_of_nodup_map hnodup hfirst hsecond hkey]
  · exact Function.update_comm hkey ..

theorem foldl_insert_perm (hnodup : (written.map StagedValue.key).Nodup) (values : Table) :
    written.foldl (fun values item => values.insert item.key item.value) values =
      written'.foldl (fun values item => values.insert item.key item.value) values := by
  refine hperm.foldl_eq' (fun first hfirst second hsecond values => ?_) values
  by_cases hkey : first.key = second.key
  · rw [List.inj_on_of_nodup_map hnodup hfirst hsecond hkey]
  · exact Finmap.insert_insert_of_ne _ hkey

theorem readsBack_perm {view : String → Option String} :
    Engine.ReadsBack written view ↔ Engine.ReadsBack written' view := by
  rw [readsBack_iff, readsBack_iff]
  simp only [hperm.mem_iff]

theorem restoredView_perm (view : String → Option String) :
    Engine.restoredView written view = Engine.restoredView written' view := by
  funext key
  rw [Engine.restoredView, Engine.restoredView]
  simp only [(hperm.map StagedValue.key).mem_iff]

end Writes

/-! ## The store after a transaction -/

/-- The package `tr69` is committed as the view shows it. -/
def Store.settled (store : Store) (view : String → Option String) : Store where
  committed key := if inPackage "tr69" key then view key else store.committed key
  staged key := if inPackage "tr69" key then none else store.staged key

theorem eq_settled {keys : String → Prop} {before after : Store}
    (hspread : Spread keys before after) (hkeys : ∀ key, keys key → inPackage "tr69" key)
    (hflushed : ∀ key, inPackage "tr69" key → after.staged key = none) :
    after = before.settled after.view := by
  -- outside the package nothing is written, and a flush of it commits nothing
  have houtside : ∀ key, ¬inPackage "tr69" key →
      after.committed key = before.committed key ∧ after.staged key = before.staged key := by
    intro key hpackage
    have hkey : ¬keys key := mt (hkeys key) hpackage
    rcases hspread with huntouched | hflush
    · exact ⟨congrFun huntouched.1 key, huntouched.2 key hkey⟩
    · exact (hflush key hkey).2 hpackage
  have hcommitted : after.committed = (before.settled after.view).committed := by
    funext key
    by_cases hpackage : inPackage "tr69" key
    · simp only [Store.settled, if_pos hpackage]
      exact (view_eq_committed (hflushed key hpackage)).symm
    · simp only [Store.settled, if_neg hpackage]
      exact (houtside key hpackage).1
  have hstaged : after.staged = (before.settled after.view).staged := by
    funext key
    by_cases hpackage : inPackage "tr69" key
    · simp only [Store.settled, if_pos hpackage]
      exact hflushed key hpackage
    · simp only [Store.settled, if_neg hpackage]
      exact (houtside key hpackage).2
  calc after = ⟨after.committed, after.staged⟩ := rfl
    _ = before.settled after.view := by rw [hcommitted, hstaged]

/-- What a call on a UCI without faults comes to, by the verdict on its batch. -/
def Engine.Result (engine : Engine) (store : Store) (result : Except SetError Unit × Engine)
    (after : Store) : Except SetError (List StagedValue) → Prop
  | .error error => result = (.error error, engine) ∧ after = store
  | .ok written => result.2 = engine ∧
      (result.1 = .ok () ↔ Engine.ReadsBack written store.view) ∧
      (result.1 = .ok () → after = store.settled (applyWrites written store.view)) ∧
      (result.1 ≠ .ok () → after = store.settled (Engine.restoredView written store.view))

theorem inPackage_of_mem_keys {items : List ParameterValue} {parameterKey : String}
    {written : List StagedValue}
    (hcheck : Engine.checkAll deviceMap items parameterKey = .ok written) {key : String}
    (hkey : key ∈ written.map StagedValue.key) : inPackage "tr69" key := by
  obtain ⟨item, hitem, rfl⟩ := List.mem_map.mp hkey
  obtain ⟨path, hlookup⟩ := lookup_of_checkAll hcheck hitem
  exact inPackage_key hlookup

theorem result_of_exec (engine : UciEngine) {store store' : Store} {items : List ParameterValue}
    {parameterKey : String} {result : Except SetError Unit × Engine}
    (hexec : Exec (uciEnv fun _ => False) (engine.setParameterValues items parameterKey) store
      result store') :
    engine.toEngine.Result store result store'
      (Engine.checkAll deviceMap items parameterKey) := by
  -- no command fails, so that forward steps and rollback are both as they should be
  have hsafe : SafeRollback fun _ => False := ⟨fun _ => id, fun _ _ => id, fun _ => id⟩
  have hfree : NoForwardFaults fun _ => False := ⟨fun _ _ => id, fun _ => id, fun _ => id⟩
  cases hcheck : Engine.checkAll deviceMap items parameterKey with
  -- refused by the checks, before anything was written
  | error error => exact eq_of_refused engine hexec hcheck
  | ok written =>
      refine ⟨engine_eq_of_exec engine hexec, ?_⟩
      have hended := ended_of_exec engine hexec hsafe
      rw [hcheck] at hended
      have hsettled := eq_settled (spread_of_exec engine hexec hsafe hcheck)
        fun key => inPackage_of_mem_keys hcheck
      cases hresult : result.1 with
      | ok u =>
          rw [hresult] at hended
          obtain ⟨hview, hreads, hflushed⟩ := hended
          refine ⟨iff_of_true rfl hreads, fun _ => ?_, fun hne => absurd rfl hne⟩
          rw [← funext fun key => hview key trivial]
          exact hsettled fun key hpackage => hflushed key ⟨trivial, hpackage⟩
      | error error =>
          rw [hresult] at hended
          obtain ⟨hview, hflushed, hreads⟩ := hended
          refine ⟨iff_of_false (fun h => nomatch h) (hreads hfree), ?_, fun _ => ?_⟩
          · intro h
            cases h
          rw [← funext fun key => hview key trivial]
          exact hsettled fun key hpackage => hflushed id key ⟨trivial, hpackage⟩

/-! ## The result -/

/-- Two calls that both succeed or both fail, and leave the same behind. -/
structure SameOutcome (first second : (Except SetError Unit × Engine) × Store) : Prop where
  succeeds : first.1.1 = .ok () ↔ second.1.1 = .ok ()
  /-- With the mock database, if there is one. -/
  engine : first.1.2 = second.1.2
  store : first.2 = second.2

/-- Where no batch is accepted, nothing is changed by any order of it. -/
theorem exists_of_checkAll_perm {items items' : List ParameterValue} (hperm : items.Perm items')
    (hnames : (items.map ParameterValue.name).Nodup) (parameterKey : String) :
    (∃ error error', Engine.checkAll deviceMap items parameterKey = .error error ∧
        Engine.checkAll deviceMap items' parameterKey = .error error') ∨
      ∃ written written', Engine.checkAll deviceMap items parameterKey = .ok written ∧
        Engine.checkAll deviceMap items' parameterKey = .ok written' ∧ written.Perm written' ∧
          (written.map StagedValue.key).Nodup := by
  cases hcheck : Engine.checkAll deviceMap items parameterKey with
  | ok written =>
      obtain ⟨written', hcheck', hwritten⟩ := checkAll_perm hperm hcheck
      exact Or.inr ⟨written, written', rfl, hcheck', hwritten, nodup_keys_of_checkAll hnames hcheck⟩
  | error error =>
      cases hcheck' : Engine.checkAll deviceMap items' parameterKey with
      | error error' => exact Or.inl ⟨error, error', rfl, rfl⟩
      | ok written' =>
          obtain ⟨written, hwritten, -⟩ := checkAll_perm hperm.symm hcheck'
          rw [hcheck] at hwritten
          cases hwritten

theorem sameOutcome_onMock (engine : UciEngine) {items items' : List ParameterValue}
    (hperm : items.Perm items') (hnames : (items.map ParameterValue.name).Nodup)
    (parameterKey : String) {mayFail : SystemCall → Prop}
    {handler : (c : SystemCall) → Store → system.Answer c × Store}
    (hhandler : ∀ c store, uciEnv mayFail c store (handler c store).1 (handler c store).2)
    {saves : String → Table → Option String}
    (hsaves : ∀ path values store,
      handler (.saveMock path values) store = (saves path values, store))
    (mock : MockDatabase) (store : Store) :
    SameOutcome (((engine.onMock mock).setParameterValues items parameterKey).run handler store)
      (((engine.onMock mock).setParameterValues items' parameterKey).run handler store) := by
  rw [run_onMock_saving hhandler hsaves, run_onMock_saving hhandler hsaves]
  rcases exists_of_checkAll_perm hperm hnames parameterKey with
    ⟨error, error', hcheck, hcheck'⟩ | ⟨written, written', hcheck, hcheck', hwritten, hnodup⟩
  · rw [hcheck, hcheck']
    exact ⟨iff_of_false (fun h => nomatch h) (fun h => nomatch h), rfl, rfl⟩
  · rw [hcheck, hcheck']
    dsimp only
    rw [foldl_insert_perm hwritten hnodup]
    exact ⟨Iff.rfl, rfl, rfl⟩

theorem sameOutcome_onUci (engine : UciEngine) {items items' : List ParameterValue}
    (hperm : items.Perm items') (hnames : (items.map ParameterValue.name).Nodup)
    (parameterKey : String) {store : Store} {first second : (Except SetError Unit × Engine) × Store}
    (hfirst : Exec (uciEnv fun _ => False) (engine.setParameterValues items parameterKey) store
      first.1 first.2)
    (hsecond : Exec (uciEnv fun _ => False) (engine.setParameterValues items' parameterKey) store
      second.1 second.2) :
    SameOutcome first second := by
  have hresult := result_of_exec engine hfirst
  have hresult' := result_of_exec engine hsecond
  -- both orders are refused, or both are accepted with the same writes
  rcases exists_of_checkAll_perm hperm hnames parameterKey with
    ⟨error, error', hcheck, hcheck'⟩ | ⟨written, written', hcheck, hcheck', hwritten, hnodup⟩
  · rw [hcheck] at hresult
    rw [hcheck'] at hresult'
    obtain ⟨hrefused, hstore⟩ := hresult
    obtain ⟨hrefused', hstore'⟩ := hresult'
    refine ⟨?_, ?_, hstore.trans hstore'.symm⟩
    · rw [hrefused, hrefused']
      exact iff_of_false (fun h => nomatch h) (fun h => nomatch h)
    · rw [hrefused, hrefused']
  · rw [hcheck] at hresult
    rw [hcheck'] at hresult'
    obtain ⟨hengine, hok, happlied, hrestored⟩ := hresult
    obtain ⟨hengine', hok', happlied', hrestored'⟩ := hresult'
    -- whether all writes read back does not depend on their order
    have hsame : first.1.1 = .ok () ↔ second.1.1 = .ok () :=
      hok.trans ((readsBack_perm hwritten).trans hok'.symm)
    refine ⟨hsame, hengine.trans hengine'.symm, ?_⟩
    by_cases hsucceeds : first.1.1 = .ok ()
    · rw [happlied hsucceeds, happlied' (hsame.mp hsucceeds), applyWrites_perm hwritten hnodup]
    · rw [hrestored hsucceeds, hrestored' (mt hsame.mpr hsucceeds), restoredView_perm hwritten]

/-- UCI without faults, and a mock database that can be saved or not. -/
def savingHandler (saves : String → Table → Option String) :
    (c : SystemCall) → Store → system.Answer c × Store
  | .saveMock path values, store => (saves path values, store)
  | c, store => faultFree c store

theorem savingHandler_mem_uciEnv (saves : String → Table → Option String) (c : SystemCall)
    (store : Store) : uciEnv (fun _ => False) c store (savingHandler saves c store).1
      (savingHandler saves c store).2 := by
  cases c with
  | saveMock path values => rfl
  | _ => exact faultFree_mem_uciEnv _ store

/-- On either backend the order of a batch of distinct names does not matter. -/
theorem sameOutcome_of_perm (engine : UciEngine) {items items' : List ParameterValue}
    (hperm : items.Perm items') (hnames : (items.map ParameterValue.name).Nodup)
    (parameterKey : String) :
    (∀ saves mock store,
      SameOutcome
        (((engine.onMock mock).setParameterValues items parameterKey).run
          (savingHandler saves) store)
        (((engine.onMock mock).setParameterValues items' parameterKey).run
          (savingHandler saves) store)) ∧
    ∀ (store : Store) (first second : (Except SetError Unit × Engine) × Store),
      Exec (uciEnv fun _ => False) (engine.setParameterValues items parameterKey) store
        first.1 first.2 →
      Exec (uciEnv fun _ => False) (engine.setParameterValues items' parameterKey) store
        second.1 second.2 →
      SameOutcome first second :=
  ⟨fun saves => sameOutcome_onMock engine hperm hnames parameterKey
      (savingHandler_mem_uciEnv saves) fun _ _ _ => rfl,
    fun _ _ _ => sameOutcome_onUci engine hperm hnames parameterKey⟩

/-- A user name that ends in a line break is rolled back, before or after the interval. -/
theorem rolledBack_in_any_order :
    let items : List ParameterValue :=
      [⟨"Device.ManagementServer.Username", "cpe\n", ""⟩,
       ⟨"Device.ManagementServer.PeriodicInformInterval", "60", ""⟩]
    let store := (Store.ofCommitted fun _ => none).set "tr69.mgmt_srv.url" "http://acs"
    SameOutcome ((plainEngine.setParameterValues items "").run faultFree store)
        ((plainEngine.setParameterValues items.reverse "").run faultFree store) ∧
      SameOutcome (((plainEngine.onMock emptyMock).setParameterValues items "").run
          (savingHandler fun _ _ => none) store)
        (((plainEngine.onMock emptyMock).setParameterValues items.reverse "").run
          (savingHandler fun _ _ => none) store) := by
  intro items store
  have hboth := sameOutcome_of_perm plainEngine (List.reverse_perm items).symm (by decide) ""
  exact ⟨hboth.2 store _ _ (exec_run faultFree_mem_uciEnv _ _) (exec_run faultFree_mem_uciEnv _ _),
    hboth.1 _ _ store⟩

end Tr069d
