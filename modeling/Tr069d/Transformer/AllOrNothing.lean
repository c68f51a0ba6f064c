import Tr069d.Transformer.Transaction

/-!
# `setParameterValues` is all-or-nothing

The transaction alone on the UCI backend, with the shipped map, from any store
and under any choice of failing forward sets, commits and read-backs: either
everything is committed, or every key reads as it did before.

* `checkAll_eq_ok` and `lookup_of_checkAll` say what is written for an accepted batch.
* `name_eq_of_uciKey_eq` says that no two parameters share an option, so that one item
  of a batch does not overwrite another.
* `setParameterValues_all_or_nothing` reads both directions off `wp_setParameterValues`.
-/

namespace Tr069d

open Effects

/-- Any forward set, any commit and any read-back may fail, and nothing else. -/
def transactionFaults : SystemCall → Prop
  | .uciGet phase _ => phase = .readBack
  | .uciSet phase _ _ => phase = .forward
  | .uciCommit _ _ => True
  | _ => False

theorem safeRollback_transactionFaults : SafeRollback transactionFaults where
  lookup _ h := nomatch h
  set _ _ h := nomatch h
  delete _ h := h

/-- An engine with the shipped map, on the UCI backend. -/
structure UciEngine extends Engine where
  shipped : model = deviceMap
  notMock : mock = none

/-- The normalized value of a parameter is what is committed for it. -/
def Committed (store : Store) (name raw : String) : Prop :=
  ∃ spec location value, deviceMap.lookup name = some spec ∧ spec.uci = some location ∧
    normalize spec raw = .ok value ∧ store.committed (uciKey location) = some value

/-! ## The keys of the shipped map -/

/-- Every option of the map is in the package that the engine commits. -/
theorem config_eq_of_lookup {path : String} {spec : Spec} {location : UciLocation}
    (hlookup : deviceMap.lookup path = some spec) (hmapped : spec.uci = some location) :
    location.config = "tr69" := by
  have hall : ∀ found, spec.uci = some found → found.config = "tr69" :=
    deviceMap.of_lookup_eq_some
      (P := fun spec => ∀ found, spec.uci = some found → found.config = "tr69")
      (by decide) hlookup
  exact hall location hmapped

theorem inPackage_uciKey (location : UciLocation) :
    inPackage location.config (uciKey location) := by
  refine ⟨location.sectionName.toList ++ ['.'] ++ location.option.toList, ?_⟩
  simp [uciKey]

theorem inPackage_key {path : String} {item : StagedValue}
    (hlookup : deviceMap.lookup path = some item.spec) : inPackage "tr69" item.key := by
  rw [← config_eq_of_lookup hlookup item.mapped]
  exact inPackage_uciKey item.location

/-- No two parameters share an option. -/
theorem name_eq_of_uciKey_eq {path path' : String} {spec spec' : Spec}
    {location location' : UciLocation} (hlookup : deviceMap.lookup path = some spec)
    (hlookup' : deviceMap.lookup path' = some spec') (hmapped : spec.uci = some location)
    (hmapped' : spec'.uci = some location') (hkey : uciKey location = uciKey location') :
    path = path' := by
  have hall : ∀ entry ∈ deviceMap.parameters, ∀ entry' ∈ deviceMap.parameters,
      entry.2.uci ≠ none → entry.2.uci.map uciKey = entry'.2.uci.map uciKey →
        entry.1 = entry'.1 := by
    decide
  refine hall _ (DeviceMap.mem_of_lookup_eq_some hlookup) _
    (DeviceMap.mem_of_lookup_eq_some hlookup') ?_ ?_
  · rw [hmapped]
    exact Option.some_ne_none location
  · rw [hmapped, hmapped', Option.map_some, Option.map_some, hkey]

/-- What `checkAll` accepts is made of the items, in order, and the key. -/
theorem checkAll_eq_ok {model : DeviceMap} {values : List ParameterValue} {parameterKey : String}
    {written : List StagedValue} (h : Engine.checkAll model values parameterKey = .ok written) :
    ∃ staged normalizedKey, written = staged ++ [normalizedKey] ∧
      List.Forall₂ (Staged model) values staged ∧
      model.lookup Engine.parameterKeyPath = some normalizedKey.spec ∧
      normalize normalizedKey.spec parameterKey = .ok normalizedKey.value := by
  unfold Engine.checkAll at h
  split at h
  · rename_i staged normalizedKey hitems hkey
    obtain ⟨_, hlookup, hvalue⟩ := lookup_of_checkParameterKey hkey
    exact ⟨staged, normalizedKey, (Except.ok.inj h).symm, staged_of_checkItems hitems, hlookup,
      hvalue⟩
  · cases h
  · cases h

theorem exists_of_forall₂_of_mem {α β : Type} {R : α → β → Prop} {xs : List α} {ys : List β}
    (h : List.Forall₂ R xs ys) {x : α} (hx : x ∈ xs) : ∃ y ∈ ys, R x y := by
  induction h with
  | nil => simp at hx
  | cons hfirst _ ih =>
      rcases List.mem_cons.mp hx with rfl | hx
      · exact ⟨_, List.mem_cons_self .., hfirst⟩
      · obtain ⟨y, hy, hxy⟩ := ih hx
        exact ⟨y, List.mem_cons_of_mem _ hy, hxy⟩

/-- Every value that is written stems from an entry of the map. -/
theorem lookup_of_checkAll {model : DeviceMap} {values : List ParameterValue}
    {parameterKey : String} {written : List StagedValue}
    (h : Engine.checkAll model values parameterKey = .ok written) {item : StagedValue}
    (hitem : item ∈ written) : ∃ path, model.lookup path = some item.spec := by
  obtain ⟨staged, normalizedKey, rfl, hstaged, hkey, _⟩ := checkAll_eq_ok h
  rcases List.mem_append.mp hitem with hitem | hitem
  · obtain ⟨value, _, hvalue⟩ := exists_of_forall₂_of_mem hstaged.flip hitem
    exact ⟨value.name, hvalue.lookup⟩
  · rw [List.mem_singleton.mp hitem]
    exact ⟨_, hkey⟩

/-! ## The result -/

/-- A successful transaction committed the normalized value of every item and
of the parameter key; a failed one changed the reading of no key. -/
theorem setParameterValues_all_or_nothing (engine : UciEngine) {store store' : Store}
    (hclean : ∀ key value, store.view key = some value → NoTrailingBreak value)
    (items : List ParameterValue) (parameterKey : String)
    {result : Except SetError Unit} {engine' : Engine}
    (hexec : Exec (uciEnv transactionFaults) (engine.setParameterValues items parameterKey) store
      (result, engine') store') :
    (result = .ok () →
      (∀ item ∈ items, Committed store' item.name item.value) ∧
        Committed store' Engine.parameterKeyPath parameterKey) ∧
    (∀ error, result = .error error → ∀ key, store'.view key = store.view key) := by
  have hpost := hexec.of_wp (wp_mono_env
    (Engine.wp_setParameterValues engine.notMock safeRollback_transactionFaults
      (fun k value _ => hclean k value) (fun _ _ _ _ => trivial))
    (uciEnv_subset_regionEnv (fun _ => True) transactionFaults))
  rw [engine.shipped] at hpost
  cases hcheck : Engine.checkAll deviceMap items parameterKey with
  -- refused before anything is written
  | error error =>
      simp only [hcheck, Engine.Finished] at hpost
      obtain ⟨rfl, hsame⟩ := hpost
      exact ⟨fun hok => (nomatch hok), fun _ _ key => hsame.view trivial⟩
  | ok written =>
      simp only [hcheck, Engine.Finished] at hpost
      obtain ⟨staged, normalizedKey, rfl, hstaged, hkey, hkeyValue⟩ := checkAll_eq_ok hcheck
      constructor
      · rintro rfl
        -- what reads back after a commit is in the file, and not only staged
        have hcommitted : ∀ item ∈ staged ++ [normalizedKey],
            store'.committed item.key = some item.value := by
          intro item hitem
          obtain ⟨path, hlookup⟩ := lookup_of_checkAll hcheck hitem
          rw [← view_eq_committed (hpost.2.2 item.key ⟨trivial, inPackage_key hlookup⟩)]
          exact (hpost.2.1 item hitem).1
        refine ⟨fun item hitem => ?_, ?_⟩
        · obtain ⟨value, hvalue, hstagedItem⟩ := exists_of_forall₂_of_mem hstaged hitem
          exact ⟨value.spec, value.location, value.value, hstagedItem.lookup, value.mapped,
            hstagedItem.normalized, hcommitted value (List.mem_append_left _ hvalue)⟩
        · exact ⟨normalizedKey.spec, normalizedKey.location, normalizedKey.value, hkey,
            normalizedKey.mapped, hkeyValue, hcommitted normalizedKey (by simp)⟩
      -- the rollback restores each key that was written
      · rintro error rfl key
        exact hpost.1 key trivial

/-- The order that visits a table as it is stored. -/
def storedOrder (α : Type) : PairsOrder α := ⟨id, fun _ => .refl _⟩

/-- An engine that traces nothing and whose getters find nothing. -/
def plainEngine : UciEngine where
  model := deviceMap
  getters _ _ := return none
  ubusBin := "ubus"
  traceEnabled := false
  mock := none
  pairs := storedOrder _
  shipped := rfl
  notMock := rfl

/-- A first provisioning: the URL is staged but not committed, the ACS sets the
periodic Inform and a parameter key. -/
theorem provisioning_committed :
    let items : List ParameterValue :=
      [⟨"Device.ManagementServer.PeriodicInformInterval", "60", "xsd:unsignedInt"⟩,
       ⟨"Device.ManagementServer.PeriodicInformEnable", "on", "xsd:boolean"⟩]
    let store := (Store.ofCommitted fun _ => none).set "tr69.mgmt_srv.url" "http://acs"
    let outcome := (plainEngine.setParameterValues items "step-1").run uciHandler store
    Committed outcome.2 "Device.ManagementServer.PeriodicInformEnable" "on" ∧
      Committed outcome.2 "Device.ManagementServer.ParameterKey" "step-1" := by
  intro items store outcome
  have hclean : ∀ key value, store.view key = some value → NoTrailingBreak value := by
    intro key value hvalue
    by_cases hkey : key = "tr69.mgmt_srv.url"
    · simp only [store, hkey, view_set, Function.update_self, Option.some.injEq] at hvalue
      rw [← hvalue]
      rfl
    · simp [store, view_set, hkey] at hvalue
  have hresult : outcome.1.1 = .ok () := rfl
  have hall := (setParameterValues_all_or_nothing plainEngine hclean items "step-1"
    (exec_run (uciHandler_mem_uciEnv transactionFaults) _ _)).1 hresult
  exact ⟨hall.1 ⟨_, "on", "xsd:boolean"⟩ (by simp [items]), hall.2⟩

end Tr069d
