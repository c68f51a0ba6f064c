import Tr069d.Transformer.AllOrNothing
import Tr069d.Transformer.Alone

/-!
# What a failed call leaves in the store

A rollback writes the original values back and commits the package, so that it
restores what `uci get` shows and not the overlay: a change that somebody else
had staged in the package is kept, and it becomes durable.  The comment in
`engine.setParameterValues` says why the package is not reverted instead: that
would erase the staged changes.

What happens outside the options of the batch is followed call by call
(`Spread`); what happens to them is the transaction's (`Engine.Ended`).
-/

namespace Tr069d

open Effects

/-! ## Outside the batch -/

/-- Nothing is committed, and the changes outside `keys` are those of before. -/
def Untouched (keys : String → Prop) (before after : Store) : Prop :=
  after.committed = before.committed ∧ ∀ k, ¬keys k → after.staged k = before.staged k

/-- Outside `keys` the changes in the package are committed. -/
def Flushed (keys : String → Prop) (before after : Store) : Prop :=
  ∀ k, ¬keys k →
    (inPackage "tr69" k → after.committed k = before.view k ∧ after.staged k = none) ∧
    (¬inPackage "tr69" k →
      after.committed k = before.committed k ∧ after.staged k = before.staged k)

/-- What calls within `keys` do outside of them. -/
def Spread (keys : String → Prop) (before after : Store) : Prop :=
  Untouched keys before after ∨ Flushed keys before after

variable {keys : String → Prop} {first second third : Store}

theorem Untouched.view (h : Untouched keys first second) {k : String} (hk : ¬keys k) :
    second.view k = first.view k := by
  rw [Store.view, Store.view, h.1, h.2 k hk]

theorem Flushed.view (h : Flushed keys first second) {k : String} (hk : ¬keys k) :
    second.view k = first.view k := by
  by_cases hpackage : inPackage "tr69" k
  · obtain ⟨hcommitted, hstaged⟩ := (h k hk).1 hpackage
    rw [view_eq_committed hstaged, hcommitted]
  · obtain ⟨hcommitted, hstaged⟩ := (h k hk).2 hpackage
    rw [Store.view, Store.view, hcommitted, hstaged]

theorem Spread.refl (keys : String → Prop) (store : Store) : Spread keys store store :=
  Or.inl ⟨rfl, fun _ _ => rfl⟩

theorem Spread.trans (h : Spread keys first second) (h' : Spread keys second third) :
    Spread keys first third := by
  rcases h' with h' | h'
  -- calls that leave the overlay alone keep what has been reached before
  · rcases h with h | h
    · exact Or.inl ⟨h'.1.trans h.1, fun k hk => (h'.2 k hk).trans (h.2 k hk)⟩
    · refine Or.inr fun k hk => ?_
      rw [h'.1, h'.2 k hk]
      exact h k hk
  -- a commit makes durable what was in the view, wherever it was held
  · refine Or.inr fun k hk => ⟨fun hpackage => ?_, fun hpackage => ?_⟩
    · obtain ⟨hcommitted, hstaged⟩ := (h' k hk).1 hpackage
      have hview : second.view k = first.view k := by
        rcases h with h | h
        · exact h.view hk
        · exact h.view hk
      exact ⟨hcommitted.trans hview, hstaged⟩
    · obtain ⟨hcommitted, hstaged⟩ := (h' k hk).2 hpackage
      rw [hcommitted, hstaged]
      rcases h with h | h
      · rw [h.1, h.2 k hk]
        exact ⟨rfl, rfl⟩
      · exact (h k hk).2 hpackage

theorem spread_set {key : String} (hkey : keys key) (store : Store) (value : String) :
    Spread keys store (store.set key value) := by
  refine Or.inl ⟨rfl, fun k hk => if_neg ?_⟩
  rintro rfl
  exact hk hkey

theorem spread_delete {key : String} (hkey : keys key) (store : Store) :
    Spread keys store (store.delete key) := by
  refine Or.inl ⟨rfl, fun k hk => if_neg ?_⟩
  rintro rfl
  exact hk hkey

theorem spread_commit (store : Store) : Spread keys store (store.commit "tr69") := by
  refine Or.inr fun k _ => ⟨fun hpackage => ?_, fun hpackage => ?_⟩
  · exact ⟨if_pos hpackage, if_pos hpackage⟩
  · exact ⟨if_neg hpackage, if_neg hpackage⟩

/-- One call within the keys. -/
theorem spread_of_within {mayFail : SystemCall → Prop} (c : SystemCall) (before : Store)
    (answer : system.Answer c) (after : Store) (hwithin : Within keys c)
    (h : uciEnv mayFail c before answer after) : Spread keys before after := by
  cases c with
  | uciGet phase key => exact h.1 ▸ .refl _ _
  | uciSet phase key value =>
      rcases h with ⟨-, rfl⟩ | ⟨-, -, rfl⟩
      · exact spread_set hwithin before value
      · exact .refl _ _
  | uciDelete phase key =>
      simp only [uciEnv] at h
      split_ifs at h
      · rcases h with rfl | rfl
        · exact .refl _ _
        · exact spread_delete hwithin before
      · rcases h with ⟨-, rfl⟩ | ⟨-, -, rfl⟩
        · exact spread_delete hwithin before
        · exact .refl _ _
  | uciCommit phase package =>
      -- the transaction commits one package only
      have hpackage : package = "tr69" := hwithin
      rcases h with ⟨-, rfl⟩ | ⟨-, -, rfl⟩
      · rw [hpackage]
        exact spread_commit before
      · exact .refl _ _
  | capture command => exact h ▸ .refl _ _
  | executeOk command => exact h ▸ .refl _ _
  | saveMock path values => exact h ▸ .refl _ _
  | stderr text => exact h ▸ .refl _ _
  | log level message => exact h ▸ .refl _ _

/-! ## The failed call -/

/-- What a failed transaction over `written` leaves behind. -/
structure RolledBack (mayFail : SystemCall → Prop) (written : List StagedValue)
    (before after : Store) : Prop where
  /-- `uci get` shows what it showed before. -/
  view : ∀ key, (key ∈ written.map StagedValue.key → ∀ value, before.view key = some value →
    NoTrailingBreak value) → after.view key = before.view key
  /-- Where nothing was staged, nothing is. -/
  unstaged : ∀ key, key ∉ written.map StagedValue.key → before.staged key = none →
    after.committed key = before.committed key ∧ after.staged key = none
  /-- What others had staged is still staged, or it has been committed. -/
  staged : ∀ key change, key ∉ written.map StagedValue.key → before.staged key = some change →
    after.committed key = before.committed key ∧ after.staged key = some change ∨
      inPackage "tr69" key ∧ after.committed key = change ∧ after.staged key = none
  /-- Unless its commit fails, the rollback is durable, and all that was staged in the package. -/
  durable : ¬mayFail (.uciCommit .rollback "tr69") → ∀ key, inPackage "tr69" key →
    after.staged key = none ∧ after.committed key = after.view key

theorem SafeRollback.of_subset {mayFail : SystemCall → Prop}
    (hfaults : ∀ c, mayFail c → transactionFaults c) : SafeRollback mayFail where
  lookup key h := safeRollback_transactionFaults.lookup key (hfaults _ h)
  set key value h := safeRollback_transactionFaults.set key value (hfaults _ h)
  delete key h := safeRollback_transactionFaults.delete key (hfaults _ h)

theorem view_eq_of_staged {store : Store} {key : String} {change : Option String}
    (h : store.staged key = some change) : store.view key = change := by
  simp [Store.view, h]

theorem rolledBack_of_spread {mayFail : SystemCall → Prop} {written : List StagedValue}
    {before after : Store}
    (hspread : Spread (fun k => k ∈ written.map StagedValue.key) before after)
    (hview : ∀ k, after.view k = Engine.restoredView written before.view k)
    (hflushed : ¬mayFail (.uciCommit .rollback "tr69") →
      FlushedOn (fun k => True ∧ inPackage "tr69" k) after) :
    RolledBack mayFail written before after where
  -- a rollback writes what was read, which has lost its line breaks at the end
  view key hunbroken := by
    rw [hview, Engine.restoredView]
    split_ifs with hmem
    · cases hbefore : before.view key with
      | none => rfl
      | some value =>
          rw [Option.map_some, printed_of_noTrailingBreak (hunbroken hmem value hbefore)]
    · rfl
  -- a key that is not written may be committed along with the package
  unstaged key hkey hnone := by
    rcases hspread with huntouched | hflush
    · exact ⟨congrFun huntouched.1 key, (huntouched.2 key hkey).trans hnone⟩
    · by_cases hpackage : inPackage "tr69" key
      · obtain ⟨hcommitted, hstaged⟩ := (hflush key hkey).1 hpackage
        exact ⟨hcommitted.trans (view_eq_committed hnone), hstaged⟩
      · obtain ⟨hcommitted, hstaged⟩ := (hflush key hkey).2 hpackage
        exact ⟨hcommitted, hstaged.trans hnone⟩
  staged key change hkey hchange := by
    rcases hspread with huntouched | hflush
    · exact Or.inl ⟨congrFun huntouched.1 key, (huntouched.2 key hkey).trans hchange⟩
    · by_cases hpackage : inPackage "tr69" key
      · obtain ⟨hcommitted, hstaged⟩ := (hflush key hkey).1 hpackage
        exact Or.inr ⟨hpackage, hcommitted.trans (view_eq_of_staged hchange), hstaged⟩
      · obtain ⟨hcommitted, hstaged⟩ := (hflush key hkey).2 hpackage
        exact Or.inl ⟨hcommitted, hstaged.trans hchange⟩
  durable hcommit key hpackage := by
    have hstaged := hflushed hcommit key ⟨trivial, hpackage⟩
    exact ⟨hstaged, (view_eq_committed hstaged).symm⟩

section Calling

variable (engine : UciEngine) {mayFail : SystemCall → Prop} {store store' : Store}
  {items : List ParameterValue} {parameterKey : String} {result : Except SetError Unit × Engine}
  (hexec : Exec (uciEnv mayFail) (engine.setParameterValues items parameterKey) store result store')

include hexec

theorem eq_of_refused {refusal : SetError}
    (hrefusal : Engine.checkAll deviceMap items parameterKey = .error refusal) :
    result = (.error refusal, engine.toEngine) ∧ store' = store := by
  rw [← engine.shipped] at hrefusal
  have hwp : wp (uciEnv mayFail) anyCall (engine.setParameterValues items parameterKey)
      (fun result s' => result = (.error refusal, engine.toEngine) ∧ s' = store) store := by
    refine Engine.wp_setParameterValues_alone (fun error herror => ?_)
      (fun _ _ _ _ haccepted => ?_) fun _ _ _ haccepted => ?_
    · rw [hrefusal] at herror
      rw [Except.error.inj herror]
      exact ⟨rfl, rfl⟩
    · rw [hrefusal] at haccepted
      cases haccepted
    · rw [hrefusal] at haccepted
      cases haccepted
  exact hexec.of_wp hwp

/-- On UCI a call leaves the engine as it is. -/
theorem engine_eq_of_exec : result.2 = engine.toEngine := by
  have hwp : wp (uciEnv mayFail) anyCall (engine.setParameterValues items parameterKey)
      (fun result _ => result.2 = engine.toEngine) store := by
    refine Engine.wp_setParameterValues_alone (fun _ _ => rfl) (fun mock _ _ hmock _ => ?_)
      fun _ _ _ _ => wp_mono (wp_anyCall _ _) fun _ _ _ => rfl
    rw [engine.notMock] at hmock
    cases hmock
  exact hexec.of_wp hwp

/-- What the options of the batch hold at the end. -/
theorem ended_of_exec (hsafe : SafeRollback mayFail) :
    Engine.Ended (fun _ => True) mayFail store (Engine.checkAll deviceMap items parameterKey)
      result.1 store' := by
  rw [← engine.shipped]
  exact hexec.of_wp (wp_mono_env
    (Engine.wp_setParameterValues_ended engine.notMock hsafe fun _ _ _ _ => trivial)
    (uciEnv_subset_regionEnv (fun _ => True) mayFail))

/-- What the calls do outside of the batch. -/
theorem spread_of_exec (hsafe : SafeRollback mayFail) {written : List StagedValue}
    (hwritten : Engine.checkAll deviceMap items parameterKey = .ok written) :
    Spread (fun k => k ∈ written.map StagedValue.key) store store' := by
  rw [← engine.shipped] at hwritten
  have hbatch : ∀ other, Engine.checkAll engine.model items parameterKey = .ok other →
      ∀ item ∈ other, item.key ∈ written.map StagedValue.key := by
    intro other hother item hitem
    rw [hwritten] at hother
    exact List.mem_map_of_mem (Except.ok.inj hother ▸ hitem)
  exact hexec.relate (Spread.refl _) (fun _ _ _ => Spread.trans) spread_of_within
    (wp_mono_env (Engine.wp_setParameterValues_ended engine.notMock hsafe hbatch)
      (uciEnv_subset_regionEnv (fun k => k ∈ written.map StagedValue.key) mayFail))

end Calling

/-- A refused call changes nothing; a failed transaction is rolled back, under
any failures of forward sets, commits and read-backs. -/
theorem failed_call_rolled_back (engine : UciEngine) {mayFail : SystemCall → Prop}
    (hfaults : ∀ c, mayFail c → transactionFaults c) {store store' : Store}
    {items : List ParameterValue} {parameterKey : String} {error : SetError} {engine' : Engine}
    (hexec : Exec (uciEnv mayFail) (engine.setParameterValues items parameterKey) store
      (.error error, engine') store') :
    (∀ refusal, Engine.checkAll deviceMap items parameterKey = .error refusal →
      store' = store) ∧
    ∀ written, Engine.checkAll deviceMap items parameterKey = .ok written →
      RolledBack mayFail written store store' := by
  have hsafe := SafeRollback.of_subset hfaults
  refine ⟨fun refusal hrefusal => (eq_of_refused engine hexec hrefusal).2,
    fun written hwritten => ?_⟩
  have hended := ended_of_exec engine hexec hsafe
  rw [hwritten] at hended
  exact rolledBack_of_spread (spread_of_exec engine hexec hsafe hwritten)
    (fun k => hended.1 k trivial) hended.2.1

/-- Every forward set fails, and nothing else. -/
def forwardSetFails : SystemCall → Bool
  | .uciSet .forward _ _ => true
  | _ => false

/-- A store in which the URL is staged. -/
def stagedUrl : Store :=
  (Store.ofCommitted fun _ => none).set "tr69.mgmt_srv.url" "http://acs"

/-- The first set fails. -/
def failedProvisioning : (Except SetError Unit × Engine) × Store :=
  (plainEngine.setParameterValues [⟨"Device.ManagementServer.Username", "cpe", ""⟩] "").run
    (faultyHandler forwardSetFails) stagedUrl

theorem failedProvisioning_rolled_back :
    ∃ written, Engine.checkAll deviceMap [⟨"Device.ManagementServer.Username", "cpe", ""⟩] "" =
        .ok written ∧
      RolledBack (fun c => forwardSetFails c = true) written stagedUrl failedProvisioning.2 := by
  have hfaults : ∀ c, forwardSetFails c = true → transactionFaults c := by
    intro c hc
    unfold forwardSetFails at hc
    split at hc
    · rfl
    · cases hc
  have hexec : Exec (uciEnv fun c => forwardSetFails c = true)
      (plainEngine.setParameterValues [⟨"Device.ManagementServer.Username", "cpe", ""⟩] "")
      stagedUrl failedProvisioning.1 failedProvisioning.2 :=
    exec_run (faultyHandler_mem_uciEnv fun _ => id) _ _
  have hresult : failedProvisioning.1 =
      (.error ⟨"Device.ManagementServer.Username", "UCI set failed"⟩, failedProvisioning.1.2) :=
    Prod.ext rfl rfl
  rw [hresult] at hexec
  exact ⟨_, rfl, (failed_call_rolled_back plainEngine hfaults hexec).2 _ rfl⟩

/-- The staged URL is committed by the rollback. -/
theorem staged_url_committed :
    failedProvisioning.1.1 = .error ⟨"Device.ManagementServer.Username", "UCI set failed"⟩ ∧
      stagedUrl.committed "tr69.mgmt_srv.url" = none ∧
      failedProvisioning.2.committed "tr69.mgmt_srv.url" = some "http://acs" ∧
      failedProvisioning.2.staged "tr69.mgmt_srv.url" = none :=
  ⟨rfl, rfl, rfl, rfl⟩

end Tr069d
