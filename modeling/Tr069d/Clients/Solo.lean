import Tr069d.Clients.Client

/-!
# A client on its own

What a client does between its start and its result, as far as the others can
tell (`wp_transaction`, `wp_afterSet`), and what a run without faults and without
other clients leaves behind (`run_transaction`, `run_flag`).

* `TransactionEnd` and `AfterSet` are the two ends, for a transaction and for a flag.
* `TransactionEnd.stable` says that others at work on other keys do not undo the first.

Both are statements about the program of one client in surroundings that may do
anything to the keys of the others between two of its calls.
-/

namespace Tr069d

open Effects

/-! ## A transaction -/

/-- The verdict on the batch of a transaction. -/
def checked (items : List ParameterValue) (parameterKey : String) :
    Except SetError (List StagedValue) :=
  Engine.checkAll deviceMap items parameterKey

/-- What a transaction that started in `before` returns, and leaves behind. -/
def TransactionEnd (mayFail : SystemCall → Prop) (before : Store) (items : List ParameterValue)
    (parameterKey : String) (report : Report) (after : Store) : Prop :=
  ∃ result, report = .transaction result ∧
    Engine.Finished modelKey mayFail before (checked items parameterKey) result after

theorem modelKey_of_checked {items : List ParameterValue} {parameterKey : String}
    {written : List StagedValue} (hcheck : checked items parameterKey = .ok written)
    {item : StagedValue} (hitem : item ∈ written) : modelKey item.key := by
  obtain ⟨path, hlookup⟩ := lookup_of_checkAll hcheck hitem
  exact modelKey_key hlookup

theorem wp_transaction {mayFail : SystemCall → Prop} (hfaults : SafeRollback mayFail)
    (engine : UciEngine) (items : List ParameterValue) (parameterKey : String) {store : Store}
    (hclean : CleanOn modelKey store) :
    wp (regionEnv modelKey mayFail) (Within modelKey)
      (Client.transaction engine items parameterKey).program
      (TransactionEnd mayFail store items parameterKey) store := by
  simp only [Client.program, wp_bind]
  refine wp_mono (Engine.wp_setParameterValues engine.notMock hfaults hclean ?_) ?_
  · rw [engine.shipped]
    exact fun _ hcheck _ hitem => modelKey_of_checked hcheck hitem
  · rw [engine.shipped]
    exact fun result _ hfinished => ⟨result.1, rfl, hfinished⟩

/-- Other clients at work elsewhere do not undo what a transaction left behind. -/
theorem TransactionEnd.stable {mayFail : SystemCall → Prop} {before : Store}
    {items : List ParameterValue} {parameterKey : String} (report : Report) (after after' : Store)
    (hsame : SameOn modelKey after after')
    (h : TransactionEnd mayFail before items parameterKey report after) :
    TransactionEnd mayFail before items parameterKey report after' := by
  obtain ⟨result, hreport, hfinished⟩ := h
  refine ⟨result, hreport, ?_⟩
  unfold Engine.Finished at hfinished ⊢
  cases hcheck : checked items parameterKey with
  | error error =>
      simp only [hcheck] at hfinished
      exact ⟨hfinished.1, hfinished.2.trans hsame⟩
  | ok written =>
      simp only [hcheck] at hfinished
      cases result with
      | ok u =>
          refine ⟨fun k hk => (hsame.view hk).trans (hfinished.1 k hk), fun item hitem => ?_,
            hsame.flushedOn hfinished.2.2⟩
          rw [hsame.view (modelKey_of_checked hcheck hitem)]
          exact hfinished.2.1 item hitem
      | error error =>
          exact ⟨hfinished.1.trans hsame.sameView,
            fun hsafe => hsame.flushedOn (hfinished.2.1 hsafe), hfinished.2.2⟩

/-- Without faults, a transaction whose values read back writes all of them. -/
theorem run_transaction (engine : UciEngine) {items : List ParameterValue} {parameterKey : String}
    {written : List StagedValue} (hcheck : checked items parameterKey = .ok written)
    {store : Store} (hclean : CleanOn modelKey store) (hflushed : ∀ k, store.staged k = none)
    (hreads : Engine.ReadsBack written store.view) :
    let after := ((Client.transaction engine items parameterKey).program.run uciHandler store).2
    after.view = applyWrites written store.view ∧ ∀ k, after.staged k = none := by
  intro after
  have hfree : SafeRollback fun _ => False := ⟨fun _ => id, fun _ _ => id, fun _ => id⟩
  have hforward : NoForwardFaults fun _ => False := ⟨fun _ _ => id, fun _ => id, fun _ => id⟩
  have hexec := exec_run (uciHandler_mem_uciEnv fun _ => False)
    (Client.transaction engine items parameterKey).program store
  have hwp := wp_mono_env (wp_transaction hfree engine items parameterKey hclean)
    (uciEnv_subset_regionEnv modelKey fun _ => False)
  -- outside of the map nothing is touched
  have hother : SameOn (fun k => ¬ modelKey k) store after :=
    hexec.relate (SameOn.refl _) (fun _ _ _ => SameOn.trans)
      (fun c s answer s' => sameOn_of_within c s answer s') hwp
  -- without faults the end of a transaction is decided by whether the values read back
  obtain ⟨result, _, hfinished⟩ := hexec.of_wp hwp
  simp only [Engine.Finished, hcheck] at hfinished
  cases result with
  | error error => exact absurd hreads (hfinished.2.2 hforward)
  | ok u =>
      obtain ⟨hview, _, hstaged⟩ := hfinished
      constructor
      · funext k
        by_cases hk : modelKey k
        · exact hview k hk
        · rw [hother.view hk, applyWrites_of_not_mem]
          rintro hmem
          obtain ⟨item, hitem, rfl⟩ := List.mem_map.mp hmem
          exact hk (modelKey_of_checked hcheck hitem)
      · intro k
        by_cases hk : modelKey k
        · exact hstaged k ⟨hk, hk.1⟩
        · exact (hother k hk).2 (hflushed k)

/-! ## A flag -/

/-- What is left of storing a flag, once its commit was answered. -/
def FlagWrite.afterCommit (write : FlagWrite) (setOk commitOk : Bool) : SystemProg Report :=
  if setOk && commitOk then return .flag setOk commitOk
  else do
    Logger.log .warn ("[RUNTIME] " ++ write.warning ++ " failed set=" ++ boolText setOk ++
      " commit=" ++ boolText commitOk)
    return .flag setOk commitOk

/-- What is left of storing a flag, once its set was answered. -/
def FlagWrite.afterSet (write : FlagWrite) (setOk : Bool) : SystemProg Report := do
  if setOk then
    let commitOk ← UciAdapter.commit "tr69"
    write.afterCommit setOk commitOk
  else
    Logger.log .error ("UCI set failed: " ++ write.key)
    let commitOk ← UciAdapter.commit "tr69"
    write.afterCommit setOk commitOk

/-- Storing a flag starts with its set. -/
theorem program_flag (write : FlagWrite) :
    (Client.flag write).program =
      .call (.uciSet .forward write.key write.value) write.afterSet := by
  have hvalid : UciAdapter.validKey write.key = true := by cases write <;> decide
  simp only [Client.program, FlagWrite.persist, persistFlag, UciAdapter.set, hvalid, if_true,
    bind_assoc, Prog.ask, Prog.call_bind, Prog.done_bind]
  refine congrArg _ (funext fun setOk => ?_)
  cases setOk with
  | true =>
      rw [if_pos rfl, pure_bind]
      refine bind_congr fun commitOk => ?_
      cases commitOk <;> rfl
  | false =>
      rw [if_neg Bool.false_ne_true, bind_assoc]
      refine bind_congr fun _ => ?_
      rw [pure_bind]
      refine bind_congr fun commitOk => ?_
      cases commitOk <;> rfl

/-- The calls that are left once the set was answered. -/
def AfterSet : SystemCall → Prop
  | .uciCommit phase package => phase = .forward ∧ package = "tr69"
  | .log _ _ => True
  | _ => False

/-- Whatever the calls answer, the report tells how the set and the commit went. -/
theorem wp_afterSet (env : Env system Unit) (write : FlagWrite) (setOk : Bool) :
    wp env AfterSet (write.afterSet setOk) (fun report _ => ∃ commitOk,
      report = .flag setOk commitOk ∧ env (.uciCommit .forward "tr69") () commitOk ()) () := by
  have hafterCommit : ∀ commitOk, env (.uciCommit .forward "tr69") () commitOk () →
      wp env AfterSet (write.afterCommit setOk commitOk) (fun report _ => ∃ commitOk,
        report = .flag setOk commitOk ∧ env (.uciCommit .forward "tr69") () commitOk ()) () := by
    intro commitOk hanswer
    unfold FlagWrite.afterCommit
    split_ifs
    · exact ⟨commitOk, rfl, hanswer⟩
    · exact ⟨trivial, fun _ _ _ => ⟨commitOk, rfl, hanswer⟩⟩
  have hcommit : wp env AfterSet (UciAdapter.commit "tr69" >>= write.afterCommit setOk)
      (fun report _ => ∃ commitOk,
        report = .flag setOk commitOk ∧ env (.uciCommit .forward "tr69") () commitOk ()) () := by
    have hvalid : UciAdapter.validKey "tr69" = true := by decide
    rw [UciAdapter.commit, if_pos hvalid, bind_assoc, wp_bind, wp_ask]
    refine ⟨⟨rfl, rfl⟩, fun commitOk _ hanswer => ?_⟩
    cases commitOk with
    | true => exact hafterCommit true hanswer
    | false => exact ⟨trivial, fun _ _ _ => hafterCommit false hanswer⟩
  cases setOk with
  | true => exact hcommit
  | false => exact ⟨trivial, fun _ _ _ => hcommit⟩

/-- Without faults, storing a flag sets and commits it. -/
theorem run_flag (write : FlagWrite) (store : Store) :
    ((Client.flag write).program.run uciHandler store).2 =
      (store.set write.key write.value).commit "tr69" := by
  rw [program_flag]
  rfl

end Tr069d
