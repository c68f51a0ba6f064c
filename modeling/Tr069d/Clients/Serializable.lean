import Tr069d.Clients.Linearized

/-!
# Serializability of the clients

When all clients have returned, and transactions did not overlap, the committed
package is that of a serial run of the clients that report success.  Each of the
conditions is needed: `not_endsSerially` breaks the result by an overlap, by a
rollback whose commit fails, and by a flag whose commit fails.

* `Linearized.step` is one step of one client, which may put it into the serial order: a
  flag at its `set`, a transaction when it returns.
* `endsSerially_of_exclusive` is the result, over every interleaving of any number of
  clients.  The order has the clients that report success, and no others.
* `not_endsSerially` has one run for each of the conditions.
-/

namespace Tr069d

open Effects

variable {ι : Type} [DecidableEq ι] {clients : ι → Client} {initial : Store} {order : List ι}
  {pool pool' : Pool ι system Report Store} {i : ι}

/-- Every step keeps the store linearized, if transactions do not overlap. -/
theorem Linearized.step (h : Linearized clients initial order pool)
    (hguard : Pool.Exclusive (fun j => (clients j).isTransaction) pool i)
    (hstep : Pool.Step clientEnv pool i pool') :
    ∃ order', Linearized clients initial order' pool' := by
  cases hstep with
  | start hthread =>
      have hstands := h.stands i
      rw [hthread] at hstands
      obtain ⟨rfl, hnot⟩ := hstands
      cases hclient : clients i with
      | flag write =>
          refine ⟨order, h.setFlag_of_eq (by rw [hclient]; exact id) ?_ fun hpending => ?_⟩
          · rw [hclient]
            exact stands_flag.mpr (Or.inl ⟨rfl, hnot⟩)
          · rw [hthread] at hpending
            exact hpending.elim
      | transaction engine items parameterKey =>
          -- no other transaction is in progress, so the options are settled: it begins on the
          -- serial store
          have hnone := hguard (by simp only [hclient]; exact trivial) ⟨_, hthread⟩
          have hsettles := h.idle hnone
          refine h.setTransaction hclient hnot (fun j hj _ => hnone j hj) (.refl _ _)
            ⟨pool.state, fun k hk => (hsettles k hk).1, fun k hk => (hsettles k hk).2, ?_⟩
          refine wp_transaction safeRollback_clientFaults engine items parameterKey ?_
          exact fun k value hk hvalue => h.clean k value hk ((hsettles k hk).1.symm.trans hvalue)
  | call hthread hcall =>
      cases hclient : clients i with
      | flag write => exact h.flag_call hclient hthread hcall
      | transaction engine items parameterKey =>
          -- a transaction in progress moves on; any other one in progress would be the same
          have htransaction : (clients i).isTransaction := by rw [hclient]; exact trivial
          have hstands := h.stands i
          rw [hclient, hthread] at hstands
          obtain ⟨hnot, before, hview, hflushed, hwithin, hwp⟩ := hstands
          refine h.setTransaction hclient hnot (fun j hj hne hprogress => ?_)
            (sameOn_of_within _ _ _ _ hwithin hcall)
            ⟨before, hview, hflushed, hwp _ _ (uciEnv_subset_regionEnv _ _ _ _ _ _ hcall)⟩
          exact hne (h.exclusive j i hj htransaction hprogress ⟨_, _, hthread⟩)

/-- The committed package is that of a serial run, in some order, of the clients
that report success. -/
def EndsSerially (clients : ι → Client) (committed : String → Option String)
    (reports : ι → Report) (pool : Pool ι system Report Store) : Prop :=
  ∃ order : List ι, order.Nodup ∧ (∀ i, i ∈ order ↔ (reports i).success = true) ∧
    pool.state.committed = (serialRun clients order (.ofCommitted committed)).committed

/-- When all clients have returned, and no commit of a flag that was set failed,
they end serially. -/
theorem endsSerially_of_exclusive (clients : ι → Client) {committed : String → Option String}
    (hclean : ∀ key value, committed key = some value → NoTrailingBreak value)
    (hrun : Pool.Run clientEnv (Pool.Exclusive fun i => (clients i).isTransaction)
      (startPool clients committed) pool)
    {reports : ι → Report} (hreturned : ∀ i, pool.Returned i (reports i))
    (hcommits : ∀ i setOk commitOk, reports i = .flag setOk commitOk → setOk = true →
      commitOk = true) :
    EndsSerially clients committed reports pool := by
  obtain ⟨order, h⟩ := hrun.invariant
    (I := fun pool => ∃ order, Linearized clients (.ofCommitted committed) order pool)
    (fun _ _ _ h hguard hstep => h.elim fun _ h => h.step hguard hstep)
    ⟨[], linearized_startPool clients hclean⟩
  refine ⟨order, h.nodup, fun i => ?_, ?_⟩
  · have hstands := h.stands i
    rw [hreturned i] at hstands
    cases hclient : clients i with
    | transaction engine items parameterKey =>
        rw [hclient] at hstands
        exact hstands.2.symm
    | flag write =>
        rw [hclient, stands_flag, program_flag] at hstands
        rcases hstands with ⟨hprogram, _⟩ | ⟨setOk, hplaced, commitOk, hreport⟩
        · cases hprogram
        · rw [← hplaced, hreport]
          cases setOk with
          | true => simp [Report.success, hcommits i true commitOk hreport rfl]
          | false => simp [Report.success]
  · have hstaged : ∀ k, pool.state.staged k = none ∧
        pool.state.view k = (serialRun clients order (.ofCommitted committed)).view k := by
      intro k
      by_cases hk : modelKey k
      · have hidle : ∀ j, ¬ pool.InProgress j := by
          rintro j ⟨c, next, hthread⟩
          rw [hreturned j] at hthread
          cases hthread
        have hsettles := h.idle (fun j _ => hidle j) k hk
        exact ⟨hsettles.2, hsettles.1⟩
      · refine ⟨?_, h.outside k hk⟩
        by_contra hne
        -- a flag that is still staged was reported as set and not committed
        obtain ⟨_, j, _, hpending⟩ := h.pending k hk hne
        rw [hreturned j] at hpending
        exact Bool.false_ne_true (hcommits j true false hpending rfl)
    funext k
    rw [← view_eq_committed (hstaged k).1, ← view_eq_committed (h.committed k), (hstaged k).2]

/-! ## Runs of two clients -/

/-- A transaction that sets the Inform interval. -/
def setInterval (value parameterKey : String) : Client :=
  .transaction plainEngine
    [⟨"Device.ManagementServer.PeriodicInformInterval", value, "xsd:unsignedInt"⟩] parameterKey

/-- A package with only the Inform interval in it. -/
def oldInterval (key : String) : Option String :=
  if key = "tr69.periodic_inform.interval" then some "300" else none

theorem noTrailingBreak_oldInterval (key value : String) (h : oldInterval key = some value) :
    NoTrailingBreak value := by
  unfold oldInterval at h
  split_ifs at h
  rw [← Option.some.inj h]
  rfl

/-- The first client stores `bootstrap_done`, the second one sets the interval. -/
def flagAndTransaction (i : Bool) : Client :=
  if i then setInterval "60" "a" else .flag .bootstrapDone

/-- The transaction may start at any time: it is the only one. -/
theorem exclusive_flagAndTransaction (pool : Pool Bool system Report Store) (i : Bool) :
    Pool.Exclusive (fun i => (flagAndTransaction i).isTransaction) pool i := by
  rintro hi ⟨program, hwaiting⟩ j hj ⟨c, next, hthread⟩
  cases i with
  | false => exact hi
  | true =>
      cases j with
      | false => exact hj
      | true => simp [hwaiting] at hthread

/-- The flag is set before and committed after the transaction set its values. -/
theorem flagAndTransaction_endsSerially :
    EndsSerially flagAndTransaction oldInterval
      (fun i => if i then .transaction (.ok ()) else .flag true true)
      (((((startPool flagAndTransaction oldInterval).turn uciHandler 1 false).turn
        uciHandler 4 true).turn uciHandler 1 false).turn uciHandler 20 true) := by
  have hturn : ∀ pool fuel i, Pool.Run clientEnv
      (Pool.Exclusive fun i => (flagAndTransaction i).isTransaction) pool
      (pool.turn uciHandler fuel i) := fun pool fuel i =>
    Pool.run_turn (uciHandler_mem_uciEnv clientFaults) Pool.exclusive_of_inProgress fuel
      (exclusive_flagAndTransaction pool i)
  refine endsSerially_of_exclusive flagAndTransaction noTrailingBreak_oldInterval
    ((((hturn _ 1 false).trans (hturn _ 4 true)).trans (hturn _ 1 false)).trans (hturn _ 20 true))
    (fun i => ?_) fun i setOk commitOk hreport _ => ?_
  · cases i <;> rfl
  · cases i with
    | false =>
        cases hreport
        rfl
    | true => cases hreport

/-! ## What breaks the order -/

omit [DecidableEq ι] in
theorem not_endsSerially_of_single {committed : String → Option String} {reports : ι → Report}
    (honly : ∀ j, (reports j).success = true ↔ j = i) {k : String}
    (hk : pool.state.committed k ≠
      (serialRun clients [i] (.ofCommitted committed)).committed k) :
    ¬ EndsSerially clients committed reports pool := by
  rintro ⟨order, hnodup, hmem, hcommitted⟩
  have hperm : order.Perm [i] := by
    refine (List.perm_ext_iff_of_nodup hnodup (List.nodup_singleton i)).mpr fun j => ?_
    rw [hmem, honly, List.mem_singleton]
  rw [List.perm_singleton.mp hperm] at hcommitted
  exact hk (congrFun hcommitted k)

omit [DecidableEq ι] in
theorem not_endsSerially_of_none {committed : String → Option String} {reports : ι → Report}
    (hnone : ∀ j, (reports j).success = false) {k : String}
    (hk : pool.state.committed k ≠ committed k) :
    ¬ EndsSerially clients committed reports pool := by
  rintro ⟨order, _, hmem, hcommitted⟩
  have hnil : order = [] := List.eq_nil_iff_forall_not_mem.mpr fun j hj => by
    have hsuccess := (hmem j).mp hj
    rw [hnone j] at hsuccess
    cases hsuccess
  rw [hnil] at hcommitted
  exact hk (congrFun hcommitted k)

def twoTransactions (i : Bool) : Client :=
  if i then setInterval "30" "b" else setInterval "60" "a"

/-- Forward sets fail. -/
def failsSets : SystemCall → Bool
  | .uciSet .forward _ _ => true
  | _ => false

/-- Commits of the given phase fail, and read-backs. -/
def failsCommits (phase : Phase) : SystemCall → Bool
  | .uciCommit p _ => p = phase
  | .uciGet .readBack _ => true
  | _ => false

/-- The order breaks

* when transactions overlap: the first one saves the originals, the second one
  succeeds, the first one fails to set and rolls the second one back;
* when the commit of a rollback fails: what was rolled back stays committed;
* when a flag is set and its commit fails: the next transaction commits it. -/
theorem not_endsSerially :
    (∃ pool reports, Pool.Run clientEnv (fun _ _ => True)
      (startPool twoTransactions oldInterval) pool ∧ (∀ i, pool.Returned i (reports i)) ∧
        ¬ EndsSerially twoTransactions oldInterval reports pool) ∧
    (∃ pool reports, Pool.Run (uciEnv fun _ => True) (Pool.Exclusive fun _ => True)
      (startPool (fun _ : Unit => setInterval "60" "a") oldInterval) pool ∧
        (∀ i, pool.Returned i (reports i)) ∧
        ¬ EndsSerially (fun _ => setInterval "60" "a") oldInterval reports pool) ∧
    ∃ pool reports, Pool.Run clientEnv
      (Pool.Exclusive fun i => (flagAndTransaction i).isTransaction)
      (startPool flagAndTransaction oldInterval) pool ∧ (∀ i, pool.Returned i (reports i)) ∧
        ¬ EndsSerially flagAndTransaction oldInterval reports pool := by
  -- the three runs are made of turns, each of one thread with commands that fail or do not
  refine ⟨⟨(((startPool twoTransactions oldInterval).turn uciHandler 2 false).turn
      uciHandler 20 true).turn (faultyHandler failsSets) 20 false,
      fun i => if i then .transaction (.ok ()) else .transaction (.error
        ⟨"Device.ManagementServer.PeriodicInformInterval", "UCI set failed"⟩), ?_, ?_, ?_⟩,
    ⟨(startPool (fun _ : Unit => setInterval "60" "a") oldInterval).turn
      (faultyHandler (failsCommits .rollback)) 20 (),
      fun _ => .transaction (.error ⟨"Device.ManagementServer.PeriodicInformInterval",
        "UCI read-back verification failed"⟩), ?_, ?_, ?_⟩,
    ⟨((startPool flagAndTransaction oldInterval).turn
      (faultyHandler (failsCommits .forward)) 20 false).turn uciHandler 20 true,
      fun i => if i then .transaction (.ok ()) else .flag true false, ?_, ?_, ?_⟩⟩
  · have hgood : ∀ (pool : Pool Bool system Report Store) fuel i,
        Pool.Run clientEnv (fun _ _ => True) pool (pool.turn uciHandler fuel i) :=
      fun pool fuel i =>
      Pool.run_turn (uciHandler_mem_uciEnv clientFaults) (fun _ _ _ => trivial) fuel trivial
    refine ((hgood _ 2 false).trans (hgood _ 20 true)).trans
      (Pool.run_turn (faultyHandler_mem_uciEnv fun c hfails => ?_) (fun _ _ _ => trivial) 20
        trivial)
    unfold failsSets at hfails
    split at hfails
    · rfl
    · cases hfails
  · intro i
    cases i <;> rfl
  · refine not_endsSerially_of_single (i := true) (k := "tr69.periodic_inform.interval") ?_ ?_
    · intro j
      cases j <;> decide
    · decide
  · refine Pool.run_turn (faultyHandler_mem_uciEnv fun _ _ => trivial)
      Pool.exclusive_of_inProgress 20 ?_
    rintro _ _ j _ ⟨c, next, hthread⟩
    cases hthread
  · exact fun _ => rfl
  · refine not_endsSerially_of_none (k := "tr69.periodic_inform.interval") (fun _ => rfl) ?_
    decide
  · refine (Pool.run_turn (faultyHandler_mem_uciEnv fun c hfails => ?_)
        Pool.exclusive_of_inProgress 20 (exclusive_flagAndTransaction _ _)).trans
      (Pool.run_turn (uciHandler_mem_uciEnv clientFaults) Pool.exclusive_of_inProgress 20
        (exclusive_flagAndTransaction _ _))
    unfold failsCommits at hfails
    split at hfails
    · simpa [clientFaults] using hfails
    · rfl
    · cases hfails
  · intro i
    cases i <;> rfl
  · refine not_endsSerially_of_single (i := true) (k := "tr69.settings.bootstrap_done") ?_ ?_
    · intro j
      cases j <;> decide
    · decide

end Tr069d
