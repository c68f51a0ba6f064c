import Tr069d.Clients.Solo
import Tr069d.Effects.Pool

/-!
# Clients at work on one package

Any number of clients on one store, every `uci` command atomic, the commands of
different clients in any order, and transactions that do not overlap.

The serial order is built along the run: a flag takes its place with its `set`,
a transaction when it returns.  `Linearized` says how the store relates to the
serial run so far.  The flags read as in the serial run at any time; the options
of the map do so while no transaction is in progress, and in between the
precondition of the transaction that is in progress tells where it leads to.
-/

namespace Tr069d

open Effects

/-- Any forward set, forward commit and read-back may fail, and nothing else. -/
def clientFaults : SystemCall → Prop
  | .uciGet phase _ => phase = .readBack
  | .uciSet phase _ _ => phase = .forward
  | .uciCommit phase _ => phase = .forward
  | _ => False

theorem safeRollback_clientFaults : SafeRollback clientFaults where
  lookup _ h := nomatch h
  set _ _ h := nomatch h
  delete _ h := h

/-- The system: what a client may do to the store. -/
abbrev clientEnv : Env system Store := uciEnv clientFaults

/-- The clients before they start, on a store with nothing staged. -/
def startPool {ι : Type} (clients : ι → Client) (committed : String → Option String) :
    Pool ι system Report Store where
  threads i := .waiting (clients i).program
  state := .ofCommitted committed

/-- The clients of `order`, one after the other, without faults. -/
def serialRun {ι : Type} (clients : ι → Client) (order : List ι) (store : Store) : Store :=
  order.foldl (fun store i => ((clients i).program.run uciHandler store).2) store

theorem serialRun_concat {ι : Type} (clients : ι → Client) (order : List ι) (i : ι)
    (store : Store) :
    serialRun clients (order ++ [i]) store =
      ((clients i).program.run uciHandler (serialRun clients order store)).2 := by
  simp [serialRun]

/-! ## Where a client stands -/

/-- Whatever a call answers. -/
def anyAnswer : Env system Unit :=
  fun _ _ _ _ => True

/-- Every commit fails. -/
def failedCommit : Env system Unit
  | .uciCommit _ _, _, answer, _ => answer = false
  | _, _, _, _ => True

/-- A flag that was set and not committed: if every commit fails from now on,
this is what the client reports. -/
def PendingCommit : Thread system Report → Prop
  | .waiting _ => False
  | .running program =>
      wp failedCommit AfterSet program (fun report _ => report = .flag true false) ()

/-- The flag was set, or its set failed; the rest is commit and log. -/
def FlagAnswered (setOk : Bool) (program : SystemProg Report) : Prop :=
  wp anyAnswer AfterSet program (fun report _ => ∃ commitOk, report = .flag setOk commitOk) ()

/-- A transaction in progress, that started from the view of `serial`. -/
def InTransaction (items : List ParameterValue) (parameterKey : String) (serial : Store)
    (program : SystemProg Report) (state : Store) : Prop :=
  ∃ before, SameView modelKey serial before ∧ FlushedOn modelKey before ∧
    wp (regionEnv modelKey clientFaults) (Within modelKey) program
      (TransactionEnd clientFaults before items parameterKey) state

/-- Where a client stands, given whether it has its place in the order. -/
def Stands (serial state : Store) (placed : Prop) : Client → Thread system Report → Prop
  | client, .waiting program => program = client.program ∧ ¬ placed
  | .transaction _ _ _, .running (.done report) =>
      (∃ result, report = .transaction result) ∧ (report.success = true ↔ placed)
  | .transaction _ items parameterKey, .running program =>
      ¬ placed ∧ InTransaction items parameterKey serial program state
  | .flag write, .running program =>
      program = (Client.flag write).program ∧ ¬ placed ∨
        ∃ setOk, (setOk = true ↔ placed) ∧ FlagAnswered setOk program

theorem stands_flag {serial state : Store} {placed : Prop} {write : FlagWrite}
    {program : SystemProg Report} :
    Stands serial state placed (.flag write) (.running program) ↔
      program = (Client.flag write).program ∧ ¬ placed ∨
        ∃ setOk, (setOk = true ↔ placed) ∧ FlagAnswered setOk program := by
  cases program <;> rfl

/-- A client is affected only if it is a transaction in progress. -/
theorem Stands.mono {serial serial' state state' : Store} {placed placed' : Prop} {client : Client}
    {thread : Thread system Report} (h : Stands serial state placed client thread)
    (hplaced : placed' ↔ placed)
    (hsame : client.isTransaction → (∃ c next, thread = .running (.call c next)) →
      SameView modelKey serial' serial ∧ SameOn modelKey state state') :
    Stands serial' state' placed' client thread := by
  cases thread with
  | waiting program => exact ⟨h.1, by rw [hplaced]; exact h.2⟩
  | running program =>
      cases client with
      | flag write => simpa only [Stands, hplaced] using h
      | transaction engine items parameterKey =>
          cases program with
          | done report => simpa only [Stands, hplaced] using h
          | call c next =>
              obtain ⟨hnot, before, hview, hflushed, hwp⟩ := h
              obtain ⟨hserial, hstate⟩ := hsame trivial ⟨c, next, rfl⟩
              exact ⟨by rwa [hplaced], before, hserial.trans hview, hflushed,
                wp_of_absorbed (fun c s s₁ answer s' h₁ h₂ =>
                  regionEnv_absorb_left c s₁ answer s' h₁ h₂)
                  (fun report s s₁ => TransactionEnd.stable report s s₁) hwp hstate⟩

/-- The options of the map are committed, and read as in `serial`. -/
def Settles (serial state : Store) : Prop :=
  ∀ k, modelKey k → state.view k = serial.view k ∧ state.staged k = none

/-- A transaction that returns a failure leaves the serial run where it is. -/
theorem settles_of_failure {serial before state : Store} {items : List ParameterValue}
    {parameterKey : String} {report : Report} (hview : SameView modelKey serial before)
    (hflushed : FlushedOn modelKey before)
    (hend : TransactionEnd clientFaults before items parameterKey report state)
    (hfailure : report.success = false) : Settles serial state := by
  obtain ⟨result, rfl, hfinished⟩ := hend
  unfold Engine.Finished at hfinished
  intro k hk
  cases hcheck : checked items parameterKey with
  | error error =>
      simp only [hcheck] at hfinished
      exact ⟨(hfinished.2.view hk).trans (hview k hk), (hfinished.2 k hk).2 (hflushed k hk)⟩
  | ok written =>
      simp only [hcheck] at hfinished
      cases result with
      | ok u => simp [Report.success] at hfailure
      | error error =>
          have hrollback : ¬ clientFaults (.uciCommit .rollback "tr69") := nofun
          exact ⟨(hfinished.1 k hk).trans (hview k hk), hfinished.2.1 hrollback k ⟨hk, hk.1⟩⟩

/-- A transaction that returns a success leaves what it writes when it runs
alone after the others. -/
theorem settles_of_success {serial before state : Store} (engine : UciEngine)
    {items : List ParameterValue} {parameterKey : String} {report : Report}
    (hclean : CleanOn modelKey serial) (hserial : ∀ k, serial.staged k = none)
    (hview : SameView modelKey serial before)
    (hend : TransactionEnd clientFaults before items parameterKey report state)
    (hsuccess : report.success = true) :
    let serial' :=
      ((Client.transaction engine items parameterKey).program.run uciHandler serial).2
    Settles serial' state ∧ (∀ k, serial'.staged k = none) ∧ CleanOn modelKey serial' ∧
      ∀ k, ¬ modelKey k → serial'.view k = serial.view k := by
  intro serial'
  obtain ⟨result, rfl, hfinished⟩ := hend
  unfold Engine.Finished at hfinished
  cases hcheck : checked items parameterKey with
  | error error =>
      simp only [hcheck] at hfinished
      simp [hfinished.1, Report.success] at hsuccess
  | ok written =>
      simp only [hcheck] at hfinished
      cases result with
      | error error => simp [Report.success] at hsuccess
      | ok u =>
          obtain ⟨hafter, hvalues, hflushed⟩ := hfinished
          -- the transaction began on the options of the serial store, so both now show its
          -- writes
          have hwrites : ∀ k, modelKey k →
              state.view k = applyWrites written serial.view k := by
            intro k hk
            rw [hafter k hk]
            exact applyWrites_congr _ (hview k hk)
          -- what it read back is what the serial store would print
          have hreads : Engine.ReadsBack written serial.view := by
            intro item hitem
            obtain ⟨hvalue, hbreak⟩ := hvalues item hitem
            rw [← hwrites _ (modelKey_of_checked hcheck hitem), hvalue, Option.map_some,
              printed_of_noTrailingBreak hbreak]
          obtain ⟨hrun, hstaged⟩ := run_transaction engine hcheck hclean hserial hreads
          have hrun' : serial'.view = applyWrites written serial.view := hrun
          refine ⟨fun k hk => ⟨?_, hflushed k ⟨hk, hk.1⟩⟩, hstaged, fun k value hk hvalue => ?_,
            fun k hk => ?_⟩
          · rw [hrun', hwrites k hk]
          · rw [hrun'] at hvalue
            by_cases hmem : k ∈ written.map StagedValue.key
            · obtain ⟨item, hitem, hkey, hitemValue⟩ := exists_applyWrites_eq hmem serial.view
              rw [← Option.some.inj (hitemValue.symm.trans hvalue)]
              exact (hvalues item hitem).2
            · exact hclean k value hk ((applyWrites_of_not_mem hmem _).symm.trans hvalue)
          · rw [hrun', applyWrites_of_not_mem]
            intro hmem
            obtain ⟨item, hitem, rfl⟩ := List.mem_map.mp hmem
            exact hk (modelKey_of_checked hcheck hitem)

/-! ## The invariant -/

variable {ι : Type} [DecidableEq ι] {clients : ι → Client} {initial : Store} {order : List ι}
  {pool pool' : Pool ι system Report Store} {i : ι}

/-- The store is where the serial run of `order` says, up to what the clients
in progress are about to do. -/
structure Linearized (clients : ι → Client) (initial : Store) (order : List ι)
    (pool : Pool ι system Report Store) : Prop where
  nodup : order.Nodup
  stands : ∀ i, Stands (serialRun clients order initial) pool.state (i ∈ order) (clients i)
    (pool.threads i)
  committed : ∀ k, (serialRun clients order initial).staged k = none
  clean : CleanOn modelKey (serialRun clients order initial)
  /-- Outside of the map the store reads as after the serial run. -/
  outside : ∀ k, ¬ modelKey k → pool.state.view k = (serialRun clients order initial).view k
  /-- Outside of the map, what is staged is a flag whose commit is still due. -/
  pending : ∀ k, ¬ modelKey k → pool.state.staged k ≠ none →
    inPackage "tr69" k ∧ ∃ j, ¬ (clients j).isTransaction ∧ PendingCommit (pool.threads j)
  /-- Between transactions the options of the map read as after the serial run. -/
  idle : (∀ j, (clients j).isTransaction → ¬ pool.InProgress j) →
    Settles (serialRun clients order initial) pool.state
  exclusive : ∀ j k, (clients j).isTransaction → (clients k).isTransaction →
    pool.InProgress j → pool.InProgress k → j = k

omit [DecidableEq ι] in
theorem linearized_startPool (clients : ι → Client) {committed : String → Option String}
    (hclean : ∀ k value, committed k = some value → NoTrailingBreak value) :
    Linearized clients (.ofCommitted committed) [] (startPool clients committed) where
  nodup := .nil
  stands i := ⟨rfl, by simp⟩
  committed k := rfl
  clean k value _ hvalue := hclean k value hvalue
  outside k _ := rfl
  pending k _ hstaged := absurd rfl hstaged
  idle _ k _ := ⟨rfl, rfl⟩
  exclusive j k _ _ hj _ := by
    obtain ⟨c, next, hthread⟩ := hj
    cases hthread

/-! ## A step of a flag -/

/-- The threads of the transactions are not those of the flags. -/
theorem inProgress_setThread_of_ne {program : SystemProg Report} {state : Store} {j : ι}
    (hne : j ≠ i) : (pool.setThread i program state).InProgress j ↔ pool.InProgress j := by
  simp only [Pool.InProgress, Pool.setThread_threads_of_ne _ _ _ hne]

/-- A step of a flag that leaves the options of the map alone. -/
theorem Linearized.setFlag (h : Linearized clients initial order pool)
    (hflag : ¬ (clients i).isTransaction) {program : SystemProg Report} {state : Store}
    {order' : List ι} (hnodup : order'.Nodup) (hmem : ∀ j, j ≠ i → (j ∈ order' ↔ j ∈ order))
    (hstands : Stands (serialRun clients order' initial) state (i ∈ order') (clients i)
      (.running program))
    (hserial : SameView modelKey (serialRun clients order' initial)
      (serialRun clients order initial))
    (hcommitted : ∀ k, (serialRun clients order' initial).staged k = none)
    (hsame : SameOn modelKey pool.state state)
    (houtside : ∀ k, ¬ modelKey k → state.view k = (serialRun clients order' initial).view k)
    (hpending : ∀ k, ¬ modelKey k → state.staged k ≠ none → inPackage "tr69" k ∧
      ∃ j, ¬ (clients j).isTransaction ∧
        PendingCommit ((pool.setThread i program state).threads j)) :
    Linearized clients initial order' (pool.setThread i program state) := by
  have hne : ∀ j, (clients j).isTransaction → j ≠ i := by
    rintro j hj rfl
    exact hflag hj
  -- only the thread of the flag moves; the transactions keep their places in the order
  exact {
    nodup := hnodup
    stands := fun j => by
      by_cases hj : j = i
      · rw [hj, Pool.setThread_threads_self]
        exact hstands
      · rw [Pool.setThread_threads_of_ne _ _ _ hj]
        exact (h.stands j).mono (hmem j hj) fun _ _ => ⟨hserial, hsame⟩
    committed := hcommitted
    clean := fun k value hk hvalue => h.clean k value hk (by rw [hserial k hk, hvalue])
    outside := houtside
    pending := hpending
    idle := fun hidle k hk => by
      have hsettles := h.idle (fun j hj hprogress => hidle j hj
        ((inProgress_setThread_of_ne (hne j hj)).mpr hprogress)) k hk
      exact ⟨(hsame.view hk).trans (hsettles.1.trans (hserial k hk)), (hsame k hk).2 hsettles.2⟩
    exclusive := fun j k hj hk hjp hkp => h.exclusive j k hj hk
      ((inProgress_setThread_of_ne (hne j hj)).mp hjp)
      ((inProgress_setThread_of_ne (hne k hk)).mp hkp) }

/-- A step of a flag that changes neither the store nor the order. -/
theorem Linearized.setFlag_of_eq (h : Linearized clients initial order pool)
    (hflag : ¬ (clients i).isTransaction) {program : SystemProg Report}
    (hstands : Stands (serialRun clients order initial) pool.state (i ∈ order) (clients i)
      (.running program))
    (hpending : PendingCommit (pool.threads i) → PendingCommit (.running program)) :
    Linearized clients initial order (pool.setThread i program pool.state) := by
  refine h.setFlag hflag h.nodup (fun _ _ => Iff.rfl) hstands (fun _ _ => rfl) h.committed
    (.refl _ _) h.outside fun k hk hstaged => ?_
  obtain ⟨hpackage, j, hj, hjPending⟩ := h.pending k hk hstaged
  refine ⟨hpackage, j, hj, ?_⟩
  by_cases hji : j = i
  · rw [hji, Pool.setThread_threads_self]
    exact hpending (hji ▸ hjPending)
  · rwa [Pool.setThread_threads_of_ne _ _ _ hji]

/-- The set of a flag takes its place in the order. -/
theorem Linearized.flag_set (h : Linearized clients initial order pool) {write : FlagWrite}
    (hclient : clients i = .flag write) (hnot : i ∉ order) :
    Linearized clients initial (order ++ [i])
      (pool.setThread i (write.afterSet true) (pool.state.set write.key write.value)) := by
  have hflag : ¬ (clients i).isTransaction := by rw [hclient]; exact id
  have hkey : ¬ modelKey write.key := fun hmodel => hmodel.2 (flagKey_key write)
  have hpackage : inPackage "tr69" write.key := inPackage_of_flagKey (flagKey_key write)
  have hserial : serialRun clients (order ++ [i]) initial =
      ((serialRun clients order initial).set write.key write.value).commit "tr69" := by
    rw [serialRun_concat, hclient, run_flag]
  -- the commit is still to come, and if it fails the flag stays staged
  have hpending : PendingCommit (.running (write.afterSet true)) := by
    refine wp_mono (wp_afterSet failedCommit write true) ?_
    rintro report _ ⟨commitOk, rfl, rfl⟩
    rfl
  have hne : ∀ k, modelKey k → k ≠ write.key := by
    rintro k hk rfl
    exact hkey hk
  -- a flag is no option of the map, so there the longer order shows what the shorter one did
  refine h.setFlag hflag ?_ ?_ ?_ ?_ ?_ ?_ ?_ ?_
  · rw [List.nodup_append]
    refine ⟨h.nodup, List.nodup_singleton i, ?_⟩
    rintro j hj k hk rfl
    exact hnot (List.mem_singleton.mp hk ▸ hj)
  · intro j hj
    simp [hj]
  · rw [hclient]
    refine stands_flag.mpr (Or.inr ⟨true, by simp, ?_⟩)
    refine wp_mono (wp_afterSet anyAnswer write true) ?_
    rintro report _ ⟨commitOk, rfl, _⟩
    exact ⟨commitOk, rfl⟩
  · intro k hk
    rw [hserial, view_commit, view_set, Function.update_of_ne (hne k hk)]
  · intro k
    rw [hserial]
    by_cases hk : inPackage "tr69" k
    · simp [Store.commit, hk]
    · have hk' : k ≠ write.key := by
        rintro rfl
        exact hk hpackage
      simp [Store.commit, hk, Store.set, hk', h.committed k]
  · intro k hk
    simp [Store.view, Store.set, hne k hk]
  · intro k hk
    rw [hserial, view_commit, view_set, view_set]
    by_cases heq : k = write.key <;> simp [Function.update, heq, h.outside k hk]
  · intro k hk hstaged
    refine ⟨?_, i, hflag, by rw [Pool.setThread_threads_self]; exact hpending⟩
    by_cases heq : k = write.key
    · rw [heq]
      exact hpackage
    · refine (h.pending k hk ?_).1
      simpa [Store.set, heq] using hstaged

/-- A commit of a flag leaves nothing of the flags staged. -/
theorem Linearized.flag_commit (h : Linearized clients initial order pool)
    (hflag : ¬ (clients i).isTransaction) {program : SystemProg Report}
    (hstands : Stands (serialRun clients order initial) (pool.state.commit "tr69") (i ∈ order)
      (clients i) (.running program)) :
    Linearized clients initial order
      (pool.setThread i program (pool.state.commit "tr69")) := by
  refine h.setFlag hflag h.nodup (fun _ _ => Iff.rfl) hstands (fun _ _ => rfl) h.committed
    (sameOn_commit _ _ _) (fun k hk => ?_) fun k hk hstaged => ?_
  · rw [view_commit]
    exact h.outside k hk
  · by_cases hpackage : inPackage "tr69" k
    · exact absurd (if_pos hpackage) hstaged
    · have hbefore : pool.state.staged k ≠ none := by simpa [Store.commit, hpackage] using hstaged
      exact absurd (h.pending k hk hbefore).1 hpackage

/-- What a flag does keeps the store linearized. -/
theorem Linearized.flag_call (h : Linearized clients initial order pool) {write : FlagWrite}
    (hclient : clients i = .flag write) {c : SystemCall}
    {next : system.Answer c → SystemProg Report} {answer : system.Answer c} {state : Store}
    (hthread : pool.threads i = .running (.call c next))
    (hcall : clientEnv c pool.state answer state) :
    ∃ order', Linearized clients initial order' (pool.setThread i (next answer) state) := by
  have hflag : ¬ (clients i).isTransaction := by rw [hclient]; exact id
  have hstands := h.stands i
  rw [hclient, hthread] at hstands
  -- either the set is still to come, or only the commit and the log lines are left
  rcases stands_flag.mp hstands with ⟨hprogram, hnot⟩ | ⟨setOk, hplaced, hanswered⟩
  · rw [program_flag] at hprogram
    cases hprogram
    have hnotPending : ¬ PendingCommit (pool.threads i) := by
      rw [hthread]
      exact fun hpending => hpending.1
    rcases hcall with ⟨rfl, rfl⟩ | ⟨_, rfl, rfl⟩
    · exact ⟨order ++ [i], h.flag_set hclient hnot⟩
    · refine ⟨order, h.setFlag_of_eq hflag ?_ fun hpending => absurd hpending hnotPending⟩
      rw [hclient]
      refine stands_flag.mpr (Or.inr ⟨false, by simp [hnot], ?_⟩)
      refine wp_mono (wp_afterSet anyAnswer write false) ?_
      rintro report _ ⟨commitOk, rfl, _⟩
      exact ⟨commitOk, rfl⟩
  · have hstands' : ∀ state, Stands (serialRun clients order initial) state (i ∈ order)
        (clients i) (.running (next answer)) := by
      rw [hclient]
      exact fun _ => stands_flag.mpr (Or.inr ⟨setOk, hplaced, hanswered.2 answer () trivial⟩)
    have hpending : ∀ answer, failedCommit c () answer () → PendingCommit (pool.threads i) →
        PendingCommit (.running (next answer)) := by
      rw [hthread]
      exact fun answer hanswer hpending => hpending.2 answer () hanswer
    have hallowed := hanswered.1
    cases c with
    | uciCommit phase package =>
        obtain ⟨rfl, rfl⟩ := hallowed
        rcases hcall with ⟨rfl, rfl⟩ | ⟨_, rfl, rfl⟩
        · exact ⟨order, h.flag_commit hflag (hstands' _)⟩
        · exact ⟨order, h.setFlag_of_eq hflag (hstands' _) (hpending false rfl)⟩
    | log level message =>
        cases hcall
        exact ⟨order, h.setFlag_of_eq hflag (hstands' _) (hpending () trivial)⟩
    | _ => exact hallowed.elim

/-! ## A step of a transaction -/

/-- A step of the one transaction in progress, which may be its last. -/
theorem Linearized.setTransaction (h : Linearized clients initial order pool)
    {engine : UciEngine} {items : List ParameterValue} {parameterKey : String}
    (hclient : clients i = .transaction engine items parameterKey) (hnot : i ∉ order)
    (halone : ∀ j, (clients j).isTransaction → j ≠ i → ¬ pool.InProgress j)
    {program : SystemProg Report} {state : Store}
    (hother : SameOn (fun k => ¬ modelKey k) pool.state state)
    (hin : InTransaction items parameterKey (serialRun clients order initial) program state) :
    ∃ order', Linearized clients initial order' (pool.setThread i program state) := by
  have htransaction : (clients i).isTransaction := by rw [hclient]; exact trivial
  have halone' : ∀ j, (clients j).isTransaction → j ≠ i →
      ¬ (pool.setThread i program state).InProgress j := by
    intro j hj hne hprogress
    exact halone j hj hne ((inProgress_setThread_of_ne hne).mp hprogress)
  have hexclusive : ∀ j k, (clients j).isTransaction → (clients k).isTransaction →
      (pool.setThread i program state).InProgress j →
      (pool.setThread i program state).InProgress k → j = k := by
    intro j k hj hk hjp hkp
    rw [not_imp_not.mp (halone' j hj) hjp, not_imp_not.mp (halone' k hk) hkp]
  have hpending : ∀ k, ¬ modelKey k → state.staged k ≠ none → inPackage "tr69" k ∧
      ∃ j, ¬ (clients j).isTransaction ∧
        PendingCommit ((pool.setThread i program state).threads j) := by
    intro k hk hstaged
    obtain ⟨hpackage, j, hj, hjPending⟩ := h.pending k hk (mt (hother k hk).2 hstaged)
    have hne : j ≠ i := by
      rintro rfl
      exact hj htransaction
    exact ⟨hpackage, j, hj, by rwa [Pool.setThread_threads_of_ne _ _ _ hne]⟩
  have houtside : ∀ k, ¬ modelKey k →
      state.view k = (serialRun clients order initial).view k :=
    fun k hk => (hother.view hk).trans (h.outside k hk)
  -- the other transactions are not in progress, so that they stand where they stood
  have hstands : ∀ (order' : List ι), (∀ j, j ≠ i → (j ∈ order' ↔ j ∈ order)) →
      Stands (serialRun clients order' initial) state (i ∈ order') (clients i)
        (.running program) →
      ∀ j, Stands (serialRun clients order' initial) state (j ∈ order') (clients j)
        ((pool.setThread i program state).threads j) := by
    intro order' hmem hi j
    by_cases hj : j = i
    · rw [hj, Pool.setThread_threads_self]
      exact hi
    · rw [Pool.setThread_threads_of_ne _ _ _ hj]
      exact (h.stands j).mono (hmem j hj) fun hjt hjp => absurd hjp (halone j hjt hj)
  cases program with
  | call c next =>
      refine ⟨order, h.nodup, hstands order (fun _ _ => Iff.rfl) ?_, h.committed, h.clean,
        houtside, hpending, fun hidle => ?_, hexclusive⟩
      · rw [hclient]
        exact ⟨hnot, hin⟩
      · exact absurd ⟨c, next, Pool.setThread_threads_self ..⟩ (hidle i htransaction)
  | done report =>
      obtain ⟨before, hview, hflushed, hend⟩ := hin
      obtain ⟨result, hreport⟩ : ∃ result, report = .transaction result :=
        ⟨_, hend.choose_spec.1⟩
      cases hsuccess : report.success with
      | false =>
          refine ⟨order, h.nodup, hstands order (fun _ _ => Iff.rfl) ?_, h.committed, h.clean,
            houtside, hpending, fun _ => settles_of_failure hview hflushed hend hsuccess,
            hexclusive⟩
          rw [hclient]
          exact ⟨⟨result, hreport⟩, by simp [hsuccess, hnot]⟩
      | true =>
          obtain ⟨hsettles, hcommitted, hclean, hserial⟩ :=
            settles_of_success engine h.clean h.committed hview hend hsuccess
          rw [← hclient, ← serialRun_concat] at hsettles hcommitted hclean hserial
          refine ⟨order ++ [i], ?_, hstands _ (fun j hj => by simp [hj]) ?_, hcommitted, hclean,
            fun k hk => ?_, hpending, fun _ => hsettles, hexclusive⟩
          · rw [List.nodup_append]
            refine ⟨h.nodup, List.nodup_singleton i, ?_⟩
            rintro j hj k hk rfl
            exact hnot (List.mem_singleton.mp hk ▸ hj)
          · rw [hclient]
            exact ⟨⟨result, hreport⟩, by simp [hsuccess]⟩
          · rw [hserial k hk]
            exact houtside k hk

end Tr069d
