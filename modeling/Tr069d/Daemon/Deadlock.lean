import Tr069d.Daemon.Threads
import Tr069d.Transformer.AllOrNothing

/-!
# When the two threads wait for each other

The daemon thread can wait for the reply to its `ubus call tr69 reload` while it
holds the mutex of the transformer, and the ubus thread for that mutex in
`status`.  Each of the two waits is entered by one step, and in runs that make
these steps only while the other thread does not wait they never wait together
(`not_deadlocked_of_safe`).

* `LockPhase` is where a thread is, `nextPhase` the only order of its steps, and
  `InPhases` the invariant that both threads and the mutex agree with their phases.
* `InPhases.step` keeps it, and `InPhases.deadlocked_step_iff` says that a step leads
  into a deadlock exactly if it is not safe.

`setInterval60_deadlocked` is a run of the two programs that gets stuck.
-/

namespace Tr069d

open Effects

/-- Where a thread is with respect to the mutex and to the reload call. -/
inductive LockPhase
  | free
  /-- `status` has copied its part and goes for the mutex. -/
  | copied
  | holding
  /-- It holds the mutex and waits for the reply to its reload call. -/
  | calling
  deriving DecidableEq, Repr

/-- The order of the steps of a thread. -/
def nextPhase (party : Party) : LockPhase → ThreadCall → Option LockPhase
  | .free, .poll => some .free
  | .free, .raise _ => some .free
  | .free, .reply _ => some .free
  | .free, .copyStatus => if party = .ubus then some .copied else none
  | .free, .lock owner => if party = .daemon ∧ owner = .daemon then some .holding else none
  | .copied, .lock owner => if owner = party then some .holding else none
  | .holding, .system _ => some .holding
  | .holding, .callReload => some .calling
  | .calling, .awaitReload => some .holding
  | .holding, .unlock owner => if owner = party then some .free else none
  | _, _ => none

def ThreadCall.onMutex : ThreadCall → Bool
  | .lock _ => true
  | .unlock _ => true
  | _ => false

theorem eq_callReload_of_nextPhase {party : Party} {phase : LockPhase} {c : ThreadCall}
    (h : nextPhase party phase c = some .calling) : c = .callReload := by
  cases phase <;> cases c <;> simp [nextPhase] at h ⊢

theorem eq_copyStatus_of_nextPhase {party : Party} {phase : LockPhase} {c : ThreadCall}
    (h : nextPhase party phase c = some .copied) : c = .copyStatus := by
  cases phase <;> cases c <;> simp [nextPhase] at h ⊢

def LockPhase.holds : LockPhase → Bool
  | .holding => true
  | .calling => true
  | _ => false

/-! ## The programs follow the order -/

theorem obeys_inTransformer {α : Type} (ubusBin : String) (party : Party)
    (program : SystemProg α) :
    (inTransformer ubusBin program).Obeys (nextPhase party) .holding .holding := by
  induction program with
  | done value => exact Prog.obeys_done value
  | call c rest ih =>
      cases c with
      | executeOk command =>
          rw [inTransformer]
          split
          · exact ⟨.calling, rfl, fun _ => ⟨.holding, rfl, ih⟩⟩
          · exact ⟨.holding, rfl, ih⟩
      | _ => exact ⟨.holding, rfl, ih⟩

/-- A call of the transformer gives the mutex back. -/
theorem obeys_locked {α : Type} {party : Party} {phase : LockPhase}
    (hlock : nextPhase party phase (.lock party) = some .holding) (ubusBin : String)
    (program : SystemProg α) :
    (locked ubusBin party program).Obeys (nextPhase party) .free phase := by
  have hunlock : nextPhase party .holding (.unlock party) = some .free := if_pos rfl
  refine (Prog.obeys_ask hlock).bind fun _ => ?_
  refine (obeys_inTransformer ubusBin party program).bind fun result => ?_
  exact (Prog.obeys_ask hunlock).bind fun _ => Prog.obeys_done result

theorem obeys_daemonThread (ubusBin : String) (transformer : LuaTransformer)
    (calls : List TransformerCall) :
    (daemonThread ubusBin transformer calls).Obeys (nextPhase .daemon) .free .free := by
  induction calls generalizing transformer with
  | nil => exact Prog.obeys_done ()
  | cons c rest ih => exact (obeys_locked rfl ubusBin _).bind fun transformer => ih transformer

theorem obeys_handleUbus (ubusBin : String) (transformer : LuaTransformer)
    (request : UbusRequest) :
    (handleUbus ubusBin transformer request).Obeys (nextPhase .ubus) .free .free := by
  have hreply : (@Prog.ask threadCalls (.reply request)).Obeys (nextPhase .ubus) .free .free :=
    Prog.obeys_ask rfl
  have hraise : ∀ flag, (@Prog.ask threadCalls (.raise flag)).Obeys (nextPhase .ubus) .free .free :=
    fun _ => Prog.obeys_ask rfl
  have hstatus : (status ubusBin transformer).Obeys (nextPhase .ubus) .free .free := by
    have hcopy : nextPhase .ubus .free .copyStatus = some .copied := rfl
    refine (Prog.obeys_ask hcopy).bind fun _ => ?_
    exact (obeys_locked rfl ubusBin _).bind fun _ => Prog.obeys_done ()
  unfold handleUbus
  cases request.method with
  | reload | reconnect | informNow => exact (hraise _).bind fun _ => hreply
  | status => exact hstatus.bind fun _ => hreply

theorem obeys_ubusThread (ubusBin : String) (transformer : LuaTransformer) (requests : Nat) :
    (ubusThread ubusBin transformer requests).Obeys (nextPhase .ubus) .free .free := by
  induction requests with
  | zero => exact Prog.obeys_done ()
  | succ n ih =>
      refine (Prog.obeys_ask rfl).bind fun request => ?_
      exact (obeys_handleUbus ubusBin transformer request).bind fun _ => ih

/-! ## Runs -/

/-- The next step of a thread. -/
def NextCall (pool : Pool Party threadCalls Unit ThreadState) (party : Party) (c : ThreadCall) :
    Prop :=
  ∃ rest, pool.threads party = .running (.call c rest)

/-- The daemon thread waits for the ubus thread, and the ubus thread for the mutex
that the daemon thread holds. -/
structure Deadlocked (pool : Pool Party threadCalls Unit ThreadState) : Prop where
  daemon : NextCall pool .daemon .awaitReload
  unanswered : pool.state.reload ≠ .replied
  ubus : NextCall pool .ubus (.lock .ubus)
  owner : pool.state.owner = some .daemon

/-- A thread that is about to wait finds the other one not waiting: the daemon
thread calls `reload` while the ubus thread does not wait for the mutex, and the
ubus thread goes into `status` while the daemon thread does not wait for a reply. -/
def Safe (pool : Pool Party threadCalls Unit ThreadState) : Party → Prop
  | .daemon => NextCall pool .daemon .callReload → ¬ NextCall pool .ubus (.lock .ubus)
  | .ubus => NextCall pool .ubus .copyStatus →
      ¬ (NextCall pool .daemon .awaitReload ∧ pool.state.reload ≠ .replied)

/-- The threads are in these phases, and the mutex is with the one that holds it. -/
structure InPhases (pool : Pool Party threadCalls Unit ThreadState) (phases : Party → LockPhase) :
    Prop where
  obeys : ∀ party, ∃ program, pool.threads party = .running program ∧
    program.Obeys (nextPhase party) .free (phases party)
  owner : ∀ party, pool.state.owner = some party ↔ (phases party).holds = true

variable {pool pool' : Pool Party threadCalls Unit ThreadState} {phases : Party → LockPhase}

theorem inPhases_startThreads (ubusBin : String) (transformer : LuaTransformer)
    (calls : List TransformerCall) (requests : Nat) (store : Store) :
    InPhases (startThreads ubusBin transformer calls requests store) fun _ => .free where
  obeys
    | .daemon => ⟨_, rfl, obeys_daemonThread ubusBin transformer calls⟩
    | .ubus => ⟨_, rfl, obeys_ubusThread ubusBin transformer requests⟩
  owner party := by simp [startThreads, LockPhase.holds]

/-- The phase changes as the step says. -/
theorem InPhases.nextPhase_eq (h : InPhases pool phases) {party : Party} {c : ThreadCall}
    (hnext : NextCall pool party c) : ∃ phase', nextPhase party (phases party) c = some phase' := by
  obtain ⟨program, hprogram, hobeys⟩ := h.obeys party
  obtain ⟨rest, hrest⟩ := hnext
  rw [hprogram, Thread.running.injEq] at hrest
  subst hrest
  obtain ⟨phase', hphase, _⟩ := hobeys
  exact ⟨phase', hphase⟩

/-- Who is in the phase `calling` waits for the reply. -/
theorem InPhases.awaits (h : InPhases pool phases) {party : Party}
    (hphase : phases party = .calling) : NextCall pool party .awaitReload := by
  obtain ⟨program, hprogram, hobeys⟩ := h.obeys party
  rw [hphase] at hobeys
  cases program with
  | done value => cases (show LockPhase.calling = .free from hobeys)
  | call c rest =>
      obtain ⟨phase', hnext, _⟩ := hobeys
      cases c with
      | awaitReload => exact ⟨rest, hprogram⟩
      | _ => cases hnext

/-- Who is in the phase `copied` waits for the mutex. -/
theorem InPhases.waits (h : InPhases pool phases) {party : Party}
    (hphase : phases party = .copied) : NextCall pool party (.lock party) := by
  obtain ⟨program, hprogram, hobeys⟩ := h.obeys party
  rw [hphase] at hobeys
  cases program with
  | done value => cases (show LockPhase.copied = .free from hobeys)
  | call c rest =>
      obtain ⟨phase', hnext, _⟩ := hobeys
      cases c with
      | lock owner =>
          rw [nextPhase] at hnext
          split at hnext
          · rename_i howner
            exact ⟨rest, howner ▸ hprogram⟩
          · cases hnext
      | _ => cases hnext

/-- Only `lock` and `unlock` change whether a thread holds the mutex. -/
theorem holds_eq_of_nextPhase {party : Party} {phase phase' : LockPhase} {c : ThreadCall}
    (hmutex : c.onMutex = false) (hnext : nextPhase party phase c = some phase') :
    phase'.holds = phase.holds := by
  cases c with
  | lock owner | unlock owner => cases hmutex
  | copyStatus =>
      cases phase with
      | free =>
          rw [nextPhase, Option.ite_none_right_eq_some, Option.some.injEq] at hnext
          rw [← hnext.2]
          rfl
      | _ => cases hnext
  | _ =>
      cases phase <;> cases hnext
      all_goals rfl

theorem of_nextPhase_lock {party owner : Party} {phase phase' : LockPhase}
    (h : nextPhase party phase (.lock owner) = some phase') :
    owner = party ∧ phase' = .holding := by
  cases phase with
  | free =>
      obtain ⟨⟨hparty, howner⟩, hphase⟩ := Option.ite_none_right_eq_some.mp h
      exact ⟨howner.trans hparty.symm, (Option.some.inj hphase).symm⟩
  | copied =>
      obtain ⟨howner, hphase⟩ := Option.ite_none_right_eq_some.mp h
      exact ⟨howner, (Option.some.inj hphase).symm⟩
  | holding => cases h
  | calling => cases h

theorem of_nextPhase_unlock {party owner : Party} {phase phase' : LockPhase}
    (h : nextPhase party phase (.unlock owner) = some phase') :
    phase = .holding ∧ phase' = .free := by
  cases phase with
  | holding =>
      obtain ⟨-, hphase⟩ := Option.ite_none_right_eq_some.mp h
      exact ⟨rfl, (Option.some.inj hphase).symm⟩
  | free => cases h
  | copied => cases h
  | calling => cases h

/-- The mutex is with the thread that is in a phase that holds it. -/
theorem owner_step {party : Party} {c : ThreadCall} {s s' : ThreadState}
    {answer : threadCalls.Answer c} {phase' : LockPhase}
    (howner : ∀ other, s.owner = some other ↔ (phases other).holds = true)
    (hcall : threadEnv c s answer s') (hnext : nextPhase party (phases party) c = some phase')
    (other : Party) :
    s'.owner = some other ↔ (Function.update phases party phase' other).holds = true := by
  have hsame : s'.owner = s.owner → phase'.holds = (phases party).holds →
      (s'.owner = some other ↔ (Function.update phases party phase' other).holds = true) := by
    intro hkept hholds
    rw [hkept, howner other]
    by_cases hother : other = party
    · rw [hother, Function.update_self, hholds]
    · rw [Function.update_of_ne hother]
  cases c with
  | lock owner =>
      obtain ⟨hnone, rfl⟩ := hcall
      -- the mutex was free, so nobody else is in a phase that holds it
      obtain ⟨rfl, rfl⟩ := of_nextPhase_lock hnext
      by_cases hother : other = owner
      · simp [hother, LockPhase.holds]
      · have hfree := (howner other).not.mp (by rw [hnone]; exact nofun)
        simp [Function.update_of_ne hother, hfree, Ne.symm hother]
  | unlock owner =>
      obtain rfl := hcall
      obtain ⟨hholding, rfl⟩ := of_nextPhase_unlock hnext
      have hheld : s.owner = some party := (howner party).mpr (by rw [hholding]; rfl)
      by_cases hother : other = party
      · simp [hother, LockPhase.holds]
      · have hfree : (phases other).holds = false := by
          rw [← Bool.not_eq_true, ← howner other, hheld, Option.some.injEq]
          exact fun h => hother h.symm
        simp [Function.update_of_ne hother, hfree]
  | system c =>
      obtain ⟨store, -, rfl⟩ := hcall
      exact hsame rfl (holds_eq_of_nextPhase rfl hnext)
  | awaitReload =>
      obtain ⟨-, rfl⟩ := hcall
      exact hsame rfl (holds_eq_of_nextPhase rfl hnext)
  | poll =>
      obtain ⟨rfl, -⟩ := hcall
      exact hsame rfl (holds_eq_of_nextPhase rfl hnext)
  | callReload | raise | copyStatus =>
      obtain rfl := hcall
      exact hsame rfl (holds_eq_of_nextPhase rfl hnext)
  | reply request =>
      obtain rfl := hcall
      refine hsame ?_ (holds_eq_of_nextPhase rfl hnext)
      split <;> rfl

/-- A step of one thread moves it to its next phase. -/
theorem InPhases.step (h : InPhases pool phases) {party : Party}
    (hstep : Pool.Step threadEnv pool party pool') : ∃ c answer phase',
      NextCall pool party c ∧ threadEnv c pool.state answer pool'.state ∧
      nextPhase party (phases party) c = some phase' ∧
      InPhases pool' (Function.update phases party phase') := by
  obtain ⟨program, hprogram, hobeys⟩ := h.obeys party
  cases hstep with
  | start hthread =>
      rw [hprogram] at hthread
      cases hthread
  | @call c rest answer state hthread hcall =>
      rw [hprogram, Thread.running.injEq] at hthread
      subst hthread
      obtain ⟨phase', hnext, hrest⟩ := hobeys
      refine ⟨c, answer, phase', ⟨rest, hprogram⟩, hcall, hnext, ?_, ?_⟩
      · intro other
        by_cases hother : other = party
        · subst hother
          rw [Function.update_self]
          exact ⟨rest answer, Pool.setThread_threads_self .., hrest answer⟩
        · rw [Function.update_of_ne hother, Pool.setThread_threads_of_ne _ _ _ hother]
          exact h.obeys other
      · exact owner_step h.owner hcall hnext

theorem InPhases.calling (h : InPhases pool phases) {party : Party}
    (hnext : NextCall pool party .awaitReload) : phases party = .calling := by
  obtain ⟨phase', hphase⟩ := h.nextPhase_eq hnext
  cases hparty : phases party with
  | calling => rfl
  | _ => rw [hparty] at hphase; cases hphase

theorem InPhases.copied (h : InPhases pool phases)
    (hnext : NextCall pool .ubus (.lock .ubus)) : phases .ubus = .copied := by
  obtain ⟨phase', hphase⟩ := h.nextPhase_eq hnext
  cases hparty : phases .ubus with
  | copied => rfl
  | _ => rw [hparty] at hphase; cases hphase

/-- A deadlock, in terms of the phases. -/
theorem InPhases.deadlocked_iff (h : InPhases pool phases) : Deadlocked pool ↔
    phases .daemon = .calling ∧ pool.state.reload ≠ .replied ∧ phases .ubus = .copied := by
  constructor
  · intro hdead
    exact ⟨h.calling hdead.daemon, hdead.unanswered, h.copied hdead.ubus⟩
  · rintro ⟨hdaemon, hunanswered, hubus⟩
    have howner := (h.owner .daemon).mpr (by rw [hdaemon]; rfl)
    exact ⟨h.awaits hdaemon, hunanswered, h.waits hubus, howner⟩

/-- A step leads into a deadlock exactly if it is not safe. -/
theorem InPhases.deadlocked_step_iff (h : InPhases pool phases) {party : Party}
    (hstep : Pool.Step threadEnv pool party pool') : Deadlocked pool' ↔ ¬ Safe pool party := by
  obtain ⟨c, answer, phase', hcall, henv, hnext, hphases⟩ := h.step hstep
  -- the party makes the one call that comes next
  have hunique : ∀ {d}, NextCall pool party d → c = d := by
    rintro d ⟨rest, hrest⟩
    obtain ⟨rest', hrest'⟩ := hcall
    rw [hrest, Thread.running.injEq] at hrest'
    cases hrest'
    rfl
  rw [hphases.deadlocked_iff]
  cases party with
  -- the daemon calls reload while the ubus thread waits for a copy of the status
  | daemon =>
      have hother : Party.ubus ≠ .daemon := by decide
      rw [Function.update_self, Function.update_of_ne hother]
      constructor
      · rintro ⟨rfl, -, hubus⟩ hsafe
        obtain rfl := eq_callReload_of_nextPhase hnext
        exact hsafe hcall (h.waits hubus)
      · intro hunsafe
        simp only [Safe, not_forall, not_not] at hunsafe
        obtain ⟨hcalls, hwaits⟩ := hunsafe
        obtain rfl := hunique hcalls
        have hstate : pool'.state.reload = .called := by
          rw [show pool'.state = { pool.state with
            reload := .called, calls := pool.state.calls + 1 } from henv]
        refine ⟨?_, by rw [hstate]; exact nofun, h.copied hwaits⟩
        cases hdaemon : phases .daemon <;> rw [hdaemon] at hnext <;> cases hnext
        rfl
  -- or the ubus thread begins to wait while the daemon's call is not answered
  | ubus =>
      have hother : Party.daemon ≠ .ubus := by decide
      rw [Function.update_self, Function.update_of_ne hother]
      constructor
      · rintro ⟨hdaemon, hunanswered, rfl⟩ hsafe
        obtain rfl := eq_copyStatus_of_nextPhase hnext
        have hsame : pool'.state = pool.state := henv
        rw [hsame] at hunanswered
        exact hsafe hcall ⟨h.awaits hdaemon, hunanswered⟩
      · intro hunsafe
        simp only [Safe, not_forall, not_not] at hunsafe
        obtain ⟨hcopies, hdaemon, hunanswered⟩ := hunsafe
        obtain rfl := hunique hcopies
        have hsame : pool'.state = pool.state := henv
        refine ⟨h.calling hdaemon, by rw [hsame]; exact hunanswered, ?_⟩
        cases hubus : phases .ubus <;> rw [hubus] at hnext <;> cases hnext
        rfl

/-- In every run whose steps are all safe, the threads do not wait for each other. -/
theorem not_deadlocked_of_safe {ubusBin : String} {transformer : LuaTransformer}
    {calls : List TransformerCall} {requests : Nat} {store : Store}
    (hrun : Pool.Run threadEnv Safe
      (startThreads ubusBin transformer calls requests store) pool) : ¬ Deadlocked pool := by
  have hinvariant : (∃ phases, InPhases pool phases) ∧ ¬ Deadlocked pool := by
    refine hrun.invariant (I := fun pool => (∃ phases, InPhases pool phases) ∧ ¬ Deadlocked pool)
      ?_ ?_
    · rintro pool party pool' ⟨⟨phases, h⟩, -⟩ hsafe hstep
      obtain ⟨_, _, _, _, _, _, hphases⟩ := h.step hstep
      exact ⟨⟨_, hphases⟩, fun hdead => (h.deadlocked_step_iff hstep).mp hdead hsafe⟩
    · have hstart := inPhases_startThreads ubusBin transformer calls requests store
      refine ⟨⟨_, hstart⟩, ?_⟩
      rw [hstart.deadlocked_iff]
      rintro ⟨⟨⟩, -⟩
  exact hinvariant.2

/-! ## A deadlock -/

/-- A system that answers each step, unless the step has to wait. -/
def threadHandler : (c : ThreadCall) → ThreadState → Option (threadCalls.Answer c × ThreadState)
  | .lock party, s => if s.owner = none then some ((), { s with owner := some party }) else none
  | .unlock _, s => some ((), { s with owner := none })
  | .system c, s => some ((uciHandler c s.store).1, { s with store := (uciHandler c s.store).2 })
  | .callReload, s => some ((), { s with reload := .called, calls := s.calls + 1 })
  | .awaitReload, s =>
      if s.reload = .replied then some (true, { s with reload := .idle }) else none
  | .poll, s => some (⟨.status, none⟩, s)
  | .raise request, s => some ((), { s with flags := { s.flags with
      requested := Function.update s.flags.requested request true } })
  | .copyStatus, s => some ((), s)
  | .reply _, _ => none

theorem threadHandler_mem_threadEnv (c : ThreadCall) (s : ThreadState)
    (answer : threadCalls.Answer c) (s' : ThreadState)
    (h : threadHandler c s = some (answer, s')) : threadEnv c s answer s' := by
  cases c with
  | lock party =>
      simp only [threadHandler, Option.ite_none_right_eq_some, Option.some.injEq,
        Prod.mk.injEq] at h
      exact ⟨h.1, h.2.2.symm⟩
  | awaitReload =>
      simp only [threadHandler, Option.ite_none_right_eq_some, Option.some.injEq,
        Prod.mk.injEq] at h
      exact ⟨Or.inl h.1, h.2.2.symm⟩
  | system c =>
      cases h
      exact ⟨_, uciHandler_mem_uciEnv _ c s.store, rfl⟩
  | poll =>
      cases h
      exact ⟨rfl, nofun⟩
  | reply request => cases h
  | _ =>
      cases h
      rfl

/-- The daemon thread sets the Inform interval, while the ubus thread has one
request to handle. -/
def setInterval60 : Pool Party threadCalls Unit ThreadState :=
  startThreads "ubus" ⟨some plainEngine.toEngine, ""⟩
    [.setParameterValues
      [⟨"Device.ManagementServer.PeriodicInformInterval", "60", "xsd:unsignedInt"⟩] ""]
    1 (.ofCommitted fun _ => none)

/-- A turn of one thread, up to where it has to wait. -/
def turnOf (party : Party) (pool : Pool Party threadCalls Unit ThreadState) :
    Pool Party threadCalls Unit ThreadState :=
  match pool.threads party with
  | .waiting _ => pool
  | .running program => pool.setThread party
      (Pool.advance threadHandler 40 program pool.state).1
      (Pool.advance threadHandler 40 program pool.state).2

theorem run_turnOf {guard : Pool Party threadCalls Unit ThreadState → Party → Prop} (party : Party)
    (hguard : ∀ pool' : Pool Party threadCalls Unit ThreadState,
      (∀ other, other ≠ party → pool'.threads other = pool.threads other) →
      pool'.InProgress party → guard pool' party) :
    Pool.Run threadEnv guard pool (turnOf party pool) := by
  unfold turnOf
  split
  · exact .refl
  · rename_i program hthread
    exact Pool.run_advance threadHandler_mem_threadEnv hguard 40 hthread

/-- While the ubus thread has not taken its request, the daemon thread is safe. -/
theorem setInterval60_not_deadlocked : ¬ Deadlocked (turnOf .daemon setInterval60) := by
  refine not_deadlocked_of_safe (run_turnOf .daemon ?_)
  rintro pool' hothers - - ⟨rest, hlock⟩
  rw [hothers .ubus (by decide)] at hlock
  cases hlock

/-- A `status` request arrives while the daemon thread waits for the reply. -/
theorem setInterval60_deadlocked : ∃ pool,
    Pool.Run threadEnv (fun _ _ => True) setInterval60 pool ∧ Deadlocked pool := by
  refine ⟨turnOf .ubus (turnOf .daemon setInterval60), ?_, ?_⟩
  · exact (run_turnOf .daemon fun _ _ _ => trivial).trans (run_turnOf .ubus fun _ _ _ => trivial)
  · exact ⟨⟨_, rfl⟩, by decide, ⟨_, rfl⟩, rfl⟩

end Tr069d
