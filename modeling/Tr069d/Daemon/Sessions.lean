import Tr069d.Daemon.Calls
import Tr069d.Daemon.Changes
import Tr069d.Daemon.TornReads

/-!
# Sessions in a row

After a session the loop of `run` waits, unless `refreshConfig` finds a difference.
`run` changes a flag in `config_` and then stores it, and a flag that it fails to
store is such a difference: the daemon opens the next session on its own, fails to
store the flag again, and so on (`unstored_inARow`).

Where the daemon's `uci set` commands work, every session is paid for by what
happened before it.  `Paid` keeps the accounts, with a debt of one while
a refresh would find a difference; commits that fail cost nothing, for `uci get`
shows what is staged (`notInARow_of_stored`).
-/

namespace Tr069d

open Effects Daemon

/-! ## What is counted -/

/-- What is counted of a run, the newest first. -/
inductive Tick
  /-- The loop opened a session. -/
  | session
  /-- `waitForNextInform` returned. -/
  | woke (reason : WakeReason)
  /-- A reload request was consumed after a session. -/
  | reload
  | mockReboot
  /-- `SetParameterValues` or another process changed an option of the UCI store. -/
  | changed
  deriving DecidableEq, Repr

def Tick.isSession : Tick → Bool
  | .session => true
  | _ => false

def sessionCount (ticks : List Tick) : Nat :=
  ticks.countP Tick.isSession

/-- The number of occasions for a session. -/
def occasionCount (ticks : List Tick) : Nat :=
  ticks.countP fun tick => !tick.isSession

/-- At every point there were at most as many sessions as occasions, and one more. -/
def NotInARow (ticks : List Tick) : Prop :=
  ∀ earlier, earlier <:+ ticks → sessionCount earlier ≤ 1 + occasionCount earlier

/-- What is counted of a call in a round that starts in `place`. -/
def ticksOf (place : Place) : (c : DaemonCall) → daemonCalls.Answer c → List Tick
  | .session _ _, _ => [.session]
  | .take .reload, taken => if place = .head ∧ taken = true then [.reload] else []
  | .reboot mockMode _, _ => if mockMode then [.mockReboot] else []
  | _, _ => []

/-- The wake reason with which a wait ended. -/
def wokeTicks : Place → Place → List Tick
  | .waiting, .overwrite (.woke reason) => [.woke reason]
  | .waiting, .stopped _ => [.woke .stop]
  | _, _ => []

/-! ## Runs on a store -/

/-- The transformer uses the UCI store, and the shipped map. -/
def LuaTransformer.OnUci (transformer : LuaTransformer) : Prop :=
  ∀ engine, transformer.engine = some engine → engine.model = deviceMap ∧ engine.mock = none

variable {σ : Type}

/-- What a call does to the store, while others change so many options. -/
def StoreStep (setup : Setup σ) (mayFail : SystemCall → Prop) :
    (c : DaemonCall) → Store → daemonCalls.Answer c → Nat → Store → Prop
  | .readConfig target, store, answer, n, store' => ∃ transformer : LuaTransformer,
      transformer.ready = setup.ready ∧ transformer.OnUci ∧
      Exec (amidOthers mayFail) (readConfig transformer setup.allowMockReboot target)
        (store, 0) answer (store', n)
  | .persist write, store, ok, n, store' =>
      Exec (amidOthers mayFail) write.persist (store, 0) ok (store', n)
  | _, store, _, n, store' => ChangedBy n store.view store'.view

/-- The store and the ticks: others change the store before a call and during it. -/
def storeEnv (setup : Setup σ) (mayFail : SystemCall → Prop) (place : Place) :
    Env daemonCalls (Store × List Tick) := fun c s answer s' =>
  ∃ before between during, ChangedBy before s.1.view between.view ∧
    StoreStep setup mayFail c between answer during s'.1 ∧
    s'.2 = List.replicate during .changed ++ (ticksOf place c answer ++
      (List.replicate before .changed ++ s.2))

/-- The surroundings of the daemon thread, with the store. -/
def countedEnv (setup : Setup σ) (mayFail : SystemCall → Prop) (place : Place) :
    Env daemonCalls (World × Store × List Tick) := fun c s answer s' =>
  daemonEnv setup c s.1 answer s'.1 ∧ storeEnv setup mayFail place c s.2 answer s'.2

/-- A run on a store, in which the commands of `mayFail` may fail. -/
inductive CountedRun (setup : Setup σ) (mayFail : SystemCall → Prop) :
    Daemon → World → Store → List Tick → Prop
  | start {store daemon world store' ticks}
      (hexec : Exec (countedEnv setup mayFail .head) Daemon.start ({}, store, []) daemon
        (world, store', ticks)) : CountedRun setup mayFail daemon world store' ticks
  | round {daemon world store ticks daemon' world' store' ticks'}
      (hrun : CountedRun setup mayFail daemon world store ticks)
      (hexec : Exec (countedEnv setup mayFail daemon.place) daemon.round (world, store, ticks)
        daemon' (world', store', ticks')) :
      CountedRun setup mayFail daemon' world' store'
        (wokeTicks daemon.place daemon'.place ++ ticks')

/-- The daemon's `uci get` and `uci set` commands work. -/
structure Stored (mayFail : SystemCall → Prop) : Prop where
  reads : ∀ phase key, ¬mayFail (.uciGet phase key)
  sets : ∀ phase key value, ¬mayFail (.uciSet phase key value)

/-! ## Differences -/

/-- The configuration after a refresh from this store. -/
def refreshed (allowMockReboot : Bool) (config : DaemonConfig) (store : Store) : DaemonConfig :=
  keptUrl config (configFrom store allowMockReboot config)

/-- The debt: a refresh would find a difference. -/
def debt (allowMockReboot : Bool) (config : DaemonConfig) (store : Store) : Nat :=
  (isChanged config (refreshed allowMockReboot config store)).toNat

/-- The flag that the daemon stores is the one of `config_`. -/
def FlagWrite.applied (write : FlagWrite) (config : DaemonConfig) : DaemonConfig :=
  match write with
  | .bootstrapDone => { config with bootstrapDone := true }
  | .clearPendingReboot => { config with pendingRebootEvent := false }
  | .setPendingReboot => { config with pendingRebootEvent := true }

section Differences

variable {allowMockReboot : Bool} {config previous updated : DaemonConfig} {store store' : Store}

theorem isChanged_self (config : DaemonConfig) : isChanged config config = false := by
  simp [isChanged, differs_eq, runtimeConfigEqual, connectionRequestEqual]

theorem debt_le_one (allowMockReboot : Bool) (config : DaemonConfig) (store : Store) :
    debt allowMockReboot config store ≤ 1 :=
  Bool.toNat_le _

/-- A refresh leaves nothing to find. -/
theorem debt_refreshed (allowMockReboot : Bool) (config : DaemonConfig) (store : Store) :
    debt allowMockReboot (refreshed allowMockReboot config store) store = 0 := by
  have hagain : refreshed allowMockReboot (refreshed allowMockReboot config store) store =
      refreshed allowMockReboot config store := by
    have hread : configFrom store allowMockReboot (refreshed allowMockReboot config store) =
        configFrom store allowMockReboot config := by
      unfold refreshed keptUrl
      split <;> rfl
    rw [refreshed, hread]
    unfold refreshed keptUrl
    split <;> simp_all
  rw [debt, hagain, isChanged_self]
  rfl

theorem debt_congr (hview : store'.view = store.view) :
    debt allowMockReboot config store' = debt allowMockReboot config store := by
  rw [debt, debt, refreshed, refreshed, configFrom_congr hview]

theorem debt_le_of_changedBy {n : Nat} (h : ChangedBy n store.view store'.view) :
    debt allowMockReboot config store' ≤ debt allowMockReboot config store + n := by
  cases n with
  | zero => exact (debt_congr h.eq_of_zero).le
  | succ n =>
      have hone := debt_le_one allowMockReboot config store'
      omega

/-- What a refresh finds, and leaves to be found, was owed before or is a change
that was made meanwhile. -/
theorem debt_of_readAmid {read : DaemonConfig} {n : Nat}
    (h : ReadAmid allowMockReboot config read n store store') :
    (isChanged config (keptUrl config read)).toNat +
        debt allowMockReboot (keptUrl config read) store' ≤
      debt allowMockReboot config store + n ∧
    debt allowMockReboot (keptUrl config read) store' ≤ n := by
  have hone := debt_le_one allowMockReboot (keptUrl config read) store'
  have hfound := Bool.toNat_le (isChanged config (keptUrl config read))
  obtain rfl | rfl | hmany : n = 0 ∨ n = 1 ∨ 2 ≤ n := by omega
  · obtain rfl := h.unchanged rfl
    have hnone : debt allowMockReboot (refreshed allowMockReboot config store) store' = 0 := by
      rw [debt_congr h.changed.eq_of_zero, debt_refreshed]
    exact ⟨by rw [refreshed] at hnone; rw [hnone]; rfl, hnone.le⟩
  · refine ⟨?_, hone⟩
    rcases h.once rfl with rfl | rfl
    · -- read before the change, which may be found later
      exact Nat.add_le_add_left hone _
    · have hnone : debt allowMockReboot (refreshed allowMockReboot config store') store' = 0 :=
        debt_refreshed _ _ _
      rw [refreshed] at hnone
      omega
  · omega

end Differences

/-! ## Storing a flag -/

/-- No parameter of the data model lives in an option of a flag. -/
theorem internalText_set (write : FlagWrite) (store : Store) (path : String) :
    internalText (store.set write.key write.value) path = internalText store path := by
  unfold internalText
  split
  · rename_i spec hlookup
    have hkey : ∀ location, spec.uci = some location → uciKey location ≠ write.key := by
      refine deviceMap.of_lookup_eq_some
        (P := fun spec => ∀ location, spec.uci = some location → uciKey location ≠ write.key)
        ?_ hlookup
      cases write <;> decide
    unfold reportedValue
    split
    · rfl
    · rename_i location hmapped
      rw [captured, captured, view_set, Function.update_of_ne (hkey location hmapped)]
  · rfl

theorem captured_set_of_ne {store : Store} {key value key' : String} (hne : key' ≠ key) :
    captured (store.set key value) key' = captured store key' := by
  rw [captured, captured, view_set, Function.update_of_ne hne]

theorem captured_set_self (store : Store) (key value : String) :
    captured (store.set key value) key = some (printed value) := by
  rw [captured, view_set, Function.update_self, Option.map_some]

/-- A flag that was stored is read as it is in `config_`. -/
theorem configFrom_set (write : FlagWrite) (store : Store) (allowMockReboot : Bool)
    (target : DaemonConfig) :
    configFrom (store.set write.key write.value) allowMockReboot target =
      write.applied (configFrom store allowMockReboot target) := by
  unfold configFrom
  simp only [internalText_set]
  cases write <;>
    simp (disch := decide) only [FlagWrite.key, FlagWrite.value, captured_set_of_ne,
      captured_set_self, FlagWrite.applied] <;>
    rfl

theorem keptUrl_applied (write : FlagWrite) (previous read : DaemonConfig) :
    keptUrl (write.applied previous) (write.applied read) =
      write.applied (keptUrl previous read) := by
  have hurl : ∀ config, (write.applied config).acsUrl = config.acsUrl := by
    cases write <;> exact fun _ => rfl
  unfold keptUrl
  rw [hurl, hurl]
  split
  · cases write <;> rfl
  · rfl

/-- The flags are no setting. -/
theorem differs_applied (write : FlagWrite) (previous updated : DaemonConfig) :
    differs (write.applied previous) (write.applied updated) = differs previous updated := by
  rw [differs_eq, differs_eq]
  cases write <;> rfl

/-- Storing a flag leaves no difference that was not there before. -/
theorem debt_applied (write : FlagWrite) (allowMockReboot : Bool) (config : DaemonConfig)
    (store : Store) :
    debt allowMockReboot (write.applied config) (store.set write.key write.value) ≤
      debt allowMockReboot config store := by
  have htarget : configFrom store allowMockReboot (write.applied config) =
      configFrom store allowMockReboot config := by
    cases write <;> rfl
  -- what a refresh would make of it is the same, with the flag in it
  have hkept : refreshed allowMockReboot (write.applied config)
      (store.set write.key write.value) =
        write.applied (refreshed allowMockReboot config store) := by
    rw [refreshed, configFrom_set, htarget, keptUrl_applied, refreshed]
  rw [debt, debt, hkept]
  generalize refreshed allowMockReboot config store = updated
  -- in the flag itself there is no difference now, elsewhere it is the old one
  have himp : isChanged (write.applied config) (write.applied updated) = true →
      isChanged config updated = true := by
    simp only [isChanged, differs_applied, Bool.or_eq_true]
    rintro ((hdiffers | hbootstrap) | hreboot)
    · exact Or.inl (Or.inl hdiffers)
    · cases write with
      | bootstrapDone => simp [FlagWrite.applied] at hbootstrap
      | clearPendingReboot | setPendingReboot => exact Or.inl (Or.inr hbootstrap)
    · cases write with
      | bootstrapDone => exact Or.inr hreboot
      | clearPendingReboot | setPendingReboot => simp [FlagWrite.applied] at hreboot
  cases hchanged : isChanged (write.applied config) (write.applied updated) with
  | false => exact Nat.zero_le _
  | true => exact (congrArg Bool.toNat (himp hchanged)).ge

theorem validKey_key (write : FlagWrite) : UciAdapter.validKey write.key = true := by
  cases write <;> decide

/-- A command that changes nothing that is read. -/
def KeepsView : SystemCall → Prop
  | .uciSet _ _ _ => False
  | .uciDelete _ _ => False
  | _ => True

theorem view_eq_of_keepsView {mayFail : SystemCall → Prop} {c : SystemCall}
    {answer : system.Answer c} {store store' : Store} (hkeeps : KeepsView c)
    (hcall : uciEnv mayFail c store answer store') : store'.view = store.view := by
  cases c with
  | uciSet | uciDelete => exact hkeeps.elim
  | uciGet phase key =>
      obtain ⟨rfl, -⟩ := hcall
      rfl
  | uciCommit phase package =>
      rcases hcall with ⟨-, rfl⟩ | ⟨-, -, rfl⟩
      · exact view_commit _ _
      · rfl
  | capture | executeOk | saveMock | stderr | log =>
      obtain rfl : store' = store := hcall
      rfl

theorem calls_loggerLog (level : LogLevel) (message : String) :
    (Logger.log level message).Calls KeepsView :=
  ⟨trivial, fun _ => trivial⟩

theorem calls_commit (package : String) : (UciAdapter.commit package).Calls KeepsView := by
  have hcommit : (@Prog.ask system (.uciCommit .forward package)).Calls KeepsView :=
    ⟨trivial, fun _ => trivial⟩
  unfold UciAdapter.commit
  split
  · refine hcommit.bind fun ok => ?_
    split
    · exact Prog.calls_pure _
    · exact (calls_loggerLog _ _).bind fun _ => Prog.calls_pure _
  · exact (calls_loggerLog _ _).bind fun _ => Prog.calls_pure _

section Persist

variable {mayFail : SystemCall → Prop} {allowMockReboot : Bool} {config : DaemonConfig}

/-- Without a set, only the changes of others add to the debt. -/
theorem wp_debt_of_calls {α : Type} {program : SystemProg α} {s : Store × Nat} {bound : Nat}
    (hcalls : program.Calls KeepsView)
    (hs : debt allowMockReboot config s.1 ≤ bound + s.2) :
    wp (amidOthers mayFail) (fun _ => True) program
      (fun _ s' => debt allowMockReboot config s'.1 ≤ bound + s'.2) s := by
  refine wp_of_calls hcalls ?_ hs fun _ _ hs' => hs'
  rintro c s answer s' hc hs ⟨m, between, hchanged, hcall, hcount⟩
  have hbetween := @debt_le_of_changedBy allowMockReboot config _ _ _ hchanged
  rw [debt_congr (view_eq_of_keepsView hc hcall), hcount]
  omega

/-- Storing a flag of `config_`, amid the changes of others. -/
theorem debt_of_persist (hstored : Stored mayFail) {write : FlagWrite} {store store' : Store}
    {n : Nat} {ok : Bool × Bool}
    (hexec : Exec (amidOthers mayFail) write.persist (store, 0) ok (store', n)) :
    debt allowMockReboot (write.applied config) store' ≤
      debt allowMockReboot config store + n := by
  have hwp : wp (amidOthers mayFail) (fun _ => True) write.persist
      (fun _ s => debt allowMockReboot (write.applied config) s.1 ≤
        debt allowMockReboot config store + s.2) (store, 0) := by
    unfold FlagWrite.persist persistFlag UciAdapter.set
    rw [if_pos (validKey_key write), wp_bind, wp_bind, wp_ask]
    refine ⟨trivial, ?_⟩
    rintro answer s ⟨m, between, hchanged, hcall, hcount⟩
    obtain ⟨rfl, hset⟩ : answer = true ∧ s.1 = between.set write.key write.value :=
      hcall.resolve_right fun hfailed => hstored.sets _ _ _ hfailed.1
    -- what follows the set changes nothing that is read
    refine wp_debt_of_calls ?_ ?_
    · refine (calls_commit _).bind fun commitOk => ?_
      split
      · exact Prog.calls_pure _
      · exact (calls_loggerLog _ _).bind fun _ => Prog.calls_pure _
    · calc debt allowMockReboot (write.applied config) s.1
        _ ≤ debt allowMockReboot config between := hset ▸ debt_applied write _ _ _
        _ ≤ debt allowMockReboot config store + m := debt_le_of_changedBy hchanged
        _ = debt allowMockReboot config store + s.2 := by rw [hcount, Nat.zero_add]
  exact hexec.of_wp hwp

end Persist

/-! ## Accounts -/

section Accounts

variable {tick : Tick} {ticks : List Tick} {allowMockReboot : Bool} {slack : Nat}
  {config : DaemonConfig} {s : Store × List Tick}

theorem notInARow_cons (h : NotInARow ticks)
    (hbound : sessionCount (tick :: ticks) ≤ 1 + occasionCount (tick :: ticks)) :
    NotInARow (tick :: ticks) := by
  intro earlier hsuffix
  rcases List.suffix_cons_iff.mp hsuffix with rfl | hearlier
  · exact hbound
  · exact h earlier hearlier

/-- Every session so far is paid for, `slack` more sessions are, and so is the one
that a refresh may lead to. -/
structure Paid (allowMockReboot : Bool) (slack : Nat) (config : DaemonConfig)
    (s : Store × List Tick) : Prop where
  notInARow : NotInARow s.2
  balance : sessionCount s.2 + slack + debt allowMockReboot config s.1 ≤ 1 + occasionCount s.2

theorem Paid.of_le {slack' : Nat} (h : Paid allowMockReboot slack config s)
    (hle : slack' ≤ slack) : Paid allowMockReboot slack' config s := by
  have hbalance := h.balance
  exact ⟨h.notInARow, by omega⟩

/-- A session takes one that is paid for. -/
theorem Paid.session (h : Paid allowMockReboot (slack + 1) config s) :
    Paid allowMockReboot slack config (s.1, .session :: s.2) := by
  have hbalance := h.balance
  have hsessions : sessionCount (.session :: s.2) = sessionCount s.2 + 1 :=
    List.countP_cons_of_pos rfl
  have hoccasions : occasionCount (.session :: s.2) = occasionCount s.2 :=
    List.countP_cons_of_neg Bool.false_ne_true
  refine ⟨notInARow_cons h.notInARow ?_, ?_⟩
  · omega
  · dsimp only
    omega

/-- Any other tick pays for one more. -/
theorem Paid.occasion (h : Paid allowMockReboot slack config s) (htick : tick.isSession = false) :
    Paid allowMockReboot (slack + 1) config (s.1, tick :: s.2) := by
  have hbalance := h.balance
  have hsessions : sessionCount (tick :: s.2) = sessionCount s.2 := by
    simp [sessionCount, htick]
  have hoccasions : occasionCount (tick :: s.2) = occasionCount s.2 + 1 := by
    simp [occasionCount, htick]
  refine ⟨notInARow_cons h.notInARow ?_, ?_⟩
  · omega
  · dsimp only
    omega

/-- Changes pay for as many as they are. -/
theorem Paid.occasions (h : Paid allowMockReboot slack config s) (n : Nat) :
    Paid allowMockReboot (slack + n) config (s.1, List.replicate n .changed ++ s.2) := by
  induction n with
  | zero => exact h
  | succ n ih => exact ih.occasion rfl

/-- What adds at most `n` to the debt is paid for by `n` changes. -/
theorem Paid.moved {slack' n : Nat} {config' : DaemonConfig} {store' : Store}
    (h : Paid allowMockReboot slack config s)
    (hdebt : slack' + debt allowMockReboot config' store' ≤
      slack + debt allowMockReboot config s.1 + n) :
    Paid allowMockReboot slack' config' (store', List.replicate n .changed ++ s.2) := by
  have hpaid := h.occasions n
  have hbalance := hpaid.balance
  refine ⟨hpaid.notInARow, ?_⟩
  dsimp only at hbalance ⊢
  omega

theorem Paid.changed {n : Nat} {store' : Store} (h : Paid allowMockReboot slack config s)
    (hchanged : ChangedBy n s.1.view store'.view) :
    Paid allowMockReboot slack config (store', List.replicate n .changed ++ s.2) := by
  have hdebt := @debt_le_of_changedBy allowMockReboot config _ _ _ hchanged
  exact h.moved (by omega)

end Accounts

/-! ## What the programs pay -/

/-- What holds of the result, the store and the ticks, whatever others do. -/
abbrev paying {α : Type} (setup : Setup σ) (mayFail : SystemCall → Prop) (place : Place)
    (program : DaemonProg α) (post : α → Store × List Tick → Prop) (s : Store × List Tick) :
    Prop :=
  wp (storeEnv setup mayFail place) (fun _ => True) program post s

/-- The call has nothing to do with the store itself. -/
def OffStore : DaemonCall → Prop
  | .readConfig _ => False
  | .persist _ => False
  | _ => True

/-- Such a call that is not counted either. -/
def Uncounted : DaemonCall → Prop
  | .readConfig _ => False
  | .persist _ => False
  | .session _ _ => False
  | .take .reload => False
  | .reboot _ _ => False
  | _ => True

theorem ticksOf_of_uncounted {c : DaemonCall} (h : Uncounted c) (place : Place)
    (answer : daemonCalls.Answer c) : ticksOf place c answer = [] := by
  cases c with
  | readConfig | persist | session | reboot => exact h.elim
  | take request =>
      cases request with
      | reload => exact h.elim
      | connection | reconnect | informNow => rfl
  | _ => rfl

theorem offStore_of_uncounted {c : DaemonCall} (h : Uncounted c) : OffStore c := by
  cases c with
  | readConfig | persist => exact h
  | _ => trivial

section Programs

variable {α : Type} {setup : Setup σ} {mayFail : SystemCall → Prop} {place : Place}
  {slack : Nat} {config : DaemonConfig} {s s' : Store × List Tick}

/-- A call off the store pays what its ticks pay. -/
theorem paid_of_call {c : DaemonCall} {answer : daemonCalls.Answer c} {slack' : Nat}
    (hcall : storeEnv setup mayFail place c s answer s') (hoff : OffStore c)
    (hpaid : Paid setup.allowMockReboot slack config s)
    (hticks : ∀ s, Paid setup.allowMockReboot slack config s →
      Paid setup.allowMockReboot slack' config (s.1, ticksOf place c answer ++ s.2)) :
    Paid setup.allowMockReboot slack' config s' := by
  obtain ⟨store', ticks'⟩ := s'
  obtain ⟨before, between, during, hbefore, hstep, rfl⟩ := hcall
  have hduring : ChangedBy during between.view store'.view := by
    cases c with
    | readConfig | persist => exact hoff.elim
    | _ => exact hstep
  exact (hticks _ (hpaid.changed hbefore)).changed hduring

theorem paying_of_calls {program : DaemonProg α} {post : α → Store × List Tick → Prop}
    (h : program.Calls Uncounted) (hpaid : Paid setup.allowMockReboot slack config s)
    (hpost : ∀ value s', Paid setup.allowMockReboot slack config s' → post value s') :
    paying setup mayFail place program post s := by
  refine wp_of_calls h ?_ hpaid hpost
  intro c s answer s' hc hpaid hcall
  refine paid_of_call hcall (offStore_of_uncounted hc) hpaid fun s hs => ?_
  rw [ticksOf_of_uncounted hc]
  exact hs

theorem paying_ask {c : DaemonCall} {post : daemonCalls.Answer c → Store × List Tick → Prop}
    (hc : Uncounted c) (hpaid : Paid setup.allowMockReboot slack config s)
    (hpost : ∀ answer s', Paid setup.allowMockReboot slack config s' → post answer s') :
    paying setup mayFail place (Prog.ask c) post s :=
  paying_of_calls (Prog.calls_ask hc) hpaid hpost

theorem paying_session {http : HttpConfig} {events : List String}
    {post : SessionOutcome → Store × List Tick → Prop}
    (hpaid : Paid setup.allowMockReboot (slack + 1) config s)
    (hpost : ∀ outcome s', Paid setup.allowMockReboot slack config s' → post outcome s') :
    paying setup mayFail place (session http events) post s := by
  refine ⟨trivial, fun outcome s' hcall => hpost outcome s' ?_⟩
  exact paid_of_call hcall trivial hpaid fun s hs => hs.session

/-- A mock reboot pays for a session. -/
theorem paying_reboot {mockMode : Bool} {commandKey : String}
    {post : Bool → Store × List Tick → Prop}
    (hpaid : Paid setup.allowMockReboot slack config s)
    (hpost : ∀ scheduled s', Paid setup.allowMockReboot (slack + mockMode.toNat) config s' →
      post scheduled s') :
    paying setup mayFail place (reboot mockMode commandKey) post s := by
  refine ⟨trivial, fun scheduled s' hcall => hpost scheduled s' ?_⟩
  refine paid_of_call hcall trivial hpaid fun s hs => ?_
  cases mockMode with
  | true => exact hs.occasion rfl
  | false => exact hs

/-- A reload that is taken after a session pays for another one. -/
theorem paying_takeReload {post : Bool → Store × List Tick → Prop}
    (hpaid : Paid setup.allowMockReboot slack config s)
    (hpost : ∀ (taken : Bool) s', Paid setup.allowMockReboot
      (slack + (taken && decide (place = .head)).toNat) config s' → post taken s') :
    paying setup mayFail place (take .reload) post s := by
  refine ⟨trivial, fun (taken : Bool) s' hcall => hpost taken s' ?_⟩
  refine paid_of_call hcall trivial hpaid fun s hs => ?_
  by_cases hhead : place = .head
  · subst hhead
    cases taken with
    | true => exact hs.occasion rfl
    | false => exact hs
  · simpa [ticksOf, hhead] using hs

/-- Storing a flag costs nothing. -/
theorem paying_persist (hstored : Stored mayFail) {write : FlagWrite}
    {post : Bool × Bool → Store × List Tick → Prop}
    (hpaid : Paid setup.allowMockReboot slack config s)
    (hpost : ∀ ok s', Paid setup.allowMockReboot slack (write.applied config) s' → post ok s') :
    paying setup mayFail place (persist write) post s := by
  refine ⟨trivial, ?_⟩
  rintro ok ⟨store', ticks'⟩ ⟨before, between, during, hbefore, hstep, rfl⟩
  refine hpost ok _ ((hpaid.changed hbefore).moved ?_)
  have hdebt := @debt_of_persist _ setup.allowMockReboot config hstored _ _ _ _ _ hstep
  dsimp only at hdebt ⊢
  omega

theorem readAmid_of_step (hreads : ∀ phase key, ¬mayFail (.uciGet phase key))
    {target : DaemonConfig} {store store' : Store} {n : Nat}
    {answer : Option (DaemonConfig × LogLevel)}
    (hstep : StoreStep setup mayFail (.readConfig target) store answer n store') :
    answer = none ∧ ChangedBy n store.view store'.view ∨
      ∃ read level, answer = some (read, level) ∧
        ReadAmid setup.allowMockReboot target read n store store' := by
  obtain ⟨⟨engine, lastError⟩, -, hon, hexec⟩ := hstep
  cases engine with
  | none =>
      refine Or.inl ?_
      cases hexec with
      | call hcall hrest =>
          obtain ⟨rfl, hend⟩ := exec_done_iff.mp hrest
          obtain ⟨m, between, hchanged, hlog, hcount⟩ := hcall
          subst hend
          obtain rfl : store' = between := hlog
          obtain rfl : n = m := by simpa using hcount
          exact ⟨rfl, hchanged⟩
  | some engine =>
      obtain ⟨hshipped, hmock⟩ := hon engine rfl
      exact Or.inr (@readAmid_of_exec _ hreads ⟨engine, hshipped, hmock⟩ _ _ _ _ _ _ _ hexec)

/-- What a reading finds, and leaves to be found, is paid for. -/
theorem paying_readConfig (hstored : Stored mayFail)
    {post : Option (DaemonConfig × LogLevel) → Store × List Tick → Prop}
    (hpaid : Paid setup.allowMockReboot slack config s)
    (hfailed : ∀ s', Paid setup.allowMockReboot slack config s' → post none s')
    (hread : ∀ read level s', Paid setup.allowMockReboot
      (slack + (isChanged config (keptUrl config read)).toNat) (keptUrl config read) s' →
        post (some (read, level)) s') :
    paying setup mayFail place (Daemon.readConfig config) post s := by
  refine ⟨trivial, ?_⟩
  rintro answer ⟨store', ticks'⟩ ⟨before, between, during, hbefore, hstep, rfl⟩
  have hbetween := hpaid.changed hbefore
  rcases readAmid_of_step hstored.reads hstep with ⟨rfl, hchanged⟩ | ⟨read, level, rfl, hamid⟩
  · exact hfailed _ (hbetween.changed hchanged)
  · refine hread read level _ (hbetween.moved ?_)
    have hdebt := (debt_of_readAmid hamid).1
    dsimp only at hdebt ⊢
    omega

theorem uncounted_log (level : LogLevel) (message : String) : Uncounted (.log level message) :=
  trivial

/-- What follows a reading costs nothing: the log and the connection request server. -/
theorem paying_refreshConfig_of {initial : Bool} {previous : DaemonConfig}
    {post : DaemonConfig × Bool → Store × List Tick → Prop}
    (hinitial : initial = true → previous.acsUrl = "")
    (hread : paying setup mayFail place (Daemon.readConfig previous) (fun answer s' =>
      answer.elim (post (previous, false) s') fun (read, _) => ∃ slack,
        Paid setup.allowMockReboot slack (keptUrl previous read) s' ∧
        ∀ s'', Paid setup.allowMockReboot slack (keptUrl previous read) s'' →
          post (keptUrl previous read, initial || isChanged previous (keptUrl previous read)) s'')
      s) :
    paying setup mayFail place (refreshConfig initial previous) post s := by
  rw [refreshConfig_eq hinitial]
  refine wp_bind.mpr (wp_mono hread ?_)
  rintro (_ | ⟨read, level⟩) s' hanswer
  · exact hanswer
  obtain ⟨slack, hpaid, hpost⟩ := hanswer
  have hreport : (refreshReport initial previous read).Calls Uncounted :=
    calls_refreshReport uncounted_log trivial (fun _ => trivial) read
  exact wp_bind.mpr (paying_of_calls hreport hpaid fun _ s'' hpaid => hpost s'' hpaid)

/-- A refresh that finds a difference is paid for. -/
theorem paying_refreshConfig (hstored : Stored mayFail)
    {post : DaemonConfig × Bool → Store × List Tick → Prop}
    (hpaid : Paid setup.allowMockReboot slack config s)
    (hpost : ∀ (updated : DaemonConfig) (found : Bool) s',
      Paid setup.allowMockReboot (slack + found.toNat) updated s' → post (updated, found) s') :
    paying setup mayFail place (refreshConfig false config) post s := by
  refine paying_refreshConfig_of nofun (paying_readConfig hstored hpaid ?_ ?_)
  · exact fun s' hpaid => hpost config false s' hpaid
  · exact fun read level s' hpaid => ⟨_, hpaid, fun s'' hpaid => hpost _ _ s'' hpaid⟩

end Programs

/-! ## A round -/

/-- The sessions that are paid for where a round starts. -/
def Place.slack : Place → Nat
  | .head => 1
  | .overwrite _ => 1
  | _ => 0

/-- The accounts between two rounds. -/
def Balanced (setup : Setup σ) (daemon : Daemon) (store : Store) (ticks : List Tick) : Prop :=
  Paid setup.allowMockReboot daemon.place.slack daemon.config (store, ticks)

section Round

variable {setup : Setup σ} {mayFail : SystemCall → Prop} {place : Place}
  {slack : Nat} {config : DaemonConfig} {events : List String} {outcome : SessionOutcome}
  {s : Store × List Tick}

theorem paying_recordBootstrap (hstored : Stored mayFail)
    {post : DaemonConfig → Store × List Tick → Prop}
    (hpaid : Paid setup.allowMockReboot slack config s)
    (hpost : ∀ config' s', Paid setup.allowMockReboot slack config' s' → post config' s') :
    paying setup mayFail place (recordBootstrap outcome config) post s := by
  unfold recordBootstrap
  split
  · exact wp_bind.mpr (paying_persist hstored hpaid fun _ s' hpaid => hpost _ s' hpaid)
  · exact hpost config s hpaid

theorem paying_clearPendingReboot (hstored : Stored mayFail)
    {post : DaemonConfig → Store × List Tick → Prop}
    (hpaid : Paid setup.allowMockReboot slack config s)
    (hpost : ∀ config' s', Paid setup.allowMockReboot slack config' s' → post config' s') :
    paying setup mayFail place (clearPendingReboot outcome events config) post s := by
  unfold clearPendingReboot
  split
  · exact wp_bind.mpr (paying_persist hstored hpaid fun _ s' hpaid => hpost _ s' hpaid)
  · exact hpost config s hpaid

/-- The result of this refresh is dropped. -/
theorem paying_runDownload (hstored : Stored mayFail) {http : HttpConfig}
    {post : DaemonConfig → Store × List Tick → Prop}
    (hpaid : Paid setup.allowMockReboot slack config s)
    (hpost : ∀ config' s', Paid setup.allowMockReboot slack config' s' → post config' s') :
    paying setup mayFail place (runDownload outcome http config) post s := by
  unfold runDownload
  cases outcome.download with
  | none => exact hpost config s hpaid
  | some request =>
      refine wp_bind.mpr (paying_ask trivial hpaid fun transfer s₁ hpaid => ?_)
      refine wp_bind.mpr (paying_ask trivial hpaid fun reported s₂ hpaid => ?_)
      refine wp_bind.mpr (paying_refreshConfig hstored hpaid fun updated found s₃ hpaid => ?_)
      exact hpost updated s₃ (hpaid.of_le (Nat.le_add_right _ _))

/-- A mock reboot pays for the session after it. -/
theorem paying_runReboot (hstored : Stored mayFail)
    {post : DaemonConfig × Bool → Store × List Tick → Prop}
    (hpaid : Paid setup.allowMockReboot slack config s)
    (hpost : ∀ (config' : DaemonConfig) (mockRebooted : Bool) s',
      Paid setup.allowMockReboot (slack + mockRebooted.toNat) config' s' →
        post (config', mockRebooted) s') :
    paying setup mayFail place (runReboot outcome config) post s := by
  unfold runReboot
  split
  · exact hpost config false s hpaid
  · refine wp_bind.mpr (paying_persist hstored hpaid fun ok s₁ hpaid => ?_)
    refine wp_bind.mpr (paying_reboot hpaid fun scheduled s₂ hpaid => ?_)
    refine wp_bind.mpr (paying_ask (uncounted_log _ _) hpaid fun _ s₃ hpaid => ?_)
    dsimp only
    split
    · rename_i hmock
      refine wp_bind.mpr (paying_refreshConfig hstored hpaid fun updated found s₄ hpaid => ?_)
      refine wp_bind.mpr (paying_ask trivial hpaid fun _ s₅ hpaid => ?_)
      refine hpost updated true s₅ (hpaid.of_le ?_)
      dsimp only
      rw [hmock]
      exact Nat.le_add_right _ _
    · exact hpost _ false s₃ (hpaid.of_le (Nat.le_add_right _ _))

theorem paying_stop {post : Daemon → Store × List Tick → Prop}
    (hpaid : Paid setup.allowMockReboot slack config s)
    (hpost : ∀ s', Paid setup.allowMockReboot 0 config s' →
      post ⟨config, events, .stopped 0⟩ s') :
    paying setup mayFail place (stop config events) post s := by
  refine wp_bind.mpr (paying_ask trivial hpaid fun _ s₁ hpaid => ?_)
  refine wp_bind.mpr (paying_ask (uncounted_log _ _) hpaid fun _ s₂ hpaid => ?_)
  exact hpost s₂ (hpaid.of_le (Nat.zero_le _))

/-- A session is followed by another one only if that is paid for. -/
theorem paying_inform (hstored : Stored mayFail) {post : Daemon → Store × List Tick → Prop}
    (hpaid : Paid setup.allowMockReboot 1 config s)
    (hpost : ∀ daemon s', Paid setup.allowMockReboot daemon.place.slack daemon.config s' →
      post daemon s') :
    paying setup mayFail .head (inform config events) post s := by
  unfold inform
  refine wp_bind.mpr (paying_ask trivial hpaid fun _ s₁ hpaid => ?_)
  refine wp_bind.mpr (paying_session hpaid fun outcome s₂ hpaid => ?_)
  refine wp_bind.mpr (paying_ask trivial hpaid fun _ s₃ hpaid => ?_)
  refine wp_bind.mpr (paying_recordBootstrap hstored hpaid fun config₁ s₄ hpaid => ?_)
  refine wp_bind.mpr (paying_clearPendingReboot hstored hpaid fun config₂ s₅ hpaid => ?_)
  refine wp_bind.mpr (paying_runDownload hstored hpaid fun config₃ s₆ hpaid => ?_)
  refine wp_bind.mpr (paying_runReboot hstored hpaid fun config₄ mockRebooted s₇ hpaid => ?_)
  dsimp only
  split
  -- a mock reboot pays for the session that follows it
  · rename_i hmock
    rw [hmock] at hpaid
    exact hpost ⟨config₄, events, .overwrite .mockReboot⟩ s₇ hpaid
  refine wp_bind.mpr (paying_takeReload hpaid fun taken s₈ hpaid => ?_)
  refine wp_bind.mpr (paying_refreshConfig hstored hpaid fun updated found s₉ hpaid => ?_)
  dsimp only
  split
  · rename_i hagain
    refine hpost ⟨updated, events, .overwrite .configChanged⟩ s₉ (hpaid.of_le ?_)
    -- the reload that was taken pays, or the change that was found
    rcases Bool.or_eq_true_iff.mp hagain with rfl | rfl
    · exact Nat.le_add_right_of_le (Nat.le_add_left 1 _)
    · exact Nat.le_add_left 1 _
  · refine wp_bind.mpr (paying_ask trivial hpaid fun stopped s₁₀ hpaid => ?_)
    split
    · exact paying_stop hpaid fun s₁₁ hpaid => hpost _ s₁₁ hpaid
    · exact hpost ⟨updated, events, .waiting⟩ s₁₀ (hpaid.of_le (Nat.zero_le _))

/-- A wait costs nothing. -/
theorem paying_wakeReason (hstored : Stored mayFail) {signaled : Bool}
    {post : Option WakeReason × DaemonConfig → Store × List Tick → Prop}
    (hpaid : Paid setup.allowMockReboot slack config s)
    (hpost : ∀ wake config' s', Paid setup.allowMockReboot slack config' s' →
      post (wake, config') s') :
    paying setup mayFail place (wakeReason config signaled) post s := by
  unfold wakeReason
  refine wp_bind.mpr (paying_ask trivial hpaid fun stopped s₁ hpaid => ?_)
  split
  · exact hpost _ _ s₁ hpaid
  refine wp_bind.mpr (paying_ask trivial hpaid fun connection s₂ hpaid => ?_)
  split
  · exact hpost _ _ s₂ hpaid
  refine wp_bind.mpr (paying_ask trivial hpaid fun reconnect s₃ hpaid => ?_)
  split
  · exact hpost _ _ s₃ hpaid
  refine wp_bind.mpr (paying_ask trivial hpaid fun informNow s₄ hpaid => ?_)
  split
  · exact hpost _ _ s₄ hpaid
  -- a reload that is taken here is paid for, but does not count as one after a session
  refine wp_bind.mpr (paying_takeReload hpaid fun reload s₅ hpaid => ?_)
  have hpaid := hpaid.of_le (Nat.le_add_right _ _)
  split
  · refine wp_bind.mpr (paying_refreshConfig hstored hpaid fun updated found s₆ hpaid => ?_)
    exact hpost _ _ s₆ (hpaid.of_le (Nat.le_add_right _ _))
  · split
    · exact hpost _ _ s₅ hpaid
    · exact hpost _ _ s₅ hpaid

theorem paying_waitForNextInform (hstored : Stored mayFail)
    {post : Option WakeReason × DaemonConfig → Store × List Tick → Prop}
    (hpaid : Paid setup.allowMockReboot slack config s)
    (hpost : ∀ wake config' s', Paid setup.allowMockReboot slack config' s' →
      post (wake, config') s') :
    paying setup mayFail place (waitForNextInform config) post s := by
  unfold waitForNextInform
  split
  · exact wp_bind.mpr (paying_ask trivial hpaid fun _ s₁ hpaid =>
      paying_wakeReason hstored hpaid hpost)
  · exact wp_bind.mpr (paying_ask trivial hpaid fun _ s₁ hpaid =>
      paying_wakeReason hstored hpaid hpost)

/-- A round keeps the accounts, once its wake reason is counted. -/
theorem paying_round (hstored : Stored mayFail) {daemon : Daemon}
    (hpaid : Balanced setup daemon s.1 s.2) :
    paying setup mayFail daemon.place daemon.round (fun daemon' s' =>
      Balanced setup daemon' s'.1 (wokeTicks daemon.place daemon'.place ++ s'.2)) s := by
  obtain ⟨config, events, place⟩ := daemon
  cases place with
  | head =>
      refine wp_bind.mpr (paying_ask trivial hpaid fun stopped s₁ hpaid => ?_)
      split
      · exact paying_stop hpaid fun s₂ hpaid => hpaid
      split
      -- to wait needs no credit
      · have hwaiting := fun s' (hpaid : Paid setup.allowMockReboot 1 config s') =>
          hpaid.of_le (Nat.zero_le 1)
        split
        · exact wp_bind.mpr (paying_ask (uncounted_log _ _) hpaid fun _ s₂ hpaid =>
            hwaiting s₂ hpaid)
        · exact hwaiting s₁ hpaid
      · exact paying_inform hstored hpaid fun daemon s₂ hpaid => hpaid
  | waiting =>
      refine wp_bind.mpr (paying_waitForNextInform hstored hpaid fun wake config' s₁ hpaid => ?_)
      cases wake with
      | none => exact hpaid
      | some reason =>
          cases reason with
          | stop =>
              exact paying_stop hpaid fun s₂ hpaid => (hpaid.occasion rfl).of_le (Nat.zero_le _)
          -- the wake-up that is returned pays for the next session
          | periodic | connectionRequest | reload | reconnect | informNow =>
              exact hpaid.occasion rfl
  | overwrite cause => exact wp_bind.mpr (paying_ask trivial hpaid fun _ s₁ hpaid => hpaid)
  | stopped code => exact hpaid

end Round

/-! ## Runs -/

section Runs

variable {setup : Setup σ} {mayFail : SystemCall → Prop}

theorem exec_storeEnv {place : Place} {α : Type} {program : DaemonProg α} {value : α}
    {s s' : World × Store × List Tick}
    (hexec : Exec (countedEnv setup mayFail place) program s value s') :
    Exec (storeEnv setup mayFail place) program s.2 value s'.2 :=
  hexec.map fun _ _ _ _ hcall => hcall.2

/-- After the start the first session is paid for. -/
theorem paying_start (hstored : Stored mayFail) (store : Store) :
    paying setup mayFail .head Daemon.start (fun daemon s => Balanced setup daemon s.1 s.2)
      (store, []) := by
  have hnone : NotInARow [] := by
    intro earlier hsuffix
    rw [List.suffix_nil.mp hsuffix]
    exact Nat.zero_le _
  refine wp_bind.mpr (paying_refreshConfig_of (fun _ => rfl) ⟨trivial, ?_⟩)
  rintro answer ⟨store', ticks'⟩ ⟨before, between, during, hbefore, hstep, rfl⟩
  -- if nothing could be read, the process ends before any session
  rcases readAmid_of_step hstored.reads hstep with ⟨rfl, hchanged⟩ | ⟨read, level, rfl, hamid⟩
  · have hpaid : Paid setup.allowMockReboot 0 {} (between, []) :=
      ⟨hnone, by simpa [sessionCount, occasionCount] using debt_le_one _ _ _⟩
    exact ((hpaid.occasions before).of_le (Nat.zero_le _)).changed hchanged
  · -- nothing is owed by a configuration that was just read
    have hread : Paid setup.allowMockReboot 1 (refreshed setup.allowMockReboot {} between)
        (between, []) := by
      refine ⟨hnone, ?_⟩
      rw [debt_refreshed]
      exact Nat.le_refl 1
    have hdebt : 1 + debt setup.allowMockReboot (keptUrl {} read) store' ≤
        1 + debt setup.allowMockReboot (refreshed setup.allowMockReboot {} between) between +
          during := by
      have hlater := (debt_of_readAmid hamid).2
      dsimp only at hlater
      omega
    refine ⟨1, ((hread.occasions before).of_le (Nat.le_add_right _ _)).moved hdebt, ?_⟩
    intro s₁ hpaid
    simp only [Bool.true_or, Bool.not_true, Bool.false_eq_true, if_false]
    have hrestart : (restartConnectionRequestServer (keptUrl {} read)).Calls Uncounted :=
      calls_restartConnectionRequestServer uncounted_log trivial (fun _ => trivial) _
    refine wp_bind.mpr (paying_of_calls hrestart hpaid fun _ s₂ hpaid => ?_)
    refine wp_bind.mpr (paying_ask trivial hpaid fun _ s₃ hpaid => ?_)
    exact wp_bind.mpr (paying_ask trivial hpaid fun _ s₄ hpaid => hpaid)

theorem balanced_of_run (hstored : Stored mayFail) {daemon : Daemon} {world : World}
    {store : Store} {ticks : List Tick} (hrun : CountedRun setup mayFail daemon world store ticks) :
    Balanced setup daemon store ticks := by
  induction hrun with
  | start hexec => exact (exec_storeEnv hexec).of_wp (paying_start hstored _)
  | round _ hexec ih => exact (exec_storeEnv hexec).of_wp (paying_round (s := (_, _)) hstored ih)

/-- In every run in which the daemon's `uci get` and `uci set` commands work, no
session is opened without an occasion. -/
theorem notInARow_of_stored (hstored : Stored mayFail) {daemon : Daemon} {world : World}
    {store : Store} {ticks : List Tick} (hrun : CountedRun setup mayFail daemon world store ticks) :
    NotInARow ticks :=
  (balanced_of_run hstored hrun).notInARow

end Runs

/-! ## A device that cannot store its flags -/

/-- What UCI does alone, it may do amid others. -/
theorem exec_amidOthers {mayFail : SystemCall → Prop} {α : Type} {program : SystemProg α}
    {store store' : Store} {value : α} (hexec : Exec (uciEnv mayFail) program store value store')
    (n : Nat) : Exec (amidOthers mayFail) program (store, n) value (store', n) :=
  hexec.map (f := fun store => (store, n)) fun _ store _ _ hcall => ⟨0, store, .none, hcall, rfl⟩

namespace Scenario

variable (scenario : Scenario σ) (fails : SystemCall → Bool)

/-- The transformer of the device. -/
def transformer : LuaTransformer := ⟨some plainEngine.toEngine, ""⟩

/-- The answers of the scenario on a store that nobody else changes; the commands of
`fails` fail when the daemon stores a flag. -/
def countedHandler (place : Place) : (c : DaemonCall) → World × Store × List Tick →
    daemonCalls.Answer c × (World × Store × List Tick)
  | .readConfig target, (world, store, ticks) =>
      let read := configFrom store scenario.setup.allowMockReboot target
      (some (read, logLevelFrom store), { world with history := .reading read :: world.history },
        store, ticks)
  | .persist write, (world, store, ticks) =>
      let result := write.persist.run (faultyHandler fails) store
      (result.1, { world with history := .persisted write result.1 :: world.history }, result.2,
        ticks)
  | c, (world, store, ticks) =>
      let result := scenario.handler c world
      (result.1, result.2, store, ticksOf place c result.1 ++ ticks)

variable {scenario fails} {mayFail : SystemCall → Prop}

theorem countedHandler_mem (hready : scenario.setup.ready = true)
    (hfails : ∀ c, fails c = true → mayFail c) (place : Place) (c : DaemonCall)
    (s : World × Store × List Tick) :
    countedEnv scenario.setup mayFail place c s (scenario.countedHandler fails place c s).1
      (scenario.countedHandler fails place c s).2 := by
  obtain ⟨world, store, ticks⟩ := s
  cases c with
  | readConfig target =>
      have hexec := exec_run (uciHandler_mem_uciEnv mayFail)
        (readConfig transformer scenario.setup.allowMockReboot target) store
      rw [transformer, run_readConfig] at hexec
      have hon : transformer.OnUci := by
        rintro _ ⟨⟩
        exact ⟨plainEngine.shipped, plainEngine.notMock⟩
      refine ⟨⟨raised_refl _, _, ⟨⟨transformer, hready.symm, ?_⟩, rfl⟩, rfl⟩, ?_⟩
      · exact hexec.map (f := fun _ => ()) fun _ _ _ _ _ => trivial
      · exact ⟨0, store, 0, .none, ⟨transformer, hready.symm, hon, exec_amidOthers hexec 0⟩, rfl⟩
  | persist write =>
      have hexec := exec_run (faultyHandler_mem_uciEnv hfails) write.persist store
      refine ⟨⟨raised_refl _, _, ⟨?_, rfl⟩, rfl⟩, ?_⟩
      · exact hexec.map (f := fun _ => ()) fun _ _ _ _ _ => trivial
      · exact ⟨0, store, 0, .none, exec_amidOthers hexec 0, rfl⟩
  | _ => exact ⟨scenario.handler_mem_daemonEnv _ world, 0, store, 0, .none, .none, rfl⟩

variable (scenario fails)

/-- The daemon, the world, the store and the ticks after the start and some rounds. -/
def countedState (store : Store) : Nat → Daemon × (World × Store × List Tick)
  | 0 => Daemon.start.run (scenario.countedHandler fails .head) ({}, store, [])
  | n + 1 =>
      let (daemon, s) := countedState store n
      let result := daemon.round.run (scenario.countedHandler fails daemon.place) s
      (result.1, result.2.1, result.2.2.1,
        wokeTicks daemon.place result.1.place ++ result.2.2.2)

variable {scenario fails}

theorem countedRun (hready : scenario.setup.ready = true)
    (hfails : ∀ c, fails c = true → mayFail c) (store : Store) (n : Nat) :
    CountedRun scenario.setup mayFail (scenario.countedState fails store n).1
      (scenario.countedState fails store n).2.1 (scenario.countedState fails store n).2.2.1
      (scenario.countedState fails store n).2.2.2 := by
  induction n with
  | zero => exact .start (exec_run (countedHandler_mem hready hfails _) _ _)
  | succ n ih => exact .round ih (exec_run (countedHandler_mem hready hfails _) _ _)

end Scenario

/-- Any `uci set` may fail, and any commit. -/
def flagFaults : SystemCall → Prop
  | .uciSet _ _ _ => True
  | .uciCommit _ _ => True
  | _ => False

/-- Only commits may fail. -/
def commitFaults : SystemCall → Prop
  | .uciCommit _ _ => True
  | _ => False

theorem stored_commitFaults : Stored commitFaults :=
  ⟨fun _ _ => id, fun _ _ _ => id⟩

/-- A device whose ACS has no task, and that has not stored `bootstrap_done`. -/
def faultyState (fails : SystemCall → Bool) (n : Nat) : Daemon × (World × Store × List Tick) :=
  (deviceScenario fun _ => noTask).countedState fails (deviceStore false) n

theorem faultyRun {fails : SystemCall → Bool} {mayFail : SystemCall → Prop}
    (hfails : ∀ c, fails c = true → mayFail c) (n : Nat) :
    CountedRun (deviceScenario fun _ => noTask).setup mayFail (faultyState fails n).1
      (faultyState fails n).2.1 (faultyState fails n).2.2.1 (faultyState fails n).2.2.2 :=
  Scenario.countedRun rfl hfails (deviceStore false) n

/-- Its commits fail. -/
def commitFails : SystemCall → Bool
  | .uciCommit _ _ => true
  | _ => false

/-- The set of `bootstrap_done` fails as well. -/
def setFails : SystemCall → Bool
  | .uciSet _ _ _ => true
  | .uciCommit _ _ => true
  | _ => false

/-- The flag is staged, and the second session is a periodic one. -/
theorem uncommitted_notInARow :
    (faultyState commitFails 4).2.2.2 = [.session, .woke .periodic, .session] ∧
      NotInARow (faultyState commitFails 4).2.2.2 := by
  refine ⟨by decide, notInARow_of_stored stored_commitFaults (faultyRun ?_ 4)⟩
  intro c hc
  cases c with
  | uciCommit => trivial
  | _ => cases hc

/-- The flag is not even staged, and the second session follows the first. -/
theorem unstored_inARow : ∃ daemon world store ticks,
    CountedRun (deviceScenario fun _ => noTask).setup flagFaults daemon world store ticks ∧
      ¬NotInARow ticks := by
  have hfails : ∀ c, setFails c = true → flagFaults c := by
    intro c hc
    cases c with
    | uciSet | uciCommit => trivial
    | _ => cases hc
  have hticks : (faultyState setFails 3).2.2.2 = [.session, .session] := by decide
  refine ⟨_, _, _, _, faultyRun hfails 3, fun h => ?_⟩
  rw [hticks] at h
  exact absurd (h _ List.suffix_rfl) (by decide)

end Tr069d
