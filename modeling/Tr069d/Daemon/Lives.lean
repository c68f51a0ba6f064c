import Tr069d.Clients.Solo
import Tr069d.Daemon.Sessions
import Tr069d.Effects.Crash
import Tr069d.Session.AcsView

/-!
# The flags over restarts

The daemon keeps two flags in UCI, so that the Inform after a restart can say what
happened before it.  Here it is started again and again, and every process may end
anywhere: between two calls, in the middle of storing a flag, or with the power,
which also loses what is staged in UCI.  Others work on the store all the time, but
not on the flags; a commit of theirs makes a staged flag durable.

* `FlagsKept` is what the others do to the flags, and what a session does
  (`flagStep_of_session`): no parameter is kept in a flag.
* `Lived` are the devices after any number of processes.  Reads do not fail in them.
* `Kept` says how the stored flags relate to what has happened so far.  A call keeps it,
  an interrupted one too, and so does a restart.
* From it follows what the first list of events of every process says
  (`rebootAnnounced_of_lived`, `bootstrapAnnounced_of_lived`).
-/

namespace Tr069d

open Effects Daemon

/-! ## What outlives a process -/

/-- What happened, over all the processes. -/
inductive LifeEntry
  | started
  | entry (entry : Entry)
  deriving DecidableEq, Repr

structure DeviceState where
  store : Store
  /-- The newest entry first. -/
  history : List LifeEntry

/-- What is staged is kept in memory. -/
def Store.powerCut (store : Store) : Store :=
  .ofCommitted store.committed

/-- A flag is as it was, or what was staged of it is durable. -/
def FlagsKept (before after : Store) : Prop :=
  ∀ key, flagKey key →
    after.committed key = before.committed key ∧ after.staged key = before.staged key ∨
      after.committed key = before.view key ∧ after.staged key = none

/-- UCI, while others work on the store before each command. -/
def amidClients (mayFail : SystemCall → Prop) : Env system Store := fun c store answer store' =>
  ∃ between, FlagsKept store between ∧ uciEnv mayFail c between answer store'

variable {σ : Type}

/-- What a call does to the store. -/
def FlagStep (setup : Setup σ) (mayFail : SystemCall → Prop) :
    (c : DaemonCall) → Store → daemonCalls.Answer c → Store → Prop
  | .readConfig target, store, answer, store' => ∃ transformer : LuaTransformer,
      transformer.ready = setup.ready ∧ transformer.OnUci ∧
      Exec (amidClients mayFail) (readConfig transformer setup.allowMockReboot target)
        store answer store'
  | .persist write, store, ok, store' => Exec (amidClients mayFail) write.persist store ok store'
  | _, store, _, store' => FlagsKept store store'

/-- The surroundings of the daemon thread, with what outlives it. -/
def deviceEnv (setup : Setup σ) (mayFail : SystemCall → Prop) : Env daemonCalls DeviceState :=
  fun c device answer device' => FlagStep setup mayFail c device.store answer device'.store ∧
    ∃ entries, Recorded setup c answer entries ∧
      device'.history = entries.map .entry ++ device.history

/-- What a call that is interrupted does to the store. -/
def TornStep (mayFail : SystemCall → Prop) : DaemonCall → Store → Store → Prop
  | .persist write, store, store' =>
      Interrupted (amidClients mayFail) (fun _ => FlagsKept) write.persist store store'
  | _, store, store' => FlagsKept store store'

def deviceTorn (mayFail : SystemCall → Prop) : Torn daemonCalls DeviceState :=
  fun c device device' => TornStep mayFail c device.store device'.store ∧
    device'.history = device.history

/-- The next process starts, perhaps after the power was cut. -/
def Restarted (device device' : DeviceState) : Prop :=
  (∃ store, FlagsKept device.store store ∧
    (device'.store = store ∨ device'.store = store.powerCut)) ∧
  device'.history = .started :: device.history

namespace Daemon

/-- Some rounds of the loop. -/
def rounds : Nat → Daemon → DaemonProg Daemon
  | 0, daemon => return daemon
  | n + 1, daemon => do rounds n (← daemon.round)

/-- `run`, up to a number of rounds. -/
def life (n : Nat) : DaemonProg Daemon := do
  rounds n (← start)

end Daemon

/-- A device after any number of processes, each of them interrupted anywhere. -/
def Lived (setup : Setup σ) (mayFail : SystemCall → Prop) (initial : Store) : DeviceState → Prop :=
  Lives (deviceEnv setup mayFail) (deviceTorn mayFail) Daemon.life Restarted ⟨initial, []⟩

/-! ## What the flags should say -/

def rebootKey : String := "tr69.settings.pending_reboot_event"

def bootstrapKey : String := "tr69.settings.bootstrap_done"

/-- The last session asked for a reboot. -/
def rebootAsked : List LifeEntry → Bool
  | [] => false
  | .entry (.session _ _ outcome) :: _ => outcome.rebootRequested
  | _ :: earlier => rebootAsked earlier

/-- A reboot was stored, and no session has delivered its event since. -/
def rebootOwed : List LifeEntry → Bool
  | [] => false
  | .entry (.persisted .setPendingReboot (true, true)) :: _ => true
  | .entry (.session events _ outcome) :: earlier =>
      !(outcome.success && "M Reboot" ∈ events) && rebootOwed earlier
  | _ :: earlier => rebootOwed earlier

/-- The flag was cleared, and no session has asked for a reboot since. -/
def rebootSettled : List LifeEntry → Bool
  | [] => false
  | .entry (.persisted .clearPendingReboot (true, true)) :: earlier => !rebootAsked earlier
  | .entry (.session _ _ outcome) :: earlier => !outcome.rebootRequested && rebootSettled earlier
  | _ :: earlier => rebootSettled earlier

/-- `bootstrap_done` was stored. -/
def bootstrapStored (history : List LifeEntry) : Bool :=
  history.any fun entry => entry matches .entry (.persisted .bootstrapDone (true, true))

/-- Some session was a success. -/
def everSucceeded (history : List LifeEntry) : Bool :=
  history.any fun
    | .entry (.session _ _ outcome) => outcome.success
    | _ => false

/-- What happened before this process, if it has no list of events yet. -/
def beforeThisLife : List LifeEntry → Option (List LifeEntry)
  | [] => none
  | .started :: before => some before
  | .entry (.assigned _) :: _ => none
  | .entry _ :: earlier => beforeThisLife earlier

/-- The first list of a process names a reboot that is owed, and none that is settled. -/
def RebootAnnounced : LifeEntry → List LifeEntry → Prop
  | .entry (.assigned events), earlier => ∀ before, beforeThisLife earlier = some before →
      (rebootOwed before = true → "M Reboot" ∈ events) ∧
      (rebootSettled before = true → "M Reboot" ∉ events)
  | _, _ => True

/-- The first list of a process says that the device is new until a session was a
success, and not once that is stored. -/
def BootstrapAnnounced : LifeEntry → List LifeEntry → Prop
  | .entry (.assigned events), earlier => ∀ before, beforeThisLife earlier = some before →
      (everSucceeded before = false → "0 BOOTSTRAP" ∈ events) ∧
      (bootstrapStored before = true → "0 BOOTSTRAP" ∉ events)
  | _, _ => True

/-! ## Flags in the store -/

/-- What the option holds, with what is staged and without it, meets `P`. -/
def Holds (P : Option String → Prop) (key : String) (store : Store) : Prop :=
  P (store.committed key) ∧ P (store.view key)

/-- The option holds the value. -/
abbrev Durable (key value : String) : Store → Prop :=
  Holds (· = some value) key

/-- The option is read as false. -/
abbrev Unset (key : String) : Store → Prop :=
  Holds (fun value => UciAdapter.boolOf (value.map printed) false = false) key

section Flags

variable {first second third : Store} {key : String} {P : Option String → Prop}

theorem FlagsKept.refl (store : Store) : FlagsKept store store :=
  fun _ _ => Or.inl ⟨rfl, rfl⟩

theorem FlagsKept.view (h : FlagsKept first second) (hkey : flagKey key) :
    second.view key = first.view key := by
  rcases h key hkey with ⟨hcommitted, hstaged⟩ | ⟨hcommitted, hstaged⟩
  · rw [Store.view, Store.view, hcommitted, hstaged]
  · rw [view_eq_committed hstaged, hcommitted]

theorem FlagsKept.trans (h : FlagsKept first second) (h' : FlagsKept second third) :
    FlagsKept first third := by
  intro key hkey
  rcases h' key hkey with ⟨hcommitted, hstaged⟩ | ⟨hcommitted, hstaged⟩
  · rw [hcommitted, hstaged]
    exact h key hkey
  · rw [hcommitted, h.view hkey]
    exact Or.inr ⟨rfl, hstaged⟩

theorem FlagsKept.holds (h : FlagsKept first second) (hkey : flagKey key)
    (hholds : Holds P key first) : Holds P key second := by
  refine ⟨?_, ?_⟩
  · rcases h key hkey with ⟨hcommitted, -⟩ | ⟨hcommitted, -⟩
    · exact hcommitted ▸ hholds.1
    · exact hcommitted ▸ hholds.2
  · exact h.view hkey ▸ hholds.2

theorem Holds.powerCut (h : Holds P key first) : Holds P key first.powerCut :=
  ⟨h.1, h.1⟩

/-- What works outside of the flags keeps them. -/
theorem flagsKept_of_spread {keys : String → Prop} (hkeys : ∀ key, keys key → ¬flagKey key)
    (h : Spread keys first second) : FlagsKept first second := by
  intro key hkey
  have hout : ¬keys key := fun hin => hkeys key hin hkey
  rcases h with huntouched | hflushed
  · exact Or.inl ⟨congrFun huntouched.1 key, huntouched.2 key hout⟩
  · exact Or.inr ((hflushed key hout).1 (inPackage_of_flagKey hkey))

/-- A `SetParameterValues`, of the daemon or of `trs`, is work of this kind. -/
theorem flagsKept_of_setParameterValues (engine : UciEngine) {mayFail : SystemCall → Prop}
    (hsafe : SafeRollback mayFail) {items : List ParameterValue} {parameterKey : String}
    {result : Except SetError Unit × Engine}
    (hexec : Exec (uciEnv mayFail) (engine.setParameterValues items parameterKey) first result
      second) : FlagsKept first second := by
  cases hcheck : Engine.checkAll deviceMap items parameterKey with
  | error refusal =>
      obtain ⟨-, rfl⟩ := eq_of_refused engine hexec hcheck
      exact .refl _
  | ok written =>
      refine flagsKept_of_spread ?_ (spread_of_exec engine hexec hsafe hcheck)
      intro key hkey
      obtain ⟨item, hitem, rfl⟩ := List.mem_map.mp hkey
      exact (modelKey_of_checked hcheck hitem).2

end Flags

/-! ## A session keeps the flags -/

section Sessions

variable {handler : (c : SystemCall) → σ → system.Answer c × σ}
  {log : LogLevel → String → StateM σ Unit} {isoTimeNow : StateM σ String} {store : σ → Store}
  {mayFail : SystemCall → Prop} {engine : CpeEngine}
  (hsystem : OnStore handler log isoTimeNow store mayFail)

include hsystem

theorem keepsFlags_setParameterValues (before : Store) (items : List ParameterValue)
    (parameterKey : String) :
    Keeps (AtStore store engine (FlagsKept before))
      ((LuaTransformer.platform handler log isoTimeNow).setParameterValues items parameterKey) := by
  intro (⟨transformer, lastError⟩, s) ⟨hengine, hkept⟩
  obtain rfl : transformer = some engine.toEngine := hengine
  let result := (engine.setParameterValues items parameterKey).run handler s
  have htaken : (LuaTransformer.platform handler log isoTimeNow).setParameterValues items
      parameterKey (⟨some engine.toEngine, lastError⟩, s) = (LuaTransformer.setResult result.1.1,
        (⟨some result.1.2, lastError⟩, result.2)) := by
    simp only [LuaTransformer.platform, LuaTransformer.api, LuaTransformer.setParameterValues,
      Prog.run_bind, Prog.pure_eq_done, Prog.run_done]
    rfl
  have hexec : Exec (uciEnv mayFail) (engine.setParameterValues items parameterKey) (store s)
      (result.1.1, result.1.2) (store result.2) :=
    hsystem.exec _ s
  have hengine' : result.1.2 = engine.toEngine := engine_eq_of_exec engine.toUciEngine hexec
  rw [htaken]
  exact ⟨congrArg some hengine',
    hkept.trans (flagsKept_of_setParameterValues engine.toUciEngine hsystem.safe hexec)⟩

/-- Of the RPCs only `SetParameterValues` writes, and no parameter is kept in a flag. -/
theorem keepsFlags_handle (before : Store) (rpc : ParsedRpc) :
    Keeps (AtStore store engine (FlagsKept before))
      (RpcHandler.handle (LuaTransformer.platform handler log isoTimeNow) rpc) := by
  by_cases hset : rpc.method = "SetParameterValues"
  · intro place hplace
    apply atStore_handle hsystem hset
    have hcalled := keeps_logValues hsystem "set request" rpc.parameterValues _
      (keeps_log hsystem .info ("ACS RPC: " ++ rpc.method) _ hplace)
    exact keepsFlags_setParameterValues hsystem before _ _ _ hcalled
  · exact keeps_handle hsystem hset

theorem flagsKept_of_session (xmlRead : XmlReader) (purpose : SessionPurpose)
    (script : List HttpResponse) {session : Session (LuaTransformer × σ)}
    (hengine : session.platformState.1.engine = some engine.toEngine) :
    FlagsKept (store session.platformState.2)
      (store (sessionExchanges (LuaTransformer.platform handler log isoTimeNow) xmlRead
        (purpose, script) session).2.platformState.2) := by
  let I := AtStore store engine (FlagsKept (store session.platformState.2))
  have htime : Keeps I (LuaTransformer.platform handler log isoTimeNow).isoTimeNow := by
    intro (transformer, s) ⟨hengine, hkept⟩
    refine ⟨hengine, ?_⟩
    rw [← hsystem.time s] at hkept
    exact hkept
  have hstart : I session.platformState := ⟨hengine, .refl _⟩
  obtain ⟨place, place', hplace, hsteps, hend⟩ := @steps_sessionExchanges _
    (LuaTransformer.platform handler log isoTimeNow) xmlRead I (keeps_log hsystem)
    (keeps_getParameterValues hsystem) htime purpose script session hstart
  -- between the Inform and the last log lines there is one RPC after the other
  have hserved : I place' := by
    refine hsteps.invariant hplace fun place spoken place'' hI hserves => ?_
    obtain ⟨rpc, -, -, rfl⟩ := hserves
    exact keepsFlags_handle hsystem _ rpc place hI
  exact (hend I (keeps_log hsystem) hserved).2

/-- So a session of the daemon is a step of the kind that the lives are made of. -/
theorem flagStep_of_session (setup : Setup σ) (xmlRead : XmlReader) (http : HttpConfig)
    (events : List String) (script : List HttpResponse)
    {session : Session (LuaTransformer × σ)}
    (hengine : session.platformState.1.engine = some engine.toEngine) :
    let ended := CwmpSession.run (LuaTransformer.platform handler log isoTimeNow) xmlRead events
      script session
    FlagStep setup mayFail (.session http events) (store session.platformState.2) ended.1.1
      (store ended.2.platformState.2) :=
  flagsKept_of_session hsystem xmlRead (.events events) script hengine

/-- And so is one that reports a download. -/
theorem flagStep_of_transferComplete (setup : Setup σ) (xmlRead : XmlReader) (http : HttpConfig)
    (result : TransferResult) (script : List HttpResponse)
    {session : Session (LuaTransformer × σ)}
    (hengine : session.platformState.1.engine = some engine.toEngine) :
    let ended := CwmpSession.runTransferComplete (LuaTransformer.platform handler log isoTimeNow)
      xmlRead result script session
    FlagStep setup mayFail (.transferComplete http result) (store session.platformState.2)
      ended.1.1 (store ended.2.platformState.2) :=
  flagsKept_of_session hsystem xmlRead (.transferComplete result) script hengine

end Sessions

/-! ## Storing a flag -/

section Persist

variable {mayFail : SystemCall → Prop} {write : FlagWrite} {key : String}
  {P : Option String → Prop} {store store' : Store}

/-- The flag is the only option that the command writes. -/
def WritesOnly (write : FlagWrite) : SystemCall → Prop
  | .uciSet _ key value => key = write.key ∧ value = write.value
  | .uciDelete _ _ => False
  | _ => True

theorem calls_persist (write : FlagWrite) : write.persist.Calls (WritesOnly write) := by
  have hlog : ∀ level message, (Logger.log level message).Calls (WritesOnly write) :=
    fun _ _ => Prog.calls_ask trivial
  have hset : (UciAdapter.set write.key write.value).Calls (WritesOnly write) := by
    have hask : (@Prog.ask system (.uciSet .forward write.key write.value)).Calls
        (WritesOnly write) := Prog.calls_ask ⟨rfl, rfl⟩
    unfold UciAdapter.set
    rw [if_pos (validKey_key write)]
    refine hask.bind fun ok => ?_
    split
    · exact Prog.calls_pure _
    · exact (hlog _ _).bind fun _ => Prog.calls_pure _
  have hcommit : (UciAdapter.commit "tr69").Calls (WritesOnly write) := by
    have hask : (@Prog.ask system (.uciCommit .forward "tr69")).Calls (WritesOnly write) :=
      Prog.calls_ask trivial
    unfold UciAdapter.commit
    rw [if_pos (by decide)]
    refine hask.bind fun ok => ?_
    split
    · exact Prog.calls_pure _
    · exact (hlog _ _).bind fun _ => Prog.calls_pure _
  -- a set, a commit, and a line if one of them failed
  unfold FlagWrite.persist persistFlag
  refine hset.bind fun setOk => hcommit.bind fun commitOk => ?_
  split
  · exact Prog.calls_pure _
  · exact (hlog _ _).bind fun _ => Prog.calls_pure _

/-- What an option holds stays so, unless it is the flag and the new value is another one. -/
theorem holds_of_call (hkey : flagKey key) (hvalue : write.key = key → P (some write.value))
    {c : SystemCall} {answer : system.Answer c} (hc : WritesOnly write c)
    (hholds : Holds P key store) (hcall : amidClients mayFail c store answer store') :
    Holds P key store' := by
  -- what others do before the command keeps the flag, or makes it durable
  obtain ⟨between, hkept, hcall⟩ := hcall
  have hbetween : Holds P key between := hkept.holds hkey hholds
  cases c with
  | uciSet phase key' value =>
      obtain ⟨rfl, rfl⟩ := hc
      rcases hcall with ⟨-, rfl⟩ | ⟨-, -, rfl⟩
      · refine ⟨hbetween.1, ?_⟩
        rw [view_set]
        by_cases hsame : key = write.key
        · rw [hsame, Function.update_self]
          exact hvalue hsame.symm
        · rw [Function.update_of_ne hsame]
          exact hbetween.2
      · exact hbetween
  | uciDelete => exact hc.elim
  | uciGet phase key' =>
      obtain ⟨rfl, -⟩ := hcall
      exact hbetween
  | uciCommit phase package =>
      rcases hcall with ⟨-, rfl⟩ | ⟨-, -, rfl⟩
      -- a commit makes durable what is seen
      · refine ⟨?_, by rw [view_commit]; exact hbetween.2⟩
        by_cases hpackage : inPackage package key
        · rw [committed_commit _ hpackage]
          exact hbetween.2
        · simpa [Store.commit, hpackage] using hbetween.1
      · exact hbetween
  | capture | executeOk | saveMock | stderr | log =>
      obtain rfl : store' = between := hcall
      exact hbetween

theorem holds_of_persist (hkey : flagKey key) (hvalue : write.key = key → P (some write.value))
    (hholds : Holds P key store) {ok : Bool × Bool}
    (hexec : Exec (amidClients mayFail) write.persist store ok store') : Holds P key store' := by
  have hkeep : wp (amidClients mayFail) (fun _ => True) write.persist
      (fun _ => Holds P key) store :=
    wp_of_calls (calls_persist write) (fun _ _ _ _ hc => holds_of_call hkey hvalue hc) hholds
      fun _ _ hholds => hholds
  exact hexec.of_wp hkeep

theorem holds_of_torn (hkey : flagKey key) (hvalue : write.key = key → P (some write.value))
    (hholds : Holds P key store)
    (htorn : Interrupted (amidClients mayFail) (fun _ => FlagsKept) write.persist store store') :
    Holds P key store' := by
  have hkeep : cwp (amidClients mayFail) (fun _ => FlagsKept) (Holds P key) write.persist
      (fun _ _ => True) store :=
    cwp_of_calls (calls_persist write) (fun _ _ _ _ hc => holds_of_call hkey hvalue hc)
      (fun _ _ _ _ hholds hkept => hkept.holds hkey hholds) (fun _ hholds => hholds) hholds
      fun _ _ _ => trivial
  exact htorn.of_cwp hkeep

section Works

variable {post : Bool → Store → Prop}

theorem wp_amidClients_log {level : LogLevel} {message : String} {post : Unit → Store → Prop}
    (hpost : ∀ s', FlagsKept store s' → post () s') :
    wp (amidClients mayFail) (fun _ => True) (Logger.log level message) post store := by
  refine wp_ask.mpr ⟨trivial, ?_⟩
  rintro ⟨⟩ s' ⟨between, hkept, hlog⟩
  obtain rfl : s' = between := hlog
  exact hpost s' hkept

/-- A set that works stages the value. -/
theorem wp_flagSet (hpost : ∀ ok s', (ok = true → s'.view write.key = some write.value) →
      post ok s') :
    wp (amidClients mayFail) (fun _ => True) (UciAdapter.set write.key write.value) post store := by
  unfold UciAdapter.set
  rw [if_pos (validKey_key write), wp_bind]
  refine wp_ask.mpr ⟨trivial, ?_⟩
  rintro ok s' ⟨between, -, hset⟩
  rcases hset with ⟨rfl, rfl⟩ | ⟨-, rfl, -⟩
  · refine hpost true _ fun _ => ?_
    rw [view_set, Function.update_self]
  · exact wp_bind.mpr (wp_amidClients_log fun s'' _ => hpost false s'' nofun)

variable (write) in
/-- A commit that works makes durable what is staged of the flag. -/
theorem wp_flagCommit (hpost : ∀ ok s', (ok = true → ∀ value,
      store.view write.key = some value → Durable write.key value s') → post ok s') :
    wp (amidClients mayFail) (fun _ => True) (UciAdapter.commit "tr69") post store := by
  have hflag : flagKey write.key := flagKey_key write
  unfold UciAdapter.commit
  rw [if_pos (by decide), wp_bind]
  refine wp_ask.mpr ⟨trivial, ?_⟩
  rintro ok s' ⟨between, hkept, hcommit⟩
  rcases hcommit with ⟨rfl, rfl⟩ | ⟨-, rfl, -⟩
  · refine hpost true _ fun _ value hvalue => ?_
    have hview : between.view write.key = some value := (hkept.view hflag).trans hvalue
    refine ⟨?_, by rw [view_commit]; exact hview⟩
    rw [committed_commit _ (inPackage_of_flagKey hflag)]
    exact hview
  · exact wp_bind.mpr (wp_amidClients_log fun s'' _ => hpost false s'' nofun)

end Works

/-- After a set and a commit that worked, the flag is durable. -/
theorem durable_of_persist
    (hexec : Exec (amidClients mayFail) write.persist store (true, true) store') :
    Durable write.key write.value store' := by
  have hwp : wp (amidClients mayFail) (fun _ => True) write.persist
      (fun ok store' => ok = (true, true) → Durable write.key write.value store') store := by
    unfold FlagWrite.persist persistFlag
    refine wp_bind.mpr (wp_flagSet fun setOk set hset => ?_)
    refine wp_bind.mpr (wp_flagCommit write fun commitOk committed hcommit => ?_)
    split
    · rename_i hboth
      obtain ⟨hsetOk, hcommitOk⟩ := Bool.and_eq_true_iff.mp hboth
      exact fun _ => hcommit hcommitOk _ (hset hsetOk)
    · rename_i hfailed
      refine wp_bind.mpr (wp_amidClients_log fun s' _ => ?_)
      intro hok
      obtain ⟨rfl, rfl⟩ := Prod.mk.inj hok
      exact absurd rfl hfailed
  exact hexec.of_wp hwp rfl

end Persist

/-! ## Reading the flags -/

section Reading

variable {setup : Setup σ} {mayFail : SystemCall → Prop} {target : DaemonConfig}
  {store store' : Store} {answer : Option (DaemonConfig × LogLevel)}

/-- A command that only reads keeps the flags. -/
theorem flagsKept_of_reads {c : SystemCall} {answer : system.Answer c} (hreads : uciReader.reads c)
    (hcall : amidClients mayFail c store answer store') : FlagsKept store store' := by
  obtain ⟨between, hkept, hcall⟩ := hcall
  cases c with
  | uciGet phase key =>
      obtain ⟨rfl, -⟩ := hcall
      exact hkept
  | stderr | log =>
      obtain rfl : store' = between := hcall
      exact hkept
  | _ => exact hreads.elim

theorem flagsKept_of_readConfig
    (hstep : FlagStep setup mayFail (.readConfig target) store answer store') :
    FlagsKept store store' := by
  obtain ⟨⟨engine, lastError⟩, -, hon, hexec⟩ := hstep
  have hcalls : (readConfig ⟨engine, lastError⟩ setup.allowMockReboot target).Calls
      uciReader.reads := by
    cases engine with
    | none => exact (Prog.calls_ask trivial).bind fun _ => Prog.calls_pure _
    | some engine =>
        obtain ⟨hshipped, hmock⟩ := hon engine rfl
        exact (once_readConfig ⟨engine, hshipped, hmock⟩ lastError _ target).calls
  have hkeep : wp (amidClients mayFail) (fun _ => True)
      (readConfig ⟨engine, lastError⟩ setup.allowMockReboot target)
      (fun _ => FlagsKept store) store :=
    wp_of_calls hcalls (fun _ _ _ _ hreads hkept hcall =>
      hkept.trans (flagsKept_of_reads hreads hcall)) (.refl store) fun _ _ hkept => hkept
  exact hexec.of_wp hkeep

/-- The flags that are read are those of the store, whatever others change meanwhile. -/
theorem flags_of_readConfig (hreads : ∀ phase key, ¬mayFail (.uciGet phase key))
    {read : DaemonConfig} {level : LogLevel}
    (hstep : FlagStep setup mayFail (.readConfig target) store (some (read, level)) store') :
    read.bootstrapDone = UciAdapter.boolOf (captured store bootstrapKey) false ∧
      read.pendingRebootEvent = UciAdapter.boolOf (captured store rebootKey) false := by
  obtain ⟨⟨engine, lastError⟩, -, hon, hexec⟩ := hstep
  cases engine with
  | none =>
      cases hexec with
      | call _ hrest => cases (exec_done_iff.mp hrest).1
  | some engine =>
      obtain ⟨hshipped, hmock⟩ := hon engine rfl
      -- each option is read once, so what was read is one snapshot, mixed of several moments
      have honce := once_readConfig ⟨engine, hshipped, hmock⟩ lastError setup.allowMockReboot
        target
      have hamid : Exec (uciReader.amidKeeping flagKey)
          (readConfig ⟨some engine, lastError⟩ setup.allowMockReboot target) store.view
          (some (read, level)) store'.view := by
        refine hexec.map (f := Store.view) ?_
        rintro c s answer s' hcall hc
        refine ⟨fun key hkey => (flagsKept_of_reads hc hcall).view hkey, ?_⟩
        obtain ⟨between, -, hcall⟩ := hcall
        cases c with
        | uciGet phase key =>
            obtain ⟨rfl, hanswer⟩ := hcall
            exact hanswer.resolve_right fun hfailed => hreads _ _ hfailed.1
        | stderr | log => rfl
        | _ => exact hc.elim
      obtain ⟨mixed, hmixed, hvalue⟩ := honce.exists_result hamid
      have hrun := run_readConfig ⟨engine, hshipped, hmock⟩ (.ofCommitted mixed) lastError
        setup.allowMockReboot target
      rw [run_of_once honce] at hrun
      have hread := hvalue.trans (Prod.mk.inj hrun).1
      obtain ⟨rfl, -⟩ := Prod.mk.inj (Option.some.inj hread)
      -- at the flags every moment shows the same
      have hsame : ∀ key, flagKey key →
          captured (.ofCommitted mixed) key = captured store key :=
        fun key hkey => congrArg (Option.map printed) (hmixed key hkey)
      refine ⟨?_, ?_⟩
      · exact congrArg (UciAdapter.boolOf · false) (hsame bootstrapKey (Or.inl rfl))
      · exact congrArg (UciAdapter.boolOf · false) (hsame rebootKey (Or.inr rfl))

end Reading

/-! ## What every process keeps -/

/-- How the stored flags relate to what has happened. -/
structure Kept (isNew : Prop) (device : DeviceState) : Prop where
  owed : rebootOwed device.history = true → Durable rebootKey "1" device.store
  settled : rebootSettled device.history = true → Durable rebootKey "0" device.store
  stored : bootstrapStored device.history = true → Durable bootstrapKey "1" device.store
  unset : isNew → everSucceeded device.history = false → Unset bootstrapKey device.store
  rebootAnnounced : Always RebootAnnounced device.history
  bootstrapAnnounced : isNew → Always BootstrapAnnounced device.history

/-- An entry that is no list of events, no session and no flag. -/
def LifeEntry.isPlain : LifeEntry → Bool
  | .started => false
  | .entry (.assigned _) => false
  | .entry (.session ..) => false
  | .entry (.persisted ..) => false
  | .entry _ => true

/-- The flags are kept, and what was added says nothing about them. -/
def Onward (device device' : DeviceState) : Prop :=
  FlagsKept device.store device'.store ∧
    ∃ newer, (∀ entry ∈ newer, entry.isPlain = true) ∧ device'.history = newer ++ device.history

section Onward

variable {isNew : Prop} {newer history : List LifeEntry} {device device' device'' : DeviceState}

/-- What a history says about the flags. -/
structure Said where
  asked : Bool
  owed : Bool
  settled : Bool
  stored : Bool
  succeeded : Bool
  before : Option (List LifeEntry)

def saidOf (history : List LifeEntry) : Said where
  asked := rebootAsked history
  owed := rebootOwed history
  settled := rebootSettled history
  stored := bootstrapStored history
  succeeded := everSucceeded history
  before := beforeThisLife history

theorem saidOf_cons {entry : LifeEntry} (h : entry.isPlain = true) (earlier : List LifeEntry) :
    saidOf (entry :: earlier) = saidOf earlier := by
  cases entry with
  | started => cases h
  | entry entry => cases entry <;> first | rfl | cases h

theorem saidOf_append (hnewer : ∀ entry ∈ newer, entry.isPlain = true) :
    saidOf (newer ++ history) = saidOf history := by
  induction newer with
  | nil => rfl
  | cons entry newer ih =>
      obtain ⟨hentry, hrest⟩ := List.forall_mem_cons.mp hnewer
      exact (saidOf_cons hentry _).trans (ih hrest)

theorem announced_plain (entry : LifeEntry) (h : entry.isPlain = true) (earlier : List LifeEntry) :
    RebootAnnounced entry earlier ∧ BootstrapAnnounced entry earlier := by
  cases entry with
  | started => cases h
  | entry entry => cases entry <;> first | exact ⟨trivial, trivial⟩ | cases h

theorem Onward.refl (device : DeviceState) : Onward device device :=
  ⟨.refl _, [], List.forall_mem_nil _, rfl⟩

theorem Onward.trans (h : Onward device device') (h' : Onward device' device'') :
    Onward device device'' := by
  obtain ⟨hkept, newer, hnewer, hhistory⟩ := h
  obtain ⟨hkept', newer', hnewer', hhistory'⟩ := h'
  refine ⟨hkept.trans hkept', newer' ++ newer, ?_, ?_⟩
  · exact List.forall_mem_append.mpr ⟨hnewer', hnewer⟩
  · rw [hhistory', hhistory, List.append_assoc]

theorem Onward.said (h : Onward device device') :
    saidOf device'.history = saidOf device.history := by
  obtain ⟨-, newer, hnewer, hhistory⟩ := h
  rw [hhistory]
  exact saidOf_append hnewer

theorem Kept.onward (h : Kept isNew device) (honward : Onward device device') :
    Kept isNew device' := by
  have hsaid := honward.said
  obtain ⟨hstore, newer, hnewer, hhistory⟩ := honward
  have hreboot : flagKey rebootKey := Or.inr rfl
  have hbootstrap : flagKey bootstrapKey := Or.inl rfl
  refine ⟨fun howed => ?_, fun hsettled => ?_, fun hstored => ?_,
    fun hnew hnever => ?_, ?_, fun hnew => ?_⟩
  · exact hstore.holds hreboot (h.owed ((congrArg Said.owed hsaid).symm.trans howed))
  · exact hstore.holds hreboot (h.settled ((congrArg Said.settled hsaid).symm.trans hsettled))
  · exact hstore.holds hbootstrap (h.stored ((congrArg Said.stored hsaid).symm.trans hstored))
  · exact hstore.holds hbootstrap (h.unset hnew
      ((congrArg Said.succeeded hsaid).symm.trans hnever))
  · rw [hhistory]
    refine (always_append_iff fun entry hentry earlier => ?_).mpr h.rebootAnnounced
    exact (announced_plain entry (hnewer entry hentry) earlier).1
  · rw [hhistory]
    refine (always_append_iff fun entry hentry earlier => ?_).mpr (h.bootstrapAnnounced hnew)
    exact (announced_plain entry (hnewer entry hentry) earlier).2

end Onward

/-! ## The calls -/

section Calls

variable {isNew : Prop} {setup : Setup σ} {mayFail : SystemCall → Prop} {α : Type}
  {device device' : DeviceState}

/-- What holds after a program, and is kept wherever it is interrupted. -/
abbrev keeping (isNew : Prop) (setup : Setup σ) (mayFail : SystemCall → Prop)
    (program : DaemonProg α) (post : α → DeviceState → Prop) (device : DeviceState) : Prop :=
  cwp (deviceEnv setup mayFail) (deviceTorn mayFail) (Kept isNew) program post device

/-- The call adds only plain entries. -/
def AddsPlain : DaemonCall → Prop
  | .session _ _ => False
  | .persist _ => False
  | .assigned _ => False
  | _ => True

theorem onward_of_addsPlain {c : DaemonCall} {answer : daemonCalls.Answer c} (hc : AddsPlain c)
    (hcall : deviceEnv setup mayFail c device answer device') : Onward device device' := by
  obtain ⟨hstep, entries, hrecorded, hhistory⟩ := hcall
  -- of the calls without an own lemma only `readConfig` works on the store itself
  have hplain : FlagsKept device.store device'.store ∧
      ∀ entry ∈ entries, (LifeEntry.entry entry).isPlain = true := by
    cases c with
    | session | persist | assigned => exact hc.elim
    | readConfig target =>
        obtain ⟨-, rfl⟩ := hrecorded
        refine ⟨flagsKept_of_readConfig hstep, ?_⟩
        intro entry hentry
        obtain ⟨read, -, rfl⟩ := Option.map_eq_some_iff.mp (Option.mem_toList.mp hentry)
        rfl
    | download request http =>
        obtain ⟨-, rfl⟩ := hrecorded
        exact ⟨hstep, List.forall_mem_singleton.mpr rfl⟩
    | transferComplete http result =>
        obtain ⟨_, _, _, -, rfl⟩ := hrecorded
        exact ⟨hstep, List.forall_mem_singleton.mpr rfl⟩
    | reboot mockMode commandKey =>
        obtain ⟨-, rfl⟩ := hrecorded
        exact ⟨hstep, List.forall_mem_singleton.mpr rfl⟩
    | wait timeout =>
        obtain rfl : entries = [.waited] := hrecorded
        exact ⟨hstep, List.forall_mem_singleton.mpr rfl⟩
    | stopRequested | take | stopServer | startServer | setState | sleep | log =>
        obtain rfl : entries = [] := hrecorded
        exact ⟨hstep, List.forall_mem_nil _⟩
  refine ⟨hplain.1, entries.map .entry, ?_, hhistory⟩
  exact List.forall_mem_map.mpr hplain.2

theorem onward_of_torn {c : DaemonCall} (hc : AddsPlain c)
    (htorn : deviceTorn mayFail c device device') : Onward device device' := by
  obtain ⟨hstep, hhistory⟩ := htorn
  refine ⟨?_, [], List.forall_mem_nil _, hhistory⟩
  cases c with
  | persist => exact hc.elim
  | _ => exact hstep

theorem keeping_of_calls {program : DaemonProg α} {post : α → DeviceState → Prop}
    (h : program.Calls AddsPlain) (hkept : Kept isNew device)
    (hpost : ∀ value device', Kept isNew device' → Onward device device' →
      post value device') :
    keeping isNew setup mayFail program post device := by
  refine cwp_of_calls (I := Onward device) h ?_ ?_ (fun _ honward => hkept.onward honward)
    (.refl device) fun value device' honward => hpost value device' (hkept.onward honward) honward
  · exact fun c s answer s' hc honward hcall => honward.trans (onward_of_addsPlain hc hcall)
  · exact fun c s s' hc honward htorn => hkept.onward (honward.trans (onward_of_torn hc htorn))

/-- A session adds its entry. -/
theorem keeping_session {http : HttpConfig} {events : List String}
    {post : SessionOutcome → DeviceState → Prop} (hkept : Kept isNew device)
    (hpost : ∀ exchanges outcome device', Kept isNew device' →
      device'.history = .entry (.session events exchanges outcome) :: device.history →
        post outcome device') :
    keeping isNew setup mayFail (session http events) post device := by
  have hreboot : flagKey rebootKey := Or.inr rfl
  have hbootstrap : flagKey bootstrapKey := Or.inl rfl
  -- a session that is cut off leaves no entry
  have htornKept : ∀ device', deviceTorn mayFail (.session http events) device device' →
      Kept isNew device' := by
    rintro device' ⟨hstep, hhistory⟩
    exact hkept.onward ⟨hstep, [], List.forall_mem_nil _, hhistory⟩
  refine ⟨hkept, htornKept, ?_⟩
  rintro outcome device' ⟨hstep, entries, ⟨_, _, exchanges, -, rfl⟩, hhistory⟩
  replace hstep : FlagsKept device.store device'.store := hstep
  replace hhistory : device'.history =
      .entry (.session events exchanges outcome) :: device.history := hhistory
  -- the entry settles what it carried, and owes nothing that was not owed before
  have hkept' : Kept isNew device' := by
    refine ⟨?_, ?_, ?_, ?_, ?_, ?_⟩
    · rw [hhistory]
      intro howed
      exact hstep.holds hreboot (hkept.owed (Bool.and_eq_true_iff.mp howed).2)
    · rw [hhistory]
      intro hsettled
      exact hstep.holds hreboot (hkept.settled (Bool.and_eq_true_iff.mp hsettled).2)
    · rw [hhistory]
      exact fun hstored => hstep.holds hbootstrap (hkept.stored hstored)
    · rw [hhistory]
      intro hnew hnever
      exact hstep.holds hbootstrap (hkept.unset hnew (Bool.or_eq_false_iff.mp hnever).2)
    · rw [hhistory]
      exact ⟨trivial, hkept.rebootAnnounced⟩
    · rw [hhistory]
      exact fun hnew => ⟨trivial, hkept.bootstrapAnnounced hnew⟩
  exact ⟨hkept', hpost exchanges outcome device' hkept' hhistory⟩

/-- Assigning a list of events in the loop. -/
theorem keeping_assigned {events : List String} {post : Unit → DeviceState → Prop}
    (hkept : Kept isNew device)
    (hannounced : RebootAnnounced (.entry (.assigned events)) device.history ∧
      (isNew → BootstrapAnnounced (.entry (.assigned events)) device.history))
    (hpost : ∀ device', Kept isNew device' → beforeThisLife device'.history = none →
      post () device') :
    keeping isNew setup mayFail (assigned events) post device := by
  have hreboot : flagKey rebootKey := Or.inr rfl
  have hbootstrap : flagKey bootstrapKey := Or.inl rfl
  refine ⟨hkept, ?_, ?_⟩
  · rintro device' ⟨hstep, hhistory⟩
    exact hkept.onward ⟨hstep, [], List.forall_mem_nil _, hhistory⟩
  rintro ⟨⟩ device' ⟨hstep, entries, hrecorded, hhistory⟩
  obtain rfl : entries = [.assigned events] := hrecorded
  replace hstep : FlagsKept device.store device'.store := hstep
  replace hhistory : device'.history = .entry (.assigned events) :: device.history := hhistory
  -- a list only has to be the right one; the flags are not about it
  have hkept' : Kept isNew device' := by
    refine ⟨?_, ?_, ?_, ?_, ?_, ?_⟩ <;> rw [hhistory]
    · exact fun howed => hstep.holds hreboot (hkept.owed howed)
    · exact fun hsettled => hstep.holds hreboot (hkept.settled hsettled)
    · exact fun hstored => hstep.holds hbootstrap (hkept.stored hstored)
    · exact fun hnew hnever => hstep.holds hbootstrap (hkept.unset hnew hnever)
    · exact ⟨hannounced.1, hkept.rebootAnnounced⟩
    · exact fun hnew => ⟨hannounced.2 hnew, hkept.bootstrapAnnounced hnew⟩
  exact ⟨hkept', hpost device' hkept' (by rw [hhistory]; rfl)⟩

/-- When a flag may be stored. -/
def Due (history : List LifeEntry) : FlagWrite → Prop
  | .bootstrapDone => everSucceeded history = true
  | .clearPendingReboot => rebootOwed history = false
  | .setPendingReboot => rebootSettled history = false

/-- What the history says stays true of the store while a flag that is due is stored. -/
theorem holds_of_due {write : FlagWrite} {store : Store} (hkept : Kept isNew device)
    (hdue : Due device.history write)
    (hholds : ∀ {P key}, flagKey key → (write.key = key → P (some write.value)) →
      Holds P key device.store → Holds P key store) :
    (rebootOwed device.history = true → Durable rebootKey "1" store) ∧
      (rebootSettled device.history = true → Durable rebootKey "0" store) ∧
      (bootstrapStored device.history = true → Durable bootstrapKey "1" store) ∧
      (isNew → everSucceeded device.history = false → Unset bootstrapKey store) := by
  have hreboot : flagKey rebootKey := Or.inr rfl
  have hbootstrap : flagKey bootstrapKey := Or.inl rfl
  have hne : bootstrapKey ≠ rebootKey := by decide
  -- a flag that is due is not the one that the history still needs with the other value
  refine ⟨fun howed => hholds hreboot ?_ (hkept.owed howed),
    fun hsettled => hholds hreboot ?_ (hkept.settled hsettled),
    fun hstored => hholds hbootstrap ?_ (hkept.stored hstored),
    fun hnew hnever => hholds hbootstrap ?_ (hkept.unset hnew hnever)⟩
  · cases write with
    | bootstrapDone => exact fun hkey => absurd hkey hne
    | clearPendingReboot => exact Bool.noConfusion (howed.symm.trans hdue)
    | setPendingReboot => exact fun _ => rfl
  · cases write with
    | bootstrapDone => exact fun hkey => absurd hkey hne
    | clearPendingReboot => exact fun _ => rfl
    | setPendingReboot => exact Bool.noConfusion (hsettled.symm.trans hdue)
  · cases write with
    | bootstrapDone => exact fun _ => rfl
    | clearPendingReboot | setPendingReboot => exact fun hkey => absurd hkey.symm hne
  · cases write with
    | bootstrapDone => exact Bool.noConfusion (hnever.symm.trans hdue)
    | clearPendingReboot | setPendingReboot => exact fun hkey => absurd hkey.symm hne

section Persisted

variable (write : FlagWrite) (ok : Bool × Bool) (earlier : List LifeEntry)

theorem rebootOwed_persisted : rebootOwed (.entry (.persisted write ok) :: earlier) =
    (decide (write = .setPendingReboot ∧ ok = (true, true)) || rebootOwed earlier) := by
  obtain ⟨_ | _, _ | _⟩ := ok <;> cases write <;> rfl

theorem rebootSettled_persisted : rebootSettled (.entry (.persisted write ok) :: earlier) =
    if write = .clearPendingReboot ∧ ok = (true, true) then !rebootAsked earlier
    else rebootSettled earlier := by
  obtain ⟨_ | _, _ | _⟩ := ok <;> cases write <;> rfl

theorem bootstrapStored_persisted : bootstrapStored (.entry (.persisted write ok) :: earlier) =
    (decide (write = .bootstrapDone ∧ ok = (true, true)) || bootstrapStored earlier) := by
  obtain ⟨_ | _, _ | _⟩ := ok <;> cases write <;> rfl

end Persisted

/-- Storing a flag that is due keeps the flags, also if it is interrupted. -/
theorem keeping_persist {write : FlagWrite} {post : Bool × Bool → DeviceState → Prop}
    (hkept : Kept isNew device) (hdue : Due device.history write)
    (hpost : ∀ ok device', Kept isNew device' →
      device'.history = .entry (.persisted write ok) :: device.history → post ok device') :
    keeping isNew setup mayFail (persist write) post device := by
  refine ⟨hkept, ?_, ?_⟩
  -- interrupted: the flag has its old value or the new one, and both are allowed
  · rintro device' ⟨htorn, hhistory⟩
    obtain ⟨howed, hsettled, hstored, hunset⟩ := holds_of_due hkept hdue
      fun hkey hvalue hholds => holds_of_torn hkey hvalue hholds htorn
    have hreboot := hkept.rebootAnnounced
    have hbootstrap := hkept.bootstrapAnnounced
    rw [← hhistory] at howed hsettled hstored hunset hreboot hbootstrap
    exact ⟨howed, hsettled, hstored, hunset, hreboot, hbootstrap⟩
  rintro ok device' ⟨hstep, entries, ⟨-, rfl⟩, hhistory⟩
  replace hstep : Exec (amidClients mayFail) write.persist device.store ok device'.store := hstep
  replace hhistory : device'.history = .entry (.persisted write ok) :: device.history := hhistory
  obtain ⟨howed, hsettled, hstored, hunset⟩ := holds_of_due hkept hdue
    fun hkey hvalue hholds => holds_of_persist hkey hvalue hholds hstep
  -- an entry says that the flag was stored only if both commands succeeded
  have hdurable : ok = (true, true) → Durable write.key write.value device'.store := by
    rintro rfl
    exact durable_of_persist hstep
  have hkept' : Kept isNew device' := by
    refine ⟨?_, ?_, ?_, ?_, ?_, ?_⟩ <;> rw [hhistory]
    · rw [rebootOwed_persisted, Bool.or_eq_true, decide_eq_true_eq]
      rintro (⟨rfl, hok⟩ | hearlier)
      · exact hdurable hok
      · exact howed hearlier
    · rw [rebootSettled_persisted]
      split
      · rename_i hcleared
        obtain ⟨rfl, hok⟩ := hcleared
        exact fun _ => hdurable hok
      · exact hsettled
    · rw [bootstrapStored_persisted, Bool.or_eq_true, decide_eq_true_eq]
      rintro (⟨rfl, hok⟩ | hearlier)
      · exact hdurable hok
      · exact hstored hearlier
    · exact hunset
    · exact ⟨trivial, hkept.rebootAnnounced⟩
    · exact fun hnew => ⟨trivial, hkept.bootstrapAnnounced hnew⟩
  exact ⟨hkept', hpost ok device' hkept' hhistory⟩

end Calls

/-! ## A round -/

/-- What is known after a session with these events, as long as the round goes on. -/
structure PastSession (isNew : Prop) (events : List String) (outcome : SessionOutcome)
    (device : DeviceState) : Prop where
  kept : Kept isNew device
  inLife : beforeThisLife device.history = none
  succeeded : outcome.success = true → everSucceeded device.history = true
  delivered : outcome.success = true → "M Reboot" ∈ events → rebootOwed device.history = false
  asked : outcome.rebootRequested = true →
    rebootAsked device.history = true ∧ rebootSettled device.history = false

section Round

variable {isNew : Prop} {setup : Setup σ} {mayFail : SystemCall → Prop} {α : Type}
  {config : DaemonConfig} {events : List String} {outcome : SessionOutcome}
  {device device' : DeviceState}

theorem PastSession.onward (h : PastSession isNew events outcome device)
    (honward : Onward device device') : PastSession isNew events outcome device' := by
  have hsaid := honward.said
  refine ⟨h.kept.onward honward, ?_, fun hsuccess => ?_, fun hsuccess hmember => ?_,
    fun hrequested => ⟨?_, ?_⟩⟩
  · exact (congrArg Said.before hsaid).trans h.inLife
  · exact (congrArg Said.succeeded hsaid).trans (h.succeeded hsuccess)
  · exact (congrArg Said.owed hsaid).trans (h.delivered hsuccess hmember)
  · exact (congrArg Said.asked hsaid).trans (h.asked hrequested).1
  · exact (congrArg Said.settled hsaid).trans (h.asked hrequested).2

/-- Storing `bootstrap_done` or clearing `pending_reboot_event` leaves it so. -/
theorem PastSession.persisted {write : FlagWrite} {ok : Bool × Bool}
    (h : PastSession isNew events outcome device) (hwrite : write ≠ .setPendingReboot)
    (hkept : Kept isNew device')
    (hhistory : device'.history = .entry (.persisted write ok) :: device.history) :
    PastSession isNew events outcome device' := by
  refine ⟨hkept, ?_, fun hsuccess => ?_, fun hsuccess hmember => ?_,
    fun hrequested => ⟨?_, ?_⟩⟩
  · rw [hhistory]
    exact h.inLife
  · rw [hhistory]
    exact h.succeeded hsuccess
  · rw [hhistory, rebootOwed_persisted, h.delivered hsuccess hmember]
    simp [hwrite]
  · rw [hhistory]
    exact (h.asked hrequested).1
  · rw [hhistory, rebootSettled_persisted, (h.asked hrequested).1, (h.asked hrequested).2]
    simp

theorem keeping_recordBootstrap {post : DaemonConfig → DeviceState → Prop}
    (h : PastSession isNew events outcome device)
    (hpost : ∀ config' device', PastSession isNew events outcome device' →
      post config' device') :
    keeping isNew setup mayFail (recordBootstrap outcome config) post device := by
  unfold recordBootstrap
  split
  · rename_i hneeded
    have hsuccess := h.succeeded (Bool.and_eq_true_iff.mp hneeded).1
    refine cwp_bind.mpr (keeping_persist h.kept hsuccess fun ok device' hkept hhistory => ?_)
    exact ⟨hkept, hpost _ _ (h.persisted (by decide) hkept hhistory)⟩
  · exact ⟨h.kept, hpost _ _ h⟩

theorem keeping_clearPendingReboot {post : DaemonConfig → DeviceState → Prop}
    (h : PastSession isNew events outcome device)
    (hpost : ∀ config' device', PastSession isNew events outcome device' →
      post config' device') :
    keeping isNew setup mayFail (clearPendingReboot outcome events config) post device := by
  unfold clearPendingReboot
  split
  · rename_i hneeded
    simp only [Bool.and_eq_true, decide_eq_true_eq] at hneeded
    obtain ⟨⟨hsuccess, -⟩, hmember⟩ := hneeded
    refine cwp_bind.mpr (keeping_persist h.kept (h.delivered hsuccess hmember)
      fun ok device' hkept hhistory => ?_)
    exact ⟨hkept, hpost _ _ (h.persisted (by decide) hkept hhistory)⟩
  · exact ⟨h.kept, hpost _ _ h⟩

/-- Between two rounds, and while nothing is known of a session. -/
def InLife (isNew : Prop) (device : DeviceState) : Prop :=
  Kept isNew device ∧ beforeThisLife device.history = none

theorem InLife.onward (h : InLife isNew device) (honward : Onward device device') :
    InLife isNew device' :=
  ⟨h.1.onward honward, (congrArg Said.before honward.said).trans h.2⟩

theorem keeping_inLife {program : DaemonProg α} {post : α → DeviceState → Prop}
    (hcalls : program.Calls AddsPlain) (h : InLife isNew device)
    (hpost : ∀ value device', InLife isNew device' → post value device') :
    keeping isNew setup mayFail program post device :=
  keeping_of_calls hcalls h.1 fun value device' _ honward => hpost value device' (h.onward honward)

theorem calls_refreshConfig_plain (initial : Bool) (previous : DaemonConfig) :
    (refreshConfig initial previous).Calls AddsPlain :=
  calls_refreshConfig (fun _ _ => trivial) trivial (fun _ => trivial) (fun _ => trivial) _ _

theorem keeping_runReboot {post : DaemonConfig × Bool → DeviceState → Prop}
    (h : PastSession isNew events outcome device)
    (hpost : ∀ result device', InLife isNew device' → post result device') :
    keeping isNew setup mayFail (runReboot outcome config) post device := by
  unfold runReboot
  cases hrequested : outcome.rebootRequested with
  | false => exact ⟨h.kept, hpost _ _ ⟨h.kept, h.inLife⟩⟩
  | true =>
      simp only [Bool.not_true, Bool.false_eq_true, if_false]
      refine cwp_bind.mpr (keeping_persist h.kept (h.asked hrequested).2
        fun ok device₁ hkept hhistory => ?_)
      have hinLife : InLife isNew device₁ := ⟨hkept, by rw [hhistory]; exact h.inLife⟩
      refine cwp_bind.mpr (keeping_inLife (Prog.calls_ask trivial) hinLife
        fun scheduled device₂ hinLife => ?_)
      refine cwp_bind.mpr (keeping_inLife (calls_log (fun _ _ => trivial) _ _) hinLife
        fun _ device₃ hinLife => ?_)
      split
      · refine cwp_bind.mpr (keeping_inLife (calls_refreshConfig_plain _ _) hinLife
          fun read device₄ hinLife => ?_)
        refine cwp_bind.mpr (keeping_inLife (Prog.calls_ask trivial) hinLife
          fun _ device₅ hinLife => ?_)
        exact ⟨hinLife.1, hpost _ _ hinLife⟩
      · exact ⟨hinLife.1, hpost _ _ hinLife⟩

theorem keeping_stop (h : InLife isNew device) :
    keeping isNew setup mayFail (stop config events) (fun _ => InLife isNew) device :=
  keeping_inLife (calls_stop (fun _ _ => trivial) trivial _ _) h fun _ _ h => h

theorem keeping_inform (h : InLife isNew device) :
    keeping isNew setup mayFail (inform config events) (fun _ => InLife isNew) device := by
  unfold inform
  refine cwp_bind.mpr (keeping_inLife (Prog.calls_ask trivial) h fun _ device₁ h => ?_)
  refine cwp_bind.mpr (keeping_session h.1 fun exchanges outcome device₂ hkept hhistory => ?_)
  -- what the next steps of `run` rely on, read off the entry of the session
  have hafter : PastSession isNew events outcome device₂ := by
    refine ⟨hkept, ?_, fun hsuccess => ?_, fun hsuccess hmember => ?_,
      fun hrequested => ⟨?_, ?_⟩⟩ <;> rw [hhistory]
    · exact h.2
    · exact Bool.or_eq_true_iff.mpr (Or.inl hsuccess)
    · simp [rebootOwed, hsuccess, hmember]
    · exact hrequested
    · simp [rebootSettled, hrequested]
  refine cwp_bind.mpr (keeping_of_calls (Prog.calls_ask trivial) hafter.kept
    fun _ device₃ _ honward => ?_)
  refine cwp_bind.mpr (keeping_recordBootstrap (hafter.onward honward)
    fun config₁ device₄ hafter => ?_)
  refine cwp_bind.mpr (keeping_clearPendingReboot hafter fun config₂ device₅ hafter => ?_)
  -- a download and its report add plain entries
  have hdownload : (runDownload outcome
      { url := config.acsUrl, username := config.acsUsername, password := config.acsPassword
        caFile := config.caFile, insecureTls := config.insecureTls } config₂).Calls AddsPlain :=
    calls_runDownload (fun _ _ => trivial) trivial (fun _ => trivial) (fun _ => trivial)
      (fun _ _ => trivial) (fun _ _ => trivial) _ _ _
  refine cwp_bind.mpr (keeping_of_calls hdownload hafter.kept
    fun config₃ device₆ _ honward => ?_)
  refine cwp_bind.mpr (keeping_runReboot (hafter.onward honward) fun result device₇ h => ?_)
  obtain ⟨config₄, mockRebooted⟩ := result
  dsimp only
  split
  · exact ⟨h.1, h⟩
  refine cwp_bind.mpr (keeping_inLife (Prog.calls_ask trivial) h fun reload device₈ h => ?_)
  refine cwp_bind.mpr (keeping_inLife (calls_refreshConfig_plain _ _) h fun read device₉ h => ?_)
  split
  · exact ⟨h.1, h⟩
  refine cwp_bind.mpr (keeping_inLife (Prog.calls_ask trivial) h fun stopped device h => ?_)
  split
  · exact keeping_stop h
  · exact ⟨h.1, h⟩

theorem keeping_round (daemon : Daemon) (h : InLife isNew device) :
    keeping isNew setup mayFail daemon.round (fun _ => InLife isNew) device := by
  obtain ⟨config, events, place⟩ := daemon
  cases place with
  | head =>
      refine cwp_bind.mpr (keeping_inLife (Prog.calls_ask trivial) h fun stopped device₁ h => ?_)
      split
      · exact keeping_stop h
      split
      · split
        · exact cwp_bind.mpr (keeping_inLife (calls_log (fun _ _ => trivial) _ _) h
            fun _ device₂ h => ⟨h.1, h⟩)
        · exact ⟨h.1, h⟩
      · exact keeping_inform h
  | waiting =>
      have hwait : (waitForNextInform config).Calls AddsPlain :=
        calls_waitForNextInform (fun _ _ => trivial) trivial (fun _ => trivial) (fun _ => trivial)
          trivial (fun _ => trivial) (fun _ => trivial) _
      refine cwp_bind.mpr (keeping_inLife hwait h fun woken device₁ h => ?_)
      obtain ⟨wake, config'⟩ := woken
      cases wake with
      | none => exact ⟨h.1, h⟩
      | some reason =>
          cases reason with
          | stop => exact keeping_stop h
          | _ => exact ⟨h.1, h⟩
  -- this list is not the first one of the process
  | overwrite cause =>
      have hnone : ∀ before, beforeThisLife device.history ≠ some before := by
        rw [h.2]
        exact nofun
      refine cwp_bind.mpr (keeping_assigned h.1 ?_ fun device₁ hkept hinLife => ?_)
      · exact ⟨fun before hbefore => absurd hbefore (hnone before),
          fun _ before hbefore => absurd hbefore (hnone before)⟩
      · exact ⟨hkept, hkept, hinLife⟩
  | stopped code => exact ⟨h.1, h⟩

theorem keeping_rounds (n : Nat) (daemon : Daemon) (h : InLife isNew device) :
    keeping isNew setup mayFail (rounds n daemon) (fun _ => InLife isNew) device := by
  induction n generalizing daemon device with
  | zero => exact ⟨h.1, h⟩
  | succ n ih =>
      exact cwp_bind.mpr (cwp_mono (keeping_round daemon h) fun daemon' device' h => ih daemon' h)

end Round

/-! ## A life -/

/-- The next process finds the flags as the last one left them. -/
theorem Kept.restarted {isNew : Prop} {device device' : DeviceState} (h : Kept isNew device)
    (hrestart : Restarted device device') : Kept isNew device' := by
  obtain ⟨⟨store, hkept, hstore⟩, hhistory⟩ := hrestart
  have hholds : ∀ {P key}, flagKey key → Holds P key device.store → Holds P key device'.store := by
    intro P key hkey hholds
    rcases hstore with hsame | hcut
    · rw [hsame]
      exact hkept.holds hkey hholds
    · rw [hcut]
      exact (hkept.holds hkey hholds).powerCut
  have hreboot : flagKey rebootKey := Or.inr rfl
  have hbootstrap : flagKey bootstrapKey := Or.inl rfl
  refine ⟨?_, ?_, ?_, ?_, ?_, ?_⟩ <;> rw [hhistory]
  · exact fun howed => hholds hreboot (h.owed howed)
  · exact fun hsettled => hholds hreboot (h.settled hsettled)
  · exact fun hstored => hholds hbootstrap (h.stored hstored)
  · exact fun hnew hnever => hholds hbootstrap (h.unset hnew hnever)
  · exact ⟨trivial, h.rebootAnnounced⟩
  · exact fun hnew => ⟨trivial, h.bootstrapAnnounced hnew⟩

section Start

variable {isNew : Prop} {setup : Setup σ} {mayFail : SystemCall → Prop}

/-- The first list says what the flags say. -/
theorem announced_initialEvents {device : DeviceState} {config : DaemonConfig}
    {earlier before : List LifeEntry} (h : Kept isNew device)
    (hbootstrapDone : config.bootstrapDone =
      UciAdapter.boolOf (captured device.store bootstrapKey) false)
    (hpending : config.pendingRebootEvent =
      UciAdapter.boolOf (captured device.store rebootKey) false)
    (hbefore : beforeThisLife earlier = some before)
    (hsame : { saidOf before with before := some before } = saidOf device.history) :
    RebootAnnounced (.entry (.assigned (initialEvents config))) earlier ∧
      (isNew → BootstrapAnnounced (.entry (.assigned (initialEvents config))) earlier) := by
  have hset : UciAdapter.boolOf ((some "1").map printed) false = true := by decide
  have hcleared : UciAdapter.boolOf ((some "0").map printed) false = false := by decide
  -- the two events stand for the two flags that were read
  have hmember : "M Reboot" ∈ initialEvents config ↔ config.pendingRebootEvent = true := by
    cases hdone : config.bootstrapDone <;> cases hreboot : config.pendingRebootEvent <;>
      simp [initialEvents, hdone, hreboot]
  have hbootstrap : "0 BOOTSTRAP" ∈ initialEvents config ↔ config.bootstrapDone = false := by
    cases hdone : config.bootstrapDone <;> cases hreboot : config.pendingRebootEvent <;>
      simp [initialEvents, hdone, hreboot]
  refine ⟨fun found hfound => ⟨fun howed => ?_, fun hsettled => ?_⟩,
    fun hnew found hfound => ⟨fun hnever => ?_, fun hstored => ?_⟩⟩
  -- what is owed, settled or stored says what the store holds, and that was read
  all_goals obtain rfl : before = found := Option.some.inj (hbefore.symm.trans hfound)
  · have hdurable := h.owed ((congrArg Said.owed hsame).symm.trans howed)
    rw [hmember, hpending, captured, hdurable.2]
    exact hset
  · have hdurable := h.settled ((congrArg Said.settled hsame).symm.trans hsettled)
    rw [hmember, hpending, captured, hdurable.2, hcleared]
    exact Bool.false_ne_true
  · have hunset := h.unset hnew ((congrArg Said.succeeded hsame).symm.trans hnever)
    rw [hbootstrap, hbootstrapDone]
    exact hunset.2
  · have hdurable := h.stored ((congrArg Said.stored hsame).symm.trans hstored)
    rw [hbootstrap, hbootstrapDone, captured, hdurable.2, hset]
    exact Bool.noConfusion

theorem keeping_start (hreads : ∀ phase key, ¬mayFail (.uciGet phase key))
    {device : DeviceState} {before : List LifeEntry} (h : Kept isNew device)
    (hhistory : device.history = .started :: before) :
    keeping isNew setup mayFail start (fun daemon device' => Kept isNew device' ∧
      (beforeThisLife device'.history = none ∨ ∃ code, daemon.place = .stopped code)) device := by
  -- between the start of the process and its first list nothing is said
  have hsame : { saidOf before with before := some before } = saidOf device.history := by
    rw [hhistory]
    rfl
  have hplain : AddsPlain (.readConfig {}) := trivial
  unfold start
  rw [refreshConfig_eq fun _ => rfl]
  refine cwp_bind.mpr (cwp_bind.mpr ⟨h, fun device₁ htorn => ?_, fun answer device₁ hcall => ?_⟩)
  · exact h.onward (onward_of_torn hplain htorn)
  have honward : Onward device device₁ := onward_of_addsPlain hplain hcall
  have hkept := h.onward honward
  refine ⟨hkept, ?_⟩
  cases answer with
  | none => exact ⟨hkept, hkept, hkept, Or.inr ⟨1, rfl⟩⟩
  | some answer =>
      obtain ⟨read, level⟩ := answer
      -- the flags that the first list is made of are those of the store
      obtain ⟨hdone, hpending⟩ := flags_of_readConfig hreads hcall.1
      have hreport : (refreshReport true {} read).Calls AddsPlain :=
        calls_refreshReport (fun _ _ => trivial) trivial (fun _ => trivial) read
      refine cwp_bind.mpr (keeping_of_calls hreport hkept fun _ device₂ hkept honward₂ => ?_)
      refine ⟨hkept, ?_⟩
      simp only [Bool.true_or, Bool.not_true, Bool.false_eq_true, if_false]
      have hrestart : (restartConnectionRequestServer (keptUrl {} read)).Calls AddsPlain :=
        calls_restartConnectionRequestServer (fun _ _ => trivial) trivial (fun _ => trivial) _
      refine cwp_bind.mpr (keeping_of_calls hrestart hkept fun _ device₃ hkept honward₃ => ?_)
      refine cwp_bind.mpr (keeping_of_calls (Prog.calls_ask trivial) hkept
        fun _ device₄ hkept honward₄ => ?_)
      -- the calls in between add nothing that the history says
      have hsaid := (((honward.trans honward₂).trans honward₃).trans honward₄).said
      have hbefore : beforeThisLife device₄.history = some before := by
        refine (congrArg Said.before hsaid).trans ?_
        rw [hhistory]
        rfl
      have hflags : (keptUrl {} read).bootstrapDone = read.bootstrapDone ∧
          (keptUrl {} read).pendingRebootEvent = read.pendingRebootEvent := by
        unfold keptUrl
        split <;> exact ⟨rfl, rfl⟩
      refine cwp_bind.mpr (keeping_assigned hkept (announced_initialEvents h
        (hflags.1.trans hdone) (hflags.2.trans hpending) hbefore hsame)
        fun device₅ hkept hinLife => ?_)
      exact ⟨hkept, hkept, Or.inl hinLife⟩

/-- A daemon that has stopped does nothing. -/
theorem rounds_stopped (n : Nat) (daemon : Daemon) {code : Nat}
    (hstopped : daemon.place = .stopped code) : rounds n daemon = return daemon := by
  obtain ⟨config, events, place⟩ := daemon
  obtain rfl : place = .stopped code := hstopped
  induction n with
  | zero => rfl
  | succ n ih => exact ih

theorem keeping_life (hreads : ∀ phase key, ¬mayFail (.uciGet phase key))
    {device : DeviceState} {before : List LifeEntry} (h : Kept isNew device)
    (hhistory : device.history = .started :: before) (n : Nat) :
    keeping isNew setup mayFail (life n) (fun _ _ => True) device := by
  refine cwp_bind.mpr (cwp_mono (keeping_start hreads h hhistory) ?_)
  rintro daemon device' ⟨hkept, hinLife | ⟨code, hstopped⟩⟩
  · exact cwp_mono (keeping_rounds n daemon ⟨hkept, hinLife⟩) fun _ _ _ => trivial
  · rw [rounds_stopped n daemon hstopped]
    exact ⟨hkept, trivial⟩

end Start

/-! ## The result -/

theorem kept_of_lived {setup : Setup σ} {mayFail : SystemCall → Prop}
    (hreads : ∀ phase key, ¬mayFail (.uciGet phase key)) {initial : Store} {device : DeviceState}
    (hlived : Lived setup mayFail initial device) : Kept (Unset bootstrapKey initial) device := by
  refine Lives.invariant hlived ⟨nofun, nofun, nofun, fun hnew _ => hnew, trivial, fun _ => trivial⟩
    fun n device device' hkept hrestart => ?_
  exact keeping_life hreads (hkept.restarted hrestart) hrestart.2 n

/-- However the processes end, a reboot that was stored is named by the first list of
every process until a session has delivered its event, and not again once the flag was
cleared.  Until then it is on the disk. -/
theorem rebootAnnounced_of_lived {setup : Setup σ} {mayFail : SystemCall → Prop}
    (hreads : ∀ phase key, ¬mayFail (.uciGet phase key)) {initial : Store} {device : DeviceState}
    (hlived : Lived setup mayFail initial device) :
    Always RebootAnnounced device.history ∧
      (rebootOwed device.history = true → device.store.committed rebootKey = some "1") :=
  ⟨(kept_of_lived hreads hlived).rebootAnnounced,
    fun howed => ((kept_of_lived hreads hlived).owed howed).1⟩

/-- However the processes end, a new device says so in the first list of every process
until a session was a success, and not again once that is stored. -/
theorem bootstrapAnnounced_of_lived {setup : Setup σ} {mayFail : SystemCall → Prop}
    (hreads : ∀ phase key, ¬mayFail (.uciGet phase key)) {initial : Store}
    (hnew : Unset bootstrapKey initial) {device : DeviceState}
    (hlived : Lived setup mayFail initial device) :
    Always BootstrapAnnounced device.history :=
  (kept_of_lived hreads hlived).bootstrapAnnounced hnew

/-! ## A device that is rebooted -/

/-- Its ACS asks for a reboot. -/
def rebootTask : List HttpResponse :=
  [{ status := 200, body := CwmpSession.informResponseXml },
   { status := 200, body := CwmpSession.rebootXml }, { status := 204 }]

def rebootSetup : Setup (LuaTransformer × Store) :=
  ⟨CwmpSession.uciPlatform, CwmpSession.sampleReader, true, false⟩

/-- The answers to its daemon, on a store that nobody else changes. -/
def lifeHandler : (c : DaemonCall) → DeviceState → daemonCalls.Answer c × DeviceState
  | .readConfig target, device =>
      let read := configFrom device.store rebootSetup.allowMockReboot target
      (some (read, logLevelFrom device.store),
        { device with history := .entry (.reading read) :: device.history })
  | .session _ events, device =>
      let result := (CwmpSession.run rebootSetup.platform rebootSetup.xmlRead events rebootTask
        ⟨CwmpSession.freshSession.platformState, 1, .idle⟩).1
      (result.1, { device with
        history := .entry (.session events result.2 result.1) :: device.history })
  | .persist write, device =>
      let result := write.persist.run uciHandler device.store
      (result.1, ⟨result.2, .entry (.persisted write result.1) :: device.history⟩)
  | .download request _, device =>
      let result : TransferResult := { commandKey := request.commandKey }
      (result, { device with
        history := .entry (.downloaded request result) :: device.history })
  | .transferComplete _ result, device =>
      let reported := (CwmpSession.runTransferComplete rebootSetup.platform rebootSetup.xmlRead
        result [] ⟨CwmpSession.freshSession.platformState, 1, .idle⟩).1
      (reported.1, { device with
        history := .entry (.transferReported result reported.2 reported.1) :: device.history })
  | .reboot _ commandKey, device =>
      (true, { device with history := .entry (.rebooted commandKey true) :: device.history })
  | .wait _, device => (true, { device with history := .entry .waited :: device.history })
  | .assigned events, device =>
      ((), { device with history := .entry (.assigned events) :: device.history })
  | .stopRequested, device => (false, device)
  | .take _, device => (false, device)
  | .stopServer, device => ((), device)
  | .startServer _, device => (true, device)
  | .setState _, device => ((), device)
  | .sleep _, device => ((), device)
  | .log _ _, device => ((), device)

/-- What UCI does alone, it may do amid the clients. -/
theorem exec_amidClients {mayFail : SystemCall → Prop} {α : Type} {program : SystemProg α}
    {store store' : Store} {value : α} (hexec : Exec (uciEnv mayFail) program store value store') :
    Exec (amidClients mayFail) program store value store' :=
  hexec.map (f := id) fun _ store _ _ hcall => ⟨store, .refl store, hcall⟩

theorem lifeHandler_mem (mayFail : SystemCall → Prop) (c : DaemonCall) (device : DeviceState) :
    deviceEnv rebootSetup mayFail c device (lifeHandler c device).1 (lifeHandler c device).2 := by
  -- the handler answers as the surroundings may; nobody else is at work there
  cases c with
  | readConfig target =>
      have hexec := exec_run (uciHandler_mem_uciEnv mayFail)
        (readConfig ⟨some plainEngine.toEngine, ""⟩ false target) device.store
      rw [run_readConfig] at hexec
      have hon : LuaTransformer.OnUci ⟨some plainEngine.toEngine, ""⟩ := by
        rintro _ ⟨⟩
        exact ⟨plainEngine.shipped, plainEngine.notMock⟩
      refine ⟨⟨⟨some plainEngine.toEngine, ""⟩, rfl, hon, exec_amidClients hexec⟩,
        _, ⟨⟨⟨some plainEngine.toEngine, ""⟩, rfl, ?_⟩, rfl⟩, rfl⟩
      exact hexec.map (f := fun _ => ()) fun _ _ _ _ _ => trivial
  | persist write =>
      have hexec := exec_run (uciHandler_mem_uciEnv mayFail) write.persist device.store
      refine ⟨exec_amidClients hexec, _, ⟨?_, rfl⟩, rfl⟩
      exact hexec.map (f := fun _ => ()) fun _ _ _ _ _ => trivial
  | session =>
      exact ⟨.refl _, _, ⟨CwmpSession.freshSession.platformState, rebootTask, _, rfl, rfl⟩, rfl⟩
  | download => exact ⟨.refl _, _, ⟨rfl, rfl⟩, rfl⟩
  | transferComplete =>
      exact ⟨.refl _, _, ⟨CwmpSession.freshSession.platformState, [], _, rfl, rfl⟩, rfl⟩
  | reboot => exact ⟨.refl _, _, ⟨fun _ => rfl, rfl⟩, rfl⟩
  | wait => exact ⟨.refl _, [.waited], rfl, rfl⟩
  | assigned => exact ⟨.refl _, _, rfl, rfl⟩
  | stopRequested | take | stopServer | startServer | setState | sleep | log =>
      exact ⟨.refl _, [], rfl, rfl⟩

/-- The power is cut, and the next process makes so many calls. -/
def nextLife (calls : Nat) (device : DeviceState) : DeviceState :=
  (Daemon.life 1).after lifeHandler calls
    ⟨device.store.powerCut, .started :: device.history⟩

theorem lived_nextLife {mayFail : SystemCall → Prop} {initial : Store} {device : DeviceState}
    (hlived : Lived rebootSetup mayFail initial device) (calls : Nat) :
    Lived rebootSetup mayFail initial (nextLife calls device) :=
  .life hlived ⟨⟨_, .refl _, Or.inr rfl⟩, rfl⟩ (interrupted_after (lifeHandler_mem mayFail) _ _ _)

/-- The power goes after the reboot was stored, and the next process names it. -/
theorem rebootedDevice_announced :
    let rebooted := nextLife 16 ⟨deviceStore false, []⟩
    let device := nextLife 10 rebooted
    rebootOwed rebooted.history = true ∧
      device.history.head? = some (.entry (.assigned ["1 BOOT", "M Reboot"])) ∧
      Always RebootAnnounced device.history ∧
      (rebootOwed device.history = true → device.store.committed rebootKey = some "1") := by
  intro rebooted device
  have hlived : Lived rebootSetup (fun _ => False) (deviceStore false) device :=
    lived_nextLife (lived_nextLife .new 16) 10
  exact ⟨by decide +kernel, by decide +kernel, rebootAnnounced_of_lived (fun _ _ => id) hlived⟩

/-- The device is not new any more once `bootstrap_done` is stored. -/
theorem rebootedDevice_bootstrapAnnounced :
    let started := nextLife 16 ⟨deviceStore false, []⟩
    bootstrapStored started.history = true ∧
      Always BootstrapAnnounced (nextLife 10 started).history := by
  intro started
  have hnew : Unset bootstrapKey (deviceStore false) := ⟨by decide, by decide⟩
  have hlived : Lived rebootSetup (fun _ => False) (deviceStore false) (nextLife 10 started) :=
    lived_nextLife (lived_nextLife .new 16) 10
  exact ⟨by decide +kernel, bootstrapAnnounced_of_lived (fun _ _ => id) hnew hlived⟩

end Tr069d
