import Tr069d.Daemon.History

/-!
# What one round of the loop does

`Turn` lists what a round can do to the daemon and what it adds to the history.
Every invariant of the runs is derived from it (`DaemonRun.invariant`).

* `ends_refreshConfig`, `ends_runReboot` and `ends_inform` are the parts of a round, each
  with the entries that it adds, and `ends_round` puts them together.
* `followUp` is what a session leaves in the history up to the last reading; most
  properties of the history do not look at it (`isAside_followUp`).

A round that opens a session ends at the overwrite of the events, a round that waits
ends with the wait, so that both ends are states of a run.
-/

namespace Tr069d

open Effects

variable {σ : Type} {setup : Setup σ}

namespace Daemon

/-! ## The calls -/

section Calls

variable {α : Type} {history : List Entry}

/-- What holds after a program, whatever the surroundings answer. -/
abbrev ends (setup : Setup σ) (program : DaemonProg α) (post : α → List Entry → Prop)
    (history : List Entry) : Prop :=
  wp (historyEnv setup) (fun _ => True) program post history

theorem ends_ask_iff {c : DaemonCall} {post : daemonCalls.Answer c → List Entry → Prop} :
    ends setup (Prog.ask c) post history ↔
      ∀ answer entries, Recorded setup c answer entries → post answer (entries ++ history) := by
  constructor
  · intro h answer entries hrecorded
    exact h.2 answer _ ⟨entries, hrecorded, rfl⟩
  · intro h
    refine ⟨trivial, ?_⟩
    rintro answer _ ⟨entries, hrecorded, rfl⟩
    exact h answer entries hrecorded

/-- A call that leaves no entry. -/
theorem ends_quiet_iff {c : DaemonCall} {post : daemonCalls.Answer c → List Entry → Prop}
    (hquiet : ∀ answer entries, Recorded setup c answer entries ↔ entries = []) :
    ends setup (Prog.ask c) post history ↔ ∀ answer, post answer history := by
  rw [ends_ask_iff]
  constructor
  · intro h answer
    exact h answer [] ((hquiet answer []).mpr rfl)
  · intro h answer entries hrecorded
    rw [(hquiet answer entries).mp hrecorded]
    exact h answer

@[simp] theorem ends_log_iff {level : LogLevel} {message : String}
    {post : Unit → List Entry → Prop} :
    ends setup (log level message) post history ↔ post () history :=
  (ends_quiet_iff fun _ _ => Iff.rfl).trans ⟨fun h => h (), fun h _ => h⟩

@[simp] theorem ends_stopServer_iff {post : Unit → List Entry → Prop} :
    ends setup stopServer post history ↔ post () history :=
  (ends_quiet_iff fun _ _ => Iff.rfl).trans ⟨fun h => h (), fun h _ => h⟩

@[simp] theorem ends_startServer_iff {config : ConnectionRequestConfig}
    {post : Bool → List Entry → Prop} :
    ends setup (startServer config) post history ↔ ∀ answer, post answer history :=
  ends_quiet_iff fun _ _ => Iff.rfl

@[simp] theorem ends_setState_iff {state : String} {post : Unit → List Entry → Prop} :
    ends setup (setState state) post history ↔ post () history :=
  (ends_quiet_iff fun _ _ => Iff.rfl).trans ⟨fun h => h (), fun h _ => h⟩

@[simp] theorem ends_sleep_iff {seconds : Nat} {post : Unit → List Entry → Prop} :
    ends setup (sleep seconds) post history ↔ post () history :=
  (ends_quiet_iff fun _ _ => Iff.rfl).trans ⟨fun h => h (), fun h _ => h⟩

@[simp] theorem ends_stopRequested_iff {post : Bool → List Entry → Prop} :
    ends setup stopRequested post history ↔ ∀ answer, post answer history :=
  ends_quiet_iff fun _ _ => Iff.rfl

@[simp] theorem ends_take_iff {request : Request} {post : Bool → List Entry → Prop} :
    ends setup (take request) post history ↔ ∀ answer, post answer history :=
  ends_quiet_iff fun _ _ => Iff.rfl

@[simp] theorem ends_assigned_iff {events : List String} {post : Unit → List Entry → Prop} :
    ends setup (assigned events) post history ↔ post () (.assigned events :: history) := by
  refine ends_ask_iff.trans ⟨fun h => h () _ rfl, ?_⟩
  rintro h answer _ rfl
  exact h

@[simp] theorem ends_wait_iff {timeout : Option Nat} {post : Bool → List Entry → Prop} :
    ends setup (wait timeout) post history ↔ ∀ answer, post answer (.waited :: history) := by
  refine ends_ask_iff.trans ⟨fun h answer => h answer _ rfl, ?_⟩
  rintro h answer _ rfl
  exact h answer

theorem ends_persist {write : FlagWrite} {post : Bool × Bool → List Entry → Prop}
    (h : ∀ ok, post ok (.persisted write ok :: history)) :
    ends setup (persist write) post history := by
  refine ends_ask_iff.mpr ?_
  rintro ok _ ⟨-, rfl⟩
  exact h ok

theorem ends_session {http : HttpConfig} {events : List String}
    {post : SessionOutcome → List Entry → Prop}
    (h : ∀ s script exchanges outcome,
      (CwmpSession.run setup.platform setup.xmlRead events script ⟨s, 1, .idle⟩).1 =
        (outcome, exchanges) → post outcome (.session events exchanges outcome :: history)) :
    ends setup (session http events) post history := by
  refine ends_ask_iff.mpr ?_
  rintro outcome _ ⟨s, script, exchanges, hrun, rfl⟩
  exact h s script exchanges outcome hrun

end Calls

/-! ## The configuration -/

section Refresh

variable {history : List Entry}

/-- With a transformer that is ready, `readConfig` does not fail. -/
theorem isSome_readConfig {transformer : LuaTransformer} (hready : transformer.ready = true)
    {allowMockReboot : Bool} {target : DaemonConfig} {answer : Option (DaemonConfig × LogLevel)}
    (hexec : Exec anything (Tr069d.readConfig transformer allowMockReboot target) () answer ()) :
    ∃ read, answer = some read := by
  have hany : ∀ {α : Type} {program : SystemProg α} {post : α → Unit → Prop} {s : Unit},
      (∀ value s, post value s) → wp anything (fun _ => True) program post s := by
    intro α program post s hpost
    induction program generalizing s with
    | done value => exact hpost value s
    | call c next ih => exact ⟨trivial, fun answer s' _ => ih answer⟩
  have hwp : wp anything (fun _ => True)
      (Tr069d.readConfig transformer allowMockReboot target)
      (fun answer _ => ∃ read, answer = some read) () := by
    unfold Tr069d.readConfig
    simp only [hready, Bool.not_true, Bool.false_eq_true, if_false, wp_bind]
    iterate 23 refine hany fun _ _ => ?_
    exact ⟨_, rfl⟩
  exact hexec.of_wp hwp

/-- `readConfig` succeeds exactly on a transformer that is ready. -/
theorem isSome_readConfig_eq {target : DaemonConfig}
    {answer : Option (DaemonConfig × LogLevel)} {entries : List Entry}
    (h : Recorded setup (.readConfig target) answer entries) : answer.isSome = setup.ready := by
  obtain ⟨⟨transformer, hready, hexec⟩, -⟩ := h
  cases hsetup : setup.ready with
  | false =>
      unfold Tr069d.readConfig at hexec
      rw [hready, hsetup] at hexec
      cases hexec with
      | call _ hrest =>
          obtain ⟨rfl, -⟩ := exec_done_iff.mp hrest
          rfl
  | true =>
      obtain ⟨read, rfl⟩ := isSome_readConfig (hready.trans hsetup) hexec
      rfl

@[simp] theorem ends_logConfigChange_iff {key before after : String}
    {post : Unit → List Entry → Prop} :
    ends setup (logConfigChange key before after) post history ↔ post () history := by
  unfold logConfigChange
  split <;> simp

@[simp] theorem ends_logConfigDiff_iff {before after : DaemonConfig}
    {post : Unit → List Entry → Prop} :
    ends setup (logConfigDiff before after) post history ↔ post () history := by
  simp [logConfigDiff]

@[simp] theorem ends_restartConnectionRequestServer_iff {config : DaemonConfig}
    {post : Unit → List Entry → Prop} :
    ends setup (restartConnectionRequestServer config) post history ↔ post () history := by
  unfold restartConnectionRequestServer
  split <;> simp

@[simp] theorem ends_logUpdate_iff {initial : Bool} {previous config : DaemonConfig}
    {post : Unit → List Entry → Prop} :
    ends setup (logUpdate initial previous config) post history ↔ post () history := by
  unfold logUpdate
  cases initial <;> simp

/-- The flags that the daemon keeps in UCI are the same. -/
structure SameFlags (config read : DaemonConfig) : Prop where
  bootstrapDone : config.bootstrapDone = read.bootstrapDone
  pendingRebootEvent : config.pendingRebootEvent = read.pendingRebootEvent

theorem ends_preserveUrl {initial : Bool} {previous read : DaemonConfig}
    {post : DaemonConfig → List Entry → Prop} (h : ∀ config, SameFlags config read →
      post config history) : ends setup (preserveUrl initial previous read) post history := by
  unfold preserveUrl
  split
  · simp only [wp_bind, ends_log_iff]
    exact h _ ⟨rfl, rfl⟩
  · exact h _ ⟨rfl, rfl⟩

/-- The configuration after a refresh has the flags that were read. -/
theorem ends_refreshConfig {initial : Bool} {previous : DaemonConfig}
    {post : DaemonConfig × Bool → List Entry → Prop}
    (hfailed : setup.ready = false → post (previous, false) history)
    (hread : setup.ready = true → ∀ read config changed, SameFlags config read →
      (initial = true → changed = true) → post (config, changed) (.reading read :: history)) :
    ends setup (refreshConfig initial previous) post history := by
  unfold refreshConfig
  rw [ends, wp_bind]
  refine ends_ask_iff.mpr ?_
  intro answer entries hrecorded
  have hsome := isSome_readConfig_eq hrecorded
  obtain ⟨-, rfl⟩ := hrecorded
  cases answer with
  | none => exact hfailed hsome.symm
  | some read =>
      obtain ⟨read, level⟩ := read
      have hsetup : setup.ready = true := hsome.symm
      simp only [wp_bind]
      refine ends_preserveUrl fun config hsame => ?_
      have hchanged : ∀ changed : Bool, initial = true → (initial || changed) = true := by
        rintro changed rfl
        rfl
      -- the server and the log leave no entry
      split <;> split <;>
        simp only [wp_bind, ends_restartConnectionRequestServer_iff, ends_logUpdate_iff,
          Prog.pure_eq_done, wp_done] <;>
        exact hread hsetup read config _ hsame (by simpa only [Bool.or_assoc] using hchanged _)

end Refresh

/-! ## After a session -/

/-- The entries of `recordBootstrap`. -/
def recordedEntries (outcome : SessionOutcome) (config : DaemonConfig) (ok : Bool × Bool) :
    List Entry :=
  if outcome.success && !config.bootstrapDone then [.persisted .bootstrapDone ok] else []

/-- The entries of `clearPendingReboot`. -/
def clearedEntries (outcome : SessionOutcome) (events : List String) (config : DaemonConfig)
    (ok : Bool × Bool) : List Entry :=
  if outcome.success && config.pendingRebootEvent && "M Reboot" ∈ events then
    [.persisted .clearPendingReboot ok]
  else []

/-- The entries of `runDownload`. -/
inductive TransferEntries (setup : Setup σ) : Option DownloadRequest → List Entry → Prop
  | none : TransferEntries setup none []
  | reported {request result exchanges ok read s script}
      (hrun : (CwmpSession.runTransferComplete setup.platform setup.xmlRead result script
        ⟨s, 1, .idle⟩).1 = (ok, exchanges)) :
      TransferEntries setup (some request)
        [.reading read, .transferReported result exchanges ok, .downloaded request result]

/-- The entries of `runReboot`, without the refresh after a mock reboot. -/
inductive RebootEntries (outcome : SessionOutcome) : List Entry → Prop
  | none (hnone : outcome.rebootRequested = false) : RebootEntries outcome []
  | executed {ok scheduled} (hrequested : outcome.rebootRequested = true) :
      RebootEntries outcome
        [.rebooted outcome.rebootCommandKey scheduled, .persisted .setPendingReboot ok]

section Session

variable {history : List Entry} {outcome : SessionOutcome} {config : DaemonConfig}

theorem ends_recordBootstrap {post : DaemonConfig → List Entry → Prop}
    (h : ∀ ok config', post config' (recordedEntries outcome config ok ++ history)) :
    ends setup (recordBootstrap outcome config) post history := by
  unfold recordBootstrap
  unfold recordedEntries at h
  split
  · rename_i hneeded
    simp only [hneeded, if_true] at h
    rw [ends, wp_bind]
    exact ends_persist fun ok => h ok _
  · rename_i hneeded
    simp only [hneeded] at h
    exact h (true, true) config

theorem ends_clearPendingReboot {events : List String} {post : DaemonConfig → List Entry → Prop}
    (h : ∀ ok config', post config' (clearedEntries outcome events config ok ++ history)) :
    ends setup (clearPendingReboot outcome events config) post history := by
  unfold clearPendingReboot
  unfold clearedEntries at h
  split
  · rename_i hneeded
    simp only [hneeded, if_true] at h
    rw [ends, wp_bind]
    exact ends_persist fun ok => h ok _
  · rename_i hneeded
    simp only [hneeded] at h
    exact h (true, true) config

theorem ends_runDownload (hready : setup.ready = true) {http : HttpConfig}
    {post : DaemonConfig → List Entry → Prop}
    (h : ∀ config' entries, TransferEntries setup outcome.download entries →
      post config' (entries ++ history)) :
    ends setup (runDownload outcome http config) post history := by
  unfold runDownload
  cases hdownload : outcome.download with
  | none =>
      rw [hdownload] at h
      exact h config [] .none
  | some request =>
      rw [hdownload] at h
      simp only [wp_bind]
      refine ends_ask_iff.mpr ?_
      rintro result _ ⟨-, rfl⟩
      refine ends_ask_iff.mpr ?_
      rintro ok _ ⟨s, script, exchanges, hrun, rfl⟩
      refine ends_refreshConfig (fun hfailed => ?_) fun _ read config' _ _ _ => ?_
      · rw [hready] at hfailed
        cases hfailed
      · exact h config' _ (.reported hrun)

theorem ends_runReboot (hready : setup.ready = true)
    {post : DaemonConfig × Bool → List Entry → Prop}
    (hreal : ∀ config' entries, RebootEntries outcome entries →
      post (config', false) (entries ++ history))
    (hmock : ∀ config' entries read, outcome.rebootRequested = true →
      RebootEntries outcome entries → SameFlags config' read →
      post (config', true) (.reading read :: entries ++ history)) :
    ends setup (runReboot outcome config) post history := by
  unfold runReboot
  cases hrequested : outcome.rebootRequested with
  | false => exact hreal config [] (.none hrequested)
  | true =>
      simp only [Bool.not_true, Bool.false_eq_true, if_false, wp_bind]
      refine ends_persist fun ok => ends_ask_iff.mpr ?_
      rintro scheduled _ ⟨-, rfl⟩
      -- whether the note could be stored is in the history, the reboot comes after it
      have hentries : RebootEntries outcome
          [.rebooted outcome.rebootCommandKey scheduled, .persisted .setPendingReboot ok] :=
        .executed hrequested
      refine ends_log_iff.mpr ?_
      split
      -- a mock reboot: the configuration is read again, and the process goes on
      · simp only [wp_bind]
        refine ends_refreshConfig (fun hfailed => ?_) fun _ read config' _ hsame _ => ?_
        · rw [hready] at hfailed
          cases hfailed
        · refine ends_sleep_iff.mpr ?_
          exact hmock config' _ read hrequested hentries hsame
      · exact hreal _ _ hentries

end Session

/-! ## A round -/

/-- Where a session and what follows it end. -/
def InformEnd (outcome : SessionOutcome) : Place → Prop
  | .overwrite .mockReboot => outcome.rebootRequested = true
  | .overwrite .configChanged => True
  | .waiting => True
  | .stopped code => code = 0
  | _ => False

/-- The entries of what follows a session, up to the last reading. -/
def followUp (read : DaemonConfig) (recorded cleared transfer reboot : List Entry) : List Entry :=
  .reading read :: (reboot ++ (transfer ++ (cleared ++ recorded)))

/-- Where a wait ends without a reading. -/
def WaitEnd : Place → Prop
  | .overwrite (.woke _) => True
  | .waiting => True
  | .stopped code => code = 0
  | _ => False

/-- What a round can do. -/
inductive Turn (setup : Setup σ) : Daemon → List Entry → Daemon → List Entry → Prop
  | stop {config events history} :
      Turn setup ⟨config, events, .head⟩ history ⟨config, events, .stopped 0⟩ history
  | idle {config events history} (hidle : active config = false) :
      Turn setup ⟨config, events, .head⟩ history ⟨config, events, .waiting⟩ history
  | inform {config events history s script exchanges outcome okRecorded okCleared between transfer
      reboot read config' place}
      (hrun : (CwmpSession.run setup.platform setup.xmlRead events script ⟨s, 1, .idle⟩).1 =
        (outcome, exchanges))
      (htransfer : TransferEntries setup outcome.download transfer)
      (hreboot : RebootEntries outcome reboot)
      (hsame : SameFlags config' read) (hplace : InformEnd outcome place) :
      Turn setup ⟨config, events, .head⟩ history ⟨config', events, place⟩
        (followUp read (recordedEntries outcome config okRecorded)
          (clearedEntries outcome events between okCleared) transfer reboot ++
          .session events exchanges outcome :: history)
  | waited {config events history place} (hplace : WaitEnd place) :
      Turn setup ⟨config, events, .waiting⟩ history ⟨config, events, place⟩ (.waited :: history)
  | reloaded {config events history read config'} (hsame : SameFlags config' read) :
      Turn setup ⟨config, events, .waiting⟩ history
        ⟨config', events, .overwrite (.woke .reload)⟩ (.reading read :: .waited :: history)
  | overwrite {config events history cause} :
      Turn setup ⟨config, events, .overwrite cause⟩ history ⟨config, cause.events, .head⟩
        (.assigned cause.events :: history)
  | stopped {config events history code} :
      Turn setup ⟨config, events, .stopped code⟩ history ⟨config, events, .stopped code⟩ history

section Round

variable {config : DaemonConfig} {events : List String} {history : List Entry}

theorem ends_stop {post : Daemon → List Entry → Prop}
    (h : post ⟨config, events, .stopped 0⟩ history) :
    ends setup (stop config events) post history := by
  simpa [stop] using h

theorem ends_inform (hready : setup.ready = true) :
    ends setup (inform config events)
      (fun daemon' history' => Turn setup ⟨config, events, .head⟩ history daemon' history')
      history := by
  unfold inform
  simp only [wp_bind, ends_setState_iff]
  refine ends_session fun s script exchanges outcome hrun => ?_
  refine ends_recordBootstrap fun okRecorded config₁ => ?_
  refine ends_clearPendingReboot fun okCleared config₂ => ?_
  refine ends_runDownload hready fun config₃ transfer htransfer => ?_
  -- all ends of the turn add the same entries, and differ in the place only
  have hfinish : ∀ {config' reboot read place}, RebootEntries outcome reboot →
      SameFlags config' read → InformEnd outcome place →
      Turn setup ⟨config, events, .head⟩ history ⟨config', events, place⟩
        (.reading read :: (reboot ++ (transfer ++
          (clearedEntries outcome events config₁ okCleared ++
            (recordedEntries outcome config okRecorded ++
              .session events exchanges outcome :: history))))) := by
    intro config' reboot read place hreboot hsame hplace
    have hturn : Turn setup ⟨config, events, .head⟩ history ⟨config', events, place⟩
        (followUp read (recordedEntries outcome config okRecorded)
          (clearedEntries outcome events config₁ okCleared) transfer reboot ++
          .session events exchanges outcome :: history) :=
      .inform hrun htransfer hreboot hsame hplace
    simpa only [followUp, List.cons_append, List.append_assoc] using hturn
  refine ends_runReboot hready (fun config₄ reboot hreboot => ?_)
    fun config' reboot read hrequested hreboot hsame => ?_
  -- no mock reboot: the reload that came during the session is taken
  · simp only [Bool.false_eq_true, if_false, wp_bind, ends_take_iff]
    intro reloadDuringSession
    refine ends_refreshConfig (fun hfailed => ?_) fun _ read config' changed hsame _ => ?_
    · rw [hready] at hfailed
      cases hfailed
    · split
      · exact hfinish hreboot hsame trivial
      · simp only [wp_bind, ends_stopRequested_iff]
        intro stopped
        cases stopped with
        | true => exact ends_stop (hfinish hreboot hsame rfl)
        | false => exact hfinish hreboot hsame trivial
  -- a mock reboot: the events are to be overwritten
  · exact hfinish hreboot hsame hrequested

theorem ends_wakeReason (hready : setup.ready = true) {signaled : Bool}
    {post : Option WakeReason × DaemonConfig → List Entry → Prop}
    (hwoke : ∀ wake, post (wake, config) history)
    (hreloaded : ∀ read config', SameFlags config' read →
      post (some .reload, config') (.reading read :: history)) :
    ends setup (wakeReason config signaled) post history := by
  unfold wakeReason
  simp only [wp_bind, ends_stopRequested_iff]
  -- the flags, in the order in which they are looked at
  rintro (_ | _)
  · simp only [Bool.false_eq_true, if_false, wp_bind, ends_take_iff]
    rintro (_ | _) <;> [skip; exact hwoke _]
    simp only [Bool.false_eq_true, if_false, wp_bind, ends_take_iff]
    rintro (_ | _) <;> [skip; exact hwoke _]
    simp only [Bool.false_eq_true, if_false, wp_bind, ends_take_iff]
    rintro (_ | _) <;> [skip; exact hwoke _]
    simp only [Bool.false_eq_true, if_false, wp_bind, ends_take_iff]
    rintro (_ | _)
    · cases signaled <;> exact hwoke _
    · simp only [if_true, wp_bind]
      refine ends_refreshConfig (fun hfailed => ?_) fun _ read config' _ hsame _ => ?_
      · rw [hready] at hfailed
        cases hfailed
      · exact hreloaded read config' hsame
  · exact hwoke _

theorem ends_waitForNextInform (hready : setup.ready = true)
    {post : Option WakeReason × DaemonConfig → List Entry → Prop}
    (hwoke : ∀ wake, post (wake, config) (.waited :: history))
    (hreloaded : ∀ read config', SameFlags config' read →
      post (some .reload, config') (.reading read :: .waited :: history)) :
    ends setup (waitForNextInform config) post history := by
  unfold waitForNextInform
  split <;> simp only [wp_bind, ends_wait_iff] <;> intro signaled <;>
    exact ends_wakeReason hready hwoke hreloaded

theorem ends_round (hready : setup.ready = true) (daemon : Daemon) :
    ends setup daemon.round (fun daemon' history' => Turn setup daemon history daemon' history')
      history := by
  obtain ⟨config, events, place⟩ := daemon
  cases place with
  | head =>
      simp only [round, wp_bind, ends_stopRequested_iff]
      intro stopped
      cases stopped with
      | true => exact ends_stop .stop
      | false =>
          rw [if_neg Bool.false_ne_true]
          cases hactive : active config with
          | true => exact ends_inform hready
          | false =>
              simp only [Bool.not_false, if_true]
              split
              · exact ends_log_iff.mpr (.idle hactive)
              · exact .idle hactive
  | waiting =>
      simp only [round, wp_bind]
      refine ends_waitForNextInform hready (fun wake => ?_) fun read config' hsame => ?_
      · cases wake with
        | none => exact .waited trivial
        | some reason =>
            cases reason with
            | stop => exact ends_stop (.waited rfl)
            | _ => exact .waited trivial
      · exact .reloaded hsame
  -- the assignment that the session or the wait left to do
  | overwrite cause =>
      simp only [round, wp_bind, ends_assigned_iff]
      exact .overwrite
  | stopped code => exact .stopped

/-- `start` either fails or goes to the head of the loop with its first list of events. -/
theorem ends_start {post : Daemon → List Entry → Prop}
    (hfailed : setup.ready = false → post ⟨{}, [], .stopped 1⟩ history)
    (hstarted : setup.ready = true → ∀ read config, SameFlags config read →
      post ⟨config, initialEvents config, .head⟩
        (.assigned (initialEvents config) :: .reading read :: history)) :
    ends setup start post history := by
  unfold start
  simp only [wp_bind]
  refine ends_refreshConfig hfailed fun hready read config changed hsame hchanged => ?_
  rw [hchanged rfl]
  simpa using hstarted hready read config hsame

end Round

/-! ## What follows a session -/

section FollowUp

variable {outcome : SessionOutcome} {transfer reboot history : List Entry} {read : DaemonConfig}

theorem isFollowUp_of_transfer {request : Option DownloadRequest}
    (htransfer : TransferEntries setup request transfer) :
    ∀ entry ∈ transfer, entry.isFollowUp = true := by
  cases htransfer with
  | none => simp
  | reported => simp [Entry.isFollowUp, Entry.isAside]

theorem isFollowUp_of_reboot (hreboot : RebootEntries outcome reboot) :
    ∀ entry ∈ reboot, entry.isFollowUp = true := by
  cases hreboot with
  | none => simp
  | executed => simp [Entry.isFollowUp, Entry.isAside]

theorem isAside_of_isFollowUp {entry : Entry} (h : entry.isFollowUp = true) :
    entry.isAside = true := by
  unfold Entry.isFollowUp at h
  split at h
  · cases h
  · cases h
  · exact h

/-- What follows a session is aside. -/
theorem isAside_followUp {events : List String} {config between : DaemonConfig}
    {okRecorded okCleared : Bool × Bool} {request : Option DownloadRequest}
    (htransfer : TransferEntries setup request transfer)
    (hreboot : RebootEntries outcome reboot) :
    ∀ entry ∈ followUp read (recordedEntries outcome config okRecorded)
      (clearedEntries outcome events between okCleared) transfer reboot,
      entry.isAside = true := by
  intro entry hentry
  simp only [followUp, List.mem_cons, List.mem_append] at hentry
  rcases hentry with rfl | hentry | hentry | hentry | hentry
  · rfl
  · exact isAside_of_isFollowUp (isFollowUp_of_reboot hreboot entry hentry)
  · exact isAside_of_isFollowUp (isFollowUp_of_transfer htransfer entry hentry)
  · unfold clearedEntries at hentry
    split at hentry
    · rw [List.mem_singleton.mp hentry]
      rfl
    · cases hentry
  · unfold recordedEntries at hentry
    split at hentry
    · rw [List.mem_singleton.mp hentry]
      rfl
    · cases hentry

/-- A property that follow-ups meet is one of the flags and of what came before. -/
theorem always_followUp_iff {P : Entry → List Entry → Prop}
    (hfollow : ∀ entry before, entry.isFollowUp = true → P entry before)
    {request : Option DownloadRequest} (htransfer : TransferEntries setup request transfer)
    (hreboot : RebootEntries outcome reboot) {recorded cleared : List Entry} :
    Always P (followUp read recorded cleared transfer reboot ++ history) ↔
      Always P (cleared ++ (recorded ++ history)) := by
  have hnewer : ∀ entry ∈ .reading read :: (reboot ++ transfer), ∀ before, P entry before := by
    intro entry hentry before
    refine hfollow entry before ?_
    rcases List.mem_cons.mp hentry with rfl | hentry
    · rfl
    · rcases List.mem_append.mp hentry with hentry | hentry
      · exact isFollowUp_of_reboot hreboot entry hentry
      · exact isFollowUp_of_transfer htransfer entry hentry
  have hsplit : followUp read recorded cleared transfer reboot ++ history =
      (.reading read :: (reboot ++ transfer)) ++ (cleared ++ (recorded ++ history)) := by
    simp [followUp]
  rw [hsplit, always_append_iff hnewer]

end FollowUp

end Daemon

/-! ## Runs -/

theorem exec_history {α : Type} {program : DaemonProg α} {world world' : World} {value : α}
    (hexec : Exec (daemonEnv setup) program world value world') :
    Exec (historyEnv setup) program world.history value world'.history :=
  hexec.map fun _ _ _ _ hcall => hcall.2

/-- What holds at the start and is kept by every round that meets the guard holds
in every run. -/
theorem DaemonRun.invariant {guard I : Daemon → List Entry → Prop}
    (hfailed : I ⟨{}, [], .stopped 1⟩ [])
    (hstarted : ∀ read config, Daemon.SameFlags config read →
      I ⟨config, Daemon.initialEvents config, .head⟩
        [.assigned (Daemon.initialEvents config), .reading read])
    (hturn : ∀ daemon history daemon' history', I daemon history → guard daemon history →
      Daemon.Turn setup daemon history daemon' history' → I daemon' history')
    {daemon : Daemon} {world : World} (hrun : DaemonRun setup guard daemon world) :
    I daemon world.history := by
  -- without a transformer the daemon stops at once and stays where it is
  have h : I daemon world.history ∧ (setup.ready = true ∨ daemon = ⟨{}, [], .stopped 1⟩) := by
    induction hrun with
    | start hexec =>
        have hstart : Daemon.ends setup Daemon.start
            (fun daemon history => I daemon history ∧
              (setup.ready = true ∨ daemon = ⟨{}, [], .stopped 1⟩)) [] := by
          refine Daemon.ends_start ?_ ?_
          · intro _
            exact ⟨hfailed, Or.inr rfl⟩
          · intro hready read config hsame
            exact ⟨hstarted read config hsame, Or.inl hready⟩
        exact (exec_history hexec).of_wp hstart
    | round _ hguard hexec ih =>
        obtain ⟨hinvariant, hready | rfl⟩ := ih
        · have hround := (exec_history hexec).of_wp (Daemon.ends_round hready _)
          exact ⟨hturn _ _ _ _ hinvariant hguard hround, Or.inl hready⟩
        · obtain ⟨rfl, rfl⟩ := exec_done_iff.mp hexec
          exact ⟨hinvariant, Or.inr rfl⟩
  exact h.1

end Tr069d
