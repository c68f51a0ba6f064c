import Tr069d.Daemon.Requests

/-!
# What requests lead to

Sessions that report a connection request are paid for by connection requests
(`connectionSessions_le`), and a stop that was asked for lets at most one more
session of `run` begin and ends the run within two rounds (`stop_heeded`).

* `Accounted` is the balance of a ledger: what was raised, what was taken for it and
  what was opened for that; `accounted_of_call` and `owing_of_passes` keep it.
* `stopped_of_two_rounds` is the end of a run in which a stop was asked for: the round
  in which it comes may still be in the middle of a session.
-/

namespace Tr069d

open Effects Daemon

/-! ## Connection requests -/

/-- A session with this event was opened. -/
def Posting.carries (event : String) : Posting → Bool
  | .opened events => events.contains event
  | _ => false

/-- A connection request was taken, and its session is still to come. -/
def owing (daemon : Daemon) : Nat :=
  match daemon.place with
  | .overwrite (.woke .connectionRequest) => 1
  | .head => if daemon.events.contains "6 CONNECTION REQUEST" then 1 else 0
  | _ => 0

/-- A request is taken only after it was raised, and once for all that raised it
until then. -/
def Accounted (request : Request) (ledger : List Posting) : Prop :=
  ledger.count (.taken request) + (if (flagsOf ledger).requested request then 1 else 0) ≤
    ledger.count (.raised (.request request))

section Accounts

variable {daemon daemon' : Daemon} {base posts ledger ledger' : List Posting}
  {request : Request}

theorem Accounted.raised (h : Accounted request ledger) (signal : Signal) :
    Accounted request (.raised signal :: ledger) := by
  have htaken : (Posting.raised signal :: ledger).count (.taken request) =
      ledger.count (.taken request) := List.count_cons_of_ne (by simp)
  unfold Accounted at h ⊢
  rw [htaken]
  by_cases hsame : signal = .request request
  · subst hsame
    rw [List.count_cons_self]
    split_ifs at h ⊢ <;> omega
  · have hraised : (Posting.raised signal :: ledger).count (.raised (.request request)) =
        ledger.count (.raised (.request request)) := List.count_cons_of_ne (by simpa using hsame)
    have hflags : (flagsOf (.raised signal :: ledger)).requested request =
        (flagsOf ledger).requested request := by
      cases signal with
      | stop => rfl
      | request other =>
          have hother : request ≠ other := by
            rintro rfl
            exact hsame rfl
          exact Flags.requested_after_of_ne _ hother
    rw [hraised, hflags]
    exact h

theorem Accounted.taken (h : Accounted request ledger) {other : Request}
    (hset : (flagsOf ledger).requested other = true) :
    Accounted request (.taken other :: ledger) := by
  have hraised : (Posting.taken other :: ledger).count (.raised (.request request)) =
      ledger.count (.raised (.request request)) := List.count_cons_of_ne (by simp)
  unfold Accounted at h ⊢
  rw [hraised]
  by_cases hsame : request = other
  · subst hsame
    have hlowered : (flagsOf (.taken request :: ledger)).requested request = false :=
      Flags.requested_lower_self _ _
    rw [hset, if_pos rfl] at h
    rw [hlowered, List.count_cons_self]
    exact h
  · have htaken : (Posting.taken other :: ledger).count (.taken request) =
        ledger.count (.taken request) := by
      apply List.count_cons_of_ne
      simpa using Ne.symm hsame
    have hflags : (flagsOf (.taken other :: ledger)).requested request =
        (flagsOf ledger).requested request := Flags.requested_lower_of_ne _ hsame
    rw [htaken, hflags]
    exact h

/-- Every call keeps the account. -/
theorem accounted_of_call {c : DaemonCall} {answer : daemonCalls.Answer c}
    (hcall : ledgerEnv c ledger answer ledger') (h : Accounted request ledger) :
    Accounted request ledger' := by
  obtain ⟨signals, hdecide, rfl⟩ := hcall
  have hsignals : Undisturbed (Accounted request) := fun signal _ h => h.raised signal
  replace h := hsignals.signals h signals
  cases c with
  | take other =>
      cases answer with
      | true => exact h.taken hdecide.symm
      | false => exact h
  | wait timeout | session http events =>
      simpa [Accounted, postingsOf, flagsOf, Posting.act] using h
  | _ => exact h

theorem accounted_of_exec {α : Type} {program : DaemonProg α} {value : α}
    (hexec : Exec ledgerEnv program ledger value ledger') (h : Accounted request ledger) :
    Accounted request ledger' := by
  induction hexec with
  | done => exact h
  | call hcall _ ih => exact ih (accounted_of_call hcall h)

theorem LedgerRun.accounted (hrun : LedgerRun daemon ledger) (request : Request) :
    Accounted request ledger := by
  induction hrun with
  | start hexec => exact accounted_of_exec hexec (Nat.le_refl 0)
  | round _ hexec ih => exact accounted_of_exec hexec ih

theorem owing_head (config : DaemonConfig) (events : List String) (cause : Cause) :
    owing ⟨config, cause.events, .head⟩ = owing ⟨config, events, .overwrite cause⟩ := by
  cases cause with
  | woke reason => cases reason <;> rfl
  | configChanged | mockReboot => rfl

theorem owing_afterInform {config : DaemonConfig} {events : List String} {place : Place}
    (h : AfterInform place) : owing ⟨config, events, place⟩ = 0 := by
  cases place with
  | head => exact h.elim
  | waiting | stopped => rfl
  | overwrite cause =>
      cases cause with
      | woke reason => exact absurd rfl (h reason)
      | configChanged | mockReboot => rfl

theorem owing_initialEvents (config : DaemonConfig) :
    owing ⟨config, initialEvents config, .head⟩ = 0 := by
  unfold owing initialEvents
  cases config.bootstrapDone <;> cases config.pendingRebootEvent <;> rfl

theorem isOwn_of_carries (event : String) (posting : Posting)
    (h : posting.carries event = true) : posting.isOwn = true := by
  cases posting with
  | raised => cases h
  | taken | woke | opened => rfl

theorem isOwn_of_taken (request : Request) (posting : Posting)
    (h : (posting == .taken request) = true) : posting.isOwn = true := by
  rw [beq_iff_eq] at h
  rw [h]
  rfl

/-- A round opens a session with the event only if that is owed. -/
theorem owing_of_passes {asked : Prop} (h : Passes asked daemon daemon' posts) :
    posts.countP (Posting.carries "6 CONNECTION REQUEST") + owing daemon' ≤
      posts.count (.taken .connection) + owing daemon := by
  cases h with
  | stopped => exact Nat.le_refl _
  | stop | idle | stopWaiting => exact Nat.zero_le _
  | @inform config events config' place posts hasked hplace hposts =>
      -- the list of events is overwritten before the next session
      rw [owing_afterInform hplace]
      rcases hposts with rfl | rfl
      · simp [Posting.carries, owing, List.countP_cons]
      · simp [Posting.carries, owing, List.countP_cons]
  | goOn hasked hplace =>
      rcases hplace with rfl | rfl
      · exact Nat.zero_le _
      · exact Nat.zero_le _
  | @woken config events config' request hasked =>
      cases request with
      | connection => exact Nat.le_refl 1
      | reload | reconnect | informNow => exact Nat.zero_le _
  | @overwrite config events cause =>
      rw [owing_head config events cause]
      exact Nat.le_refl _

theorem LedgerRun.connectionSessions (hrun : LedgerRun daemon ledger) :
    ledger.countP (Posting.carries "6 CONNECTION REQUEST") + owing daemon ≤
      ledger.count (.taken .connection) := by
  induction hrun with
  | @start daemon ledger hexec =>
      obtain ⟨hsince, hplace⟩ := hexec.of_wp (booking_start undisturbed_since (since_refl []))
      have hcarried := hsince.countP_eq (isOwn_of_carries "6 CONNECTION REQUEST")
      obtain ⟨config, events, place⟩ := daemon
      have howing : owing ⟨config, events, place⟩ = 0 := by
        rcases hplace with rfl | ⟨rfl, hevents⟩
        · rfl
        · replace hevents : events = initialEvents config := hevents
          rw [hevents]
          exact owing_initialEvents config
      rw [hcarried, howing]
      exact Nat.zero_le _
  | @round daemon base daemon' ledger hrun hexec ih =>
      obtain ⟨posts, hsince, hpasses, -⟩ := hexec.of_wp (booking_round daemon base)
      have hcarried := hsince.countP_eq (isOwn_of_carries "6 CONNECTION REQUEST")
      have htaken := hsince.countP_eq (isOwn_of_taken .connection)
      have hround := owing_of_passes hpasses
      rw [List.count_eq_countP] at ih hround ⊢
      rw [hcarried, htaken]
      omega

/-- In every run: there are no more sessions with `"6 CONNECTION REQUEST"` than
connection requests. -/
theorem connectionSessions_le (hrun : LedgerRun daemon ledger) :
    ledger.countP (Posting.carries "6 CONNECTION REQUEST") ≤
      ledger.count (.raised (.request .connection)) := by
  have hsessions := hrun.connectionSessions
  have haccounted := hrun.accounted .connection
  unfold Accounted at haccounted
  omega

/-- A connection request before the first wait ends. -/
def connectionOnce (ledger : List Posting) : DaemonCall → List Signal
  | .wait _ => if ledger.contains .woke then [] else [.request .connection]
  | _ => []

/-- Its session is opened. -/
theorem connectionOnce_paid : ∃ daemon ledger, LedgerRun daemon ledger ∧
    ledger.head? = some (.opened ["6 CONNECTION REQUEST"]) ∧
    ledger.countP (Posting.carries "6 CONNECTION REQUEST") ≤
      ledger.count (.raised (.request .connection)) := by
  have hrun := ledgerRun connectionOnce 4
  exact ⟨_, _, hrun, by decide, connectionSessions_le hrun⟩

end Accounts

/-! ## Stopping -/

/-- A session was opened. -/
def Posting.isOpened : Posting → Bool
  | .opened _ => true
  | _ => false

/-- At most one session was opened after the first stop that was asked for. -/
def StopsSoon (ledger : List Posting) : Prop :=
  ∀ newer older, ledger = newer ++ .raised .stop :: older → newer.countP Posting.isOpened ≤ 1

section Stopping

variable {daemon daemon' daemon'' : Daemon} {base posts ledger ledger' ledger'' : List Posting}

theorem isOwn_of_isOpened (posting : Posting) (h : posting.isOpened = true) :
    posting.isOwn = true := by
  cases posting with
  | raised => exact h
  | taken | woke | opened => rfl

theorem opened_of_passes {asked : Prop} (h : Passes asked daemon daemon' posts) :
    posts.countP Posting.isOpened ≤ 1 ∧ (asked → posts.countP Posting.isOpened = 0) := by
  cases h with
  | inform hasked hplace hposts =>
      rcases hposts with rfl | rfl
      · exact ⟨Nat.le_refl 1, fun h => absurd h hasked⟩
      · exact ⟨Nat.le_refl 1, fun h => absurd h hasked⟩
  | _ => exact ⟨Nat.zero_le 1, fun _ => rfl⟩

/-- A stop that was asked for before the round lets it open no session. -/
theorem StopsSoon.round (h : StopsSoon base) (hsince : Since base posts ledger)
    (hpasses : Passes (.raised .stop ∈ base) daemon daemon' posts) : StopsSoon ledger := by
  obtain ⟨hone, hnone⟩ := opened_of_passes hpasses
  have hcount := hsince.countP_eq isOwn_of_isOpened
  obtain ⟨added, rfl, hposts⟩ := hsince
  rw [List.countP_append] at hcount
  intro newer older hsplit
  rcases List.append_eq_append_iff.mp hsplit with ⟨rest, rfl, hbase⟩ | ⟨rest, rfl, -⟩
  · -- it was asked for before the round
    have hearlier := h rest older hbase
    have hasked : .raised .stop ∈ base := by
      rw [hbase]
      exact List.mem_append_right _ List.mem_cons_self
    have hnew := hnone hasked
    rw [List.countP_append]
    omega
  · -- it was asked for in the round, which opens one session at most
    rw [List.countP_append] at hcount
    omega

theorem LedgerRun.stopsSoon (hrun : LedgerRun daemon ledger) : StopsSoon ledger := by
  induction hrun with
  | start hexec =>
      obtain ⟨hsince, -⟩ := hexec.of_wp (booking_start undisturbed_since (since_refl []))
      have hcount := hsince.countP_eq isOwn_of_isOpened
      intro newer older hsplit
      rw [hsplit, List.countP_append] at hcount
      have hnone : ([] : List Posting).countP Posting.isOpened = 0 := rfl
      omega
  | round _ hexec ih =>
      obtain ⟨posts, hsince, hpasses, -⟩ := hexec.of_wp (booking_round _ _)
      exact ih.round hsince hpasses

theorem LedgerRun.stop_of_stopped (hrun : LedgerRun daemon ledger)
    (hplace : daemon.place = .stopped 0) : .raised .stop ∈ ledger := by
  induction hrun with
  | start hexec =>
      obtain ⟨-, hstart⟩ := hexec.of_wp (booking_start undisturbed_since (since_refl []))
      rcases hstart with hfailed | ⟨hhead, -⟩
      · cases hplace.symm.trans hfailed
      · cases hplace.symm.trans hhead
  | round _ hexec ih =>
      obtain ⟨posts, hsince, -, hstopped⟩ := hexec.of_wp (booking_round _ _)
      rcases hstopped hplace with hbefore | hraised
      · exact hsince.mem (ih hbefore)
      · exact hraised

/-- Where a stop was asked for, the run has ended after two rounds. -/
theorem stopped_of_two_rounds (hraised : .raised .stop ∈ ledger)
    (hexec : Exec ledgerEnv daemon.round ledger daemon' ledger')
    (hexec' : Exec ledgerEnv daemon'.round ledger' daemon'' ledger'') :
    ∃ code, daemon''.place = .stopped code := by
  obtain ⟨posts, hsince, hpasses, -⟩ := hexec.of_wp (booking_round daemon ledger)
  obtain ⟨posts', -, hpasses', -⟩ := hexec'.of_wp (booking_round daemon' ledger')
  have hraised' : .raised .stop ∈ ledger' := hsince.mem hraised
  cases hpasses with
  | stopped | stop | stopWaiting =>
      cases hpasses'
      exact ⟨_, rfl⟩
  | overwrite =>
      cases hpasses' with
      | stop => exact ⟨0, rfl⟩
      | idle hasked | inform hasked => exact absurd hraised' hasked
  | idle hasked | inform hasked | goOn hasked | woken hasked => exact absurd hraised hasked

/-- In every run: after a stop was asked for at most one session of `run` begins,
two more rounds end the run, and only a stop that was asked for ends it with 0. -/
theorem stop_heeded (hrun : LedgerRun daemon ledger) :
    StopsSoon ledger ∧ (daemon.place = .stopped 0 → .raised .stop ∈ ledger) ∧
      (.raised .stop ∈ ledger → ∀ daemon' ledger' daemon'' ledger'',
        Exec ledgerEnv daemon.round ledger daemon' ledger' →
        Exec ledgerEnv daemon'.round ledger' daemon'' ledger'' →
          ∃ code, daemon''.place = .stopped code) := by
  refine ⟨hrun.stopsSoon, hrun.stop_of_stopped, ?_⟩
  intro hraised daemon' ledger' daemon'' ledger'' hexec hexec'
  exact stopped_of_two_rounds hraised hexec hexec'

/-- A stop that is asked for while the first session is opened. -/
def stopInSession (ledger : List Posting) : DaemonCall → List Signal
  | .session _ _ => if ledger.isEmpty then [.stop] else []
  | _ => []

/-- That session is the last. -/
theorem stopInSession_heeded : ∃ daemon, daemon.place = .stopped 0 ∧
    LedgerRun daemon [.opened ["1 BOOT"], .raised .stop] ∧
    StopsSoon [.opened ["1 BOOT"], .raised .stop] := by
  have hrun := ledgerRun stopInSession 1
  have hledger : (ledgerState stopInSession 1).2 = [.opened ["1 BOOT"], .raised .stop] := by
    decide
  rw [hledger] at hrun
  exact ⟨_, by decide, hrun, (stop_heeded hrun).1⟩

end Stopping

end Tr069d
