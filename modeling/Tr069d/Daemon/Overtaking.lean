import Tr069d.Daemon.Requests

/-!
# How long a request is overtaken

A request that was raised is overtaken only by more urgent ones: `Overtakes` bounds
the waits that end while it is pending (`waits_le_urgent`).  Between the end of a
wait and the next one the bound is slack by one for the requests that were not
looked at yet.

* `urgentSet_after_le` is what a signal adds to the bound, and `urgentSet_lower` what the
  taking of a more urgent request pays.
* `Overtakes.woke`, `Overtakes.taken` and `Overtakes.not_taken` are the three things that
  a wait puts down about a request, and `booking_overtakes` the round.

The order of the requests is fixed, so that a request may wait for as long as more
urgent ones keep coming: the bound is their number, and there is none without it.
-/

namespace Tr069d

open Effects Daemon

/-- How many of the more urgent requests are set. -/
def urgentSet (request : Request) (flags : Flags) : Nat :=
  request.urgent.countP flags.requested

/-- A more urgent request is raised. -/
def Posting.outranks (request : Request) : Posting → Bool
  | .raised (.request other) => decide (other.rank < request.rank)
  | _ => false

/-- While a request is pending, waits end only for more urgent ones: for those that
were set when it was raised, and for those that were raised since.  A wait that
ended may not be paid for yet, but by the requests below `rank`. -/
def Overtakes (rank : Nat) (ledger : List Posting) : Prop :=
  ∀ request newer older, ledger = newer ++ .raised (.request request) :: older →
    .taken request ∉ newer → .raised .stop ∉ ledger →
      newer.count .woke + urgentSet request (flagsOf ledger) ≤
        urgentSet request (flagsOf older) + newer.countP (Posting.outranks request) +
          if request.rank < rank then 0 else 1

section Urgency

variable {α : Type} [DecidableEq α] {request other : Request} {flags : Flags}

theorem countP_update_true_le (f : α → Bool) (a : α) (l : List α) :
    l.countP (Function.update f a true) ≤ l.countP f + l.count a := by
  induction l with
  | nil => exact Nat.le_refl 0
  | cons b l ih =>
      rw [List.countP_cons, List.countP_cons, List.count_cons]
      by_cases hb : b = a
      · subst hb
        simp only [Function.update_self, if_true, beq_self_eq_true]
        omega
      · rw [Function.update_of_ne hb]
        omega

theorem countP_update_false {f : α → Bool} {a : α} (hset : f a = true) (l : List α) :
    l.countP (Function.update f a false) + l.count a = l.countP f := by
  induction l with
  | nil => rfl
  | cons b l ih =>
      rw [List.countP_cons, List.countP_cons, List.count_cons]
      by_cases hb : b = a
      · subst hb
        simp only [Function.update_self, hset, if_true, beq_self_eq_true]
        simp only [Bool.false_eq_true, if_false]
        omega
      · simp only [Function.update_of_ne hb, beq_iff_eq, hb, if_false]
        omega

theorem nodup_urgent (request : Request) : request.urgent.Nodup := by
  cases request <;> decide

theorem mem_urgent_iff : other ∈ request.urgent ↔ other.rank < request.rank := by
  cases request <;> cases other <;> decide

theorem rank_lt (request : Request) : request.rank < 4 := by
  cases request <;> decide

theorem eq_of_rank (h : request.rank = other.rank) : request = other := by
  revert h
  cases request <;> cases other <;> decide

/-- A signal sets at most one more urgent request. -/
theorem urgentSet_after_le (request : Request) (flags : Flags) (signal : Signal) :
    urgentSet request (flags.after signal) ≤
      urgentSet request flags + if (Posting.raised signal).outranks request then 1 else 0 := by
  cases signal with
  | stop => exact Nat.le_add_right _ _
  | request other =>
      have hupdate := countP_update_true_le flags.requested other request.urgent
      refine hupdate.trans (Nat.add_le_add_left ?_ _)
      split_ifs with hurgent
      · exact List.nodup_iff_count_le_one.mp (nodup_urgent request) other
      · have hnot : other ∉ request.urgent := fun hmem =>
          hurgent (decide_eq_true (mem_urgent_iff.mp hmem))
        exact (List.count_eq_zero.mpr hnot).le

theorem urgentSet_after_self (request : Request) (flags : Flags) :
    urgentSet request (flags.after (.request request)) ≤ urgentSet request flags := by
  have hself : (Posting.raised (.request request)).outranks request = false := by
    exact decide_eq_false (Nat.lt_irrefl _)
  simpa [hself] using urgentSet_after_le request flags (.request request)

/-- Taking a more urgent request that is set pays for a wait. -/
theorem urgentSet_lower (request : Request) (hset : flags.requested other = true) :
    urgentSet request (flags.lower other) + (if other.rank < request.rank then 1 else 0) =
      urgentSet request flags := by
  have hupdate := countP_update_false hset request.urgent
  refine Eq.trans (congrArg (urgentSet request (flags.lower other) + ·) ?_) hupdate
  split_ifs with hrank
  · exact (List.count_eq_one_of_mem (nodup_urgent request) (mem_urgent_iff.mpr hrank)).symm
  · exact (List.count_eq_zero.mpr fun hmem => hrank (mem_urgent_iff.mp hmem)).symm

end Urgency

section Overtaking

variable {rank : Nat} {ledger : List Posting} {posting : Posting} {request : Request}

/-- One more posting: the bound of a request that was raised before it has to be kept,
and one that it raises has a bound of its own. -/
theorem Overtakes.cons {later : Nat} (h : Overtakes rank ledger)
    (hstep : ∀ request newer older, .taken request ∉ posting :: newer →
      newer.count .woke + urgentSet request (flagsOf ledger) ≤
        urgentSet request (flagsOf older) + newer.countP (Posting.outranks request) +
          (if request.rank < rank then 0 else 1) →
      (posting :: newer).count .woke + urgentSet request (flagsOf (posting :: ledger)) ≤
        urgentSet request (flagsOf older) + (posting :: newer).countP (Posting.outranks request) +
          if request.rank < later then 0 else 1) :
    Overtakes later (posting :: ledger) := by
  intro request newer older hsplit htaken hstop
  cases newer with
  | nil =>
      -- the posting raises the request itself, which does not count as more urgent
      obtain ⟨rfl, rfl⟩ := List.cons.inj hsplit
      have hraised := urgentSet_after_self request (flagsOf ledger)
      show 0 + urgentSet request ((flagsOf ledger).after (.request request)) ≤ _
      omega
  | cons first newer =>
      obtain ⟨rfl, hrest⟩ := List.cons.inj hsplit
      have hbefore : .taken request ∉ newer := fun hmem => htaken (List.mem_cons_of_mem _ hmem)
      have hgoing : .raised .stop ∉ ledger := fun hmem => hstop (List.mem_cons_of_mem _ hmem)
      exact hstep request newer older htaken (h request newer older hrest hbefore hgoing)

theorem Overtakes.mono (h : Overtakes 4 ledger) (rank : Nat) : Overtakes rank ledger := by
  intro request newer older hsplit htaken hstop
  have hbound := h request newer older hsplit htaken hstop
  rw [if_pos (rank_lt request)] at hbound
  omega

theorem undisturbed_overtakes : Undisturbed (Overtakes rank) := by
  intro signal ledger h
  apply h.cons
  intro request newer older _ hbound
  have hraised := urgentSet_after_le request (flagsOf ledger) signal
  have hwoke : (.raised signal :: newer).count .woke = newer.count .woke :=
    List.count_cons_of_ne (by simp)
  have hflags : flagsOf (.raised signal :: ledger) = (flagsOf ledger).after signal := rfl
  rw [hflags, hwoke, List.countP_cons]
  omega

theorem Overtakes.opened (h : Overtakes rank ledger) (events : List String) :
    Overtakes rank (.opened events :: ledger) :=
  h.cons fun _ _ _ _ hbound => hbound

/-- A wait that ended is not paid for. -/
theorem Overtakes.woke (h : Overtakes 4 ledger) : Overtakes 0 (.woke :: ledger) := by
  apply h.cons
  intro request newer older _ hbound
  rw [if_pos (rank_lt request)] at hbound
  have hflags : flagsOf (.woke :: ledger) = flagsOf ledger := rfl
  rw [hflags, List.count_cons_self, if_neg (Nat.not_lt_zero _), List.countP_cons]
  omega

/-- The wait is paid for by the request that is taken. -/
theorem Overtakes.taken (h : Overtakes request.rank ledger)
    (hset : (flagsOf ledger).requested request = true) :
    Overtakes 4 (.taken request :: ledger) := by
  apply h.cons
  intro other newer older htaken hbound
  have hpaid := urgentSet_lower other hset
  -- the request itself is not pending any more
  have hother : other.rank ≠ request.rank := by
    intro hrank
    rw [eq_of_rank hrank] at htaken
    exact htaken List.mem_cons_self
  have hwoke : (.taken request :: newer).count .woke = newer.count .woke :=
    List.count_cons_of_ne (by simp)
  have hflags : flagsOf (.taken request :: ledger) = (flagsOf ledger).lower request := rfl
  rw [hflags, hwoke, if_pos (rank_lt other), List.countP_cons]
  split_ifs at hbound hpaid <;> omega

/-- A request that is not set is not pending. -/
theorem Overtakes.not_taken (h : Overtakes request.rank ledger)
    (hset : (flagsOf ledger).requested request = false) :
    Overtakes (request.rank + 1) ledger := by
  intro other newer older hsplit htaken hstop
  have hbound := h other newer older hsplit htaken hstop
  have hother : other.rank ≠ request.rank := by
    intro hrank
    obtain rfl := eq_of_rank hrank
    -- it was raised and not taken, so that its flag would be set
    have hpending : (flagsOf (newer ++ .raised (.request other) :: older)).requested other =
        true := requested_of_raised htaken
    rw [← hsplit, hset] at hpending
    cases hpending
  split_ifs at hbound ⊢ <;> omega

end Overtaking

/-! ## Runs -/

section Runs

variable {daemon : Daemon} {newer older ledger : List Posting} {request : Request}

/-- Once a stop was asked for nothing is promised. -/
theorem overtakes_of_stop {rank : Nat} (hraised : .raised .stop ∈ ledger) :
    Overtakes rank ledger :=
  fun _ _ _ _ _ hstop => absurd hraised hstop

theorem overtakes_nil (rank : Nat) : Overtakes rank [] := by
  intro request newer older hsplit
  cases newer with
  | nil | cons => cases hsplit

/-- Every round pays for its wait. -/
theorem booking_overtakes (daemon : Daemon) (h : Overtakes 4 ledger) :
    booking daemon.round (fun _ => Overtakes 4) ledger := by
  obtain ⟨config, events, place⟩ := daemon
  have hstopping : ∀ {config} {later : List Posting}, Overtakes 4 later →
      booking (stop config events) (fun _ => Overtakes 4) later :=
    fun hlater => wp_mono (booking_stop undisturbed_overtakes hlater) fun _ _ hstopped =>
      hstopped.2
  cases place with
  | head =>
      refine wp_bind.mpr (booking_ask undisturbed_overtakes h fun stopped ledger h _ => ?_)
      split
      · exact hstopping h
      split
      · split
        · exact wp_bind.mpr (wp_mono (booking_of_calls undisturbed_overtakes h
            (calls_log unposted_log _ _)) fun _ _ hlater => hlater)
        · exact h
      · refine wp_mono (booking_inform undisturbed_overtakes undisturbed_overtakes
          undisturbed_overtakes (fun ledger h => h.opened events)
          (fun ledger h hset => (h.mono _).taken hset) (fun _ h => h) h) ?_
        intro _ _ hinformed
        exact hinformed.1
  | waiting =>
      -- the wait is paid for by the first request that is set
      have hreason : ∀ signaled ledger, Overtakes 0 ledger →
          booking (wakeReason config signaled) (fun _ => Overtakes 4) ledger := by
        intro signaled ledger h
        apply @booking_wakeReason config ledger (Overtakes 0) Overtakes (fun _ => Overtakes 4)
          undisturbed_overtakes (fun _ => undisturbed_overtakes) undisturbed_overtakes
        · exact fun ledger _ hraised => overtakes_of_stop hraised
        · exact fun ledger h _ => h
        · exact fun request ledger h hset => h.taken hset
        · exact fun request ledger h hset => h.not_taken hset
        · exact fun _ ledger _ h => h
        · exact h
      have hwait := @booking_waitForNextInform config ledger (Overtakes 0) (Overtakes 4)
        (fun _ => Overtakes 4) undisturbed_overtakes (fun _ h => h.woke) hreason h
      refine wp_bind.mpr (wp_mono hwait ?_)
      rintro ⟨wake, config'⟩ ledger h
      cases wake with
      | none => exact h
      | some reason =>
          cases reason with
          | stop => exact hstopping h
          | periodic | connectionRequest | reload | reconnect | informNow => exact h
  | overwrite cause =>
      exact wp_bind.mpr (booking_ask undisturbed_overtakes h fun _ ledger h _ => h)
  | stopped code => exact h

theorem LedgerRun.overtakes (hrun : LedgerRun daemon ledger) : Overtakes 4 ledger := by
  induction hrun with
  | start hexec =>
      exact (hexec.of_wp (booking_start undisturbed_overtakes (overtakes_nil 4))).1
  | round _ hexec ih => exact hexec.of_wp (booking_overtakes _ ih)

/-- In every run: while a request is pending, no more waits end than there were
more urgent requests when it was raised and have been raised since. -/
theorem waits_le_urgent
    (hrun : LedgerRun daemon (newer ++ .raised (.request request) :: older))
    (hpending : .taken request ∉ newer)
    (hgoing : .raised .stop ∉ newer ++ .raised (.request request) :: older) :
    newer.count .woke ≤
      urgentSet request (flagsOf older) + newer.countP (Posting.outranks request) := by
  have hbound := hrun.overtakes request newer older rfl hpending hgoing
  rw [if_pos (rank_lt request)] at hbound
  omega

/-- An `informNow` and then a connection request, before the first wait ends. -/
def informNowThenConnection (ledger : List Posting) : DaemonCall → List Signal
  | .wait _ => if ledger.contains .woke then [] else [.request .connection, .request .informNow]
  | _ => []

/-- The connection request is taken first. -/
theorem informNow_overtaken : ∃ daemon older,
    LedgerRun daemon ([.taken .connection, .woke, .raised (.request .connection)] ++
      .raised (.request .informNow) :: older) ∧
    [Posting.taken .connection, .woke, .raised (.request .connection)].count .woke ≤
      urgentSet .informNow (flagsOf older) +
        [Posting.taken .connection, .woke, .raised (.request .connection)].countP
          (Posting.outranks .informNow) := by
  have hrun := ledgerRun informNowThenConnection 2
  have hledger : (ledgerState informNowThenConnection 2).2 =
      [.taken .connection, .woke, .raised (.request .connection)] ++
        .raised (.request .informNow) :: [.opened ["1 BOOT"]] := by decide
  rw [hledger] at hrun
  exact ⟨_, _, hrun, waits_le_urgent hrun (by decide) (by decide)⟩

end Runs

end Tr069d
