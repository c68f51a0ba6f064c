import Tr069d.Daemon.Scenario

/-!
# When the daemon stores its flags

`run` stores `bootstrap_done` after any successful session, whatever the events
of its Inform were, while it looks for `"M Reboot"` in them before it clears
`pending_reboot_event`.  `always_earned_iff` says in which runs every flag is
stored only after its event was delivered.

* `Earned` is what should be true of every entry that stores a flag.
* `Bootstrapped` is the condition: it speaks of the state before a session.
* `flagInvariant_inform` and `flagInvariant_turn` keep the invariant that connects the
  list of events with the flags and with the history.

The clearing of `pending_reboot_event` is always earned; only `bootstrap_done` can be
stored by a session that did not carry its event.
-/

namespace Tr069d

open Effects Daemon

/-- The events and the outcome of the last session. -/
def lastSession : List Entry → Option (List String × SessionOutcome)
  | [] => none
  | .session events _ outcome :: _ => some (events, outcome)
  | _ :: earlier => lastSession earlier

/-- The last configuration that was read. -/
def lastReading : List Entry → Option DaemonConfig
  | [] => none
  | .reading config :: _ => some config
  | _ :: earlier => lastReading earlier

/-- The entry is a session or a wait, one of which every pass of the loop makes. -/
def Entry.isPass : Entry → Bool
  | .session .. => true
  | .waited => true
  | _ => false

/-- No pass of the loop has been made. -/
def FirstPass (history : List Entry) : Prop :=
  ∀ entry ∈ history, entry.isPass = false

/-- A flag is stored only after a successful session that carried its event. -/
def Earned : Entry → List Entry → Prop
  | .persisted .bootstrapDone _, earlier => ∃ events exchanges outcome before,
      earlier = .session events exchanges outcome :: before ∧ outcome.success = true ∧
        "0 BOOTSTRAP" ∈ events
  | .persisted .clearPendingReboot _, earlier => ∃ events outcome,
      lastSession earlier = some (events, outcome) ∧ outcome.success = true ∧ "M Reboot" ∈ events
  | _, _ => True

/-- A session that succeeds is in the first pass, or `bootstrap_done` was read as
set before it. -/
def Bootstrapped : Entry → List Entry → Prop
  | .session _ _ outcome, earlier => outcome.success = true → FirstPass earlier ∨
      ∃ read, lastReading earlier = some read ∧ read.bootstrapDone = true
  | _, _ => True

/-! ## The entries after a session -/

section Inform

variable {σ : Type} {setup : Setup σ} {outcome : SessionOutcome} {config between : DaemonConfig}
  {events : List String} {exchanges : List Exchange} {okRecorded okCleared : Bool × Bool}
  {transfer reboot history : List Entry} {read : DaemonConfig}

theorem earned_of_isFollowUp (entry : Entry) (earlier : List Entry)
    (h : entry.isFollowUp = true) : Earned entry earlier := by
  cases entry with
  | persisted write ok =>
      cases write with
      | setPendingReboot => trivial
      | bootstrapDone | clearPendingReboot => simp [Entry.isFollowUp] at h
  | _ => trivial

theorem always_earned_inform_iff
    (htransfer : TransferEntries setup outcome.download transfer)
    (hreboot : RebootEntries outcome reboot) :
    Always Earned (followUp read (recordedEntries outcome config okRecorded)
        (clearedEntries outcome events between okCleared) transfer reboot ++
        .session events exchanges outcome :: history) ↔
      (outcome.success = true → config.bootstrapDone = false → "0 BOOTSTRAP" ∈ events) ∧
        Always Earned history := by
  rw [always_followUp_iff earned_of_isFollowUp htransfer hreboot]
  -- `pending_reboot_event` is cleared only if the session carried its event
  have hcleared : ∀ earlier, lastSession earlier = some (events, outcome) →
      (Always Earned (clearedEntries outcome events between okCleared ++ earlier) ↔
        Always Earned earlier) := by
    intro earlier hlast
    unfold clearedEntries
    split
    · rename_i hneeded
      simp only [Bool.and_eq_true, decide_eq_true_eq] at hneeded
      have hearned : Earned (.persisted .clearPendingReboot okCleared) earlier :=
        ⟨events, outcome, hlast, hneeded.1.1, hneeded.2⟩
      simp [hearned]
    · rfl
  have hrecorded : Always Earned (recordedEntries outcome config okRecorded ++
      .session events exchanges outcome :: history) ↔
      (outcome.success = true → config.bootstrapDone = false → "0 BOOTSTRAP" ∈ events) ∧
        Always Earned history := by
    unfold recordedEntries
    cases hsuccess : outcome.success <;> cases hdone : config.bootstrapDone <;>
      simp [Earned, hsuccess]
  rw [← hrecorded]
  refine hcleared _ ?_
  unfold recordedEntries
  split <;> rfl

theorem bootstrapped_of_isFollowUp (entry : Entry) (earlier : List Entry)
    (h : entry.isFollowUp = true) : Bootstrapped entry earlier := by
  cases entry with
  | session events exchanges outcome => simp [Entry.isFollowUp, Entry.isAside] at h
  | _ => trivial

theorem always_bootstrapped_inform_iff
    (htransfer : TransferEntries setup outcome.download transfer)
    (hreboot : RebootEntries outcome reboot) :
    Always Bootstrapped (followUp read (recordedEntries outcome config okRecorded)
        (clearedEntries outcome events between okCleared) transfer reboot ++
        .session events exchanges outcome :: history) ↔
      Bootstrapped (.session events exchanges outcome) history ∧ Always Bootstrapped history := by
  rw [always_followUp_iff bootstrapped_of_isFollowUp htransfer hreboot]
  unfold clearedEntries recordedEntries
  split <;> split <;> simp [Bootstrapped]

theorem not_firstPass_inform {newer : List Entry} :
    ¬ FirstPass (newer ++ .session events exchanges outcome :: history) := by
  intro h
  have hsession := h (.session events exchanges outcome)
    (List.mem_append_right _ List.mem_cons_self)
  cases hsession

end Inform

/-! ## Runs -/

/-- What the events and the flags have to do with the history. -/
structure FlagInvariant (daemon : Daemon) (history : List Entry) : Prop where
  reading : (∃ code, daemon.place = .stopped code) ∨
    ∃ read, lastReading history = some read ∧ read.bootstrapDone = daemon.config.bootstrapDone
  head : daemon.place = .head →
    FirstPass history ∧ (daemon.config.bootstrapDone = false → "0 BOOTSTRAP" ∈ daemon.events) ∨
      ¬ FirstPass history ∧ "0 BOOTSTRAP" ∉ daemon.events
  overwrite : ∀ cause, daemon.place = .overwrite cause → ¬ FirstPass history
  earned : Always Earned history ↔ Always Bootstrapped history

theorem not_bootstrap_of_cause (cause : Cause) : "0 BOOTSTRAP" ∉ cause.events := by
  cases cause with
  | woke reason => cases reason <;> decide
  | configChanged => decide
  | mockReboot => decide

theorem flagInvariant_start {read config : DaemonConfig} (hsame : SameFlags config read) :
    FlagInvariant ⟨config, initialEvents config, .head⟩
      [.assigned (initialEvents config), .reading read] where
  reading := Or.inr ⟨read, rfl, hsame.bootstrapDone.symm⟩
  head := by
    intro _
    refine Or.inl ⟨?_, ?_⟩
    · simp [FirstPass, Entry.isPass]
    · intro hdone
      simp [initialEvents, show config.bootstrapDone = false from hdone]
  overwrite := by
    rintro _ ⟨⟩
  earned := by simp [Earned, Bootstrapped]

variable {σ : Type} {setup : Setup σ}

/-- A session keeps the invariant: it stores `bootstrap_done` if it succeeds, and
it is earned exactly in the first pass. -/
theorem flagInvariant_inform {config config' between read : DaemonConfig} {events : List String}
    {history transfer reboot : List Entry} {exchanges : List Exchange} {outcome : SessionOutcome}
    {okRecorded okCleared : Bool × Bool} {place : Place}
    (h : FlagInvariant ⟨config, events, .head⟩ history)
    (htransfer : TransferEntries setup outcome.download transfer)
    (hreboot : RebootEntries outcome reboot) (hsame : SameFlags config' read)
    (hplace : InformEnd outcome place) :
    FlagInvariant ⟨config', events, place⟩
      (followUp read (recordedEntries outcome config okRecorded)
        (clearedEntries outcome events between okCleared) transfer reboot ++
        .session events exchanges outcome :: history) where
  reading := Or.inr ⟨read, rfl, hsame.bootstrapDone.symm⟩
  head := by
    rintro rfl
    exact hplace.elim
  overwrite := fun _ _ => not_firstPass_inform
  earned := by
    rw [always_earned_inform_iff htransfer hreboot,
      always_bootstrapped_inform_iff htransfer hreboot, h.earned]
    refine and_congr_left fun _ => ?_
    obtain ⟨_, ⟨⟩⟩ | ⟨last, hlast, hdone⟩ := h.reading
    simp only [Bootstrapped]
    refine forall_congr' fun hsuccess => ?_
    -- in the first pass the event goes with the list, later neither of the two is true
    rcases h.head rfl with ⟨hfirst, hbootstrap⟩ | ⟨hlater, hnone⟩
    · exact iff_of_true hbootstrap (Or.inl hfirst)
    · constructor
      · intro hcarried
        have hset : config.bootstrapDone = true := by
          by_contra hunset
          exact hnone (hcarried (Bool.eq_false_iff.mpr hunset))
        exact Or.inr ⟨last, hlast, hdone.trans hset⟩
      -- what was read last is the flag of `config_`, since nothing has stored it in between
      · rintro (hfirst | ⟨read, hread, hset⟩) hunset
        · exact absurd hfirst hlater
        · rw [hlast, Option.some.injEq] at hread
          subst hread
          rw [← hdone, hset] at hunset
          cases hunset

/-- Every round keeps the invariant. -/
theorem flagInvariant_turn {daemon daemon' : Daemon} {history history' : List Entry}
    (h : FlagInvariant daemon history) (hturn : Turn setup daemon history daemon' history') :
    FlagInvariant daemon' history' := by
  cases hturn with
  | stop => exact ⟨Or.inl ⟨0, rfl⟩, nofun, nofun, h.earned⟩
  | idle hidle =>
      refine ⟨?_, nofun, nofun, h.earned⟩
      obtain ⟨_, ⟨⟩⟩ | hreading := h.reading
      exact Or.inr hreading
  | inform hrun htransfer hreboot hsame hplace =>
      exact flagInvariant_inform h htransfer hreboot hsame hplace
  -- after the first wait no pass is the first one any more
  | waited hplace =>
      refine ⟨?_, ?_, ?_, ?_⟩
      · obtain ⟨_, ⟨⟩⟩ | hreading := h.reading
        exact Or.inr hreading
      · rintro rfl
        exact hplace.elim
      · intro _ _ hfirst
        cases hfirst .waited List.mem_cons_self
      · simpa [Earned, Bootstrapped] using h.earned
  | @reloaded config events history read config' hsame =>
      refine ⟨Or.inr ⟨read, rfl, hsame.bootstrapDone.symm⟩, nofun, ?_, ?_⟩
      · intro _ _ hfirst
        cases hfirst .waited (List.mem_cons_of_mem _ List.mem_cons_self)
      · simpa [Earned, Bootstrapped] using h.earned
  -- no list that is assigned in the loop contains the event
  | @overwrite config events history cause =>
      refine ⟨?_, ?_, nofun, ?_⟩
      · obtain ⟨_, ⟨⟩⟩ | hreading := h.reading
        exact Or.inr hreading
      · intro _
        refine Or.inr ⟨?_, not_bootstrap_of_cause cause⟩
        intro hfirst
        exact h.overwrite cause rfl fun entry hentry => hfirst entry (List.mem_cons_of_mem _ hentry)
      · simpa [Earned, Bootstrapped] using h.earned
  | stopped => exact h

/-- In every run: the flags are all earned exactly if every session that succeeds
is in the first pass of the loop or finds `bootstrap_done` set already. -/
theorem always_earned_iff {daemon : Daemon} {world : World}
    (hreached : Reached setup daemon world) :
    Always Earned world.history ↔ Always Bootstrapped world.history := by
  have hfailed : FlagInvariant ⟨{}, [], .stopped 1⟩ [] :=
    ⟨Or.inl ⟨1, rfl⟩, nofun, nofun, Iff.rfl⟩
  exact (hreached.invariant hfailed (fun read config hsame => flagInvariant_start hsame)
    fun _ _ _ _ h _ hturn => flagInvariant_turn h hturn).earned

/-- The equivalence in the run of a new device that fails once. -/
theorem failsOnce_earned_iff :
    let world := ((deviceScenario failsOnce).state 4).2
    Always Earned world.history ↔ Always Bootstrapped world.history :=
  always_earned_iff ((deviceScenario failsOnce).reached 4)

/-- The first session fails, and the periodic one stores `bootstrap_done`. -/
theorem failsOnce_not_earned : ∃ daemon world,
    Reached (deviceScenario failsOnce).setup daemon world ∧ ¬ Always Earned world.history := by
  refine ⟨_, _, (deviceScenario failsOnce).reached 4, ?_⟩
  obtain ⟨read, ok, exchanges, outcome, earlier, hhistory⟩ := failsOnce_history
  rw [hhistory]
  rintro ⟨-, ⟨events, _, _, _, hsession, -, hbootstrap⟩, -⟩
  cases hsession
  exact absurd hbootstrap (by decide)

end Tr069d
