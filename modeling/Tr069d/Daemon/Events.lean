import Tr069d.Daemon.Scenario

/-!
# Which events the daemon loses

An event that was put in the list is owed until a session that carries it has
succeeded, and the result of a download until it was reported.  `run` overwrites
its list after every wait, so that it keeps what it owes exactly in the runs
whose overwrites are harmless (`nothingLost_of_harmless`).

* `owed` and `unreported` are read off the history, so that nothing of the daemon has to
  be remembered for them.
* `EventInvariant` says that what is owed is in the list of the daemon.
* `eventInvariant_session` and `eventInvariant_turn` keep it, where the overwrite is
  `Harmless`: a session has succeeded with the list, or the new list has its events too.

`failsOnce_not_carried` is a run in which an overwrite is not harmless.
-/

namespace Tr069d

open Effects Daemon

/-- The events that may not be lost. -/
def tracked : List String :=
  ["0 BOOTSTRAP", "1 BOOT", "M Reboot", "4 VALUE CHANGE", "6 CONNECTION REQUEST"]

/-- The tracked events that were put in the list and that no session has
delivered since. -/
def owed : List Entry → List String
  | [] => []
  | .assigned events :: earlier => events.filter (· ∈ tracked) ++ owed earlier
  | .session events _ outcome :: earlier =>
      if outcome.success then (owed earlier).filter (· ∉ events) else owed earlier
  | _ :: earlier => owed earlier

/-- The results of downloads that were not reported since. -/
def unreported : List Entry → List TransferResult
  | [] => []
  | .downloaded _ result :: earlier => result :: unreported earlier
  | .transferReported result _ ok :: earlier =>
      if ok then (unreported earlier).erase result else unreported earlier
  | _ :: earlier => unreported earlier

/-- A session has succeeded since the list was assigned. -/
def delivered : List Entry → Bool
  | [] => false
  | .assigned _ :: _ => false
  | .session _ _ outcome :: earlier => outcome.success || delivered earlier
  | _ :: earlier => delivered earlier

/-- A session carries everything that is owed. -/
def Carried : Entry → List Entry → Prop
  | .session events _ _, earlier => ∀ event ∈ owed earlier, event ∈ events
  | _, _ => True

/-- Nothing was lost: every session carried what was owed, what is owed now is in
the list, and no result is left to report, for the daemon holds none between two
rounds. -/
structure NothingLost (daemon : Daemon) (history : List Entry) : Prop where
  carried : Always Carried history
  kept : ∀ event ∈ owed history, event ∈ daemon.events
  reported : unreported history = []

/-- The list is not about to be overwritten, or a session has succeeded with it,
or its tracked events are in the next list as well.  After a mock reboot nothing
is asked: the reboot came with a successful session. -/
def Harmless (daemon : Daemon) (history : List Entry) : Prop :=
  match daemon.place with
  | .overwrite .mockReboot => True
  | .overwrite cause => delivered history = true ∨
      ∀ event ∈ daemon.events, event ∈ tracked → event ∈ cause.events
  | _ => True

/-! ## Entries that do not matter -/

section Aside

variable {newer earlier : List Entry}

theorem owed_append (haside : ∀ entry ∈ newer, entry.isAside = true) :
    owed (newer ++ earlier) = owed earlier := by
  induction newer with
  | nil => rfl
  | cons entry newer ih =>
      have hrest := ih fun e he => haside e (List.mem_cons_of_mem _ he)
      have hentry := haside entry List.mem_cons_self
      cases entry with
      | session | waited | assigned => simp [Entry.isAside] at hentry
      | _ => exact hrest

theorem delivered_append (haside : ∀ entry ∈ newer, entry.isAside = true) :
    delivered (newer ++ earlier) = delivered earlier := by
  induction newer with
  | nil => rfl
  | cons entry newer ih =>
      have hrest := ih fun e he => haside e (List.mem_cons_of_mem _ he)
      have hentry := haside entry List.mem_cons_self
      cases entry with
      | session | waited | assigned => simp [Entry.isAside] at hentry
      | _ => exact hrest

theorem always_carried_append (haside : ∀ entry ∈ newer, entry.isAside = true) :
    Always Carried (newer ++ earlier) ↔ Always Carried earlier := by
  refine always_append_iff fun entry hentry before => ?_
  have h := haside entry hentry
  cases entry with
  | session => simp [Entry.isAside] at h
  | _ => trivial

end Aside

theorem tracked_of_mem_owed {event : String} {history : List Entry} (h : event ∈ owed history) :
    event ∈ tracked := by
  induction history with
  | nil => cases h
  | cons entry earlier ih =>
      cases entry with
      | assigned events =>
          rcases List.mem_append.mp h with hnew | hold
          · simpa using (List.mem_filter.mp hnew).2
          · exact ih hold
      | session events exchanges outcome =>
          simp only [owed] at h
          split at h
          · exact ih (List.mem_filter.mp h).1
          · exact ih h
      | _ => exact ih h

/-! ## Runs -/

/-- What is owed is in the list, and nothing is owed once the list was delivered. -/
structure EventInvariant (daemon : Daemon) (history : List Entry) : Prop where
  carried : Always Carried history
  kept : ∀ event ∈ owed history, event ∈ daemon.events
  delivered : delivered history = true → owed history = []
  mockReboot : daemon.place = .overwrite .mockReboot → Tr069d.delivered history = true

variable {σ : Type} {setup : Setup σ}

/-- A session that asks for a reboot is a success. -/
theorem success_of_rebootRequested {events : List String} {script : List HttpResponse}
    {session : Session σ} {outcome : SessionOutcome} {exchanges : List Exchange}
    (hrun : (CwmpSession.run setup.platform setup.xmlRead events script session).1 =
      (outcome, exchanges)) (hreboot : outcome.rebootRequested = true) :
    outcome.success = true := by
  have hcases := CwmpSession.run_cases setup.platform setup.xmlRead events script session
  simp only [hrun] at hcases
  rcases hcases with ⟨rfl, -⟩ | ⟨_, _, _, -, hend⟩
  · cases hreboot
  · exact hend.success ⟨rfl, rfl, rfl⟩ (Or.inl hreboot)

/-- A session keeps the invariant: it carries the whole list. -/
theorem eventInvariant_session {config config' : DaemonConfig} {events : List String}
    {history newer : List Entry} {exchanges : List Exchange} {outcome : SessionOutcome}
    {place : Place} (h : EventInvariant ⟨config, events, .head⟩ history)
    (haside : ∀ entry ∈ newer, entry.isAside = true)
    (hsuccess : place = .overwrite .mockReboot → outcome.success = true) :
    EventInvariant ⟨config', events, place⟩
      (newer ++ .session events exchanges outcome :: history) := by
  have howed : ∀ event ∈ owed history, event ∈ events := h.kept
  -- whatever is owed is in the list, so a success leaves nothing owed
  have hfilter : (owed history).filter (· ∉ events) = [] := by
    refine List.filter_eq_nil_iff.mpr fun event hevent => ?_
    simpa using howed event hevent
  refine ⟨?_, ?_, ?_, ?_⟩
  · exact (always_carried_append haside).mpr ⟨howed, h.carried⟩
  · rw [owed_append haside, owed]
    intro event hevent
    split at hevent
    · rw [hfilter] at hevent
      cases hevent
    · exact howed event hevent
  · rw [delivered_append haside, owed_append haside, delivered, owed, Bool.or_eq_true]
    intro hdelivered
    split
    · exact hfilter
    · rename_i hfailed
      exact h.delivered (hdelivered.resolve_left hfailed)
  · intro hplace
    rw [delivered_append haside, delivered, hsuccess hplace]
    rfl

/-- Every harmless round keeps the invariant. -/
theorem eventInvariant_turn {daemon daemon' : Daemon} {history history' : List Entry}
    (h : EventInvariant daemon history) (hharmless : Harmless daemon history)
    (hturn : Turn setup daemon history daemon' history') : EventInvariant daemon' history' := by
  cases hturn with
  | stop | idle => exact ⟨h.carried, h.kept, h.delivered, nofun⟩
  | @inform _ _ _ _ _ _ outcome _ _ _ _ _ _ _ place hrun htransfer hreboot hsame hplace =>
      refine eventInvariant_session h (isAside_followUp htransfer hreboot) fun hmock => ?_
      rw [hmock] at hplace
      exact success_of_rebootRequested hrun hplace
  -- to wait and to refresh change no list of events
  | waited hplace =>
      refine ⟨⟨trivial, h.carried⟩, h.kept, h.delivered, ?_⟩
      rintro rfl
      exact hplace.elim
  | reloaded hsame => exact ⟨⟨trivial, trivial, h.carried⟩, h.kept, h.delivered, nofun⟩
  | @overwrite config events history cause =>
      refine ⟨⟨trivial, h.carried⟩, ?_, nofun, nofun⟩
      intro event hevent
      rcases List.mem_append.mp hevent with hnew | hold
      · exact (List.mem_filter.mp hnew).1
      · -- what is owed from before either was delivered or is in the new list
        have hkeep : Tr069d.delivered history = true ∨
            ∀ event ∈ events, event ∈ tracked → event ∈ cause.events := by
          cases cause with
          | mockReboot => exact Or.inl (h.mockReboot rfl)
          | woke | configChanged => exact hharmless
        rcases hkeep with hdelivered | hcovered
        · rw [h.delivered hdelivered] at hold
          cases hold
        · exact hcovered event (h.kept event hold) (tracked_of_mem_owed hold)
  | stopped => exact h

/-! ## The results of downloads -/

/-- A report of a result that was not acknowledged. -/
def Entry.isFailedReport : Entry → Bool
  | .transferReported _ _ ok => !ok
  | _ => false

/-- Every result was acknowledged when it was reported. -/
def AllReported (history : List Entry) : Prop :=
  ∀ entry ∈ history, entry.isFailedReport = false

instance (history : List Entry) : Decidable (AllReported history) :=
  inferInstanceAs (Decidable (∀ entry ∈ history, entry.isFailedReport = false))

/-- What a session leaves to report is what its download does. -/
theorem unreported_inform {config between read : DaemonConfig} {events : List String}
    {outcome : SessionOutcome} {exchanges : List Exchange} {okRecorded okCleared : Bool × Bool}
    {transfer reboot history : List Entry} {request : Option DownloadRequest}
    (htransfer : TransferEntries setup request transfer) (hreboot : RebootEntries outcome reboot) :
    unreported (followUp read (recordedEntries outcome config okRecorded)
      (clearedEntries outcome events between okCleared) transfer reboot ++
      .session events exchanges outcome :: history) = unreported (transfer ++ history) := by
  have hflags : ∀ earlier, unreported (clearedEntries outcome events between okCleared ++
      (recordedEntries outcome config okRecorded ++ earlier)) = unreported earlier := by
    intro earlier
    unfold clearedEntries recordedEntries
    split <;> split <;> rfl
  cases htransfer <;> cases hreboot <;> simp [followUp, unreported, hflags]

theorem unreported_turn {daemon daemon' : Daemon} {history history' : List Entry}
    (h : AllReported history → unreported history = [])
    (hturn : Turn setup daemon history daemon' history') (hall : AllReported history') :
    unreported history' = [] := by
  have hearlier : AllReported history := by
    intro entry hmem
    refine hall entry ?_
    cases hturn <;> simp [hmem]
  cases hturn with
  | @inform _ _ _ _ _ _ _ _ _ _ transfer _ _ _ _ hrun htransfer hreboot hsame hplace =>
      rw [unreported_inform htransfer hreboot]
      generalize hrequest : SessionOutcome.download _ = request at htransfer
      cases htransfer with
      | none => exact h hearlier
      | @reported request result exchanges ok read s script hrun =>
          -- the result is reported at once, and the report was acknowledged
          have hok : ok = true := by
            have hentry := hall (.transferReported result exchanges ok) (by simp [followUp])
            simpa [Entry.isFailedReport] using hentry
          simp [unreported, hok, h hearlier]
  | stop | idle | waited | reloaded | overwrite | stopped => exact h hearlier

/-- In every run whose rounds are all harmless and whose reports are all
acknowledged, nothing is lost. -/
theorem nothingLost_of_harmless {daemon : Daemon} {world : World}
    (hrun : DaemonRun setup Harmless daemon world) (hall : AllReported world.history) :
    NothingLost daemon world.history := by
  have hevents : EventInvariant daemon world.history := by
    refine hrun.invariant ⟨trivial, nofun, nofun, nofun⟩ ?_ ?_
    · intro read config _
      refine ⟨⟨trivial, trivial, trivial⟩, ?_, nofun, nofun⟩
      intro event hevent
      simp only [owed, List.append_nil] at hevent
      exact (List.mem_filter.mp hevent).1
    · intro _ _ _ _ h hharmless hturn
      exact eventInvariant_turn h hharmless hturn
  have hreports : AllReported world.history → unreported world.history = [] := by
    refine hrun.invariant (I := fun _ history => AllReported history → unreported history = [])
      (fun _ => rfl) (fun _ _ _ _ => rfl) ?_
    intro _ _ _ _ h _ hturn
    exact unreported_turn h hturn
  exact ⟨hevents.carried, hevents.kept, hreports hall⟩

/-- A device whose sessions all succeed: nothing is lost when the periodic Inform
overwrites the list of the first one. -/
theorem noTask_nothingLost :
    let state := (deviceScenario fun _ => noTask).state 4
    NothingLost state.1 state.2.history := by
  refine nothingLost_of_harmless ((deviceScenario fun _ => noTask).run 4 ?_) ?_
  · intro m hm
    match m, hm with
    | 0, _ => trivial
    | 1, _ => trivial
    | 2, _ => exact Or.inl rfl
    | 3, _ => trivial
  · decide

/-- An ACS that asks for a download and cannot be reached afterwards. -/
def onlyDownload (history : List Entry) : List HttpResponse :=
  if history.any fun entry => entry matches .downloaded .. then [] else downloadTask

/-- The first Inform fails, and the periodic one does not carry its events. -/
theorem failsOnce_not_carried : ∃ daemon world,
    Reached (deviceScenario failsOnce).setup daemon world ∧ ¬ Always Carried world.history := by
  refine ⟨_, _, (deviceScenario failsOnce).reached 4, ?_⟩
  have howed : "0 BOOTSTRAP" ∈ owed (((deviceScenario failsOnce).state 4).2.history.drop 3) := by
    decide
  obtain ⟨read, ok, exchanges, outcome, earlier, hhistory⟩ := failsOnce_history
  rw [hhistory] at howed ⊢
  rintro ⟨-, -, hcarried, -⟩
  exact absurd (hcarried "0 BOOTSTRAP" howed) (by decide)

/-- The result of a download whose report fails is forgotten. -/
theorem downloadTask_unreported : ∃ daemon world,
    Reached (deviceScenario onlyDownload).setup daemon world ∧ unreported world.history ≠ [] :=
  ⟨_, _, (deviceScenario onlyDownload).reached 1, by decide⟩

end Tr069d
