import Tr069d.Daemon.Scenario

/-!
# Which commands the daemon executes

A `Reboot` or a `Download` is acknowledged when the ACS accepts the response to
it.  What is acknowledged in a session of `CwmpSession::run` is executed exactly
once; what is acknowledged in the session that reports a transfer is dropped, for
`runTransferComplete` returns only whether the session was a success.

* `passedOn_run` connects what a session passes on with what was acknowledged in it.
* `executed_inform` does the same for what follows a session and what was executed, and
  `executed_perm_turn` puts the two together for one round.
* `executed_perm_acknowledged_iff` is the result for all runs, and
  `rebootAfterDownload_not_executed` a run in which a reboot is dropped.
-/

namespace Tr069d

open Effects Daemon RpcHandler

/-- The command that was executed. -/
def Entry.executed : Entry → List Command
  | .downloaded request _ => [.download request]
  | .rebooted commandKey _ => [.reboot commandKey]
  | _ => []

/-- The commands that were acknowledged after an opening of `n` exchanges and the
empty POST. -/
def acknowledgedAfter (xmlRead : XmlReader) (n : Nat) (exchanges : List Exchange) :
    List Command :=
  match exchanges.drop n with
  | [] => []
  | empty :: rest => CwmpSession.acknowledged xmlRead empty.response.body rest

/-- The commands that were acknowledged in a session of `run`. -/
def Entry.acknowledgedInRun (xmlRead : XmlReader) : Entry → List Command
  | .session _ exchanges _ => acknowledgedAfter xmlRead 1 exchanges
  | _ => []

/-- The commands that were acknowledged in a session of `runTransferComplete`. -/
def Entry.acknowledgedInReport (xmlRead : XmlReader) : Entry → List Command
  | .transferReported _ exchanges _ => acknowledgedAfter xmlRead 2 exchanges
  | _ => []

def executed (history : List Entry) : List Command :=
  history.flatMap Entry.executed

/-- All commands that were acknowledged. -/
def acknowledged (xmlRead : XmlReader) (history : List Entry) : List Command :=
  history.flatMap fun entry =>
    entry.acknowledgedInRun xmlRead ++ entry.acknowledgedInReport xmlRead

theorem executed_append (newer earlier : List Entry) :
    executed (newer ++ earlier) = executed newer ++ executed earlier :=
  List.flatMap_append

variable {σ : Type} {setup : Setup σ}

/-- What a session passes on is what was acknowledged in it. -/
theorem passedOn_run {events : List String} {script : List HttpResponse} {session : Session σ}
    {outcome : SessionOutcome} {exchanges : List Exchange}
    (hrun : (CwmpSession.run setup.platform setup.xmlRead events script session).1 =
      (outcome, exchanges)) :
    passedOn outcome.rebootRequested outcome.rebootCommandKey outcome.download =
      acknowledgedAfter setup.xmlRead 1 exchanges := by
  have hcases := CwmpSession.run_cases setup.platform setup.xmlRead events script session
  simp only [hrun] at hcases
  rcases hcases with ⟨rfl, hlength⟩ | ⟨inform, response, rest, rfl, hend⟩
  · match exchanges, hlength with
    | [], _ => rfl
    | [_], _ => rfl
    | [_, _], _ => rfl
  · exact hend.passedOn_eq ⟨rfl, rfl, rfl⟩

/-- What follows a session executes what the session passed on. -/
theorem executed_inform {config between read : DaemonConfig} {events : List String}
    {outcome : SessionOutcome} {exchanges : List Exchange} {okRecorded okCleared : Bool × Bool}
    {transfer reboot history : List Entry}
    (htransfer : TransferEntries setup outcome.download transfer)
    (hreboot : RebootEntries outcome reboot) :
    (executed (followUp read (recordedEntries outcome config okRecorded)
      (clearedEntries outcome events between okCleared) transfer reboot ++
      .session events exchanges outcome :: history)).Perm
    (passedOn outcome.rebootRequested outcome.rebootCommandKey outcome.download ++
      executed history) := by
  have hrecorded : executed (recordedEntries outcome config okRecorded) = [] := by
    unfold recordedEntries
    split <;> rfl
  have hcleared : executed (clearedEntries outcome events between okCleared) = [] := by
    unfold clearedEntries
    split <;> rfl
  -- only the download and the reboot execute a command, each the one that was passed on
  have hdownload : executed transfer = (outcome.download.map Command.download).toList := by
    generalize outcome.download = request at htransfer
    cases htransfer <;> rfl
  have hrebooted : executed reboot =
      if outcome.rebootRequested then [.reboot outcome.rebootCommandKey] else [] := by
    cases hreboot with
    | none hnone => rw [hnone]; rfl
    | executed hrequested => rw [hrequested]; rfl
  have hsession : executed (.session events exchanges outcome :: history) = executed history := rfl
  have hread : ∀ entries, executed (.reading read :: entries) = executed entries := fun _ => rfl
  -- the newest entry is first, so the reboot comes before the download
  have hlist : executed (followUp read (recordedEntries outcome config okRecorded)
      (clearedEntries outcome events between okCleared) transfer reboot ++
      .session events exchanges outcome :: history) =
      executed reboot ++ executed transfer ++ executed history := by
    simp only [followUp, List.cons_append, hread, executed_append, hrecorded, hcleared, hsession,
      List.nil_append, List.append_assoc]
  rw [hlist, hdownload, hrebooted]
  exact List.perm_append_comm.append_right _

/-- What was acknowledged in the sessions of `run` is executed exactly once. -/
theorem executed_perm_turn {daemon daemon' : Daemon} {history history' : List Entry}
    (h : (executed history).Perm (history.flatMap (Entry.acknowledgedInRun setup.xmlRead)))
    (hturn : Turn setup daemon history daemon' history') :
    (executed history').Perm (history'.flatMap (Entry.acknowledgedInRun setup.xmlRead)) := by
  cases hturn with
  | @inform config events history s script exchanges outcome okRecorded okCleared between transfer
      reboot read config' place hrun htransfer hreboot hsame hplace =>
      -- what follows the session acknowledges nothing
      have haside : ∀ entry ∈ followUp read (recordedEntries outcome config okRecorded)
          (clearedEntries outcome events between okCleared) transfer reboot,
          Entry.acknowledgedInRun setup.xmlRead entry = [] := by
        intro entry hentry
        have haside := isAside_followUp htransfer hreboot entry hentry
        cases entry with
        | session => simp [Entry.isAside] at haside
        | _ => rfl
      have hlist : (followUp read (recordedEntries outcome config okRecorded)
          (clearedEntries outcome events between okCleared) transfer reboot ++
          .session events exchanges outcome :: history).flatMap
            (Entry.acknowledgedInRun setup.xmlRead) =
          acknowledgedAfter setup.xmlRead 1 exchanges ++
            history.flatMap (Entry.acknowledgedInRun setup.xmlRead) := by
        rw [List.flatMap_append, List.flatMap_eq_nil_iff.mpr haside]
        rfl
      rw [hlist, ← passedOn_run hrun]
      exact (executed_inform htransfer hreboot).trans (h.append_left _)
  | stop | idle | waited | reloaded | overwrite | stopped => exact h

/-- In every run: the commands that were executed are exactly those that were
acknowledged if and only if none was acknowledged in the report of a transfer. -/
theorem executed_perm_acknowledged_iff {daemon : Daemon} {world : World}
    (hreached : Reached setup daemon world) :
    (executed world.history).Perm (acknowledged setup.xmlRead world.history) ↔
      ∀ entry ∈ world.history, entry.acknowledgedInReport setup.xmlRead = [] := by
  have hruns : (executed world.history).Perm
      (world.history.flatMap (Entry.acknowledgedInRun setup.xmlRead)) := by
    refine hreached.invariant (I := fun _ history => (executed history).Perm
      (history.flatMap (Entry.acknowledgedInRun setup.xmlRead))) (.refl _)
      (fun _ _ _ => .refl _) ?_
    intro _ _ _ _ h _ hturn
    exact executed_perm_turn h hturn
  have hall : (acknowledged setup.xmlRead world.history).Perm
      (world.history.flatMap (Entry.acknowledgedInRun setup.xmlRead) ++
        world.history.flatMap (Entry.acknowledgedInReport setup.xmlRead)) :=
    (List.flatMap_append_perm _ _ _).symm
  rw [← List.flatMap_eq_nil_iff]
  constructor
  · intro hperm
    have hlength := (hruns.symm.trans (hperm.trans hall)).length_eq
    rw [List.length_append] at hlength
    exact List.eq_nil_of_length_eq_zero (by omega)
  · intro hnone
    rw [hnone, List.append_nil] at hall
    exact hruns.trans hall.symm

/-- An ACS that asks for a download, and for a reboot when it is reported. -/
def rebootAfterDownload (history : List Entry) : List HttpResponse :=
  if history.any fun entry => entry matches .downloaded .. then
    [{ status := 200, body := CwmpSession.informResponseXml },
     { status := 200, body := transferCompleteResponseXml },
     { status := 200, body := CwmpSession.rebootXml }, { status := 204 }]
  else downloadTask

/-- The equivalence for a download that is reported without a further command. -/
theorem onlyDownload_executed_iff :
    let world := ((deviceScenario fun _ => downloadTask).state 1).2
    (executed world.history).Perm (acknowledged deviceReader world.history) ↔
      ∀ entry ∈ world.history, entry.acknowledgedInReport deviceReader = [] :=
  executed_perm_acknowledged_iff ((deviceScenario fun _ => downloadTask).reached 1)

/-- The reboot is acknowledged and never executed. -/
theorem rebootAfterDownload_not_executed : ∃ daemon world,
    Reached (deviceScenario rebootAfterDownload).setup daemon world ∧
      ¬ (executed world.history).Perm (acknowledged deviceReader world.history) := by
  refine ⟨_, _, (deviceScenario rebootAfterDownload).reached 1, fun hperm => ?_⟩
  exact absurd hperm.length_eq (by decide)

end Tr069d
