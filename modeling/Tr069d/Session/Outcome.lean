import Tr069d.Session.Dialogue

/-!
# What a session tells the daemon to do

The outcome of a session is made up inside the loop, before it is known how the
session ends.  Still a reboot or a download is only in the outcome of a session that
succeeds, and it is the one that the last RPC asked for, whose response the ACS has
accepted (`run_outcome`).

* `Carries` compares an outcome with an RPC, and `LastAccepted` with the exchanges.
* `LoopEnd.outcome` is the loop, by induction on how it ended.
-/

namespace Tr069d.CwmpSession

open RpcHandler

variable {σ : Type} {platform : Platform σ} {xmlRead : XmlReader}

/-- The body that was delivered last: first, or by an exchange. -/
def lastBody (first : String) (exchanges : List Exchange) : String :=
  (exchanges.map (·.response.body)).getLastD first

/-- The outcome has what the RPC asks for, and nothing else. -/
def Carries (outcome : SessionOutcome) (rpc : ParsedRpc) : Prop :=
  (rpc.method = "Reboot" ∧ outcome.rebootRequested = true ∧
      outcome.rebootCommandKey = rpc.commandKey ∧ outcome.download = none) ∨
    (rpc.method = "Download" ∧ outcome.rebootRequested = false ∧ outcome.download.isSome ∧
      outcome.download = rpc.download)

/-- The last RPC of the exchanges is the one that the outcome carries, and its
response was accepted. -/
def LastAccepted (platform : Platform σ) (xmlRead : XmlReader) (first : String)
    (exchanges : List Exchange) (outcome : SessionOutcome) : Prop :=
  ∃ before last rpc s, exchanges = before ++ [last] ∧
    SoapParser.parseRpc xmlRead (lastBody first before) = .ok rpc ∧
    last.request = (handle platform rpc s).1.responseXml ∧ last.response.ok = true ∧
    Carries outcome rpc

/-- Neither a reboot nor a download. -/
def AsksNothing (outcome : SessionOutcome) : Prop :=
  outcome.rebootRequested = false ∧ outcome.download = none

theorem carries_of_passedOn {outcome : SessionOutcome} {rpc : ParsedRpc}
    (hcommand : (command rpc).isSome)
    (hpassed : passedOn outcome.rebootRequested outcome.rebootCommandKey outcome.download =
      (command rpc).toList) : Carries outcome rpc := by
  obtain ⟨success, rebootRequested, rebootCommandKey, download⟩ := outcome
  unfold command at hcommand hpassed
  split_ifs at hcommand hpassed with hreboot hdownload
  · -- one command is passed on, and it is no download
    cases download with
    | some request => cases hpassed
    | none =>
        cases rebootRequested with
        | false => cases hpassed
        | true =>
            obtain ⟨rfl⟩ : rebootCommandKey = rpc.commandKey := by simpa [passedOn] using hpassed
            exact Or.inl ⟨hreboot, rfl, rfl, rfl⟩
  · obtain ⟨request, hrequest⟩ : ∃ request, rpc.download = some request := by
      simpa [Option.isSome_iff_exists] using hcommand
    rw [hrequest] at hpassed
    cases download with
    | none => cases rebootRequested <;> cases hpassed
    | some other =>
        cases rebootRequested with
        | true => cases hpassed
        | false =>
            obtain ⟨rfl⟩ : other = request := by simpa [passedOn] using hpassed
            exact Or.inr ⟨hdownload, rfl, rfl, hrequest.symm⟩
  · cases hcommand

theorem LastAccepted.cons {first : String} {exchanges : List Exchange} {outcome : SessionOutcome}
    (exchange : Exchange)
    (h : LastAccepted platform xmlRead exchange.response.body exchanges outcome) :
    LastAccepted platform xmlRead first (exchange :: exchanges) outcome := by
  obtain ⟨before, last, rpc, s, rfl, hparse, h⟩ := h
  have hparse' : SoapParser.parseRpc xmlRead (lastBody first (exchange :: before)) = .ok rpc := by
    rw [lastBody, List.map_cons, List.getLastD_cons]
    exact hparse
  exact ⟨exchange :: before, last, rpc, s, rfl, hparse', h⟩

/-- The loop ends with nothing to do, or successfully with what its last RPC asked for. -/
theorem LoopEnd.outcome {outcome final : SessionOutcome} {script : List HttpResponse}
    {body : String} {s : σ} {exchanges : List Exchange}
    (h : LoopEnd platform xmlRead outcome script body s final exchanges) (hfresh : Fresh outcome) :
    AsksNothing final ∨
      final.success = true ∧ LastAccepted platform xmlRead body exchanges final := by
  induction h with
  | empty => exact Or.inl hfresh.2
  | malformed => exact Or.inl hfresh.2
  | postFailed => exact Or.inl hfresh.2
  | @command outcome response rest body s rpc _ hparse hok hcommand =>
      have hpassed := (passedOn_recordResult hfresh (handle platform rpc s).1).trans
        (passedOn_handle platform rpc s)
      exact Or.inr ⟨rfl, [], ⟨_, response⟩, rpc, s, rfl, hparse, rfl, hok,
        carries_of_passedOn hcommand hpassed⟩
  | next _ _ _ _ hfresh' _ ih =>
      exact (ih hfresh').imp_right fun ⟨hsuccess, hlast⟩ => ⟨hsuccess, hlast.cons _⟩

variable (platform xmlRead)

/-- A session has nothing for the daemon to do, or it has succeeded, and has what
the last RPC asked for, after the ACS accepted its response. -/
theorem run_outcome (events : List String) (script : List HttpResponse) (session : Session σ) :
    let result := (run platform xmlRead events script session).1
    AsksNothing result.1 ∨ result.1.success = true ∧
      ∃ inform response exchanges, result.2 = inform :: ⟨"", response⟩ :: exchanges ∧
        LastAccepted platform xmlRead response.body exchanges result.1 := by
  rcases run_cases platform xmlRead events script session with
    ⟨hfailed, _⟩ | ⟨inform, response, exchanges, hexchanges, hloop⟩
  · refine Or.inl ?_
    rw [hfailed]
    exact ⟨rfl, rfl⟩
  · exact (hloop.outcome ⟨rfl, rfl, rfl⟩).imp_right fun ⟨hsuccess, hlast⟩ =>
      ⟨hsuccess, inform, response, exchanges, hexchanges, hlast⟩

end Tr069d.CwmpSession
