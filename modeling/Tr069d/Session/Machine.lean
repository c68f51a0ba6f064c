import Tr069d.Session.Dialogue

/-!
# The state machine of a session

`CwmpStateMachine::transition` says whether it accepts a transition, and the session
never looks at that.  Here the session is written once more, over the operations
that it is made of, so that they can be watched: over its own operations it is the
session of `CwmpSession` (`perform_plain`), over `watching` it also notes what the
machine was asked and what it said, and is the same session besides
(`watches_perform`).

All requests are accepted, in every sequence of calls.  The machine is back in `Idle`
after the calls that fail at the Inform and those that come to the end, and after
no other (`calls_watched`): the later ways to fail leave it where it is, until the
next Inform resets it.
-/

namespace Tr069d

open RpcHandler

/-- `CwmpStateMachine::transition`: whether the transition is valid. -/
def CwmpState.valid : CwmpState → CwmpState → Bool
  | .idle, .connecting
  | .connecting, .informSent
  | .informSent, .rpcProcessing
  | .informSent, .sessionClose
  | .rpcProcessing, .rpcProcessing
  | .rpcProcessing, .sessionClose
  | .sessionClose, .idle => true
  | _, _ => false

theorem CwmpState.transition_eq (state next : CwmpState) :
    state.transition next = if state.valid next then next else state := by
  cases state <;> cases next <;> rfl

/-- What a session is made of, over any state: calls to the platform, identifiers, and
the operations of its state machine. -/
structure SessionOps (σ τ : Type) where
  onPlatform : {α : Type} → StateM σ α → StateM τ α
  nextId : StateM τ String
  transition : CwmpState → StateM τ Bool
  reset : StateM τ Unit

namespace SessionOps

variable {σ τ : Type} (ops : SessionOps σ τ) (platform : Platform σ) (xmlRead : XmlReader)

/-! ## The session over its operations -/

def log (level : LogLevel) (message : String) : StateM τ Unit :=
  ops.onPlatform (platform.log level message)

def beginInform (events : List String) (id : String) (response : HttpResponse) :
    StateM τ (Bool × Exchange) := do
  ops.reset
  let _ ← ops.transition .connecting
  ops.log platform .info ("CWMP Inform: events=" ++
    if events.isEmpty then "<none>" else CwmpSession.joinEvents events)
  ops.log platform .info "CWMP state: CONNECTING"
  let message ← ops.onPlatform (CwmpSession.informMessage platform id events)
  if !response.ok then
    ops.log platform .error ("[CWMP][SESSION] Inform failed id=" ++ id ++ ": " ++
      if response.error == "" then "HTTP " ++ toString response.status else response.error)
    ops.reset
    return (false, ⟨message, response⟩)
  else if !SoapParser.isMethod xmlRead response.body "InformResponse" then
    ops.log platform .error ("[CWMP][SESSION] ACS did not return InformResponse id=" ++ id)
    ops.reset
    return (false, ⟨message, response⟩)
  else
    let _ ← ops.transition .informSent
    ops.log platform .info "CWMP state: INFORM_SENT"
    return (true, ⟨message, response⟩)

def closeSession (outcome : SessionOutcome) : StateM τ SessionOutcome := do
  let _ ← ops.transition .sessionClose
  ops.log platform .info "CWMP state: SESSION_CLOSE"
  let _ ← ops.transition .idle
  return { outcome with success := true }

def postFailed (rpc : ParsedRpc) (outcome : SessionOutcome) (response : HttpResponse) :
    StateM τ SessionOutcome := do
  ops.log platform .error ("[CWMP][SESSION] RPC response POST failed method=" ++ rpc.method ++
    ": " ++ response.error)
  return outcome

def processAcsMessages (outcome : SessionOutcome) (script : List HttpResponse) (body : String) :
    StateM τ (SessionOutcome × List Exchange) := do
  if body = "" then return (← ops.closeSession platform outcome, [])
  else
    match SoapParser.parseRpc xmlRead body with
    | .error error => do
        ops.log platform .error ("[CWMP][SESSION] Cannot parse ACS RPC: " ++ error)
        return (outcome, [])
    | .ok rpc => do
        let _ ← ops.transition .rpcProcessing
        let handled ← ops.onPlatform (handle platform rpc)
        match script with
        | [] => do
            let response := (nextAnswer []).1
            return (← ops.postFailed platform rpc outcome response,
              [⟨handled.responseXml, response⟩])
        | response :: rest => do
            let exchange : Exchange := ⟨handled.responseXml, response⟩
            if !response.ok then
              return (← ops.postFailed platform rpc outcome response, [exchange])
            else
              let outcome := CwmpSession.recordResult outcome handled
              if outcome.rebootRequested || outcome.download.isSome then
                return (← ops.closeSession platform outcome, [exchange])
              else
                let (outcome, exchanges) ← processAcsMessages outcome rest response.body
                return (outcome, exchange :: exchanges)

def run (events : List String) (script : List HttpResponse) :
    StateM τ (SessionOutcome × List Exchange) := do
  let id ← ops.nextId
  let (response, script) := nextAnswer script
  let (began, inform) ← ops.beginInform platform xmlRead events id response
  if !began then return ({}, [inform])
  else
    let (response, script) := nextAnswer script
    if !response.ok then
      ops.log platform .error ("[CWMP][SESSION] Empty CWMP POST failed: " ++ response.error)
      return ({}, [inform, ⟨"", response⟩])
    else
      let (outcome, exchanges) ← ops.processAcsMessages platform xmlRead {} script response.body
      return (outcome, inform :: ⟨"", response⟩ :: exchanges)

def runTransferComplete (result : TransferResult) (script : List HttpResponse) :
    StateM τ (Bool × List Exchange) := do
  let id ← ops.nextId
  let (response, script) := nextAnswer script
  let (began, inform) ←
    ops.beginInform platform xmlRead ["7 TRANSFER COMPLETE", "M Download"] id response
  if !began then return (false, [inform])
  else
    let id ← ops.nextId
    let (response, script) := nextAnswer script
    let transfer : Exchange := ⟨SoapBuilder.transferComplete id result, response⟩
    if !response.ok || !SoapParser.isMethod xmlRead response.body "TransferCompleteResponse" then
      ops.log platform .error "[CWMP][SESSION] TransferComplete was not acknowledged"
      return (false, [inform, transfer])
    else
      let (response, script) := nextAnswer script
      if !response.ok then return (false, [inform, transfer, ⟨"", response⟩])
      else
        let (outcome, exchanges) ← ops.processAcsMessages platform xmlRead {} script response.body
        return (outcome.success, inform :: transfer :: ⟨"", response⟩ :: exchanges)

end SessionOps

/-- A call on a session, with the answers of the ACS. -/
inductive SessionCall
  | run (events : List String) (script : List HttpResponse)
  | transferComplete (result : TransferResult) (script : List HttpResponse)

/-- A call, and whether it succeeds. -/
def SessionOps.perform {σ τ : Type} (ops : SessionOps σ τ) (platform : Platform σ)
    (xmlRead : XmlReader) : SessionCall → StateM τ Bool
  | .run events script => do
      let (outcome, _) ← ops.run platform xmlRead events script
      return outcome.success
  | .transferComplete result script => do
      let (success, _) ← ops.runTransferComplete platform xmlRead result script
      return success

/-- The same call on the session of `CwmpSession`. -/
def CwmpSession.perform {σ : Type} (platform : Platform σ) (xmlRead : XmlReader) :
    SessionCall → StateM (Session σ) Bool
  | .run events script => do
      let (outcome, _) ← CwmpSession.run platform xmlRead events script
      return outcome.success
  | .transferComplete result script => do
      let (success, _) ← CwmpSession.runTransferComplete platform xmlRead result script
      return success

/-! ## The two kinds of operations -/

/-- The operations of the session itself. -/
def plain (σ : Type) : SessionOps σ (Session σ) where
  onPlatform := CwmpSession.onPlatform
  nextId := CwmpSession.nextId
  transition next := fun session =>
    (session.state.valid next, { session with state := session.state.transition next })
  reset := CwmpSession.reset

/-- A transition that the machine was asked for, and whether it was accepted. -/
structure Asked where
  next : CwmpState
  accepted : Bool
  deriving DecidableEq, Repr

/-- A session whose machine is watched, with what was asked so far. -/
structure Watched (σ : Type) where
  session : Session σ
  asked : List Asked := []

/-- An operation that is not one of the machine. -/
def unwatched {σ α : Type} (operation : StateM (Session σ) α) : StateM (Watched σ) α :=
  fun watched =>
    let (value, session) := operation watched.session
    (value, { watched with session })

/-- The same operations, with the requests to the machine noted. -/
def watching (σ : Type) : SessionOps σ (Watched σ) where
  onPlatform program := unwatched (CwmpSession.onPlatform program)
  nextId := unwatched CwmpSession.nextId
  transition next := fun watched =>
    let (accepted, session) := (plain σ).transition next watched.session
    (accepted, ⟨session, watched.asked ++ [⟨next, accepted⟩]⟩)
  reset := unwatched CwmpSession.reset

/-! ## The session is the one of `CwmpSession` -/

section Refinement

variable {σ : Type} (platform : Platform σ) (xmlRead : XmlReader)

theorem processAcsMessages_plain (outcome : SessionOutcome) (script : List HttpResponse)
    (body : String) :
    (plain σ).processAcsMessages platform xmlRead outcome script body =
      CwmpSession.processAcsMessages platform xmlRead outcome script body := by
  induction script generalizing outcome body with
  | nil =>
      rw [SessionOps.processAcsMessages.eq_def, CwmpSession.processAcsMessages.eq_def]
      rfl
  | cons response rest ih =>
      rw [SessionOps.processAcsMessages.eq_def, CwmpSession.processAcsMessages.eq_def]
      simp only [ih]
      rfl

theorem run_plain (events : List String) (script : List HttpResponse) :
    (plain σ).run platform xmlRead events script =
      CwmpSession.run platform xmlRead events script := by
  unfold SessionOps.run
  simp only [processAcsMessages_plain]
  rfl

theorem runTransferComplete_plain (result : TransferResult) (script : List HttpResponse) :
    (plain σ).runTransferComplete platform xmlRead result script =
      CwmpSession.runTransferComplete platform xmlRead result script := by
  unfold SessionOps.runTransferComplete
  simp only [processAcsMessages_plain]
  rfl

/-- Over its own operations the session is the one of `CwmpSession`. -/
theorem perform_plain (call : SessionCall) :
    (plain σ).perform platform xmlRead call = CwmpSession.perform platform xmlRead call := by
  cases call with
  | run events script =>
      simp only [SessionOps.perform, run_plain]
      rfl
  | transferComplete result script =>
      simp only [SessionOps.perform, runTransferComplete_plain]
      rfl

end Refinement

/-! ## Watching changes nothing -/

section Watching

variable {σ α β : Type}

/-- A watched operation that does what the other one does. -/
structure Watches (watched : StateM (Watched σ) α) (operation : StateM (Session σ) α) :
    Prop where
  value : ∀ before, (watched before).1 = (operation before.session).1
  session : ∀ before, (watched before).2.session = (operation before.session).2

theorem watches_pure (value : α) : Watches (pure value : StateM (Watched σ) α) (pure value) :=
  ⟨fun _ => rfl, fun _ => rfl⟩

theorem watches_onPlatform (program : StateM σ α) :
    Watches ((watching σ).onPlatform program) ((plain σ).onPlatform program) :=
  ⟨fun _ => rfl, fun _ => rfl⟩

theorem watches_nextId : Watches (watching σ).nextId (plain σ).nextId :=
  ⟨fun _ => rfl, fun _ => rfl⟩

theorem watches_reset : Watches (watching σ).reset (plain σ).reset :=
  ⟨fun _ => rfl, fun _ => rfl⟩

theorem watches_transition (next : CwmpState) :
    Watches ((watching σ).transition next) ((plain σ).transition next) :=
  ⟨fun _ => rfl, fun _ => rfl⟩

theorem Watches.bind {first : StateM (Watched σ) α} {first' : StateM (Session σ) α}
    {rest : α → StateM (Watched σ) β} {rest' : α → StateM (Session σ) β}
    (hfirst : Watches first first') (hrest : ∀ value, Watches (rest value) (rest' value)) :
    Watches (first >>= rest) (first' >>= rest') := by
  refine ⟨fun before => ?_, fun before => ?_⟩
  · rw [stateM_bind_apply, stateM_bind_apply, (hrest _).value, hfirst.value, hfirst.session]
  · rw [stateM_bind_apply, stateM_bind_apply, (hrest _).session, hfirst.value, hfirst.session]

variable (platform : Platform σ) (xmlRead : XmlReader)

theorem watches_log (level : LogLevel) (message : String) :
    Watches ((watching σ).log platform level message) ((plain σ).log platform level message) :=
  watches_onPlatform _

theorem watches_beginInform (events : List String) (id : String) (response : HttpResponse) :
    Watches ((watching σ).beginInform platform xmlRead events id response)
      ((plain σ).beginInform platform xmlRead events id response) := by
  unfold SessionOps.beginInform
  refine .bind watches_reset fun _ => .bind (watches_transition _) fun _ =>
    .bind (watches_log ..) fun _ => .bind (watches_log ..) fun _ =>
    .bind (watches_onPlatform _) fun message => ?_
  split
  · exact .bind (watches_log ..) fun _ => .bind watches_reset fun _ => watches_pure _
  · split
    · exact .bind (watches_log ..) fun _ => .bind watches_reset fun _ => watches_pure _
    · exact .bind (watches_transition _) fun _ => .bind (watches_log ..) fun _ => watches_pure _

theorem watches_closeSession (outcome : SessionOutcome) :
    Watches ((watching σ).closeSession platform outcome)
      ((plain σ).closeSession platform outcome) :=
  .bind (watches_transition _) fun _ => .bind (watches_log ..) fun _ =>
    .bind (watches_transition _) fun _ => watches_pure _

theorem watches_postFailed (rpc : ParsedRpc) (outcome : SessionOutcome)
    (response : HttpResponse) :
    Watches ((watching σ).postFailed platform rpc outcome response)
      ((plain σ).postFailed platform rpc outcome response) :=
  .bind (watches_log ..) fun _ => watches_pure _

theorem watches_processAcsMessages (outcome : SessionOutcome) (script : List HttpResponse)
    (body : String) :
    Watches ((watching σ).processAcsMessages platform xmlRead outcome script body)
      ((plain σ).processAcsMessages platform xmlRead outcome script body) := by
  induction script generalizing outcome body with
  | nil =>
      -- both bodies are the same program over different operations
      rw [SessionOps.processAcsMessages.eq_def, SessionOps.processAcsMessages.eq_def (plain σ)]
      split
      · exact .bind (watches_closeSession ..) fun _ => watches_pure _
      · split
        · exact .bind (watches_log ..) fun _ => watches_pure _
        · exact .bind (watches_transition _) fun _ => .bind (watches_onPlatform _) fun _ =>
            .bind (watches_postFailed ..) fun _ => watches_pure _
  | cons response rest ih =>
      rw [SessionOps.processAcsMessages.eq_def, SessionOps.processAcsMessages.eq_def (plain σ)]
      split
      · exact .bind (watches_closeSession ..) fun _ => watches_pure _
      · split
        · exact .bind (watches_log ..) fun _ => watches_pure _
        · refine .bind (watches_transition _) fun _ => .bind (watches_onPlatform _) fun _ => ?_
          dsimp only
          split
          · exact .bind (watches_postFailed ..) fun _ => watches_pure _
          · split
            · exact .bind (watches_closeSession ..) fun _ => watches_pure _
            · exact .bind (ih ..) fun _ => watches_pure _

theorem watches_run (events : List String) (script : List HttpResponse) :
    Watches ((watching σ).run platform xmlRead events script)
      ((plain σ).run platform xmlRead events script) := by
  unfold SessionOps.run
  generalize nextAnswer script = inform
  generalize nextAnswer inform.2 = empty
  refine .bind watches_nextId fun _ => .bind (watches_beginInform ..) fun (began, _) => ?_
  dsimp only
  split
  · exact watches_pure _
  · split
    · exact .bind (watches_log ..) fun _ => watches_pure _
    · exact .bind (watches_processAcsMessages ..) fun _ => watches_pure _

theorem watches_runTransferComplete (result : TransferResult) (script : List HttpResponse) :
    Watches ((watching σ).runTransferComplete platform xmlRead result script)
      ((plain σ).runTransferComplete platform xmlRead result script) := by
  unfold SessionOps.runTransferComplete
  generalize nextAnswer script = inform
  generalize nextAnswer inform.2 = transfer
  generalize nextAnswer transfer.2 = empty
  refine .bind watches_nextId fun _ => .bind (watches_beginInform ..) fun (began, _) => ?_
  dsimp only
  split
  · exact watches_pure _
  · refine .bind watches_nextId fun _ => ?_
    split
    · exact .bind (watches_log ..) fun _ => watches_pure _
    · split
      · exact watches_pure _
      · exact .bind (watches_processAcsMessages ..) fun _ => watches_pure _

/-- A watched call is the call of `CwmpSession`. -/
theorem watches_perform (call : SessionCall) :
    Watches ((watching σ).perform platform xmlRead call)
      (CwmpSession.perform platform xmlRead call) := by
  rw [← perform_plain]
  cases call with
  | run events script => exact .bind (watches_run ..) fun _ => watches_pure _
  | transferComplete result script =>
      exact .bind (watches_runTransferComplete ..) fun _ => watches_pure _

end Watching

/-! ## What the machine is asked -/

section Requests

variable {σ : Type} (platform : Platform σ) (xmlRead : XmlReader)

/-- The machine has accepted all requests. -/
def Accepted (watched : Watched σ) : Prop :=
  ∀ asked ∈ watched.asked, asked.accepted = true

/-- The session can go on to the next RPC, or close. -/
def Open (watched : Watched σ) : Prop :=
  watched.session.state = .informSent ∨ watched.session.state = .rpcProcessing

theorem Accepted.transition {watched : Watched σ} (h : Accepted watched) {next : CwmpState}
    (hvalid : watched.session.state.valid next = true) :
    Accepted ((watching σ).transition next watched).2 ∧
      ((watching σ).transition next watched).2.session.state = next := by
  constructor
  · intro asked hasked
    rcases List.mem_append.mp hasked with hasked | hasked
    · exact h asked hasked
    · rw [List.mem_singleton.mp hasked]
      exact hvalid
  · exact (watched.session.state.transition_eq next).trans (if_pos hvalid)

theorem Open.valid {watched : Watched σ} (h : Open watched) :
    watched.session.state.valid .rpcProcessing = true ∧
      watched.session.state.valid .sessionClose = true := by
  rcases h with h | h <;> rw [h] <;> exact ⟨rfl, rfl⟩

theorem Open.ne_idle {watched : Watched σ} (h : Open watched) :
    watched.session.state ≠ .idle := by
  rcases h with h | h <;> rw [h] <;> simp

def informed (response : HttpResponse) : Bool :=
  response.ok && SoapParser.isMethod xmlRead response.body "InformResponse"

theorem beginInform_watched {watched : Watched σ} (h : Accepted watched) (events : List String)
    (id : String) (response : HttpResponse) :
    let began := (watching σ).beginInform platform xmlRead events id response watched
    Accepted began.2 ∧ began.1.1 = informed xmlRead response ∧
      began.2.session.state = if informed xmlRead response then .informSent else .idle := by
  -- the machine is reset before it is asked for anything
  have hconnecting := (show Accepted ((watching σ).reset watched).2 from h).transition
    (show CwmpState.idle.valid .connecting = true from rfl)
  simp only [SessionOps.beginInform, informed, stateM_bind_apply]
  by_cases hok : response.ok = true
  · by_cases hmethod : SoapParser.isMethod xmlRead response.body "InformResponse" = true
    · simp only [hok, hmethod, Bool.not_true, Bool.false_eq_true, if_false]
      exact ⟨(hconnecting.1.transition rfl).1, rfl, rfl⟩
    · simp only [hok, hmethod, Bool.not_true, Bool.not_false, Bool.false_eq_true, if_false, if_true]
      exact ⟨hconnecting.1, rfl, rfl⟩
  · simp only [hok, Bool.not_false, if_true]
    exact ⟨hconnecting.1, rfl, rfl⟩

theorem closeSession_watched {watched : Watched σ} (h : Accepted watched)
    (hopen : Open watched) (outcome : SessionOutcome) :
    let closed := ((watching σ).closeSession platform outcome watched).2
    Accepted closed ∧ closed.session.state = .idle := by
  obtain ⟨hclosing, hstate⟩ := h.transition hopen.valid.2
  have hlog : ((watching σ).log platform .info "CWMP state: SESSION_CLOSE"
      ((watching σ).transition .sessionClose watched).2).2.session.state = .sessionClose := hstate
  exact Accepted.transition (show Accepted ((watching σ).log platform .info
    "CWMP state: SESSION_CLOSE" ((watching σ).transition .sessionClose watched).2).2 from hclosing)
    (by rw [hlog]; rfl)

/-- Whether the bodies that the ACS sends are RPCs whose responses it accepts, up to
an empty one or to a `Reboot` or `Download`. -/
def closes : List HttpResponse → String → Bool
  | [], body => body == ""
  | response :: rest, body => body == "" ||
      match SoapParser.parseRpc xmlRead body with
      | .error _ => false
      | .ok rpc => response.ok && ((command rpc).isSome || closes rest response.body)

theorem processAcsMessages_empty (outcome : SessionOutcome) (script : List HttpResponse)
    {watched : Watched σ} (h : Accepted watched) (hopen : Open watched) :
    let after := ((watching σ).processAcsMessages platform xmlRead outcome script "" watched).2
    Accepted after ∧ (after.session.state = .idle ↔ closes xmlRead script "" = true) := by
  obtain ⟨haccepted, hstate⟩ := closeSession_watched platform h hopen outcome
  rw [SessionOps.processAcsMessages.eq_def, if_pos rfl]
  exact ⟨haccepted, iff_of_true hstate (by cases script <;> rfl)⟩

/-- The loop keeps the session open until it closes it, and then it stops. -/
theorem processAcsMessages_watched {outcome : SessionOutcome}
    (hfresh : CwmpSession.Fresh outcome) (script : List HttpResponse) (body : String)
    {watched : Watched σ} (h : Accepted watched) (hopen : Open watched) :
    let after := ((watching σ).processAcsMessages platform xmlRead outcome script body watched).2
    Accepted after ∧ (after.session.state = .idle ↔ closes xmlRead script body = true) := by
  induction script generalizing outcome body watched with
  | nil =>
      by_cases hbody : body = ""
      · exact hbody ▸ processAcsMessages_empty platform xmlRead outcome [] h hopen
      · rw [SessionOps.processAcsMessages.eq_def, if_neg hbody]
        have hcloses : closes xmlRead [] body ≠ true := by simpa [closes] using hbody
        cases hparse : SoapParser.parseRpc xmlRead body with
        | error error => exact ⟨h, iff_of_false hopen.ne_idle hcloses⟩
        | ok rpc =>
            obtain ⟨haccepted, hstate⟩ := h.transition hopen.valid.1
            exact ⟨haccepted, iff_of_false (Open.ne_idle (Or.inr hstate)) hcloses⟩
  | cons response rest ih =>
      by_cases hbody : body = ""
      · exact hbody ▸ processAcsMessages_empty platform xmlRead outcome _ h hopen
      · rw [SessionOps.processAcsMessages.eq_def, if_neg hbody]
        cases hparse : SoapParser.parseRpc xmlRead body with
        | error error =>
            exact ⟨h, iff_of_false hopen.ne_idle (by simp [closes, hbody, hparse])⟩
        | ok rpc =>
            obtain ⟨haccepted, hstate⟩ := h.transition hopen.valid.1
            -- the RPC is handled in the state that the transition leads to
            let handled := (watching σ).onPlatform (handle platform rpc)
              ((watching σ).transition .rpcProcessing watched).2
            have hhandled : Accepted handled.2 := haccepted
            have hopen' : Open handled.2 := Or.inr hstate
            by_cases hok : response.ok = true
            · have hbreak : ((CwmpSession.recordResult outcome handled.1).rebootRequested ||
                  (CwmpSession.recordResult outcome handled.1).download.isSome) =
                    (command rpc).isSome :=
                CwmpSession.isSome_command_iff hfresh rpc watched.session.platformState
              simp only [stateM_bind_apply, hok, Bool.not_true, Bool.false_eq_true, if_false]
              cases hcommand : command rpc with
              | some found =>
                  obtain ⟨haccepted', hstate'⟩ := closeSession_watched platform hhandled hopen'
                    (CwmpSession.recordResult outcome handled.1)
                  rw [hcommand, Option.isSome_some] at hbreak
                  rw [if_pos hbreak]
                  exact ⟨haccepted', iff_of_true hstate' (by simp [closes, hparse, hok, hcommand])⟩
              | none =>
                  have hfresh' : CwmpSession.Fresh (CwmpSession.recordResult outcome handled.1) :=
                    CwmpSession.fresh_handle hfresh hcommand watched.session.platformState
                  have hrest := ih hfresh' response.body hhandled hopen'
                  rw [hcommand, Option.isSome_none] at hbreak
                  rw [if_neg (by rw [hbreak]; exact Bool.false_ne_true)]
                  exact ⟨hrest.1, hrest.2.trans (by simp [closes, hbody, hparse, hok, hcommand])⟩
            · simp only [stateM_bind_apply, hok, Bool.not_false, if_true]
              exact ⟨hhandled, iff_of_false hopen'.ne_idle (by simp [closes, hbody, hparse, hok])⟩

/-- The calls that fail at the Inform, and those that come to the end. -/
def endsInIdle : SessionCall → Bool
  | .run _ script =>
      let (inform, script) := nextAnswer script
      let (empty, script) := nextAnswer script
      !informed xmlRead inform || empty.ok && closes xmlRead script empty.body
  | .transferComplete _ script =>
      let (inform, script) := nextAnswer script
      let (transfer, script) := nextAnswer script
      let (empty, script) := nextAnswer script
      !informed xmlRead inform ||
        transfer.ok && SoapParser.isMethod xmlRead transfer.body "TransferCompleteResponse" &&
          empty.ok && closes xmlRead script empty.body

theorem run_watched (events : List String) (script : List HttpResponse) {watched : Watched σ}
    (h : Accepted watched) :
    let after := ((watching σ).run platform xmlRead events script watched).2
    Accepted after ∧
      (after.session.state = .idle ↔ endsInIdle xmlRead (.run events script) = true) := by
  simp only [SessionOps.run, endsInIdle, stateM_bind_apply]
  generalize nextAnswer script = inform
  generalize nextAnswer inform.2 = empty
  obtain ⟨haccepted, hbegan, hstate⟩ := beginInform_watched platform xmlRead
    (show Accepted ((watching σ).nextId watched).2 from h) events
    ((watching σ).nextId watched).1 inform.1
  rw [hbegan]
  cases hinformed : informed xmlRead inform.1 with
  | false =>
      rw [hinformed] at hstate
      exact ⟨haccepted, iff_of_true hstate rfl⟩
  | true =>
      -- once informed, the session is open until the loop closes it
      have hopen : Open ((watching σ).beginInform platform xmlRead events
          ((watching σ).nextId watched).1 inform.1 ((watching σ).nextId watched).2).2 :=
        Or.inl (by rw [hstate, hinformed]; rfl)
      by_cases hok : empty.1.ok = true
      · simp only [hok, Bool.not_true, Bool.false_eq_true, if_false, Bool.false_or, Bool.true_and]
        exact processAcsMessages_watched platform xmlRead ⟨rfl, rfl, rfl⟩ empty.2 empty.1.body
          haccepted hopen
      · simp only [hok, Bool.not_true, Bool.not_false, Bool.false_eq_true, if_false, if_true,
          Bool.false_or, Bool.false_and, iff_false]
        exact ⟨haccepted, hopen.ne_idle⟩

theorem runTransferComplete_watched (result : TransferResult) (script : List HttpResponse)
    {watched : Watched σ} (h : Accepted watched) :
    let after := ((watching σ).runTransferComplete platform xmlRead result script watched).2
    Accepted after ∧ (after.session.state = .idle ↔
      endsInIdle xmlRead (.transferComplete result script) = true) := by
  simp only [SessionOps.runTransferComplete, endsInIdle, stateM_bind_apply]
  generalize nextAnswer script = inform
  generalize nextAnswer inform.2 = transfer
  generalize nextAnswer transfer.2 = empty
  obtain ⟨haccepted, hbegan, hstate⟩ := beginInform_watched platform xmlRead
    (show Accepted ((watching σ).nextId watched).2 from h) ["7 TRANSFER COMPLETE", "M Download"]
    ((watching σ).nextId watched).1 inform.1
  rw [hbegan]
  cases hinformed : informed xmlRead inform.1 with
  -- the ACS did not take the Inform: the session is reset at once
  | false =>
      rw [hinformed] at hstate
      exact ⟨haccepted, iff_of_true hstate rfl⟩
  | true =>
      let named := (watching σ).nextId ((watching σ).beginInform platform xmlRead
        ["7 TRANSFER COMPLETE", "M Download"] ((watching σ).nextId watched).1 inform.1
        ((watching σ).nextId watched).2).2
      have haccepted' : Accepted named.2 := haccepted
      -- once informed, the session is open until the loop closes it
      have hopen : Open named.2 := Or.inl (hstate.trans (by rw [hinformed]; rfl))
      simp only [← Bool.not_and]
      cases hreported : (transfer.1.ok &&
          SoapParser.isMethod xmlRead transfer.1.body "TransferCompleteResponse") with
      -- the result was not taken: the session stays open, and its state with it
      | false =>
          simp only [Bool.not_true, Bool.not_false, Bool.false_eq_true, if_false, if_true,
            Bool.false_or, Bool.false_and, iff_false]
          exact ⟨haccepted', hopen.ne_idle⟩
      | true =>
          simp only [Bool.not_true, Bool.false_eq_true, if_false, Bool.false_or, Bool.true_and]
          by_cases hok : empty.1.ok = true
          · simp only [hok, Bool.not_true, Bool.false_eq_true, if_false, Bool.true_and]
            exact processAcsMessages_watched platform xmlRead ⟨rfl, rfl, rfl⟩ empty.2 empty.1.body
              haccepted' hopen
          · simp only [hok, Bool.not_false, if_true, Bool.false_and, Bool.false_eq_true, iff_false]
            exact ⟨haccepted', hopen.ne_idle⟩

theorem perform_watched (call : SessionCall) {watched : Watched σ} (h : Accepted watched) :
    let after := ((watching σ).perform platform xmlRead call watched).2
    Accepted after ∧ (after.session.state = .idle ↔ endsInIdle xmlRead call = true) := by
  cases call with
  | run events script => exact run_watched platform xmlRead events script h
  | transferComplete result script =>
      exact runTransferComplete_watched platform xmlRead result script h

/-! ## Any sequence of calls -/

/-- The session after these calls, one after the other. -/
def performAll (calls : List SessionCall) (watched : Watched σ) : Watched σ :=
  calls.foldl (fun watched call => ((watching σ).perform platform xmlRead call watched).2) watched

theorem performAll_watched (calls : List SessionCall) {watched : Watched σ}
    (h : Accepted watched) : Accepted (performAll platform xmlRead calls watched) := by
  induction calls generalizing watched with
  | nil => exact h
  | cons call calls ih => exact ih (perform_watched platform xmlRead call h).1

/-- The watched session is the one that `CwmpSession` leaves. -/
theorem session_performAll (calls : List SessionCall) (watched : Watched σ) :
    (performAll platform xmlRead calls watched).session =
      calls.foldl (fun session call => (CwmpSession.perform platform xmlRead call session).2)
        watched.session := by
  induction calls generalizing watched with
  | nil => rfl
  | cons call calls ih =>
      exact (ih _).trans (by rw [(watches_perform platform xmlRead call).session]; rfl)

/-- Whatever was called before, the machine accepts all that it is asked for, and it is
back in `Idle` after the calls of `endsInIdle` and after no others. -/
theorem calls_watched (before : List SessionCall) (call : SessionCall) (session : Session σ) :
    let after := performAll platform xmlRead (before ++ [call]) ⟨session, []⟩
    Accepted after ∧ (after.session.state = .idle ↔ endsInIdle xmlRead call = true) := by
  have hbefore : Accepted (performAll platform xmlRead before ⟨session, []⟩) :=
    performAll_watched platform xmlRead before (List.forall_mem_nil _)
  simp only [performAll, List.foldl_append]
  exact perform_watched platform xmlRead call hbefore

end Requests

/-- The ACS accepts the Inform, and is gone when the session polls it. -/
theorem goneAfterInform_not_idle :
    let after := performAll CwmpSession.uciPlatform CwmpSession.sampleReader
      [.run ["1 BOOT"] [{ status := 200, body := CwmpSession.informResponseXml }]]
      ⟨CwmpSession.freshSession, []⟩
    after.session.state ≠ .idle := by
  intro after
  have hstate : after.session.state = .informSent := rfl
  simp [hstate]

end Tr069d
