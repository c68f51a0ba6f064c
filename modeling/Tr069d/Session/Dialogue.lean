import Tr069d.Session.CwmpSession
import Tr069d.Transformer.AllOrNothing

/-!
# What a session answers

The bodies that the ACS delivers after the empty POST, and the messages that the
session answers them with.  A session that succeeds has answered all of them in
order, except for one that may come as the answer to a `RebootResponse` or a
`DownloadResponse`: these end the exchange (`answered_of_success`).

* `Answered` splits what was delivered into what was answered and what is left over.
* `LoopEnd` lists the ends of the loop, `loopEnd_processAcsMessages` says that there are no
  others, and `LoopEnd.answered` is the induction on them.
* `rebootThenNames_not_answered` has a body that is left over.
-/

namespace Tr069d

open RpcHandler

theorem stateM_bind_apply {σ α β : Type} (x : StateM σ α) (f : α → StateM σ β) (s : σ) :
    (x >>= f) s = f (x s).1 (x s).2 := rfl

theorem stateM_pure_apply {σ α : Type} (value : α) (s : σ) :
    (pure value : StateM σ α) s = (value, s) := rfl

variable {σ : Type} (platform : Platform σ) (xmlRead : XmlReader)

namespace RpcHandler

/-- Handling a `SetParameterValues` passes nothing on, whatever the transformer says. -/
theorem passedOn_setParameterValues (id : String) (rpc : ParsedRpc) (s : σ) :
    let result := (setParameterValues platform id rpc s).1
    passedOn result.requestReboot result.rebootCommandKey result.download = [] := by
  simp only [setParameterValues, stateM_bind_apply]
  split <;> rfl

/-- What `handle` passes on is what the RPC carries. -/
theorem passedOn_handle (rpc : ParsedRpc) (s : σ) :
    let result := (handle platform rpc s).1
    passedOn result.requestReboot result.rebootCommandKey result.download =
      (command rpc).toList := by
  simp only [handle, command, stateM_bind_apply]
  by_cases hvalues : rpc.method = "GetParameterValues"
  · simp only [hvalues, if_true, String.reduceEq, if_false]
    rfl
  by_cases hnames : rpc.method = "GetParameterNames"
  · simp only [hnames, if_true, String.reduceEq, if_false]
    rfl
  by_cases hset : rpc.method = "SetParameterValues"
  · simp only [hset, if_true, String.reduceEq, if_false]
    exact passedOn_setParameterValues platform _ rpc _
  by_cases hreboot : rpc.method = "Reboot"
  · simp only [hreboot, if_true, String.reduceEq, if_false]
    rfl
  by_cases hdownload : rpc.method = "Download"
  · simp only [hdownload, if_true, String.reduceEq, if_false, decide_true]
    cases rpc.download <;> rfl
  · simp only [hvalues, hnames, hset, hreboot, hdownload, if_false, decide_false]
    rfl

end RpcHandler

namespace CwmpSession

/-- The messages that `handle` builds for these bodies, one after the other, if
all of them can be parsed. -/
def answerAll : List String → StateM σ (Option (List String))
  | [] => return some []
  | body :: rest =>
      match SoapParser.parseRpc xmlRead body with
      | .error _ => return none
      | .ok rpc => do
          let handled ← handle platform rpc
          let others ← answerAll rest
          return others.map (handled.responseXml :: ·)

/-- The bodies that are delivered first and with the exchanges, if not empty. -/
def delivered (first : String) (exchanges : List Exchange) : List String :=
  (first :: exchanges.map (·.response.body)).filter (· ≠ "")

/-- The commands whose responses the ACS accepts. -/
def acknowledged (xmlRead : XmlReader) : String → List Exchange → List Command
  | _, [] => []
  | body, exchange :: rest =>
      (match SoapParser.parseRpc xmlRead body with
        | .ok rpc => if exchange.response.ok then (command rpc).toList else []
        | .error _ => []) ++
      acknowledged xmlRead exchange.response.body rest

/-- All bodies are answered, except for one that comes after a command. -/
structure Answered (bodies : List String) (s : σ) (requests answered leftover : List String) :
    Prop where
  split : bodies = answered ++ leftover
  requests : (answerAll platform xmlRead answered s).1 = some requests
  leftover : leftover = [] ∨ leftover.length = 1 ∧ ∃ before last rpc,
    answered = before ++ [last] ∧ SoapParser.parseRpc xmlRead last = .ok rpc ∧
      (command rpc).isSome

/-- An outcome that has nothing to pass on yet. -/
def Fresh (outcome : SessionOutcome) : Prop :=
  outcome.success = false ∧ outcome.rebootRequested = false ∧ outcome.download = none

variable {platform xmlRead}

/-- Recording a result passes on what the result does. -/
theorem passedOn_recordResult {outcome : SessionOutcome} (hfresh : Fresh outcome)
    (handled : RpcResult) :
    let recorded := recordResult outcome handled
    passedOn recorded.rebootRequested recorded.rebootCommandKey recorded.download =
      passedOn handled.requestReboot handled.rebootCommandKey handled.download := by
  obtain ⟨_, hreboot, hdownload⟩ := hfresh
  obtain ⟨_, requestReboot, _, download⟩ := handled
  cases requestReboot <;> cases download <;>
    simp [recordResult, passedOn, hreboot, hdownload]

/-- The loop breaks exactly after a command. -/
theorem isSome_command_iff {outcome : SessionOutcome} (hfresh : Fresh outcome) (rpc : ParsedRpc)
    (s : σ) :
    ((recordResult outcome (handle platform rpc s).1).rebootRequested ||
      (recordResult outcome (handle platform rpc s).1).download.isSome) =
        (command rpc).isSome := by
  have hpassed := (passedOn_recordResult hfresh (handle platform rpc s).1).trans
    (passedOn_handle platform rpc s)
  revert hpassed
  generalize recordResult outcome (handle platform rpc s).1 = recorded
  intro hpassed
  cases hreboot : recorded.rebootRequested <;> cases hdownload : recorded.download <;>
    cases hcommand : command rpc <;> simp_all [passedOn]

/-- Without a command the outcome stays as it is. -/
theorem fresh_recordResult {outcome : SessionOutcome} (hfresh : Fresh outcome)
    {handled : RpcResult} (hreboot : (recordResult outcome handled).rebootRequested = false)
    (hdownload : (recordResult outcome handled).download = none) :
    Fresh (recordResult outcome handled) := by
  refine ⟨?_, hreboot, hdownload⟩
  obtain ⟨_, requestReboot, _, download⟩ := handled
  cases requestReboot <;> cases download <;> exact hfresh.1

theorem fresh_handle {outcome : SessionOutcome} (hfresh : Fresh outcome) {rpc : ParsedRpc}
    (hcommand : command rpc = none) (s : σ) :
    Fresh (recordResult outcome (handle platform rpc s).1) := by
  have hbreak := @isSome_command_iff σ platform outcome hfresh rpc s
  rw [hcommand, Option.isSome_none, Bool.or_eq_false_iff] at hbreak
  exact fresh_recordResult hfresh hbreak.1 (by simpa using hbreak.2)

/-- What the loop does, by the way it ends. -/
inductive LoopEnd (platform : Platform σ) (xmlRead : XmlReader) :
    SessionOutcome → List HttpResponse → String → σ → SessionOutcome → List Exchange → Prop
  | empty {outcome script s} : LoopEnd platform xmlRead outcome script "" s
      { outcome with success := true } []
  | malformed {outcome script body s error} (hbody : body ≠ "")
      (hparse : SoapParser.parseRpc xmlRead body = .error error) :
      LoopEnd platform xmlRead outcome script body s outcome []
  | postFailed {outcome script body s rpc} (hbody : body ≠ "")
      (hparse : SoapParser.parseRpc xmlRead body = .ok rpc)
      (hfailed : (nextAnswer script).1.ok = false) :
      LoopEnd platform xmlRead outcome script body s outcome
        [⟨(handle platform rpc s).1.responseXml, (nextAnswer script).1⟩]
  | command {outcome response rest body s rpc} (hbody : body ≠ "")
      (hparse : SoapParser.parseRpc xmlRead body = .ok rpc) (hok : response.ok = true)
      (hcommand : (command rpc).isSome) :
      LoopEnd platform xmlRead outcome (response :: rest) body s
        { recordResult outcome (handle platform rpc s).1 with success := true }
        [⟨(handle platform rpc s).1.responseXml, response⟩]
  | next {outcome response rest body s rpc final exchanges} (hbody : body ≠ "")
      (hparse : SoapParser.parseRpc xmlRead body = .ok rpc) (hok : response.ok = true)
      (hcommand : command rpc = none)
      (hfresh : Fresh (recordResult outcome (handle platform rpc s).1))
      (hrest : LoopEnd platform xmlRead (recordResult outcome (handle platform rpc s).1) rest
        response.body (handle platform rpc s).2 final exchanges) :
      LoopEnd platform xmlRead outcome (response :: rest) body s final
        (⟨(handle platform rpc s).1.responseXml, response⟩ :: exchanges)

theorem loopEnd_processAcsMessages {outcome : SessionOutcome} (hfresh : Fresh outcome)
    (script : List HttpResponse) (body : String) (session : Session σ) :
    let result := (processAcsMessages platform xmlRead outcome script body session).1
    LoopEnd platform xmlRead outcome script body session.platformState result.1 result.2 := by
  -- the loop is structural on the answers that are still to come
  induction script generalizing outcome body session with
  | nil =>
      rw [processAcsMessages.eq_def]
      split_ifs with hbody
      · rw [hbody]
        exact .empty
      · cases hparse : SoapParser.parseRpc xmlRead body with
        | error error => exact .malformed hbody hparse
        | ok rpc => exact .postFailed hbody hparse rfl
  | cons response rest ih =>
      rw [processAcsMessages.eq_def]
      split_ifs with hbody
      · rw [hbody]
        exact .empty
      · cases hparse : SoapParser.parseRpc xmlRead body with
        | error error => exact .malformed hbody hparse
        | ok rpc =>
            have hhandled : (onPlatform (handle platform rpc)
                (transition .rpcProcessing session).2).1 =
                  (handle platform rpc session.platformState).1 := rfl
            simp only [stateM_bind_apply, hhandled]
            -- the flags are fresh, so the loop stops exactly for a command in this body
            have hbreak := @isSome_command_iff σ platform outcome hfresh rpc
              session.platformState
            cases hok : response.ok with
            | false => exact .postFailed hbody hparse hok
            | true =>
                rw [Bool.not_true, if_neg Bool.false_ne_true]
                cases hcommand : command rpc with
                | some found =>
                    rw [hcommand, Option.isSome_some] at hbreak
                    rw [if_pos hbreak]
                    exact .command hbody hparse hok (by rw [hcommand]; rfl)
                | none =>
                    rw [hcommand, Option.isSome_none] at hbreak
                    have hfresh' : Fresh (recordResult outcome
                        (handle platform rpc session.platformState).1) :=
                      fresh_handle hfresh hcommand session.platformState
                    rw [if_neg (by rw [hbreak]; exact Bool.false_ne_true)]
                    have hrest := ih hfresh' response.body (onPlatform (handle platform rpc)
                      (transition .rpcProcessing session).2).2
                    exact .next hbody hparse hok hcommand hfresh' hrest

/-! ## What the ends of the loop have in common -/

/-- The outcome passes on exactly the commands that were acknowledged. -/
theorem LoopEnd.passedOn_eq {outcome final : SessionOutcome} {script : List HttpResponse}
    {body : String} {s : σ} {exchanges : List Exchange}
    (h : LoopEnd platform xmlRead outcome script body s final exchanges) (hfresh : Fresh outcome) :
    passedOn final.rebootRequested final.rebootCommandKey final.download =
      acknowledged xmlRead body exchanges := by
  have hnothing : ∀ outcome : SessionOutcome, Fresh outcome →
      passedOn outcome.rebootRequested outcome.rebootCommandKey outcome.download = [] := by
    rintro outcome ⟨_, hreboot, hdownload⟩
    simp [passedOn, hreboot, hdownload]
  induction h with
  | @empty outcome => exact hnothing outcome hfresh
  | @malformed outcome => exact hnothing outcome hfresh
  | @postFailed outcome script _ _ _ _ hparse hfailed =>
      rw [hnothing outcome hfresh]
      simp [acknowledged, hparse, hfailed]
  | @command outcome response rest body s rpc _ hparse hok =>
      simp only [acknowledged, hparse, hok, if_true, List.append_nil]
      exact (passedOn_recordResult hfresh _).trans (passedOn_handle platform rpc s)
  | next _ hparse hok hcommand hfresh' _ ih =>
      simp [acknowledged, hparse, hok, hcommand, ih hfresh']

/-- A session that passes something on is a success. -/
theorem LoopEnd.success {outcome final : SessionOutcome} {script : List HttpResponse}
    {body : String} {s : σ} {exchanges : List Exchange}
    (h : LoopEnd platform xmlRead outcome script body s final exchanges) (hfresh : Fresh outcome)
    (hpassed : final.rebootRequested = true ∨ final.download.isSome) : final.success = true := by
  have hnothing : ∀ outcome : SessionOutcome, Fresh outcome →
      ¬ (outcome.rebootRequested = true ∨ outcome.download.isSome) := by
    rintro outcome ⟨_, hreboot, hdownload⟩
    simp [hreboot, hdownload]
  induction h with
  | @empty outcome => rfl
  | @malformed outcome => exact absurd hpassed (hnothing outcome hfresh)
  | @postFailed outcome => exact absurd hpassed (hnothing outcome hfresh)
  | command => rfl
  | next _ _ _ _ hfresh' _ ih => exact ih hfresh' hpassed

/-- A loop that succeeds has answered what was delivered, up to a body that came
after a command. -/
theorem LoopEnd.answered {outcome final : SessionOutcome} {script : List HttpResponse}
    {body : String} {s : σ} {exchanges : List Exchange}
    (h : LoopEnd platform xmlRead outcome script body s final exchanges) (hfresh : Fresh outcome)
    (hsuccess : final.success = true) :
    ∃ answered leftover, Answered platform xmlRead (delivered body exchanges) s
      (exchanges.map (·.request)) answered leftover := by
  induction h with
  | empty => exact ⟨[], [], rfl, rfl, Or.inl rfl⟩
  | @malformed outcome => exact absurd hsuccess (by rw [hfresh.1]; exact Bool.false_ne_true)
  | @postFailed outcome => exact absurd hsuccess (by rw [hfresh.1]; exact Bool.false_ne_true)
  -- the answer to the command may carry one more body, which is left over
  | @command outcome response rest body s rpc hbody hparse hok hcommand =>
      refine ⟨[body], [response.body].filter (· ≠ ""), ?_, ?_, ?_⟩
      · simp [delivered, hbody]
      · simp only [answerAll, hparse, stateM_bind_apply]
        rfl
      · by_cases hempty : response.body = ""
        · exact Or.inl (by simp [hempty])
        · exact Or.inr ⟨by simp [hempty], [], body, rpc, rfl, hparse, hcommand⟩
  -- nothing is left over here, so the rest decides
  | @next outcome response rest body s rpc final exchanges hbody hparse hok hcommand hfresh' _ ih =>
      obtain ⟨answered, leftover, hsplit, hrequests, hleftover⟩ := ih hfresh' hsuccess
      refine ⟨body :: answered, leftover, ?_, ?_, ?_⟩
      · rw [List.cons_append, ← hsplit]
        simp [delivered, hbody]
      · simp only [answerAll, hparse, stateM_bind_apply, hrequests]
        rfl
      · rcases hleftover with hnone | ⟨hone, before, last, lastRpc, hanswered, hlast⟩
        · exact Or.inl hnone
        · exact Or.inr ⟨hone, body :: before, last, lastRpc, by rw [hanswered, List.cons_append],
            hlast⟩

/-! ## The two sessions -/

variable (platform xmlRead)

/-- The opening of a session with the identifier `id`. -/
def opening (events : List String) (script : List HttpResponse) :
    StateM (Session σ) (Bool × Exchange) := do
  let id ← nextId
  beginInform platform xmlRead events id (nextAnswer script).1

/-- A session either fails before the first RPC, or runs the loop on what the
empty POST delivers. -/
theorem run_cases (events : List String) (script : List HttpResponse) (session : Session σ) :
    let result := (run platform xmlRead events script session).1
    result.1 = {} ∧ result.2.length ≤ 2 ∨
      ∃ inform response exchanges, result.2 = inform :: ⟨"", response⟩ :: exchanges ∧
        LoopEnd platform xmlRead {} (script.drop 2) response.body
          (opening platform xmlRead events script session).2.platformState result.1 exchanges := by
  have hfresh : Fresh {} := ⟨rfl, rfl, rfl⟩
  have hdrop : (nextAnswer (nextAnswer script).2).2 = script.drop 2 := by
    rcases script with _ | ⟨first, _ | ⟨second, rest⟩⟩ <;> rfl
  rw [← hdrop]
  simp only [run, opening, stateM_bind_apply]
  cases hbegan : (beginInform platform xmlRead events (nextId session).1 (nextAnswer script).1
      (nextId session).2).1.1 with
  | false => exact Or.inl ⟨rfl, Nat.le_succ 1⟩
  | true =>
      rw [Bool.not_true, if_neg Bool.false_ne_true]
      cases hok : (nextAnswer (nextAnswer script).2).1.ok with
      | false => exact Or.inl ⟨rfl, Nat.le_refl 2⟩
      | true =>
          rw [Bool.not_true, if_neg Bool.false_ne_true]
          exact Or.inr ⟨_, _, _, rfl, loopEnd_processAcsMessages hfresh _ _ _⟩

/-- Every body that a successful session was delivered is answered, in order,
by the message that `handle` builds for it, except for one that comes as the
answer to the response to a `Reboot` or a `Download`. -/
theorem answered_of_success (events : List String) (script : List HttpResponse)
    (session : Session σ)
    (hsuccess : (run platform xmlRead events script session).1.1.success = true) :
    ∃ inform response exchanges answered leftover,
      (run platform xmlRead events script session).1.2 =
        inform :: ⟨"", response⟩ :: exchanges ∧
      Answered platform xmlRead (delivered response.body exchanges)
        (opening platform xmlRead events script session).2.platformState
        (exchanges.map (·.request)) answered leftover := by
  rcases run_cases platform xmlRead events script session with
    ⟨hfailed, _⟩ | ⟨inform, response, exchanges, hexchanges, hloop⟩
  · rw [hfailed] at hsuccess
    cases hsuccess
  · obtain ⟨answered, leftover, hanswered⟩ := hloop.answered ⟨rfl, rfl, rfl⟩ hsuccess
    exact ⟨inform, response, exchanges, answered, leftover, hexchanges, hanswered⟩

/-! ## Two sessions -/

/-- The embedded transformer on UCI, with a clock that stands still. -/
def uciPlatform : Platform (LuaTransformer × Store) where
  toTransformerApi := LuaTransformer.api uciHandler
  log _ _ := return ()
  isoTimeNow := return "1970-01-01T00:00:00Z"

def freshSession : Session (LuaTransformer × Store) where
  platformState := ({ engine := some plainEngine.toEngine }, .ofCommitted fun _ => none)

def informResponseXml : String := "<Envelope><Body><InformResponse/></Body></Envelope>"

def rebootXml : String :=
  "<Envelope><Body><Reboot><CommandKey>k</CommandKey></Reboot></Body></Envelope>"

def getNamesXml : String :=
  "<Envelope><Body><GetParameterNames><ParameterPath>Device.</ParameterPath>" ++
    "</GetParameterNames></Body></Envelope>"

/-- The trees of the three messages. -/
def sampleReader (xml : String) : Option (List XmlNode) :=
  let envelope (method : XmlNode) : Option (List XmlNode) :=
    some [.element "Envelope" none [.element "Body" none [method]]]
  if xml = informResponseXml then envelope (.element "InformResponse" none [])
  else if xml = rebootXml then
    envelope (.element "Reboot" none [.element "CommandKey" none [.text "k"]])
  else if xml = getNamesXml then
    envelope (.element "GetParameterNames" none
      [.element "ParameterPath" none [.text "Device."]])
  else none

/-- The ACS asks for the names, then reboots the device. -/
def namesThenReboot : List HttpResponse :=
  [{ status := 200, body := informResponseXml }, { status := 200, body := getNamesXml },
   { status := 200, body := rebootXml }, { status := 204 }]

/-- The ACS asks for the names in its answer to the `RebootResponse`. -/
def rebootThenNames : List HttpResponse :=
  [{ status := 200, body := informResponseXml }, { status := 200, body := rebootXml },
   { status := 200, body := getNamesXml }]

theorem namesThenReboot_answered :
    ∃ inform response exchanges answered leftover,
      (run uciPlatform sampleReader ["1 BOOT"] namesThenReboot freshSession).1.2 =
        inform :: ⟨"", response⟩ :: exchanges ∧
      Answered uciPlatform sampleReader (delivered response.body exchanges)
        (opening uciPlatform sampleReader ["1 BOOT"] namesThenReboot freshSession).2.platformState
        (exchanges.map (·.request)) answered leftover :=
  answered_of_success uciPlatform sampleReader ["1 BOOT"] namesThenReboot freshSession rfl

variable {platform xmlRead} in
theorem length_of_answerAll {bodies requests : List String} {s : σ}
    (h : (answerAll platform xmlRead bodies s).1 = some requests) :
    requests.length = bodies.length := by
  induction bodies generalizing requests s with
  | nil =>
      cases h
      rfl
  | cons body rest ih =>
      simp only [answerAll] at h
      cases hparse : SoapParser.parseRpc xmlRead body with
      | error error => simp [hparse, stateM_pure_apply] at h
      | ok rpc =>
          simp only [hparse, stateM_bind_apply, stateM_pure_apply, Option.map_eq_some_iff] at h
          obtain ⟨others, hothers, rfl⟩ := h
          simp [ih hothers]

/-- A successful session that leaves a body unanswered. -/
theorem rebootThenNames_not_answered :
    (run uciPlatform sampleReader ["1 BOOT"] rebootThenNames freshSession).1.1.success = true ∧
    ∀ inform response exchanges,
      (run uciPlatform sampleReader ["1 BOOT"] rebootThenNames freshSession).1.2 =
        inform :: ⟨"", response⟩ :: exchanges →
      ∀ s, (answerAll uciPlatform sampleReader (delivered response.body exchanges) s).1 ≠
        some (exchanges.map (·.request)) := by
  refine ⟨rfl, fun inform response exchanges hexchanges s hanswered => ?_⟩
  obtain ⟨first, second, third, hrun, hbodies⟩ : ∃ first second third : Exchange,
      (run uciPlatform sampleReader ["1 BOOT"] rebootThenNames freshSession).1.2 =
        [first, second, third] ∧ second.response.body = rebootXml ∧
          third.response.body = getNamesXml := ⟨_, _, _, rfl, rfl, rfl⟩
  rw [hrun] at hexchanges
  simp only [List.cons.injEq] at hexchanges
  obtain ⟨-, rfl, rfl⟩ := hexchanges
  have hlength := length_of_answerAll hanswered
  have hdelivered : delivered rebootXml [third] = [rebootXml, getNamesXml] := by
    simp only [delivered, List.map_cons, List.map_nil, hbodies.2]
    decide
  rw [hbodies.1, hdelivered] at hlength
  simp at hlength

end CwmpSession

end Tr069d
