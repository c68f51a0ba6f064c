import Tr069d.Session.CwmpSession
import Tr069d.Transformer.Secrets

/-!
# The passwords stay on the device

Through the data model neither the ACS nor the log learns a password: with two
stores that differ in the passwords only, a device sends the same messages and
writes the same lines.  `read` lets `reveal_secrets` through, but what it returns
then is only logged, and `RpcHandler` redacts it by its name.

* `SamePlace` relates the two runs, and `Blind` programs keep it and answer alike.
* `passwords_never_shown` is about any sequence of Informs and RPCs.
* `passwords_never_shown_in_sessions` is about whole sessions, in which what is said
  next depends on what was said before.
-/

namespace Tr069d

open Effects

variable {τ : Type} (outside : Outside τ)

/-- The platform of a daemon on such a system. -/
def Outside.platform : Platform (LuaTransformer × Device τ) where
  toTransformerApi := LuaTransformer.api outside.handler
  log level message := fun (transformer, device) =>
    ((), (transformer, { device with lines := .log level message :: device.lines }))
  isoTimeNow := fun (transformer, device) =>
    ((outside.isoTimeNow device.outside).1,
      (transformer, { device with outside := (outside.isoTimeNow device.outside).2 }))

/-- A password that is set: it is not empty and has no line break. -/
def IsPassword (value : Option String) : Prop :=
  ∃ text, value = some text ∧ text ≠ "" ∧ ∀ c ∈ text.toList, isLineBreak c = false

/-- The two stores differ in the two passwords only. -/
structure DifferInPasswords (store store' : Store) : Prop where
  committed : ∀ key, key ∉ secretKeys → store.committed key = store'.committed key
  staged : ∀ key, key ∉ secretKeys → store.staged key = store'.staged key
  passwords : ∀ key, key ∈ secretKeys → IsPassword (store.view key) ∧ IsPassword (store'.view key)

/-- A SOAP message of the CPE: an Inform, or the response to an RPC. -/
inductive CpeMessage
  | inform (id : String) (events : List String)
  | response (rpc : ParsedRpc)

/-- The body of a message. -/
def CpeMessage.body {σ : Type} (platform : Platform σ) : CpeMessage → StateM σ String
  | .inform id events => CwmpSession.informMessage platform id events
  | .response rpc => do return (← RpcHandler.handle platform rpc).responseXml

/-- The bodies of a sequence of messages. -/
def cpeMessages {σ : Type} (platform : Platform σ) (messages : List CpeMessage) :
    StateM σ (List String) :=
  messages.mapM (CpeMessage.body platform)

theorem isPassword_some {text : String} (hne : text ≠ "")
    (hbreak : text.toList.any isLineBreak = false) : IsPassword (some text) := by
  refine ⟨text, rfl, hne, ?_⟩
  simpa only [List.any_eq_false, Bool.not_eq_true] using hbreak

/-! ## One message -/

theorem readable_of_isPassword {value : Option String} (h : IsPassword value) : Readable value := by
  obtain ⟨text, rfl, hne, hbreak⟩ := h
  exact ⟨text, rfl, hne, noTrailingBreak_of_forall hbreak⟩

/-- The runs are at the same place, on alike devices, with the engine as it was loaded. -/
structure SamePlace (engine : CpeEngine) (s t : LuaTransformer × Device τ) : Prop where
  loaded : s.1.engine = some engine.toEngine
  transformer : s.1 = t.1
  device : Alike (· ∈ secretKeys) s.2 t.2

/-- What the map marks as secret is what `RpcHandler` redacts by name. -/
theorem isSecret_of_secret {path : String} {spec : Spec}
    (hlookup : deviceMap.lookup path = some spec) (hsecret : spec.secret = true) :
    RpcHandler.isSecret path = true := by
  have hall : ∀ entry ∈ deviceMap.parameters, entry.2.secret = true →
      RpcHandler.isSecret entry.1 = true := by decide
  exact hall _ (DeviceMap.mem_of_lookup_eq_some hlookup) hsecret

section Messages

variable {outside} {engine : CpeEngine}

theorem blind_log (level : LogLevel) (message : String) :
    Blind (SamePlace (τ := τ) engine) (outside.platform.log level message) :=
  fun _ _ h => ⟨rfl, h.loaded, h.transformer, h.device.line _⟩

theorem blind_isoTimeNow : Blind (SamePlace (τ := τ) engine) outside.platform.isoTimeNow := by
  intro s t h
  obtain ⟨htime, hdevice⟩ := h.device.onOutside outside.isoTimeNow
  exact ⟨htime, h.loaded, h.transformer, hdevice⟩

theorem blind_getParameterValues (paths : List String) :
    Blind (SamePlace (τ := τ) engine) (outside.platform.getParameterValues paths false) := by
  rintro ⟨⟨_, lastError⟩, device⟩ ⟨_, device'⟩ ⟨rfl, rfl, hdevice⟩
  obtain ⟨hresult, hafter⟩ := Engine.blind_getParameterValues engine paths device device' hdevice
  exact ⟨hresult, rfl, rfl, hafter⟩

theorem coupled_getParameterValues (paths : List String) :
    Coupled (SamePlace (τ := τ) engine) (SamePlace engine)
      (fun result result' => List.Forall₂ (Engine.SameValue true) result.1 result'.1)
      (outside.platform.getParameterValues paths true)
      (outside.platform.getParameterValues paths true) := by
  rintro ⟨⟨_, lastError⟩, device⟩ ⟨_, device'⟩ ⟨rfl, rfl, hdevice⟩
  obtain ⟨hresult, hafter⟩ :=
    Engine.coupled_getParameterValues engine paths true device device' hdevice
  exact ⟨hresult.1, rfl, rfl, hafter⟩

theorem blind_getParameterNames (path : String) :
    Blind (SamePlace (τ := τ) engine) (outside.platform.getParameterNames path) := by
  rintro ⟨⟨_, lastError⟩, device⟩ ⟨_, device'⟩ ⟨rfl, rfl, hdevice⟩
  have hblind : Blind (Alike (· ∈ secretKeys))
      ((LuaTransformer.getParameterNames ⟨some engine.toEngine, lastError⟩ path).run
        outside.handler) := by
    refine blind_run_bind (Engine.blind_getParameterNames engine path) fun names => ?_
    cases names <;> exact blind_run_done _
  obtain ⟨hresult, hafter⟩ := hblind device device' hdevice
  exact ⟨hresult, rfl, rfl, hafter⟩

theorem blind_setParameterValues (hpairs : engine.pairs.ByKey) (values : List ParameterValue)
    (parameterKey : String) :
    Blind (SamePlace (τ := τ) engine)
      (outside.platform.setParameterValues values parameterKey) := by
  rintro ⟨⟨_, lastError⟩, device⟩ ⟨_, device'⟩ ⟨rfl, rfl, hdevice⟩
  have hcoupled : Coupled (Alike (· ∈ secretKeys)) (Alike (· ∈ secretKeys))
      (fun result result' => result = result' ∧ result.2 = ⟨some engine.toEngine, lastError⟩)
      ((LuaTransformer.setParameterValues ⟨some engine.toEngine, lastError⟩ values
        parameterKey).run outside.handler)
      ((LuaTransformer.setParameterValues ⟨some engine.toEngine, lastError⟩ values
        parameterKey).run outside.handler) := by
    refine coupled_run_bind (Engine.coupled_setParameterValues engine hpairs values parameterKey)
      fun result result' hresult => ?_
    obtain ⟨rfl, hengine⟩ := hresult
    exact coupled_run_done ⟨rfl, by rw [hengine]⟩
  obtain ⟨⟨hresult, htransformer⟩, hafter⟩ := hcoupled device device' hdevice
  have hvalue := congrArg Prod.fst hresult
  exact ⟨hvalue, congrArg LuaTransformer.engine htransformer, congrArg Prod.snd hresult, hafter⟩

/-! ### `RpcHandler` -/

theorem coupled_logValues (what : String) {revealSecrets : Bool}
    {values values' : List ParameterValue}
    (hvalues : List.Forall₂ (Engine.SameValue revealSecrets) values values') :
    Coupled (SamePlace (τ := τ) engine) (SamePlace engine) Eq
      (RpcHandler.logValues outside.platform what values)
      (RpcHandler.logValues outside.platform what values') := by
  refine Coupled.forM hvalues fun value value' hvalue => ?_
  obtain ⟨hname, _, hsame⟩ := hvalue
  have hline : (if RpcHandler.isSecret value.name then "<redacted>" else value.value) =
      if RpcHandler.isSecret value'.name then "<redacted>" else value'.value := by
    rw [← hname]
    -- two revealed values differ for a secret only, which the line redacts by name
    rcases hsame with hsame | ⟨_, spec, hlookup, hsecret⟩
    · rw [hsame]
    · rw [isSecret_of_secret hlookup hsecret, if_pos rfl, if_pos rfl]
  rw [hline, hname]
  exact blind_log _ _

theorem blind_logValues (what : String) (values : List ParameterValue) :
    Blind (SamePlace (τ := τ) engine) (RpcHandler.logValues outside.platform what values) :=
  .forM values fun _ => blind_log _ _

section Rpcs

variable (id : String) (rpc : ParsedRpc)

theorem blind_getParameterValuesRpc :
    Blind (SamePlace (τ := τ) engine)
      (RpcHandler.getParameterValues outside.platform id rpc) := by
  unfold RpcHandler.getParameterValues
  refine .bind (.forM _ fun _ => blind_log _ _) fun _ => ?_
  refine .bind (blind_getParameterValues _) fun result => ?_
  refine .bind (blind_logValues _ _) fun _ => ?_
  exact .bind (.forM _ fun _ => blind_log _ _) fun _ => .pure _

theorem blind_getParameterNamesRpc :
    Blind (SamePlace (τ := τ) engine)
      (RpcHandler.getParameterNames outside.platform id rpc) := by
  unfold RpcHandler.getParameterNames
  refine .bind (blind_log _ _) fun _ => ?_
  refine .bind (blind_getParameterNames _) fun result => ?_
  exact .bind (blind_log _ _) fun _ => .pure _

theorem blind_setParameterValuesRpc (hpairs : engine.pairs.ByKey) :
    Blind (SamePlace (τ := τ) engine)
      (RpcHandler.setParameterValues outside.platform id rpc) := by
  unfold RpcHandler.setParameterValues
  refine .bind (blind_logValues _ _) fun _ => ?_
  refine .bind (blind_setParameterValues hpairs _ _) fun result => ?_
  split_ifs
  · refine .bind (blind_log _ _) fun _ => ?_
    -- the revealed values go to the log only
    refine Coupled.bind (coupled_getParameterValues _) fun applied applied' happlied => ?_
    exact Coupled.bind (coupled_logValues _ happlied) fun _ _ _ => .pure rfl
  · exact .bind (blind_log _ _) fun _ => .pure _
  · exact .bind (blind_log _ _) fun _ => .pure _

end Rpcs

theorem blind_handle (hpairs : engine.pairs.ByKey) (rpc : ParsedRpc) :
    Blind (SamePlace (τ := τ) engine) (RpcHandler.handle outside.platform rpc) := by
  unfold RpcHandler.handle
  refine .bind (blind_log _ _) fun _ => ?_
  generalize (if (rpc.cwmpId == "") = true then "0" else rpc.cwmpId) = id
  split_ifs
  · exact blind_getParameterValuesRpc id rpc
  · exact blind_getParameterNamesRpc id rpc
  · exact blind_setParameterValuesRpc id rpc hpairs
  · exact .bind (blind_log _ _) fun _ => .pure _
  · split
    · exact .bind (blind_log _ _) fun _ => .pure _
    · exact .bind (blind_log _ _) fun _ => .pure _

theorem blind_valueOr (path fallback : String) :
    Blind (SamePlace (τ := τ) engine) (CwmpSession.valueOr outside.platform path fallback) :=
  .bind (blind_getParameterValues _) fun _ => .pure _

theorem blind_informMessage (id : String) (events : List String) :
    Blind (SamePlace (τ := τ) engine)
      (CwmpSession.informMessage outside.platform id events) := by
  unfold CwmpSession.informMessage
  refine .bind (blind_valueOr _ _) fun _ => .bind (blind_valueOr _ _) fun _ => ?_
  refine .bind (blind_valueOr _ _) fun _ => .bind (blind_valueOr _ _) fun _ => ?_
  refine .bind (blind_getParameterValues _) fun _ => ?_
  exact .bind blind_isoTimeNow fun _ => .pure _

theorem blind_body (hpairs : engine.pairs.ByKey) (message : CpeMessage) :
    Blind (SamePlace (τ := τ) engine) (message.body outside.platform) := by
  cases message with
  | inform id events => exact blind_informMessage id events
  | response rpc => exact .bind (blind_handle hpairs rpc) fun _ => .pure _

end Messages

theorem alike_of_differInPasswords {store store' : Store} (h : DifferInPasswords store store')
    (o : τ) (lines : List Line) :
    Alike (· ∈ secretKeys) ⟨store, o, lines⟩ ⟨store', o, lines⟩ := by
  refine ⟨fun key => ?_, rfl, rfl⟩
  by_cases hkey : key ∈ secretKeys
  · obtain ⟨hpassword, hpassword'⟩ := h.passwords key hkey
    exact Or.inr ⟨hkey, readable_of_isPassword hpassword, readable_of_isPassword hpassword'⟩
  · refine Or.inl ?_
    show Store.view _ key = Store.view _ key
    simp only [Store.view, h.committed key hkey, h.staged key hkey]

/-- With stores that differ in the passwords only, a device sends the same
messages and writes the same lines, whatever the ACS asks it for. -/
theorem passwords_never_shown (engine : CpeEngine) (hpairs : engine.pairs.ByKey)
    {store store' : Store} (hstores : DifferInPasswords store store') (o : τ)
    (messages : List CpeMessage) :
    let run := fun store : Store => cpeMessages outside.platform messages
      (⟨some engine.toEngine, ""⟩, ⟨store, o, []⟩)
    (run store).1 = (run store').1 ∧ (run store).2.2.lines = (run store').2.2.lines := by
  intro run
  have hblind : Blind (SamePlace (τ := τ) engine) (cpeMessages outside.platform messages) :=
    .mapM messages fun message => blind_body hpairs message
  have hplace : SamePlace engine (⟨some engine.toEngine, ""⟩, (⟨store, o, []⟩ : Device τ))
      (⟨some engine.toEngine, ""⟩, ⟨store', o, []⟩) :=
    ⟨rfl, rfl, alike_of_differInPasswords hstores o []⟩
  obtain ⟨hbodies, hafter⟩ := hblind _ _ hplace
  exact ⟨hbodies, hafter.device.lines⟩

/-- A store with the two passwords, and nothing else. -/
def storeOfPasswords (acsPassword requestPassword : String) : Store :=
  .ofCommitted fun key =>
    if key = "tr69.mgmt_srv.password" then some acsPassword
    else if key = "tr69.conn_request.password" then some requestPassword
    else none

theorem differInPasswords_stores :
    DifferInPasswords (storeOfPasswords "alpha" "gamma") (storeOfPasswords "beta" "delta") := by
  refine ⟨fun key hkey => ?_, fun _ _ => rfl, fun key hkey => ?_⟩
  · simp only [secretKeys, List.mem_cons, List.not_mem_nil, or_false, not_or] at hkey
    simp [storeOfPasswords, Store.ofCommitted, hkey.1, hkey.2]
  · simp only [secretKeys, List.mem_cons, List.not_mem_nil, or_false] at hkey
    rcases hkey with rfl | rfl
    · have halpha : IsPassword (some "alpha") := isPassword_some (by decide) rfl
      have hbeta : IsPassword (some "beta") := isPassword_some (by decide) rfl
      exact ⟨halpha, hbeta⟩
    · have hgamma : IsPassword (some "gamma") := isPassword_some (by decide) rfl
      have hdelta : IsPassword (some "delta") := isPassword_some (by decide) rfl
      exact ⟨hgamma, hdelta⟩

/-- A system on which no command works and the clock stands still. -/
def bareSystem : Outside Unit where
  capture _ := return none
  executeOk _ := return false
  isoTimeNow := return "2024-01-01T00:00:00Z"

/-- The ACS reads a password, and sets one that does not read back. -/
theorem readAndSetPassword_not_shown :
    let run := fun store : Store => cpeMessages bareSystem.platform
      [.inform "tr069d-1" ["2 PERIODIC"],
       .response { method := "GetParameterValues"
                   parameterNames := ["Device.ManagementServer.Password"] },
       .response { method := "SetParameterValues"
                   parameterValues := [⟨"Device.ManagementServer.Password", "x\n", ""⟩] }]
      (⟨some (cpeEngine "ubus" true (storedOrder _)).toEngine, ""⟩, ⟨store, (), []⟩)
    (run (storeOfPasswords "alpha" "gamma")).1 = (run (storeOfPasswords "beta" "delta")).1 ∧
      (run (storeOfPasswords "alpha" "gamma")).2.2.lines =
        (run (storeOfPasswords "beta" "delta")).2.2.lines := by
  exact passwords_never_shown bareSystem _ (fun _ _ h => h) differInPasswords_stores () _

/-! ## Whole sessions -/

/-- What a session is for: some events, or the report of a transfer. -/
inductive SessionPurpose
  | events (events : List String)
  | transferComplete (result : TransferResult)

/-- The exchanges of a session that the ACS answers with a script. -/
def sessionExchanges {σ : Type} (platform : Platform σ) (xmlRead : XmlReader) :
    SessionPurpose × List HttpResponse → StateM (Session σ) (List Exchange)
  | (.events events, script) => do
      return (← CwmpSession.run platform xmlRead events script).2
  | (.transferComplete result, script) => do
      return (← CwmpSession.runTransferComplete platform xmlRead result script).2

/-- The same, with a session object of its own. -/
def newSession {σ : Type} (platform : Platform σ) (xmlRead : XmlReader)
    (session : SessionPurpose × List HttpResponse) : StateM σ (List Exchange) := fun place =>
  let (exchanges, ended) := sessionExchanges platform xmlRead session { platformState := place }
  (exchanges, ended.platformState)

/-- The runs are at the same place of a session. -/
structure SameSession (engine : CpeEngine) (s t : Session (LuaTransformer × Device τ)) :
    Prop where
  place : SamePlace engine s.platformState t.platformState
  sequence : s.sequence = t.sequence
  state : s.state = t.state

section Sessions

variable {outside} {engine : CpeEngine} {xmlRead : XmlReader}

theorem blind_onPlatform {α : Type} {program : StateM (LuaTransformer × Device τ) α}
    (h : Blind (SamePlace engine) program) :
    Blind (SameSession engine) (CwmpSession.onPlatform program) := by
  intro s t hsame
  obtain ⟨hvalue, hplace⟩ := h _ _ hsame.place
  exact ⟨hvalue, hplace, hsame.sequence, hsame.state⟩

theorem blind_sessionLog (level : LogLevel) (message : String) :
    Blind (SameSession (τ := τ) engine) (CwmpSession.log outside.platform level message) :=
  blind_onPlatform (blind_log level message)

theorem blind_transition (next : CwmpState) :
    Blind (SameSession (τ := τ) engine) (CwmpSession.transition next) :=
  fun _ _ h => ⟨rfl, h.place, h.sequence, congrArg (·.transition next) h.state⟩

theorem blind_reset : Blind (SameSession (τ := τ) engine) CwmpSession.reset :=
  fun _ _ h => ⟨rfl, h.place, h.sequence, rfl⟩

theorem blind_nextId : Blind (SameSession (τ := τ) engine) CwmpSession.nextId := by
  intro s t h
  have hid : ("tr069d-" ++ toString s.sequence) = "tr069d-" ++ toString t.sequence := by
    rw [h.sequence]
  exact ⟨hid, h.place, congrArg (fun n => (n + 1) % 2 ^ 32) h.sequence, h.state⟩

theorem blind_beginInform (events : List String) (id : String) (response : HttpResponse) :
    Blind (SameSession (τ := τ) engine)
      (CwmpSession.beginInform outside.platform xmlRead events id response) := by
  unfold CwmpSession.beginInform
  refine .bind blind_reset fun _ => .bind (blind_transition _) fun _ => ?_
  refine .bind (blind_sessionLog _ _) fun _ => .bind (blind_sessionLog _ _) fun _ => ?_
  refine .bind (blind_onPlatform (blind_informMessage id events)) fun message => ?_
  split
  · exact .bind (blind_sessionLog _ _) fun _ => .bind blind_reset fun _ => .pure _
  · split
    · exact .bind (blind_sessionLog _ _) fun _ => .bind blind_reset fun _ => .pure _
    · refine .bind (blind_transition _) fun _ => ?_
      exact .bind (blind_sessionLog _ _) fun _ => .pure _

theorem blind_closeSession (outcome : SessionOutcome) :
    Blind (SameSession (τ := τ) engine)
      (CwmpSession.closeSession outside.platform outcome) := by
  unfold CwmpSession.closeSession
  refine .bind (blind_transition _) fun _ => .bind (blind_sessionLog _ _) fun _ => ?_
  exact .bind (blind_transition _) fun _ => .pure _

theorem blind_processAcsMessages (hpairs : engine.pairs.ByKey) (outcome : SessionOutcome)
    (script : List HttpResponse) (body : String) :
    Blind (SameSession (τ := τ) engine)
      (CwmpSession.processAcsMessages outside.platform xmlRead outcome script body) := by
  -- what the ACS sends is the same for both, and so are the branches
  induction script generalizing outcome body with
  | nil =>
      unfold CwmpSession.processAcsMessages
      split
      · exact .bind (blind_closeSession _) fun _ => .pure _
      · split
        · exact .bind (blind_sessionLog _ _) fun _ => .pure _
        · refine .bind (blind_transition _) fun _ => ?_
          refine .bind (blind_onPlatform (blind_handle hpairs _)) fun handled => ?_
          refine .bind ?_ fun _ => .pure _
          exact .bind (blind_sessionLog _ _) fun _ => .pure _
  | cons response rest ih =>
      unfold CwmpSession.processAcsMessages
      split
      · exact .bind (blind_closeSession _) fun _ => .pure _
      · split
        · exact .bind (blind_sessionLog _ _) fun _ => .pure _
        · refine .bind (blind_transition _) fun _ => ?_
          refine .bind (blind_onPlatform (blind_handle hpairs _)) fun handled => ?_
          dsimp only
          split_ifs
          · refine .bind ?_ fun _ => .pure _
            exact .bind (blind_sessionLog _ _) fun _ => .pure _
          · exact .bind (blind_closeSession _) fun _ => .pure _
          · exact .bind (ih _ _) fun _ => .pure _

theorem blind_sessionExchanges (hpairs : engine.pairs.ByKey)
    (session : SessionPurpose × List HttpResponse) :
    Blind (SameSession (τ := τ) engine)
      (sessionExchanges outside.platform xmlRead session) := by
  obtain ⟨events | result, script⟩ := session
  -- a session for events
  · refine .bind ?_ fun _ => .pure _
    unfold CwmpSession.run
    refine .bind blind_nextId fun id => ?_
    obtain ⟨response, script⟩ := nextAnswer script
    refine .bind (blind_beginInform _ _ _) fun inform => ?_
    obtain ⟨response, script⟩ := nextAnswer script
    dsimp only
    split_ifs
    · exact .pure _
    · exact .bind (blind_sessionLog _ _) fun _ => .pure _
    · exact .bind (blind_processAcsMessages hpairs _ _ _) fun _ => .pure _
  -- a session for the end of a transfer
  · refine .bind ?_ fun _ => .pure _
    unfold CwmpSession.runTransferComplete
    refine .bind blind_nextId fun id => ?_
    obtain ⟨response, script⟩ := nextAnswer script
    refine .bind (blind_beginInform _ _ _) fun inform => ?_
    dsimp only
    split_ifs
    · exact .pure _
    · refine .bind blind_nextId fun id => ?_
      exact .bind (blind_sessionLog _ _) fun _ => .pure _
    · exact .bind blind_nextId fun id => .pure _
    · refine .bind blind_nextId fun id => ?_
      exact .bind (blind_processAcsMessages hpairs _ _ _) fun _ => .pure _

theorem blind_newSession (hpairs : engine.pairs.ByKey)
    (session : SessionPurpose × List HttpResponse) :
    Blind (SamePlace (τ := τ) engine) (newSession outside.platform xmlRead session) := by
  intro place place' hplace
  have hsame : SameSession engine { platformState := place } { platformState := place' } :=
    ⟨hplace, rfl, rfl⟩
  have hblind : Blind (SameSession (τ := τ) engine)
      (sessionExchanges outside.platform xmlRead session) := blind_sessionExchanges hpairs session
  obtain ⟨hexchanges, hafter⟩ := hblind _ _ hsame
  exact ⟨hexchanges, hafter.place⟩

end Sessions

/-- Nor does any sequence of sessions show a password, whatever the ACS answers. -/
theorem passwords_never_shown_in_sessions (engine : CpeEngine) (hpairs : engine.pairs.ByKey)
    (xmlRead : XmlReader) {store store' : Store} (hstores : DifferInPasswords store store') (o : τ)
    (sessions : List (SessionPurpose × List HttpResponse)) :
    let run := fun store : Store => sessions.mapM (newSession outside.platform xmlRead)
      (⟨some engine.toEngine, ""⟩, ⟨store, o, []⟩)
    (run store).1 = (run store').1 ∧ (run store).2.2.lines = (run store').2.2.lines := by
  intro run
  have hblind : Blind (SamePlace (τ := τ) engine)
      (sessions.mapM (newSession outside.platform xmlRead)) :=
    .mapM sessions fun session => blind_newSession hpairs session
  have hplace : SamePlace engine (⟨some engine.toEngine, ""⟩, (⟨store, o, []⟩ : Device τ))
      (⟨some engine.toEngine, ""⟩, ⟨store', o, []⟩) :=
    ⟨rfl, rfl, alike_of_differInPasswords hstores o []⟩
  obtain ⟨hexchanges, hafter⟩ := hblind _ _ hplace
  exact ⟨hexchanges, hafter.device.lines⟩

/-- The ACS accepts the Inform, and its next answer is read as the request for a password. -/
def passwordReader (xml : String) : Option (List XmlNode) :=
  let envelope (method : XmlNode) : Option (List XmlNode) :=
    some [.element "Envelope" none [.element "Body" none [method]]]
  if xml = "inform" then envelope (.element "InformResponse" none [])
  else if xml = "get" then
    envelope (.element "GetParameterValues" none [.element "ParameterNames" none
      [.element "string" none [.text "Device.ManagementServer.Password"]]])
  else none

/-- One session in which the password is read, and one that reports a download. -/
def passwordSessions : List (SessionPurpose × List HttpResponse) :=
  [(.events ["2 PERIODIC"], [{ status := 200, body := "inform" },
     { status := 200, body := "get" }, { status := 204 }]),
   (.transferComplete { commandKey := "k" }, [{ status := 200, body := "inform" }])]

theorem readPassword_not_shown_in_sessions :
    let run := fun store : Store =>
      passwordSessions.mapM (newSession bareSystem.platform passwordReader)
        (⟨some (cpeEngine "ubus" true (storedOrder _)).toEngine, ""⟩, ⟨store, (), []⟩)
    (run (storeOfPasswords "alpha" "gamma")).1 = (run (storeOfPasswords "beta" "delta")).1 ∧
      (run (storeOfPasswords "alpha" "gamma")).2.2.lines =
        (run (storeOfPasswords "beta" "delta")).2.2.lines :=
  passwords_never_shown_in_sessions bareSystem _ (fun _ _ h => h) passwordReader
    differInPasswords_stores () passwordSessions

end Tr069d
