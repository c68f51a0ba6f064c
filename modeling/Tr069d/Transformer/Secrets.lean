import Tr069d.Effects.Coupled
import Tr069d.Transformer.Getters

/-!
# The engine does not tell passwords apart

Two stores that differ in the two passwords only are `Alike`.  From alike devices
every function of the engine returns the same, traces the same lines and ends in
alike devices, with one exception: `read` with `reveal_secrets` returns the
password itself.

While a transaction runs it may have written a password to both stores; the keys
that may still differ are the argument `apart` of the relation.  It shrinks with
the forward sets, which is why every read-back is the same in both runs, and the
rollback lets it grow back.
-/

namespace Tr069d

open Effects

/-- The options that the map marks as secret. -/
def secretKeys : List String :=
  ["tr69.mgmt_srv.password", "tr69.conn_request.password"]

/-- A line of the transformer trace, or of the log of the daemon. -/
inductive Line
  | trace (text : String)
  | log (level : LogLevel) (message : String)
  deriving DecidableEq, Repr

/-- What a run works on: the store, the rest of the system and the lines written
so far, the newest first. -/
structure Device (τ : Type) where
  store : Store
  outside : τ
  lines : List Line

/-- The commands that are not `uci`, and the clock. -/
structure Outside (τ : Type) where
  capture : String → StateM τ (Option String)
  executeOk : String → StateM τ Bool
  isoTimeNow : StateM τ String

variable {τ : Type} (outside : Outside τ)

/-- A system with a UCI that does not fail. -/
def Outside.handler : (c : SystemCall) → Device τ → system.Answer c × Device τ
  | .uciGet _ key, device => ((device.store.view key).map printed, device)
  | .uciSet _ key value, device => (true, { device with store := device.store.set key value })
  | .uciDelete _ key, device =>
      ((device.store.view key).isSome, { device with store := device.store.delete key })
  | .uciCommit _ package, device => (true, { device with store := device.store.commit package })
  | .capture command, device =>
      ((outside.capture command device.outside).1,
        { device with outside := (outside.capture command device.outside).2 })
  | .executeOk command, device =>
      ((outside.executeOk command device.outside).1,
        { device with outside := (outside.executeOk command device.outside).2 })
  | .saveMock _ _, device => (some "", device)
  | .stderr text, device => ((), { device with lines := .trace text :: device.lines })
  | .log level message, device => ((), { device with lines := .log level message :: device.lines })

/-- A value that is there, and that a reader gets as it is. -/
def Readable (value : Option String) : Prop :=
  ∃ text, value = some text ∧ text ≠ "" ∧ NoTrailingBreak text

/-- The same value, or two readable ones where the runs may differ. -/
def Answered (differ : Prop) (value value' : Option String) : Prop :=
  value = value' ∨ differ ∧ Readable value ∧ Readable value'

/-- The devices differ at most in what the options of `apart` are set to. -/
structure Alike (apart : String → Prop) (device device' : Device τ) : Prop where
  view : ∀ key, Answered (apart key) (device.store.view key) (device'.store.view key)
  outside : device.outside = device'.outside
  lines : device.lines = device'.lines

/-- `pairs` walks a table in an order that its keys decide. -/
def PairsOrder.ByKey (pairs : PairsOrder (String × Option String)) : Prop :=
  ∀ entries entries', entries.map Prod.fst = entries'.map Prod.fst →
    (pairs.order entries).map Prod.fst = (pairs.order entries').map Prod.fst

/-! ## The keys of the map -/

/-- The map marks the options of the passwords, and no others. -/
theorem secret_iff_mem_secretKeys {path : String} {spec : Spec} {location : UciLocation}
    (hlookup : deviceMap.lookup path = some spec) (hmapped : spec.uci = some location) :
    spec.secret = true ↔ uciKey location ∈ secretKeys := by
  have hall : ∀ found, spec.uci = some found →
      (spec.secret = true ↔ uciKey found ∈ secretKeys) :=
    deviceMap.of_lookup_eq_some
      (P := fun spec => ∀ found, spec.uci = some found →
        (spec.secret = true ↔ uciKey found ∈ secretKeys))
      (by decide) hlookup
  exact hall location hmapped

/-- The name of a secret option says so. -/
theorem displayUciValue_of_mem_secretKeys {key : String} (hkey : key ∈ secretKeys)
    (value : Option String) : displayUciValue key value = "<redacted>" := by
  have hpassword : "password".toList <:+: key.toList := by
    have hall : ∀ key ∈ secretKeys, "password".toList <:+: key.toList := by decide
    exact hall key hkey
  exact if_pos (Or.inl hpassword)

/-- What a staged value prints is redacted if its option is secret. -/
def StagedValue.Redacted (item : StagedValue) : Prop :=
  item.key ∈ secretKeys → item.spec.secret = true

/-! ## Alike stores -/

namespace Answered

variable {differ : Prop} {value value' : Option String}

theorem refl (value : Option String) : Answered differ value value := Or.inl rfl

theorem mono {differ' : Prop} (h : Answered differ value value') (himp : differ → differ') :
    Answered differ' value value' :=
  h.imp id fun hboth => ⟨himp hboth.1, hboth.2⟩

theorem eq (h : Answered differ value value') (hsame : ¬differ) : value = value' :=
  h.resolve_right fun hboth => hsame hboth.1

theorem readable_map_printed {value : Option String} (h : Readable value) :
    Readable (value.map printed) := by
  obtain ⟨text, rfl, hne, htext⟩ := h
  exact ⟨text, by rw [Option.map_some, printed_of_noTrailingBreak htext], hne, htext⟩

theorem printed (h : Answered differ value value') :
    Answered differ (value.map printed) (value'.map printed) := by
  rcases h with rfl | ⟨hdiffer, hvalue, hvalue'⟩
  · exact refl _
  · exact Or.inr ⟨hdiffer, readable_map_printed hvalue, readable_map_printed hvalue'⟩

theorem isSome (h : Answered differ value value') : value.isSome = value'.isSome := by
  rcases h with rfl | ⟨_, ⟨text, rfl, _⟩, ⟨text', rfl, _⟩⟩
  · rfl
  · rfl

end Answered

namespace Alike

variable {apart apart' : String → Prop} {device device' : Device τ}

theorem mono (h : Alike apart device device') (himp : ∀ key, apart key → apart' key) :
    Alike apart' device device' :=
  ⟨fun key => (h.view key).mono (himp key), h.outside, h.lines⟩

/-- After both runs set a key, only the two values count there. -/
theorem set (h : Alike apart device device') {key value value' : String}
    (hvalue : Answered (apart' key) (some value) (some value'))
    (himp : ∀ other, other ≠ key → apart other → apart' other) :
    Alike apart' { device with store := device.store.set key value }
      { device' with store := device'.store.set key value' } := by
  refine ⟨fun other => ?_, h.outside, h.lines⟩
  simp only [view_set]
  by_cases hother : other = key
  · subst hother
    simpa only [Function.update_self] using hvalue
  · simpa only [Function.update_of_ne hother] using (h.view other).mono (himp other hother)

theorem delete (h : Alike apart device device') (key : String) :
    Alike apart { device with store := device.store.delete key }
      { device' with store := device'.store.delete key } := by
  refine ⟨fun other => ?_, h.outside, h.lines⟩
  simp only [view_delete]
  by_cases hother : other = key
  · subst hother
    simpa only [Function.update_self] using Answered.refl none
  · simpa only [Function.update_of_ne hother] using h.view other

theorem commit (h : Alike apart device device') (package : String) :
    Alike apart { device with store := device.store.commit package }
      { device' with store := device'.store.commit package } :=
  ⟨by simpa only [view_commit] using h.view, h.outside, h.lines⟩

theorem line (h : Alike apart device device') (line : Line) :
    Alike apart { device with lines := line :: device.lines }
      { device' with lines := line :: device'.lines } :=
  ⟨h.view, h.outside, by rw [h.lines]⟩

theorem onOutside {α : Type} (h : Alike apart device device') (m : StateM τ α) :
    (m device.outside).1 = (m device'.outside).1 ∧
      Alike apart { device with outside := (m device.outside).2 }
        { device' with outside := (m device'.outside).2 } := by
  rw [h.outside]
  exact ⟨rfl, h.view, rfl, h.lines⟩

end Alike

/-! ## System calls -/

section Calls

variable {outside} {apart : String → Prop}

theorem coupled_uciGet (phase : Phase) (key : String) :
    Coupled (Alike (τ := τ) apart) (Alike apart) (Answered (apart key))
      ((@Prog.ask system (.uciGet phase key)).run outside.handler)
      ((@Prog.ask system (.uciGet phase key)).run outside.handler) :=
  fun _ _ h => ⟨(h.view key).printed, h⟩

/-- What was set is no longer apart if both runs set the same. -/
theorem coupled_uciSet {apart' : String → Prop} (phase : Phase) {key value value' : String}
    (hvalue : Answered (apart' key) (some value) (some value'))
    (himp : ∀ other, other ≠ key → apart other → apart' other) :
    Coupled (Alike (τ := τ) apart) (Alike apart') (fun ok ok' => ok = true ∧ ok' = true)
      ((@Prog.ask system (.uciSet phase key value)).run outside.handler)
      ((@Prog.ask system (.uciSet phase key value')).run outside.handler) :=
  fun _ _ h => ⟨⟨rfl, rfl⟩, h.set hvalue himp⟩

theorem blind_uciDelete (phase : Phase) (key : String) :
    Blind (Alike (τ := τ) apart)
      ((@Prog.ask system (.uciDelete phase key)).run outside.handler) :=
  fun _ _ h => ⟨(h.view key).isSome, h.delete key⟩

theorem blind_stderr (text : String) :
    Blind (Alike (τ := τ) apart) ((@Prog.ask system (.stderr text)).run outside.handler) :=
  fun _ _ h => ⟨rfl, h.line _⟩

theorem blind_uciCommit (phase : Phase) (package : String) :
    Blind (Alike (τ := τ) apart)
      ((@Prog.ask system (.uciCommit phase package)).run outside.handler) :=
  fun _ _ h => ⟨rfl, h.commit package⟩

theorem blind_capture (command : String) :
    Blind (Alike (τ := τ) apart) ((Engine.capture command).run outside.handler) :=
  fun _ _ h => h.onOutside (outside.capture command)

theorem blind_executeOk (command : String) :
    Blind (Alike (τ := τ) apart)
      ((@Prog.ask system (.executeOk command)).run outside.handler) :=
  fun _ _ h => h.onOutside (outside.executeOk command)

end Calls

namespace Engine

variable {outside} {apart : String → Prop} {engine : Engine}

theorem blind_trace (layer message : String) :
    Blind (Alike (τ := τ) apart) ((engine.trace layer message).run outside.handler) := by
  unfold trace
  split_ifs
  · exact blind_stderr _
  · exact blind_run_done _

theorem coupled_trace (layer : String) {message message' : String} (h : message = message') :
    Coupled (Alike (τ := τ) apart) (Alike apart) Eq
      ((engine.trace layer message).run outside.handler)
      ((engine.trace layer message').run outside.handler) :=
  h ▸ blind_trace layer message

theorem coupled_rawGet (hmock : engine.mock = none) (hapart : ∀ key, apart key → key ∈ secretKeys)
    (phase : Phase) (key : String) :
    Coupled (Alike (τ := τ) apart) (Alike apart) (Answered (apart key))
      ((engine.rawGet phase key).run outside.handler)
      ((engine.rawGet phase key).run outside.handler) := by
  unfold rawGet
  rw [hmock]
  refine coupled_run_bind (coupled_uciGet phase key) fun value value' hvalue => ?_
  have hline : displayUciValue key value = displayUciValue key value' := by
    rcases hvalue with rfl | ⟨hkey, _, _⟩
    · rfl
    · rw [displayUciValue_of_mem_secretKeys (hapart key hkey),
        displayUciValue_of_mem_secretKeys (hapart key hkey)]
  refine coupled_run_bind (coupled_trace _ (by rw [hline])) fun _ _ _ => ?_
  exact coupled_run_done hvalue

theorem blind_rawGet (hmock : engine.mock = none) (hapart : ∀ key, apart key → key ∈ secretKeys)
    (phase : Phase) {key : String} (hkey : ¬apart key) :
    Blind (Alike (τ := τ) apart) ((engine.rawGet phase key).run outside.handler) :=
  (coupled_rawGet hmock hapart phase key).mono (fun _ _ h => h) (fun _ _ h => h)
    fun _ _ hvalue => hvalue.eq hkey

theorem blind_notifyRuntimeReload :
    Blind (Alike (τ := τ) apart) (engine.notifyRuntimeReload.run outside.handler) := by
  unfold notifyRuntimeReload
  refine blind_run_bind (blind_trace _ _) fun _ => ?_
  refine blind_run_bind (blind_executeOk _) fun ok => ?_
  split_ifs
  · exact blind_run_bind (blind_trace _ _) fun _ => blind_run_done _
  · refine blind_run_bind (blind_trace _ _) fun _ => ?_
    exact blind_run_bind (blind_stderr _) fun _ => blind_run_done _

/-! ## The getters -/

section Getters

variable (hmock : engine.mock = none) (hapart : ∀ key, apart key → key ∈ secretKeys)

omit hmock hapart in
theorem blind_ipFromUbusInterface (interface : String) :
    Blind (Alike (τ := τ) apart) ((engine.ipFromUbusInterface interface).run outside.handler) := by
  unfold ipFromUbusInterface
  split_ifs
  · exact blind_run_done _
  · refine blind_run_bind (blind_trace _ _) fun _ => ?_
    refine blind_run_bind (blind_capture _) fun status => ?_
    cases status with
    | none => exact blind_run_done _
    | some status =>
        dsimp only
        split_ifs
        · exact blind_run_done _
        · cases usableIpv4 (interfaceAddress status) with
          | some ip => exact blind_run_done _
          | none =>
              dsimp only
              cases (jsonStringField status "l3_device").or (jsonStringField status "device") with
              | none => exact blind_run_done _
              | some device =>
                  dsimp only
                  split_ifs
                  · exact blind_run_bind (blind_capture _) fun _ => blind_run_done _
                  · exact blind_run_done _

include hmock hapart

theorem blind_ipFromRouteToAcs :
    Blind (Alike (τ := τ) apart) (engine.ipFromRouteToAcs.run outside.handler) := by
  have hurl : ¬apart "tr69.mgmt_srv.url" := fun h => absurd (hapart _ h) (by decide)
  unfold ipFromRouteToAcs
  refine blind_run_bind (blind_rawGet hmock hapart _ hurl) fun url => ?_
  cases routeHost (url.getD "") with
  | none => exact blind_run_done _
  | some host => exact blind_run_bind (blind_capture _) fun _ => blind_run_done _

theorem blind_configuredConnectionRequestUrl :
    Blind (Alike (τ := τ) apart) (engine.configuredConnectionRequestUrl.run outside.handler) := by
  have hoverride : ¬apart "tr69.conn_request.url" := fun h => absurd (hapart _ h) (by decide)
  have hurl : ¬apart "tr69.mgmt_srv.url" := fun h => absurd (hapart _ h) (by decide)
  unfold configuredConnectionRequestUrl
  refine blind_run_bind (blind_rawGet hmock hapart _ hoverride) fun url => ?_
  cases url with
  | none => exact blind_run_done _
  | some url =>
      dsimp only
      cases overrideEndpoint url with
      | none => exact blind_run_done _
      | some endpoint =>
          refine blind_run_bind (blind_rawGet hmock hapart _ hurl) fun acs => ?_
          split_ifs
          · exact blind_run_bind (blind_trace _ _) fun _ => blind_run_done _
          · exact blind_run_bind (blind_trace _ _) fun _ => blind_run_done _
          · exact blind_run_done _

theorem blind_localIpv4 (interface : String) :
    Blind (Alike (τ := τ) apart) ((engine.localIpv4 interface).run outside.handler) := by
  -- the keys of the package `network` are no passwords
  have haddress : ¬apart ("network." ++ interface ++ ".ipaddr") := by
    intro h
    have hmem := hapart _ h
    simp only [secretKeys, List.mem_cons, List.not_mem_nil, or_false, ← String.toList_inj,
      String.toList_append] at hmem
    rcases hmem with hmem | hmem
    · exact absurd (congrArg List.head? hmem) (by simp)
    · exact absurd (congrArg List.head? hmem) (by simp)
  have hlan : ¬apart "network.lan.ipaddr" := fun h => absurd (hapart _ h) (by decide)
  unfold localIpv4
  refine blind_run_bind (blind_ipFromUbusInterface interface) fun ip => ?_
  cases ip with
  | some ip => exact blind_run_done _
  | none =>
      refine blind_run_bind (blind_ipFromRouteToAcs hmock hapart) fun ip => ?_
      cases ip with
      | some ip => exact blind_run_done _
      | none =>
          refine blind_run_bind (blind_rawGet hmock hapart _ haddress) fun ip => ?_
          cases usableIpv4 ip with
          | some ip => exact blind_run_done _
          | none =>
              exact blind_run_bind (blind_rawGet hmock hapart _ hlan) fun _ => blind_run_done _

theorem blind_connectionRequestUrl :
    Blind (Alike (τ := τ) apart) (engine.connectionRequestUrl.run outside.handler) := by
  have hinterface : ¬apart "tr69.settings.interface" := fun h => absurd (hapart _ h) (by decide)
  have hport : ¬apart "tr69.settings.port" := fun h => absurd (hapart _ h) (by decide)
  unfold connectionRequestUrl
  refine blind_run_bind (blind_configuredConnectionRequestUrl hmock hapart) fun url => ?_
  cases url with
  | some url => exact blind_run_done _
  | none =>
      refine blind_run_bind (blind_rawGet hmock hapart _ hinterface) fun option => ?_
      refine blind_run_bind (blind_localIpv4 hmock hapart _) fun ip => ?_
      cases ip with
      | none => exact blind_run_bind (blind_trace _ _) fun _ => blind_run_done _
      | some ip =>
          exact blind_run_bind (blind_rawGet hmock hapart _ hport) fun _ => blind_run_done _

theorem blind_getterTable (getter : Getter) (spec : Spec) :
    Blind (Alike (τ := τ) apart) ((engine.getterTable getter spec).run outside.handler) := by
  have hcaptured : ∀ command,
      Blind (Alike (τ := τ) apart) ((capturedOr spec command).run outside.handler) := by
    intro command
    unfold capturedOr
    refine blind_run_bind (blind_capture _) fun value => ?_
    cases value <;> exact blind_run_done _
  cases getter with
  | serialNumber => exact hcaptured _
  | softwareVersion => exact hcaptured _
  | connectionRequestUrl =>
      exact blind_run_bind (blind_connectionRequestUrl hmock hapart) fun _ => blind_run_done _

end Getters

/-! ## Reading -/

/-- Two values of a parameter: the same, unless the value is a revealed password. -/
def SameValue (revealSecrets : Bool) (value value' : ParameterValue) : Prop :=
  value.name = value'.name ∧ value.type = value'.type ∧
    (value.value = value'.value ∨ revealSecrets = true ∧
      ∃ spec, deviceMap.lookup value.name = some spec ∧ spec.secret = true)

section Reading

variable (engine : CpeEngine)

theorem coupled_read (path : String) (revealSecrets : Bool) {spec : Spec}
    (hlookup : deviceMap.lookup path = some spec) :
    Coupled (Alike (τ := τ) (· ∈ secretKeys)) (Alike (· ∈ secretKeys))
      (fun value value' => value = value' ∨ revealSecrets = true ∧ spec.secret = true)
      ((engine.read path revealSecrets).run outside.handler)
      ((engine.read path revealSecrets).run outside.handler) := by
  unfold read
  rw [engine.shipped, hlookup]
  dsimp only
  split_ifs with hhidden
  · exact coupled_run_done (Or.inl rfl)
  -- a getter reads no secret
  · cases hgetter : spec.getter with
    | some getter =>
        dsimp only
        rw [engine.getters_eq]
        refine coupled_run_bind (blind_getterTable engine.notMock (fun _ h => h) getter spec)
          fun value value' hvalue => ?_
        exact coupled_run_done (Or.inl (by rw [hvalue]))
    | none =>
        cases huci : spec.uci with
        | none => exact coupled_run_done (Or.inl rfl)
        | some location =>
            refine coupled_run_bind
              (coupled_rawGet engine.notMock (fun _ h => h) .lookup (uciKey location))
              fun value value' hvalue => ?_
            rcases hvalue with rfl | ⟨hkey, ⟨text, rfl, _⟩, ⟨text', rfl, _⟩⟩
            · cases value with
              | none => exact coupled_run_done (Or.inl rfl)
              | some text => exact coupled_run_done (Or.inl rfl)
            -- what differs is secret, so that it was asked for with the secrets revealed
            · have hsecret := (secret_iff_mem_secretKeys hlookup huci).mpr hkey
              have hreveal : revealSecrets = true := by simpa [hsecret] using hhidden
              exact coupled_run_done (Or.inr ⟨hreveal, hsecret⟩)

theorem coupled_getParameterValues_loop (paths : List String) (revealSecrets : Bool) :
    Coupled (Alike (τ := τ) (· ∈ secretKeys)) (Alike (· ∈ secretKeys))
      (fun result result' => List.Forall₂ (SameValue revealSecrets) result.1 result'.1 ∧
        result.2 = result'.2)
      ((getParameterValues.loop engine.toEngine revealSecrets paths).run outside.handler)
      ((getParameterValues.loop engine.toEngine revealSecrets paths).run outside.handler) := by
  induction paths with
  | nil => exact coupled_run_done ⟨.nil, rfl⟩
  | cons path rest ih =>
      unfold getParameterValues.loop
      rw [engine.shipped]
      cases hlookup : deviceMap.lookup path with
      | none =>
          refine coupled_run_bind (blind_trace _ _) fun _ _ _ => ?_
          refine coupled_run_bind ih fun result result' hresult => ?_
          exact coupled_run_done ⟨hresult.1, by rw [hresult.2]⟩
      | some spec =>
          refine coupled_run_bind (blind_trace _ _) fun _ _ _ => ?_
          refine coupled_run_bind (coupled_read engine path revealSecrets hlookup)
            fun value value' hvalue => ?_
          -- the line does not show the value of a secret
          have hline : displayValue spec (value.getD "") = displayValue spec (value'.getD "") := by
            rcases hvalue with rfl | ⟨_, hsecret⟩
            · rfl
            · simp only [displayValue, hsecret, if_true]
          refine coupled_run_bind (coupled_trace _ (by rw [hline])) fun _ _ _ => ?_
          refine coupled_run_bind ih fun result result' hresult => ?_
          refine coupled_run_done ⟨.cons ⟨rfl, rfl, ?_⟩ hresult.1, hresult.2⟩
          rcases hvalue with rfl | ⟨hreveal, hsecret⟩
          · exact Or.inl rfl
          · exact Or.inr ⟨hreveal, spec, hlookup, hsecret⟩

theorem coupled_getParameterValues (paths : List String) (revealSecrets : Bool) :
    Coupled (Alike (τ := τ) (· ∈ secretKeys)) (Alike (· ∈ secretKeys))
      (fun result result' => List.Forall₂ (SameValue revealSecrets) result.1 result'.1 ∧
        result.2 = result'.2)
      ((engine.getParameterValues paths revealSecrets).run outside.handler)
      ((engine.getParameterValues paths revealSecrets).run outside.handler) := by
  unfold getParameterValues
  refine coupled_run_bind (blind_trace _ _) fun _ _ _ => ?_
  exact coupled_getParameterValues_loop engine paths revealSecrets

/-- Without `reveal_secrets` the two runs read the same. -/
theorem blind_getParameterValues (paths : List String) :
    Blind (Alike (τ := τ) (· ∈ secretKeys))
      ((engine.getParameterValues paths false).run outside.handler) := by
  refine (coupled_getParameterValues engine paths false).mono (fun _ _ h => h) (fun _ _ h => h) ?_
  rintro ⟨values, invalid⟩ ⟨values', invalid'⟩ ⟨hvalues, hinvalid⟩
  dsimp only at hvalues hinvalid
  have hsame : values = values' := by
    refine List.forall₂_eq_eq_eq ▸ hvalues.imp ?_
    rintro ⟨name, value, type⟩ ⟨name', value', type'⟩ ⟨hname, htype, hvalue | ⟨hreveal, _⟩⟩
    · simp_all
    · cases hreveal
  rw [hsame, hinvalid]

theorem blind_getParameterNames (path : String) :
    Blind (Alike (τ := τ) apart)
      ((engine.getParameterNames path).run outside.handler) := by
  unfold getParameterNames
  refine blind_run_bind (blind_trace _ _) fun _ => ?_
  dsimp only
  split_ifs
  · exact blind_run_bind (blind_trace _ _) fun _ => blind_run_done _
  · exact blind_run_bind (blind_trace _ _) fun _ => blind_run_done _

end Reading

/-! ## Writing -/

section Validation

variable (engine : Engine)

theorem coupled_stageItems (items : List ParameterValue) :
    Coupled (Alike (τ := τ) apart) (Alike apart)
      (fun staged staged' => staged = staged' ∧ staged = checkItems engine.model items)
      ((engine.stageItems items).run outside.handler)
      ((engine.stageItems items).run outside.handler) := by
  induction items with
  | nil => exact coupled_run_done ⟨rfl, rfl⟩
  | cons item rest ih =>
      obtain ⟨message, hitem⟩ := engine.stageItem_eq item
      unfold stageItems
      rw [hitem]
      simp only [bind_assoc, pure_bind, checkItems]
      refine coupled_run_bind (blind_trace _ _) fun _ _ _ => ?_
      cases checkItem engine.model item with
      | error error => exact coupled_run_done ⟨rfl, rfl⟩
      | ok staged =>
          refine coupled_run_bind ih fun others others' hothers => ?_
          obtain ⟨rfl, hcheck⟩ := hothers
          rw [← hcheck]
          cases others <;> exact coupled_run_done ⟨rfl, rfl⟩

theorem blind_stageParameterKey (parameterKey : String) :
    Blind (Alike (τ := τ) apart) ((engine.stageParameterKey parameterKey).run outside.handler) := by
  unfold stageParameterKey
  cases engine.model.lookup parameterKeyPath with
  | none => exact blind_run_bind (blind_trace _ _) fun _ => blind_run_done _
  | some spec =>
      obtain ⟨_, _, _, _, _, _, _, _, _, uci⟩ := spec
      cases uci with
      | none => exact blind_run_bind (blind_trace _ _) fun _ => blind_run_done _
      | some location =>
          dsimp only
          cases normalize _ parameterKey with
          | error message => exact blind_run_bind (blind_trace _ _) fun _ => blind_run_done _
          | ok value => exact blind_run_done _

end Validation

/-- The same keys were saved, with values that are the same or both readable. -/
structure SavedAlike (originals originals' : Originals) : Prop where
  keys : originals.map Prod.fst = originals'.map Prod.fst
  values : ∀ key value value', (key, value) ∈ originals → (key, value') ∈ originals' →
    Answered (key ∈ secretKeys) value value'

section Transaction

variable (hmock : engine.mock = none)

include hmock in
theorem coupled_saveOriginal (key : String) {originals originals' : Originals}
    (hsaved : SavedAlike originals originals') :
    Coupled (Alike (τ := τ) (· ∈ secretKeys)) (Alike (· ∈ secretKeys))
      (fun result result' => SavedAlike result result' ∧
        (key ∈ originals.map Prod.fst ∧ result = originals ∧ result' = originals' ∨
          ∃ value value', result = originals ++ [(key, value)] ∧
            result' = originals' ++ [(key, value')]))
      ((engine.saveOriginal key originals).run outside.handler)
      ((engine.saveOriginal key originals').run outside.handler) := by
  unfold saveOriginal
  rw [← hsaved.keys]
  split_ifs with hmem
  · exact coupled_run_done ⟨hsaved, Or.inl ⟨hmem, rfl, rfl⟩⟩
  · refine coupled_run_bind (coupled_rawGet hmock (fun _ h => h) .lookup key)
      fun value value' hvalue => ?_
    refine coupled_run_done ⟨⟨?_, ?_⟩, Or.inr ⟨value, value', rfl, rfl⟩⟩
    · simp only [List.map_append, hsaved.keys, List.map_cons, List.map_nil]
    · intro k v v' hv hv'
      -- the key is new in both lists, which have the same keys
      have hnew' : ∀ v', (key, v') ∉ originals' := by
        intro v' hv'
        exact hmem (hsaved.keys ▸ List.mem_map_of_mem (f := Prod.fst) hv')
      have hnew : ∀ v, (key, v) ∉ originals :=
        fun v hv => hmem (List.mem_map_of_mem (f := Prod.fst) hv)
      simp only [List.mem_append, List.mem_singleton, Prod.mk.injEq] at hv hv'
      rcases hv with hv | ⟨rfl, rfl⟩
      · rcases hv' with hv' | ⟨rfl, rfl⟩
        · exact hsaved.values k v v' hv hv'
        · exact absurd hv (hnew v)
      · rcases hv' with hv' | ⟨_, rfl⟩
        · exact absurd hv' (hnew' v')
        · exact hvalue

/-- The values that were saved for one key are the same or both readable. -/
theorem answered_lookup {originals originals' : Originals}
    (hsaved : SavedAlike originals originals') (key : String) :
    Answered (key ∈ secretKeys) (originals.lookup key).join (originals'.lookup key).join := by
  have hnone : ∀ {originals : Originals},
      originals.lookup key = none ↔ key ∉ originals.map Prod.fst := by
    intro originals
    rw [List.lookup_eq_none_iff, List.mem_map, not_exists]
    refine forall_congr' fun entry => ?_
    rw [not_and, bne_iff_ne, ne_comm]
  have hmem : ∀ {originals : Originals} {value : Option String},
      originals.lookup key = some value → (key, value) ∈ originals := by
    intro originals value hfound
    obtain ⟨before, after, rfl, _⟩ := List.lookup_eq_some_iff.mp hfound
    simp
  cases hfound : originals.lookup key with
  | none =>
      rw [hnone.mpr (hsaved.keys ▸ hnone.mp hfound)]
      exact .refl _
  | some value =>
      cases hfound' : originals'.lookup key with
      | none =>
          rw [hnone.mpr (hsaved.keys ▸ hnone.mp hfound')] at hfound
          cases hfound
      | some value' => exact hsaved.values key value value' (hmem hfound) (hmem hfound')

/-- The trace of a saved value does not show a secret. -/
theorem savedLine_eq {item : StagedValue} (hredacted : item.Redacted)
    {value value' : Option String} : Answered (item.key ∈ secretKeys) value value' →
      (match value with
        | none => "<missing>"
        | some value => displayValue item.spec value) =
      match value' with
        | none => "<missing>"
        | some value => displayValue item.spec value := by
  rintro (rfl | ⟨hkey, ⟨text, rfl, _⟩, ⟨text', rfl, _⟩⟩)
  · rfl
  · simp only [displayValue, hredacted hkey, if_true]

include hmock in
theorem coupled_saveOriginals {staged : List StagedValue}
    (hredacted : ∀ item ∈ staged, item.Redacted) {originals originals' : Originals}
    (hsaved : SavedAlike originals originals') :
    Coupled (Alike (τ := τ) (· ∈ secretKeys)) (Alike (· ∈ secretKeys)) SavedAlike
      ((engine.saveOriginals staged originals).run outside.handler)
      ((engine.saveOriginals staged originals').run outside.handler) := by
  induction staged generalizing originals originals' with
  | nil => exact coupled_run_done hsaved
  | cons item rest ih =>
      unfold saveOriginals
      refine coupled_run_bind (coupled_saveOriginal hmock item.key hsaved)
        fun result result' hresult => ?_
      have hline := savedLine_eq (hredacted item List.mem_cons_self)
        (answered_lookup hresult.1 item.key)
      refine coupled_run_bind (coupled_trace _ (congrArg _ hline)) fun _ _ _ => ?_
      exact ih (fun other hother => hredacted other (List.mem_cons_of_mem _ hother)) hresult.1

theorem coupled_restoreOriginal {key : String} {value value' : Option String}
    (hvalue : Answered (key ∈ secretKeys) value value') :
    Coupled (Alike (τ := τ) (· ∈ secretKeys)) (Alike (· ∈ secretKeys)) Eq
      ((engine.restoreOriginal key value).run outside.handler)
      ((engine.restoreOriginal key value').run outside.handler) := by
  -- an original is put back by a command that shows the key only
  have hset : ∀ text text', Answered (key ∈ secretKeys) (some text) (some text') →
      Coupled (Alike (τ := τ) (· ∈ secretKeys)) (Alike (· ∈ secretKeys)) Eq
        ((engine.restoreOriginal key (some text)).run outside.handler)
        ((engine.restoreOriginal key (some text')).run outside.handler) := by
    intro text text' htext
    refine coupled_run_bind (blind_trace _ _) fun _ _ _ => ?_
    refine coupled_run_bind (coupled_uciSet .rollback htext fun _ _ hother => hother)
      fun _ _ _ => ?_
    exact coupled_run_done rfl
  cases value with
  -- whether there was a value is the same on both sides
  | none =>
      obtain rfl : none = value' := by
        refine hvalue.resolve_right ?_
        rintro ⟨_, ⟨_, hnone, _⟩, _⟩
        cases hnone
      refine blind_run_bind (blind_trace _ _) fun _ => ?_
      exact blind_run_bind (blind_uciDelete _ key) fun _ => blind_run_done _
  | some text =>
      rcases hvalue with rfl | ⟨hkey, hread, text', rfl, hne, hclean⟩
      · exact hset text text (.refl _)
      · exact hset text text' (Or.inr ⟨hkey, hread, text', rfl, hne, hclean⟩)

theorem coupled_restoreLoop {entries entries' : Originals} (hsaved : SavedAlike entries entries') :
    Coupled (Alike (τ := τ) (· ∈ secretKeys)) (Alike (· ∈ secretKeys)) Eq
      ((engine.restoreLoop entries).run outside.handler)
      ((engine.restoreLoop entries').run outside.handler) := by
  induction entries generalizing entries' with
  | nil =>
      obtain rfl : entries' = [] := List.map_eq_nil_iff.mp hsaved.keys.symm
      exact coupled_run_done rfl
  | cons entry rest ih =>
      obtain ⟨key, value⟩ := entry
      obtain ⟨⟨key', value'⟩, rest', rfl, hkey, hrest⟩ := List.map_eq_cons_iff.mp hsaved.keys.symm
      obtain rfl : key' = key := hkey
      unfold restoreLoop
      refine coupled_run_bind (coupled_restoreOriginal ?_) fun _ _ _ => ih ⟨hrest.symm, ?_⟩
      · exact hsaved.values _ _ _ List.mem_cons_self List.mem_cons_self
      · intro k v v' hv hv'
        exact hsaved.values k v v' (List.mem_cons_of_mem _ hv) (List.mem_cons_of_mem _ hv')

theorem coupled_restoreOriginals (hpairs : engine.pairs.ByKey) (count : Nat)
    {originals originals' : Originals} (hsaved : SavedAlike originals originals') :
    Coupled (Alike (τ := τ) (· ∈ secretKeys)) (Alike (· ∈ secretKeys)) Eq
      ((engine.restoreOriginals count originals).run outside.handler)
      ((engine.restoreOriginals count originals').run outside.handler) := by
  have hperm := engine.pairs.perm originals
  have hperm' := engine.pairs.perm originals'
  have hordered : SavedAlike (engine.pairs.order originals) (engine.pairs.order originals') := by
    refine ⟨hpairs _ _ hsaved.keys, fun key value value' hvalue hvalue' => ?_⟩
    exact hsaved.values key value value' (hperm.mem_iff.mp hvalue) (hperm'.mem_iff.mp hvalue')
  unfold restoreOriginals
  refine coupled_run_bind (blind_trace _ _) fun _ _ _ => ?_
  refine coupled_run_bind (coupled_restoreLoop hordered) fun _ _ _ => ?_
  exact blind_run_bind (blind_uciCommit _ _) fun _ => blind_trace _ _

/-- What was set is the same in both runs. -/
theorem coupled_setStaged (item : StagedValue) :
    Coupled (Alike (τ := τ) apart) (Alike fun key => apart key ∧ key ≠ item.key)
      (fun ok ok' => ok = true ∧ ok' = true)
      ((engine.setStaged item).run outside.handler)
      ((engine.setStaged item).run outside.handler) := by
  unfold setStaged
  refine coupled_run_bind (blind_trace _ _) fun _ _ _ => ?_
  have himp : ∀ other, other ≠ item.key → apart other → apart other ∧ other ≠ item.key :=
    fun _ hne hother => ⟨hother, hne⟩
  refine coupled_run_bind (coupled_uciSet .forward (.refl _) himp) fun ok ok' hok => ?_
  obtain ⟨rfl, rfl⟩ := hok
  exact coupled_run_bind (blind_trace _ _) fun _ _ _ => coupled_run_done ⟨rfl, rfl⟩

theorem coupled_setAll (staged : List StagedValue) :
    Coupled (Alike (τ := τ) apart) (Alike fun key => apart key ∧ key ∉ staged.map StagedValue.key)
      (fun failed failed' => failed = none ∧ failed' = none)
      ((engine.setAll staged).run outside.handler)
      ((engine.setAll staged).run outside.handler) := by
  induction staged generalizing apart with
  | nil =>
      refine coupled_run_done_of_imp ⟨rfl, rfl⟩ fun _ _ h => ?_
      exact h.mono fun _ hkey => ⟨hkey, by simp⟩
  | cons item rest ih =>
      unfold setAll
      refine coupled_run_bind (coupled_setStaged item) fun ok ok' hok => ?_
      obtain ⟨rfl, rfl⟩ := hok
      refine ih.mono (fun _ _ h => h) (fun _ _ h => h.mono ?_) fun _ _ h => h
      rintro key ⟨⟨hkey, hne⟩, hmem⟩
      exact ⟨hkey, by simpa [hne] using hmem⟩

include hmock in
/-- What was set reads back the same in both runs. -/
theorem blind_readBackAll (hapart : ∀ key, apart key → key ∈ secretKeys)
    {staged : List StagedValue} (hwritten : ∀ item ∈ staged, ¬apart item.key) :
    Blind (Alike (τ := τ) apart) ((engine.readBackAll staged).run outside.handler) := by
  induction staged with
  | nil => exact blind_run_done _
  | cons item rest ih =>
      have hitem : Blind (Alike (τ := τ) apart) ((engine.readBack item).run outside.handler) := by
        unfold readBack
        refine blind_run_bind (blind_rawGet hmock hapart _ ?_) fun _ => ?_
        · exact hwritten item List.mem_cons_self
        · exact blind_run_bind (blind_trace _ _) fun _ => blind_run_done _
      unfold readBackAll
      refine blind_run_bind hitem fun ok => ?_
      split_ifs
      · exact ih fun other hother => hwritten other (List.mem_cons_of_mem _ hother)
      · exact blind_run_done _

/-- The rollback takes the runs apart again. -/
theorem coupled_rollback (written : List StagedValue) (hpairs : engine.pairs.ByKey) (count : Nat)
    {originals originals' : Originals} (hsaved : SavedAlike originals originals')
    (error : SetError) :
    Coupled (Alike (τ := τ) fun key => key ∈ secretKeys ∧ key ∉ written.map StagedValue.key)
      (Alike (· ∈ secretKeys)) Eq
      (((engine.restoreOriginals count originals) >>= fun _ =>
        (Prog.done (.error error) : SystemProg (Except SetError Unit))).run outside.handler)
      (((engine.restoreOriginals count originals') >>= fun _ =>
        (Prog.done (.error error) : SystemProg (Except SetError Unit))).run outside.handler) := by
  refine (coupled_run_bind (coupled_restoreOriginals hpairs count hsaved) fun _ _ _ =>
    coupled_run_done rfl).mono ?_ (fun _ _ h => h) fun _ _ h => h
  intro _ _ h
  exact h.mono fun _ hkey => hkey.1

include hmock in
theorem blind_commitStaged (hpairs : engine.pairs.ByKey) {staged : List StagedValue}
    {parameterKey : StagedValue} (hredacted : ∀ item ∈ staged, item.Redacted) :
    Blind (Alike (τ := τ) (· ∈ secretKeys))
      ((engine.commitStaged staged parameterKey).run outside.handler) := by
  unfold commitStaged
  refine coupled_run_bind (coupled_saveOriginals hmock hredacted
    ⟨rfl, fun _ _ _ hvalue => nomatch hvalue⟩) fun originals₁ originals₁' hsaved₁ => ?_
  refine coupled_run_bind (coupled_saveOriginal hmock parameterKey.key hsaved₁)
    fun originals originals' hsaved => ?_
  refine coupled_run_bind (blind_trace _ _) fun _ _ _ => ?_
  refine coupled_run_bind (coupled_setAll (staged ++ [parameterKey]))
    fun failed failed' hfailed => ?_
  obtain ⟨rfl, rfl⟩ := hfailed
  dsimp only
  refine coupled_run_bind (blind_trace _ _) fun _ _ _ => ?_
  refine coupled_run_bind (blind_uciCommit _ _) fun ok ok' hok => ?_
  obtain rfl : ok = ok' := hok
  -- from here on both runs see the same, until the rollback
  cases ok with
  | false =>
      rw [if_neg Bool.false_ne_true, if_neg Bool.false_ne_true]
      refine coupled_run_bind (blind_trace _ _) fun _ _ _ => ?_
      exact coupled_rollback _ hpairs _ hsaved.1 _
  | true =>
      rw [if_pos rfl, if_pos rfl]
      refine coupled_run_bind (blind_trace _ _) fun _ _ _ => ?_
      refine coupled_run_bind (blind_readBackAll hmock (fun _ hkey => hkey.1) ?_)
        fun failed failed' hfailed => ?_
      · exact fun item hitem hkey => hkey.2 (List.mem_map_of_mem hitem)
      · obtain rfl : failed = failed' := hfailed
        cases failed with
        | some item => exact coupled_rollback _ hpairs _ hsaved.1 _
        | none =>
            refine coupled_run_bind blind_notifyRuntimeReload fun _ _ _ => ?_
            refine coupled_run_bind (blind_trace _ _) fun _ _ _ => ?_
            refine coupled_run_done_of_imp rfl fun _ _ h => ?_
            exact h.mono fun _ hkey => hkey.1

end Transaction

theorem redacted_of_lookup {path : String} {item : StagedValue}
    (hlookup : deviceMap.lookup path = some item.spec) : item.Redacted :=
  fun hkey => (secret_iff_mem_secretKeys hlookup item.mapped).mpr hkey

/-- `setParameterValues` returns the same, and the stores stay alike. -/
theorem coupled_setParameterValues (engine : CpeEngine) (hpairs : engine.pairs.ByKey)
    (values : List ParameterValue) (parameterKey : String) :
    Coupled (Alike (τ := τ) (· ∈ secretKeys)) (Alike (· ∈ secretKeys))
      (fun result result' => result = result' ∧ result.2 = engine.toEngine)
      ((engine.setParameterValues values parameterKey).run outside.handler)
      ((engine.setParameterValues values parameterKey).run outside.handler) := by
  unfold setParameterValues
  refine coupled_run_bind (blind_trace _ _) fun _ _ _ => ?_
  refine coupled_run_bind (coupled_stageItems _ values) fun staged staged' hstaged => ?_
  obtain ⟨rfl, hcheck⟩ := hstaged
  cases staged with
  | error error => exact coupled_run_done ⟨rfl, rfl⟩
  | ok staged =>
      refine coupled_run_bind (blind_stageParameterKey _ parameterKey)
        fun normalizedKey _ hkey => ?_
      obtain rfl := hkey
      cases normalizedKey with
      | error error => exact coupled_run_done ⟨rfl, rfl⟩
      | ok normalizedKey =>
          rw [engine.shipped] at hcheck
          -- the lines of the commit show no value of a secret
          have hredacted : ∀ item ∈ staged, item.Redacted := by
            intro item hitem
            obtain ⟨value, _, hvalue⟩ :=
              exists_of_forall₂_of_mem (staged_of_checkItems hcheck.symm).flip hitem
            exact redacted_of_lookup hvalue.lookup
          dsimp only
          rw [engine.notMock]
          refine coupled_run_bind (blind_commitStaged engine.notMock hpairs hredacted)
            fun result result' hresult => ?_
          exact coupled_run_done ⟨by rw [hresult], rfl⟩

end Engine

end Tr069d
