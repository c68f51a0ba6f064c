import Tr069d.Daemon.Reading
import Tr069d.Daemon.Turn
import Tr069d.Effects.Snapshot

/-!
# Reading the configuration while it changes

`readConfig` asks UCI for one option after the other, and no option twice.  Amid a
single change of the store it reads a configuration that the store held.

* `once_readConfig` follows the options in the order of the source.
* `readAmid_of_exec` is the result: without a change the configuration is that of the
  store, and with one it is that of the store before or after it.

With two changes in between it may be a mixture that no store ever had, and nothing is
said about it.
-/

namespace Tr069d

open Effects

/-- `uci get` looks at one option; writing to a log looks at none. -/
def uciReader : Reader system String (Option String) where
  reads
    | .uciGet _ _ => True
    | .stderr _ => True
    | .log _ _ => True
    | _ => False
  key
    | .uciGet _ key => some key
    | _ => none
  answer c view := (uciHandler c (.ofCommitted view)).1
  answer_congr {c view view'} hreads hsame := by
    cases c with
    | uciGet phase key => exact congrArg (Option.map printed) (hsame key rfl)
    | stderr | log => rfl
    | _ => exact hreads.elim

/-- A program that only reads returns on a store what its view says. -/
theorem run_of_once {α : Type} {program : SystemProg α} {seen : List String}
    (h : uciReader.Once program seen) (store : Store) :
    program.run uciHandler store = (uciReader.result program store.view, store) := by
  induction program generalizing seen with
  | done value => rfl
  | call c next ih =>
      have hreads := h.reads
      cases c with
      | uciGet phase key => exact ih _ (h.rest _)
      | stderr text => exact ih () (h.rest ())
      | log level message => exact ih () (h.rest ())
      | _ => exact hreads.elim

/-! ## The options that are read -/

/-- What holds of the result and the options that were looked at. -/
abbrev looking {α : Type} (program : SystemProg α) (post : α → List String → Prop)
    (seen : List String) : Prop :=
  wp (noted fun c _ => (uciReader.key c).toList) uciReader.reads program post seen

section Looking

variable {α β : Type} {seen : List String}

theorem looking_bind {program : SystemProg α} {f : α → SystemProg β}
    {post : β → List String → Prop}
    (h : looking program (fun value seen => looking (f value) post seen) seen) :
    looking (program >>= f) post seen :=
  wp_bind.mpr h

theorem looking_pure {value : α} {post : α → List String → Prop} (h : post value seen) :
    looking (pure value) post seen := h

theorem looking_get {phase : Phase} {key : String} {post : Option String → List String → Prop}
    (h : ∀ value, post value (key :: seen)) :
    looking (@Prog.ask system (.uciGet phase key)) post seen := by
  refine ⟨trivial, ?_⟩
  rintro value _ rfl
  exact h value

theorem looking_log {level : LogLevel} {message : String} {post : Unit → List String → Prop}
    (h : post () seen) : looking (Logger.log level message) post seen := by
  refine ⟨trivial, ?_⟩
  rintro _ _ rfl
  exact h

theorem looking_trace {engine : Engine} {layer message : String}
    {post : Unit → List String → Prop} (h : post () seen) :
    looking (engine.trace layer message) post seen := by
  unfold Engine.trace
  split
  · refine ⟨trivial, ?_⟩
    rintro _ _ rfl
    exact h
  · exact h

theorem looking_uciGet {key : String} (hvalid : UciAdapter.validKey key = true)
    {post : Option String → List String → Prop} (h : ∀ value, post value (key :: seen)) :
    looking (UciAdapter.get key) post seen := by
  rw [UciAdapter.get, if_pos hvalid]
  exact looking_get h

theorem looking_getBool {key : String} (hvalid : UciAdapter.validKey key = true)
    {fallback : Bool} {post : Bool → List String → Prop}
    (h : ∀ value, post value (key :: seen)) :
    looking (UciAdapter.getBool key fallback) post seen :=
  looking_bind (looking_uciGet hvalid fun _ => h _)

theorem looking_getUnsigned {key : String} (hvalid : UciAdapter.validKey key = true)
    {fallback : Nat} {post : Nat → List String → Prop}
    (h : ∀ value, post value (key :: seen)) :
    looking (UciAdapter.getUnsigned key fallback) post seen :=
  looking_bind (looking_uciGet hvalid fun _ => h _)

/-- The option that a parameter without a getter is read from. -/
def optionOf (path : String) : Option String :=
  match deviceMap.lookup path with
  | some { getter := none, uci := some location, .. } => some (uciKey location)
  | _ => none

theorem looking_internalValue (engine : UciEngine) {lastError path fallback : String}
    (key : String) (hkey : optionOf path = some key) {post : String → List String → Prop}
    (h : ∀ value, post value (key :: seen)) :
    looking (internalValue ⟨some engine.toEngine, lastError⟩ path fallback) post seen := by
  unfold optionOf at hkey
  split at hkey
  · rename_i location hlookup
    obtain rfl : uciKey location = key := Option.some.inj hkey
    -- the option that is mapped to is the only one that is asked for
    have hread : ∀ post : Option String → List String → Prop,
        (∀ value, post value (uciKey location :: seen)) →
          looking (engine.toEngine.read path true) post seen := by
      intro post hpost
      unfold Engine.read Engine.rawGet
      simp only [engine.shipped, hlookup, engine.notMock, Bool.not_true, Bool.and_false,
        Bool.false_eq_true, if_false, wp_bind]
      refine looking_get fun value => looking_trace ?_
      cases value with
      | none => exact hpost _
      | some value => exact hpost _
    unfold internalValue LuaTransformer.getInternal LuaTransformer.getParameterValues
      Engine.getParameterValues Engine.getParameterValues.loop
    simp only [engine.shipped, hlookup, wp_bind]
    refine looking_trace (looking_trace (hread _ fun value => looking_trace ?_))
    exact h _
  · cases hkey

theorem looking_readMockMode {allowMockReboot : Bool} {post : Bool → List String → Prop}
    (h : ∀ value, post value ("tr69.settings.mock_mode" :: seen)) :
    looking (readMockMode allowMockReboot) post seen := by
  unfold readMockMode
  refine looking_bind (looking_getBool (by decide) ?_)
  intro value
  split
  · exact looking_bind (looking_log (h false))
  · exact h value

/-- The log level itself is not looked at while debugging. -/
theorem looking_readLogLevel {post : LogLevel → List String → Prop}
    (hdebug : ∀ level, post level ("tr69.settings.debug" :: seen))
    (h : ∀ level, post level ("tr69.settings.log_level" :: "tr69.settings.debug" :: seen)) :
    looking readLogLevel post seen := by
  unfold readLogLevel
  refine looking_bind (looking_getBool (by decide) ?_)
  intro value
  split
  · exact hdebug _
  · refine looking_bind (looking_uciGet (by decide) ?_)
    exact fun value => h _

end Looking

/-- `readConfig` looks at no option twice. -/
theorem once_readConfig (engine : UciEngine) (lastError : String) (allowMockReboot : Bool)
    (target : DaemonConfig) :
    uciReader.Once (readConfig ⟨some engine.toEngine, lastError⟩ allowMockReboot target) [] := by
  -- the options are met in the order of the source, and each is new then
  have hready : (!LuaTransformer.ready ⟨some engine.toEngine, lastError⟩) = false := rfl
  unfold readConfig
  rw [hready, if_neg Bool.false_ne_true]
  refine looking_bind (looking_internalValue engine "tr69.mgmt_srv.enable" (by decide) fun _ => ?_)
  refine looking_bind (looking_internalValue engine "tr69.mgmt_srv.url" (by decide) fun _ => ?_)
  refine looking_bind (looking_internalValue engine
    "tr69.mgmt_srv.username" (by decide) fun _ => ?_)
  refine looking_bind (looking_internalValue engine
    "tr69.mgmt_srv.password" (by decide) fun _ => ?_)
  refine looking_bind (looking_uciGet (by decide) ?_)
  intro _
  refine looking_bind (looking_getBool (by decide) ?_)
  intro _
  refine looking_bind (looking_internalValue engine
    "tr69.periodic_inform.enable" (by decide) fun _ => ?_)
  refine looking_bind (looking_internalValue engine
    "tr69.periodic_inform.interval" (by decide) fun _ => ?_)
  refine looking_bind (looking_internalValue engine
    "tr69.periodic_inform.time" (by decide) fun _ => ?_)
  refine looking_bind (looking_internalValue engine
    "tr69.mgmt_srv.upgrades_managed" (by decide) fun _ => ?_)
  refine looking_bind (looking_internalValue engine
    "tr69.mgmt_srv.defaultactivenotificationthrottle" (by decide) fun _ => ?_)
  refine looking_bind (looking_readMockMode fun _ => ?_)
  -- the two notes of the daemon and the switch of the listener
  iterate 3
    refine looking_bind (looking_getBool (by decide) ?_)
    intro _
  refine looking_bind (looking_uciGet (by decide) ?_)
  intro _
  refine looking_bind (looking_getUnsigned (by decide) ?_)
  intro _
  refine looking_bind (looking_internalValue engine
    "tr69.conn_request.username" (by decide) fun _ => ?_)
  refine looking_bind (looking_internalValue engine
    "tr69.conn_request.password" (by decide) fun _ => ?_)
  refine looking_bind (looking_uciGet (by decide) ?_)
  intro _
  -- how a failed session is retried
  iterate 2
    refine looking_bind (looking_getUnsigned (by decide) ?_)
    intro _
  refine looking_bind (looking_readLogLevel ?_ ?_)
  · exact fun _ => looking_pure (by decide)
  · exact fun _ => looking_pure (by decide)

/-! ## Amid the changes of others -/

/-- UCI, while others change the store before each command.  The changes are
counted, an option at a time. -/
def amidOthers (mayFail : SystemCall → Prop) : Env system (Store × Nat) := fun c s answer s' =>
  ∃ n between, ChangedBy n s.1.view between.view ∧ uciEnv mayFail c between answer s'.1 ∧
    s'.2 = s.2 + n

/-- What was read amid so many changes is what the store held, unless there were
more than one of them. -/
structure ReadAmid (allowMockReboot : Bool) (target read : DaemonConfig) (n : Nat)
    (store store' : Store) : Prop where
  changed : ChangedBy n store.view store'.view
  unchanged : n = 0 → read = configFrom store allowMockReboot target
  once : n = 1 → read = configFrom store allowMockReboot target ∨
    read = configFrom store' allowMockReboot target

/-- What is read depends on the view only. -/
theorem configFrom_congr {store store' : Store} (hview : store'.view = store.view) :
    configFrom store' = configFrom store := by
  have hcaptured : captured store' = captured store := by
    funext key
    rw [captured, captured, hview]
  funext allowMockReboot target
  simp only [configFrom, internalText, reportedValue, hcaptured]

variable {mayFail : SystemCall → Prop}

/-- Where `uci get` does not fail, reading amid the others is reading a store that changes. -/
theorem exec_amid (hreads : ∀ phase key, ¬mayFail (.uciGet phase key)) {α : Type}
    {program : SystemProg α} {s s' : Store × Nat} {value : α}
    (hexec : Exec (amidOthers mayFail) program s value s') :
    Exec uciReader.amid program (s.1.view, s.2) value (s'.1.view, s'.2) := by
  refine hexec.map (f := fun s => (s.1.view, s.2)) ?_
  rintro c ⟨store, m⟩ answer ⟨store', m'⟩ ⟨n, between, hchanged, hcall, hcount⟩ hc
  refine ⟨n, ?_⟩
  cases c with
  | uciGet phase key =>
      obtain ⟨rfl, hanswer⟩ := hcall
      exact ⟨hchanged, hcount, hanswer.resolve_right fun hfailed => hreads _ _ hfailed.1⟩
  | stderr | log =>
      obtain rfl : store' = between := hcall
      exact ⟨hchanged, hcount, rfl⟩
  | _ => exact hc.elim

/-- `readConfig` reads one of the configurations that the store held, unless it
changed more than once meanwhile. -/
theorem readAmid_of_exec (hreads : ∀ phase key, ¬mayFail (.uciGet phase key))
    {engine : UciEngine} {lastError : String} {allowMockReboot : Bool} {target : DaemonConfig}
    {store store' : Store} {n : Nat} {answer : Option (DaemonConfig × LogLevel)}
    (hexec : Exec (amidOthers mayFail)
      (readConfig ⟨some engine.toEngine, lastError⟩ allowMockReboot target)
      (store, 0) answer (store', n)) :
    ∃ read level, answer = some (read, level) ∧
      ReadAmid allowMockReboot target read n store store' := by
  have honce := once_readConfig engine lastError allowMockReboot target
  -- what the reading gives in a store that stands still
  have hresult : ∀ store : Store, uciReader.result
      (readConfig ⟨some engine.toEngine, lastError⟩ allowMockReboot target) store.view =
        some (configFrom store allowMockReboot target, logLevelFrom store) := by
    intro store
    have hrun := run_readConfig engine store lastError allowMockReboot target
    rw [run_of_once honce] at hrun
    exact (Prod.mk.inj hrun).1
  have hamid := exec_amid hreads hexec
  obtain ⟨m, hcount, hchanged⟩ := honce.changedBy hamid
  obtain rfl : n = m := by simpa using hcount
  have hsome : ∃ read, answer = some read :=
    Daemon.isSome_readConfig rfl (hexec.map (f := fun _ => ()) fun _ _ _ _ _ => trivial)
  obtain ⟨⟨read, level⟩, rfl⟩ := hsome
  refine ⟨read, level, rfl, hchanged, ?_, ?_⟩
  -- no change in between
  · rintro rfl
    have hvalue := (honce.result_of_unchanged hamid).2
    rw [hresult] at hvalue
    exact (Prod.mk.inj (Option.some.inj hvalue)).1
  -- one change: it falls before or after the only option that it concerns
  · rintro rfl
    have hvalue := honce.result_of_changedBy_one hamid
    rw [hresult, hresult] at hvalue
    exact hvalue.imp (fun h => (Prod.mk.inj (Option.some.inj h)).1)
      fun h => (Prod.mk.inj (Option.some.inj h)).1

end Tr069d
