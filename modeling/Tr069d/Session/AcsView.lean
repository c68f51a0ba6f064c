import Tr069d.Effects.Simulation
import Tr069d.Session.Answers
import Tr069d.Session.Dialogue
import Tr069d.Session.Secrets
import Tr069d.Soap.Listing
import Tr069d.Transformer.ErrorTexts
import Tr069d.Transformer.ReadOnly
import Tr069d.Transformer.ReadYourWrites
import Tr069d.Transformer.Rollback

/-!
# The device as the ACS sees it

To the ACS the options are a table that it reads and writes with RPCs.  Between
that table and the store lie XML, the parser, the engine with its transaction, and
commands that fail.  Here the sessions of the daemon, whatever the ACS asks for in
them, are shown to be runs of the table (`acsView_of_sessions`): a batch that is
acknowledged is what is read from then on, in this session and in the later ones,
and a batch that is answered with a fault has changed nothing.

* `AcsView.Step` is the machine: what an RPC may be answered with, and what becomes of the
  table.  `listed` is a request for options alone; in `computed`, where other names are
  asked for as well, every entry of an option still has what the table shows.
* `Stores` connects the table with a store.  It asks for options that are bytes of
  characters of XML, without CR, and for values that do not end in a line break: the
  first are given back by a reader, and the second by a rollback.
* `wp_getParameterValues` and `view_of_setParameterValues` are the two calls of the
  engine, `step_of_getParameterValues` and `cases_handle` what the handler makes of them,
  and `step_of_handle` one RPC.
* `steps_processAcsMessages` and `steps_sessionExchanges` are the loop and the session,
  `steps_of_session` carries any machine that is simulated through a session, and
  `acsView_of_sessions` is the result.

A store in which an administrator left other bytes is not covered, nor is a rollback
whose own commands fail.
-/

namespace Tr069d

open Effects

/-! ## The table -/

/-- The values of the options, by the names of the parameters. -/
abbrev AcsView : Type :=
  String → String

/-- What the ACS reads of an answer. -/
inductive AcsReply
  | values (id : String) (values : List ParameterValue)
  | answer (id method : String)
  deriving DecidableEq, Repr

/-- An RPC with its answer, if that can be read. -/
structure AcsCall where
  rpc : ParsedRpc
  reply : Option AcsReply

namespace AcsView

/-- The entry of an option in a response.  Passwords are not shown. -/
def shown (view : AcsView) (path : String) : ParameterValue :=
  match deviceMap.lookup path with
  | none => ⟨path, "", ""⟩
  | some spec => ⟨path, if spec.secret then "" else view path, "xsd:" ++ spec.type.name⟩

/-- The table after a batch. -/
def write (view : AcsView) (items : List ParameterValue) (parameterKey : String) : AcsView :=
  fun path => (valueAfter items parameterKey ⟨path, view path, ""⟩).value

/-- What is read for a name: of an option, what the table shows. -/
structure Answers (view : AcsView) (name : String) (value : ParameterValue) : Prop where
  named : value.name = name
  option : isUciBacked name = true → value = view.shown name

/-- What an RPC may be answered with, and what becomes of the table. -/
inductive Step : AcsView → AcsCall → AcsView → Prop
  | listed {view : AcsView} {rpc : ParsedRpc} (hmethod : rpc.method = "GetParameterValues")
      (hoptions : ∀ name ∈ rpc.parameterNames, isUciBacked name = true) :
      Step view ⟨rpc, some (.values (RpcHandler.answerId rpc)
        (rpc.parameterNames.map view.shown))⟩ view
  | computed {view : AcsView} {rpc : ParsedRpc} {values : List ParameterValue}
      (hmethod : rpc.method = "GetParameterValues")
      (hother : ¬∀ name ∈ rpc.parameterNames, isUciBacked name = true)
      (hvalues : List.Forall₂ view.Answers rpc.parameterNames values) :
      Step view ⟨rpc, some (.values (RpcHandler.answerId rpc) values)⟩ view
  | unknown {view : AcsView} {rpc : ParsedRpc} (hmethod : rpc.method = "GetParameterValues")
      (hunknown : ∃ name ∈ rpc.parameterNames, deviceMap.lookup name = none) :
      Step view ⟨rpc, some (.answer (RpcHandler.answerId rpc) "Fault")⟩ view
  | unread {view : AcsView} {rpc : ParsedRpc} (hmethod : rpc.method = "GetParameterValues")
      (hother : ¬∀ name ∈ rpc.parameterNames, isUciBacked name = true) :
      Step view ⟨rpc, none⟩ view
  | accepted {view : AcsView} {rpc : ParsedRpc} (hmethod : rpc.method = "SetParameterValues")
      (hoptions : ∀ item ∈ rpc.parameterValues, isUciBacked item.name = true) :
      Step view ⟨rpc, some (.answer (RpcHandler.answerId rpc) "SetParameterValuesResponse")⟩
        (view.write rpc.parameterValues rpc.parameterKey)
  | refused {view : AcsView} {rpc : ParsedRpc} (hmethod : rpc.method = "SetParameterValues") :
      Step view ⟨rpc, some (.answer (RpcHandler.answerId rpc) "Fault")⟩ view
  | other {view : AcsView} {rpc : ParsedRpc} {reply : Option AcsReply}
      (hget : rpc.method ≠ "GetParameterValues") (hset : rpc.method ≠ "SetParameterValues") :
      Step view ⟨rpc, reply⟩ view

end AcsView

/-- How the ACS reads a document. -/
def AcsReply.read (xml : String) : Option AcsReply :=
  match SoapParser.parseRpc xmlReader xml with
  | .error _ => none
  | .ok parsed =>
      if parsed.method = "GetParameterValuesResponse" then
        (SoapParser.methodElement xmlReader xml).map fun method =>
          .values parsed.cwmpId (SoapParser.listedValues method)
      else some (.answer parsed.cwmpId parsed.method)

theorem readsAsXml_xmlReader (xml : String) : ReadsAsXml xmlReader xml := by
  intro root hroot
  rw [xmlReader, hroot]
  rfl

/-- A document that is built as the answer to a request is read as such. -/
theorem read_of_repliesWith {xml id name : String} {node : Xml.Node}
    (h : RepliesWith xml id name node) :
    AcsReply.read xml = some (if name = "GetParameterValuesResponse" then
      .values id (SoapParser.listedValues (XmlNode.ofNode prefixes node))
      else .answer id name) := by
  obtain ⟨hmethod, parsed, hparse, rfl, rfl⟩ :=
    parseRpc_of_repliesWith h (readsAsXml_xmlReader xml)
  rw [AcsReply.read, hparse]
  dsimp only
  split_ifs
  · rw [hmethod, Option.map_some]
  · rfl

/-- What no XML reader accepts is not read. -/
theorem read_eq_none {xml : String} (h : Xml.readEncoded xml = none) :
    AcsReply.read xml = none := by
  have hparse : ∃ error, SoapParser.parseRpc xmlReader xml = .error error := by
    unfold SoapParser.parseRpc xmlReader
    rw [h]
    split_ifs
    · exact ⟨_, rfl⟩
    · exact ⟨_, rfl⟩
  obtain ⟨error, herror⟩ := hparse
  rw [AcsReply.read, herror]

/-! ## The engine on the table -/

/-- The options of the store are those of the table, and they can be stored and sent. -/
structure Stores (view : AcsView) (store : Store) : Prop where
  clean : ∀ key value, store.view key = some value → NoTrailingBreak value
  options : ∀ path spec location, deviceMap.lookup path = some spec → spec.uci = some location →
    valueOrDefault spec (captured store (uciKey location)) = view path
  legal : ∀ path, isUciBacked path = true → LegalBytes (view path)

section Engine

variable (engine : CpeEngine) {mayFail : SystemCall → Prop} {view : AcsView}
  {store store' : Store}

/-- What the engine reads for a name of the map. -/
structure Gotten (view : AcsView) (path : String) (value : ParameterValue) : Prop where
  answers : view.Answers path value
  name : LegalBytes value.name
  type : OutgoingMessage.Visible value.type

theorem legalBytes_of_lookup {path : String} {spec : Spec}
    (hspec : deviceMap.lookup path = some spec) : LegalBytes path := by
  have hname : ∀ entry ∈ deviceMap.parameters, OutgoingMessage.Visible entry.1 := by decide
  exact legalBytes_of_visible (hname _ (DeviceMap.mem_of_lookup_eq_some hspec))

theorem visible_typeName (type : ParameterType) :
    OutgoingMessage.Visible ("xsd:" ++ type.name) := by
  cases type <;> decide

/-- An option is read from the table. -/
theorem wp_read_option (hlookup : ∀ key, ¬mayFail (.uciGet .lookup key))
    (hstores : Stores view store) {path : String} (hpath : isUciBacked path = true) :
    wp (uciEnv mayFail) anyCall (engine.read path false)
      (fun value s' => value = some (view.shown path).value ∧ s' = store) store := by
  obtain ⟨spec, location, hspec, hmapped⟩ := exists_of_isUciBacked hpath
  have hvalue := hstores.options path spec location hspec hmapped
  unfold Engine.read AcsView.shown
  rw [engine.shipped, hspec]
  dsimp only
  cases hsecret : spec.secret with
  | true => exact ⟨rfl, rfl⟩
  | false =>
      rw [getter_eq_none_of_mapped hspec hmapped, hmapped]
      simp only [Bool.false_and, Bool.false_eq_true, if_false, wp_bind]
      refine Engine.wp_rawGet_alone engine.notMock fun value hget => ?_
      rcases hget with hget | ⟨-, hfails⟩
      · rw [← hvalue, captured, ← hget]
        cases value <;> exact ⟨rfl, rfl⟩
      · exact absurd hfails (hlookup _)

/-- A request is answered with the names that the map does not have, and if there are
none of these, with one value for each name, those of options from the table. -/
theorem wp_getParameterValues (hlookup : ∀ key, ¬mayFail (.uciGet .lookup key))
    (hstores : Stores view store) (paths : List String) :
    wp (uciEnv mayFail) anyCall (engine.getParameterValues paths false)
      (fun result _ => (result.2 = [] → List.Forall₂ (Gotten view) paths result.1) ∧
        ∀ path ∈ result.2, path ∈ paths ∧ deviceMap.lookup path = none) store := by
  -- the store does not move, so that the induction on the names goes through
  have hloop : wp (uciEnv mayFail) anyCall
      (Engine.getParameterValues.loop engine.toEngine false paths)
      (fun result s' => ((result.2 = [] → List.Forall₂ (Gotten view) paths result.1) ∧
        ∀ path ∈ result.2, path ∈ paths ∧ deviceMap.lookup path = none) ∧ s' = store) store := by
    induction paths with
    | nil => exact ⟨⟨fun _ => .nil, fun _ hnone => absurd hnone List.not_mem_nil⟩, rfl⟩
    | cons path rest ih =>
        unfold Engine.getParameterValues.loop
        rw [engine.shipped]
        cases hspec : deviceMap.lookup path with
        | none =>
            dsimp only
            rw [wp_bind]
            refine Engine.wp_trace_alone ?_
            rw [wp_bind]
            apply wp_mono ih
            rintro result s' ⟨⟨_, hunknown⟩, hsame⟩
            refine ⟨⟨fun hnil => absurd hnil (List.cons_ne_nil _ _), ?_⟩, hsame⟩
            refine List.forall_mem_cons.mpr ⟨⟨List.mem_cons_self, hspec⟩, fun other hmem => ?_⟩
            exact ⟨List.mem_cons_of_mem _ (hunknown other hmem).1, (hunknown other hmem).2⟩
        | some spec =>
            -- an option is read as the table has it, anything else as its getter likes
            have hread : wp (uciEnv mayFail) anyCall (engine.read path false)
                (fun value s' => (isUciBacked path = true →
                  value = some (view.shown path).value) ∧ s' = store) store := by
              by_cases hoption : isUciBacked path = true
              · exact wp_mono (wp_read_option engine hlookup hstores hoption)
                  fun _ _ h => ⟨fun _ => h.1, h.2⟩
              · exact wp_mono (wp_of_readsOnly (engine.calls_read path false))
                  fun _ _ h => ⟨fun hmapped => absurd hmapped hoption, h⟩
            dsimp only
            rw [wp_bind]
            refine Engine.wp_trace_alone ?_
            rw [wp_bind]
            apply wp_mono hread
            rintro value s' ⟨hvalue, hsame⟩
            rw [hsame, wp_bind]
            refine Engine.wp_trace_alone ?_
            rw [wp_bind]
            apply wp_mono ih
            rintro result s'' ⟨⟨hvalues, hunknown⟩, hsame'⟩
            have hgotten : Gotten view path ⟨path, value.getD "", "xsd:" ++ spec.type.name⟩ := by
              refine ⟨⟨rfl, fun hoption => ?_⟩, legalBytes_of_lookup hspec, visible_typeName _⟩
              rw [hvalue hoption]
              unfold AcsView.shown
              rw [hspec]
              rfl
            refine ⟨⟨fun hnil => .cons hgotten (hvalues hnil), fun other hmem => ?_⟩, hsame'⟩
            exact ⟨List.mem_cons_of_mem _ (hunknown other hmem).1, (hunknown other hmem).2⟩
  rw [Engine.getParameterValues, wp_bind]
  exact Engine.wp_trace_alone (wp_mono hloop fun _ _ h => h.1)

/-- What can be shown of an option can be sent. -/
theorem legalValue_shown (hstores : Stores view store) {path : String}
    (hoption : isUciBacked path = true) : LegalValue (view.shown path) := by
  obtain ⟨spec, location, hspec, -⟩ := exists_of_isUciBacked hoption
  have hname : ∀ entry ∈ deviceMap.parameters, OutgoingMessage.Visible entry.1 := by decide
  have hpath : LegalBytes path :=
    legalBytes_of_visible (hname _ (DeviceMap.mem_of_lookup_eq_some hspec))
  have hempty : LegalBytes "" := legalBytes_of_visible (by decide)
  have htype : OutgoingMessage.Visible ("xsd:" ++ spec.type.name) := by
    cases spec.type <;> decide
  unfold AcsView.shown
  rw [hspec]
  refine ⟨hpath, ?_, htype⟩
  dsimp only
  split_ifs
  · exact hempty
  · exact hstores.legal path hoption

/-- A request for options alone is answered from the table alone. -/
theorem eq_map_shown {paths : List String} (hoptions : ∀ path ∈ paths, isUciBacked path = true)
    {values : List ParameterValue} (h : List.Forall₂ (Gotten view) paths values) :
    values = paths.map view.shown := by
  induction h with
  | nil => rfl
  | cons hgotten _ ih =>
      obtain ⟨hpath, hrest⟩ := List.forall_mem_cons.mp hoptions
      rw [List.map_cons, hgotten.answers.option hpath, ih hrest]

/-- However the other values are read, those of options are read from the table. -/
theorem answers_of_readsAs (hstores : Stores view store) {paths : List String}
    {values read : List ParameterValue} (h : List.Forall₂ (Gotten view) paths values)
    (hread : List.Forall₂ ReadsAs values read) : List.Forall₂ view.Answers paths read := by
  induction h generalizing read with
  | nil =>
      cases hread
      exact .nil
  | cons hgotten _ ih =>
      cases hread with
      | cons hreads hrest =>
          refine .cons ⟨hreads.name.trans hgotten.answers.named, fun hoption => ?_⟩ (ih hrest)
          have hvalue := hgotten.answers.option hoption
          rw [← hvalue]
          exact hreads.legal (hvalue ▸ (legalValue_shown hstores hoption).content)

/-- A batch whose strings are made of characters of XML. -/
structure LegalBatch (items : List ParameterValue) (parameterKey : String) : Prop where
  texts : ∀ item ∈ items, LegalItem item
  values : ∀ item ∈ items, LegalBytes item.value
  parameterKey : LegalBytes parameterKey

/-- What is read of a legal value is legal. -/
theorem legalBytes_shownValue (path : String) {raw : String} (hraw : LegalBytes raw) :
    LegalBytes (shownValue path raw) := by
  have hempty : LegalBytes "" := legalBytes_of_visible (by decide)
  have hdefaults : ∀ entry ∈ deviceMap.parameters,
      OutgoingMessage.Visible (entry.2.default.getD "") := by
    decide
  have hbooleans : LegalBytes "true" ∧ LegalBytes "false" :=
    ⟨legalBytes_of_visible (by decide), legalBytes_of_visible (by decide)⟩
  unfold shownValue
  split
  · exact hempty
  · rename_i spec hspec
    split
    · rename_i value hvalue
      split_ifs
      -- the default stands in for a value that is empty
      · exact legalBytes_of_visible (hdefaults _ (DeviceMap.mem_of_lookup_eq_some hspec))
      -- to normalise a legal value changes booleans only
      · have htyped := normalizeType_of_normalize hvalue
        by_cases hboolean : spec.type = .boolean
        · rw [hboolean] at htyped
          simp only [normalizeType] at htyped
          split_ifs at htyped
          · exact Except.ok.inj htyped ▸ hbooleans.1
          · exact Except.ok.inj htyped ▸ hbooleans.2
        · exact eq_of_normalizeType hboolean htyped ▸ hraw
    · exact hempty

theorem legalBytes_lastValue {items : List ParameterValue} {path raw : String}
    (hvalues : ∀ item ∈ items, LegalBytes item.value) (hlast : lastValue path items = some raw) :
    LegalBytes raw := by
  induction items with
  | nil => cases hlast
  | cons item rest ih =>
      obtain ⟨hitem, hrest⟩ := List.forall_mem_cons.mp hvalues
      rw [lastValue] at hlast
      rcases Option.or_eq_some_iff.mp hlast with hlater | ⟨-, hhere⟩
      · exact ih hrest hlater
      · split_ifs at hhere
        exact Option.some.inj hhere ▸ hitem

theorem legalBytes_write {items : List ParameterValue} {parameterKey : String}
    (hbatch : LegalBatch items parameterKey) {path : String} (hpath : LegalBytes (view path)) :
    LegalBytes (view.write items parameterKey path) := by
  unfold AcsView.write valueAfter
  dsimp only
  split_ifs
  · exact hbatch.parameterKey
  · split
    · rename_i raw hlast
      exact legalBytes_shownValue path (legalBytes_lastValue hbatch.values hlast)
    · exact hpath

theorem Stores.of_view (hstores : Stores view store) (hview : store'.view = store.view) :
    Stores view store' := by
  have hcaptured : captured store' = captured store := by
    funext key
    rw [captured, captured, hview]
  refine ⟨fun key value => ?_, fun path spec location => ?_, hstores.legal⟩
  · rw [hview]
    exact hstores.clean key value
  · rw [hcaptured]
    exact hstores.options path spec location

/-- What was read back has no trailing line break. -/
theorem clean_after_writes
    (hclean : ∀ key value, store.view key = some value → NoTrailingBreak value)
    {written : List StagedValue} (hview : store'.view = applyWrites written store.view)
    (hreads : Engine.ReadsBack written store.view) {key value : String}
    (hvalue : store'.view key = some value) : NoTrailingBreak value := by
  rw [hview] at hvalue
  by_cases hkey : key ∈ written.map StagedValue.key
  · obtain ⟨item, hitem, rfl⟩ := List.mem_map.mp hkey
    obtain ⟨happlied, hunbroken⟩ := Engine.applyWrites_eq_of_readBack hreads hitem
    rw [happlied] at hvalue
    exact Option.some.inj hvalue ▸ hunbroken
  · rw [applyWrites_of_not_mem hkey] at hvalue
    exact hclean key value hvalue

/-- Writes that read back are a batch on the table. -/
theorem Stores.after_writes (hstores : Stores view store) {items : List ParameterValue}
    {parameterKey : String} (hbatch : LegalBatch items parameterKey) {written : List StagedValue}
    (hcheck : Engine.checkAll deviceMap items parameterKey = .ok written)
    (hview : store'.view = applyWrites written store.view)
    (hreads : Engine.ReadsBack written store.view) :
    Stores (view.write items parameterKey) store' := by
  refine ⟨fun _ _ => clean_after_writes hstores.clean hview hreads,
    fun path spec location hspec hmapped => ?_,
    fun path hoption => legalBytes_write hbatch (hstores.legal path hoption)⟩
  have hraw := @Engine.rawValue_of_uci plainEngine.toEngine rfl
  have htook : Took written (plainEngine.rawValue store) (plainEngine.rawValue store') := by
    rw [hraw, hraw]
    exact took_of_view hview hreads
  have hafter := congrArg ParameterValue.value (optionValue_after hcheck htook hspec hmapped)
  have hbefore := hstores.options path spec location hspec hmapped
  unfold Engine.optionValue at hafter
  rw [hraw, hraw, hbefore] at hafter
  exact hafter

/-- A batch is taken as a whole, or it is answered with an error that can be read and
has changed nothing. -/
theorem view_of_setParameterValues (hsafe : SafeRollback mayFail)
    (hclean : ∀ key value, store.view key = some value → NoTrailingBreak value)
    {items : List ParameterValue} {parameterKey : String}
    (hbatch : LegalBatch items parameterKey) {result : Except SetError Unit} {engine' : Engine}
    (hexec : Exec (uciEnv mayFail) (engine.setParameterValues items parameterKey) store
      (result, engine') store') :
    engine' = engine.toEngine ∧
      (result = .ok () → ∃ written, Engine.checkAll deviceMap items parameterKey = .ok written ∧
        store'.view = applyWrites written store.view ∧ Engine.ReadsBack written store.view) ∧
      ∀ error, result = .error error → LegalError error ∧ store'.view = store.view := by
  have hended := ended_of_exec engine.toUciEngine hexec hsafe
  have hreturned := hexec.returns
    (engine.returns_setParameterValues engine.notMock hbatch.texts parameterKey)
  refine ⟨engine_eq_of_exec engine.toUciEngine hexec, fun hok => ?_, fun error herror => ?_⟩
  · subst hok
    cases hcheck : Engine.checkAll deviceMap items parameterKey with
    | error refusal =>
        rw [hcheck] at hended
        cases hended.1
    -- the checks passed: the store has the batch written over the table
    | ok written =>
        rw [hcheck] at hended
        obtain ⟨hview, hreads, -⟩ := hended
        exact ⟨written, rfl, funext fun key => hview key trivial, hreads⟩
  · subst herror
    refine ⟨hreturned, ?_⟩
    cases hcheck : Engine.checkAll deviceMap items parameterKey with
    | error refusal => rw [(eq_of_refused engine.toUciEngine hexec hcheck).2]
    -- the checks passed, but a command failed: what was written is taken back
    | ok written =>
        rw [hcheck] at hended
        funext key
        have hcleanOn : CleanOn (fun _ => True) store := fun key value _ => hclean key value
        rw [hended.1 key trivial, Engine.restoredView_of_clean hcleanOn written trivial]

end Engine

/-! ## One RPC -/

section Rpc

variable {σ : Type} {handler : (c : SystemCall) → σ → system.Answer c × σ}
  {log : LogLevel → String → StateM σ Unit} {isoTimeNow : StateM σ String} {store : σ → Store}
  {mayFail : SystemCall → Prop}

variable (mayFail handler log isoTimeNow store) in
/-- The system answers as UCI does, on a store that is a part of its state.  The log
and the clock leave that alone. -/
structure OnStore : Prop where
  safe : SafeRollback mayFail
  calls : ∀ c s, uciEnv mayFail c (store s) (handler c s).1 (store (handler c s).2)
  log : ∀ level message s, store (log level message s).2 = store s
  time : ∀ s, store (isoTimeNow s).2 = store s

variable (store) in
/-- The transformer has the engine, on a store of that kind. -/
def AtStore (engine : CpeEngine) (P : Store → Prop) (place : LuaTransformer × σ) : Prop :=
  place.1.engine = some engine.toEngine ∧ P (store place.2)

variable (store) in
/-- The daemon is where the ACS has the table. -/
abbrev Shows (engine : CpeEngine) (view : AcsView) : LuaTransformer × σ → Prop :=
  AtStore store engine (Stores view)

variable {engine : CpeEngine} {view : AcsView} {P : Store → Prop}

theorem OnStore.exec (hsystem : OnStore handler log isoTimeNow store mayFail) {α : Type}
    (program : SystemProg α) (s : σ) :
    Exec (uciEnv mayFail) program (store s) (program.run handler s).1
      (store (program.run handler s).2) := by
  have hrun : Exec (fun c s answer s' => uciEnv mayFail c (store s) answer (store s')) program s
      (program.run handler s).1 (program.run handler s).2 :=
    exec_run hsystem.calls program s
  exact hrun.map (f := store) fun _ _ _ _ hcall => hcall

section Keeping

variable (hsystem : OnStore handler log isoTimeNow store mayFail)

include hsystem

theorem keeps_log (level : LogLevel) (message : String) :
    Keeps (AtStore store engine P)
      ((LuaTransformer.platform handler log isoTimeNow).log level message) := by
  intro (transformer, s) ⟨hengine, hstores⟩
  refine ⟨hengine, ?_⟩
  rw [← hsystem.log level message s] at hstores
  exact hstores

theorem keeps_getParameterValues (paths : List String) (revealSecrets : Bool) :
    Keeps (AtStore store engine P)
      ((LuaTransformer.platform handler log isoTimeNow).getParameterValues paths
        revealSecrets) := by
  intro (transformer, s) ⟨hengine, hstores⟩
  refine ⟨hengine, ?_⟩
  have hcalls : (transformer.getParameterValues paths revealSecrets).Calls
      SystemCall.ReadsOnly := by
    unfold LuaTransformer.getParameterValues
    rw [show transformer.engine = some engine.toEngine from hengine]
    exact engine.calls_getParameterValues paths revealSecrets
  have hsame := store_eq_of_readsOnly hcalls (hsystem.exec _ s)
  rw [← hsame] at hstores
  exact hstores

theorem keeps_getParameterNames (path : String) :
    Keeps (AtStore store engine P)
      ((LuaTransformer.platform handler log isoTimeNow).getParameterNames path) := by
  intro (transformer, s) ⟨hengine, hstores⟩
  refine ⟨hengine, ?_⟩
  have hcalls : (transformer.getParameterNames path).Calls SystemCall.ReadsOnly := by
    unfold LuaTransformer.getParameterNames
    rw [show transformer.engine = some engine.toEngine from hengine]
    refine (engine.calls_getParameterNames path).bind fun result => ?_
    cases result <;> exact Prog.calls_pure _
  have hsame := store_eq_of_readsOnly hcalls (hsystem.exec _ s)
  rw [← hsame] at hstores
  exact hstores

theorem keeps_logValues (what : String) (values : List ParameterValue) :
    Keeps (AtStore store engine P)
      (RpcHandler.logValues (LuaTransformer.platform handler log isoTimeNow) what values) :=
  .forM values fun _ => keeps_log hsystem _ _

/-- Only a `SetParameterValues` moves the table. -/
theorem keeps_handle {rpc : ParsedRpc} (hset : rpc.method ≠ "SetParameterValues") :
    Keeps (AtStore store engine P)
      (RpcHandler.handle (LuaTransformer.platform handler log isoTimeNow) rpc) := by
  have hlog : ∀ level message, Keeps (AtStore store engine P)
      ((LuaTransformer.platform handler log isoTimeNow).log level message) :=
    keeps_log hsystem
  unfold RpcHandler.handle
  refine .bind (hlog _ _) fun _ => ?_
  split
  · refine .bind (.forM _ fun _ => hlog _ _) fun _ => ?_
    refine .bind (keeps_getParameterValues hsystem _ _) fun answer => ?_
    refine .bind (keeps_logValues hsystem _ _) fun _ => ?_
    exact .bind (.forM _ fun _ => hlog _ _) fun _ => .pure _
  split
  · refine .bind (hlog _ _) fun _ => ?_
    refine .bind (keeps_getParameterNames hsystem _) fun answer => ?_
    exact .bind (hlog _ _) fun _ => .pure _
  split
  · exact .bind (hlog _ _) fun _ => .pure _
  split
  · exact .bind (hlog _ _) fun _ => .pure _
  · exact .bind (hlog _ _) fun _ => .pure _

/-- What the transformer answers for names. -/
theorem gotten_of_shows (paths : List String) {place : LuaTransformer × σ}
    (hshows : Shows store engine view place) :
    let result := ((LuaTransformer.platform handler log isoTimeNow).getParameterValues paths false
      place).1
    (result.2 = [] → List.Forall₂ (Gotten view) paths result.1) ∧
      ∀ path ∈ result.2, path ∈ paths ∧ deviceMap.lookup path = none := by
  obtain ⟨⟨transformer, lastError⟩, s⟩ := place
  obtain ⟨rfl, hstores⟩ := hshows
  exact (hsystem.exec (engine.getParameterValues paths false) s).of_wp
    (wp_getParameterValues engine hsystem.safe.lookup hstores paths)

/-- What a batch is answered with, and what becomes of the store. -/
theorem cases_setParameterValues {items : List ParameterValue} {parameterKey : String}
    (hbatch : LegalBatch items parameterKey) {place : LuaTransformer × σ}
    (hengine : place.1.engine = some engine.toEngine)
    (hclean : ∀ key value, (store place.2).view key = some value → NoTrailingBreak value) :
    let taken := (LuaTransformer.platform handler log isoTimeNow).setParameterValues items
      parameterKey place
    (taken.1.success = true ∧ ∃ written,
        Engine.checkAll deviceMap items parameterKey = .ok written ∧
        Engine.ReadsBack written (store place.2).view ∧
        AtStore store engine (fun s' => s'.view = applyWrites written (store place.2).view)
          taken.2) ∨
      taken.1.success = false ∧ LegalBytes taken.1.error ∧ LegalBytes taken.1.failedParameter ∧
        AtStore store engine (fun s' => s'.view = (store place.2).view) taken.2 := by
  intro taken
  obtain ⟨⟨transformer, lastError⟩, s⟩ := place
  obtain rfl : transformer = some engine.toEngine := hengine
  let result := (engine.setParameterValues items parameterKey).run handler s
  have htaken : taken = (LuaTransformer.setResult result.1.1,
      (⟨some result.1.2, lastError⟩, result.2)) := by
    simp only [taken, LuaTransformer.platform, LuaTransformer.api,
      LuaTransformer.setParameterValues, Prog.run_bind, Prog.pure_eq_done, Prog.run_done]
    rfl
  -- what the platform answers is what the engine does at the store
  have hexec : Exec (uciEnv mayFail) (engine.setParameterValues items parameterKey) (store s)
      (result.1.1, result.1.2) (store result.2) :=
    hsystem.exec _ s
  obtain ⟨hsame, hok, herror⟩ :=
    view_of_setParameterValues engine hsystem.safe hclean hbatch hexec
  rw [htaken]
  cases hresult : result.1.1 with
  | ok done =>
      obtain ⟨written, hcheck, hview, hreads⟩ := hok hresult
      exact Or.inl ⟨rfl, written, hcheck, hreads, congrArg some hsame, hview⟩
  | error error =>
      obtain ⟨hlegal, hview⟩ := herror error hresult
      refine Or.inr ⟨rfl, ?_, hlegal.path, congrArg some hsame, hview⟩
      rw [LuaTransformer.setResult]
      split_ifs with hempty
      · exact absurd (eq_of_beq hempty) hlegal.said
      · exact hlegal.message

/-- After the transformer has answered a batch, the handler only reads and logs. -/
theorem atStore_handle {rpc : ParsedRpc} (hset : rpc.method = "SetParameterValues")
    {place : LuaTransformer × σ}
    (h : AtStore store engine P
      (RpcHandler.taken (LuaTransformer.platform handler log isoTimeNow) rpc place).2) :
    AtStore store engine P
      (RpcHandler.handle (LuaTransformer.platform handler log isoTimeNow) rpc place).2 := by
  let platform := LuaTransformer.platform handler log isoTimeNow
  have hlog : ∀ level message, Keeps (AtStore store engine P) (platform.log level message) :=
    keeps_log hsystem
  have hget : ∀ paths revealSecrets, Keeps (AtStore store engine P)
      (platform.getParameterValues paths revealSecrets) :=
    keeps_getParameterValues hsystem
  unfold RpcHandler.handle
  rw [if_neg (by rw [hset]; decide), if_neg (by rw [hset]; decide), if_pos hset]
  simp only [RpcHandler.setParameterValues, stateM_bind_apply]
  generalize (if rpc.cwmpId == "" then "0" else rpc.cwmpId) = id
  split
  · exact keeps_logValues hsystem _ _ _ (hget _ _ _ (hlog _ _ _ h))
  · exact hlog _ _ _ h

/-- How a `SetParameterValues` is answered, and what becomes of the store. -/
theorem cases_handle {rpc : ParsedRpc} (hset : rpc.method = "SetParameterValues")
    (hid : LegalBytes rpc.cwmpId) (hbatch : LegalBatch rpc.parameterValues rpc.parameterKey)
    {place : LuaTransformer × σ} (hengine : place.1.engine = some engine.toEngine)
    (hclean : ∀ key value, (store place.2).view key = some value → NoTrailingBreak value) :
    let handled := RpcHandler.handle (LuaTransformer.platform handler log isoTimeNow) rpc place
    (AcsReply.read handled.1.responseXml =
          some (.answer (RpcHandler.answerId rpc) "SetParameterValuesResponse") ∧
        ∃ written, Engine.checkAll deviceMap rpc.parameterValues rpc.parameterKey = .ok written ∧
          Engine.ReadsBack written (store place.2).view ∧
          AtStore store engine (fun s' => s'.view = applyWrites written (store place.2).view)
            handled.2) ∨
      AcsReply.read handled.1.responseXml = some (.answer (RpcHandler.answerId rpc) "Fault") ∧
        AtStore store engine (fun s' => s'.view = (store place.2).view) handled.2 := by
  intro handled
  let platform := LuaTransformer.platform handler log isoTimeNow
  have hanswerId : LegalBytes (RpcHandler.answerId rpc) := RpcHandler.legalBytes_answerId hid
  -- the state in which the transformer is called
  let called := (RpcHandler.logValues platform "set request" rpc.parameterValues
    (platform.log .info ("ACS RPC: " ++ rpc.method) place).2).2
  have hcalled : AtStore store engine (fun s' => s' = store place.2) called :=
    keeps_logValues hsystem _ _ _ (keeps_log hsystem _ _ _ ⟨hengine, rfl⟩)
  have hsame : store called.2 = store place.2 := hcalled.2
  have htaken : RpcHandler.taken platform rpc place =
      platform.setParameterValues rpc.parameterValues rpc.parameterKey called := rfl
  have hxml : handled.1.responseXml = _ :=
    RpcHandler.handle_setParameterValues platform place hset
  rw [← hsame] at hclean
  rcases cases_setParameterValues hsystem hbatch hcalled.1 hclean with
    ⟨hsuccess, written, hcheck, hreads, hafter⟩ | ⟨hsuccess, herror, hfailed, hafter⟩
  · rw [← htaken] at hsuccess hafter
    rw [hsame] at hreads hafter
    obtain ⟨node, hnode⟩ := repliesWith_setParameterValuesResponse hanswerId
    refine Or.inl ⟨?_, written, hcheck, hreads, atStore_handle hsystem hset hafter⟩
    rw [hxml, if_pos hsuccess, read_of_repliesWith hnode]
    rfl
  · rw [← htaken] at hsuccess herror hfailed hafter
    rw [hsame] at hafter
    refine Or.inr ⟨?_, atStore_handle hsystem hset hafter⟩
    have hnames : ∀ name ∈
        if (RpcHandler.taken platform rpc place).1.failedParameter == "" then []
        else [(RpcHandler.taken platform rpc place).1.failedParameter], LegalBytes name := by
      intro name hname
      split_ifs at hname
      · exact absurd hname List.not_mem_nil
      · exact List.mem_singleton.mp hname ▸ hfailed
    obtain ⟨node, hnode⟩ := repliesWith_fault hanswerId 9003 herror hnames
    rw [hxml, if_neg (by rw [hsuccess]; exact Bool.false_ne_true), read_of_repliesWith hnode]
    rfl

/-- A `GetParameterValues` is answered from the table, as far as it names options. -/
theorem step_of_getParameterValues {rpc : ParsedRpc} (hget : rpc.method = "GetParameterValues")
    (hid : LegalBytes rpc.cwmpId) {place : LuaTransformer × σ}
    (hshows : Shows store engine view place) :
    AcsView.Step view ⟨rpc, AcsReply.read (RpcHandler.handle
      (LuaTransformer.platform handler log isoTimeNow) rpc place).1.responseXml⟩ view := by
  let platform := LuaTransformer.platform handler log isoTimeNow
  have hanswerId : LegalBytes (RpcHandler.answerId rpc) := RpcHandler.legalBytes_answerId hid
  let called := (rpc.parameterNames.forM (fun name =>
    platform.log .info ("ACS get request: " ++ name))
      (platform.log .info ("ACS RPC: " ++ rpc.method) place).2).2
  -- what is logged before leaves the table as it is
  have hcalled : Shows store engine view called :=
    Keeps.forM _ (fun _ => keeps_log hsystem _ _) _ (keeps_log hsystem _ _ _ hshows)
  obtain ⟨hvalues, hunknown⟩ := gotten_of_shows hsystem rpc.parameterNames hcalled
  have hgotten : (RpcHandler.gotten platform rpc place).1 =
      (platform.getParameterValues rpc.parameterNames false called).1 := rfl
  rw [← hgotten] at hvalues hunknown
  have hxml := RpcHandler.handle_getParameterValues platform place hget
  rw [hxml]
  cases hinvalid : (RpcHandler.gotten platform rpc place).1.2 with
  -- every name is in the map, and the answer is a list of values
  | nil =>
      rw [if_pos List.isEmpty_nil]
      have hvalues' := hvalues hinvalid
      by_cases hoptions : ∀ name ∈ rpc.parameterNames, isUciBacked name = true
      · rw [eq_map_shown hoptions hvalues']
        obtain ⟨node, hnode, hlisted⟩ := repliesWith_listedValues hanswerId
          (List.forall_mem_map.mpr fun name hname =>
            legalValue_shown hshows.2 (hoptions name hname))
        rw [read_of_repliesWith hnode, if_pos rfl, hlisted]
        exact .listed hget hoptions
      · -- what the getters found may be bytes that no reader accepts
        cases hread : Xml.readEncoded (SoapBuilder.getParameterValuesResponse
            (RpcHandler.answerId rpc) (RpcHandler.gotten platform rpc place).1.1) with
        | none =>
            rw [read_eq_none hread]
            exact .unread hget hoptions
        | some root =>
            have hplain : ∀ value ∈ (RpcHandler.gotten platform rpc place).1.1,
                LegalBytes value.name ∧ OutgoingMessage.Visible value.type := fun value hmem => by
              have hflipped := @List.Forall₂.flip _ _ (flip (Gotten view)) _ _ hvalues'
              obtain ⟨name, -, hvalue⟩ := exists_of_forall₂_of_mem hflipped hmem
              exact ⟨Gotten.name hvalue, Gotten.type hvalue⟩
            obtain ⟨node, hnode, hlisted⟩ := listed_of_readEncoded hanswerId hplain hread
            rw [read_of_repliesWith hnode, if_pos rfl]
            exact .computed hget hoptions (answers_of_readsAs hshows.2 hvalues' hlisted)
  -- a name that is not in the map is no option, and the answer is a fault
  | cons name rest =>
      rw [if_neg (by simp)]
      obtain ⟨hmem, hlookup⟩ := hunknown name (by rw [hinvalid]; exact List.mem_cons_self)
      cases hread : Xml.readEncoded (SoapBuilder.fault (RpcHandler.answerId rpc) 9005
          "Invalid parameter name" (name :: rest)) with
      | none =>
          rw [read_eq_none hread]
          refine .unread hget fun hoptions => ?_
          obtain ⟨spec, -, hspec, -⟩ := exists_of_isUciBacked (hoptions name hmem)
          rw [hlookup] at hspec
          cases hspec
      | some root =>
          obtain ⟨node, hnode⟩ := repliesWith_fault_of_readEncoded hanswerId hread
          rw [read_of_repliesWith hnode]
          exact .unknown hget ⟨name, hmem, hlookup⟩

/-- An RPC is a step of the table, with the answer as the ACS reads it. -/
theorem step_of_handle {rpc : ParsedRpc} (hid : LegalBytes rpc.cwmpId)
    (hbatch : rpc.method = "SetParameterValues" →
      LegalBatch rpc.parameterValues rpc.parameterKey)
    {place : LuaTransformer × σ} (hshows : Shows store engine view place) :
    let handled := RpcHandler.handle (LuaTransformer.platform handler log isoTimeNow) rpc place
    ∃ view', AcsView.Step view ⟨rpc, AcsReply.read handled.1.responseXml⟩ view' ∧
      Shows store engine view' handled.2 := by
  intro handled
  by_cases hset : rpc.method = "SetParameterValues"
  · rcases cases_handle hsystem hset hid (hbatch hset) hshows.1 hshows.2.clean with
      ⟨hreply, written, hcheck, hreads, hengine, hview⟩ | ⟨hreply, hengine, hview⟩
    · rw [hreply]
      exact ⟨_, .accepted hset fun item => isUciBacked_of_checkAll hcheck, hengine,
        hshows.2.after_writes (hbatch hset) hcheck hview hreads⟩
    · rw [hreply]
      exact ⟨view, .refused hset, hengine, hshows.2.of_view hview⟩
  · refine ⟨view, ?_, keeps_handle hsystem hset place hshows⟩
    by_cases hget : rpc.method = "GetParameterValues"
    · exact step_of_getParameterValues hsystem hget hid hshows
    · exact .other hget hset

end Keeping

/-! ## Sessions -/

/-- The bodies that are answered, with the messages that answer them. -/
def conversation : String → List Exchange → List (String × String)
  | _, [] => []
  | body, exchange :: rest =>
      (body, exchange.request) :: conversation exchange.response.body rest

/-- The RPCs of a session, which follow the empty POST. -/
def SessionPurpose.conversation : SessionPurpose → List Exchange → List (String × String)
  | .events _, _ :: opened :: exchanges => Tr069d.conversation opened.response.body exchanges
  | .transferComplete _, _ :: _ :: opened :: exchanges =>
      Tr069d.conversation opened.response.body exchanges
  | _, _ => []

/-- A body is answered. -/
def Serves (platform : Platform (LuaTransformer × σ)) (xmlRead : XmlReader)
    (place : LuaTransformer × σ) (spoken : String × String) (place' : LuaTransformer × σ) : Prop :=
  ∃ rpc, SoapParser.parseRpc xmlRead spoken.1 = .ok rpc ∧
    (RpcHandler.handle platform rpc place).1.responseXml = spoken.2 ∧
    (RpcHandler.handle platform rpc place).2 = place'

/-- The body asks for the RPC, in characters of XML, and the answer is read as its reply. -/
structure Understood (xmlRead : XmlReader) (spoken : String × String) (call : AcsCall) : Prop where
  asked : SoapParser.parseRpc xmlRead spoken.1 = .ok call.rpc
  id : LegalBytes call.rpc.cwmpId
  batch : call.rpc.method = "SetParameterValues" →
    LegalBatch call.rpc.parameterValues call.rpc.parameterKey
  reply : call.reply = AcsReply.read spoken.2

section Sessions

variable {platform : Platform (LuaTransformer × σ)} {xmlRead : XmlReader}
  {I : LuaTransformer × σ → Prop}

theorem keeps_closeSession (hlog : ∀ level message, Keeps I (platform.log level message))
    (outcome : SessionOutcome) :
    Keeps (fun session => I session.platformState)
      (CwmpSession.closeSession platform outcome) :=
  fun _ hI => hlog _ _ _ hI

/-- The loop answers one body after the other, and then only logs. -/
theorem steps_processAcsMessages (outcome : SessionOutcome) (script : List HttpResponse)
    (body : String) (session : Session (LuaTransformer × σ)) :
    let result := CwmpSession.processAcsMessages platform xmlRead outcome script body session
    ∃ place', Steps (Serves platform xmlRead) session.platformState
        (conversation body result.1.2) place' ∧
      ∀ I : LuaTransformer × σ → Prop, (∀ level message, Keeps I (platform.log level message)) →
        I place' → I result.2.platformState := by
  induction script generalizing outcome body session with
  -- the ACS is silent: the body that is left is the last that is answered
  | nil =>
      rw [CwmpSession.processAcsMessages.eq_def]
      split_ifs with hbody
      · exact ⟨_, .nil, fun I hlog => keeps_closeSession hlog outcome session⟩
      · cases hparse : SoapParser.parseRpc xmlRead body with
        | error error => exact ⟨_, .nil, fun I hlog hI => hlog _ _ _ hI⟩
        | ok rpc =>
            exact ⟨_, .cons ⟨rpc, hparse, rfl, rfl⟩ .nil, fun I hlog hI => hlog _ _ _ hI⟩
  | cons response rest ih =>
      rw [CwmpSession.processAcsMessages.eq_def]
      split_ifs with hbody
      · exact ⟨_, .nil, fun I hlog => keeps_closeSession hlog outcome session⟩
      · cases hparse : SoapParser.parseRpc xmlRead body with
        | error error => exact ⟨_, .nil, fun I hlog hI => hlog _ _ _ hI⟩
        | ok rpc =>
            let handled := CwmpSession.onPlatform (RpcHandler.handle platform rpc)
              (CwmpSession.transition .rpcProcessing session).2
            simp only [stateM_bind_apply]
            cases hok : response.ok with
            | false =>
                exact ⟨_, .cons ⟨rpc, hparse, rfl, rfl⟩ .nil, fun I hlog hI => hlog _ _ _ hI⟩
            | true =>
                rw [Bool.not_true, if_neg Bool.false_ne_true]
                split_ifs with hbreak
                -- after a command the session closes, whatever was delivered with its answer
                · let recorded := CwmpSession.recordResult outcome handled.1
                  exact ⟨_, .cons ⟨rpc, hparse, rfl, rfl⟩ .nil,
                    fun I hlog => keeps_closeSession hlog recorded handled.2⟩
                · obtain ⟨place', hsteps, hend⟩ :=
                    ih (CwmpSession.recordResult outcome handled.1) response.body handled.2
                  exact ⟨place', .cons ⟨rpc, hparse, rfl, rfl⟩ hsteps, hend⟩

variable (xmlRead) in
/-- What the Inform reads and logs keeps whatever reading and logging keep. -/
theorem keeps_beginInform (hlog : ∀ level message, Keeps I (platform.log level message))
    (hget : ∀ paths revealSecrets, Keeps I (platform.getParameterValues paths revealSecrets))
    (htime : Keeps I platform.isoTimeNow) (events : List String) (id : String)
    (response : HttpResponse) :
    Keeps (fun session => I session.platformState)
      (CwmpSession.beginInform platform xmlRead events id response) := by
  have hsessionLog : ∀ level message, Keeps (fun session => I session.platformState)
      (CwmpSession.log platform level message) :=
    fun _ _ _ hI => hlog _ _ _ hI
  have htransition : ∀ next, Keeps (fun session : Session (LuaTransformer × σ) =>
      I session.platformState) (CwmpSession.transition next) :=
    fun _ _ hI => hI
  have hreset : Keeps (fun session : Session (LuaTransformer × σ) => I session.platformState)
      CwmpSession.reset :=
    fun _ hI => hI
  have hvalue : ∀ path fallback, Keeps I (CwmpSession.valueOr platform path fallback) :=
    fun _ _ => .bind (hget _ _) fun _ => .pure _
  -- the Inform reads the identity of the device and the forced parameters, and the clock
  have hmessage : Keeps I (CwmpSession.informMessage platform id events) := by
    refine .bind (hvalue _ _) fun _ => .bind (hvalue _ _) fun _ => .bind (hvalue _ _) fun _ => ?_
    refine .bind (hvalue _ _) fun _ => .bind (hget _ _) fun _ => ?_
    exact .bind htime fun _ => .pure _
  have honPlatform : Keeps (fun session : Session (LuaTransformer × σ) => I session.platformState)
      (CwmpSession.onPlatform (CwmpSession.informMessage platform id events)) :=
    fun _ hI => hmessage _ hI
  unfold CwmpSession.beginInform
  refine .bind hreset fun _ => .bind (htransition _) fun _ => .bind (hsessionLog _ _) fun _ => ?_
  refine .bind (hsessionLog _ _) fun _ => .bind honPlatform fun message => ?_
  split
  · exact .bind (hsessionLog _ _) fun _ => .bind hreset fun _ => .pure _
  split
  · exact .bind (hsessionLog _ _) fun _ => .bind hreset fun _ => .pure _
  · exact .bind (htransition _) fun _ => .bind (hsessionLog _ _) fun _ => .pure _

/-- A session reads and logs, and answers RPCs in between. -/
theorem steps_sessionExchanges (hlog : ∀ level message, Keeps I (platform.log level message))
    (hget : ∀ paths revealSecrets, Keeps I (platform.getParameterValues paths revealSecrets))
    (htime : Keeps I platform.isoTimeNow) (purpose : SessionPurpose)
    (script : List HttpResponse) {session : Session (LuaTransformer × σ)}
    (hI : I session.platformState) :
    let result := sessionExchanges platform xmlRead (purpose, script) session
    ∃ place place', I place ∧
      Steps (Serves platform xmlRead) place (purpose.conversation result.1) place' ∧
      ∀ J : LuaTransformer × σ → Prop, (∀ level message, Keeps J (platform.log level message)) →
        J place' → J result.2.platformState := by
  have hbegin := keeps_beginInform xmlRead hlog hget htime
  cases purpose with
  -- the Inform, the empty request and the loop
  | events events =>
      let begun := CwmpSession.beginInform platform xmlRead events (CwmpSession.nextId session).1
        (nextAnswer script).1 (CwmpSession.nextId session).2
      have hbegun : I begun.2.platformState := hbegin events _ _ _ hI
      simp only [sessionExchanges, CwmpSession.run, stateM_bind_apply]
      cases hbegan : begun.1.1 with
      | false => exact ⟨_, _, hbegun, .nil, fun _ _ hJ => hJ⟩
      | true =>
          rw [Bool.not_true, if_neg Bool.false_ne_true]
          cases hok : (nextAnswer (nextAnswer script).2).1.ok with
          | false => exact ⟨_, _, hbegun, .nil, fun J hJlog hJ => hJlog _ _ _ hJ⟩
          | true =>
              rw [Bool.not_true, if_neg Bool.false_ne_true]
              obtain ⟨place', hsteps, hend⟩ := @steps_processAcsMessages _ platform xmlRead {}
                (nextAnswer (nextAnswer script).2).2 (nextAnswer (nextAnswer script).2).1.body
                begun.2
              exact ⟨_, place', hbegun, hsteps, hend⟩
  -- the same with the result of the transfer in between
  | transferComplete result =>
      let begun := CwmpSession.beginInform platform xmlRead
        ["7 TRANSFER COMPLETE", "M Download"] (CwmpSession.nextId session).1
        (nextAnswer script).1 (CwmpSession.nextId session).2
      have hbegun : I begun.2.platformState := hbegin _ _ _ _ hI
      simp only [sessionExchanges, CwmpSession.runTransferComplete, stateM_bind_apply]
      cases hbegan : begun.1.1 with
      | false => exact ⟨_, _, hbegun, .nil, fun _ _ hJ => hJ⟩
      | true =>
          rw [Bool.not_true, if_neg Bool.false_ne_true]
          cases hreported : (!(nextAnswer (nextAnswer script).2).1.ok ||
              !SoapParser.isMethod xmlRead (nextAnswer (nextAnswer script).2).1.body
                "TransferCompleteResponse") with
          | true => exact ⟨_, _, hbegun, .nil, fun J hJlog hJ => hJlog _ _ _ hJ⟩
          | false =>
              simp only [stateM_bind_apply, Bool.false_eq_true, if_false]
              cases hok : (nextAnswer (nextAnswer (nextAnswer script).2).2).1.ok with
              | false => exact ⟨_, _, hbegun, .nil, fun _ _ hJ => hJ⟩
              | true =>
                  rw [Bool.not_true, if_neg Bool.false_ne_true]
                  obtain ⟨place', hsteps, hend⟩ := @steps_processAcsMessages _ platform xmlRead {}
                    (nextAnswer (nextAnswer (nextAnswer script).2).2).2
                    (nextAnswer (nextAnswer (nextAnswer script).2).2).1.body
                    (CwmpSession.nextId begun.2).2
                  exact ⟨_, place', hbegun, hsteps, hend⟩

/-- The conversations of sessions one after the other, each with an object of its own. -/
def conversations (platform : Platform (LuaTransformer × σ)) (xmlRead : XmlReader) :
    List (SessionPurpose × List HttpResponse) →
      StateM (LuaTransformer × σ) (List (String × String))
  | [], place => ([], place)
  | session :: rest, place =>
      let (exchanges, ended) := sessionExchanges platform xmlRead session { platformState := place }
      let (later, place') := conversations platform xmlRead rest ended.platformState
      (session.1.conversation exchanges ++ later, place')

end Sessions

theorem forall₂_append_split {α β : Type} {R : α → β → Prop} {first second : List α}
    {targets : List β} (h : List.Forall₂ R (first ++ second) targets) :
    ∃ before after, targets = before ++ after ∧ List.Forall₂ R first before ∧
      List.Forall₂ R second after := by
  induction first generalizing targets with
  | nil => exact ⟨[], targets, rfl, .nil, h⟩
  | cons x first ih =>
      cases h with
      | cons hx hrest =>
          obtain ⟨before, after, rfl, hbefore, hafter⟩ := ih hrest
          exact ⟨_ :: before, after, rfl, .cons hx hbefore, hafter⟩

section Lifting

variable {τ : Type} {step : τ → AcsCall → τ → Prop} {P : τ → Store → Prop}

variable (engine step P) in
/-- Every RPC is a step of the abstract machine, with the answer as the ACS reads it. -/
def Simulates (platform : Platform (LuaTransformer × σ)) (store : σ → Store) : Prop :=
  ∀ (rpc : ParsedRpc) (place : LuaTransformer × σ) (t : τ), LegalBytes rpc.cwmpId →
    (rpc.method = "SetParameterValues" → LegalBatch rpc.parameterValues rpc.parameterKey) →
    AtStore store engine (P t) place →
      let handled := RpcHandler.handle platform rpc place
      ∃ t', step t ⟨rpc, AcsReply.read handled.1.responseXml⟩ t' ∧
        AtStore store engine (P t') handled.2

/-- Then the conversation of a session is a run of the machine. -/
theorem steps_of_session (hsystem : OnStore handler log isoTimeNow store mayFail)
    (hsimulates : Simulates engine step P (LuaTransformer.platform handler log isoTimeNow) store)
    {xmlRead : XmlReader} {purpose : SessionPurpose} {script : List HttpResponse}
    {session : Session (LuaTransformer × σ)} {t : τ}
    (hstart : AtStore store engine (P t) session.platformState) {calls : List AcsCall} :
    let result := sessionExchanges (LuaTransformer.platform handler log isoTimeNow) xmlRead
      (purpose, script) session
    List.Forall₂ (Understood xmlRead) (purpose.conversation result.1) calls →
      ∃ t', Steps step t calls t' ∧ AtStore store engine (P t') result.2.platformState := by
  intro result hcalls
  have htime : Keeps (AtStore store engine (P t))
      (LuaTransformer.platform handler log isoTimeNow).isoTimeNow := by
    intro (transformer, s) ⟨hengine, hstore⟩
    refine ⟨hengine, ?_⟩
    rw [← hsystem.time s] at hstore
    exact hstore
  obtain ⟨place, place', hplace, hsteps, hend⟩ := @steps_sessionExchanges _
    (LuaTransformer.platform handler log isoTimeNow) xmlRead (AtStore store engine (P t))
    (keeps_log hsystem) (keeps_getParameterValues hsystem) htime purpose script session hstart
  -- one answered body is one step of the machine, with the reply as it is read
  have hstep : ∀ place t spoken place' call, AtStore store engine (P t) place →
      Serves (LuaTransformer.platform handler log isoTimeNow) xmlRead place spoken place' →
      Understood xmlRead spoken call →
        ∃ t', step t call t' ∧ AtStore store engine (P t') place' := by
    intro place t spoken place' call hplace ⟨rpc, hparse, hanswer, hplace'⟩ hunderstood
    obtain ⟨callRpc, reply⟩ := call
    obtain rfl : rpc = callRpc := Except.ok.inj (hparse.symm.trans hunderstood.asked)
    obtain rfl : reply = AcsReply.read spoken.2 := hunderstood.reply
    rw [← hanswer, ← hplace']
    exact hsimulates rpc place t hunderstood.id hunderstood.batch hplace
  obtain ⟨t', hrun, hafter⟩ := hsteps.simulate hstep hplace hcalls
  exact ⟨t', hrun, hend _ (keeps_log hsystem) hafter⟩

theorem steps_of_conversations (hsystem : OnStore handler log isoTimeNow store mayFail)
    (hsimulates : Simulates engine step P (LuaTransformer.platform handler log isoTimeNow) store)
    {xmlRead : XmlReader} {sessions : List (SessionPurpose × List HttpResponse)}
    {place : LuaTransformer × σ} {t : τ} (hstart : AtStore store engine (P t) place)
    {calls : List AcsCall} :
    let result := conversations (LuaTransformer.platform handler log isoTimeNow) xmlRead sessions
      place
    List.Forall₂ (Understood xmlRead) result.1 calls →
      ∃ t', Steps step t calls t' ∧ AtStore store engine (P t') result.2 := by
  induction sessions generalizing t place calls with
  | nil =>
      intro result hcalls
      cases hcalls
      exact ⟨t, .nil, hstart⟩
  | cons session rest ih =>
      intro result hcalls
      obtain ⟨before, after, rfl, hbefore, hafter⟩ := forall₂_append_split hcalls
      obtain ⟨middle, hsteps, hmiddle⟩ := steps_of_session hsystem hsimulates hstart hbefore
      obtain ⟨final, hsteps', hfinal⟩ := ih hmiddle hafter
      exact ⟨final, hsteps.append hsteps', hfinal⟩

end Lifting

end Rpc

/-! ## The result -/

/-- The table of a store. -/
def AcsView.of (store : Store) : AcsView := fun path =>
  match deviceMap.lookup path with
  | none => ""
  | some spec =>
      match spec.uci with
      | none => ""
      | some location => valueOrDefault spec (captured store (uciKey location))

theorem AcsView.of_eq {store : Store} {path : String} {spec : Spec} {location : UciLocation}
    (hspec : deviceMap.lookup path = some spec) (hmapped : spec.uci = some location) :
    AcsView.of store path = valueOrDefault spec (captured store (uciKey location)) := by
  unfold AcsView.of
  rw [hspec]
  dsimp only
  rw [hmapped]

/-- Whatever the ACS asks for in any number of sessions, and whichever commands fail,
what it is answered is a run of the table that the store starts with, to the table that
the store ends with. -/
theorem acsView_of_sessions {σ : Type} {handler : (c : SystemCall) → σ → system.Answer c × σ}
    {log : LogLevel → String → StateM σ Unit} {isoTimeNow : StateM σ String} {store : σ → Store}
    {mayFail : SystemCall → Prop} (hsystem : OnStore handler log isoTimeNow store mayFail)
    (engine : CpeEngine) (lastError : String) (xmlRead : XmlReader)
    (sessions : List (SessionPurpose × List HttpResponse)) (s : σ)
    (hclean : ∀ key value, (store s).view key = some value → NoTrailingBreak value)
    (hlegal : ∀ path, isUciBacked path = true → LegalBytes (AcsView.of (store s) path))
    {calls : List AcsCall} :
    let result := conversations (LuaTransformer.platform handler log isoTimeNow) xmlRead sessions
      (⟨some engine.toEngine, lastError⟩, s)
    List.Forall₂ (Understood xmlRead) result.1 calls →
      ∃ view, Steps AcsView.Step (AcsView.of (store s)) calls view ∧
        ∀ path, isUciBacked path = true → AcsView.of (store result.2.2) path = view path := by
  intro result hcalls
  have hstart : Shows store engine (AcsView.of (store s)) (⟨some engine.toEngine, lastError⟩, s) :=
    ⟨rfl, hclean, fun _ _ _ hspec hmapped => (AcsView.of_eq hspec hmapped).symm, hlegal⟩
  have hsimulates : Simulates engine AcsView.Step Stores
      (LuaTransformer.platform handler log isoTimeNow) store :=
    fun _ _ _ hid hbatch hshows => step_of_handle hsystem hid hbatch hshows
  obtain ⟨view, hsteps, -, hstores⟩ := steps_of_conversations hsystem hsimulates hstart hcalls
  refine ⟨view, hsteps, fun path hoption => ?_⟩
  obtain ⟨spec, location, hspec, hmapped⟩ := exists_of_isUciBacked hoption
  rw [AcsView.of_eq hspec hmapped]
  exact hstores.options path spec location hspec hmapped

/-! ## A set and a get -/

def emptyStore : Store := .ofCommitted fun _ => none

theorem legalBytes_of_emptyStore {path : String} (hoption : isUciBacked path = true) :
    LegalBytes (AcsView.of emptyStore path) := by
  have hdefaults : ∀ entry ∈ deviceMap.parameters,
      OutgoingMessage.Visible (entry.2.default.getD "") := by
    decide
  obtain ⟨spec, location, hspec, hmapped⟩ := exists_of_isUciBacked hoption
  rw [AcsView.of_eq hspec hmapped]
  exact legalBytes_of_visible (hdefaults _ (DeviceMap.mem_of_lookup_eq_some hspec))

/-- The ACS sets the interval of the periodic Inform, and then gets it. -/
def intervalScript : List HttpResponse :=
  [{ status := 200, body := CwmpSession.informResponseXml }, { status := 200, body := "set" },
   { status := 200, body := "get" }, { status := 204 }]

def intervalReader (xml : String) : Option (List XmlNode) :=
  if xml = "set" then some intervalEnvelope.document
  else if xml = "get" then
    some [.element "Envelope" none [.element "Body" none [.element "GetParameterValues" none
      [.element "ParameterNames" none [.element "string" none
        [.text "Device.ManagementServer.PeriodicInformInterval"]]]]]]
  else CwmpSession.sampleReader xml

def intervalSet : ParsedRpc :=
  { method := "SetParameterValues", cwmpId := "42"
    parameterValues :=
      [⟨"Device.ManagementServer.PeriodicInformInterval", "120", "xsd:unsignedInt"⟩]
    parameterKey := "demo" }

def intervalGet : ParsedRpc :=
  { method := "GetParameterValues"
    parameterNames := ["Device.ManagementServer.PeriodicInformInterval"] }

def intervalPlatform : Platform (LuaTransformer × Store) :=
  LuaTransformer.platform uciHandler (fun _ _ => pure ()) (pure "")

def intervalEngine : CpeEngine :=
  cpeEngine "ubus" false (storedOrder _)

/-- The conversation of the session. -/
def intervalConversation : List (String × String) × (LuaTransformer × Store) :=
  conversations intervalPlatform intervalReader [(.events ["1 BOOT"], intervalScript)]
    (⟨some intervalEngine.toEngine, ""⟩, emptyStore)

theorem onStore_interval :
    OnStore uciHandler (fun _ _ => pure ()) (pure "") id fun _ => False :=
  ⟨⟨fun _ => id, fun _ _ => id, fun _ => id⟩, uciHandler_mem_uciEnv _, fun _ _ _ => rfl,
    fun _ => rfl⟩

theorem understood_interval : ∃ setReply getReply,
    List.Forall₂ (Understood intervalReader) intervalConversation.1
      [⟨intervalSet, setReply⟩, ⟨intervalGet, getReply⟩] := by
  have hbodies : intervalConversation.1.map Prod.fst = ["set", "get"] := by decide +kernel
  obtain ⟨first, rest, hresult, hfirst, hrest⟩ := List.map_eq_cons_iff.mp hbodies
  obtain ⟨second, last, hsecond, hget, hlast⟩ := List.map_eq_cons_iff.mp hrest
  obtain rfl := List.map_eq_nil_iff.mp hlast
  have hbatch : LegalBatch intervalSet.parameterValues intervalSet.parameterKey := by
    refine ⟨?_, ?_, legalBytes_of_visible (by decide)⟩
    · exact List.forall_mem_singleton.mpr
        ⟨legalBytes_of_visible (by decide), legalBytes_of_visible (by decide)⟩
    · exact List.forall_mem_singleton.mpr (legalBytes_of_visible (by decide))
  have hids : LegalBytes intervalSet.cwmpId ∧ LegalBytes intervalGet.cwmpId :=
    ⟨legalBytes_of_visible (by decide), legalBytes_of_visible (by decide)⟩
  have hother : intervalGet.method ≠ "SetParameterValues" := by decide
  refine ⟨AcsReply.read first.2, AcsReply.read second.2, ?_⟩
  rw [hresult, hsecond]
  refine .cons ⟨?_, hids.1, fun _ => hbatch, rfl⟩ (.cons
    ⟨?_, hids.2, fun hset => absurd hset hother, rfl⟩ .nil)
  · rw [hfirst]
    rfl
  · rw [hget]
    rfl

theorem interval_read_back :
    ∃ calls view, calls.map AcsCall.rpc = [intervalSet, intervalGet] ∧
      Steps AcsView.Step (AcsView.of emptyStore) calls view ∧
      view "Device.ManagementServer.PeriodicInformInterval" = "120" := by
  obtain ⟨setReply, getReply, hunderstood⟩ := understood_interval
  obtain ⟨view, hsteps, hview⟩ := acsView_of_sessions onStore_interval intervalEngine ""
    intervalReader [(.events ["1 BOOT"], intervalScript)] emptyStore (fun _ _ => nofun)
    (fun _ => legalBytes_of_emptyStore) hunderstood
  refine ⟨_, view, rfl, hsteps, ?_⟩
  rw [← hview _ (by decide)]
  decide +kernel

end Tr069d
