import Tr069d.Effects.Calls
import Tr069d.Transformer.LuaCalls

/-!
# The calls on one object

From the constructor on, no run faults, whatever functions stand behind the stack
(`lifetime_returns`), as long as their tables are the plain ones of `Lua.Api`.

* `Between` is what holds between two calls.  `construct_between` establishes it,
  `keeps_answerAll` carries it through any sequence of calls.
* `engineCallee` are the functions of `transformer.lua`; its tables are plain.  With them
  there, the object answers as the transformer of `LuaTransformer.lean` does, except
  that a string coming back is read as a C string (`lifetime_eq`).
-/

namespace Tr069d

open Effects Lua

variable {σ α β : Type}

namespace LuaBinding

variable (border : Border) (callee : Callee system σ)

/-! ## Every run -/

/-- Between two calls either there is no Lua state, or its stack is empty and
the engine is where `engineRef_` says. -/
inductive Between : LuaBinding σ → Prop
  | closed (reference : Int) (error : String) : Between ⟨none, reference, error⟩
  | loaded {registry : List TValue} {reference : Int} (error : String) (upvalues : σ)
      {methods : Entries} (hreference : 0 ≤ reference)
      (hengine : registry[reference.toNat]? = some (.table methods)) :
      Between (idle registry reference error upvalues)

/-- No run of a method faults, and each ends between two calls with a result in `Q`. -/
def Keeps (method : Method σ α) (Q : α → Prop) : Prop :=
  ∀ self, Between self → Prog.Returns
    (fun outcome => ∃ result self', outcome = .ok (result, self') ∧ Q result ∧ Between self')
    (method self).run

theorem Keeps.bind {method : Method σ α} {next : α → Method σ β} {Q : α → Prop} {R : β → Prop}
    (h : Keeps method Q) (hnext : ∀ result, Q result → Keeps (next result) R) :
    Keeps (method >>= next) R := by
  intro self hself
  refine (h self hself).bind ?_
  rintro _ ⟨result, self', rfl, hresult, hself'⟩
  exact hnext result hresult self' hself'

theorem keeps_pure {result : α} {Q : α → Prop} (h : Q result) :
    Keeps (pure result : Method σ α) Q :=
  fun self hself => ⟨result, self, rfl, h, hself⟩

theorem keeps_answer (request : LuaRequest) :
    Keeps (answer border callee request) fun _ => True := by
  intro self hself
  cases hself with
  | closed reference error =>
      rw [answer_unreached border callee request (pushFunction_closed rfl)]
      exact ⟨_, _, rfl, trivial, .closed reference error⟩
  | @loaded registry reference error upvalues methods hreference hengine =>
      cases hmethod : methods.get (.field request.function) with
      | function name =>
          rw [answer_loaded border callee hreference hengine request hmethod]
          refine Prog.returns_after fun outcome => ?_
          exact ⟨_, _, rfl, trivial, .loaded _ _ hreference hengine⟩
      | _ =>
          rw [answer_missing border callee hreference hengine (by rw [hmethod]; rfl)]
          exact ⟨_, _, rfl, trivial, .loaded _ _ hreference hengine⟩

/-- The calls on one object, in the order in which they get the mutex. -/
def answerAll : List LuaRequest → Method σ (List LuaAnswer)
  | [] => return []
  | request :: rest => do
      let first ← answer border callee request
      let others ← answerAll rest
      return first :: others

theorem keeps_answerAll (requests : List LuaRequest) :
    Keeps (answerAll border callee requests) fun answers => answers.length = requests.length := by
  induction requests with
  | nil => exact keeps_pure rfl
  | cons request rest ih =>
      refine (keeps_answer border callee request).bind fun first _ => ?_
      refine ih.bind fun others hothers => ?_
      exact keeps_pure (congrArg (· + 1) hothers)

/-! ## From the constructor on -/

section Construct

variable {callee} {Q : Except Lua.Fault (β × LuaBinding σ) → Prop}

/-- A call, for what follows it. -/
theorem returns_protectedCall (name : String) (arguments : List TValue) {nresults : Nat}
    (hroom : nresults ≤ minStack) {next : Bool → Method σ β} {registry : List TValue}
    {upvalues : σ} {reference : Int} {error : String}
    (hreturned : ∀ results upvalues', Prog.Returns Q (next true
      ⟨some ⟨(adjust nresults results).reverse, registry, upvalues'⟩, reference, error⟩).run)
    (hraised : ∀ raised upvalues', Prog.Returns Q (next false
      ⟨some ⟨[raised], registry, upvalues'⟩, reference, error⟩).run) :
    Prog.Returns Q ((protectedCall callee arguments.length nresults >>= next)
      ⟨some ⟨arguments.reverse ++ [.function name], registry, upvalues⟩, reference,
        error⟩).run := by
  rw [protectedCall_bind callee name arguments nresults hroom]
  refine Prog.returns_after ?_
  rintro ⟨outcome, upvalues'⟩
  cases outcome with
  | ok results => exact hreturned results upvalues'
  | error raised => exact hraised raised upvalues'

/-- Where the constructor leaves the object. -/
def Constructed (outcome : Except Lua.Fault (Unit × LuaBinding σ)) : Prop :=
  ∃ self', outcome = .ok ((), self') ∧ Between self'

variable {registry : List TValue} {upvalues : σ}

theorem constructed_giveUp (text : String) (self : LuaBinding σ) :
    Prog.Returns Constructed (giveUp text self).run :=
  ⟨_, rfl, .closed self.engineRef text⟩

/-- The error of a failed call is on the top. -/
theorem constructed_failure (raised : TValue) (reference : Int) (error : String) :
    Prog.Returns Constructed ((lua popLuaError >>= fun text => giveUp text)
      (⟨some ⟨[raised], registry, upvalues⟩, reference, error⟩ : LuaBinding σ)).run := by
  rw [bind_returns (lua_ok (popLuaError_top raised))]
  exact constructed_giveUp _ _

theorem constructed_callNew (name mapPath : String) :
    Prog.Returns Constructed
      (callNew callee mapPath ⟨some ⟨[.function name], registry, upvalues⟩, -1, ""⟩).run := by
  simp only [callNew]
  rw [bind_returns (lua_ok (Api.push_ok _ (by simp [minStack])))]
  refine returns_protectedCall name [.string mapPath] (by decide) ?_ ?_
  · intro results upvalues'
    rw [adjust_two]
    simp only [Bool.not_true, Bool.false_eq_true, if_false]
    -- a table is stored in the registry, anything else is given up with its message
    rw [bind_returns (lua_ok (Api.value_second _ _))]
    cases htable : (results[0]?.getD TValue.nil).isTable with
    | true =>
        obtain ⟨methods, hengine⟩ := TValue.exists_table htable
        simp only [Bool.not_true, Bool.false_eq_true, if_false, hengine]
        rw [bind_returns (lua_ok (Api.pushvalue_ok (Api.value_second _ _) (by simp [minStack]))),
          bind_returns (lua_ok (Api.ref_top _))]
        have hstored : (registry ++ [TValue.table methods])[((registry.length : Int)).toNat]? =
            some (.table methods) := by
          rw [Int.toNat_natCast, List.getElem?_concat_length]
        exact ⟨_, rfl, .loaded "" upvalues' (Int.natCast_nonneg _) hstored⟩
    | false =>
        simp only [Bool.not_false, if_true]
        rw [bind_returns (lua_ok (Api.value_top _))]
        exact constructed_giveUp _ _
  · intro raised upvalues'
    exact constructed_failure raised _ _

theorem constructed_useModule (module : TValue) (mapPath : String) :
    Prog.Returns Constructed
      (useModule callee mapPath ⟨some ⟨[module], registry, upvalues⟩, -1, ""⟩).run := by
  simp only [useModule]
  rw [bind_returns (lua_ok (Api.value_top _))]
  cases htable : module.isTable with
  | true =>
      obtain ⟨exported, rfl⟩ := TValue.exists_table htable
      simp only [Bool.not_true, Bool.false_eq_true, if_false]
      rw [bind_returns (lua_ok (Api.getfield_ok "new" (Api.value_top _) (by simp [minStack]))),
        bind_returns (lua_ok (Api.remove_second _ _)), bind_returns (lua_ok (Api.value_top _))]
      cases hfunction : (Entries.get exported (.field "new")).isFunction with
      | true =>
          obtain ⟨name, hnew⟩ := TValue.exists_function hfunction
          simp only [Bool.not_true, Bool.false_eq_true, if_false, hnew]
          exact constructed_callNew name mapPath
      | false => exact constructed_giveUp _ _
  | false => exact constructed_giveUp _ _

end Construct

/-- The constructor of a state that is open, from the call of the script on. -/
theorem construct_script (registry : List TValue) (upvalues : σ) (hempty) (chunk mapPath : String)
    (self : LuaBinding σ) :
    construct callee ⟨some ⟨[], registry, upvalues⟩, hempty, .ok chunk⟩ mapPath self =
      ExceptT.mk (callee.call chunk [] upvalues >>= fun answer =>
        match answer.1 with
        | .ok results => useModule callee mapPath
            ⟨some ⟨[results[0]?.getD .nil], registry, answer.2⟩, -1, ""⟩
        | .error raised => (lua popLuaError >>= fun text => giveUp text)
            ⟨some ⟨[raised], registry, answer.2⟩, -1, ""⟩) := by
  simp only [construct]
  rw [bind_returns (set_returns _)]
  simp only [Option.isNone_some, Bool.false_eq_true, if_false, andM, bind_assoc, loadfile]
  rw [bind_returns (lua_ok (Api.push_ok (.function chunk) (by decide)))]
  simp only [pure_bind, toBool]
  refine (protectedCall_bind callee chunk [] 1 (by decide) _).trans ?_
  congr 1
  apply bind_congr
  rintro ⟨outcome, upvalues'⟩
  cases outcome with
  | ok results =>
      simp only [adjust_eq]
      rfl
  | error raised => rfl

theorem construct_between (setting : Setting σ) (mapPath : String) (self : LuaBinding σ) :
    Prog.Returns Constructed (construct callee setting mapPath self).run := by
  obtain ⟨newstate, hempty, script⟩ := setting
  cases newstate with
  | none => exact ⟨_, rfl, .closed (-1) "cannot create Lua state"⟩
  | some s =>
      obtain ⟨_, registry, upvalues⟩ := s
      obtain rfl : _ = [] := hempty _ rfl
      cases script with
      | error raised =>
          simp only [construct]
          rw [bind_returns (set_returns _)]
          simp only [Option.isNone_some, Bool.false_eq_true, if_false, andM, bind_assoc, loadfile]
          rw [bind_returns (lua_ok (Api.push_ok raised (by decide)))]
          exact constructed_failure raised _ _
      | ok chunk =>
          rw [construct_script callee registry upvalues hempty chunk mapPath self]
          refine Prog.returns_after ?_
          rintro ⟨outcome, upvalues'⟩
          cases outcome with
          | ok results => exact constructed_useModule _ mapPath
          | error raised => exact constructed_failure raised _ _

/-- What a program gets from one object: it is constructed, and answers. -/
def lifetime (setting : Setting σ) (mapPath : String) (requests : List LuaRequest) :
    SystemProg (Except Lua.Fault (List LuaAnswer × LuaBinding σ)) :=
  (do
    construct callee setting mapPath
    answerAll border callee requests : Method σ (List LuaAnswer)).run ⟨none, -1, ""⟩

/-- Whatever a script with plain tables and its functions return or raise, no call on
the object reaches undefined behaviour of the Lua API, every call is answered, and the
stack is empty after each. -/
theorem lifetime_returns (setting : Setting σ) (mapPath : String) (requests : List LuaRequest) :
    (lifetime border callee setting mapPath requests).Returns fun outcome =>
      ∃ answers self, outcome = .ok (answers, self) ∧ answers.length = requests.length ∧
        Between self := by
  refine (construct_between callee setting mapPath _).bind ?_
  rintro _ ⟨self, rfl, hself⟩
  exact keeps_answerAll border callee requests self hself

end LuaBinding

/-! ## The functions of `transformer.lua` -/

/-- The fields of an item of `setParameterValues`, as Lua reads them. -/
def LuaBinding.itemOf : TValue → Option ParameterValue
  | .table found =>
      let text (name : String) := ((Entries.get found (.field name)).text?).getD ""
      some ⟨text "name", text "value", text "type"⟩
  | _ => none

/-- The table of one name, as `transformer.lua` makes it. -/
def LuaBinding.infoTable (info : ParameterInfo) : TValue :=
  .table (Entries.record [("name", .string info.name), ("writable", .boolean info.writable)])

/-- The table of an error, as `transformer.lua` makes it. -/
def LuaBinding.errorTable (error : SetError) : TValue :=
  .table (Entries.record [("path", .string error.path), ("message", .string error.message)])

namespace Engine

/-- The engine's table. -/
def methods : Entries :=
  Entries.record [("getParameterValues", .function "getParameterValues"),
    ("getParameterNames", .function "getParameterNames"),
    ("setParameterValues", .function "setParameterValues")]

/-- The functions of the engine, on Lua values. -/
def callFunction (engine : Engine) (name : String) (arguments : List TValue) :
    SystemProg (Except TValue (List TValue) × Engine) :=
  match name, arguments with
  | "getParameterValues", [.table paths, revealSecrets] => do
      let (values, invalid) ← engine.getParameterValues
        ((Entries.ipairs paths).filterMap TValue.text?) revealSecrets.truthy
      return (.ok [.table (Entries.sequence (values.map LuaBinding.valueTable)),
        .table (Entries.sequence (invalid.map .string))], engine)
  | "getParameterNames", [.string path] => do
      match ← engine.getParameterNames path with
      | .ok names =>
          return (.ok [.table (Entries.sequence (names.map LuaBinding.infoTable)), .nil], engine)
      | .error error => return (.ok [.nil, .string error], engine)
  | "setParameterValues", [.table values, .string parameterKey] => do
      let (result, engine') ← engine.setParameterValues
        ((Entries.ipairs values).filterMap LuaBinding.itemOf) parameterKey
      match result with
      | .ok () => return (.ok [.boolean true, .nil], engine')
      | .error error => return (.ok [.boolean false, LuaBinding.errorTable error], engine')
  | _, _ => return (.error (.string "bad argument"), engine)

end Engine

namespace LuaTransformer

variable (transformer : LuaTransformer)

/-- A request, answered without the stack. -/
def answer : LuaRequest → SystemProg (LuaAnswer × LuaTransformer)
  | .getParameterValues paths revealSecrets => do
      let (values, invalidPaths) ← transformer.getParameterValues paths revealSecrets
      return (.values values invalidPaths, transformer)
  | .setParameterValues values parameterKey => do
      let (result, transformer') ← transformer.setParameterValues values parameterKey
      return (.result result, transformer')
  | .getParameterNames path => do
      let (names, error) ← transformer.getParameterNames path
      return (.names names error, transformer)

end LuaTransformer

/-- `transformer.lua` behind the stack: its script, its `new`, and the functions
of the engine that `new` made.  `load` is what `new` does with the map. -/
def engineCallee (load : String → SystemProg (Except String Engine)) :
    Callee system (Option Engine) where
  call name arguments upvalues :=
    match name, arguments, upvalues with
    | "transformer.lua", _, upvalues =>
        return (.ok [.table (Entries.record [("new", .function "new")])], upvalues)
    | "new", [.string mapPath], upvalues => do
        match ← load mapPath with
        | .ok engine => return (.ok [.table Engine.methods, .nil], some engine)
        | .error message => return (.ok [.nil, .string message], upvalues)
    | name, arguments, some engine => do
        let (outcome, engine') ← engine.callFunction name arguments
        return (outcome, some engine')
    | _, _, none => return (.error (.string "attempt to call a nil value"), none)

/-! ## What a C string loses -/

/-- A value whose strings are read as C strings. -/
def cutValue (value : ParameterValue) : ParameterValue :=
  ⟨cText value.name, cText value.value, cText value.type⟩

def cutInfo (info : ParameterInfo) : ParameterInfo :=
  ⟨cText info.name, info.writable⟩

/-- An answer whose strings are read as C strings; a refusal without a text
gets the default one. -/
def LuaAnswer.cut : LuaAnswer → LuaAnswer
  | .values found invalidPaths => .values (found.map cutValue) (invalidPaths.map cText)
  | .result outcome =>
      if outcome.success then .result { success := true }
      else
        .result {
          error :=
            if cText outcome.error == "" then "Transformer transaction failed"
            else cText outcome.error
          failedParameter := cText outcome.failedParameter }
  | .names found error => .names (found.map cutInfo) (cText error)

namespace LuaTransformer

variable (transformer : LuaTransformer)

/-- What the callers get of an answer: what the engine said, as C strings. -/
def readBack (answered : LuaAnswer) : LuaAnswer :=
  if transformer.ready then answered.cut else answered

/-- What the callers get of a list of requests. -/
def answerAll (transformer : LuaTransformer) :
    List LuaRequest → SystemProg (List LuaAnswer × LuaTransformer)
  | [] => return ([], transformer)
  | request :: rest => do
      let (first, transformer') ← transformer.answer request
      let (others, last) ← transformer'.answerAll rest
      return (transformer.readBack first :: others, last)

/-- What the constructor makes of the result of `new`. -/
def ofLoaded : Except String Engine → LuaTransformer
  | .ok engine => ⟨some engine, ""⟩
  | .error message => ⟨none, cText message⟩

end LuaTransformer

namespace LuaBinding

variable (border : Border)

/-- What is read of a sequence that was made of a list. -/
theorem itemsOf_made {make : β → TValue} {read : TValue → List α} {cut : β → α}
    (hread : ∀ item, read (make item) = [cut item]) (items : List β) :
    itemsOf border read (.table (Entries.sequence (items.map make))) = items.map cut := by
  rw [itemsOf, border.length_sequence, flatMap_sequence, List.flatMap_map, List.map_eq_flatMap]
  simp only [hread]

theorem valueOf_valueTable (value : ParameterValue) :
    valueOf (valueTable value) = [cutValue value] :=
  rfl

theorem infoOf_infoTable (info : ParameterInfo) : infoOf (infoTable info) = [cutInfo info] :=
  rfl

theorem pathOf_string (path : String) : pathOf (.string path) = [cText path] :=
  rfl

theorem itemOf_valueTable (value : ParameterValue) : itemOf (valueTable value) = some value :=
  rfl

/-- What the engine reads of a list of paths is the list, and of values the values. -/
theorem filterMap_ipairs {items : List β} {make : β → TValue} {read : TValue → Option β}
    (hread : ∀ item, read (make item) = some item) (hnil : ∀ item, make item ≠ .nil) :
    (Entries.ipairs (Entries.sequence (items.map make))).filterMap read = items := by
  have hmade : TValue.nil ∉ items.map make := by
    intro hmem
    obtain ⟨item, -, hitem⟩ := List.mem_map.mp hmem
    exact hnil item hitem
  rw [Entries.ipairs_sequence hmade, List.filterMap_map]
  have hsome : read ∘ make = some := funext hread
  rw [hsome, List.filterMap_some]

variable {load : String → SystemProg (Except String Engine)} {registry : List TValue}
  {reference : Int}

theorem cut_refused (refused : SetError) :
    (LuaAnswer.result (LuaTransformer.setResult (.error refused))).cut =
      .result {
        error :=
          if cText refused.message == "" then "Transformer transaction failed"
          else cText refused.message
        failedParameter := cText refused.path } := by
  by_cases hempty : refused.message = ""
  · obtain ⟨path, message⟩ := refused
    obtain rfl : message = "" := hempty
    have hdefault : cText "Transformer transaction failed" = "Transformer transaction failed" :=
      cText_eq_self (by decide)
    have hnone : cText "" = "" := cText_eq_self (by decide)
    have hkept : LuaTransformer.setResult (.error ⟨path, ""⟩) =
        { error := "Transformer transaction failed", failedParameter := path } := rfl
    simp [hkept, LuaAnswer.cut, hdefault, hnone]
  · have hkept : LuaTransformer.setResult (.error refused) =
        { error := refused.message, failedParameter := refused.path } := by
      simp only [LuaTransformer.setResult, beq_iff_eq, if_neg hempty]
    rw [hkept]
    rfl

/-- The functions of the engine do on the marshalled arguments what the
transformer does. -/
theorem callFunction_request (engine : Engine) (error : String) (request : LuaRequest) :
    (engine.callFunction request.function request.arguments >>= fun outcome =>
      (pure (request.read border outcome.1,
        ⟨some outcome.2, request.lastErrorAfter error outcome.1⟩) :
        SystemProg (LuaAnswer × LuaTransformer))) =
      (LuaTransformer.mk (some engine) error).answer request >>= fun answered =>
        pure (answered.1.cut, answered.2) := by
  cases request with
  | getParameterValues paths revealSecrets =>
      -- the function finds on its stack what the binding has pushed
      have hpaths : (Entries.ipairs (Entries.sequence (paths.map TValue.string))).filterMap
          TValue.text? = paths :=
        filterMap_ipairs (fun _ => rfl) fun _ h => TValue.noConfusion h
      simp only [LuaRequest.function, LuaRequest.arguments, Engine.callFunction, hpaths,
        LuaTransformer.answer, LuaTransformer.getParameterValues, bind_assoc]
      apply bind_congr
      rintro ⟨values, invalid⟩
      -- and the binding finds in the tables what the function has made them of
      have hfirst := itemsOf_made border valueOf_valueTable values
      have hsecond := itemsOf_made border pathOf_string invalid
      simp only [pure_bind, LuaRequest.read, LuaRequest.returned, LuaRequest.lastErrorAfter,
        List.getElem?_cons_zero, List.getElem?_cons_succ, Option.getD_some, hfirst, hsecond,
        LuaAnswer.cut]
  | setParameterValues values parameterKey =>
      have hvalues : (Entries.ipairs (Entries.sequence (values.map valueTable))).filterMap
          itemOf = values :=
        filterMap_ipairs itemOf_valueTable fun _ h => TValue.noConfusion h
      simp only [LuaRequest.function, LuaRequest.arguments, Engine.callFunction, hvalues,
        LuaTransformer.answer, LuaTransformer.setParameterValues, bind_assoc]
      apply bind_congr
      rintro ⟨result, engine'⟩
      cases result with
      | ok _ => rfl
      | error refused =>
          simp only [pure_bind, cut_refused]
          rfl
  | getParameterNames path =>
      simp only [LuaRequest.function, LuaRequest.arguments, Engine.callFunction,
        LuaTransformer.answer, LuaTransformer.getParameterNames, bind_assoc]
      apply bind_congr
      intro result
      cases result with
      | ok names =>
          have hfirst := itemsOf_made border infoOf_infoTable names
          simp only [pure_bind, LuaRequest.read, LuaRequest.returned, LuaRequest.lastErrorAfter,
            List.getElem?_cons_zero, Option.getD_some, hfirst, LuaAnswer.cut,
            TValue.isTable_table, if_true]
          rfl
      | error text => rfl

/-- The object that stands for a transformer; its engine lies behind what the
registry held at first. -/
def ofTransformer (registry : List TValue) (transformer : LuaTransformer) :
    LuaBinding (Option Engine) :=
  match transformer.engine with
  | some engine =>
      idle (registry ++ [.table Engine.methods]) registry.length transformer.lastError (some engine)
  | none => ⟨none, -1, transformer.lastError⟩

theorem answer_ofTransformer (registry : List TValue) (transformer : LuaTransformer)
    (request : LuaRequest) :
    answer border (engineCallee load) request (ofTransformer registry transformer) =
      ExceptT.mk (transformer.answer request >>= fun answered =>
        pure (.ok (transformer.readBack answered.1, ofTransformer registry answered.2))) := by
  -- without an engine nothing is pushed, and the answer is the failure
  obtain ⟨_ | engine, error⟩ := transformer
  · rw [answer_unreached border (engineCallee load) request (pushFunction_closed rfl)]
    cases request <;> rfl
  · have hstored : (registry ++ [TValue.table Engine.methods])[((registry.length : Int)).toNat]? =
        some (.table Engine.methods) := by
      rw [Int.toNat_natCast, List.getElem?_concat_length]
    have hmethod : Engine.methods.get (.field request.function) = .function request.function := by
      cases request <;> rfl
    -- the script of the engine has the three functions under these names
    have hcall : (engineCallee load).call request.function request.arguments (some engine) =
        engine.callFunction request.function request.arguments >>= fun outcome =>
          pure (outcome.1, some outcome.2) := by
      cases request <;> rfl
    have hrequest := congrArg (· >>= fun (answered : LuaAnswer × LuaTransformer) =>
      (pure (.ok (answered.1, ofTransformer registry answered.2)) :
        SystemProg (Except Lua.Fault (LuaAnswer × LuaBinding (Option Engine)))))
      (callFunction_request border engine error request)
    simp only [bind_assoc, pure_bind] at hrequest
    rw [ofTransformer, answer_loaded border (engineCallee load) (Int.natCast_nonneg _) hstored
      request hmethod, hcall, bind_assoc]
    exact congrArg ExceptT.mk hrequest

/-- What follows a method that is a program. -/
theorem bind_program {γ : Type} {method : Method σ α} {next : α → Method σ β}
    {self : LuaBinding σ} {program : SystemProg γ} {result : γ → α × LuaBinding σ}
    (h : method self = ExceptT.mk (program >>= fun found => pure (.ok (result found)))) :
    (method >>= next) self =
      ExceptT.mk (program >>= fun found => (next (result found).1 (result found).2).run) := by
  change (ExceptT.run (method self) >>= _) = _
  rw [h]
  exact bind_assoc program _ _

theorem answerAll_ofTransformer (registry : List TValue) (transformer : LuaTransformer)
    (requests : List LuaRequest) :
    answerAll border (engineCallee load) requests (ofTransformer registry transformer) =
      ExceptT.mk (transformer.answerAll requests >>= fun answered =>
        pure (.ok (answered.1, ofTransformer registry answered.2))) := by
  induction requests generalizing transformer with
  | nil => rfl
  | cons request rest ih =>
      rw [answerAll, bind_program (answer_ofTransformer border registry transformer request),
        LuaTransformer.answerAll, bind_assoc]
      congr 1
      apply bind_congr
      intro answered
      rw [bind_program (ih answered.2), bind_assoc]
      rfl

/-- The setting of a device: memory for a state, and a script that compiles. -/
def deviceSetting (registry : List TValue) : Setting (Option Engine) where
  newstate := some ⟨[], registry, none⟩
  newstate_stack := fun _ h => by cases h; rfl
  loadfile := .ok "transformer.lua"

theorem callNew_engine (registry : List TValue) (mapPath : String) :
    callNew (engineCallee load) mapPath ⟨some ⟨[.function "new"], registry, none⟩, -1, ""⟩ =
      ExceptT.mk (load mapPath >>= fun loaded =>
        pure (.ok ((), ofTransformer registry (LuaTransformer.ofLoaded loaded)))) := by
  have hnew : (engineCallee load).call "new" [.string mapPath] none =
      load mapPath >>= fun loaded =>
        match loaded with
        | .ok engine => pure (.ok [.table Engine.methods, .nil], some engine)
        | .error message => pure (.ok [.nil, .string message], none) := rfl
  simp only [callNew]
  rw [bind_returns (lua_ok (Api.push_ok _ (by simp [minStack])))]
  refine (protectedCall_bind (engineCallee load) "new" [.string mapPath] 2 (by decide) _).trans ?_
  rw [hnew, bind_assoc]
  congr 1
  apply bind_congr
  intro loaded
  cases loaded with
  | ok engine =>
      simp only [pure_bind, adjust_two]
      rfl
  | error message =>
      simp only [pure_bind, adjust_two]
      rfl

theorem construct_engine (registry : List TValue) (mapPath : String)
    (self : LuaBinding (Option Engine)) :
    construct (engineCallee load) (deviceSetting registry) mapPath self =
      ExceptT.mk (load mapPath >>= fun loaded =>
        pure (.ok ((), ofTransformer registry (LuaTransformer.ofLoaded loaded)))) := by
  refine (construct_script (engineCallee load) registry none _ "transformer.lua" mapPath
    self).trans ?_
  change useModule (engineCallee load) mapPath ⟨some ⟨[.table (Entries.record
    [("new", .function "new")])], registry, none⟩, -1, ""⟩ = _
  simp only [useModule]
  rw [bind_returns (lua_ok (Api.value_top _)), if_neg (by simp [TValue.isTable_table]),
    bind_returns (lua_ok (Api.getfield_ok "new" (Api.value_top _) (by simp [minStack]))),
    bind_returns (lua_ok (Api.remove_second _ _)), bind_returns (lua_ok (Api.value_top _))]
  exact callNew_engine registry mapPath

/-- On a device the callers of a `LuaTransformer` get what the transformer of
`LuaTransformer.lean` says, with the same system calls in the same order.  The
arguments reach the engine whole, zero bytes included; only what comes back is
read as C strings. -/
theorem lifetime_eq (registry : List TValue) (mapPath : String) (requests : List LuaRequest) :
    lifetime border (engineCallee load) (deviceSetting registry) mapPath requests =
      (do
        let transformer := LuaTransformer.ofLoaded (← load mapPath)
        let (answers, last) ← transformer.answerAll requests
        return .ok (answers, ofTransformer registry last)) := by
  change (construct (engineCallee load) (deviceSetting registry) mapPath >>=
    fun _ => answerAll border (engineCallee load) requests) ⟨none, -1, ""⟩ = _
  rw [bind_program (construct_engine registry mapPath _)]
  change (load mapPath >>= fun loaded => _) = _
  apply bind_congr
  intro loaded
  exact answerAll_ofTransformer border registry (LuaTransformer.ofLoaded loaded) requests

end LuaBinding

end Tr069d
