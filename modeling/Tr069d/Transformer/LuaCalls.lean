import Tr069d.Transformer.LuaBinding

/-!
# One call over the Lua stack

Whatever the function of the engine returns or raises, within what `Lua.Api` says
of tables, a call that finds the stack empty leaves it empty.  It calls the function
once, on the marshalled arguments, and what it answers is a function of the outcome.

* `fieldText`, `valueOf`, `pathOf`, `infoOf`, `refusalOf`: what is read of a value that
  comes back, whatever its type is.  The lemmas that end in `_top` say that the source
  reads exactly this and leaves the stack as it found it.
* `protectedCall_bind` and `pushFunction_fetch`: one call, with the engine fetched from
  the registry before it.
* `answer_loaded` and `answer_unreached`: the answer to a request, with a method behind
  its name and without one.
-/

namespace Tr069d

open Effects Lua

variable {σ α β : Type}

namespace LuaBinding

/-! ## What comes back -/

def fieldText (found : Entries) (name : String) : String :=
  ((Entries.get found (.field name)).text?.map cText).getD ""

/-- The value that an entry of the first result stands for. -/
def valueOf : TValue → List ParameterValue
  | .table found => [⟨fieldText found "name", fieldText found "value", fieldText found "type"⟩]
  | _ => []

def pathOf (entry : TValue) : List String :=
  (entry.text?.map cText).toList

def infoOf : TValue → List ParameterInfo
  | .table found => [⟨fieldText found "name", (Entries.get found (.field "writable")).truthy⟩]
  | _ => []

/-- The items that a result stands for. -/
def itemsOf (border : Border) (read : TValue → List α) : TValue → List α
  | .table found =>
      (List.range' 1 (border.length found)).flatMap fun i => read (Entries.get found (.index i))
  | _ => []

def raisedText (raised : TValue) : String :=
  (raised.text?.map cText).getD "unknown Lua error"

/-- The error and the path that the second result of a refusal stands for. -/
def refusalOf : TValue → String × String
  | .table found => (fieldText found "message", fieldText found "path")
  | second => ((second.text?.map cText).getD "", "")

section Rules

variable {self self' : LuaBinding σ} {s s' : Lua.State σ} {reference : Int} {error : String}

theorem bind_returns {first : Method σ α} {next : α → Method σ β} {result : α}
    (h : first self = pure (result, self')) : (first >>= next) self = next result self' := by
  change (first self >>= fun step => next step.1 step.2) = _
  rw [h]
  rfl

theorem get_returns : (get : Method σ (LuaBinding σ)) self = pure (self, self) := rfl

theorem set_returns (self' : LuaBinding σ) :
    (set self' : Method σ PUnit) self = pure (PUnit.unit, self') := rfl

theorem setLastError_returns (text : String) :
    setLastError text self = pure ((), { self with lastError := text }) := rfl

theorem lua_ok {op : Lua.Api σ α} {result : α} (h : op s = .ok (result, s')) :
    lua op ⟨some s, reference, error⟩ = pure (result, ⟨some s', reference, error⟩) := by
  simp only [lua, h]

variable {stack registry : List TValue} {upvalues : σ} {found : Entries}

theorem absindex_top (top : TValue) :
    Api.absindex (-1) (⟨top :: stack, registry, upvalues⟩ : Lua.State σ) =
      .ok ((stack.length : Int) + 1, ⟨top :: stack, registry, upvalues⟩) := by
  simp [Api.absindex]

theorem fieldString_top (name : String) (hroom : stack.length + 1 < minStack) :
    fieldString (-1) name ⟨.table found :: stack, registry, upvalues⟩ =
      .ok (fieldText found name, ⟨.table found :: stack, registry, upvalues⟩) := by
  have habsolute : Api.value ((stack.length : Int) + 1)
      ⟨.table found :: stack, registry, upvalues⟩ =
        .ok (.table found, ⟨.table found :: stack, registry, upvalues⟩) :=
    Api.value_absolute [] (.table found)
  rw [fieldString, Api.bind_ok (absindex_top _), Api.bind_ok (Api.getfield_ok name habsolute hroom),
    Api.bind_ok (Api.value_top _), Api.bind_ok (Api.pop_one _)]
  rfl

theorem fieldBool_top (name : String) (hroom : stack.length + 1 < minStack) :
    fieldBool (-1) name ⟨.table found :: stack, registry, upvalues⟩ =
      .ok ((Entries.get found (.field name)).truthy,
        ⟨.table found :: stack, registry, upvalues⟩) := by
  have habsolute : Api.value ((stack.length : Int) + 1)
      ⟨.table found :: stack, registry, upvalues⟩ =
        .ok (.table found, ⟨.table found :: stack, registry, upvalues⟩) :=
    Api.value_absolute [] (.table found)
  rw [fieldBool, Api.bind_ok (absindex_top _), Api.bind_ok (Api.getfield_ok name habsolute hroom),
    Api.bind_ok (Api.value_top _), Api.bind_ok (Api.pop_one _)]
  rfl

theorem valueEntry_top (entry : TValue) (hroom : stack.length + 1 < minStack) :
    valueEntry ⟨entry :: stack, registry, upvalues⟩ =
      .ok (valueOf entry, ⟨entry :: stack, registry, upvalues⟩) := by
  rw [valueEntry, Api.bind_ok (Api.value_top _)]
  cases entry with
  | table found =>
      rw [if_pos (TValue.isTable_table found),
        Api.bind_ok (fieldString_top _ hroom), Api.bind_ok (fieldString_top _ hroom),
        Api.bind_ok (fieldString_top _ hroom)]
      rfl
  | _ => rfl

theorem pathEntry_top (entry : TValue) :
    pathEntry ⟨entry :: stack, registry, upvalues⟩ =
      .ok (pathOf entry, ⟨entry :: stack, registry, upvalues⟩) :=
  Api.bind_ok (Api.value_top _)

theorem infoEntry_top (entry : TValue) (hroom : stack.length + 1 < minStack) :
    infoEntry ⟨entry :: stack, registry, upvalues⟩ =
      .ok (infoOf entry, ⟨entry :: stack, registry, upvalues⟩) := by
  rw [infoEntry, Api.bind_ok (Api.value_top _)]
  cases entry with
  | table found =>
      rw [if_pos (TValue.isTable_table found),
        Api.bind_ok (fieldString_top _ hroom), Api.bind_ok (fieldBool_top _ hroom)]
      rfl
  | _ => rfl

theorem refusal_top (second : TValue) (hroom : stack.length + 1 < minStack) :
    refusal ⟨second :: stack, registry, upvalues⟩ =
      .ok (refusalOf second, ⟨second :: stack, registry, upvalues⟩) := by
  rw [refusal, Api.bind_ok (Api.value_top _)]
  cases second with
  | table found =>
      rw [if_pos (TValue.isTable_table found),
        Api.bind_ok (fieldString_top _ hroom), Api.bind_ok (fieldString_top _ hroom)]
      rfl
  | _ => rfl

theorem popLuaError_top (raised : TValue) :
    popLuaError ⟨raised :: stack, registry, upvalues⟩ =
      .ok (raisedText raised, ⟨stack, registry, upvalues⟩) := by
  rw [popLuaError, Api.bind_ok (Api.value_top _), Api.bind_ok (Api.pop_one _)]
  rfl

theorem collectTable_ok (border : Border) {index : Int} {body : Lua.Api σ (List α)}
    {read : TValue → List α} {result : TValue} (hindex : Api.value index s = .ok (result, s))
    (hroom : s.stack.length < minStack)
    (hbody : ∀ entry, body { s with stack := entry :: s.stack } =
      .ok (read entry, { s with stack := entry :: s.stack })) :
    collectTable border index body s = .ok (itemsOf border read result, s) := by
  rw [collectTable, Api.bind_ok hindex]
  cases result with
  | table found =>
      rw [if_pos (TValue.isTable_table found),
        Api.bind_ok (Api.rawlen_ok border hindex), Api.collect_ok hindex hroom hbody]
      rfl
  | _ => rfl

/-- The table of one value, as `transformer.lua` sees it. -/
def valueTable (value : ParameterValue) : TValue :=
  .table (Entries.record
    [("name", .string value.name), ("value", .string value.value), ("type", .string value.type)])

theorem pushValue_ok (value : ParameterValue) (hroom : stack.length + 1 < minStack) :
    pushValue value ⟨stack, registry, upvalues⟩ =
      .ok ((), ⟨valueTable value :: stack, registry, upvalues⟩) := by
  have hbelow : stack.length < minStack := Nat.lt_of_succ_lt hroom
  have hpush (entries : Entries) (text : String) :
      Api.push (.string text) (⟨.table entries :: stack, registry, upvalues⟩ : Lua.State σ) =
        .ok ((), ⟨.string text :: .table entries :: stack, registry, upvalues⟩) :=
    Api.push_ok _ hroom
  simp only [pushValue, Api.setfield]
  rw [Api.bind_ok (Api.push_ok _ hbelow), Api.bind_ok (hpush _ _),
    Api.bind_ok (Api.store_second _ _), Api.bind_ok (hpush _ _),
    Api.bind_ok (Api.store_second _ _), Api.bind_ok (hpush _ _), Api.store_second]
  rfl

/-- A call with every argument in place, and what follows. -/
theorem protectedCall_bind (callee : Callee system σ) (name : String) (arguments : List TValue)
    (nresults : Nat) (hroom : nresults ≤ minStack) (next : Bool → Method σ β) :
    (protectedCall callee arguments.length nresults >>= next)
        ⟨some ⟨arguments.reverse ++ [.function name], registry, upvalues⟩, reference, error⟩ =
      ExceptT.mk (callee.call name arguments upvalues >>= fun answer =>
        match answer.1 with
        | .ok results => next true
            ⟨some ⟨(adjust nresults results).reverse, registry, answer.2⟩, reference, error⟩
        | .error raised => next false
            ⟨some ⟨[raised], registry, answer.2⟩, reference, error⟩) := by
  have hcall := pcall_function callee name arguments [] nresults registry upvalues
    (by simpa using hroom)
  change ((ExceptT.mk (pcall callee arguments.length nresults _) >>= _) >>= _) = _
  rw [hcall]
  change ((callee.call name arguments upvalues >>= _) >>= _) >>= _ =
    callee.call name arguments upvalues >>= _
  rw [bind_assoc, bind_assoc]
  congr 1
  funext ⟨outcome, upvalues'⟩
  cases outcome with
  | ok results => simp; rfl
  | error raised => rfl

/-! ## Fetching a method -/

variable {methods : Entries} {name : String}

theorem pushFunction_closed {self : LuaBinding σ} (h : self.ready = false) :
    pushFunction name self = pure (false, self) := by
  simp only [pushFunction]
  rw [bind_returns get_returns, h]
  rfl

/-- The engine is fetched, and its field takes its place. -/
theorem pushFunction_fetch (hreference : 0 ≤ reference)
    (hengine : registry[reference.toNat]? = some (.table methods)) :
    pushFunction name ⟨some ⟨[], registry, upvalues⟩, reference, error⟩ =
      (if (methods.get (.field name)).isFunction then
        pure (true, ⟨some ⟨[methods.get (.field name)], registry, upvalues⟩, reference, error⟩)
      else
        pure (false, ⟨some ⟨[], registry, upvalues⟩, reference,
          "Transformer method missing: " ++ name⟩)) := by
  have hready : ready (⟨some ⟨[], registry, upvalues⟩, reference, error⟩ : LuaBinding σ) = true :=
    decide_eq_true hreference
  simp only [pushFunction]
  rw [bind_returns get_returns]
  simp only [hready, Bool.not_true, Bool.false_eq_true, if_false]
  rw [bind_returns (lua_ok (Api.rawgetref_ok hengine (by decide))),
    bind_returns (lua_ok (Api.getfield_ok name (Api.value_top _) (by simp [minStack]))),
    bind_returns (lua_ok (Api.remove_second _ _)), bind_returns (lua_ok (Api.value_top _))]
  cases hfunction : (methods.get (.field name)).isFunction with
  | true => rfl
  | false =>
      simp only [Bool.not_false, if_true]
      rw [bind_returns (lua_ok (Api.pop_one _))]
      rfl

end Rules

end LuaBinding

/-! ## One call -/

/-- A call of the transformer, under the mutex one at a time. -/
inductive LuaRequest
  | getParameterValues (paths : List String) (revealSecrets : Bool)
  | setParameterValues (values : List ParameterValue) (parameterKey : String)
  | getParameterNames (path : String)

inductive LuaAnswer
  | values (values : List ParameterValue) (invalidPaths : List String)
  | result (result : SetResult)
  | names (names : List ParameterInfo) (error : String)
  deriving DecidableEq

namespace LuaRequest

/-- The function of the engine that answers a request. -/
def function : LuaRequest → String
  | .getParameterValues _ _ => "getParameterValues"
  | .setParameterValues _ _ => "setParameterValues"
  | .getParameterNames _ => "getParameterNames"

/-- The arguments it is called with. -/
def arguments : LuaRequest → List TValue
  | .getParameterValues paths revealSecrets =>
      [.table (Entries.sequence (paths.map .string)), .boolean revealSecrets]
  | .setParameterValues values parameterKey =>
      [.table (Entries.sequence (values.map LuaBinding.valueTable)), .string parameterKey]
  | .getParameterNames path => [.string path]

/-- The answer to a request that reaches no function. -/
def unreached (lastError : String) : LuaRequest → LuaAnswer
  | .getParameterValues paths _ => .values [] paths
  | .setParameterValues _ _ => .result { error := lastError }
  | .getParameterNames _ => .names [] lastError

/-- The answer that two results stand for. -/
def returned (border : Border) (first second : TValue) : LuaRequest → LuaAnswer
  | .getParameterValues _ _ =>
      .values (LuaBinding.itemsOf border LuaBinding.valueOf first)
        (LuaBinding.itemsOf border LuaBinding.pathOf second)
  | .setParameterValues _ _ =>
      if first.truthy then .result { success := true }
      else
        let (error, failedParameter) := LuaBinding.refusalOf second
        .result {
          error := if error == "" then "Transformer transaction failed" else error
          failedParameter := failedParameter }
  | .getParameterNames _ =>
      if first.isTable then .names (LuaBinding.itemsOf border LuaBinding.infoOf first) ""
      else .names [] ((second.text?.map cText).getD "unknown parameter path")

/-- The answer that an outcome of the function stands for. -/
def read (border : Border) (request : LuaRequest) : Except TValue (List TValue) → LuaAnswer
  | .ok results =>
      request.returned border (results[0]?.getD .nil) (results[1]?.getD .nil)
  | .error raised => request.unreached (LuaBinding.raisedText raised)

/-- `lastError_` after a call: only `getParameterValues` keeps what was raised. -/
def lastErrorAfter (error : String) :
    LuaRequest → Except TValue (List TValue) → String
  | .getParameterValues _ _, .error raised => LuaBinding.raisedText raised
  | _, _ => error

end LuaRequest

namespace LuaBinding

variable (border : Border) (callee : Callee system σ)

/-- The method of `LuaTransformer` that a request calls. -/
def answer : LuaRequest → Method σ LuaAnswer
  | .getParameterValues paths revealSecrets => do
      let (values, invalidPaths) ← getParameterValues border callee paths revealSecrets
      return .values values invalidPaths
  | .setParameterValues values parameterKey => do
      return .result (← setParameterValues callee values parameterKey)
  | .getParameterNames path => do
      let (names, error) ← getParameterNames border callee path
      return .names names error

section Calls

variable {registry : List TValue} {upvalues : σ} {reference : Int} {error : String}
  {methods : Entries} {name : String}

/-- An object between two calls: the stack is empty. -/
def idle (registry : List TValue) (reference : Int) (error : String) (upvalues : σ) :
    LuaBinding σ :=
  ⟨some ⟨[], registry, upvalues⟩, reference, error⟩

theorem pushFunction_ok (hreference : 0 ≤ reference)
    (hengine : registry[reference.toNat]? = some (.table methods)) {method : String}
    (hmethod : methods.get (.field method) = .function name) :
    pushFunction method (idle registry reference error upvalues) =
      pure (true, ⟨some ⟨[.function name], registry, upvalues⟩, reference, error⟩) := by
  rw [idle, pushFunction_fetch hreference hengine, hmethod,
    if_pos (TValue.isFunction_function name)]

/-- A call that takes what the function leaves on the stack back to an answer. -/
theorem protectedCall_idle (arguments : List TValue) {nresults : Nat} (hroom : nresults ≤ minStack)
    {next : Bool → Method σ β} (read : Except TValue (List TValue) → β)
    (errorAfter : Except TValue (List TValue) → String)
    (hreturned : ∀ results upvalues',
      next true ⟨some ⟨(adjust nresults results).reverse, registry, upvalues'⟩, reference, error⟩ =
        pure (read (.ok results),
          idle registry reference (errorAfter (.ok results)) upvalues'))
    (hraised : ∀ raised upvalues',
      next false ⟨some ⟨[raised], registry, upvalues'⟩, reference, error⟩ =
        pure (read (.error raised),
          idle registry reference (errorAfter (.error raised)) upvalues')) :
    (protectedCall callee arguments.length nresults >>= next)
        ⟨some ⟨arguments.reverse ++ [.function name], registry, upvalues⟩, reference, error⟩ =
      ExceptT.mk (callee.call name arguments upvalues >>= fun outcome =>
        pure (.ok (read outcome.1,
          idle registry reference (errorAfter outcome.1) outcome.2))) := by
  rw [protectedCall_bind callee name arguments nresults hroom]
  congr 1
  apply bind_congr
  rintro ⟨outcome, upvalues'⟩
  cases outcome with
  | ok results => exact hreturned results upvalues'
  | error raised => exact hraised raised upvalues'

theorem adjust_two (results : List TValue) :
    (adjust 2 results).reverse = [results[1]?.getD .nil, results[0]?.getD .nil] := by
  rw [adjust_eq]
  rfl

theorem getParameterNames_idle (hreference : 0 ≤ reference)
    (hengine : registry[reference.toNat]? = some (.table methods))
    (path : String) (hmethod : methods.get (.field "getParameterNames") = .function name) :
    answer border callee (.getParameterNames path) (idle registry reference error upvalues) =
      ExceptT.mk (callee.call name (LuaRequest.getParameterNames path).arguments upvalues >>=
        fun outcome => pure (.ok ((LuaRequest.getParameterNames path).read border outcome.1,
          idle registry reference error outcome.2))) := by
  simp only [answer, getParameterNames, bind_assoc]
  rw [bind_returns (pushFunction_ok hreference hengine hmethod)]
  simp only [Bool.not_true, Bool.false_eq_true, if_false, bind_assoc]
  rw [bind_returns (lua_ok (Api.push_ok _ (by simp [minStack])))]
  -- either the call returns, or it raises
  refine protectedCall_idle callee [.string path] (by decide)
    ((LuaRequest.getParameterNames path).read border) (fun _ => error) ?_ ?_
  -- the result is a table of entries, or `nil` and a message
  · intro results upvalues'
    rw [adjust_two]
    simp only [Bool.not_true, Bool.false_eq_true, if_false, bind_assoc]
    rw [bind_returns (lua_ok (Api.value_second _ _))]
    cases htable : (results[0]?.getD TValue.nil).isTable with
    | true =>
        simp only [Bool.not_true, Bool.false_eq_true, if_false, bind_assoc]
        rw [bind_returns (lua_ok (collectTable_ok border (Api.value_second _ _) (by simp [minStack])
            fun entry => infoEntry_top entry (by simp [minStack]))),
          bind_returns (lua_ok (Api.clear_ok _))]
        simp only [LuaRequest.read, LuaRequest.returned, htable, if_true]
        rfl
    | false =>
        simp only [Bool.not_false, if_true, bind_assoc]
        rw [bind_returns (lua_ok (Api.value_top _)), bind_returns (lua_ok (Api.clear_ok _))]
        simp only [LuaRequest.read, LuaRequest.returned, htable, Bool.false_eq_true, if_false]
        rfl
  · intro raised upvalues'
    simp only [Bool.not_false, if_true, bind_assoc]
    rw [bind_returns (lua_ok (popLuaError_top _)), bind_returns (lua_ok (Api.clear_ok _))]
    rfl

theorem setParameterValues_idle (hreference : 0 ≤ reference)
    (hengine : registry[reference.toNat]? = some (.table methods))
    (values : List ParameterValue) (parameterKey : String)
    (hmethod : methods.get (.field "setParameterValues") = .function name) :
    answer border callee (.setParameterValues values parameterKey)
        (idle registry reference error upvalues) =
      ExceptT.mk (callee.call name (LuaRequest.setParameterValues values parameterKey).arguments
          upvalues >>= fun outcome =>
        pure (.ok ((LuaRequest.setParameterValues values parameterKey).read border outcome.1,
          idle registry reference error outcome.2))) := by
  simp only [answer, setParameterValues, bind_assoc]
  rw [bind_returns (pushFunction_ok hreference hengine hmethod)]
  simp only [Bool.not_true, Bool.false_eq_true, if_false, bind_assoc]
  -- the table of values is filled, and the parameter key is pushed
  rw [bind_returns (lua_ok (Api.push_ok _ (by simp [minStack]))),
    bind_returns (lua_ok (Api.fill_empty values fun value before =>
      pushValue_ok value (by simp [minStack]))),
    bind_returns (lua_ok (Api.push_ok _ (by simp [minStack])))]
  refine protectedCall_idle callee
    [.table (Entries.sequence (values.map valueTable)), .string parameterKey] (by decide)
    ((LuaRequest.setParameterValues values parameterKey).read border) (fun _ => error) ?_ ?_
  -- the result is true, or false and a table that says why
  · intro results upvalues'
    rw [adjust_two]
    simp only [Bool.not_true, Bool.false_eq_true, if_false, bind_assoc]
    rw [bind_returns (lua_ok (Api.value_second _ _))]
    cases htruthy : (results[0]?.getD TValue.nil).truthy with
    | true =>
        simp only [if_true, bind_assoc]
        rw [bind_returns (lua_ok (Api.clear_ok _))]
        simp only [LuaRequest.read, LuaRequest.returned, htruthy, if_true]
        rfl
    | false =>
        simp only [Bool.false_eq_true, if_false, bind_assoc]
        rw [bind_returns (lua_ok (refusal_top _ (by simp [minStack]))),
          bind_returns (lua_ok (Api.clear_ok _))]
        simp only [LuaRequest.read, LuaRequest.returned, htruthy, Bool.false_eq_true, if_false]
        rfl
  · intro raised upvalues'
    simp only [Bool.not_false, if_true, bind_assoc]
    rw [bind_returns (lua_ok (popLuaError_top _)), bind_returns (lua_ok (Api.clear_ok _))]
    rfl

theorem getParameterValues_idle (hreference : 0 ≤ reference)
    (hengine : registry[reference.toNat]? = some (.table methods))
    (paths : List String) (revealSecrets : Bool)
    (hmethod : methods.get (.field "getParameterValues") = .function name) :
    answer border callee (.getParameterValues paths revealSecrets)
        (idle registry reference error upvalues) =
      ExceptT.mk (callee.call name (LuaRequest.getParameterValues paths revealSecrets).arguments
          upvalues >>= fun outcome =>
        pure (.ok ((LuaRequest.getParameterValues paths revealSecrets).read border outcome.1,
          idle registry reference ((LuaRequest.getParameterValues paths
            revealSecrets).lastErrorAfter error outcome.1) outcome.2))) := by
  simp only [answer, getParameterValues, bind_assoc]
  rw [bind_returns (pushFunction_ok hreference hengine hmethod)]
  simp only [Bool.not_true, Bool.false_eq_true, if_false, bind_assoc]
  rw [bind_returns (lua_ok (Api.push_ok _ (by simp [minStack]))),
    bind_returns (lua_ok (Api.fill_empty paths fun path before =>
      Api.push_ok (.string path) (by simp [minStack]))),
    bind_returns (lua_ok (Api.push_ok _ (by simp [minStack])))]
  refine protectedCall_idle callee
    [.table (Entries.sequence (paths.map .string)), .boolean revealSecrets] (by decide)
    ((LuaRequest.getParameterValues paths revealSecrets).read border)
    ((LuaRequest.getParameterValues paths revealSecrets).lastErrorAfter error) ?_ ?_
  -- two tables: the values and the paths that are unknown
  · intro results upvalues'
    rw [adjust_two]
    simp only [Bool.not_true, Bool.false_eq_true, if_false, bind_assoc]
    rw [bind_returns (lua_ok (collectTable_ok border (Api.value_second _ _) (by simp [minStack])
        fun entry => valueEntry_top entry (by simp [minStack]))),
      bind_returns (lua_ok (collectTable_ok border (Api.value_top _) (by simp [minStack])
        fun entry => pathEntry_top entry)),
      bind_returns (lua_ok (Api.clear_ok _))]
    rfl
  -- only here the message is kept
  · intro raised upvalues'
    simp only [Bool.not_false, if_true, bind_assoc]
    rw [bind_returns (lua_ok (popLuaError_top _)), bind_returns (setLastError_returns _),
      bind_returns (lua_ok (Api.clear_ok _))]
    rfl

/-- A call whose function could not be fetched. -/
theorem answer_unreached {self self' : LuaBinding σ} (request : LuaRequest)
    (h : pushFunction request.function self = pure (false, self')) :
    answer border callee request self = pure (request.unreached self'.lastError, self') := by
  cases request with
  | getParameterValues paths revealSecrets =>
      have hpush : pushFunction "getParameterValues" self = pure (false, self') := h
      simp only [answer, getParameterValues, bind_assoc]
      rw [bind_returns hpush]
      rfl
  | setParameterValues values parameterKey =>
      have hpush : pushFunction "setParameterValues" self = pure (false, self') := h
      simp only [answer, setParameterValues, bind_assoc]
      rw [bind_returns hpush]
      rfl
  | getParameterNames path =>
      have hpush : pushFunction "getParameterNames" self = pure (false, self') := h
      simp only [answer, getParameterNames, bind_assoc]
      rw [bind_returns hpush]
      rfl

/-- A method that the engine lacks. -/
theorem answer_missing (hreference : 0 ≤ reference)
    (hengine : registry[reference.toNat]? = some (.table methods)) {request : LuaRequest}
    (hmethod : (methods.get (.field request.function)).isFunction = false) :
    answer border callee request (idle registry reference error upvalues) =
      pure (request.unreached ("Transformer method missing: " ++ request.function),
        idle registry reference ("Transformer method missing: " ++ request.function)
          upvalues) := by
  have hpush : pushFunction request.function (idle registry reference error upvalues) =
      pure (false, idle registry reference ("Transformer method missing: " ++ request.function)
        upvalues) := by
    rw [idle, pushFunction_fetch hreference hengine, hmethod]
    rfl
  exact answer_unreached border callee request hpush

/-- A call is one call of the engine's function, with the marshalled arguments,
and the answer is read off its outcome. -/
theorem answer_loaded (hreference : 0 ≤ reference)
    (hengine : registry[reference.toNat]? = some (.table methods)) (request : LuaRequest)
    (hmethod : methods.get (.field request.function) = .function name) :
    answer border callee request (idle registry reference error upvalues) =
      ExceptT.mk (callee.call name request.arguments upvalues >>= fun outcome =>
        pure (.ok (request.read border outcome.1,
          idle registry reference (request.lastErrorAfter error outcome.1) outcome.2))) := by
  cases request with
  | getParameterValues paths revealSecrets =>
      exact getParameterValues_idle border callee hreference hengine paths revealSecrets hmethod
  | setParameterValues values parameterKey =>
      exact setParameterValues_idle border callee hreference hengine values parameterKey hmethod
  | getParameterNames path =>
      exact getParameterNames_idle border callee hreference hengine path hmethod

end Calls

end LuaBinding

end Tr069d
