import Tr069d.Session.RpcHandler
import Tr069d.Transformer.AllOrNothing

/-!
# What `GetParameterNames` answers

A path of the ACS is the full name of a parameter, or a partial path, which is
empty or ends in a dot and stands for what lies below it.  `engine.getParameterNames`
does not tell them apart: it returns every name that the path is a prefix of.
`NextLevel` is parsed, and neither `RpcHandler` nor the engine looks at it.

* `AnswersNames` is what CWMP asks of an answer, and `AtNextLevel` the names one level
  below a path.
* `PrefixSuffices` is the condition, on the map, the path and `NextLevel` only.
* `answersNames_iff` is the equivalence for the engine, `handle_getParameterNames_iff` the
  one for what the handler sends.
-/

namespace Tr069d

open Effects

def DeviceMap.names (model : DeviceMap) : List String :=
  model.parameters.map Prod.fst

/-! ## What is asked for -/

/-- The names exactly one level below a partial path. -/
inductive AtNextLevel (model : DeviceMap) (path : String) : String → Prop
  | parameter {component : String} (hcomponent : '.' ∉ component.toList)
      (hname : path ++ component ∈ model.names) : AtNextLevel model path (path ++ component)
  | partialPath {component rest : String} (hcomponent : '.' ∉ component.toList)
      (hname : path ++ component ++ "." ++ rest ∈ model.names) :
      AtNextLevel model path (path ++ component ++ ".")

/-- It is empty or ends in a dot. -/
def isPartialPath (path : String) : Prop :=
  path = "" ∨ ['.'] <:+ path.toList

instance (path : String) : Decidable (isPartialPath path) :=
  inferInstanceAs (Decidable (_ ∨ _))

/-- The names of an answer; a fault has none. -/
def answeredNames : Except String (List ParameterInfo) → List String
  | .ok names => names.map ParameterInfo.name
  | .error _ => []

/-- The answer is the one that CWMP asks for. -/
structure AnswersNames (model : DeviceMap) (path : String) (nextLevel : Bool)
    (answer : Except String (List ParameterInfo)) : Prop where
  /-- The names are sorted, and none occurs twice. -/
  sorted : (answeredNames answer).Pairwise (· < ·)
  full : path ∈ model.names → answeredNames answer = [path]
  below : path ∉ model.names → isPartialPath path → nextLevel = false →
    ∀ name, name ∈ answeredNames answer ↔ name ∈ model.names ∧ path.toList <+: name.toList
  next : path ∉ model.names → isPartialPath path → nextLevel = true →
    ∀ name, name ∈ answeredNames answer ↔ AtNextLevel model path name
  other : path ∉ model.names → ¬isPartialPath path → ∃ error, answer = .error error

/-! ## When the code agrees -/

/-- Where the names with the prefix are the names that are asked for. -/
structure PrefixSuffices (model : DeviceMap) (path : String) (nextLevel : Bool) : Prop where
  full : path ∈ model.names → ∀ name ∈ model.names, path.toList <+: name.toList → name = path
  next : path ∉ model.names → isPartialPath path → nextLevel = true →
    ∀ name ∈ model.names, path.toList <+: name.toList → AtNextLevel model path name
  other : path ∉ model.names → ¬isPartialPath path →
    ∀ name ∈ model.names, ¬path.toList <+: name.toList

/-- The embedded transformer on a system that answers its calls, where the log
and the clock belong to the system too. -/
def LuaTransformer.platform {σ : Type} (handler : (c : SystemCall) → σ → system.Answer c × σ)
    (log : LogLevel → String → StateM σ Unit) (isoTimeNow : StateM σ String) :
    Platform (LuaTransformer × σ) where
  toTransformerApi := LuaTransformer.api handler
  log level message := fun (transformer, s) => ((), (transformer, (log level message s).2))
  isoTimeNow := fun (transformer, s) => ((isoTimeNow s).1, (transformer, (isoTimeNow s).2))

/-- How an answer of the engine is sent. -/
def namesResult (id : String) : Except String (List ParameterInfo) → RpcResult
  | .ok names => { responseXml := SoapBuilder.getParameterNamesResponse id names }
  | .error error => { responseXml := SoapBuilder.fault id 9005 error }

/-! ## The names with a prefix -/

section Prefix

variable {σ : Type} {handler : (c : SystemCall) → σ → system.Answer c × σ}

/-- The names that the engine finds, sorted. -/
def foundNames (model : DeviceMap) (path : String) : List ParameterInfo :=
  ((model.parameters.filter fun entry => path.toList <+: entry.1.toList).map fun entry =>
    ParameterInfo.mk entry.1 (entry.2.access == .readWrite)).mergeSort fun a b => a.name ≤ b.name

/-- What the engine answers does not depend on the system. -/
theorem run_getParameterNames (engine : Engine) (path : String) (s : σ) :
    ((engine.getParameterNames path).run handler s).1 =
      if (foundNames engine.model path).isEmpty then
        .error ("unknown parameter or object: " ++ path)
      else .ok (foundNames engine.model path) := by
  unfold Engine.getParameterNames foundNames
  simp only [Prog.run_bind]
  split <;> simp

theorem answeredNames_run (engine : Engine) (path : String) (s : σ) :
    answeredNames ((engine.getParameterNames path).run handler s).1 =
      (foundNames engine.model path).map ParameterInfo.name := by
  rw [run_getParameterNames]
  split
  · rename_i hempty
    rw [List.isEmpty_iff.mp hempty]
    rfl
  · rfl

theorem mem_foundNames_iff {model : DeviceMap} {path name : String} :
    name ∈ (foundNames model path).map ParameterInfo.name ↔
      name ∈ model.names ∧ path.toList <+: name.toList := by
  simp only [foundNames, List.mem_map, List.mem_mergeSort, List.mem_filter, DeviceMap.names]
  constructor
  · rintro ⟨_, ⟨entry, ⟨hmem, hprefix⟩, rfl⟩, rfl⟩
    exact ⟨⟨entry, hmem, rfl⟩, of_decide_eq_true hprefix⟩
  · rintro ⟨⟨entry, hmem, rfl⟩, hprefix⟩
    exact ⟨_, ⟨entry, ⟨hmem, decide_eq_true hprefix⟩, rfl⟩, rfl⟩

/-- They are sorted, and the keys of a table do not repeat. -/
theorem pairwise_foundNames (model : DeviceMap) (path : String) :
    ((foundNames model path).map ParameterInfo.name).Pairwise (· < ·) := by
  have hsorted : ((foundNames model path).map ParameterInfo.name).Pairwise (· ≤ ·) := by
    rw [List.pairwise_map]
    refine (List.pairwise_mergeSort ?_ ?_ _).imp fun hle => of_decide_eq_true hle
    · intro a b c hab hbc
      exact decide_eq_true (String.le_trans (of_decide_eq_true hab) (of_decide_eq_true hbc))
    · intro a b
      simpa using String.le_total a.name b.name
  have hnodup : ((foundNames model path).map ParameterInfo.name).Nodup := by
    have hperm : ((foundNames model path).map ParameterInfo.name).Perm
        ((model.parameters.filter fun entry => path.toList <+: entry.1.toList).map Prod.fst) := by
      refine ((List.mergeSort_perm _ _).map _).trans (List.Perm.of_eq ?_)
      rw [List.map_map]
      rfl
    exact hperm.nodup_iff.mpr (model.nodup.sublist (List.filter_sublist.map _))
  refine hsorted.imp₂ (fun name other hle hne => ?_) hnodup
  exact String.not_le.mp fun hge => hne (String.le_antisymm hle hge)

theorem pairwise_lt_eq_singleton {names : List String} {name : String}
    (hsorted : names.Pairwise (· < ·)) (hmem : ∀ other, other ∈ names ↔ other = name) :
    names = [name] := by
  have hnodup : names.Nodup := hsorted.imp fun hlt => String.ne_of_lt hlt
  have hperm : names.Perm [name] := by
    rw [List.perm_ext_iff_of_nodup hnodup (List.nodup_singleton name)]
    simpa using hmem
  exact List.perm_singleton.mp hperm

end Prefix

/-! ## The answers to the ACS -/

/-- Below a path without deeper names, the names one level below it are its own. -/
theorem atNextLevel_iff {model : DeviceMap} {path name : String}
    (hflat : ∀ name ∈ model.names, path.toList <+: name.toList → AtNextLevel model path name) :
    name ∈ model.names ∧ path.toList <+: name.toList ↔ AtNextLevel model path name := by
  constructor
  · rintro ⟨hmem, hprefix⟩
    exact hflat name hmem hprefix
  · rintro (⟨hcomponent, hname⟩ | @⟨component, rest, hcomponent, hname⟩)
    · exact ⟨hname, by simp⟩
    · -- what lies deeper is not flat, so that the partial path is a name itself
      have hlevel := hflat _ hname (by simp)
      suffices hrest : rest = "" by
        subst hrest
        simpa using hname
      generalize hlonger : path ++ component ++ "." ++ rest = longer at hlevel
      cases hlevel with
      | @parameter component' hcomponent' _ =>
          have hsplit : component.toList ++ '.' :: rest.toList = component'.toList := by
            simpa using congrArg String.toList hlonger
          exact absurd (hsplit ▸ by simp) hcomponent'
      | @partialPath component' rest' hcomponent' _ =>
          have hsplit : component.toList ++ '.' :: rest.toList = component'.toList ++ ['.'] := by
            simpa using congrArg String.toList hlonger
          have hsame := (List.append_cons_inj_of_notMem hcomponent' List.not_mem_nil).mp hsplit.symm
          exact String.toList_eq_nil_iff.mp hsame.2.2.symm

section Answers

variable {σ : Type} {handler : (c : SystemCall) → σ → system.Answer c × σ}

/-- The engine answers as it is asked exactly where the prefix suffices. -/
theorem answersNames_iff (engine : Engine) (path : String) (nextLevel : Bool) (s : σ) :
    AnswersNames engine.model path nextLevel ((engine.getParameterNames path).run handler s).1 ↔
      PrefixSuffices engine.model path nextLevel := by
  -- the code answers the names that begin with the path, sorted
  have hmem : ∀ name, name ∈ answeredNames ((engine.getParameterNames path).run handler s).1 ↔
      name ∈ engine.model.names ∧ path.toList <+: name.toList := by
    intro name
    rw [answeredNames_run]
    exact mem_foundNames_iff
  have hsorted : (answeredNames
      ((engine.getParameterNames path).run handler s).1).Pairwise (· < ·) := by
    rw [answeredNames_run]
    exact pairwise_foundNames engine.model path
  constructor
  -- an answer that is right leaves no room for further names with that prefix
  · intro h
    refine ⟨fun hfull name hname hprefix => ?_, fun hother hpartial hnext name hname hprefix => ?_,
      fun hother hpartial name hname hprefix => ?_⟩
    · have hanswered := (hmem name).mpr ⟨hname, hprefix⟩
      rw [h.full hfull] at hanswered
      exact List.mem_singleton.mp hanswered
    · exact (h.next hother hpartial hnext name).mp ((hmem name).mpr ⟨hname, hprefix⟩)
    · obtain ⟨error, herror⟩ := h.other hother hpartial
      have hanswered := (hmem name).mpr ⟨hname, hprefix⟩
      rw [herror] at hanswered
      exact List.not_mem_nil hanswered
  -- where the prefix suffices, the filter is what was asked for
  · intro h
    refine ⟨hsorted, fun hfull => ?_, fun hother hpartial hnext => hmem,
      fun hother hpartial hnext name => ?_, fun hother hpartial => ?_⟩
    · refine pairwise_lt_eq_singleton hsorted fun name => (hmem name).trans ?_
      constructor
      · rintro ⟨hname, hprefix⟩
        exact h.full hfull name hname hprefix
      · rintro rfl
        exact ⟨hfull, List.prefix_rfl⟩
    · exact (hmem name).trans (atNextLevel_iff (h.next hother hpartial hnext))
    · have hnone : foundNames engine.model path = [] := by
        rw [← List.map_eq_nil_iff (f := ParameterInfo.name), List.eq_nil_iff_forall_not_mem]
        intro name hname
        obtain ⟨hmodel, hprefix⟩ := mem_foundNames_iff.mp hname
        exact h.other hother hpartial name hmodel hprefix
      exact ⟨_, by rw [run_getParameterNames, hnone]; rfl⟩

/-- `LuaTransformer` reports an error by its text, which is not empty. -/
theorem namesResult_run (engine : Engine) (lastError id path : String) (s : σ) :
    namesResult id ((engine.getParameterNames path).run handler s).1 =
      let result := ((LuaTransformer.getParameterNames ⟨some engine, lastError⟩ path).run
        handler s).1
      { responseXml :=
          if result.2 == "" then SoapBuilder.getParameterNamesResponse id result.1
          else SoapBuilder.fault id 9005 result.2 } := by
  have herror : ("unknown parameter or object: " ++ path == "") = false := by
    simp [← String.toList_inj]
  simp only [LuaTransformer.getParameterNames, Prog.run_bind, run_getParameterNames]
  split
  · simp [namesResult, herror]
  · simp [namesResult]

/-- `GetParameterNames` answers what CWMP asks for exactly where the prefix suffices. -/
theorem handle_getParameterNames_iff (log : LogLevel → String → StateM σ Unit)
    (isoTimeNow : StateM σ String) (engine : Engine) (lastError : String) (s s' : σ)
    (rpc : ParsedRpc) (hmethod : rpc.method = "GetParameterNames") :
    let answer := ((engine.getParameterNames rpc.parameterPath).run handler s').1
    (RpcHandler.handle (LuaTransformer.platform handler log isoTimeNow) rpc
        (⟨some engine, lastError⟩, s)).1 =
      namesResult (if rpc.cwmpId == "" then "0" else rpc.cwmpId) answer ∧
    (AnswersNames engine.model rpc.parameterPath rpc.nextLevel answer ↔
      PrefixSuffices engine.model rpc.parameterPath rpc.nextLevel) := by
  refine ⟨?_, answersNames_iff engine rpc.parameterPath rpc.nextLevel s'⟩
  unfold RpcHandler.handle
  rw [if_neg (by rw [hmethod]; decide), if_pos hmethod]
  unfold RpcHandler.getParameterNames
  simp only [bind, StateT.bind, pure, LuaTransformer.platform, LuaTransformer.api]
  -- the log may change the system before the engine is asked
  rw [← namesResult_run, run_getParameterNames, run_getParameterNames]
  rfl

end Answers

/-- The URL of the ACS is a prefix of no other name. -/
theorem names_of_url :
    let rpc : ParsedRpc :=
      { method := "GetParameterNames", parameterPath := "Device.ManagementServer.URL" }
    let answer := ((plainEngine.toEngine.getParameterNames rpc.parameterPath).run uciHandler
      (.ofCommitted fun _ => none)).1
    AnswersNames deviceMap rpc.parameterPath false answer := by
  intro rpc answer
  have hsuffices : PrefixSuffices deviceMap rpc.parameterPath false :=
    ⟨fun _ => by decide, nofun, fun hother => absurd (by decide) hother⟩
  exact (handle_getParameterNames_iff (fun _ _ => pure ()) (pure "") plainEngine.toEngine ""
    (Store.ofCommitted fun _ => none) (Store.ofCommitted fun _ => none) rpc rfl).2.mpr hsuffices

/-- `Manufacturer` is also a prefix of `ManufacturerOUI`, and `NextLevel` is ignored. -/
theorem names_of_manufacturer :
    let answer path := ((plainEngine.toEngine.getParameterNames path).run uciHandler
      (.ofCommitted fun _ => none)).1
    ¬AnswersNames deviceMap "Device.DeviceInfo.Manufacturer" false
        (answer "Device.DeviceInfo.Manufacturer") ∧
      ¬AnswersNames deviceMap "Device." true (answer "Device.") := by
  have hiff := fun path nextLevel => @answersNames_iff _ uciHandler plainEngine.toEngine path
    nextLevel (.ofCommitted fun _ => none)
  refine ⟨fun h => ?_, fun h => ?_⟩
  · have hsuffices : PrefixSuffices deviceMap "Device.DeviceInfo.Manufacturer" false :=
      (hiff _ _).mp h
    have hfull := hsuffices.full (by decide) "Device.DeviceInfo.ManufacturerOUI"
      (by decide) (by decide)
    exact absurd hfull (by decide)
  · have hsuffices : PrefixSuffices deviceMap "Device." true := (hiff _ _).mp h
    have hlevel := hsuffices.next (by decide) (by decide) rfl
      "Device.ManagementServer.URL" (by decide) (by decide)
    -- `ManagementServer.URL` has a dot inside, so it is not one level below
    generalize hname : "Device.ManagementServer.URL" = name at hlevel
    cases hlevel with
    | @parameter component hcomponent _ =>
        have hrest : component.toList = "ManagementServer.URL".toList := by
          simpa using (congrArg String.toList hname).symm
        rw [hrest] at hcomponent
        exact hcomponent (by decide)
    | @partialPath component rest _ _ =>
        have hlast : ['.'] <:+ "Device.ManagementServer.URL".toList := by
          rw [hname]
          exact ⟨("Device." ++ component).toList, by simp⟩
        exact absurd hlast (by decide)

end Tr069d
