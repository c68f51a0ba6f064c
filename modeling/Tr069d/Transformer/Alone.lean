import Tr069d.Transformer.Transaction

/-!
# The engine alone with UCI

One rule per function of `setParameterValues` that does not write, under
`uciEnv mayFail` and any faults: none of them changes the store.  So a call is
its verdict, and the transaction on one of the two backends
(`wp_setParameterValues_alone`).

A rule has the name of its function with `_alone` behind it.  The commands that write
have one as well, for the modules that look at a transaction without other clients.
-/

namespace Tr069d

open Effects

/-- Every call is allowed. -/
def anyCall : SystemCall → Prop :=
  fun _ => True

theorem wp_anyCall {α : Type} {env : Env system Store} (program : SystemProg α) (s : Store) :
    wp env anyCall program (fun _ _ => True) s := by
  induction program generalizing s with
  | done value => trivial
  | call c next ih => exact ⟨trivial, fun answer s' _ => ih answer s'⟩

/-- The mock database takes the writes of a batch as the store does. -/
theorem lookup_foldl_insert (written : List StagedValue) (values : Table) (key : String) :
    (written.foldl (fun values item => values.insert item.key item.value) values).lookup key =
      applyWrites written (fun k => values.lookup k) key := by
  induction written generalizing values with
  | nil => rfl
  | cons item rest ih =>
      rw [List.foldl_cons, ih, applyWrites_cons]
      refine applyWrites_congr rest ?_
      by_cases hkey : key = item.key
      · rw [hkey, Finmap.lookup_insert, Function.update_self]
      · rw [Finmap.lookup_insert_of_ne _ hkey, Function.update_of_ne hkey]

namespace Engine

variable {mayFail : SystemCall → Prop} {engine : Engine} {s : Store}

theorem wp_trace_alone {layer message : String} {post : Unit → Store → Prop} (h : post () s) :
    wp (uciEnv mayFail) anyCall (engine.trace layer message) post s := by
  unfold trace
  split_ifs
  · refine ⟨trivial, fun _ s' hs' => ?_⟩
    rw [hs']
    exact h
  · exact h

theorem wp_uciSet_alone {phase : Phase} {key value : String} {post : Bool → Store → Prop}
    (hset : post true (s.set key value))
    (hfailed : mayFail (.uciSet phase key value) → post false s) :
    wp (uciEnv mayFail) anyCall (@Prog.ask system (.uciSet phase key value)) post s := by
  rw [wp_ask]
  refine ⟨trivial, fun ok s' hcall => ?_⟩
  rcases hcall with ⟨rfl, rfl⟩ | ⟨hfail, rfl, rfl⟩
  · exact hset
  · exact hfailed hfail

/-- Whether an option that is not set can be deleted is left open. -/
theorem wp_uciDelete_alone {phase : Phase} {key : String} {post : Bool → Store → Prop}
    (hdeleted : ∀ ok, post ok (s.delete key)) (hkept : ∀ ok, post ok s) :
    wp (uciEnv mayFail) anyCall (@Prog.ask system (.uciDelete phase key)) post s := by
  rw [wp_ask]
  refine ⟨trivial, fun ok s' hcall => ?_⟩
  simp only [uciEnv] at hcall
  split_ifs at hcall
  · rcases hcall with rfl | rfl
    · exact hkept ok
    · exact hdeleted ok
  · rcases hcall with ⟨-, rfl⟩ | ⟨-, -, rfl⟩
    · exact hdeleted ok
    · exact hkept ok

theorem wp_uciCommit_alone {phase : Phase} {package : String} {post : Bool → Store → Prop}
    (hcommitted : post true (s.commit package))
    (hfailed : mayFail (.uciCommit phase package) → post false s) :
    wp (uciEnv mayFail) anyCall (@Prog.ask system (.uciCommit phase package)) post s := by
  rw [wp_ask]
  refine ⟨trivial, fun ok s' hcall => ?_⟩
  rcases hcall with ⟨rfl, rfl⟩ | ⟨hfail, rfl, rfl⟩
  · exact hcommitted
  · exact hfailed hfail

theorem wp_rawGet_alone (hmock : engine.mock = none) {phase : Phase} {key : String}
    {post : Option String → Store → Prop}
    (h : ∀ value, value = (s.view key).map printed ∨ value = none ∧ mayFail (.uciGet phase key) →
      post value s) :
    wp (uciEnv mayFail) anyCall (engine.rawGet phase key) post s := by
  unfold rawGet
  rw [hmock, wp_bind, wp_ask]
  refine ⟨trivial, fun value s' hget => ?_⟩
  rw [hget.1, wp_bind]
  refine wp_trace_alone (h value ?_)
  rcases hget.2 with hvalue | ⟨hfail, hvalue⟩
  · exact Or.inl hvalue
  · exact Or.inr ⟨hvalue, hfail⟩

theorem wp_notifyRuntimeReload_alone {post : Bool → Store → Prop} (h : ∀ ok, post ok s) :
    wp (uciEnv mayFail) anyCall engine.notifyRuntimeReload post s := by
  unfold notifyRuntimeReload
  rw [wp_bind]
  refine wp_trace_alone ?_
  rw [wp_bind, wp_ask]
  refine ⟨trivial, fun ok s₁ hs₁ => ?_⟩
  rw [hs₁]
  cases ok with
  | true =>
      rw [if_pos rfl, wp_bind]
      exact wp_trace_alone (h true)
  | false =>
      rw [if_neg Bool.false_ne_true, wp_bind]
      refine wp_trace_alone ?_
      rw [wp_bind, wp_ask]
      refine ⟨trivial, fun _ s₂ hs₂ => ?_⟩
      rw [hs₂]
      exact h false

theorem wp_stageItems_alone {items : List ParameterValue}
    {post : Except SetError (List StagedValue) → Store → Prop}
    (h : post (checkItems engine.model items) s) :
    wp (uciEnv mayFail) anyCall (engine.stageItems items) post s := by
  induction items generalizing post with
  | nil => exact h
  | cons item rest ih =>
      obtain ⟨message, hitem⟩ := engine.stageItem_eq item
      simp only [stageItems, hitem, bind_assoc, pure_bind, wp_bind]
      refine wp_trace_alone ?_
      simp only [checkItems] at h
      cases hcheck : checkItem engine.model item with
      | error error =>
          simp only [hcheck] at h
          exact h
      | ok staged =>
          simp only [hcheck] at h
          rw [wp_bind]
          refine ih ?_
          cases hrest : checkItems engine.model rest <;> simp only [hrest] at h <;> exact h

theorem wp_stageParameterKey_alone {parameterKey : String}
    {post : Except SetError StagedValue → Store → Prop}
    (h : post (checkParameterKey engine.model parameterKey) s) :
    wp (uciEnv mayFail) anyCall (engine.stageParameterKey parameterKey) post s := by
  simp only [stageParameterKey, checkParameterKey] at h ⊢
  -- the checks read nothing, so that only the traces have to be passed
  cases hlookup : engine.model.lookup parameterKeyPath with
  | none =>
      simp only [hlookup, wp_bind] at h ⊢
      exact wp_trace_alone h
  | some spec =>
      simp only [hlookup] at h ⊢
      obtain ⟨_, _, _, _, _, _, _, _, _, uci⟩ := spec
      cases uci with
      | none =>
          rw [wp_bind]
          exact wp_trace_alone h
      | some location =>
          dsimp only at h ⊢
          cases hvalue : normalize _ parameterKey with
          | error message =>
              simp only [hvalue] at h
              rw [wp_bind]
              exact wp_trace_alone h
          | ok value =>
              simp only [hvalue] at h
              exact h

/-- A call is refused, or it is the transaction of what validation accepted. -/
theorem wp_setParameterValues_alone {values : List ParameterValue} {parameterKey : String}
    {post : Except SetError Unit × Engine → Store → Prop}
    (hrefused : ∀ error, checkAll engine.model values parameterKey = .error error →
      post (.error error, engine) s)
    (hmock : ∀ mock staged normalizedKey, engine.mock = some mock →
      checkAll engine.model values parameterKey = .ok (staged ++ [normalizedKey]) →
      wp (uciEnv mayFail) anyCall (engine.commitMock mock staged normalizedKey) post s)
    (huci : ∀ staged normalizedKey, engine.mock = none →
      checkAll engine.model values parameterKey = .ok (staged ++ [normalizedKey]) →
      wp (uciEnv mayFail) anyCall (engine.commitStaged staged normalizedKey)
        (fun result => post (result, engine)) s) :
    wp (uciEnv mayFail) anyCall (engine.setParameterValues values parameterKey) post s := by
  unfold setParameterValues
  rw [wp_bind]
  refine wp_trace_alone ?_
  rw [wp_bind]
  refine wp_stageItems_alone ?_
  unfold checkAll at hrefused hmock huci
  cases hitems : checkItems engine.model values with
  | error error =>
      rw [hitems] at hrefused
      exact hrefused error rfl
  | ok staged =>
      dsimp only
      rw [wp_bind]
      refine wp_stageParameterKey_alone ?_
      cases hkey : checkParameterKey engine.model parameterKey with
      | error error =>
          rw [hitems, hkey] at hrefused
          exact hrefused error rfl
      | ok normalizedKey =>
          rw [hitems, hkey] at hmock huci
          dsimp only
          -- both backends take the same list, with the parameter key last
          cases hbackend : engine.mock with
          | some mock => exact hmock mock staged normalizedKey hbackend rfl
          | none =>
              rw [wp_bind]
              exact huci staged normalizedKey hbackend rfl

end Engine

end Tr069d
