import Tr069d.Transformer.Validation

/-!
# The transaction of `setParameterValues`

One rule per function of the UCI branch, under `regionEnv keys mayFail`: UCI as
far as the keys of the batch go, with other clients free to do what they want
elsewhere.  The faults are those of `SafeRollback`: any forward `set`, any
`commit` and any read-back may fail, but the reads that save the originals and
the writes of the rollback do not.

The argument follows the store through the transaction.  `saveOriginals` records
the view of every key the batch touches (`Saved`); a forward `set` changes the
view of those keys only; so wherever the transaction stops, `restoreLoop` leads
back to the view it started in (`wp_restoreLoop`).
-/

namespace Tr069d

open Effects

/-- The calls that never fail: the reads and writes a rollback relies on. -/
structure SafeRollback (mayFail : SystemCall → Prop) : Prop where
  lookup : ∀ key, ¬ mayFail (.uciGet .lookup key)
  set : ∀ key value, ¬ mayFail (.uciSet .rollback key value)
  delete : ∀ key, ¬ mayFail (.uciDelete .rollback key)

/-- No fault on the way to success. -/
structure NoForwardFaults (mayFail : SystemCall → Prop) : Prop where
  set : ∀ key value, ¬ mayFail (.uciSet .forward key value)
  commit : ∀ package, ¬ mayFail (.uciCommit .forward package)
  readBack : ∀ key, ¬ mayFail (.uciGet .readBack key)

/-- The view after the sets of the staged values, in order. -/
def applyWrites (staged : List StagedValue) (view : String → Option String) :
    String → Option String :=
  staged.foldl (fun view item => Function.update view item.key (some item.value)) view

theorem applyWrites_cons (item : StagedValue) (rest : List StagedValue)
    (view : String → Option String) :
    applyWrites (item :: rest) view =
      applyWrites rest (Function.update view item.key (some item.value)) := rfl

theorem applyWrites_of_not_mem {staged : List StagedValue} {k : String}
    (hk : k ∉ staged.map StagedValue.key) (view : String → Option String) :
    applyWrites staged view k = view k := by
  induction staged generalizing view with
  | nil => rfl
  | cons item rest ih =>
      rw [List.map_cons, List.mem_cons, not_or] at hk
      rw [applyWrites_cons, ih hk.2, Function.update_of_ne hk.1]

/-- A key of the batch ends with the value of one of its items. -/
theorem exists_applyWrites_eq {staged : List StagedValue} {k : String}
    (hk : k ∈ staged.map StagedValue.key) (view : String → Option String) :
    ∃ item ∈ staged, item.key = k ∧ applyWrites staged view k = some item.value := by
  induction staged generalizing view with
  | nil => simp at hk
  | cons item rest ih =>
      rw [applyWrites_cons]
      by_cases hrest : k ∈ rest.map StagedValue.key
      · obtain ⟨last, hmem, hkey, hvalue⟩ := ih hrest (Function.update view item.key item.value)
        exact ⟨last, List.mem_cons_of_mem _ hmem, hkey, hvalue⟩
      · have hitem : item.key = k := by
          rw [List.map_cons, List.mem_cons] at hk
          exact (hk.resolve_right hrest).symm
        refine ⟨item, List.mem_cons_self .., hitem, ?_⟩
        rw [applyWrites_of_not_mem hrest, hitem, Function.update_self]

/-- Writing reads the old view at the same keys only. -/
theorem applyWrites_congr (staged : List StagedValue) {view view' : String → Option String}
    {k : String} (h : view k = view' k) :
    applyWrites staged view k = applyWrites staged view' k := by
  induction staged generalizing view view' with
  | nil => exact h
  | cons item rest ih =>
      rw [applyWrites_cons, applyWrites_cons]
      refine ih ?_
      by_cases hk : k = item.key <;> simp [Function.update, hk, h]

/-- The saved originals are what `store` shows at their keys. -/
def Saved (keys : String → Prop) (store : Store) (originals : Engine.Originals) : Prop :=
  ∀ entry ∈ originals, keys entry.1 ∧ entry.2 = (store.view entry.1).map printed

namespace Engine

variable {keys : String → Prop} {mayFail : SystemCall → Prop} {engine : Engine} {s : Store}

/-! ## Single commands -/

theorem wp_trace {layer message : String} {post : Unit → Store → Prop}
    (h : ∀ s', SameOn keys s s' → post () s') :
    wp (regionEnv keys mayFail) (Within keys) (engine.trace layer message) post s := by
  unfold trace
  split_ifs
  · exact ⟨trivial, fun _ s' hs' => h s' hs'⟩
  · exact h s (.refl _ _)

theorem wp_rawGet (hmock : engine.mock = none) {phase : Phase} {key : String} (hkey : keys key)
    {post : Option String → Store → Prop}
    (h : ∀ s', SameOn keys s s' → post ((s.view key).map printed) s')
    (hfail : mayFail (.uciGet phase key) → ∀ s', SameOn keys s s' → post none s') :
    wp (regionEnv keys mayFail) (Within keys) (engine.rawGet phase key) post s := by
  unfold rawGet
  rw [hmock, wp_bind, wp_ask]
  refine ⟨trivial, fun answer s₁ hget => ?_⟩
  rw [wp_bind]
  refine wp_trace fun s₂ hs₂ => ?_
  rcases hget.2 hkey with rfl | ⟨hmayFail, rfl⟩
  · exact h s₂ (hget.1.trans hs₂)
  · exact hfail hmayFail s₂ (hget.1.trans hs₂)

theorem wp_notifyRuntimeReload {post : Bool → Store → Prop}
    (h : ∀ ok s', SameOn keys s s' → post ok s') :
    wp (regionEnv keys mayFail) (Within keys) engine.notifyRuntimeReload post s := by
  unfold notifyRuntimeReload
  rw [wp_bind]
  refine wp_trace fun s₁ hs₁ => ?_
  rw [wp_bind, wp_ask]
  refine ⟨trivial, fun ok s₂ hs₂ => ?_⟩
  cases ok with
  | true =>
      rw [if_pos rfl, wp_bind]
      exact wp_trace fun s₃ hs₃ => h _ _ ((hs₁.trans hs₂).trans hs₃)
  | false =>
      rw [if_neg Bool.false_ne_true, wp_bind]
      refine wp_trace fun s₃ hs₃ => ?_
      exact ⟨trivial, fun _ s₄ hs₄ => h _ _ (((hs₁.trans hs₂).trans hs₃).trans hs₄)⟩

/-! ## Validation -/

theorem wp_stageItems {items : List ParameterValue}
    {post : Except SetError (List StagedValue) → Store → Prop}
    (h : ∀ s', SameOn keys s s' → post (checkItems engine.model items) s') :
    wp (regionEnv keys mayFail) (Within keys) (engine.stageItems items) post s := by
  induction items generalizing s post with
  | nil => exact h s (.refl _ _)
  | cons item rest ih =>
      obtain ⟨message, hitem⟩ := engine.stageItem_eq item
      simp only [stageItems, hitem, bind_assoc, pure_bind, wp_bind]
      refine wp_trace fun s₁ hs₁ => ?_
      simp only [checkItems] at h
      cases hcheck : checkItem engine.model item with
      | error error =>
          simp only [hcheck] at h
          exact h s₁ hs₁
      | ok staged =>
          simp only [hcheck] at h
          rw [wp_bind]
          refine ih fun s₂ hs₂ => ?_
          have hpost := h s₂ (hs₁.trans hs₂)
          cases hrest : checkItems engine.model rest <;> simp only [hrest] at hpost <;> exact hpost

theorem wp_stageParameterKey {parameterKey : String}
    {post : Except SetError StagedValue → Store → Prop}
    (h : ∀ s', SameOn keys s s' → post (checkParameterKey engine.model parameterKey) s') :
    wp (regionEnv keys mayFail) (Within keys) (engine.stageParameterKey parameterKey) post s := by
  simp only [stageParameterKey, checkParameterKey] at h ⊢
  -- the checks read nothing, so that only the traces have to be passed
  cases hlookup : engine.model.lookup parameterKeyPath with
  | none =>
      simp only [hlookup, wp_bind] at h ⊢
      exact wp_trace h
  | some spec =>
      simp only [hlookup] at h ⊢
      obtain ⟨_, _, _, _, _, _, _, _, _, uci⟩ := spec
      cases uci with
      | none =>
          rw [wp_bind]
          exact wp_trace h
      | some location =>
          dsimp only at h ⊢
          cases hvalue : normalize _ parameterKey with
          | error message =>
              simp only [hvalue] at h
              rw [wp_bind]
              exact wp_trace h
          | ok value =>
              simp only [hvalue] at h
              exact h s (.refl _ _)

/-! ## Saving and restoring -/

theorem wp_saveOriginal (hmock : engine.mock = none) (hfaults : SafeRollback mayFail)
    {base : Store} {key : String} (hkey : keys key) {originals : Originals}
    (hsame : SameOn keys base s) (hsaved : Saved keys base originals) :
    wp (regionEnv keys mayFail) (Within keys) (engine.saveOriginal key originals)
      (fun originals' s' => SameOn keys base s' ∧ Saved keys base originals' ∧
        ∀ k, k ∈ originals'.map Prod.fst ↔ k ∈ originals.map Prod.fst ∨ k = key) s := by
  unfold saveOriginal
  split_ifs with hmem
  · refine ⟨hsame, hsaved, fun k => ⟨Or.inl, fun hk => ?_⟩⟩
    rcases hk with hk | rfl
    · exact hk
    · exact hmem
  · rw [wp_bind]
    refine wp_rawGet hmock hkey (fun s₁ hs₁ =>
      ⟨hsame.trans hs₁, fun entry hentry => ?_, fun k => ?_⟩)
      (fun hfail => absurd hfail (hfaults.lookup _))
    · rcases List.mem_append.mp hentry with hentry | hentry
      · exact hsaved entry hentry
      · rw [List.mem_singleton.mp hentry, hsame.view hkey]
        exact ⟨hkey, rfl⟩
    · rw [List.map_append, List.mem_append, List.map_singleton, List.mem_singleton]

theorem wp_saveOriginals (hmock : engine.mock = none) (hfaults : SafeRollback mayFail)
    {base : Store} {staged : List StagedValue} (hkeys : ∀ item ∈ staged, keys item.key)
    {originals : Originals} (hsame : SameOn keys base s) (hsaved : Saved keys base originals) :
    wp (regionEnv keys mayFail) (Within keys) (engine.saveOriginals staged originals)
      (fun originals' s' => SameOn keys base s' ∧ Saved keys base originals' ∧
        ∀ k, k ∈ originals'.map Prod.fst ↔
          k ∈ originals.map Prod.fst ∨ k ∈ staged.map StagedValue.key) s := by
  induction staged generalizing originals s with
  | nil => exact ⟨hsame, hsaved, by simp⟩
  | cons item rest ih =>
      rw [saveOriginals, wp_bind]
      refine wp_mono (wp_saveOriginal hmock hfaults (hkeys item (List.mem_cons_self ..)) hsame
        hsaved) ?_
      rintro originals₁ s₁ ⟨hs₁, hsaved₁, hitem⟩
      rw [wp_bind]
      refine wp_trace fun s₂ hs₂ => ?_
      refine wp_mono (ih (fun other hother => hkeys other (List.mem_cons_of_mem _ hother))
        (hs₁.trans hs₂) hsaved₁) ?_
      rintro originals' s' ⟨hs', hsaved', hrest⟩
      refine ⟨hs', hsaved', fun k => ?_⟩
      rw [hrest, hitem, List.map_cons, List.mem_cons, or_assoc]

/-- The rollback leads to any view that its entries describe. -/
theorem wp_restoreLoop (hfaults : SafeRollback mayFail) {target : String → Option String}
    {entries : Originals} (hentries : ∀ entry ∈ entries, keys entry.1 ∧ entry.2 = target entry.1)
    (hother : ∀ k, keys k → k ∉ entries.map Prod.fst → s.view k = target k) :
    wp (regionEnv keys mayFail) (Within keys) (engine.restoreLoop entries)
      (fun _ s' => ∀ k, keys k → s'.view k = target k) s := by
  induction entries generalizing s with
  | nil => exact fun k hk => hother k hk (by simp)
  | cons entry rest ih =>
      obtain ⟨key, value⟩ := entry
      obtain ⟨⟨hkey, hvalue⟩, hrest⟩ := List.forall_mem_cons.mp hentries
      -- whatever the command, it makes the view of `key` that of `target`
      have hnext : ∀ s₁ s₂ : Store, SameOn keys s s₁ →
          (∀ k, keys k → s₂.view k = Function.update s₁.view key (target key) k) →
          wp (regionEnv keys mayFail) (Within keys) (engine.restoreLoop rest)
            (fun _ s' => ∀ k, keys k → s'.view k = target k) s₂ := by
        intro s₁ s₂ hs₁ hview
        refine ih hrest fun k hk hmem => ?_
        rw [hview k hk]
        by_cases heq : k = key
        · rw [heq, Function.update_self]
        · rw [Function.update_of_ne heq, hs₁.view hk]
          refine hother k hk ?_
          rw [List.map_cons, List.mem_cons, not_or]
          exact ⟨heq, hmem⟩
      rw [restoreLoop, wp_bind]
      dsimp only at hvalue
      cases value with
      | none =>
          rw [restoreOriginal, wp_bind]
          refine wp_trace fun s₁ hs₁ => ?_
          rw [wp_bind, wp_ask]
          refine ⟨hkey, fun _ s₂ hdelete => ?_⟩
          rcases hdelete with hview | ⟨hfail, _⟩
          · exact hnext s₁ s₂ hs₁ (by rwa [← hvalue])
          · exact absurd hfail (hfaults.delete _)
      | some original =>
          rw [restoreOriginal, wp_bind]
          refine wp_trace fun s₁ hs₁ => ?_
          rw [wp_bind, wp_ask]
          refine ⟨hkey, fun _ s₂ hset => ?_⟩
          rcases hset with ⟨_, hview⟩ | ⟨hfail, _⟩
          · exact hnext s₁ s₂ hs₁ (by rwa [← hvalue])
          · exact absurd hfail (hfaults.set _ _)

theorem wp_restoreOriginals (hfaults : SafeRollback mayFail) {target : String → Option String}
    {count : Nat} {originals : Originals}
    (hentries : ∀ entry ∈ originals, keys entry.1 ∧ entry.2 = target entry.1)
    (hother : ∀ k, keys k → k ∉ originals.map Prod.fst → s.view k = target k) :
    wp (regionEnv keys mayFail) (Within keys) (engine.restoreOriginals count originals)
      (fun _ s' => (∀ k, keys k → s'.view k = target k) ∧
        (¬ mayFail (.uciCommit .rollback "tr69") →
          FlushedOn (fun k => keys k ∧ inPackage "tr69" k) s')) s := by
  -- `pairs` may give the originals in any order
  have hperm := engine.pairs.perm originals
  have hordered : ∀ entry ∈ engine.pairs.order originals,
      keys entry.1 ∧ entry.2 = target entry.1 :=
    fun entry hentry => hentries entry (hperm.mem_iff.mp hentry)
  unfold restoreOriginals
  rw [wp_bind]
  refine wp_trace fun s₁ hs₁ => ?_
  rw [wp_bind]
  refine wp_mono (wp_restoreLoop hfaults hordered fun k hk hmem => ?_) ?_
  · rw [hs₁.view hk]
    exact hother k hk fun hmem' => hmem ((hperm.map Prod.fst).mem_iff.mpr hmem')
  · intro _ s₂ hs₂
    rw [wp_bind, wp_ask]
    refine ⟨rfl, fun ok s₃ hcommit => wp_trace fun s₄ hs₄ => ?_⟩
    -- the values are back in any case, the commit decides whether they are in the file
    rcases hcommit with ⟨_, hs₃, hflushed⟩ | ⟨hfail, _, hs₃⟩
    · exact ⟨fun k hk => ((hs₃.trans hs₄).view hk).trans (hs₂ k hk),
        fun _ => hs₄.flushedOn hflushed⟩
    · exact ⟨fun k hk => ((hs₃.trans hs₄).view hk).trans (hs₂ k hk),
        fun hsafe => absurd hfail hsafe⟩

/-! ## Setting and reading back -/

theorem wp_setStaged {item : StagedValue} (hkey : keys item.key) {post : Bool → Store → Prop}
    (hset : ∀ s', (∀ k, keys k → s'.view k =
      Function.update s.view item.key (some item.value) k) → post true s')
    (hfail : mayFail (.uciSet .forward item.key item.value) →
      ∀ s', SameOn keys s s' → post false s') :
    wp (regionEnv keys mayFail) (Within keys) (engine.setStaged item) post s := by
  unfold setStaged
  rw [wp_bind]
  refine wp_trace fun s₁ hs₁ => ?_
  rw [wp_bind, wp_ask]
  refine ⟨hkey, fun ok s₂ hs₂ => ?_⟩
  rw [wp_bind]
  refine wp_trace fun s₃ hs₃ => ?_
  rcases hs₂ with ⟨rfl, hview⟩ | ⟨hmayFail, rfl, hs₂⟩
  · refine hset s₃ fun k hk => ?_
    rw [hs₃.view hk, hview k hk]
    by_cases heq : k = item.key <;> simp [Function.update, heq, hs₁.view hk]
  · exact hfail hmayFail s₃ ((hs₁.trans hs₂).trans hs₃)

/-- The forward sets either all happen, or stop inside the keys of the batch. -/
theorem wp_setAll {staged : List StagedValue} (hkeys : ∀ item ∈ staged, keys item.key) :
    wp (regionEnv keys mayFail) (Within keys) (engine.setAll staged)
      (fun failed s' =>
        (failed = none → ∀ k, keys k → s'.view k = applyWrites staged s.view k) ∧
        (∀ k, keys k → k ∉ staged.map StagedValue.key → s'.view k = s.view k) ∧
        (NoForwardFaults mayFail → failed = none)) s := by
  -- on the batch, from whatever store the earlier items have left
  induction staged generalizing s with
  | nil => exact ⟨fun _ _ _ => rfl, fun _ _ _ => rfl, fun _ => rfl⟩
  | cons item rest ih =>
      have hrest : ∀ other ∈ rest, keys other.key :=
        fun other hother => hkeys other (List.mem_cons_of_mem _ hother)
      rw [setAll, wp_bind]
      refine wp_setStaged (hkeys item (List.mem_cons_self ..)) (fun s₁ hview => ?_)
        (fun hmayFail s₁ hs₁ => ?_)
      · rw [if_pos rfl]
        refine wp_mono (ih hrest) ?_
        rintro failed s' ⟨hall, hother, hsucceeds⟩
        refine ⟨fun hnone k hk => ?_, fun k hk hmem => ?_, hsucceeds⟩
        · rw [hall hnone k hk, applyWrites_cons]
          exact applyWrites_congr rest (hview k hk)
        · rw [List.map_cons, List.mem_cons, not_or] at hmem
          rw [hother k hk hmem.2, hview k hk, Function.update_of_ne hmem.1]
      · rw [if_neg Bool.false_ne_true]
        exact ⟨fun hnone => (Option.some_ne_none _ hnone).elim, fun k hk _ => hs₁.view hk,
          fun hfree => absurd hmayFail (hfree.set _ _)⟩

theorem wp_readBack (hmock : engine.mock = none) {item : StagedValue} (hkey : keys item.key) :
    wp (regionEnv keys mayFail) (Within keys) (engine.readBack item)
      (fun ok s' => SameOn keys s s' ∧
        (ok = true → (s.view item.key).map printed = some item.value) ∧
        (NoForwardFaults mayFail → (s.view item.key).map printed = some item.value →
          ok = true)) s := by
  unfold readBack
  rw [wp_bind]
  refine wp_rawGet hmock hkey (fun s₁ hs₁ => ?_) (fun hmayFail s₁ hs₁ => ?_)
  · rw [wp_bind]
    exact wp_trace fun s₂ hs₂ => ⟨hs₁.trans hs₂, eq_of_beq, fun _ => beq_of_eq⟩
  · rw [wp_bind]
    exact wp_trace fun s₂ hs₂ =>
      ⟨hs₁.trans hs₂, fun hok => (nomatch hok), fun hfree => absurd hmayFail (hfree.readBack _)⟩

theorem wp_readBackAll (hmock : engine.mock = none) {staged : List StagedValue}
    (hkeys : ∀ item ∈ staged, keys item.key) :
    wp (regionEnv keys mayFail) (Within keys) (engine.readBackAll staged)
      (fun failed s' => SameOn keys s s' ∧
        (failed = none → ∀ item ∈ staged, (s.view item.key).map printed = some item.value) ∧
        (NoForwardFaults mayFail →
          (∀ item ∈ staged, (s.view item.key).map printed = some item.value) →
          failed = none)) s := by
  -- reading changes nothing, so each item is read at the same store
  induction staged generalizing s with
  | nil => exact ⟨.refl _ _, fun _ => by simp, fun _ _ => rfl⟩
  | cons item rest ih =>
      have hitem : keys item.key := hkeys item (List.mem_cons_self ..)
      have hrest : ∀ other ∈ rest, keys other.key :=
        fun other hother => hkeys other (List.mem_cons_of_mem _ hother)
      rw [readBackAll, wp_bind]
      refine wp_mono (wp_readBack hmock hitem) ?_
      rintro ok s₁ ⟨hs₁, hread, hreads⟩
      split_ifs with hok
      · refine wp_mono (ih hrest) ?_
        rintro failed s' ⟨hs', hall, hsucceeds⟩
        refine ⟨hs₁.trans hs', fun hnone => List.forall_mem_cons.mpr ⟨hread hok, ?_⟩,
          fun hfree hvalues => hsucceeds hfree ?_⟩
        · intro other hother
          rw [← hs₁.view (hrest other hother)]
          exact hall hnone other hother
        · intro other hother
          rw [hs₁.view (hrest other hother)]
          exact hvalues other (List.mem_cons_of_mem _ hother)
      · exact ⟨hs₁, fun hnone => (Option.some_ne_none _ hnone).elim,
          fun hfree hvalues => absurd (hreads hfree (hvalues item (List.mem_cons_self ..))) hok⟩

/-- Each value of the batch reads back from the view that the batch leads to. -/
def ReadsBack (written : List StagedValue) (view : String → Option String) : Prop :=
  ∀ item ∈ written, (applyWrites written view item.key).map printed = some item.value

/-- If every item reads back as set, each key carries exactly the value of its
items: the last of them is what is stored, and it is what each of them reads. -/
theorem applyWrites_eq_of_readBack {staged : List StagedValue} {view : String → Option String}
    (hread : ReadsBack staged view) {item : StagedValue} (hitem : item ∈ staged) :
    applyWrites staged view item.key = some item.value ∧ NoTrailingBreak item.value := by
  obtain ⟨last, hlast, hkey, hvalue⟩ :=
    exists_applyWrites_eq (List.mem_map_of_mem (f := StagedValue.key) hitem) view
  have hreadItem := hread item hitem
  have hreadLast := hread last hlast
  rw [hkey] at hreadLast
  have hsame : item.value = last.value := Option.some.inj (hreadItem.symm.trans hreadLast)
  rw [hvalue, Option.map_some, Option.some.injEq] at hreadItem
  refine ⟨by rw [hvalue, hsame], ?_⟩
  rw [← hreadItem]
  exact noTrailingBreak_printed _

/-! ## The whole transaction -/

/-- What a finished transaction leaves behind.  Without a fault, only a value
that does not read back makes it fail. -/
def Settled (keys : String → Prop) (mayFail : SystemCall → Prop) (before : Store)
    (written : List StagedValue) : Except SetError Unit → Store → Prop
  | .ok (), after =>
      (∀ k, keys k → after.view k = applyWrites written before.view k) ∧
      (∀ item ∈ written, after.view item.key = some item.value ∧ NoTrailingBreak item.value) ∧
      FlushedOn (fun k => keys k ∧ inPackage "tr69" k) after
  | .error _, after => SameView keys before after ∧
      (¬ mayFail (.uciCommit .rollback "tr69") →
        FlushedOn (fun k => keys k ∧ inPackage "tr69" k) after) ∧
      (NoForwardFaults mayFail → ¬ ReadsBack written before.view)

/-- The view after a rollback: an option of the batch is written as it was
captured, without the line breaks at its end. -/
def restoredView (written : List StagedValue) (view : String → Option String) :
    String → Option String :=
  fun k => if k ∈ written.map StagedValue.key then (view k).map printed else view k

/-- What a finished transaction leaves behind, from any store. -/
def Closed (keys : String → Prop) (mayFail : SystemCall → Prop) (before : Store)
    (written : List StagedValue) : Except SetError Unit → Store → Prop
  | .ok (), after =>
      (∀ k, keys k → after.view k = applyWrites written before.view k) ∧
      ReadsBack written before.view ∧ FlushedOn (fun k => keys k ∧ inPackage "tr69" k) after
  | .error _, after =>
      (∀ k, keys k → after.view k = restoredView written before.view k) ∧
      (¬ mayFail (.uciCommit .rollback "tr69") →
        FlushedOn (fun k => keys k ∧ inPackage "tr69" k) after) ∧
      (NoForwardFaults mayFail → ¬ ReadsBack written before.view)

theorem restoredView_of_clean {before : Store} (hclean : CleanOn keys before)
    (written : List StagedValue) {k : String} (hk : keys k) :
    restoredView written before.view k = before.view k := by
  rw [restoredView]
  split_ifs with hmem
  · cases hview : before.view k with
    | none => rfl
    | some value =>
        rw [Option.map_some, printed_of_noTrailingBreak (hclean k value hk hview)]
  · rfl

/-- From a store without trailing line breaks a rollback leads back. -/
theorem Closed.settled {before : Store} (hclean : CleanOn keys before)
    {written : List StagedValue} (hkeys : ∀ item ∈ written, keys item.key)
    {result : Except SetError Unit} {after : Store}
    (h : Closed keys mayFail before written result after) :
    Settled keys mayFail before written result after := by
  cases result with
  | ok u =>
      obtain ⟨hview, hreads, hflushed⟩ := h
      refine ⟨hview, fun item hitem => ?_, hflushed⟩
      rw [hview _ (hkeys item hitem)]
      exact applyWrites_eq_of_readBack hreads hitem
  | error error =>
      exact ⟨fun k hk => (h.1 k hk).trans (restoredView_of_clean hclean written hk), h.2⟩

/-- The rollback knows every key that is written, with what it held. -/
def Captured (keys : String → Prop) (before : Store) (written : List StagedValue)
    (originals : Originals) : Prop :=
  (∀ k, k ∈ originals.map Prod.fst ↔ k ∈ written.map StagedValue.key) ∧
  ∀ entry ∈ originals, keys entry.1 ∧ entry.2 = restoredView written before.view entry.1

theorem captured_of_saved {before : Store} {written : List StagedValue} {originals : Originals}
    (hsaved : Saved keys before originals)
    (hcovered : ∀ k, k ∈ originals.map Prod.fst ↔ k ∈ written.map StagedValue.key) :
    Captured keys before written originals := by
  refine ⟨hcovered, fun entry hentry => ?_⟩
  obtain ⟨hkey, hvalue⟩ := hsaved entry hentry
  have hmem := (hcovered entry.1).mp (List.mem_map_of_mem hentry)
  rw [restoredView, if_pos hmem]
  exact ⟨hkey, hvalue⟩

/-- From any store that differs from the first one on the batch only, the
rollback leads back. -/
theorem wp_rollback (hfaults : SafeRollback mayFail) {before : Store}
    {written : List StagedValue} {originals : Originals}
    (hcaptured : Captured keys before written originals) {count : Nat} {error : SetError}
    (hother : ∀ k, keys k → k ∉ written.map StagedValue.key → s.view k = before.view k)
    (hreason : NoForwardFaults mayFail → ¬ ReadsBack written before.view) :
    wp (regionEnv keys mayFail) (Within keys)
      (do engine.restoreOriginals count originals; return .error error)
      (Closed keys mayFail before written) s := by
  obtain ⟨hcovered, hentries⟩ := hcaptured
  rw [wp_bind]
  refine wp_mono (wp_restoreOriginals hfaults hentries fun k hk hmem => ?_) ?_
  · have hmem' : k ∉ written.map StagedValue.key := fun h => hmem ((hcovered k).mpr h)
    rw [restoredView, if_neg hmem']
    exact hother k hk hmem'
  · intro _ s' hs'
    exact ⟨hs'.1, hs'.2, hreason⟩

/-- After the commit either everything reads back, or the rollback leads back. -/
theorem wp_verify (hmock : engine.mock = none) (hfaults : SafeRollback mayFail) {before : Store}
    {written : List StagedValue} (hkeys : ∀ item ∈ written, keys item.key)
    {originals : Originals} (hcaptured : Captured keys before written originals) {count : Nat}
    (hview : ∀ k, keys k → s.view k = applyWrites written before.view k)
    (hflushed : FlushedOn (fun k => keys k ∧ inPackage "tr69" k) s) :
    wp (regionEnv keys mayFail) (Within keys)
      (do
        match ← engine.readBackAll written with
        | some item => do
            engine.restoreOriginals count originals
            return .error ⟨item.path, "UCI read-back verification failed"⟩
        | none => do
            let _ ← engine.notifyRuntimeReload
            engine.trace "SET" ("transaction committed count=" ++ toString count)
            return .ok ())
      (Closed keys mayFail before written) s := by
  rw [wp_bind]
  refine wp_mono (wp_readBackAll hmock hkeys) ?_
  rintro failed s₁ ⟨hs₁, hread, hreads⟩
  cases failed with
  -- an item that does not read back: everything is put back
  | some item =>
      apply wp_rollback hfaults hcaptured
      · intro k hk hmem
        rw [hs₁.view hk, hview k hk, applyWrites_of_not_mem hmem]
      · intro hfree hvalues
        refine Option.some_ne_none item (hreads hfree fun other hother => ?_)
        rw [hview _ (hkeys other hother)]
        exact hvalues other hother
  -- the reload of the others and the trace write nothing
  | none =>
      dsimp only
      rw [wp_bind]
      refine wp_notifyRuntimeReload fun _ s₂ hs₂ => ?_
      rw [wp_bind]
      refine wp_trace fun s₃ hs₃ => ?_
      have hs₁₃ : SameOn keys s s₃ := (hs₁.trans hs₂).trans hs₃
      have hreadsBack : ReadsBack written before.view := by
        intro item hitem
        rw [← hread rfl item hitem, hview _ (hkeys item hitem)]
      exact ⟨fun k hk => (hs₁₃.view hk).trans (hview k hk), hreadsBack, hs₁₃.flushedOn hflushed⟩

theorem wp_commitStaged (hmock : engine.mock = none) (hfaults : SafeRollback mayFail)
    {staged : List StagedValue} {parameterKey : StagedValue}
    (hkeys : ∀ item ∈ staged ++ [parameterKey], keys item.key) :
    wp (regionEnv keys mayFail) (Within keys) (engine.commitStaged staged parameterKey)
      (Closed keys mayFail s (staged ++ [parameterKey])) s := by
  have hstaged : ∀ item ∈ staged, keys item.key :=
    fun item hitem => hkeys item (List.mem_append_left _ hitem)
  have hparameterKey : keys parameterKey.key := hkeys parameterKey (by simp)
  unfold commitStaged
  -- what the keys hold is captured
  rw [wp_bind]
  refine wp_mono (wp_saveOriginals hmock hfaults hstaged (.refl _ s) (by simp [Saved])) ?_
  rintro originals₁ s₁ ⟨hs₁, hsaved₁, hcovered₁⟩
  rw [wp_bind]
  refine wp_mono (wp_saveOriginal hmock hfaults hparameterKey hs₁ hsaved₁) ?_
  rintro originals s₂ ⟨hs₂, hsaved, hcovered₂⟩
  have hcaptured : Captured keys s (staged ++ [parameterKey]) originals := by
    apply captured_of_saved hsaved
    intro k
    rw [hcovered₂, hcovered₁]
    simp
  -- the values are set
  rw [wp_bind]
  refine wp_trace fun s₃ hs₃ => ?_
  have hs₀₃ : SameOn keys s s₃ := hs₂.trans hs₃
  rw [wp_bind]
  refine wp_mono (wp_setAll hkeys) ?_
  rintro failed s₄ ⟨hwritten, hother, hsets⟩
  have hother₄ : ∀ k, keys k → k ∉ (staged ++ [parameterKey]).map StagedValue.key →
      s₄.view k = s.view k := by
    intro k hk hmem
    exact (hother k hk hmem).trans (hs₀₃.view hk)
  cases failed with
  | some item =>
      apply wp_rollback hfaults hcaptured hother₄
      intro hfree
      exact absurd (hsets hfree) (Option.some_ne_none item)
  | none =>
      -- and committed
      dsimp only
      rw [wp_bind]
      refine wp_trace fun s₅ hs₅ => ?_
      rw [wp_bind, wp_ask]
      refine ⟨rfl, fun ok s₆ hcommit => ?_⟩
      rcases hcommit with ⟨rfl, hs₆, hflushed⟩ | ⟨hmayFail, rfl, hs₆⟩
      · rw [if_pos rfl, wp_bind]
        refine wp_trace fun s₇ hs₇ => wp_verify hmock hfaults hkeys hcaptured ?_ ?_
        · intro k hk
          rw [((hs₅.trans hs₆).trans hs₇).view hk, hwritten rfl k hk]
          exact applyWrites_congr _ (hs₀₃.view hk)
        · exact hs₇.flushedOn hflushed
      · rw [if_neg Bool.false_ne_true, wp_bind]
        refine wp_trace fun s₇ hs₇ => wp_rollback hfaults hcaptured ?_ ?_
        · intro k hk hmem
          rw [((hs₅.trans hs₆).trans hs₇).view hk]
          exact hother₄ k hk hmem
        · intro hfree
          exact absurd hmayFail (hfree.commit _)

/-- What validation makes of a call: the values to be written, the parameter
key last. -/
def checkAll (model : DeviceMap) (values : List ParameterValue) (parameterKey : String) :
    Except SetError (List StagedValue) :=
  match checkItems model values, checkParameterKey model parameterKey with
  | .ok staged, .ok normalizedKey => .ok (staged ++ [normalizedKey])
  | .error error, _ => .error error
  | .ok _, .error error => .error error

/-- What a finished call leaves behind: it either was refused and left the
store alone, or was a transaction over the values it validated. -/
def Finished (keys : String → Prop) (mayFail : SystemCall → Prop) (before : Store)
    (checked : Except SetError (List StagedValue)) (result : Except SetError Unit)
    (after : Store) : Prop :=
  match checked with
  | .error error => result = .error error ∧ SameOn keys before after
  | .ok written => Settled keys mayFail before written result after

/-- A finished call, from any store. -/
def Ended (keys : String → Prop) (mayFail : SystemCall → Prop) (before : Store)
    (checked : Except SetError (List StagedValue)) (result : Except SetError Unit)
    (after : Store) : Prop :=
  match checked with
  | .error error => result = .error error ∧ SameOn keys before after
  | .ok written => Closed keys mayFail before written result after

theorem wp_setParameterValues_ended (hmock : engine.mock = none) (hfaults : SafeRollback mayFail)
    {values : List ParameterValue} {parameterKey : String}
    (hkeys : ∀ written, checkAll engine.model values parameterKey = .ok written →
      ∀ item ∈ written, keys item.key) :
    wp (regionEnv keys mayFail) (Within keys) (engine.setParameterValues values parameterKey)
      (fun result s' => Ended keys mayFail s (checkAll engine.model values parameterKey)
        result.1 s') s := by
  unfold setParameterValues
  rw [wp_bind]
  refine wp_trace fun s₁ hs₁ => ?_
  rw [wp_bind]
  refine wp_stageItems fun s₂ hs₂ => ?_
  unfold Ended checkAll
  unfold checkAll at hkeys
  cases hitems : checkItems engine.model values with
  | error error => exact ⟨rfl, hs₁.trans hs₂⟩
  | ok staged =>
      dsimp only
      rw [wp_bind]
      refine wp_stageParameterKey fun s₃ hs₃ => ?_
      -- validation has only logged so far
      have hs : SameOn keys s s₃ := (hs₁.trans hs₂).trans hs₃
      cases hkey : checkParameterKey engine.model parameterKey with
      | error error => exact ⟨rfl, hs⟩
      | ok normalizedKey =>
          dsimp only
          rw [hmock, wp_bind]
          simp only [hitems, hkey, Except.ok.injEq, forall_eq'] at hkeys
          refine wp_mono (wp_commitStaged hmock hfaults hkeys) ?_
          intro result s' hclosed
          simp only [Prog.pure_eq_done, wp_done]
          -- the commit starts from what `s` had under the keys
          have hreads : ReadsBack (staged ++ [normalizedKey]) s₃.view ↔
              ReadsBack (staged ++ [normalizedKey]) s.view := by
            refine forall₂_congr fun item hitem => ?_
            rw [applyWrites_congr _ (hs.view (hkeys item hitem))]
          cases result with
          | ok u =>
              refine ⟨fun k hk => ?_, hreads.mp hclosed.2.1, hclosed.2.2⟩
              rw [hclosed.1 k hk]
              exact applyWrites_congr _ (hs.view hk)
          | error error =>
              refine ⟨fun k hk => ?_, hclosed.2.1, fun hfree => mt hreads.mpr (hclosed.2.2 hfree)⟩
              rw [hclosed.1 k hk, restoredView, restoredView, hs.view hk]

theorem wp_setParameterValues (hmock : engine.mock = none) (hfaults : SafeRollback mayFail)
    (hclean : CleanOn keys s) {values : List ParameterValue} {parameterKey : String}
    (hkeys : ∀ written, checkAll engine.model values parameterKey = .ok written →
      ∀ item ∈ written, keys item.key) :
    wp (regionEnv keys mayFail) (Within keys) (engine.setParameterValues values parameterKey)
      (fun result s' => Finished keys mayFail s (checkAll engine.model values parameterKey)
        result.1 s') s := by
  refine wp_mono (wp_setParameterValues_ended hmock hfaults hkeys) ?_
  intro result s' hended
  unfold Ended at hended
  unfold Finished
  cases hcheck : checkAll engine.model values parameterKey with
  | error error => rwa [hcheck] at hended
  | ok written =>
      rw [hcheck] at hended
      exact hended.settled hclean (hkeys written hcheck)

end Engine

end Tr069d
