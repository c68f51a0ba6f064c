import Tr069d.Uci.Store

/-!
# The store as a transaction sees it

A transaction only relies on the keys it works on.  `regionEnv keys mayFail` is
the largest environment that answers for those keys as UCI does: what happens to
the other keys, and when a staged change of `keys` is committed by somebody
else, is left open.

* `uciEnv_subset_regionEnv`: plain UCI is one such environment;
* `regionEnv_absorb_left`: so is UCI with other clients at work before the
  command, as long as they leave the view of `keys` alone (`SameOn`).
-/

namespace Tr069d

open Effects

/-- The view of `keys` is unchanged, and nothing new is staged for them. -/
def SameOn (keys : String → Prop) (before after : Store) : Prop :=
  ∀ k, keys k → after.view k = before.view k ∧
    (before.staged k = none → after.staged k = none)

/-- Nothing is staged for `keys`. -/
def FlushedOn (keys : String → Prop) (store : Store) : Prop :=
  ∀ k, keys k → store.staged k = none

/-- UCI on `keys`, whatever happens elsewhere. -/
def regionEnv (keys : String → Prop) (mayFail : SystemCall → Prop) : Env system Store
  | .uciGet phase key, before, answer, after => SameOn keys before after ∧
      (keys key → answer = (before.view key).map printed ∨
        mayFail (.uciGet phase key) ∧ answer = none)
  | .uciSet phase key value, before, answer, after =>
      answer = true ∧
          (∀ k, keys k → after.view k = Function.update before.view key (some value) k) ∨
        mayFail (.uciSet phase key value) ∧ answer = false ∧ SameOn keys before after
  | .uciDelete phase key, before, answer, after =>
      (∀ k, keys k → after.view k = Function.update before.view key none k) ∨
        mayFail (.uciDelete phase key) ∧ answer = false ∧ SameOn keys before after
  | .uciCommit phase package, before, answer, after =>
      answer = true ∧ SameOn keys before after ∧
          FlushedOn (fun k => keys k ∧ inPackage package k) after ∨
        mayFail (.uciCommit phase package) ∧ answer = false ∧ SameOn keys before after
  | .capture _, before, _, after => SameOn keys before after
  | .executeOk _, before, _, after => SameOn keys before after
  | .saveMock _ _, before, _, after => SameOn keys before after
  | .stderr _, before, _, after => SameOn keys before after
  | .log _ _, before, _, after => SameOn keys before after

/-- The calls of a client that only changes `keys` of the package `tr69`. -/
def Within (keys : String → Prop) : SystemCall → Prop
  | .uciSet _ key _ => keys key
  | .uciDelete _ key => keys key
  | .uciCommit _ package => package = "tr69"
  | _ => True

/-- The two stores give the same view of `keys`. -/
def SameView (keys : String → Prop) (before after : Store) : Prop :=
  ∀ k, keys k → after.view k = before.view k

/-- No value of `keys` ends in CR or LF. -/
def CleanOn (keys : String → Prop) (store : Store) : Prop :=
  ∀ k value, keys k → store.view k = some value → NoTrailingBreak value

variable {keys : String → Prop} {mayFail : SystemCall → Prop} {first second third : Store}

theorem SameOn.refl (keys : String → Prop) (store : Store) : SameOn keys store store :=
  fun _ _ => ⟨rfl, id⟩

theorem SameOn.trans (h : SameOn keys first second) (h' : SameOn keys second third) :
    SameOn keys first third :=
  fun k hk => ⟨(h' k hk).1.trans (h k hk).1, (h' k hk).2 ∘ (h k hk).2⟩

theorem SameOn.view (h : SameOn keys first second) {k : String} (hk : keys k) :
    second.view k = first.view k :=
  (h k hk).1

theorem SameOn.sameView (h : SameOn keys first second) : SameView keys first second :=
  fun k hk => (h k hk).1

theorem SameView.trans (h : SameView keys first second) (h' : SameView keys second third) :
    SameView keys first third :=
  fun k hk => (h' k hk).trans (h k hk)

theorem SameOn.flushedOn (h : SameOn keys first second) {package : String}
    (hflushed : FlushedOn (fun k => keys k ∧ inPackage package k) first) :
    FlushedOn (fun k => keys k ∧ inPackage package k) second :=
  fun k hk => (h k hk.1).2 (hflushed k hk)

/-- For a key with nothing staged, the view is what is committed. -/
theorem view_eq_committed {store : Store} {k : String} (h : store.staged k = none) :
    store.view k = store.committed k := by
  simp [Store.view, h]

theorem sameOn_commit (keys : String → Prop) (store : Store) (package : String) :
    SameOn keys store (store.commit package) := by
  intro k _
  refine ⟨congrFun (view_commit store package) k, fun hstaged => ?_⟩
  simp [Store.commit, hstaged]

theorem flushedOn_commit (store : Store) (package : String) :
    FlushedOn (fun k => keys k ∧ inPackage package k) (store.commit package) :=
  fun _ hk => if_pos hk.2

/-- UCI answers for every key as UCI does. -/
theorem uciEnv_subset_regionEnv (keys : String → Prop) (mayFail : SystemCall → Prop)
    (c : SystemCall) (before : Store) (answer : system.Answer c) (after : Store)
    (h : uciEnv mayFail c before answer after) : regionEnv keys mayFail c before answer after := by
  -- call by call: others may do nothing, which is one of the things they may do
  cases c with
  | uciGet phase key =>
      obtain ⟨rfl, hanswer⟩ := h
      exact ⟨.refl _ _, fun _ => hanswer⟩
  | uciSet phase key value =>
      rcases h with ⟨hok, rfl⟩ | ⟨hfail, hok, rfl⟩
      · exact Or.inl ⟨hok, fun k _ => congrFun (view_set before key value) k⟩
      · exact Or.inr ⟨hfail, hok, .refl _ _⟩
  | uciDelete phase key =>
      have hdelete := congrFun (view_delete before key)
      simp only [uciEnv] at h
      -- deleting what is not there succeeds or fails, and changes nothing to be seen
      split_ifs at h with hmissing
      · rcases h with rfl | rfl
        · refine Or.inl fun k _ => ?_
          rw [← hmissing, Function.update_eq_self]
        · exact Or.inl fun k _ => hdelete k
      · rcases h with ⟨_, rfl⟩ | ⟨hfail, hok, rfl⟩
        · exact Or.inl fun k _ => hdelete k
        · exact Or.inr ⟨hfail, hok, .refl _ _⟩
  | uciCommit phase package =>
      rcases h with ⟨hok, rfl⟩ | ⟨hfail, hok, rfl⟩
      · exact Or.inl ⟨hok, sameOn_commit _ _ _, flushedOn_commit _ _⟩
      · exact Or.inr ⟨hfail, hok, .refl _ _⟩
  | capture command => exact h ▸ .refl _ _
  | executeOk command => exact h ▸ .refl _ _
  | saveMock path values => exact h ▸ .refl _ _
  | stderr text => exact h ▸ .refl _ _
  | log level message => exact h ▸ .refl _ _

/-- A client leaves the keys that it does not work on alone. -/
theorem sameOn_of_within (c : SystemCall) (before : Store) (answer : system.Answer c)
    (after : Store) (hwithin : Within keys c) (h : uciEnv mayFail c before answer after) :
    SameOn (fun k => ¬ keys k) before after := by
  -- a key that the client works on is none of the others
  have hne : ∀ {key k : String}, keys key → ¬ keys k → k ≠ key := by
    rintro key k hkey hk rfl
    exact hk hkey
  cases c with
  | uciGet phase key => exact h.1 ▸ .refl _ _
  | uciSet phase key value =>
      rcases h with ⟨_, rfl⟩ | ⟨_, _, rfl⟩
      · intro k hk
        simp [Store.view, Store.set, hne hwithin hk]
      · exact .refl _ _
  | uciDelete phase key =>
      have hdelete : SameOn (fun k => ¬ keys k) before (before.delete key) := by
        intro k hk
        simp [Store.view, Store.delete, hne hwithin hk]
      simp only [uciEnv] at h
      split_ifs at h
      · rcases h with rfl | rfl
        · exact .refl _ _
        · exact hdelete
      · rcases h with ⟨_, rfl⟩ | ⟨_, _, rfl⟩
        · exact hdelete
        · exact .refl _ _
  | uciCommit phase package =>
      rcases h with ⟨_, rfl⟩ | ⟨_, _, rfl⟩
      · exact sameOn_commit _ _ _
      · exact .refl _ _
  | capture command => exact h ▸ .refl _ _
  | executeOk command => exact h ▸ .refl _ _
  | saveMock path values => exact h ▸ .refl _ _
  | stderr text => exact h ▸ .refl _ _
  | log level message => exact h ▸ .refl _ _

/-- What others do before a command may as well happen inside it. -/
theorem regionEnv_absorb_left (c : SystemCall) (before : Store) (answer : system.Answer c)
    (after : Store) (hsame : SameOn keys first before)
    (h : regionEnv keys mayFail c before answer after) :
    regionEnv keys mayFail c first answer after := by
  -- a write is seen in the same way from both stores
  have hupdate : ∀ key value k, keys k →
      Function.update before.view key value k = Function.update first.view key value k := by
    intro key value k hk
    by_cases heq : k = key <;> simp [Function.update, heq, hsame.view hk]
  cases c with
  | uciGet phase key =>
      exact ⟨hsame.trans h.1, fun hkey => by simpa only [hsame.view hkey] using h.2 hkey⟩
  | uciSet phase key value =>
      rcases h with ⟨hok, hview⟩ | ⟨hfail, hok, hafter⟩
      · exact Or.inl ⟨hok, fun k hk => (hview k hk).trans (hupdate _ _ k hk)⟩
      · exact Or.inr ⟨hfail, hok, hsame.trans hafter⟩
  | uciDelete phase key =>
      rcases h with hview | ⟨hfail, hok, hafter⟩
      · exact Or.inl fun k hk => (hview k hk).trans (hupdate _ _ k hk)
      · exact Or.inr ⟨hfail, hok, hsame.trans hafter⟩
  | uciCommit phase package =>
      rcases h with ⟨hok, hafter, hflushed⟩ | ⟨hfail, hok, hafter⟩
      · exact Or.inl ⟨hok, hsame.trans hafter, hflushed⟩
      · exact Or.inr ⟨hfail, hok, hsame.trans hafter⟩
  | capture command => exact hsame.trans h
  | executeOk command => exact hsame.trans h
  | saveMock path values => exact hsame.trans h
  | stderr text => exact hsame.trans h
  | log level message => exact hsame.trans h

end Tr069d
