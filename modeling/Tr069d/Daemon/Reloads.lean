import Tr069d.Daemon.Calls
import Tr069d.Daemon.Scenario
import Tr069d.Daemon.Signals

/-!
# Which reloads a session knows

`requestReload` only sets a flag.  `waitForNextInform` looks at it last: woken
for a Connection Request, a reconnect or an InformNow as well, it returns without
reading the configuration, and the next session still uses the old one.

What leads to a session is the last wake-up since the session before it, or else
the start of its iteration of the loop.  `Fresh` says that a session uses a
configuration that was read after every reload that was requested before that.

* `Prompt` is the condition: no round leads to a session over a reload that was
  requested and not read yet.
* `marking_refresh` and `marking_inform` are the two functions that read, and
  `marking_round` keeps the invariant.
* `fresh_of_prompt` is the result for runs, and `not_fresh_of_unread` says that a session
  that was led to otherwise is not fresh.
-/

namespace Tr069d

open Effects Daemon

/-! ## What a session knows -/

/-- A reload was requested after the last reading. -/
def unread : List Mark → Bool
  | [] => false
  | .signal (.request .reload) :: _ => true
  | .read _ :: _ => false
  | _ :: earlier => unread earlier

/-- The last configuration that was read. -/
def lastRead : List Mark → Option DaemonConfig
  | [] => none
  | .read updated :: _ => some updated
  | _ :: earlier => lastRead earlier

/-- The daemon woke up since the last session. -/
def wokeSince : List Mark → Bool
  | [] => false
  | .woke :: _ => true
  | .opened _ :: _ => false
  | _ :: earlier => wokeSince earlier

/-- What came before the wake-up, or the start of the iteration, that leads to
the next session. -/
def beforeLead : List Mark → List Mark
  | [] => []
  | .woke :: earlier => earlier
  | .assigned :: earlier => if wokeSince earlier then beforeLead earlier else earlier
  | _ :: earlier => beforeLead earlier

/-- The HTTP configuration is the one of a reading, and every reload that was
requested in `lead` was requested before it. -/
def ReadSince (lead marks : List Mark) (http : HttpConfig) : Prop :=
  ∃ newer updated older, marks = newer ++ .read updated :: older ∧ http = httpConfig updated ∧
    ∀ before, .signal (.request .reload) :: before <:+ lead →
      .signal (.request .reload) :: before <:+ older

/-- A session uses a configuration that was read after the last reload that was
requested before what led to the session. -/
def Fresh : Mark → List Mark → Prop
  | .opened http, earlier => ReadSince (beforeLead earlier) earlier http
  | _, _ => True

/-- A round that leads to a session does not come upon a reload that was
requested and not read yet: neither a wake-up for another reason, nor the start
of an iteration that does not follow a wake-up. -/
def Prompt (daemon : Daemon) (marks : List Mark) : Prop :=
  match daemon.place with
  | .overwrite (.woke reason) => reason ≠ .reload → active daemon.config = true →
      unread (beforeLead marks) = false
  | .head => wokeSince marks = false → active daemon.config = true →
      unread (beforeLead marks) = false
  | _ => True

/-! ## Marks and readings -/

def Mark.isSignal : Mark → Prop
  | .signal _ => True
  | _ => False

section Marks

variable {marks amid lead : List Mark} {http : HttpConfig} {config updated : DaemonConfig}

theorem beforeLead_suffix (marks : List Mark) : beforeLead marks <:+ marks := by
  induction marks with
  | nil => exact List.suffix_rfl
  | cons mark earlier ih =>
      have hlater := ih.trans (List.suffix_cons mark earlier)
      cases mark with
      | woke => exact List.suffix_cons _ _
      | assigned =>
          rw [beforeLead]
          split_ifs
          · exact hlater
          · exact List.suffix_cons _ _
      | signal | read | opened => exact hlater

/-- What skips one signal skips all of them. -/
theorem append_signals {α : Type} {f : List Mark → α}
    (hskip : ∀ signal earlier, f (.signal signal :: earlier) = f earlier)
    (hamid : ∀ mark ∈ amid, mark.isSignal) : f (amid ++ marks) = f marks := by
  induction amid with
  | nil => rfl
  | cons mark amid ih =>
      obtain ⟨hmark, hrest⟩ := List.forall_mem_cons.mp hamid
      cases mark with
      | signal signal => exact (hskip signal _).trans (ih hrest)
      | read | woke | assigned | opened => exact hmark.elim

theorem wokeSince_append_signals (hamid : ∀ mark ∈ amid, mark.isSignal) :
    wokeSince (amid ++ marks) = wokeSince marks :=
  append_signals (fun _ _ => rfl) hamid

theorem beforeLead_append_signals (hamid : ∀ mark ∈ amid, mark.isSignal) :
    beforeLead (amid ++ marks) = beforeLead marks :=
  append_signals (fun _ _ => rfl) hamid

theorem lastRead_append_signals (hamid : ∀ mark ∈ amid, mark.isSignal) :
    lastRead (amid ++ marks) = lastRead marks :=
  append_signals (fun _ _ => rfl) hamid

theorem always_fresh_append_signals (hamid : ∀ mark ∈ amid, mark.isSignal) :
    Always Fresh (amid ++ marks) ↔ Always Fresh marks := by
  refine always_append_iff fun mark hmark before => ?_
  cases mark with
  | signal => trivial
  | read | woke | assigned | opened => exact (hamid _ hmark).elim

theorem ReadSince.append (h : ReadSince lead marks http) (newer : List Mark) :
    ReadSince lead (newer ++ marks) http := by
  obtain ⟨between, updated, older, rfl, hhttp, hreloads⟩ := h
  exact ⟨newer ++ between, updated, older, (List.append_assoc ..).symm, hhttp, hreloads⟩

/-- A reading is newer than every request. -/
theorem readSince_read (hlead : lead <:+ marks) :
    ReadSince lead (.read updated :: marks) (httpConfig updated) :=
  ⟨[], updated, marks, rfl, rfl, fun _ hreload => hreload.trans hlead⟩

/-- If no reload is unread, the last reading is newer than all of them. -/
theorem readSince_of_unread (hread : lastRead marks = some updated)
    (hlead : lead <:+ marks) (hunread : unread lead = false) :
    ReadSince lead marks (httpConfig updated) := by
  induction marks generalizing lead with
  | nil => cases hread
  | cons mark earlier ih =>
      -- the induction is on the marks, the newest first; the first reading that it meets is the
      -- last one
      by_cases hisRead : ∃ config, mark = .read config
      · obtain ⟨config, rfl⟩ := hisRead
        obtain rfl : config = updated := Option.some.inj hread
        refine ⟨[], config, earlier, rfl, rfl, fun before hreload => ?_⟩
        rcases List.suffix_cons_iff.mp (hreload.trans hlead) with heq | hsuffix
        · cases heq
        · exact hsuffix
      · have hearlier : lastRead earlier = some updated := by
          cases mark with
          | read config => exact absurd ⟨config, rfl⟩ hisRead
          | signal | woke | assigned | opened => exact hread
        rcases List.suffix_cons_iff.mp hlead with rfl | hsuffix
        · -- the newest mark is neither a reading nor a reload
          have hrest : unread earlier = false := by
            unfold unread at hunread
            split at hunread
            all_goals simp_all
          have hnot : mark ≠ .signal (.request .reload) := by
            rintro rfl
            cases hunread
          obtain ⟨newer, config, older, hsplit, hhttp, hreloads⟩ :=
            ih hearlier List.suffix_rfl hrest
          refine ⟨mark :: newer, config, older, by rw [hsplit]; rfl, hhttp, ?_⟩
          intro before hreload
          rcases List.suffix_cons_iff.mp hreload with heq | hbefore
          · exact absurd (List.cons.inj heq).1.symm hnot
          · exact hreloads before hbefore
        · exact (ih hearlier hsuffix hunread).append [mark]

/-- An unread reload was requested after every reading. -/
theorem exists_reload_of_unread (hunread : unread marks = true) :
    ∃ recent before, marks = recent ++ .signal (.request .reload) :: before ∧
      ∀ updated, .read updated ∉ recent := by
  induction marks with
  | nil => cases hunread
  | cons mark earlier ih =>
      by_cases hreload : mark = .signal (.request .reload)
      · exact ⟨[], earlier, by rw [hreload]; rfl, fun _ => List.not_mem_nil⟩
      · have hnotRead : ∀ updated, .read updated ≠ mark := by
          rintro updated rfl
          cases hunread
        have hrest : unread earlier = true := by
          unfold unread at hunread
          split at hunread
          all_goals simp_all
        obtain ⟨recent, before, hsplit, hrecent⟩ := ih hrest
        refine ⟨mark :: recent, before, by rw [hsplit]; rfl, fun updated hmem => ?_⟩
        rcases List.mem_cons.mp hmem with heq | hmem
        · exact hnotRead updated heq
        · exact hrecent updated hmem

/-- The configuration has the HTTP fields that were read last. -/
def Current (config : DaemonConfig) (marks : List Mark) : Prop :=
  (lastRead marks).map httpConfig = some (httpConfig config)

theorem Current.append_signals (h : Current config marks)
    (hamid : ∀ mark ∈ amid, mark.isSignal) : Current config (amid ++ marks) := by
  rwa [Current, lastRead_append_signals hamid]

theorem Current.readSince (h : Current config marks) (hlead : lead <:+ marks)
    (hunread : unread lead = false) : ReadSince lead marks (httpConfig config) := by
  obtain ⟨updated, hread, hhttp⟩ := Option.map_eq_some_iff.mp h
  rw [← hhttp]
  exact readSince_of_unread hread hlead hunread

end Marks

/-! ## What the programs mark -/

/-- Reading succeeds exactly on a transformer that is ready. -/
def AnsweredIf (ready : Bool) : (c : DaemonCall) → daemonCalls.Answer c → Prop
  | .readConfig _, answer => answer.isSome = ready
  | _, _ => True

/-- What holds of the result and the marks, whatever others request meanwhile. -/
abbrev marking {α : Type} (ready : Bool) (program : DaemonProg α)
    (post : α → List Mark → Prop) (marks : List Mark) : Prop :=
  wp (notedAmid (AnsweredIf ready) Mark.isSignal markOf) (fun _ => True) program post marks

/-- The call is not marked. -/
def Unmarked (c : DaemonCall) : Prop :=
  ∀ answer, markOf c answer = []

section Programs

variable {α : Type} {ready : Bool} {marks : List Mark}

theorem unmarked_log (level : LogLevel) (message : String) : Unmarked (.log level message) :=
  fun _ => rfl

theorem unmarked_persist (write : FlagWrite) : Unmarked (.persist write) := fun _ => rfl

theorem marking_of_calls {program : DaemonProg α} {post : α → List Mark → Prop}
    (h : program.Calls Unmarked)
    (hpost : ∀ value amid, (∀ mark ∈ amid, mark.isSignal) → post value (amid ++ marks)) :
    marking ready program post marks :=
  wp_notedAmid_of_calls h (fun _ hc => hc) hpost

theorem marking_ask {c : DaemonCall} {post : daemonCalls.Answer c → List Mark → Prop}
    (hunmarked : Unmarked c)
    (hpost : ∀ answer amid, (∀ mark ∈ amid, mark.isSignal) → post answer (amid ++ marks)) :
    marking ready (Prog.ask c) post marks :=
  marking_of_calls (Prog.calls_ask hunmarked) hpost

/-- A refresh is marked with the configuration it leaves. -/
theorem marking_refreshConfig {initial : Bool} {previous : DaemonConfig}
    {post : DaemonConfig × Bool → List Mark → Prop}
    (hinitial : initial = true → previous.acsUrl = "")
    (hfailed : ready = false → ∀ amid, (∀ mark ∈ amid, mark.isSignal) →
      post (previous, false) (amid ++ marks))
    (hread : ready = true → ∀ updated (isChanged : Bool) (before after : List Mark),
      (∀ mark ∈ before, mark.isSignal) → (∀ mark ∈ after, mark.isSignal) →
      (initial = true → isChanged = true) →
        post (updated, isChanged) (after ++ .read updated :: (before ++ marks))) :
    marking ready (refreshConfig initial previous) post marks := by
  rw [refreshConfig_eq hinitial]
  refine wp_bind.mpr (wp_notedAmid_ask_iff.mpr fun answer hanswer before hbefore => ?_)
  cases answer with
  | none => exact hfailed hanswer.symm before hbefore
  | some read =>
      obtain ⟨read, level⟩ := read
      have hreport : (refreshReport initial previous read).Calls Unmarked :=
        calls_refreshReport unmarked_log (fun _ => rfl) (fun _ _ => rfl) read
      refine wp_bind.mpr (marking_of_calls hreport fun _ after hafter => ?_)
      refine hread hanswer.symm _ _ before after hbefore hafter ?_
      rintro rfl
      rfl

/-- While the daemon runs, a refresh reads the configuration. -/
theorem marking_refresh {previous : DaemonConfig} {post : DaemonConfig × Bool → List Mark → Prop}
    (hread : ∀ updated isChanged (before after : List Mark), (∀ mark ∈ before, mark.isSignal) →
      (∀ mark ∈ after, mark.isSignal) →
        post (updated, isChanged) (after ++ .read updated :: (before ++ marks))) :
    marking true (refreshConfig false previous) post marks :=
  marking_refreshConfig nofun nofun fun _ updated isChanged before after hbefore hafter _ =>
    hread updated isChanged before after hbefore hafter

end Programs

/-! ## A round -/

/-- After a session: the daemon did not wake up since, and its configuration is
the one it read last. -/
structure AfterSession (config : DaemonConfig) (marks : List Mark) : Prop where
  fresh : Always Fresh marks
  current : Current config marks
  notWoken : wokeSince marks = false

/-- What is known when the list of events is overwritten. -/
def AfterCause (config : DaemonConfig) (marks : List Mark) : Cause → Prop
  | .woke reason => wokeSince marks = true ∧
      (reason = .reload → ReadSince (beforeLead marks) marks (httpConfig config))
  | _ => wokeSince marks = false

/-- The invariant of the runs. -/
structure ReloadInvariant (daemon : Daemon) (marks : List Mark) : Prop where
  fresh : Always Fresh marks
  current : (∃ code, daemon.place = .stopped code) ∨ Current daemon.config marks
  head : daemon.place = .head → wokeSince marks = true → active daemon.config = true →
    ReadSince (beforeLead marks) marks (httpConfig daemon.config)
  overwrite : ∀ cause, daemon.place = .overwrite cause → AfterCause daemon.config marks cause

section Round

variable {config : DaemonConfig} {events : List String} {http : HttpConfig}
  {marks amid : List Mark}

theorem AfterSession.append_signals (h : AfterSession config marks)
    (hamid : ∀ mark ∈ amid, mark.isSignal) : AfterSession config (amid ++ marks) where
  fresh := (always_fresh_append_signals hamid).mpr h.fresh
  current := h.current.append_signals hamid
  notWoken := (wokeSince_append_signals hamid).trans h.notWoken

theorem AfterSession.read (h : AfterSession config marks) (updated : DaemonConfig) :
    AfterSession updated (.read updated :: marks) where
  fresh := ⟨trivial, h.fresh⟩
  current := rfl
  notWoken := h.notWoken

/-- The flags that the daemon stores are not part of the HTTP configuration. -/
theorem AfterSession.of_httpConfig {config' : DaemonConfig} (h : AfterSession config marks)
    (hhttp : httpConfig config' = httpConfig config) : AfterSession config' marks where
  fresh := h.fresh
  current := by
    rw [Current, hhttp]
    exact h.current
  notWoken := h.notWoken

theorem marking_refresh_afterSession (h : AfterSession config marks) :
    marking true (refreshConfig false config) (fun result => AfterSession result.1) marks := by
  refine marking_refresh fun updated isChanged before after hbefore hafter => ?_
  exact ((h.append_signals hbefore).read updated).append_signals hafter

/-- A download is reported in another session with the same HTTP configuration. -/
structure BeforeReport (http : HttpConfig) (config : DaemonConfig) (marks : List Mark) : Prop
    extends AfterSession config marks where
  report : Fresh (.opened http) marks

theorem BeforeReport.append_signals (h : BeforeReport http config marks)
    (hamid : ∀ mark ∈ amid, mark.isSignal) : BeforeReport http config (amid ++ marks) where
  toAfterSession := h.toAfterSession.append_signals hamid
  report := by
    rw [Fresh, beforeLead_append_signals hamid]
    exact h.report.append amid

theorem BeforeReport.of_httpConfig {config' : DaemonConfig} (h : BeforeReport http config marks)
    (hhttp : httpConfig config' = httpConfig config) : BeforeReport http config' marks :=
  ⟨h.toAfterSession.of_httpConfig hhttp, h.report⟩

/-- Two sessions of one iteration are led to alike. -/
theorem BeforeReport.opened (h : BeforeReport http config marks) :
    AfterSession config (.opened http :: marks) :=
  ⟨⟨h.report, h.fresh⟩, h.current, rfl⟩

theorem marking_recordBootstrap {outcome : SessionOutcome} (h : BeforeReport http config marks) :
    marking true (recordBootstrap outcome config) (BeforeReport http) marks := by
  unfold recordBootstrap
  split
  · refine wp_bind.mpr (marking_ask (unmarked_persist _) fun _ amid hamid => ?_)
    exact (h.append_signals hamid).of_httpConfig rfl
  · exact h

theorem marking_clearPendingReboot {outcome : SessionOutcome}
    (h : BeforeReport http config marks) :
    marking true (clearPendingReboot outcome events config) (BeforeReport http) marks := by
  unfold clearPendingReboot
  split
  · refine wp_bind.mpr (marking_ask (unmarked_persist _) fun _ amid hamid => ?_)
    exact (h.append_signals hamid).of_httpConfig rfl
  · exact h

theorem marking_runDownload {outcome : SessionOutcome} (h : BeforeReport http config marks) :
    marking true (runDownload outcome http config) AfterSession marks := by
  unfold runDownload
  cases outcome.download with
  | none => exact h.toAfterSession
  | some request =>
      refine wp_bind.mpr (marking_ask (fun _ => rfl) fun transfer amid hamid => ?_)
      refine wp_bind.mpr (wp_notedAmid_ask_iff.mpr fun reported _ amid' hamid' => ?_)
      have hreported := ((h.append_signals hamid).append_signals hamid').opened
      exact wp_bind.mpr (marking_refresh_afterSession hreported)

theorem marking_runReboot {outcome : SessionOutcome} (h : AfterSession config marks) :
    marking true (runReboot outcome config) (fun result => AfterSession result.1) marks := by
  unfold runReboot
  split
  · exact h
  · refine wp_bind.mpr (marking_ask (unmarked_persist _) fun _ amid hamid => ?_)
    refine wp_bind.mpr (marking_ask (fun _ => rfl) fun scheduled amid' hamid' => ?_)
    refine wp_bind.mpr (marking_ask (unmarked_log _ _) fun _ amid'' hamid'' => ?_)
    have hrebooted : AfterSession { config with pendingRebootEvent := true }
        (amid'' ++ (amid' ++ (amid ++ marks))) :=
      (((h.append_signals hamid).append_signals hamid').append_signals hamid'').of_httpConfig rfl
    split
    · refine wp_bind.mpr (wp_mono (marking_refresh_afterSession hrebooted) ?_)
      intro result later hresult
      refine wp_bind.mpr (marking_ask (fun _ => rfl) fun _ amid hamid => ?_)
      exact hresult.append_signals hamid
    · exact hrebooted

theorem reloadInvariant_stopped {code : Nat} (h : Always Fresh marks) :
    ReloadInvariant ⟨config, events, .stopped code⟩ marks :=
  ⟨h, Or.inl ⟨code, rfl⟩, nofun, nofun⟩

theorem marking_stop (h : Always Fresh marks) :
    marking true (stop config events) ReloadInvariant marks := by
  refine wp_bind.mpr (marking_ask (fun _ => rfl) fun _ amid hamid => ?_)
  refine wp_bind.mpr (marking_ask (unmarked_log _ _) fun _ amid' hamid' => ?_)
  refine reloadInvariant_stopped ((always_fresh_append_signals hamid').mpr ?_)
  exact (always_fresh_append_signals hamid).mpr h

/-- A session uses what was read last; after it the daemon goes on, waits or stops. -/
theorem marking_inform (hfresh : Always Fresh marks) (hcurrent : Current config marks)
    (hlead : Fresh (.opened (httpConfig config)) marks) :
    marking true (inform config events) ReloadInvariant marks := by
  unfold inform
  refine wp_bind.mpr (marking_ask (fun _ => rfl) fun _ amid hamid => ?_)
  refine wp_bind.mpr (wp_notedAmid_ask_iff.mpr fun outcome _ amid' hamid' => ?_)
  have hsignals : ∀ mark ∈ amid' ++ amid, mark.isSignal :=
    List.forall_mem_append.mpr ⟨hamid', hamid⟩
  -- the session uses `config`, and requests that fall before the call come after its reading
  have hopening : Fresh (.opened (httpConfig config)) (amid' ++ amid ++ marks) := by
    rw [Fresh, beforeLead_append_signals hsignals]
    exact hlead.append _
  have hopened : BeforeReport (httpConfig config) config
      (.opened (httpConfig config) :: (amid' ++ amid ++ marks)) :=
    ⟨⟨⟨hopening, (always_fresh_append_signals hsignals).mpr hfresh⟩,
      hcurrent.append_signals hsignals, rfl⟩, hopening.append [_]⟩
  rw [List.append_assoc] at hopened
  refine wp_bind.mpr (marking_ask (fun _ => rfl) fun _ amid hamid => ?_)
  refine wp_bind.mpr (wp_mono (marking_recordBootstrap (hopened.append_signals hamid)) ?_)
  intro config₁ marks₁ h₁
  refine wp_bind.mpr (wp_mono (marking_clearPendingReboot h₁) ?_)
  intro config₂ marks₂ h₂
  refine wp_bind.mpr (wp_mono (marking_runDownload h₂) ?_)
  intro config₃ marks₃ h₃
  refine wp_bind.mpr (wp_mono (marking_runReboot h₃) ?_)
  rintro ⟨config₄, mockRebooted⟩ marks₄ h₄
  -- from here on the next session follows without a wait, or after one
  cases mockRebooted with
  | true =>
      refine ⟨h₄.fresh, Or.inr h₄.current, nofun, ?_⟩
      rintro cause ⟨⟩
      exact h₄.notWoken
  | false =>
      refine wp_bind.mpr (marking_ask (fun _ => rfl) fun reloadDuringSession amid hamid => ?_)
      refine wp_bind.mpr (wp_mono (marking_refresh_afterSession (h₄.append_signals hamid)) ?_)
      rintro ⟨config₅, changedAfterSession⟩ marks₅ h₅
      dsimp only
      split
      · refine ⟨h₅.fresh, Or.inr h₅.current, nofun, ?_⟩
        rintro cause ⟨⟩
        exact h₅.notWoken
      · refine wp_bind.mpr (marking_ask (fun _ => rfl) fun stopped amid hamid => ?_)
        have hlater := h₅.append_signals hamid
        split
        · exact marking_stop hlater.fresh
        · exact ⟨hlater.fresh, Or.inr hlater.current, nofun, nofun⟩

/-- After a wake-up: a reload was read after it. -/
structure AfterWake (result : Option WakeReason × DaemonConfig) (marks : List Mark) : Prop where
  fresh : Always Fresh marks
  current : Current result.2 marks
  woken : wokeSince marks = true
  reloaded : result.1 = some .reload → ReadSince (beforeLead marks) marks (httpConfig result.2)

theorem AfterWake.append_signals {result : Option WakeReason × DaemonConfig}
    (h : AfterWake result marks) (hamid : ∀ mark ∈ amid, mark.isSignal) :
    AfterWake result (amid ++ marks) where
  fresh := (always_fresh_append_signals hamid).mpr h.fresh
  current := h.current.append_signals hamid
  woken := (wokeSince_append_signals hamid).trans h.woken
  reloaded hreload := by
    rw [beforeLead_append_signals hamid]
    exact (h.reloaded hreload).append amid

/-- Only a reload is not known to be read. -/
theorem AfterWake.of_reason (h : AfterWake (none, config) marks) {wake : Option WakeReason}
    (hwake : wake ≠ some .reload) : AfterWake (wake, config) marks :=
  ⟨h.fresh, h.current, h.woken, fun hreload => absurd hreload hwake⟩

theorem AfterWake.read (h : AfterWake (none, config) marks) (updated : DaemonConfig) :
    AfterWake (some .reload, updated) (.read updated :: marks) where
  fresh := ⟨trivial, h.fresh⟩
  current := rfl
  woken := h.woken
  reloaded _ := readSince_read (beforeLead_suffix marks)

theorem marking_wakeReason {signaled : Bool} (h : AfterWake (none, config) marks) :
    marking true (wakeReason config signaled) AfterWake marks := by
  unfold wakeReason
  refine wp_bind.mpr (marking_ask (fun _ => rfl) fun stopped amid hamid => ?_)
  -- requests may come in before every look at a flag
  replace h := h.append_signals hamid
  split
  · exact h.of_reason nofun
  refine wp_bind.mpr (marking_ask (fun _ => rfl) fun connection amid hamid => ?_)
  replace h := h.append_signals hamid
  split
  · exact h.of_reason nofun
  refine wp_bind.mpr (marking_ask (fun _ => rfl) fun reconnect amid hamid => ?_)
  replace h := h.append_signals hamid
  split
  · exact h.of_reason nofun
  refine wp_bind.mpr (marking_ask (fun _ => rfl) fun informNow amid hamid => ?_)
  replace h := h.append_signals hamid
  split
  · exact h.of_reason nofun
  refine wp_bind.mpr (marking_ask (fun _ => rfl) fun reload amid hamid => ?_)
  replace h := h.append_signals hamid
  split
  -- only the reload reads before it returns
  · refine wp_bind.mpr (marking_refresh fun updated _ before after hbefore hafter => ?_)
    exact ((h.append_signals hbefore).read updated).append_signals hafter
  · split
    · exact h.of_reason nofun
    · exact h

theorem marking_waitForNextInform (hfresh : Always Fresh marks) (hcurrent : Current config marks) :
    marking true (waitForNextInform config) AfterWake marks := by
  have hwoke : ∀ amid, (∀ mark ∈ amid, mark.isSignal) →
      AfterWake (none, config) (.woke :: (amid ++ marks)) := by
    intro amid hamid
    exact ⟨⟨trivial, (always_fresh_append_signals hamid).mpr hfresh⟩,
      hcurrent.append_signals hamid, rfl, nofun⟩
  unfold waitForNextInform
  split
  · exact wp_bind.mpr (wp_notedAmid_ask_iff.mpr fun signaled _ amid hamid =>
      marking_wakeReason (hwoke amid hamid))
  · exact wp_bind.mpr (wp_notedAmid_ask_iff.mpr fun signaled _ amid hamid =>
      marking_wakeReason (hwoke amid hamid))

/-- The start reads the configuration, or ends with code 1. -/
theorem marking_start {ready : Bool} :
    marking ready Daemon.start (fun daemon marks => ReloadInvariant daemon marks ∧
      (ready = true ∨ ∃ code, daemon.place = .stopped code)) [] := by
  refine wp_bind.mpr (marking_refreshConfig (fun _ => rfl) (fun _ amid hamid => ?_) ?_)
  · exact ⟨reloadInvariant_stopped ((always_fresh_append_signals hamid).mpr trivial),
      Or.inr ⟨1, rfl⟩⟩
  · intro hready updated isChanged before after hbefore hafter hchanged
    obtain rfl := hchanged rfl
    have hnotWoken : wokeSince (before ++ []) = wokeSince [] := wokeSince_append_signals hbefore
    have hread : AfterSession updated (.read updated :: (before ++ [])) :=
      ⟨⟨trivial, (always_fresh_append_signals hbefore).mpr trivial⟩, rfl, hnotWoken⟩
    replace hread := hread.append_signals hafter
    refine wp_bind.mpr (marking_of_calls (calls_restartConnectionRequestServer unmarked_log
      (fun _ => rfl) (fun _ _ => rfl) _) fun _ amid hamid => ?_)
    replace hread := hread.append_signals hamid
    refine wp_bind.mpr (marking_ask (fun _ => rfl) fun _ amid hamid => ?_)
    replace hread := hread.append_signals hamid
    refine wp_bind.mpr (wp_notedAmid_ask_iff.mpr fun _ _ amid hamid => ?_)
    replace hread := hread.append_signals hamid
    refine ⟨⟨⟨trivial, hread.fresh⟩, Or.inr hread.current, fun _ hwoke => ?_, nofun⟩,
      Or.inl hready⟩
    exact absurd (hwoke.symm.trans hread.notWoken) nofun

/-- Every round that meets the guard keeps the invariant. -/
theorem marking_round {daemon : Daemon} (h : ReloadInvariant daemon marks)
    (hprompt : Prompt daemon marks) : marking true daemon.round ReloadInvariant marks := by
  obtain ⟨config, events, place⟩ := daemon
  cases place with
  | head =>
      obtain ⟨_, ⟨⟩⟩ | hcurrent := h.current
      refine wp_bind.mpr (marking_ask (fun _ => rfl) fun stopped amid hamid => ?_)
      have hfresh := (always_fresh_append_signals hamid).mpr h.fresh
      have hlater := hcurrent.append_signals hamid
      split
      · exact marking_stop hfresh
      split
      · have hwaiting : ∀ {later : List Mark}, Always Fresh later → Current config later →
            ReloadInvariant ⟨config, events, .waiting⟩ later :=
          fun hfresh hcurrent => ⟨hfresh, Or.inr hcurrent, nofun, nofun⟩
        split
        · refine wp_bind.mpr (marking_ask (unmarked_log _ _) fun _ amid' hamid' => ?_)
          exact hwaiting ((always_fresh_append_signals hamid').mpr hfresh)
            (hlater.append_signals hamid')
        · exact hwaiting hfresh hlater
      · rename_i hidle
        have hactive : active config = true := by simpa using hidle
        -- after a wake-up the overwrite has seen to it, otherwise the guard says that nothing
        -- is pending
        have hlead : ReadSince (beforeLead marks) marks (httpConfig config) := by
          cases hwoke : wokeSince marks with
          | true => exact h.head rfl hwoke hactive
          | false => exact hcurrent.readSince (beforeLead_suffix _) (hprompt hwoke hactive)
        apply marking_inform hfresh hlater
        rw [Fresh, beforeLead_append_signals hamid]
        exact hlead.append amid
  | waiting =>
      obtain ⟨_, ⟨⟩⟩ | hcurrent := h.current
      refine wp_bind.mpr (wp_mono (marking_waitForNextInform h.fresh hcurrent) ?_)
      rintro ⟨wake, config'⟩ later hwake
      cases wake with
      | none => exact ⟨hwake.fresh, Or.inr hwake.current, nofun, nofun⟩
      | some reason =>
          -- a reload was read when it was taken, which the overwrite relies on
          have hoverwrite : ReloadInvariant ⟨config', events, .overwrite (.woke reason)⟩
              later := by
            refine ⟨hwake.fresh, Or.inr hwake.current, nofun, ?_⟩
            rintro cause ⟨⟩
            exact ⟨hwake.woken, fun hreload => hwake.reloaded (congrArg some hreload)⟩
          cases reason with
          | stop => exact marking_stop hwake.fresh
          | _ => exact hoverwrite
  | overwrite cause =>
      obtain ⟨_, ⟨⟩⟩ | hcurrent := h.current
      refine wp_bind.mpr (wp_notedAmid_ask_iff.mpr fun _ _ amid hamid => ?_)
      refine ⟨⟨trivial, (always_fresh_append_signals hamid).mpr h.fresh⟩,
        Or.inr (hcurrent.append_signals hamid), fun _ hwoke hactive => ?_, nofun⟩
      -- the wake-up is the one that leads to the next session
      have hwoken : wokeSince marks = true := (wokeSince_append_signals hamid).symm.trans hwoke
      have hlead : ReadSince (beforeLead marks) marks (httpConfig config) := by
        cases cause with
        | woke reason =>
            by_cases hreload : reason = .reload
            · exact (h.overwrite _ rfl).2 hreload
            · exact hcurrent.readSince (beforeLead_suffix _) (hprompt hreload hactive)
        | configChanged | mockReboot =>
            have hnotWoken : wokeSince marks = false := h.overwrite _ rfl
            rw [hwoken] at hnotWoken
            cases hnotWoken
      show ReadSince (beforeLead (.assigned :: (amid ++ marks))) _ _
      rw [beforeLead, wokeSince_append_signals hamid, if_pos hwoken,
        beforeLead_append_signals hamid]
      exact hlead.append (.assigned :: amid)
  | stopped code => exact h

end Round

/-! ## Runs -/

section Runs

variable {σ : Type} {setup : Setup σ}

theorem Recorded.answeredIf {c : DaemonCall} {answer : daemonCalls.Answer c}
    {entries : List Entry} (h : Recorded setup c answer entries) :
    AnsweredIf setup.ready c answer := by
  cases c with
  | readConfig target => exact isSome_readConfig_eq h
  | _ => trivial

/-- A marked run, seen through its marks alone. -/
theorem marks_of_signalled {α : Type} {program : DaemonProg α} {s s' : World × List Mark}
    {value : α} (hexec : Exec (signalledEnv setup) program s value s') :
    Exec (notedAmid (AnsweredIf setup.ready) Mark.isSignal markOf) program s.2 value s'.2 := by
  refine hexec.map (f := Prod.snd) ?_
  rintro c s answer s' ⟨signals, -, ⟨entries, hrecorded, -⟩, hmarks⟩
  refine ⟨hrecorded.answeredIf, signals.map .signal, ?_, hmarks⟩
  rintro mark hmark
  obtain ⟨signal, -, rfl⟩ := List.mem_map.mp hmark
  trivial

/-- In every run in which no reload is overtaken, every session is fresh. -/
theorem fresh_of_prompt {daemon : Daemon} {world : World} {marks : List Mark}
    (hrun : SignalledRun setup Prompt daemon world marks) : Always Fresh marks := by
  have hinvariant : ReloadInvariant daemon marks ∧
      (setup.ready = true ∨ ∃ code, daemon.place = .stopped code) := by
    induction hrun with
    | start hexec => exact (marks_of_signalled hexec).of_wp marking_start
    | round hrun hguard hexec ih =>
        rename_i daemon world marks daemon' world' marks'
        rcases ih.2 with hready | ⟨code, hstopped⟩
        · have hround := marking_round ih.1 hguard
          rw [← hready] at hround
          exact ⟨(marks_of_signalled hexec).of_wp hround, Or.inl hready⟩
        · -- the daemon does nothing any more
          obtain ⟨config, events, place⟩ := daemon
          obtain rfl : place = .stopped code := hstopped
          obtain ⟨rfl, hsame⟩ := exec_done_iff.mp hexec
          cases hsame
          exact ih
  exact hinvariant.1.fresh

/-- A session that is led to by what came upon an unread reload is not fresh,
unless a configuration is read in between. -/
theorem not_fresh_of_unread {newer between lead : List Mark} {http : HttpConfig}
    (hlead : beforeLead (between ++ lead) = lead) (hunread : unread lead = true)
    (hbetween : ∀ updated, .read updated ∉ between) :
    ¬Always Fresh (newer ++ .opened http :: (between ++ lead)) := by
  intro hfresh
  have hopened : Fresh (.opened http) (between ++ lead) := hfresh.of_append.1
  rw [Fresh, hlead] at hopened
  obtain ⟨later, updated, older, hsplit, -, hreloads⟩ := hopened
  obtain ⟨recent, before, rfl, hrecent⟩ := exists_reload_of_unread hunread
  have holder := hreloads before (List.suffix_append _ _)
  -- the reading would be one of those between the reload and the session
  have hread : Mark.read updated ∈ between ++ recent := by
    rw [← List.append_assoc] at hsplit
    rcases List.append_eq_append_iff.mp hsplit with ⟨gap, -, hgap⟩ | ⟨gap, hgap, hrest⟩
    · have hshort := congrArg List.length hgap
      have hlong := holder.length_le
      simp only [List.length_append, List.length_cons] at hshort hlong
      omega
    · cases gap with
      | nil => exact nomatch (List.cons.inj hrest).1
      | cons mark gap =>
          obtain ⟨rfl, -⟩ := List.cons.inj hrest
          rw [hgap]
          exact List.mem_append_right _ List.mem_cons_self
  rcases List.mem_append.mp hread with hmem | hmem
  · exact hbetween updated hmem
  · exact hrecent updated hmem

/-- `requestReload` and then `requestInformNow`, before the first wait ends. -/
def reloadThenInformNow (marks : List Mark) : DaemonCall → List Signal
  | .wait _ => if .woke ∈ marks then [] else [.request .informNow, .request .reload]
  | _ => []

/-- The session after it has the configuration of before the reload. -/
theorem reloadThenInformNow_not_fresh : ∃ daemon world marks,
    SignalledRun (deviceScenario fun _ => noTask).setup (fun _ _ => True) daemon world marks ∧
      ¬Always Fresh marks := by
  refine ⟨_, _, _, (deviceScenario fun _ => noTask).signalledRun reloadThenInformNow 4
    fun _ _ => trivial, ?_⟩
  generalize hmarks : ((deviceScenario fun _ => noTask).signalledState
    reloadThenInformNow 4).2.2 = marks
  have hsplit : marks = marks.take 1 ++
      .opened (httpConfig (deviceConfig true {})) :: ([.assigned, .woke] ++ marks.drop 4) := by
    rw [← hmarks]
    rfl
  rw [hsplit]
  refine not_fresh_of_unread ?_ ?_ (by simp)
  · rw [← hmarks]
    rfl
  · rw [← hmarks]
    rfl

/-- A reload that is requested alone. -/
def reloadAlone (marks : List Mark) : DaemonCall → List Signal
  | .wait _ => if .woke ∈ marks then [] else [.request .reload]
  | _ => []

theorem reloadAlone_fresh :
    let run := (deviceScenario fun _ => noTask).signalledState reloadAlone 4
    .signal (.request .reload) ∈ run.2.2 ∧ Always Fresh run.2.2 := by
  refine ⟨List.mem_of_getElem? (i := 5) (by decide),
    fresh_of_prompt ((deviceScenario fun _ => noTask).signalledRun reloadAlone 4 fun m hm => ?_)⟩
  match m, hm with
  | 0, _ => exact fun _ _ => by decide
  | 1, _ => exact trivial
  | 2, _ => exact fun hreason => absurd rfl hreason
  | 3, _ => exact fun hwoke => absurd hwoke (by decide)

end Runs

end Tr069d
