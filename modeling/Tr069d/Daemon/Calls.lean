import Tr069d.Daemon.Loop
import Tr069d.Effects.Calls

/-!
# Which calls the parts of a round make

Most of a round only logs, stores a flag or handles the connection request
server.  What an environment does at these calls, it does in these parts.

Such a part is `calls_` and its name, with the calls that it makes as a predicate; the
invariants of the other modules then only say what they do with these calls.
-/

namespace Tr069d.Daemon

open Effects

variable {P : DaemonCall → Prop}

section Logging

variable (hlog : ∀ level message, P (.log level message))

include hlog

theorem calls_log (level : LogLevel) (message : String) : (log level message).Calls P :=
  Prog.calls_ask (hlog level message)

theorem calls_logConfigChange (key before after : String) :
    (logConfigChange key before after).Calls P := by
  unfold logConfigChange
  split
  · exact calls_log hlog _ _
  · exact Prog.calls_pure ()

theorem calls_logConfigDiff (before after : DaemonConfig) :
    (logConfigDiff before after).Calls P := by
  unfold logConfigDiff
  iterate 11 refine (calls_logConfigChange hlog _ _ _).bind fun _ => ?_
  exact calls_logConfigChange hlog _ _ _

theorem calls_logUpdate (initial : Bool) (previous config : DaemonConfig) :
    (logUpdate initial previous config).Calls P := by
  unfold logUpdate
  cases initial with
  | true => exact (calls_log hlog _ _).bind fun _ => calls_log hlog _ _
  | false =>
      exact (calls_logConfigDiff hlog _ _).bind fun _ =>
        (calls_log hlog _ _).bind fun _ => calls_log hlog _ _

theorem calls_preserveUrl (initial : Bool) (previous updated : DaemonConfig) :
    (preserveUrl initial previous updated).Calls P := by
  unfold preserveUrl
  split
  · exact (calls_log hlog _ _).bind fun _ => Prog.calls_pure _
  · exact Prog.calls_pure _

theorem calls_restartConnectionRequestServer (hstop : P .stopServer)
    (hstart : ∀ config, P (.startServer config)) (config : DaemonConfig) :
    (restartConnectionRequestServer config).Calls P := by
  unfold restartConnectionRequestServer
  refine (calls_log hlog _ _).bind fun _ => (Prog.calls_ask hstop).bind fun _ => ?_
  split
  · exact calls_log hlog _ _
  · refine (Prog.calls_ask (hstart _)).bind fun started => ?_
    split
    · exact Prog.calls_pure ()
    · exact calls_log hlog _ _

end Logging

section Refreshing

variable (hlog : ∀ level message, P (.log level message)) (hstop : P .stopServer)
  (hstart : ∀ config, P (.startServer config)) (hread : ∀ target, P (.readConfig target))

include hlog hstop hstart hread

theorem calls_refreshConfig (initial : Bool) (previous : DaemonConfig) :
    (refreshConfig initial previous).Calls P := by
  unfold refreshConfig
  refine (Prog.calls_ask (hread previous)).bind fun answer => ?_
  cases answer with
  | none => exact Prog.calls_pure _
  | some read =>
      refine (calls_preserveUrl hlog _ _ _).bind fun updated => ?_
      have hupdate := calls_logUpdate hlog initial previous updated
      have hrestart := calls_restartConnectionRequestServer hlog hstop hstart updated
      dsimp only
      split <;> split
      · exact hrestart.bind fun _ => hupdate.bind fun _ => Prog.calls_pure _
      · exact hrestart.bind fun _ => Prog.calls_pure _
      · exact hupdate.bind fun _ => Prog.calls_pure _
      · exact Prog.calls_pure _

theorem calls_wakeReason (hstopped : P .stopRequested) (htake : ∀ request, P (.take request))
    (config : DaemonConfig) (signaled : Bool) : (wakeReason config signaled).Calls P := by
  have hflag : ∀ request, (take request).Calls P := fun request => Prog.calls_ask (htake request)
  unfold wakeReason
  refine Prog.Calls.bind (Prog.calls_ask hstopped) fun stopped => ?_
  split
  · exact Prog.calls_pure _
  refine (hflag .connection).bind fun connection => ?_
  split
  · exact Prog.calls_pure _
  refine (hflag .reconnect).bind fun reconnect => ?_
  split
  · exact Prog.calls_pure _
  refine (hflag .informNow).bind fun informNow => ?_
  split
  · exact Prog.calls_pure _
  refine (hflag .reload).bind fun reload => ?_
  split
  · exact (calls_refreshConfig hlog hstop hstart hread _ _).bind fun _ => Prog.calls_pure _
  split
  · exact Prog.calls_pure _
  · exact Prog.calls_pure _

theorem calls_waitForNextInform (hstopped : P .stopRequested)
    (htake : ∀ request, P (.take request)) (hwait : ∀ timeout, P (.wait timeout))
    (config : DaemonConfig) : (waitForNextInform config).Calls P := by
  have hwake := calls_wakeReason hlog hstop hstart hread hstopped htake config
  unfold waitForNextInform
  split
  · exact (Prog.calls_ask (hwait _)).bind fun signaled => hwake signaled
  · exact (Prog.calls_ask (hwait _)).bind fun _ => hwake true

theorem calls_runDownload (hdownload : ∀ request http, P (.download request http))
    (hreport : ∀ http result, P (.transferComplete http result)) (outcome : SessionOutcome)
    (http : HttpConfig) (config : DaemonConfig) : (runDownload outcome http config).Calls P := by
  unfold runDownload
  cases outcome.download with
  | none => exact Prog.calls_pure config
  | some request =>
      refine (Prog.calls_ask (hdownload _ _)).bind fun transfer => ?_
      refine (Prog.calls_ask (hreport _ _)).bind fun reported => ?_
      exact (calls_refreshConfig hlog hstop hstart hread _ _).bind fun _ => Prog.calls_pure _

end Refreshing

theorem calls_stop (hlog : ∀ level message, P (.log level message)) (hstop : P .stopServer)
    (config : DaemonConfig) (events : List String) : (stop config events).Calls P :=
  (Prog.calls_ask hstop).bind fun _ => (calls_log hlog _ _).bind fun _ => Prog.calls_pure _

theorem calls_recordBootstrap (hpersist : ∀ write, P (.persist write))
    (outcome : SessionOutcome) (config : DaemonConfig) :
    (recordBootstrap outcome config).Calls P := by
  unfold recordBootstrap
  split
  · exact (Prog.calls_ask (hpersist _)).bind fun _ => Prog.calls_pure _
  · exact Prog.calls_pure config

theorem calls_clearPendingReboot (hpersist : ∀ write, P (.persist write))
    (outcome : SessionOutcome) (events : List String) (config : DaemonConfig) :
    (clearPendingReboot outcome events config).Calls P := by
  unfold clearPendingReboot
  split
  · exact (Prog.calls_ask (hpersist _)).bind fun _ => Prog.calls_pure _
  · exact Prog.calls_pure config

end Tr069d.Daemon
