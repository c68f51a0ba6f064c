import Tr069d.ConnectionRequest.Server
import Tr069d.Daemon.Loop

/-!
# The HTTP client

`HttpClient.cpp`, over the calls it makes into libcurl and the C library.  These
are not under its control: `httpEnv` says what they are documented to do to handles,
header lists, streams and files, and leaves free what the network and the disk
decide.  A call on a handle, a list or a stream that does not exist any more is
recorded as a misuse.

* Memory may run out in `curl_easy_init` and in `curl_slist_append`.  The second is
  not checked: the next line begins a new list, and the lines before it are neither
  sent nor given back.
* `curl_easy_setopt` is taken to succeed.  It may run out of memory too when it copies
  a text, and the client ignores what it returns.
* Texts are passed as C strings, a body is passed with its length.
-/

namespace Tr069d

open Effects Function

abbrev HandleId : Type := Nat

abbrev StreamId : Type := Nat

abbrev ListId : Type := Nat

/-- The options of a handle that the client sets. -/
inductive CurlOption
  | cookieFile
  | url
  | post
  | postFields
  | postFieldSize
  | writeFunction
  | writeData
  | timeout
  | connectTimeout
  | noSignal
  | userAgent
  | httpAuth
  | username
  | password
  | sslVerifyPeer
  | sslVerifyHost
  | caInfo
  | httpHeader
  | errorBuffer
  | followLocation
  deriving DecidableEq

/-- The two write functions of the client. -/
inductive WriteFunction
  | writeString
  | writeFile
  deriving DecidableEq

/-- What an option is set to: a number, a C string, a function, or a pointer. -/
inductive OptionValue
  | long (value : Int)
  | text (value : List Char)
  | function (write : WriteFunction)
  | data (body : String)
  | responseBody
  | errorText
  | file (stream : StreamId)
  /-- a header list, or `NULL` -/
  | headers (list : Option ListId)
  deriving DecidableEq

/-- `CURLE_OK` and `CURLE_WRITE_ERROR` -/
def curleOk : Nat := 0

def curleWriteError : Nat := 23

/-- `CURLAUTH_ANY`, every method but `CURLAUTH_DIGEST_IE` -/
def curlauthAny : Int := -17

/-- What the network does during `curl_easy_perform`: what arrives, in the pieces
in which it is handed over to the write function that is set, and the result. -/
structure Transfer where
  chunks : List (List Char)
  write : Option OptionValue
  userdata : Option OptionValue
  code : Nat

inductive HttpCall
  | easyInit
  | setopt (handle : HandleId) (option : CurlOption) (value : OptionValue)
  | reset (handle : HandleId)
  | transfer (handle : HandleId)
  | responseCode (handle : HandleId)
  /-- what the transfer left in the error buffer -/
  | errorText (handle : HandleId)
  | strerror (code : Nat)
  | cleanup (handle : HandleId)
  | slistAppend (list : Option ListId) (text : String)
  | slistFreeAll (list : Option ListId)
  | fopen (path : List Char)
  | fwrite (stream : StreamId) (bytes : List Char)
  | fclose (stream : StreamId)
  | remove (path : List Char)
  /-- a write function whose `userdata` points to something else -/
  | miscast

abbrev httpCalls : Signature where
  Call := HttpCall
  Answer
    | .easyInit => Option HandleId
    | .transfer _ => Transfer
    | .responseCode _ => Int
    | .errorText _ => List Char
    | .strerror _ => String
    | .slistAppend _ _ => Option ListId
    | .fopen _ => Option StreamId
    | .fwrite _ _ => Nat
    | .fclose _ | .remove _ => Bool
    | .setopt _ _ _ | .reset _ | .cleanup _ | .slistFreeAll _ | .miscast => Unit

abbrev HttpProg (α : Type) : Type := Prog httpCalls α

/-! ## The client -/

structure HttpClient where
  config : HttpConfig
  handle : Option HandleId

namespace HttpClient

def setopt (handle : HandleId) (option : CurlOption) (value : OptionValue) : HttpProg Unit :=
  @Prog.ask httpCalls (.setopt handle option value)

/-- An option that is set to `text.c_str()`. -/
def setText (handle : HandleId) (option : CurlOption) (text : String) : HttpProg Unit :=
  setopt handle option (.text (cString text.toList))

/-- The constructor. -/
def construct (config : HttpConfig) : HttpProg HttpClient := do
  match ← @Prog.ask httpCalls .easyInit with
  | none => return { config, handle := none }
  | some handle => do
      setText handle .cookieFile ""
      return { config, handle := some handle }

/-- The destructor. -/
def destroy (client : HttpClient) : HttpProg Unit :=
  match client.handle with
  | none => return ()
  | some handle => @Prog.ask httpCalls (.cleanup handle)

/-- `writeString` or `writeFile`, on one piece: how much of it was taken care of, and
what the response's body is then. -/
def write (function userdata : Option OptionValue) (chunk : List Char) (body : String) :
    HttpProg (Nat × String) :=
  match function, userdata with
  | some (.function .writeString), some .responseBody =>
      return (chunk.length, body ++ String.ofList chunk)
  | some (.function .writeFile), some (.file stream) => do
      let taken ← @Prog.ask httpCalls (.fwrite stream chunk)
      return (taken, body)
  | _, _ => do
      @Prog.ask httpCalls .miscast
      return (0, body)

/-- libcurl hands over one piece after the other, until one is not taken whole. -/
def deliver (function userdata : Option OptionValue) :
    List (List Char) → String → HttpProg (Bool × String)
  | [], body => return (true, body)
  | chunk :: rest, body => do
      let (taken, body) ← write function userdata chunk body
      if taken = chunk.length then deliver function userdata rest body
      else return (false, body)

/-- `curl_easy_perform`: its result, and the body that `writeString` appended to. -/
def perform (handle : HandleId) : HttpProg (Nat × String) := do
  let transfer ← @Prog.ask httpCalls (.transfer handle)
  let (delivered, body) ← deliver transfer.write transfer.userdata transfer.chunks ""
  return (if delivered then transfer.code else curleWriteError, body)

def applyTls (config : HttpConfig) (handle : HandleId) : HttpProg Unit := do
  setopt handle .sslVerifyPeer (.long (if config.insecureTls then 0 else 1))
  setopt handle .sslVerifyHost (.long (if config.insecureTls then 0 else 2))
  if config.caFile ≠ "" then setText handle .caInfo config.caFile

/-- The credentials, if there is a username. -/
def applyCredentials (username password : String) (handle : HandleId) : HttpProg Unit := do
  if username ≠ "" then
    setopt handle .httpAuth (.long curlauthAny)
    setText handle .username username
    setText handle .password password

def post (client : HttpClient) (body : String) : HttpProg HttpResponse := do
  match client.handle with
  | none => return { error := "curl_easy_init failed" }
  | some handle => do
      let config := client.config
      @Prog.ask httpCalls (.reset handle)
      setText handle .cookieFile ""
      setText handle .url config.url
      setopt handle .post (.long 1)
      setopt handle .postFields (.data body)
      setopt handle .postFieldSize (.long body.toList.length)
      setopt handle .writeFunction (.function .writeString)
      setopt handle .writeData .responseBody
      setopt handle .timeout (.long config.timeoutSeconds)
      setopt handle .connectTimeout (.long 10)
      setopt handle .noSignal (.long 1)
      setText handle .userAgent "tr069d/0.1"
      applyCredentials config.username config.password handle
      applyTls config handle
      let headers ← @Prog.ask httpCalls
        (.slistAppend none "Content-Type: text/xml; charset=utf-8")
      -- an append that fails returns `NULL`, and the list so far is lost
      let headers ← @Prog.ask httpCalls (.slistAppend headers "SOAPAction: \"\"")
      let headers ← @Prog.ask httpCalls (.slistAppend headers "Expect:")
      setopt handle .httpHeader (.headers headers)
      setopt handle .errorBuffer .errorText
      let (code, received) ← perform handle
      @Prog.ask httpCalls (.slistFreeAll headers)
      let error ← errorOf handle code
      let status ← @Prog.ask httpCalls (.responseCode handle)
      return { status, body := received, error }
where
  /-- the error buffer, or the library's text for the code if it is empty -/
  errorOf (handle : HandleId) (code : Nat) : HttpProg String := do
    if code = curleOk then return ""
    else
      let text ← @Prog.ask httpCalls (.errorText handle)
      if text ≠ [] then return String.ofList text
      else @Prog.ask httpCalls (.strerror code)

def download (client : HttpClient) (url username password outputPath : String)
    (timeoutSeconds : Nat) : HttpProg HttpResponse := do
  match ← @Prog.ask httpCalls (.fopen (cString outputPath.toList)) with
  | none => return { error := "Cannot open output file" }
  | some file =>
      match ← @Prog.ask httpCalls .easyInit with
      | none => do
          let _ ← @Prog.ask httpCalls (.fclose file)
          return { error := "curl_easy_init failed" }
      | some downloadHandle => do
          setText downloadHandle .url url
          setopt downloadHandle .followLocation (.long 1)
          setopt downloadHandle .writeFunction (.function .writeFile)
          setopt downloadHandle .writeData (.file file)
          setopt downloadHandle .timeout (.long timeoutSeconds)
          setopt downloadHandle .noSignal (.long 1)
          applyCredentials username password downloadHandle
          applyTls client.config downloadHandle
          let (code, _) ← perform downloadHandle
          finish downloadHandle file (cString outputPath.toList) code
where
  /-- what follows `curl_easy_perform` -/
  finish (downloadHandle : HandleId) (file : StreamId) (path : List Char) (code : Nat) :
      HttpProg HttpResponse := do
    let error ← errorOf code
    let status ← @Prog.ask httpCalls (.responseCode downloadHandle)
    @Prog.ask httpCalls (.cleanup downloadHandle)
    let _ ← @Prog.ask httpCalls (.fclose file)
    let response : HttpResponse := { status, error }
    if !response.ok then
      let _ ← @Prog.ask httpCalls (.remove path)
    return response
  errorOf (code : Nat) : HttpProg String :=
    if code = curleOk then return "" else @Prog.ask httpCalls (.strerror code)

end HttpClient

/-! ## The library, the network and the disk -/

/-- A handle: its options, the cookies it holds, and the last status it received. -/
structure CurlHandle where
  options : CurlOption → Option OptionValue := fun _ => none
  cookies : List String := []
  responseCode : Int := 0

/-- A stream that is open for writing, and what is not on the disk yet. -/
structure OutputStream where
  path : List Char
  buffer : List Char := []

/-- A request: the options, header lines and cookies it was made with, what arrived,
the library's result and the status, and the cookies it left. -/
structure Performed where
  options : CurlOption → Option OptionValue
  headers : List String
  cookies : List String
  chunks : List (List Char)
  code : Nat
  status : Int
  cookiesLeft : List String

/-- What the process did outside of its memory. -/
inductive HttpEvent
  | performed (request : Performed)
  /-- a stream was closed, and this much could not be written -/
  | closed (path lost : List Char)
  | removed (path : List Char) (done : Bool)

/-- The library and the files.  `unmet` counts the appends that found no memory. -/
structure HttpWorld where
  handles : HandleId → Option CurlHandle := fun _ => none
  lists : ListId → Option (List String) := fun _ => none
  streams : StreamId → Option OutputStream := fun _ => none
  files : List Char → Option (List Char) := fun _ => none
  misused : Bool := false
  unmet : Nat := 0
  history : List HttpEvent := []

namespace HttpWorld

def withHandle (w : HttpWorld) (handle : HandleId) (state : Option CurlHandle) : HttpWorld :=
  { w with handles := update w.handles handle state }

def withList (w : HttpWorld) (list : ListId) (lines : Option (List String)) : HttpWorld :=
  { w with lists := update w.lists list lines }

/-- The stream is closed, and the file is what it is. -/
def closed (w : HttpWorld) (path : List Char) (stream : StreamId) (onDisk lost : List Char) :
    HttpWorld :=
  { w with
    files := update w.files path (some onDisk)
    streams := update w.streams stream none
    history := .closed path lost :: w.history }

def removed (w : HttpWorld) (path : List Char) (done : Bool) : HttpWorld :=
  { w with
    files := if done then update w.files path none else w.files
    history := .removed path done :: w.history }

def noted (w : HttpWorld) (event : HttpEvent) : HttpWorld :=
  { w with history := event :: w.history }

/-- The lines of the header list that is set, if one is. -/
def headerLines (w : HttpWorld) (options : CurlOption → Option OptionValue) :
    Option (List String) :=
  match options .httpHeader with
  | some (.headers (some list)) => w.lists list
  | _ => some []

end HttpWorld

end Tr069d
