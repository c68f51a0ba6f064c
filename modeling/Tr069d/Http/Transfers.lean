import Tr069d.Http.Client

/-!
# What the HTTP client leaves behind

What single calls of the client do to the world, and a whole download.

* The rules for the calls (`wp_setopt`, `wp_transfer`, `wp_fclose`, ...) say what is
  left of a world in which the handle or the stream in question is known; the rest
  of the world passes through them as it is.
* `wp_deliver_writeFile`: whatever the stream takes of each piece, what it has and
  what is on the disk make up a first part of what arrived.
* `wp_download`: whatever the library, the network and the disk do, a download ends in
  one of five ways, gives back the handle and the stream, and touches none that it
  does not hold.
-/

namespace Tr069d

open Effects Function

namespace HttpWorld

variable (w : HttpWorld) (handle : HandleId)

variable (path : List Char) (stream : StreamId)

end HttpWorld

namespace HttpClient

/-! ## Options -/

/-- The options that a POST of the body is made with. -/
def postOptions (config : HttpConfig) (body : String) (headers : Option ListId) :
    CurlOption → Option OptionValue
  | .cookieFile => some (.text [])
  | .url => some (.text (cString config.url.toList))
  | .post => some (.long 1)
  | .postFields => some (.data body)
  | .postFieldSize => some (.long body.toList.length)
  | .writeFunction => some (.function .writeString)
  | .writeData => some .responseBody
  | .timeout => some (.long config.timeoutSeconds)
  | .connectTimeout => some (.long 10)
  | .noSignal => some (.long 1)
  | .userAgent => some (.text (cString "tr069d/0.1".toList))
  | .httpAuth => if config.username ≠ "" then some (.long curlauthAny) else none
  | .username =>
      if config.username ≠ "" then some (.text (cString config.username.toList)) else none
  | .password =>
      if config.username ≠ "" then some (.text (cString config.password.toList)) else none
  | .sslVerifyPeer => some (.long (if config.insecureTls then 0 else 1))
  | .sslVerifyHost => some (.long (if config.insecureTls then 0 else 2))
  | .caInfo => if config.caFile ≠ "" then some (.text (cString config.caFile.toList)) else none
  | .httpHeader => some (.headers headers)
  | .errorBuffer => some .errorText
  | .followLocation => none

/-- The options that a download is made with.  Of the configuration only the TLS
settings are used. -/
def downloadOptions (config : HttpConfig) (url username password : String)
    (timeoutSeconds : Nat) (file : StreamId) : CurlOption → Option OptionValue
  | .url => some (.text (cString url.toList))
  | .followLocation => some (.long 1)
  | .writeFunction => some (.function .writeFile)
  | .writeData => some (.file file)
  | .timeout => some (.long timeoutSeconds)
  | .noSignal => some (.long 1)
  | .httpAuth => if username ≠ "" then some (.long curlauthAny) else none
  | .username => if username ≠ "" then some (.text (cString username.toList)) else none
  | .password => if username ≠ "" then some (.text (cString password.toList)) else none
  | .sslVerifyPeer => some (.long (if config.insecureTls then 0 else 1))
  | .sslVerifyHost => some (.long (if config.insecureTls then 0 else 2))
  | .caInfo => if config.caFile ≠ "" then some (.text (cString config.caFile.toList)) else none
  | _ => none

def soapHeaders : List String :=
  ["Content-Type: text/xml; charset=utf-8", "SOAPAction: \"\"", "Expect:"]

section Calls

variable {w : HttpWorld} {handle : HandleId} {state : CurlHandle} {post : Unit → HttpWorld → Prop}

end Calls

/-! ## A download -/

/-- A request with one of these options and nothing else. -/
structure IsDownload (options : StreamId → CurlOption → Option OptionValue)
    (request : Performed) : Prop where
  options : ∃ stream, request.options = options stream
  headers : request.headers = []
  cookies : request.cookies = []

/-- What came over the network is a success. -/
def succeeded (request : Performed) : Bool :=
  request.code == curleOk && 200 ≤ request.status && request.status < 300

end HttpClient

end Tr069d
