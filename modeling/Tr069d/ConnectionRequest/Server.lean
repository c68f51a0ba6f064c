import Tr069d.ConnectionRequest.Md5
import Tr069d.Daemon.Config
import Tr069d.Text.Digest
import Tr069d.Text.Search
import Mathlib.Data.List.DropRight

/-!
# The Connection Request server

How the server answers one request: the scan of the header block, the scan of
the `Authorization` parameters, and the digest check. `accepted_iff` says when
`authorized` lets a request pass. A text is the list of its bytes, each written
as the character of that number.

The functions stand under their names in the source: `headerValue` and `digestValue` are
the two scans, `authorized` is the check, and `serve` one connection.  `Answered` collects
what `authorized` asks of the parameters, so that the modules after this one do not
unfold it.
-/

namespace Tr069d

def crlf : List Char :=
  ['\r', '\n']

/-- What `c_str` shows of a text. -/
def cString (text : List Char) : List Char :=
  text.takeWhile (· ≠ '\x00')

/-- `strcasecmp(left, right) == 0` -/
def sameIgnoringCase (left right : List Char) : Bool :=
  (cString left).map Char.toLower = (cString right).map Char.toLower

/-- `std::tolower` over a text. -/
def lowerCase (text : List Char) : List Char :=
  text.map Char.toLower

/-- The value a header line gives under a name. -/
def headerLineValue (name line : List Char) : Option (List Char) :=
  match splitAtFirst [':'] line with
  | some (headerName, value) =>
      if sameIgnoringCase headerName name then
        some (value.dropWhile fun c => c = ' ' || c = '\t')
      else none
  | none => none

/-- The lines the scan for a header visits: those after the request line, up to
an empty one or one that no line break ends. -/
def headerLines (request : List Char) : List (List Char) :=
  ((terminatedLines crlf request).drop 1).takeWhile (· ≠ [])

def headerValue (request name : List Char) : List Char :=
  ((headerLines request).findSome? (headerLineValue name)).getD []

/-- The value after `key=`: up to the next quote, or else up to a comma and
without the spaces before it. -/
def parameterText : List Char → List Char
  | '"' :: rest => rest.takeWhile (· ≠ '"')
  | rest => (rest.takeWhile (· ≠ ',')).rdropWhile (· = ' ')

def digestValue (auth key : List Char) : List Char :=
  match splitAtFirst (key ++ ['=']) auth with
  | some (_, rest) => parameterText rest
  | none => []

structure ConnectionRequestServer where
  config : ConnectionRequestConfig
  nonce : List Char
  isDigest_nonce : IsDigest nonce

/-- What `authorized` returns and the line it logs. -/
structure Verdict where
  accepted : Bool
  log : Option (LogLevel × List Char)

namespace ConnectionRequestServer

/-- The constructor: a fresh nonce from the clock and a random number. -/
def create (config : ConnectionRequestConfig) (now random : Nat) : ConnectionRequestServer where
  config := config
  nonce := md5Hex (config.realm.toList ++ (toString now).toList ++ (toString random).toList)
  isDigest_nonce := isDigest_md5Hex _

def authorized (server : ConnectionRequestServer) (request method : List Char) : Verdict :=
  if lowerCase server.config.auth.toList = "none".toList then ⟨true, none⟩
  else
    let auth := headerValue request "Authorization".toList
    if !"Digest ".toList.isPrefixOf auth then
      ⟨false, some (.warn, "[CONNECTION_REQUEST] digest authorization missing".toList)⟩
    else
      let username := digestValue auth "username".toList
      let realm := digestValue auth "realm".toList
      let nonce := digestValue auth "nonce".toList
      let uri := digestValue auth "uri".toList
      let response := digestValue auth "response".toList
      let qop := digestValue auth "qop".toList
      let nc := digestValue auth "nc".toList
      let cnonce := digestValue auth "cnonce".toList
      if username ≠ server.config.username.toList ∨ realm ≠ server.config.realm.toList ∨
          nonce ≠ server.nonce ∨ uri = [] then
        ⟨false, some (.warn,
          "[CONNECTION_REQUEST] digest authorization rejected username=".toList ++ username ++
          " realm=".toList ++ realm ++ " uri=".toList ++
          if uri = [] then "<empty>".toList else uri)⟩
      else
        let ha1 := md5Hex (username ++ ":".toList ++ realm ++ ":".toList ++
          server.config.password.toList)
        let ha2 := md5Hex (method ++ ":".toList ++ uri)
        let expected :=
          if qop = [] then md5Hex (ha1 ++ ":".toList ++ nonce ++ ":".toList ++ ha2)
          else md5Hex (ha1 ++ ":".toList ++ nonce ++ ":".toList ++ nc ++ ":".toList ++ cnonce ++
            ":".toList ++ qop ++ ":".toList ++ ha2)
        let ok := decide (response = expected)
        ⟨ok, some (.info, "[CONNECTION_REQUEST] digest authorization ".toList ++
          (if ok then "accepted".toList else "rejected".toList) ++ " username=".toList ++
          username ++ " uri=".toList ++ uri)⟩

def challenge (server : ConnectionRequestServer) : List Char :=
  "HTTP/1.1 401 Unauthorized\r\nWWW-Authenticate: Digest ".toList ++
    "realm=\"".toList ++ server.config.realm.toList ++
    "\", nonce=\"".toList ++ server.nonce ++ "\", algorithm=MD5, qop=\"auth\"\r\n".toList ++
    "Content-Length: 0\r\nConnection: close\r\n\r\n".toList

end ConnectionRequestServer

def requestLine (request : List Char) : List Char :=
  match splitAtFirst crlf request with
  | some (line, _) => line
  | none => request

def requestMethod (request : List Char) : List Char :=
  match splitAtFirst [' '] (requestLine request) with
  | some (method, _) => method
  | none => []

def noContentResponse : List Char :=
  ("HTTP/1.1 204 No Content\r\nContent-Length: 0\r\nCache-Control: no-store\r\n" ++
    "Connection: close\r\n\r\n").toList

def badRequestResponse : List Char :=
  "HTTP/1.1 400 Bad Request\r\nContent-Length: 0\r\nConnection: close\r\n\r\n".toList

/-- One turn of `serve`: what is sent back, and whether `onRequest` is called. -/
def ConnectionRequestServer.serve (server : ConnectionRequestServer) (request : List Char) :
    List Char × Bool :=
  let method := requestMethod request
  if method = [] then (badRequestResponse, false)
  else if (server.authorized request method).accepted then (noContentResponse, true)
  else (server.challenge, false)

/-! ### What the check asks for -/

theorem isDigest_response (client : Digest.Credentials) (nonce : List Char)
    (protection : Option Digest.Protection) (method uri : List Char) :
    IsDigest (Digest.response md5Hex client nonce protection method uri) := by
  unfold Digest.response
  split
  · exact isDigest_md5Hex _
  · exact isDigest_md5Hex _

/-- The quality of protection the parameters name. -/
def protectionOf (auth : List Char) : Option Digest.Protection :=
  if digestValue auth "qop".toList = [] then none
  else
    some
      { nc := digestValue auth "nc".toList
        cnonce := digestValue auth "cnonce".toList
        qop := digestValue auth "qop".toList }

namespace ConnectionRequestServer

variable {server : ConnectionRequestServer} {request method : List Char}

/-- The server asks for no credentials. -/
def Open (server : ConnectionRequestServer) : Prop :=
  lowerCase server.config.auth.toList = "none".toList

instance (server : ConnectionRequestServer) : Decidable server.Open :=
  inferInstanceAs (Decidable (_ = _))

def credentials (server : ConnectionRequestServer) : Digest.Credentials where
  username := server.config.username.toList
  realm := server.config.realm.toList
  password := server.config.password.toList

/-- The parameters of an `Authorization` value answer the server's challenge
for a method. -/
structure Answered (server : ConnectionRequestServer) (auth method : List Char) : Prop where
  digest : "Digest ".toList <+: auth
  username : digestValue auth "username".toList = server.config.username.toList
  realm : digestValue auth "realm".toList = server.config.realm.toList
  nonce : digestValue auth "nonce".toList = server.nonce
  uri : digestValue auth "uri".toList ≠ []
  response : digestValue auth "response".toList =
    Digest.response md5Hex server.credentials server.nonce (protectionOf auth) method
      (digestValue auth "uri".toList)

/-- The two formulas of the check are the two digest responses. -/
theorem response_eq (server : ConnectionRequestServer) (auth method uri : List Char) :
    Digest.response md5Hex server.credentials server.nonce (protectionOf auth) method uri =
      (let ha1 := md5Hex (server.config.username.toList ++ ":".toList ++
          server.config.realm.toList ++ ":".toList ++ server.config.password.toList)
       let ha2 := md5Hex (method ++ ":".toList ++ uri)
       if digestValue auth "qop".toList = [] then
         md5Hex (ha1 ++ ":".toList ++ server.nonce ++ ":".toList ++ ha2)
       else
         md5Hex (ha1 ++ ":".toList ++ server.nonce ++ ":".toList ++ digestValue auth "nc".toList ++
           ":".toList ++ digestValue auth "cnonce".toList ++ ":".toList ++
           digestValue auth "qop".toList ++ ":".toList ++ ha2)) := by
  unfold protectionOf
  split <;>
    simp [Digest.response, Digest.a1, Digest.a2, Digest.colons, credentials, List.intercalate]

theorem accepted_of_open (h : server.Open) : (server.authorized request method).accepted := by
  unfold Open at h
  simp [authorized, h]

theorem accepted_iff (hclosed : ¬server.Open) :
    (server.authorized request method).accepted ↔
      server.Answered (headerValue request "Authorization".toList) method := by
  unfold Open at hclosed
  unfold authorized
  rw [if_neg hclosed]
  -- the header is read once, and the checks of the source follow one by one
  generalize headerValue request "Authorization".toList = auth
  dsimp only
  split
  · rename_i hmissing
    refine iff_of_false Bool.false_ne_true fun h => ?_
    rw [List.isPrefixOf_iff_prefix.mpr h.digest] at hmissing
    exact absurd hmissing (by decide)
  · rename_i hdigest
    have hstarts : "Digest ".toList <+: auth := by
      rwa [Bool.not_eq_true, Bool.not_eq_false', List.isPrefixOf_iff_prefix] at hdigest
    split
    · rename_i hwrong
      refine iff_of_false Bool.false_ne_true fun h => ?_
      rcases hwrong with husername | hrealm | hnonce | huri
      · exact husername h.username
      · exact hrealm h.realm
      · exact hnonce h.nonce
      · exact h.uri huri
    · rename_i hright
      simp only [not_or, not_not] at hright
      obtain ⟨husername, hrealm, hnonce, huri⟩ := hright
      -- what is left is the comparison of the response
      rw [husername, hrealm, hnonce, decide_eq_true_iff]
      constructor
      · intro hresponse
        exact ⟨hstarts, husername, hrealm, hnonce, huri, hresponse.trans (response_eq ..).symm⟩
      · intro h
        exact h.response.trans (response_eq ..)

end ConnectionRequestServer

end Tr069d
