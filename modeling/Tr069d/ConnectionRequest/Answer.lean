import Tr069d.ConnectionRequest.Parameters

/-!
# Answers to the challenge

The `Authorization` header of a client that knows the credentials, and the
request around it.

* `Answer`: the nine parameters, each once and in any order, quoted or as tokens. The
  realm and the nonce are the server's, the response is the digest with
  `qop=auth`; the URI, the count and the client's own nonce are the client's.
* `Answer.gives_of_split`: where no earlier parameter holds `key=`, the scan stops
  at the parameter whose name ends with the key.
* `Envelope`: a request whose first `Authorization` header stands after other
  headers; `headerValue_request` says that the scan for the header finds it.
-/

namespace Tr069d

/-- The parameters of an answer. -/
inductive Key where
  | username
  | realm
  | nonce
  | uri
  | response
  | qop
  | nc
  | cnonce
  | algorithm
  deriving DecidableEq

namespace Key

def all : List Key :=
  [username, realm, nonce, uri, response, qop, nc, cnonce, algorithm]

def text : Key → List Char
  | username => "username".toList
  | realm => "realm".toList
  | nonce => "nonce".toList
  | uri => "uri".toList
  | response => "response".toList
  | qop => "qop".toList
  | nc => "nc".toList
  | cnonce => "cnonce".toList
  | algorithm => "algorithm".toList

theorem mem_all (key : Key) : key ∈ all := by
  cases key <;> decide

theorem isName_text (key : Key) : IsParameterName key.text := by
  cases key <;> decide

/-- What `digestValue` searches for. -/
def needle (key : Key) : List Char :=
  key.text ++ ['=']

end Key

/-- A parameter as a client writes it: in quotes or as a token, with spaces
around. -/
structure Parameter where
  key : Key
  quoted : Bool
  before : Nat := 1
  after : Nat := 0
  deriving DecidableEq

def Parameter.written (value : Key → List Char) (p : Parameter) : List Char :=
  List.replicate p.before ' ' ++ p.key.text ++ '=' ::
    ((if p.quoted then '"' :: (value p.key ++ ['"']) else value p.key) ++
      List.replicate p.after ' ')

/-- The answer of a client that knows the configured credentials, for a method:
each parameter once, in any order. -/
structure Answer (server : ConnectionRequestServer) (method : List Char) where
  uri : List Char
  nc : List Char
  cnonce : List Char
  parameters : List Parameter
  each_once : (parameters.map (·.key)).Perm Key.all
  token_of_unquoted : ∀ p ∈ parameters, p.quoted = false → p.key ∈ [Key.qop, .nc, .algorithm]
  isToken_nc : IsToken nc
  quotable : ∀ text ∈ [server.config.username.toList, server.config.realm.toList, uri, cnonce],
    '"' ∉ text
  one_line : ∀ text ∈ [server.config.username.toList, server.config.realm.toList, uri, nc, cnonce],
    '\n' ∉ text

namespace Answer

variable {server : ConnectionRequestServer} {method : List Char} (a : Answer server method)

/-- The text of each parameter; the response is the digest with `qop=auth`. -/
def value : Key → List Char
  | .username => server.config.username.toList
  | .realm => server.config.realm.toList
  | .nonce => server.nonce
  | .uri => a.uri
  | .response =>
      Digest.response md5Hex server.credentials server.nonce
        (some ⟨a.nc, a.cnonce, "auth".toList⟩) method a.uri
  | .qop => "auth".toList
  | .nc => a.nc
  | .cnonce => a.cnonce
  | .algorithm => "MD5".toList

/-- The value of the `Authorization` header. -/
def header : List Char :=
  "Digest ".toList ++ [','].intercalate (a.parameters.map (Parameter.written a.value))

/-- A character that is no hexadecimal digit and stands in none of the client's
own texts stands in no value. -/
theorem not_mem_value {c : Char} (hhex : isHexDigit c = false)
    (hfixed : c ∉ "auth".toList ∧ c ∉ "MD5".toList)
    (hown : ∀ text ∈ [server.config.username.toList, server.config.realm.toList, a.uri, a.nc,
      a.cnonce], c ∉ text) (key : Key) : c ∉ a.value key := by
  simp only [List.forall_mem_cons] at hown
  obtain ⟨husername, hrealm, huri, hnc, hcnonce, -⟩ := hown
  cases key with
  | username => exact husername
  | realm => exact hrealm
  | nonce => exact server.isDigest_nonce.not_mem hhex
  | uri => exact huri
  | response =>
      exact (isDigest_response server.credentials server.nonce
        (some ⟨a.nc, a.cnonce, "auth".toList⟩) method a.uri).not_mem hhex
  | qop => exact hfixed.1
  | nc => exact hnc
  | cnonce => exact hcnonce
  | algorithm => exact hfixed.2

theorem quote_not_mem_value (key : Key) : '"' ∉ a.value key := by
  have hquotable := a.quotable
  simp only [List.forall_mem_cons] at hquotable
  obtain ⟨husername, hrealm, huri, hcnonce, -⟩ := hquotable
  refine a.not_mem_value (by decide) (by decide) ?_ key
  simp only [List.forall_mem_cons]
  exact ⟨husername, hrealm, huri, a.isToken_nc.1, hcnonce, by simp⟩

theorem newline_not_mem_value (key : Key) : '\n' ∉ a.value key :=
  a.not_mem_value (by decide) (by decide) a.one_line key

theorem isToken_value {p : Parameter} (hp : p ∈ a.parameters) (hunquoted : p.quoted = false) :
    IsToken (a.value p.key) := by
  have hkey := a.token_of_unquoted p hp hunquoted
  have hqop : IsToken "auth".toList := ⟨by decide, by decide, by decide⟩
  have halgorithm : IsToken "MD5".toList := ⟨by decide, by decide, by decide⟩
  simp only [List.mem_cons, List.not_mem_nil, or_false] at hkey
  rcases hkey with hkey | hkey | hkey
  · exact hkey ▸ hqop
  · exact hkey ▸ a.isToken_nc
  · exact hkey ▸ halgorithm

/-- Where no earlier parameter holds `key=`, the first `key=` is that of a
parameter whose name ends with the key. -/
theorem gives_of_split {key : Key} {stem : List Char} {p : Parameter}
    {earlier later : List Parameter} (hsplit : a.parameters = earlier ++ p :: later)
    (hkey : p.key.text = stem ++ key.text) (hstem : '=' ∉ stem)
    (hearlier : ∀ q ∈ earlier, ¬key.needle <:+: q.written a.value) :
    Gives a.header key.text (a.value p.key) := by
  have hp : p ∈ a.parameters := hsplit ▸ List.mem_append_right _ (List.mem_cons_self ..)
  have hwritten : p.written a.value = List.replicate p.before ' ' ++ (stem ++ key.text) ++ '=' ::
      ((if p.quoted then '"' :: (a.value p.key ++ ['"']) else a.value p.key) ++
        List.replicate p.after ' ') := by
    rw [← hkey]
    rfl
  have hearlier' : ∀ text ∈ earlier.map (Parameter.written a.value),
      ¬key.text ++ ['='] <:+: text :=
    List.forall_mem_map.mpr hearlier
  have hfirst := @firstAt_parameter _ _ _ _ _ (later.map (Parameter.written a.value)) _
    key.isName_text hstem hwritten hearlier'
  rw [← List.map_cons, ← List.map_append, ← hsplit] at hfirst
  exact ⟨_, _, hfirst,
    parameterText_written (fun _ => a.quote_not_mem_value p.key) (a.isToken_value hp) _⟩

theorem digest_prefix_header : "Digest ".toList <+: a.header :=
  List.prefix_append ..

theorem newline_not_mem_written (p : Parameter) : '\n' ∉ p.written a.value := by
  have hspaces : ∀ n, '\n' ∉ List.replicate n ' ' := fun n hmem =>
    absurd (List.eq_of_mem_replicate hmem) (by decide)
  have hkey : '\n' ∉ p.key.text := by
    cases p.key <;> decide
  have hvalue := a.newline_not_mem_value p.key
  unfold Parameter.written
  cases p.quoted <;> simp [hspaces, hkey, hvalue]

theorem newline_not_mem_header : '\n' ∉ a.header := by
  have hjoined : '\n' ∉ [','].intercalate (a.parameters.map (Parameter.written a.value)) := by
    refine not_mem_intercalate (by decide) fun text htext => ?_
    obtain ⟨p, -, rfl⟩ := List.mem_map.mp htext
    exact a.newline_not_mem_written p
  intro hmem
  rcases List.mem_append.mp hmem with hscheme | hmem
  · exact absurd hscheme (by decide)
  · exact hjoined hmem

end Answer

/-! ### The request around an answer -/

/-- A request whose first `Authorization` header stands after other headers,
under its name in any letter case. -/
structure Envelope where
  method : List Char
  lineRest : List Char
  earlier : List (List Char)
  name : List Char
  blanks : List Char
  rest : List Char
  space_not_mem_method : ' ' ∉ method
  requestLine_free : ¬crlf <:+: method ++ ' ' :: lineRest
  earlier_headers : ∀ line ∈ earlier, line ≠ [] ∧ ¬crlf <:+: line ∧
    headerLineValue "Authorization".toList line = none
  name_same : sameIgnoringCase name "Authorization".toList
  name_plain : ':' ∉ name ∧ '\n' ∉ name
  blanks_blank : ∀ c ∈ blanks, c = ' ' ∨ c = '\t'

namespace Envelope

variable (e : Envelope) {auth : List Char}

def authorizationLine (auth : List Char) : List Char :=
  e.name ++ ':' :: (e.blanks ++ auth)

/-- The request with a value for the header. -/
def request (auth : List Char) : List Char :=
  ((e.method ++ ' ' :: e.lineRest) :: (e.earlier ++ [e.authorizationLine auth])).flatMap
    (· ++ crlf) ++ e.rest

theorem requestLine_request (auth : List Char) :
    requestLine (e.request auth) = e.method ++ ' ' :: e.lineRest := by
  have hfound : splitAtFirst crlf (e.request auth) = some (e.method ++ ' ' :: e.lineRest,
      (e.earlier ++ [e.authorizationLine auth]).flatMap (· ++ crlf) ++ e.rest) := by
    refine (splitAtFirst_eq_some_iff crlf_ne_nil).mpr
      ⟨?_, not_crlf_infix_append e.requestLine_free⟩
    simp only [request, List.flatMap_cons, List.append_assoc]
  unfold requestLine
  rw [hfound]

theorem requestMethod_request (auth : List Char) : requestMethod (e.request auth) = e.method := by
  have hfound : splitAtFirst [' '] (e.method ++ ' ' :: e.lineRest) =
      some (e.method, e.lineRest) :=
    (splitAtFirst_eq_some_iff (List.cons_ne_nil _ _)).mpr
      ⟨by simp, not_singleton_infix_of_not_mem e.space_not_mem_method⟩
  unfold requestMethod
  rw [requestLine_request, hfound]

theorem headerLineValue_authorizationLine (hauth : ∀ c ∈ auth.head?, c ≠ ' ' ∧ c ≠ '\t') :
    headerLineValue "Authorization".toList (e.authorizationLine auth) = some auth :=
  headerLineValue_eq_some_iff.mpr
    ⟨e.name, e.blanks, rfl, e.name_plain.1, e.name_same, e.blanks_blank, hauth⟩

/-- The header scan passes the other headers and returns the answer. -/
theorem headerValue_request (hline : '\n' ∉ auth)
    (hauth : ∀ c ∈ auth.head?, c ≠ ' ' ∧ c ≠ '\t') :
    headerValue (e.request auth) "Authorization".toList = auth := by
  have hcrlf : ∀ text : List Char, '\n' ∉ text → ¬crlf <:+: text := fun text htext hstands =>
    htext (hstands.subset (by decide))
  have hblanks : '\n' ∉ e.blanks := fun hmem => by
    rcases e.blanks_blank _ hmem with h | h <;> exact absurd h (by decide)
  have hown : '\n' ∉ e.authorizationLine auth := by
    simp only [authorizationLine, List.mem_append, List.mem_cons, not_or]
    exact ⟨e.name_plain.2, by decide, hblanks, hline⟩
  -- no line of the header block contains a line end, so the scan sees exactly these lines
  have hfree : ∀ line ∈
      (e.method ++ ' ' :: e.lineRest) :: (e.earlier ++ [e.authorizationLine auth]),
      ¬crlf <:+: line ++ crlf.dropLast := by
    intro line hmem
    apply not_crlf_infix_append
    rcases List.mem_cons.mp hmem with rfl | hmem
    · exact e.requestLine_free
    rcases List.mem_append.mp hmem with hmem | hmem
    · exact (e.earlier_headers line hmem).2.1
    · exact List.mem_singleton.mp hmem ▸ hcrlf _ hown
  have hfull : ∀ line ∈ e.earlier ++ [e.authorizationLine auth], decide (line ≠ []) = true := by
    intro line hmem
    rcases List.mem_append.mp hmem with hmem | hmem
    · exact decide_eq_true (e.earlier_headers line hmem).1
    · rw [List.mem_singleton.mp hmem]
      simp [authorizationLine]
  -- the earlier lines are other headers, the next one is the answer
  unfold headerValue headerLines request
  rw [terminatedLines_flatMap_append _ crlf_ne_nil hfree, List.cons_append, List.drop_one,
    List.tail_cons, List.takeWhile_append_of_pos hfull, List.findSome?_append,
    List.findSome?_append, List.findSome?_eq_none_iff.mpr fun line hmem =>
      (e.earlier_headers line hmem).2.2]
  simp only [List.findSome?_cons, e.headerLineValue_authorizationLine hauth]
  rfl

end Envelope

end Tr069d
