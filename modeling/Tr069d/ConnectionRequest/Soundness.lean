import Tr069d.ConnectionRequest.Parameters

/-!
# What an accepted request proves

A request the server accepts carries the digest of the configured credentials,
over the server's nonce, the method of its own request line, and the URI and
quality of protection of its own header.

* `Authenticates` says so of every header, in terms of the texts that the scan
  reads in it: those after the first textual `username=`, `realm=` and so on.
* `AuthenticatesBy` says so of a list of parameters, each by its own name.
* `authenticates_of_accepted`: the first holds of the `Authorization` header of every
  accepted request, the second where that header is a list of parameters none
  of whose checked names is shadowed.

The server compares neither the URI with the target of the request line nor the
quality of protection with the one it offers (`otherTarget_accepted`).
-/

namespace Tr069d

/-- The quality of protection that the scan reads in a header. -/
def Protects (auth : List Char) : Option Digest.Protection → Prop
  | none => Reads auth "qop".toList []
  | some p =>
      p.qop ≠ [] ∧ Gives auth "qop".toList p.qop ∧ Reads auth "nc".toList p.nc ∧
        Reads auth "cnonce".toList p.cnonce

theorem protects_protectionOf (auth : List Char) : Protects auth (protectionOf auth) := by
  unfold protectionOf
  split
  · rename_i hempty
    exact reads_iff.mpr hempty
  · rename_i hne
    exact ⟨hne, gives_of_reads (reads_iff.mpr rfl) hne, reads_iff.mpr rfl, reads_iff.mpr rfl⟩

/-- The names of the parameters that the check reads. -/
def checkedNames : List (List Char) :=
  ["username".toList, "realm".toList, "nonce".toList, "uri".toList, "response".toList,
    "qop".toList, "nc".toList, "cnonce".toList]

theorem isName_of_mem_checkedNames {name : List Char} (h : name ∈ checkedNames) :
    IsParameterName name := by
  have hall : ∀ name ∈ checkedNames, IsParameterName name := by
    decide
  exact hall name h

/-- The quality of protection that the parameters of a header name. -/
def ProtectsBy (parameters : List HeaderParameter) : Option Digest.Protection → Prop
  | none => (valueOf parameters "qop".toList).getD [] = []
  | some p =>
      p.qop ≠ [] ∧ valueOf parameters "qop".toList = some p.qop ∧
        (valueOf parameters "nc".toList).getD [] = p.nc ∧
          (valueOf parameters "cnonce".toList).getD [] = p.cnonce

theorem eq_some_of_getD_eq {found : Option (List Char)} {text : List Char}
    (h : found.getD [] = text) (hne : text ≠ []) : found = some text := by
  cases found with
  | none => exact absurd h.symm hne
  | some other => exact congrArg some h

theorem protectsBy_protectionOf {parameters : List HeaderParameter}
    (hread : ∀ name ∈ checkedNames,
      digestValue (digestHeader parameters) name = (valueOf parameters name).getD []) :
    ProtectsBy parameters (protectionOf (digestHeader parameters)) := by
  have hqop := hread "qop".toList (by decide)
  unfold protectionOf
  split
  · rename_i hempty
    exact hqop.symm.trans hempty
  · rename_i hne
    exact ⟨hne, eq_some_of_getD_eq hqop.symm hne, (hread _ (by decide)).symm,
      (hread _ (by decide)).symm⟩

namespace ConnectionRequestServer

variable {server : ConnectionRequestServer} {request auth method : List Char}

/-- What the scan reads in a header proves knowledge of the credentials, for a
method and the URI the header itself gives. -/
structure Authenticates (server : ConnectionRequestServer) (auth method : List Char) : Prop where
  digest : "Digest ".toList <+: auth
  username : Reads auth "username".toList server.config.username.toList
  realm : Reads auth "realm".toList server.config.realm.toList
  nonce : Gives auth "nonce".toList server.nonce
  response : ∃ uri protection, uri ≠ [] ∧ Gives auth "uri".toList uri ∧ Protects auth protection ∧
    Gives auth "response".toList
      (Digest.response md5Hex server.credentials server.nonce protection method uri)

theorem Answered.authenticates (h : server.Answered auth method) :
    server.Authenticates auth method where
  digest := h.digest
  username := reads_iff.mpr h.username
  realm := reads_iff.mpr h.realm
  nonce := gives_of_reads (reads_iff.mpr h.nonce) server.isDigest_nonce.ne_nil
  response := by
    refine ⟨digestValue auth "uri".toList, protectionOf auth, h.uri, ?_, ?_, ?_⟩
    · exact gives_of_reads (reads_iff.mpr rfl) h.uri
    · exact protects_protectionOf auth
    · exact gives_of_reads (reads_iff.mpr h.response) (isDigest_response _ _ _ _ _).ne_nil

/-- The parameters of a header prove knowledge of the credentials, for a method
and the URI among them. A parameter that is not there counts as an empty one. -/
structure AuthenticatesBy (server : ConnectionRequestServer) (parameters : List HeaderParameter)
    (method : List Char) : Prop where
  username : (valueOf parameters "username".toList).getD [] = server.config.username.toList
  realm : (valueOf parameters "realm".toList).getD [] = server.config.realm.toList
  nonce : valueOf parameters "nonce".toList = some server.nonce
  response : ∃ uri protection, uri ≠ [] ∧ valueOf parameters "uri".toList = some uri ∧
    ProtectsBy parameters protection ∧ valueOf parameters "response".toList =
      some (Digest.response md5Hex server.credentials server.nonce protection method uri)

/-- Where nothing shadows a parameter, the scan reads the parameters. -/
theorem Answered.authenticatesBy {parameters : List HeaderParameter}
    (hunshadowed : ∀ name ∈ checkedNames, Unshadowed parameters name)
    (h : server.Answered (digestHeader parameters) method) :
    server.AuthenticatesBy parameters method := by
  have hread : ∀ name ∈ checkedNames,
      digestValue (digestHeader parameters) name = (valueOf parameters name).getD [] :=
    fun name hmem => digestValue_digestHeader (isName_of_mem_checkedNames hmem)
      (hunshadowed name hmem)
  have huri := hread "uri".toList (by decide)
  refine ⟨?_, ?_, ?_, (valueOf parameters "uri".toList).getD [],
    protectionOf (digestHeader parameters), ?_, ?_, ?_, ?_⟩
  · exact (hread _ (by decide)).symm.trans h.username
  · exact (hread _ (by decide)).symm.trans h.realm
  · have hnonce := (hread _ (by decide)).symm.trans h.nonce
    exact eq_some_of_getD_eq hnonce server.isDigest_nonce.ne_nil
  · exact huri ▸ h.uri
  · exact eq_some_of_getD_eq rfl (huri ▸ h.uri)
  · exact protectsBy_protectionOf hread
  · have hresponse := (hread _ (by decide)).symm.trans h.response
    rw [huri] at hresponse
    exact eq_some_of_getD_eq hresponse (isDigest_response _ _ _ _ _).ne_nil

/-- The `Authorization` header of an accepted request answers the challenge: in
what the scan reads of it, and in its parameters where nothing shadows them. -/
theorem authenticates_of_accepted (hclosed : ¬server.Open)
    (haccepted : (server.authorized request (requestMethod request)).accepted) :
    HasHeader request "Authorization".toList (headerValue request "Authorization".toList) ∧
      server.Authenticates (headerValue request "Authorization".toList) (requestMethod request) ∧
      ∀ parameters, headerValue request "Authorization".toList = digestHeader parameters →
        (∀ name ∈ checkedNames, Unshadowed parameters name) →
          server.AuthenticatesBy parameters (requestMethod request) := by
  have hanswered := (accepted_iff hclosed).mp haccepted
  refine ⟨hasHeader_headerValue fun hnil => ?_, hanswered.authenticates, ?_⟩
  · -- no header would be an empty one, which is no digest
    have hstarts := hanswered.digest
    rw [hnil] at hstarts
    exact absurd (List.prefix_nil.mp hstarts) (by decide)
  · intro parameters hheader hunshadowed
    rw [hheader] at hanswered
    exact hanswered.authenticatesBy hunshadowed

end ConnectionRequestServer

/-! ### The request line

No function of the server reads the target of the request line. -/

/-- The target a request line names. -/
def requestTarget (request : List Char) : List Char :=
  match splitAtFirst [' '] (requestLine request) with
  | some (_, rest) => rest.takeWhile (· ≠ ' ')
  | none => []

/-- A header whose response covers the method and target of the request line,
with the quality of protection the server offers or with none. -/
def CoversRequest (server : ConnectionRequestServer) (request auth : List Char) : Prop :=
  ∃ protection, (protection = none ∨ ∃ nc cnonce, Reads auth "nc".toList nc ∧
      Reads auth "cnonce".toList cnonce ∧ protection = some ⟨nc, cnonce, "auth".toList⟩) ∧
    Gives auth "response".toList (Digest.response md5Hex server.credentials server.nonce protection
      (requestMethod request) (requestTarget request))

/-- The quality of protection the server offers, as a header fills it in, or
none. -/
def offeredProtections (auth : List Char) : List (Option Digest.Protection) :=
  [none, some
    { nc := digestValue auth "nc".toList
      cnonce := digestValue auth "cnonce".toList
      qop := "auth".toList }]

/-- The responses of the two formulas, computed. -/
theorem coversRequest_iff {server : ConnectionRequestServer} {request auth : List Char} :
    CoversRequest server request auth ↔
      ∃ protection ∈ offeredProtections auth,
        digestValue auth "response".toList = Digest.response md5Hex server.credentials server.nonce
          protection (requestMethod request) (requestTarget request) := by
  constructor
  · rintro ⟨protection, hprotection, hresponse⟩
    refine ⟨protection, ?_, reads_iff.mp (Or.inl hresponse)⟩
    rcases hprotection with rfl | ⟨nc, cnonce, hnc, hcnonce, rfl⟩
    · simp [offeredProtections]
    · obtain rfl := reads_iff.mp hnc
      obtain rfl := reads_iff.mp hcnonce
      simp [offeredProtections]
  · rintro ⟨protection, hmem, hresponse⟩
    refine ⟨protection, ?_,
      gives_of_reads (reads_iff.mpr hresponse) (isDigest_response _ _ _ _ _).ne_nil⟩
    rcases List.mem_pair.mp hmem with rfl | rfl
    · exact Or.inl rfl
    · exact Or.inr ⟨_, _, reads_iff.mpr rfl, reads_iff.mpr rfl, rfl⟩

instance (server : ConnectionRequestServer) (request : List Char) :
    Decidable (∃ auth, HasHeader request "Authorization".toList auth ∧
      CoversRequest server request auth) :=
  decidable_of_iff
    (∃ auth ∈ (headerLines request).filterMap (headerLineValue "Authorization".toList),
      ∃ protection ∈ offeredProtections auth,
        digestValue auth "response".toList = Digest.response md5Hex server.credentials server.nonce
          protection (requestMethod request) (requestTarget request))
    (by simp only [hasHeader_iff, coversRequest_iff])

/-- The server asks for credentials and accepts a request that no header of it
covers. -/
def PassesUncovered (server : ConnectionRequestServer) (request : List Char) : Prop :=
  ¬server.Open ∧ (server.authorized request (requestMethod request)).accepted ∧
    ¬∃ auth, HasHeader request "Authorization".toList auth ∧ CoversRequest server request auth

/-- The server of the test, its nonce drawn at time 0. -/
def testServer : ConnectionRequestServer :=
  .create { bindAddress := "127.0.0.1", port := 17547, username := "cpe", password := "secret" } 0 0

/-- The request of the test, for a target of the request line, a response and
a quality of protection. -/
def testRequest (target response qop : String) : List Char :=
  "GET ".toList ++ target.toList ++ " HTTP/1.1".toList ++ crlf ++ "Host: localhost".toList ++
    crlf ++ "Authorization: Digest ".toList ++ "username=\"cpe\", ".toList ++
    "realm=\"tr069d\", ".toList ++ "nonce=\"".toList ++ testServer.nonce ++ "\", ".toList ++
    "uri=\"/connection-request\", ".toList ++ "response=\"".toList ++ response.toList ++
    "\", qop=".toList ++ qop.toList ++ ", nc=00000001, ".toList ++ "cnonce=\"abcdef\"".toList ++
    crlf ++ crlf

/-- The parameters of the test, as the request has them. -/
def testParameters : List HeaderParameter :=
  [{ name := "username".toList, value := "cpe".toList, quoted := true, before := 0,
     isName := by decide, quotable := by decide, isToken := by decide },
   { name := "realm".toList, value := "tr069d".toList, quoted := true,
     isName := by decide, quotable := by decide, isToken := by decide },
   { name := "nonce".toList, value := testServer.nonce, quoted := true,
     isName := by decide, isToken := by decide,
     quotable := fun _ => testServer.isDigest_nonce.not_mem (by decide) },
   { name := "uri".toList, value := "/connection-request".toList, quoted := true,
     isName := by decide, quotable := by decide, isToken := by decide },
   { name := "response".toList, value := "398ca872e8edb9d4de84b917592e3adb".toList, quoted := true,
     isName := by decide, quotable := by decide, isToken := by decide },
   { name := "qop".toList, value := "auth".toList, quoted := false,
     isName := by decide, quotable := by decide, isToken := by decide },
   { name := "nc".toList, value := "00000001".toList, quoted := false,
     isName := by decide, quotable := by decide, isToken := by decide },
   { name := "cnonce".toList, value := "abcdef".toList, quoted := true,
     isName := by decide, quotable := by decide, isToken := by decide }]

theorem testRequest_authenticates :
    testServer.AuthenticatesBy testParameters (requestMethod
      (testRequest "/connection-request" "398ca872e8edb9d4de84b917592e3adb" "auth")) :=
  (ConnectionRequestServer.authenticates_of_accepted (by decide +kernel) (by decide +kernel)).2.2
    testParameters (by decide +kernel) (by decide +kernel)

/-- The answer of the test, on a request line for another target. -/
def otherTarget : List Char :=
  testRequest "/other" "398ca872e8edb9d4de84b917592e3adb" "auth"

/-- An answer under a quality of protection the server does not offer. -/
def otherProtection : List Char :=
  testRequest "/connection-request" "26d46eaad00084df26e27aef1fcf85b3" "auth-int"

theorem otherTarget_accepted :
    PassesUncovered testServer otherTarget ∧ PassesUncovered testServer otherProtection := by
  unfold PassesUncovered
  decide +kernel

end Tr069d
