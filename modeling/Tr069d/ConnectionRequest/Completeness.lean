import Tr069d.ConnectionRequest.Answer
import Tr069d.ConnectionRequest.Soundness

/-!
# Which correct answers are accepted

`digestValue` searches for `key=` as plain text, so what is written before a
parameter can shadow it. `accepts_unless_shadowed` says what an answer needs: no earlier
parameter holds the name of a later one followed by `=`. Where no value holds a
`=` at all, the one thing that can go wrong is the order of `cnonce` and
`nonce`.

* `Unshadowed` is the condition for a key, on what is written before its parameter.
* `answered_header` is the direction that holds for every answer.
* `accepts_iff_of_plain` is the equivalence where no value holds a `=`, and rests on
  `digestValue_nonce_of_cnonceFirst`: the name `cnonce` ends with `nonce`.
-/

namespace Tr069d

theorem suffix_of_suffix_replicate_append {needle text : List Char} {c : Char} {n : Nat}
    (hc : c ∉ needle) (h : needle <:+ List.replicate n c ++ text) : needle <:+ text := by
  induction n with
  | zero => simpa using h
  | succ n ih =>
      rw [List.replicate_succ, List.cons_append] at h
      rcases List.suffix_cons_iff.mp h with rfl | hshorter
      · simp at hc
      · exact ih hshorter

/-- The one name that ends with another is `cnonce`. -/
theorem Key.eq_or_of_suffix {key other : Key} (h : key.text <:+ other.text) :
    key = other ∨ key = .nonce ∧ other = .cnonce := by
  have hall : ∀ key ∈ Key.all, ∀ other ∈ Key.all, key.text <:+ other.text →
      key = other ∨ key = .nonce ∧ other = .cnonce := by
    decide
  exact hall key key.mem_all other other.mem_all h

namespace Answer

variable {server : ConnectionRequestServer} {method : List Char} (a : Answer server method)

/-- The parameters written before a key's own. -/
def before (key : Key) : List Parameter :=
  a.parameters.takeWhile (·.key ≠ key)

/-- Nothing written before a key's own parameter reads as it. -/
def Unshadowed (key : Key) : Prop :=
  ∀ p ∈ a.before key, ¬key.needle <:+: p.written a.value

theorem eq_before_append (key : Key) :
    ∃ p later, a.parameters = a.before key ++ p :: later ∧ p.key = key := by
  have hmem : key ∈ a.parameters.map (·.key) := a.each_once.mem_iff.mpr key.mem_all
  obtain ⟨p, hp, hkey⟩ := List.mem_map.mp hmem
  have hsplit := (List.takeWhile_append_dropWhile (p := fun p : Parameter => decide (p.key ≠ key))
    (l := a.parameters)).symm
  cases hrest : a.parameters.dropWhile fun p => decide (p.key ≠ key) with
  | nil =>
      have hall := List.dropWhile_eq_nil_iff.mp hrest p hp
      simp [hkey] at hall
  | cons q later =>
      have hhead :=
        List.head?_dropWhile_not (fun p : Parameter => decide (p.key ≠ key)) a.parameters
      rw [hrest] at hhead hsplit
      exact ⟨q, later, hsplit, by simpa using hhead⟩

/-- An unshadowed parameter is read. -/
theorem digestValue_header {key : Key} (h : a.Unshadowed key) :
    digestValue a.header key.text = a.value key := by
  obtain ⟨p, later, hsplit, hkey⟩ := a.eq_before_append key
  have hname : p.key.text = [] ++ key.text := by rw [hkey, List.nil_append]
  have hgives := a.gives_of_split hsplit hname List.not_mem_nil h
  rw [hkey] at hgives
  exact reads_iff.mp (Or.inl hgives)

/-- An answer whose other parameters are unshadowed is the right one where its
nonce is read. -/
theorem answered_header (huri : a.uri ≠ [])
    (hunshadowed : ∀ key, key ≠ .nonce → key ≠ .algorithm → a.Unshadowed key)
    (hnonce : digestValue a.header Key.nonce.text = server.nonce) :
    server.Answered a.header method := by
  -- every other parameter is read as the answer has it
  have hread : ∀ key, key ≠ .nonce → key ≠ .algorithm →
      digestValue a.header key.text = a.value key := fun key hne hne' =>
    a.digestValue_header (hunshadowed key hne hne')
  have huri' := hread .uri (by decide) (by decide)
  have hqop := hread .qop (by decide) (by decide)
  -- `qop` is there, so the response is checked over the count and the client's nonce
  have hprotection : protectionOf a.header = some ⟨a.nc, a.cnonce, "auth".toList⟩ := by
    have hne : digestValue a.header "qop".toList ≠ [] := by
      intro hnil
      rw [show digestValue a.header "qop".toList = "auth".toList from hqop] at hnil
      exact absurd hnil (by decide)
    unfold protectionOf
    rw [if_neg hne]
    congr 2
    · exact hread .nc (by decide) (by decide)
    · exact hread .cnonce (by decide) (by decide)
  exact
    { digest := a.digest_prefix_header
      username := hread .username (by decide) (by decide)
      realm := hread .realm (by decide) (by decide)
      nonce := hnonce
      uri := huri'.symm ▸ huri
      response := by
        rw [hprotection, show digestValue a.header "uri".toList = a.uri from huri']
        exact hread .response (by decide) (by decide) }

/-! ### Answers without further equals signs -/

/-- No text of the client holds a `=`. -/
def Plain : Prop :=
  ∀ text ∈ [server.config.username.toList, server.config.realm.toList, a.uri, a.nc, a.cnonce],
    '=' ∉ text

/-- The client's own nonce is written before the server's. -/
def CnonceFirst : Prop :=
  ∃ p ∈ a.before .nonce, p.key = .cnonce

/-- In a plain answer a parameter holds `key=` in its own name alone. -/
theorem suffix_of_needle_isInfix (hplain : a.Plain) {key : Key} {p : Parameter}
    (h : key.needle <:+: p.written a.value) : key.text <:+ p.key.text := by
  have hvalue : '=' ∉ a.value p.key :=
    a.not_mem_value (by decide) (by decide) hplain p.key
  have hnames : ∀ key : Key, '=' ∉ key.text ∧ ' ' ∉ key.text := by
    intro key
    cases key <;> decide
  have hspaces : ∀ n, '=' ∉ List.replicate n ' ' := fun n hmem =>
    absurd (List.eq_of_mem_replicate hmem) (by decide)
  have hend : '=' ∉ (if p.quoted then '"' :: (a.value p.key ++ ['"']) else a.value p.key) ++
      List.replicate p.after ' ' := by
    cases p.quoted <;> simp [hspaces, hvalue]
  have hwritten : p.written a.value = (List.replicate p.before ' ' ++ p.key.text ++ ['=']) ++
      ((if p.quoted then '"' :: (a.value p.key ++ ['"']) else a.value p.key) ++
        List.replicate p.after ' ') := by
    simp only [Parameter.written, List.append_assoc, List.cons_append, List.nil_append]
  rw [hwritten] at h
  -- the `=` of the needle is the one after the name
  rcases List.infix_concat_iff.mp (infix_of_infix_append hend h) with hsuffix | hstands
  · obtain ⟨start, hstart⟩ := hsuffix
    rw [← List.append_assoc, List.append_left_inj] at hstart
    exact suffix_of_suffix_replicate_append (hnames key).2 ⟨start, hstart⟩
  · have hmem : '=' ∈ List.replicate p.before ' ' ++ p.key.text :=
      hstands.subset (by simp)
    rcases List.mem_append.mp hmem with hmem | hmem
    · exact absurd hmem (hspaces _)
    · exact absurd hmem (hnames p.key).1

theorem ne_of_mem_before {key : Key} {p : Parameter} (hp : p ∈ a.before key) : p.key ≠ key := by
  simpa using List.mem_takeWhile_imp hp

theorem unshadowed_of_plain (hplain : a.Plain) {key : Key}
    (hkey : key = .nonce → ¬a.CnonceFirst) : a.Unshadowed key := by
  intro p hp hstands
  rcases Key.eq_or_of_suffix (a.suffix_of_needle_isInfix hplain hstands) with heq | ⟨rfl, hcnonce⟩
  · exact a.ne_of_mem_before hp heq.symm
  · exact hkey rfl ⟨p, hp, hcnonce⟩

/-- Where the client's nonce comes first, it is read for the server's. -/
theorem digestValue_nonce_of_cnonceFirst (hplain : a.Plain) (hfirst : a.CnonceFirst) :
    digestValue a.header Key.nonce.text = a.cnonce := by
  obtain ⟨p, later, hsplit, hkey⟩ := a.eq_before_append .cnonce
  -- what precedes `cnonce` precedes `nonce` too
  have hstarts : a.before .cnonce <+: a.before .nonce := by
    rcases Nat.le_total (a.before .cnonce).length (a.before .nonce).length with hle | hle
    · exact List.prefix_of_prefix_length_le (List.takeWhile_prefix _) (List.takeWhile_prefix _) hle
    · obtain ⟨q, hq, hcnonce⟩ := hfirst
      have hback : a.before .nonce <+: a.before .cnonce :=
        List.prefix_of_prefix_length_le (List.takeWhile_prefix _) (List.takeWhile_prefix _) hle
      exact absurd hcnonce (a.ne_of_mem_before (hback.subset hq))
  have hearlier : ∀ q ∈ a.before .cnonce, ¬Key.nonce.needle <:+: q.written a.value := by
    intro q hq hstands
    rcases Key.eq_or_of_suffix (a.suffix_of_needle_isInfix hplain hstands) with heq | ⟨-, hcnonce⟩
    · exact a.ne_of_mem_before (hstarts.subset hq) heq.symm
    · exact a.ne_of_mem_before hq hcnonce
  have hname : p.key.text = ['c'] ++ Key.nonce.text := by
    rw [hkey]
    decide
  have hgives := a.gives_of_split hsplit hname (by decide) hearlier
  rw [hkey] at hgives
  exact reads_iff.mp (Or.inl hgives)

end Answer

/-! ### The decision -/

section

variable {server : ConnectionRequestServer} {e : Envelope} (a : Answer server e.method)

/-- The server lets a request with this answer pass. -/
def Accepts (server : ConnectionRequestServer) (e : Envelope) (a : Answer server e.method) : Prop :=
  (server.authorized (e.request a.header) (requestMethod (e.request a.header))).accepted

theorem accepts_iff : Accepts server e a ↔ server.Open ∨ server.Answered a.header e.method := by
  have hhead : ∀ c ∈ a.header.head?, c ≠ ' ' ∧ c ≠ '\t' := by
    intro c hc
    obtain ⟨rest, hrest⟩ := a.digest_prefix_header
    rw [← hrest] at hc
    obtain rfl : 'D' = c := by simpa using hc
    decide
  unfold Accepts
  by_cases hopen : server.Open
  · exact iff_of_true (ConnectionRequestServer.accepted_of_open hopen) (Or.inl hopen)
  · rw [ConnectionRequestServer.accepted_iff hopen,
      e.headerValue_request a.newline_not_mem_header hhead, e.requestMethod_request]
    exact (or_iff_right hopen).symm

theorem accepts_of_unshadowed
    (h : server.Open ∨ a.uri ≠ [] ∧ ∀ key, key ≠ .algorithm → a.Unshadowed key) :
    Accepts server e a := by
  refine (accepts_iff a).mpr (h.imp_right fun ⟨huri, hunshadowed⟩ => ?_)
  have hnonce := a.digestValue_header (hunshadowed .nonce (by decide))
  exact a.answered_header huri (fun key _ hkey => hunshadowed key hkey) hnonce

/-- A plain answer is accepted unless its `cnonce` is read for the nonce. -/
theorem accepts_iff_of_plain (hplain : a.Plain) :
    Accepts server e a ↔
      server.Open ∨ a.uri ≠ [] ∧ (a.CnonceFirst → a.cnonce = server.nonce) := by
  rw [accepts_iff]
  refine or_congr_right ⟨fun hanswered => ⟨?_, fun hfirst => ?_⟩, fun ⟨huri, hcnonce⟩ => ?_⟩
  · have hread : a.Unshadowed .uri := a.unshadowed_of_plain hplain (absurd · (by decide))
    have huri : digestValue a.header "uri".toList = a.uri := a.digestValue_header hread
    exact huri ▸ hanswered.uri
  · exact (a.digestValue_nonce_of_cnonceFirst hplain hfirst).symm.trans hanswered.nonce
  · refine a.answered_header huri (fun key hkey _ => a.unshadowed_of_plain hplain
      (absurd · hkey)) ?_
    by_cases hfirst : a.CnonceFirst
    · exact (a.digestValue_nonce_of_cnonceFirst hplain hfirst).trans (hcnonce hfirst)
    · exact a.digestValue_header (a.unshadowed_of_plain hplain fun _ => hfirst)

/-- A correct answer is accepted where no parameter is shadowed; where no value
holds a `=`, it is accepted exactly when no `cnonce` is read for the nonce. -/
theorem accepts_unless_shadowed :
    (server.Open ∨ (a.uri ≠ [] ∧ ∀ key, key ≠ .algorithm → a.Unshadowed key) →
        Accepts server e a) ∧
      (a.Plain → (Accepts server e a ↔
        server.Open ∨ a.uri ≠ [] ∧ (a.CnonceFirst → a.cnonce = server.nonce))) :=
  ⟨accepts_of_unshadowed a, accepts_iff_of_plain a⟩

end

/-- The request of the test. -/
def testEnvelope : Envelope where
  method := "GET".toList
  lineRest := "/connection-request HTTP/1.1".toList
  earlier := ["Host: localhost".toList]
  name := "Authorization".toList
  blanks := [' ']
  rest := crlf
  space_not_mem_method := by decide
  requestLine_free := by decide
  earlier_headers := by decide
  name_same := by decide
  name_plain := by decide
  blanks_blank := by simp

/-- The answer of the test, for a URI, its parameters in a given order. -/
def testAnswer (uri : List Char) (order : List Key) (heach : order.Perm Key.all)
    (huri : '"' ∉ uri ∧ '\n' ∉ uri) : Answer testServer testEnvelope.method where
  uri := uri
  nc := "00000001".toList
  cnonce := "abcdef".toList
  parameters := order.map fun key => { key, quoted := key ∉ [.qop, .nc, .algorithm] }
  each_once := by simpa [Function.comp_def] using heach
  token_of_unquoted := by
    intro p hp hunquoted
    obtain ⟨key, -, rfl⟩ := List.mem_map.mp hp
    simpa [or_iff_not_imp_left] using hunquoted
  isToken_nc := ⟨by decide, by decide, by decide⟩
  quotable := by
    simp only [List.forall_mem_cons]
    exact ⟨by decide, by decide, huri.1, by decide, by simp⟩
  one_line := by
    simp only [List.forall_mem_cons]
    exact ⟨by decide, by decide, huri.2, by decide, by decide, by simp⟩

/-- The order of the test. -/
def testOrder : List Key :=
  [.username, .realm, .nonce, .uri, .response, .qop, .nc, .cnonce, .algorithm]

/-- The same answer with `cnonce` written before `nonce`. -/
def cnonceFirst : Answer testServer testEnvelope.method :=
  testAnswer "/connection-request".toList
    [.username, .realm, .cnonce, .nonce, .uri, .response, .qop, .nc, .algorithm]
    (by decide) (by decide)

/-- An answer whose URI holds `qop=`. -/
def uriWithQop : Answer testServer testEnvelope.method :=
  testAnswer "/connection-request?qop=1".toList testOrder (by decide) (by decide)

theorem testAnswer_plain :
    (testAnswer "/connection-request".toList testOrder (by decide) (by decide)).Plain := by
  unfold Answer.Plain
  decide

theorem testAnswer_not_cnonceFirst :
    ¬(testAnswer "/connection-request".toList testOrder (by decide) (by decide)).CnonceFirst := by
  unfold Answer.CnonceFirst
  decide

theorem testAnswer_accepts :
    Accepts testServer testEnvelope
      (testAnswer "/connection-request".toList testOrder (by decide) (by decide)) :=
  (accepts_unless_shadowed _).1 (Or.inr ⟨by decide, fun _ _ =>
    Answer.unshadowed_of_plain _ testAnswer_plain fun _ => testAnswer_not_cnonceFirst⟩)

theorem cnonceFirst_not_accepted :
    ¬Accepts testServer testEnvelope cnonceFirst ∧ ¬Accepts testServer testEnvelope uriWithQop := by
  unfold Accepts
  decide +kernel

end Tr069d
