import Tr069d.ConnectionRequest.Grammar

/-!
# A request in several pieces

`serve` calls `recv` once, so that it answers the first piece of a request that TCP
delivers in several.  What a longer request has and its beginning lacks is the end
of the method or the `Authorization` header: the piece is answered like the whole
request exactly if neither of the two decides (`serve_first_iff`).

* `Delivery` is a request with the places where TCP cuts it, and `received` the piece that
  the one `recv` returns.
* `requestMethod_first` and `headerValue_first` say what a beginning has in common with
  the request.
* `serve_received_iff` is the result for every delivery of a request that fits into the
  buffer.
-/

namespace Tr069d

/-- `sizeof(buffer) - 1` -/
def receiveLimit : Nat := 4095

/-- How TCP delivers a request that fits into the buffer. -/
structure Delivery where
  chunks : List (List Char)
  nonempty : ∀ chunk ∈ chunks, chunk ≠ []
  fits : chunks.flatten.length ≤ receiveLimit

namespace Delivery

/-- The request as it was sent. -/
def request (delivery : Delivery) : List Char :=
  delivery.chunks.flatten

/-- What the one `recv` returns: the chunk that has arrived, or nothing. -/
def received (delivery : Delivery) : List Char :=
  (delivery.chunks.head?.getD []).take receiveLimit

/-- The request in one chunk. -/
def whole (delivery : Delivery) : Delivery where
  chunks := if delivery.request = [] then [] else [delivery.request]
  nonempty := by
    split
    · exact List.forall_mem_nil _
    · rename_i hrequest
      exact List.forall_mem_singleton.mpr hrequest
  fits := by
    split
    · exact Nat.zero_le _
    · rw [List.flatten_singleton]
      exact delivery.fits

theorem received_whole (delivery : Delivery) : delivery.whole.received = delivery.request := by
  unfold received whole
  split
  · rename_i hempty
    simp [hempty]
  · exact List.take_of_length_le delivery.fits

/-- The request begins with what is received. -/
theorem exists_request_eq (delivery : Delivery) :
    ∃ rest, delivery.request = delivery.received ++ rest := by
  obtain ⟨chunks, _, hfits⟩ := delivery
  unfold request received
  cases chunks with
  | nil => exact ⟨[], rfl⟩
  | cons chunk rest =>
      rw [List.flatten_cons, List.length_append] at hfits
      have hchunk : chunk.take receiveLimit = chunk := List.take_of_length_le (by omega)
      exact ⟨rest.flatten, by rw [List.head?_cons, Option.getD_some, hchunk, List.flatten_cons]⟩

end Delivery

/-! ### The method of a beginning -/

theorem exists_eq_requestLine (request : List Char) :
    (∃ rest, request = requestLine request ++ rest) ∧ ¬crlf <:+: requestLine request := by
  unfold requestLine
  cases hline : splitAtFirst crlf request with
  | none => exact ⟨⟨[], by simp⟩, (splitAtFirst_eq_none_iff crlf_ne_nil).mp hline⟩
  | some found =>
      obtain ⟨htext, hnew⟩ := firstAt_of_splitAtFirst crlf_ne_nil hline
      refine ⟨⟨crlf ++ found.2, by rw [← List.append_assoc]; exact htext⟩, fun hstands => hnew ?_⟩
      exact hstands.trans (List.prefix_append _ _).isInfix

/-- A line break that does not stand before a blank does not end the line before it. -/
theorem exists_requestLine_eq {method rest : List Char} (hfree : ¬crlf <:+: method) :
    ∃ others, requestLine (method ++ ' ' :: rest) = method ++ ' ' :: others := by
  unfold requestLine
  cases hline : splitAtFirst crlf (method ++ ' ' :: rest) with
  | none => exact ⟨rest, rfl⟩
  | some found =>
      obtain ⟨line, after⟩ := found
      have htext := (firstAt_of_splitAtFirst crlf_ne_nil hline).1
      rw [List.append_assoc] at htext
      rcases List.append_eq_append_iff.mp htext with
        ⟨others, hothers, hrest⟩ | ⟨others, hothers, hrest⟩
      · cases others with
        | nil => cases hrest
        | cons c others =>
            obtain ⟨rfl, -⟩ := List.cons.inj hrest
            exact ⟨others, hothers⟩
      · exfalso
        -- the line break lies in the method
        match others, hrest with
        | [], hrest => cases hrest
        | [_], hrest => cases hrest
        | c :: d :: others, hrest =>
            obtain ⟨rfl, hnext⟩ := List.cons.inj hrest
            obtain ⟨rfl, -⟩ := List.cons.inj hnext
            exact hfree ⟨line, others, by simp [hothers, crlf]⟩

theorem requestMethod_eq_iff {request method : List Char} (hmethod : method ≠ []) :
    requestMethod request = method ↔
      ∃ rest, request = method ++ ' ' :: rest ∧ ' ' ∉ method ∧ ¬crlf <:+: method := by
  constructor
  · intro h
    obtain ⟨⟨tail, hline⟩, hfree⟩ := exists_eq_requestLine request
    unfold requestMethod at h
    cases hfound : splitAtFirst [' '] (requestLine request) with
    | none =>
        rw [hfound] at h
        exact absurd h.symm hmethod
    | some found =>
        -- the method ends at the first blank of the request line
        obtain ⟨before, after⟩ := found
        rw [hfound] at h
        obtain rfl : before = method := h
        have hfirst := firstAt_of_splitAtFirst (List.cons_ne_nil _ _) hfound
        have hstands : before <:+: requestLine request := ⟨[], [' '] ++ after, by simp [hfirst.1]⟩
        refine ⟨after ++ tail, ?_, hfirst.not_mem, fun hbreak => hfree (hbreak.trans hstands)⟩
        rw [hline, hfirst.1]
        simp
  · rintro ⟨rest, rfl, hblank, hfree⟩
    obtain ⟨others, hline⟩ := @exists_requestLine_eq method rest hfree
    have hfound : splitAtFirst [' '] (method ++ ' ' :: others) = some (method, others) :=
      (splitAtFirst_eq_some_iff (List.cons_ne_nil _ _)).mpr
        ⟨by simp, not_singleton_infix_of_not_mem hblank⟩
    rw [requestMethod, hline, hfound]

/-- A beginning has the method of the request, once it is longer than that. -/
theorem requestMethod_first (first rest : List Char) :
    requestMethod first =
      if (requestMethod (first ++ rest)).length < first.length then requestMethod (first ++ rest)
      else [] := by
  -- a method that a beginning has already is followed by a blank, and stays
  have hlonger : ∀ {method}, method ≠ [] → requestMethod first = method →
      requestMethod (first ++ rest) = method ∧ method.length < first.length := by
    intro method hmethod h
    obtain ⟨tail, rfl, hblank, hfree⟩ := (requestMethod_eq_iff hmethod).mp h
    refine ⟨(requestMethod_eq_iff hmethod).mpr ⟨tail ++ rest, by simp, hblank, hfree⟩, ?_⟩
    simp
  split_ifs with hlength
  · cases hmethod : requestMethod (first ++ rest) with
    | nil =>
        by_contra hnonempty
        exact hnonempty ((hlonger hnonempty rfl).1.symm.trans hmethod)
    | cons c others =>
        rw [hmethod] at hlength
        obtain ⟨tail, htext, hblank, hfree⟩ :=
          (requestMethod_eq_iff (List.cons_ne_nil _ _)).mp hmethod
        refine (requestMethod_eq_iff (List.cons_ne_nil _ _)).mpr ?_
        -- the blank behind the method lies in the beginning too
        have hprefix : c :: others ++ [' '] <+: first := by
          refine List.prefix_of_prefix_length_le ⟨tail, ?_⟩ (List.prefix_append first rest) ?_
          · simp [htext]
          · rwa [List.length_append, List.length_singleton, Nat.succ_le_iff]
        obtain ⟨before, rfl⟩ := hprefix
        exact ⟨before, by simp, hblank, hfree⟩
  · by_contra hnonempty
    obtain ⟨hsame, hshort⟩ := hlonger hnonempty rfl
    rw [hsame] at hlength
    exact hlength hshort

/-! ### The headers of a beginning -/

theorem headerLines_prefix (first rest : List Char) :
    headerLines first <+: headerLines (first ++ rest) := by
  obtain ⟨later, hlines⟩ := terminatedLines_prefix crlf_ne_nil first rest
  unfold headerLines
  rw [← hlines]
  cases terminatedLines crlf first with
  | nil => exact List.nil_prefix
  | cons line lines =>
      rw [List.cons_append, List.drop_one, List.drop_one, List.tail_cons, List.tail_cons,
        List.takeWhile_append]
      split_ifs
      · exact (List.takeWhile_prefix _).trans (List.prefix_append _ _)
      · exact List.prefix_rfl

/-- A header that has arrived is the one that the scan finds in the request. -/
theorem headerValue_first {first name value : List Char} (rest : List Char)
    (hheader : HasHeader first name value) :
    headerValue (first ++ rest) name = headerValue first name := by
  obtain ⟨later, hlines⟩ := headerLines_prefix first rest
  rw [hasHeader_iff, List.mem_filterMap] at hheader
  obtain ⟨line, hline, hvalue⟩ := hheader
  unfold headerValue
  rw [← hlines, List.findSome?_append]
  cases hfound : (headerLines first).findSome? (headerLineValue name) with
  | none =>
      rw [List.findSome?_eq_none_iff.mp hfound line hline] at hvalue
      cases hvalue
  | some found => rfl

namespace ConnectionRequestServer

variable {server : ConnectionRequestServer} {first rest : List Char}

/-- What has arrived of a request decides as all of it: there is no method to wait
for, or it has arrived, and the `Authorization` header does not matter or has arrived
as well. -/
def Decides (server : ConnectionRequestServer) (first request : List Char) : Prop :=
  requestMethod request = [] ∨
    (requestMethod request).length < first.length ∧
      (server.Open ∨ ¬(server.authorized request (requestMethod request)).accepted ∨
        ∃ value, HasHeader first "Authorization".toList value)

/-- With the same method, what has arrived is accepted exactly if it decides. -/
theorem accepted_first_iff (method : List Char) :
    ((server.authorized first method).accepted ↔
      (server.authorized (first ++ rest) method).accepted) ↔
    (server.Open ∨ ¬(server.authorized (first ++ rest) method).accepted ∨
      ∃ value, HasHeader first "Authorization".toList value) := by
  by_cases hopen : server.Open
  · simp [hopen, accepted_of_open hopen]
  simp only [hopen, false_or, accepted_iff hopen]
  constructor
  · intro hsame
    -- an answer that is accepted begins with `Digest`, so its header was there
    by_cases haccepted : server.Answered (headerValue (first ++ rest) "Authorization".toList) method
    · refine Or.inr ⟨headerValue first "Authorization".toList, hasHeader_headerValue fun hnil => ?_⟩
      have hdigest := (hsame.mpr haccepted).digest
      rw [hnil] at hdigest
      exact absurd hdigest (by decide)
    · exact Or.inl haccepted
  · rintro (hrefused | ⟨value, hheader⟩)
    · refine iff_of_false (fun haccepted => hrefused ?_) hrefused
      have hnonempty : headerValue first "Authorization".toList ≠ [] := by
        intro hnil
        have hdigest := haccepted.digest
        rw [hnil] at hdigest
        exact absurd hdigest (by decide)
      rwa [headerValue_first rest (hasHeader_headerValue hnonempty)]
    -- a header that has arrived is not changed by what follows
    · rw [headerValue_first rest hheader]

theorem badRequestResponse_ne_challenge : badRequestResponse ≠ server.challenge := by
  intro heq
  have hstatus : "HTTP/1.1 401".toList <+: server.challenge := by
    unfold challenge
    simp only [List.append_assoc]
    exact List.IsPrefix.trans (by decide) (List.prefix_append _ _)
  rw [← heq] at hstatus
  exact absurd hstatus (by decide)

theorem serve_of_method {request : List Char} (hmethod : requestMethod request ≠ []) :
    server.serve request =
      if (server.authorized request (requestMethod request)).accepted then (noContentResponse, true)
      else (server.challenge, false) :=
  if_neg hmethod

/-- The beginning of a request is answered like the request exactly if it decides. -/
theorem serve_first_iff :
    server.serve first = server.serve (first ++ rest) ↔ server.Decides first (first ++ rest) := by
  have hmethod := requestMethod_first first rest
  unfold Decides
  by_cases hnone : requestMethod (first ++ rest) = []
  · rw [hnone, ite_self] at hmethod
    refine iff_of_true ?_ (Or.inl hnone)
    rw [serve, serve, if_pos hmethod, if_pos hnone]
  · rw [or_iff_right hnone, serve_of_method hnone]
    by_cases hlength : (requestMethod (first ++ rest)).length < first.length
    · rw [if_pos hlength] at hmethod
      rw [and_iff_right hlength, ← accepted_first_iff, serve_of_method (hmethod ▸ hnone), hmethod]
      split_ifs with hfirst hall hall
      · exact iff_of_true rfl (iff_of_true hfirst hall)
      · exact iff_of_false (by simp) fun hsame => hall (hsame.mp hfirst)
      · exact iff_of_false (by simp) fun hsame => hfirst (hsame.mpr hall)
      · exact iff_of_true rfl (iff_of_false hfirst hall)
    · rw [if_neg hlength] at hmethod
      refine iff_of_false (fun hsame => ?_) fun h => hlength h.1
      -- a bad request, while the whole one is not
      rw [serve, if_pos hmethod] at hsame
      split_ifs at hsame
      · cases (Prod.mk.inj hsame).2
      · exact badRequestResponse_ne_challenge (Prod.mk.inj hsame).1

/-- However a request is delivered, it is answered as in one chunk exactly if its
first chunk decides. -/
theorem serve_received_iff (server : ConnectionRequestServer) (delivery : Delivery) :
    server.serve delivery.received = server.serve delivery.whole.received ↔
      server.Decides delivery.received delivery.request := by
  obtain ⟨rest, hrequest⟩ := delivery.exists_request_eq
  rw [delivery.received_whole, hrequest]
  exact serve_first_iff

/-- A request whose first byte arrives alone. -/
def firstByte : Delivery where
  chunks := ["G".toList, "ET / HTTP/1.1\r\n\r\n".toList]
  nonempty := by decide
  fits := by decide

/-- A server that asks for no credentials calls it a bad request, and would have woken
the daemon. -/
theorem firstByte_answered_otherwise :
    let server := create { auth := "None" } 0 0
    server.serve firstByte.received = (badRequestResponse, false) ∧
      server.serve firstByte.whole.received = (noContentResponse, true) := by
  intro server
  have hopen : server.Open := by decide
  have hbad : requestMethod firstByte.received = [] := by decide
  have hmethod : requestMethod firstByte.request ≠ [] := by decide
  constructor
  · rw [serve, if_pos hbad]
  · rw [firstByte.received_whole, serve_of_method hmethod]
    exact if_pos (accepted_of_open hopen)

end ConnectionRequestServer

end Tr069d
