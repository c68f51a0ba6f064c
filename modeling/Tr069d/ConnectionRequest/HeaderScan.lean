import Tr069d.ConnectionRequest.Grammar
import Tr069d.Text.Positions

/-!
# The scan for a header, position by position

`ConnectionRequestServer::headerValue` with the positions of the source.  Its loop
is given a number of rounds; more rounds than the request has bytes are enough, and
the scan then gives what `headerValue` gives (`scanHeader_eq`): the value of the
first line of the header block under that name, or nothing
(`scanHeader_spec`).

* `scanLines` and `skipBlanks` are the two loops, with the positions that they move.
* `scanLine_eq` is one round of the outer one, and `scanHeader_eq` all of them.
* `HeaderText` says what a request gives under a name without mentioning a scan: its
  first header in the block, ended by a line break, or nothing.
-/

namespace Tr069d

namespace ConnectionRequestServer

/-- The loop that skips the blanks before a value. -/
def skipBlanks (request : List Char) (lineEnd : Nat) : Nat → Nat → Nat
  | 0, valueStart => valueStart
  | rounds + 1, valueStart =>
      if valueStart < lineEnd ∧ (request[valueStart]? = some ' ' ∨ request[valueStart]? = some '\t')
      then skipBlanks request lineEnd rounds (valueStart + 1)
      else valueStart

/-- The loop of `headerValue`, for so many rounds; nothing if they do not suffice. -/
def scanLines (request name : List Char) : Nat → Nat → Option (List Char)
  | 0, _ => none
  | rounds + 1, lineStart =>
      if lineStart < request.length then
        match find crlf request lineStart with
        | none => some []
        | some lineEnd =>
            if lineEnd = lineStart then some []
            else
              match find [':'] request lineStart with
              | some colon =>
                  if colon < lineEnd ∧
                      sameIgnoringCase (substr request lineStart (colon - lineStart)) name then
                    let valueStart :=
                      skipBlanks request lineEnd (lineEnd - (colon + 1)) (colon + 1)
                    some (substr request valueStart (lineEnd - valueStart))
                  else scanLines request name rounds (lineEnd + 2)
              | none => scanLines request name rounds (lineEnd + 2)
      else some []

/-- `headerValue`, whose loop makes at most so many rounds. -/
def scanHeader (rounds : Nat) (request name : List Char) : Option (List Char) :=
  match find crlf request 0 with
  | none => some []
  | some lineStart => scanLines request name rounds (lineStart + 2)

/-! ### What the scan computes -/

/-- What the lines of a header block give under a name. -/
def valueIn (name : List Char) (lines : List (List Char)) : List Char :=
  ((lines.takeWhile (· ≠ [])).findSome? (headerLineValue name)).getD []

theorem valueIn_cons {name line : List Char} (hline : line ≠ []) (lines : List (List Char)) :
    valueIn name (line :: lines) = (headerLineValue name line).getD (valueIn name lines) := by
  rw [valueIn, List.takeWhile_cons_of_pos (by simpa using hline), List.findSome?_cons]
  cases headerLineValue name line <;> rfl

theorem headerValue_eq_valueIn (request name : List Char) :
    headerValue request name = valueIn name ((terminatedLines crlf request).drop 1) := rfl

/-- The blanks before a value are those it begins with. -/
theorem skipBlanks_eq {request value tail : List Char} {valueStart : Nat}
    (hvalue : request.drop valueStart = value ++ tail) :
    skipBlanks request (valueStart + value.length) value.length valueStart =
      valueStart + (value.takeWhile fun c => c = ' ' || c = '\t').length := by
  induction value generalizing valueStart with
  | nil => rfl
  | cons c value ih =>
      have hhere : request[valueStart]? = some c := by
        rw [← List.head?_drop, hvalue]
        rfl
      have hnext : request.drop (valueStart + 1) = value ++ tail := by
        rw [← List.drop_drop, hvalue]
        rfl
      have hend : valueStart + (c :: value).length = valueStart + 1 + value.length := by
        rw [List.length_cons]
        omega
      rw [List.length_cons, skipBlanks, hhere]
      -- one step of the source's loop for one character of the value
      by_cases hblank : c = ' ' ∨ c = '\t'
      · have hinside : valueStart < valueStart + (value.length + 1) ∧
            (some c = some ' ' ∨ some c = some '\t') := ⟨by omega, by simpa using hblank⟩
        rw [if_pos hinside, ← List.length_cons, hend, ih hnext,
          List.takeWhile_cons_of_pos (by simpa using hblank), List.length_cons]
        omega
      · have hstop : ¬(valueStart < valueStart + (value.length + 1) ∧
            (some c = some ' ' ∨ some c = some '\t')) := fun h => hblank (by simpa using h.2)
        rw [if_neg hstop, List.takeWhile_cons_of_neg (by simpa using hblank)]
        rfl

/-- The value that is cut out of a line is the one of the line. -/
theorem substr_skipBlanks {request value tail : List Char} {valueStart : Nat}
    (hvalue : request.drop valueStart = value ++ tail) :
    let first := skipBlanks request (valueStart + value.length) value.length valueStart
    substr request first (valueStart + value.length - first) =
      value.dropWhile fun c => c = ' ' || c = '\t' := by
  intro first
  let blank : Char → Bool := fun c => c = ' ' || c = '\t'
  have hsplit : value.takeWhile blank ++ value.dropWhile blank = value :=
    List.takeWhile_append_dropWhile
  have hlength := congrArg List.length hsplit
  rw [List.length_append] at hlength
  have hfirst : first = valueStart + (value.takeWhile blank).length := skipBlanks_eq hvalue
  have hdrop : request.drop first = value.dropWhile blank ++ tail := by
    have hblanks : request.drop valueStart =
        value.takeWhile blank ++ (value.dropWhile blank ++ tail) := by
      rw [← List.append_assoc, hsplit, hvalue]
    rw [hfirst, ← List.drop_drop, hblanks, List.drop_left]
  have hcount : valueStart + value.length - first = (value.dropWhile blank).length := by omega
  rw [hcount, substr_of_drop_eq hdrop]

section Line

variable {request name line rest : List Char} {lineStart : Nat}
  (hline : splitAtFirst crlf (request.drop lineStart) = some (line, rest))
include hline

theorem drop_eq_line : request.drop lineStart = line ++ (crlf ++ rest) := by
  rw [(firstAt_of_splitAtFirst crlf_ne_nil hline).1, List.append_assoc]

/-- A colon that is found stands behind a line without one. -/
theorem not_lt_of_no_colon (hcolon : splitAtFirst [':'] line = none) {colon : Nat}
    (hfind : find [':'] request lineStart = some colon) : ¬colon < lineStart + line.length := by
  cases hfound : splitAtFirst [':'] (request.drop lineStart) with
  | none =>
      rw [find_eq_none (List.cons_ne_nil _ _) hfound] at hfind
      cases hfind
  | some later =>
      rw [find_eq_some (List.cons_ne_nil _ _) hfound] at hfind
      cases hfind
      rw [drop_eq_line hline] at hfound
      have hbehind := length_le_of_splitAtFirst_append hcolon hfound
      omega

/-- The first colon of a line, with the name and the value around it. -/
theorem find_colon {headerName value : List Char}
    (hcolon : splitAtFirst [':'] line = some (headerName, value)) :
    find [':'] request lineStart = some (lineStart + headerName.length) ∧
      substr request lineStart headerName.length = headerName ∧
        request.drop (lineStart + headerName.length + 1) = value ++ (crlf ++ rest) := by
  have hfound : splitAtFirst [':'] (request.drop lineStart) =
      some (headerName, value ++ (crlf ++ rest)) := by
    rw [drop_eq_line hline, splitAtFirst_eq_some_iff (List.cons_ne_nil _ _)]
    exact (firstAt_of_splitAtFirst (List.cons_ne_nil _ _) hcolon).append _
  refine ⟨find_eq_some (List.cons_ne_nil _ _) hfound, ?_,
    drop_of_splitAtFirst (List.cons_ne_nil _ _) hfound⟩
  exact substr_of_drop_eq ((firstAt_of_splitAtFirst (List.cons_ne_nil _ _) hfound).1.trans
    (List.append_assoc ..))

/-- A line gives its value, or the scan goes on. -/
theorem scanLine_eq (next : Option (List Char)) :
    (match find [':'] request lineStart with
    | some colon =>
        if colon < lineStart + line.length ∧
            sameIgnoringCase (substr request lineStart (colon - lineStart)) name then
          let valueStart := skipBlanks request (lineStart + line.length)
            (lineStart + line.length - (colon + 1)) (colon + 1)
          some (substr request valueStart (lineStart + line.length - valueStart))
        else next
    | none => next) = (headerLineValue name line).or next := by
  -- a colon behind the end of the line is found by the source too, and discarded
  cases hcolon : splitAtFirst [':'] line with
  | none =>
      have hnone : headerLineValue name line = none := by rw [headerLineValue, hcolon]
      rw [hnone, Option.none_or]
      cases hfind : find [':'] request lineStart with
      | none => rfl
      | some colon => exact if_neg fun h => not_lt_of_no_colon hline hcolon hfind h.1
  | some found =>
      obtain ⟨headerName, value⟩ := found
      obtain ⟨hfind, hname, hvalue⟩ := find_colon hline hcolon
      have hlength := congrArg List.length
        (firstAt_of_splitAtFirst (List.cons_ne_nil _ _) hcolon).1
      simp only [List.length_append, List.length_singleton] at hlength
      have hinside : lineStart + headerName.length < lineStart + line.length := by omega
      rw [hfind]
      -- positions in the request become lengths of the line's parts
      simp only [Nat.add_sub_cancel_left, hname, hinside, true_and, headerLineValue, hcolon]
      split_ifs with hsame
      · have hcut := substr_skipBlanks hvalue
        rw [show lineStart + headerName.length + 1 + value.length = lineStart + line.length by
          omega] at hcut
        rw [show lineStart + line.length - (lineStart + headerName.length + 1) = value.length by
          omega, hcut, Option.some_or]
      · rw [Option.none_or]

end Line

theorem scanLines_eq (request name : List Char) {rounds lineStart : Nat}
    (hrounds : request.length - lineStart < rounds) :
    scanLines request name rounds lineStart =
      some (valueIn name (terminatedLines crlf (request.drop lineStart))) := by
  induction rounds generalizing lineStart with
  | zero => omega
  | succ rounds ih =>
      rw [terminatedLines_eq crlf_ne_nil, scanLines]
      split_ifs with hstart
      · cases hline : splitAtFirst crlf (request.drop lineStart) with
        | none =>
            rw [find_eq_none crlf_ne_nil hline]
            rfl
        | some found =>
            obtain ⟨line, rest⟩ := found
            -- the rest of the request is scanned from behind the line end
            have hnext : scanLines request name rounds (lineStart + line.length + 2) =
                some (valueIn name (terminatedLines crlf rest)) := by
              rw [ih (by omega), show lineStart + line.length + 2 =
                lineStart + line.length + crlf.length from rfl,
                drop_of_splitAtFirst crlf_ne_nil hline]
            rw [find_eq_some crlf_ne_nil hline]
            simp only [Nat.add_eq_left, List.length_eq_zero_iff]
            split_ifs with hempty
            · rw [hempty]
              rfl
            · rw [scanLine_eq hline, hnext, valueIn_cons hempty]
              cases headerLineValue name line <;> rfl
      -- the scan has reached the end of the request
      · have hnil : request.drop lineStart = [] := List.drop_eq_nil_of_le (by omega)
        rw [hnil]
        rfl

/-- Enough rounds give what `headerValue` gives. -/
theorem scanHeader_eq {request : List Char} (name : List Char) {rounds : Nat}
    (hrounds : request.length < rounds) :
    scanHeader rounds request name = some (headerValue request name) := by
  have hline : splitAtFirst crlf (request.drop 0) = splitAtFirst crlf request := rfl
  rw [headerValue_eq_valueIn, terminatedLines_eq crlf_ne_nil, scanHeader]
  cases hfound : splitAtFirst crlf request with
  | none =>
      rw [find_eq_none crlf_ne_nil (hline.trans hfound)]
      rfl
  | some found =>
      obtain ⟨line, rest⟩ := found
      have hrest := drop_of_splitAtFirst crlf_ne_nil (hline.trans hfound)
      rw [find_eq_some crlf_ne_nil (hline.trans hfound)]
      rw [Nat.zero_add] at hrest ⊢
      have hlines := scanLines_eq request name (show request.length -
        (line.length + crlf.length) < rounds by omega)
      rw [hrest] at hlines
      exact hlines

/-! ### Which header it finds -/

/-- A line gives a value under a name: the text behind its first colon, without the
blanks it begins with. -/
def LineGives (line name value : List Char) : Prop :=
  ∃ written blanks, line = written ++ ':' :: (blanks ++ value) ∧ ':' ∉ written ∧
    written.map Char.toLower = name.map Char.toLower ∧ (∀ c ∈ blanks, c = ' ' ∨ c = '\t') ∧
      ∀ c ∈ value.head?, c ≠ ' ' ∧ c ≠ '\t'

/-- The value is given by the first line under that name that follows the request
line, ends with a line break and has no empty line before it. -/
def FirstHeader (request name value : List Char) : Prop :=
  ∃ requestLine earlier line rest,
    request = requestLine ++ crlf ++ earlier.flatMap (· ++ crlf) ++ line ++ crlf ++ rest ∧
      (∀ l ∈ requestLine :: (earlier ++ [line]), ¬crlf <:+: l) ∧
      (∀ l ∈ earlier ++ [line], l ≠ []) ∧
      (∀ l ∈ earlier, ∀ other, ¬LineGives l name other) ∧ LineGives line name value

theorem cString_eq_self {text : List Char} (hnul : '\x00' ∉ text) : cString text = text :=
  takeWhile_ne_eq_self hnul

/-- Without NUL bytes a line is read up to its end. -/
theorem lineGives_iff {line name value : List Char} (hnul : '\x00' ∉ line) :
    LineGives line (cString name) value ↔ headerLineValue name line = some value := by
  rw [headerLineValue_eq_some_iff]
  refine exists_congr fun written => exists_congr fun blanks => and_congr_right fun hline => ?_
  have hwritten : cString written = written :=
    cString_eq_self fun hmem => hnul (hline ▸ List.mem_append_left _ hmem)
  rw [sameIgnoringCase, decide_eq_true_iff, hwritten]

theorem subset_of_mem_headerLines {request line : List Char} (hline : line ∈ headerLines request) :
    line ⊆ request := by
  obtain ⟨first, earlier, rest, rfl, -⟩ := inHeaderBlock_iff.mpr hline
  intro c hc
  simp [hc]

/-- What a request gives under a name: its first header, or nothing if no line of
the header block has that name. -/
def HeaderText (request name value : List Char) : Prop :=
  FirstHeader request name value ∨
    (∀ line, InHeaderBlock request line → ∀ other, ¬LineGives line name other) ∧ value = []

theorem headerText_iff {request : List Char} (hnul : '\x00' ∉ request) {name value : List Char} :
    HeaderText request (cString name) value ↔ headerValue request name = value := by
  have hgives : ∀ line ∈ headerLines request, ∀ value,
      LineGives line (cString name) value ↔ headerLineValue name line = some value :=
    fun line hmem value => lineGives_iff fun hc => hnul (subset_of_mem_headerLines hmem hc)
  unfold headerValue
  constructor
  · rintro (⟨first, earlier, line, rest, rfl, hfree, hfull, hearlier, hline⟩ | ⟨hnone, rfl⟩)
    -- the block, as the grammar describes it, is what the scan visits
    · obtain ⟨later, hlines⟩ := exists_headerLines_eq rest hfree hfull
      have hfound : (earlier ++ line :: later).findSome? (headerLineValue name) = some value := by
        rw [hlines] at hgives
        refine List.findSome?_eq_some_iff.mpr ⟨earlier, line, later, rfl, ?_, fun l hl => ?_⟩
        · exact (hgives line (by simp) value).mp hline
        · refine Option.eq_none_iff_forall_ne_some.mpr fun other hother => ?_
          exact hearlier l hl other
            ((hgives l (List.mem_append_left _ hl) other).mpr hother)
      rw [hlines, hfound, Option.getD_some]
    · have hfound : (headerLines request).findSome? (headerLineValue name) = none := by
        refine List.findSome?_eq_none_iff.mpr fun line hmem => ?_
        refine Option.eq_none_iff_forall_ne_some.mpr fun other hother => ?_
        exact hnone line (inHeaderBlock_iff.mpr hmem) other ((hgives line hmem other).mpr hother)
      rw [hfound, Option.getD_none]
  · rintro rfl
    -- conversely, what the scan found stands in a block of that kind
    cases hfound : (headerLines request).findSome? (headerLineValue name) with
    | none =>
        refine Or.inr ⟨fun line hblock other hother => ?_, rfl⟩
        have hmem := inHeaderBlock_iff.mp hblock
        have hnone := List.findSome?_eq_none_iff.mp hfound line hmem
        rw [(hgives line hmem other).mp hother] at hnone
        cases hnone
    | some value =>
        obtain ⟨earlier, line, later, hlines, hvalue, hnone⟩ :=
          List.findSome?_eq_some_iff.mp hfound
        obtain ⟨first, rest, hrequest, hfree, hfull⟩ := exists_block_of_headerLines hlines
        refine Or.inl ⟨first, earlier, line, rest, hrequest, hfree, hfull, ?_, ?_⟩
        · intro l hl other hother
          have hgiven := (hgives l (by simp [hlines, hl]) other).mp hother
          rw [hnone l hl] at hgiven
          cases hgiven
        · exact (hgives line (by simp [hlines]) value).mpr hvalue

/-- For a request without NUL bytes the scan ends, and gives what the request gives
under the name, and nothing else.  The name is passed as a C string. -/
theorem scanHeader_spec {request : List Char} (hnul : '\x00' ∉ request) (name : List Char) :
    ∃ value, (∀ rounds, request.length < rounds → scanHeader rounds request name = some value) ∧
      ∀ other, HeaderText request (cString name) other ↔ value = other :=
  ⟨headerValue request name, fun _ => scanHeader_eq name, fun _ => headerText_iff hnul⟩

/-- A request whose body looks like a header. -/
theorem bodyHeader_scanned :
    let request := "GET / HTTP/1.1\r\nHost: cpe\r\n\r\nAuthorization: Digest\r\n".toList
    ∃ value, (∀ rounds, request.length < rounds →
        scanHeader rounds request "authorization".toList = some value) ∧
      ∀ other, HeaderText request (cString "authorization".toList) other ↔ value = other :=
  scanHeader_spec (by decide) _

end ConnectionRequestServer

end Tr069d
