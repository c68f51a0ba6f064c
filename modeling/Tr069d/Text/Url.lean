import Tr069d.Text.Patterns
import Tr069d.Text.Search

/-!
# Where a URL points

The endpoint of a URL is its host, past any user information and in lower case,
and its port, where a port that is not written is the default of the scheme.

The Lua patterns read a host and a port as well, but they end a host at the
first `/` or `:`, whatever stands before it, and compare letters and digits as
they are written.  On plain URLs the two readings agree: equal endpoints are
read as equal (`exists_read_of_endpoint_eq`).
-/

namespace Tr069d

structure Endpoint where
  host : List Char
  /-- `none` if no number is written and the scheme has no default. -/
  port : Option Nat
  deriving DecidableEq, Repr

/-- The scheme, in lower case. -/
def schemeOf (url : List Char) : List Char :=
  (url.takeWhile isSchemeChar).map Char.toLower

def defaultPort (scheme : List Char) : Option Nat :=
  if scheme = "http".toList then some 80
  else if scheme = "https".toList then some 443
  else none

/-- What stands before the path, the query and the fragment. -/
def authorityOf (text : List Char) : List Char :=
  text.takeWhile fun c => c ∉ ['/', '?', '#']

/-- The user information ends at the last `@`. -/
def dropUserinfo (authority : List Char) : List Char :=
  authority.rtakeWhile (· ≠ '@')

/-- The host and what follows it.  An address in brackets may hold colons. -/
def splitHost (text : List Char) : List Char × List Char :=
  if text.head? = some '[' ∧ ']' ∈ text then
    (text.takeWhile (· ≠ ']') ++ [']'], (text.dropWhile (· ≠ ']')).tail)
  else (text.takeWhile (· ≠ ':'), text.dropWhile (· ≠ ':'))

/-- The port that is written after the host, or else the default. -/
def effectivePort (default : Option Nat) : List Char → Option Nat
  | [] => default
  | [':'] => default
  | ':' :: digits => if isDecimal digits then some (decimalValue digits) else none
  | _ => none

/-- The endpoint of a URL, given its scheme and what follows `://`. -/
def endpointAfter (scheme text : List Char) : Endpoint :=
  let parts := splitHost (dropUserinfo (authorityOf text))
  ⟨parts.1.map Char.toLower, effectivePort (defaultPort scheme) parts.2⟩

/-- The endpoint of a URL of any scheme. -/
def endpointOf (url : String) : Option Endpoint :=
  (afterScheme url.toList).map (endpointAfter (schemeOf url.toList))

/-- The URL is an `http` or `https` URL. -/
def isHttp (url : String) : Bool :=
  schemeOf url.toList = "http".toList || schemeOf url.toList = "https".toList

/-- The first number of an IPv4 literal. -/
def ipv4FirstByte (host : List Char) : Option Nat :=
  match host.splitOn '.' with
  | [a, b, c, d] =>
      if (isDecimal a && isDecimal b && isDecimal c && isDecimal d) &&
          (decimalValue a ≤ 255 && decimalValue b ≤ 255 && decimalValue c ≤ 255 &&
            decimalValue d ≤ 255) then
        some (decimalValue a)
      else none
  | _ => none

/-- The addresses in 0/8 and 127/8 and those of 224.0.0.0 and above. -/
def unusableByte (a : Nat) : Bool :=
  a = 0 || a = 127 || 224 ≤ a

/-- A host that no other machine reaches this one at. -/
def unreachableHost (host : List Char) : Bool :=
  host = [] || host = "localhost".toList || (ipv4FirstByte host).any unusableByte

example : endpointOf "HTTP://me:secret@[FE80::1]:08080?x" =
    some ⟨"[fe80::1]".toList, some 8080⟩ := by decide

example : endpointOf "https://user@Acs.Example#top" = some ⟨"acs.example".toList, some 443⟩ := by
  decide

/-! ## Schemes -/

theorem eq_append_of_dropPrefix? {text head rest : List Char}
    (h : text.dropPrefix? head = some rest) : text = head ++ rest := by
  obtain ⟨first, htext, hhead⟩ := List.dropPrefix?_eq_some_iff.mp h
  rwa [eq_of_beq hhead] at htext

theorem afterScheme_http (text : List Char) :
    afterScheme ("http://".toList ++ text) = some text ∧
      schemeOf ("http://".toList ++ text) = "http".toList := by
  have hrest : afterScheme ("http://".toList ++ text) =
      ("://".toList ++ text).dropPrefix? "://".toList := rfl
  exact ⟨hrest.trans (List.dropPrefix?_append_of_beq _ (beq_self_eq_true _)), rfl⟩

theorem afterScheme_https (text : List Char) :
    afterScheme ("https://".toList ++ text) = some text ∧
      schemeOf ("https://".toList ++ text) = "https".toList := by
  have hrest : afterScheme ("https://".toList ++ text) =
      ("://".toList ++ text).dropPrefix? "://".toList := rfl
  exact ⟨hrest.trans (List.dropPrefix?_append_of_beq _ (beq_self_eq_true _)), rfl⟩

/-- The two schemes of the pattern are schemes. -/
theorem afterScheme_of_afterHttp {url : String} {text : List Char}
    (h : afterHttp url.toList = some text) :
    afterScheme url.toList = some text ∧ isHttp url = true := by
  unfold isHttp
  rcases Option.or_eq_some_iff.mp h with h | ⟨-, h⟩
  · rw [eq_append_of_dropPrefix? h]
    obtain ⟨hrest, hscheme⟩ := afterScheme_https text
    rw [hrest, hscheme]
    exact ⟨rfl, rfl⟩
  · rw [eq_append_of_dropPrefix? h]
    obtain ⟨hrest, hscheme⟩ := afterScheme_http text
    rw [hrest, hscheme]
    exact ⟨rfl, rfl⟩

/-! ## Plain URLs -/

/-- What stands before the first slash holds no user information, no query, no
fragment and no upper-case letter. -/
def PlainAuthority (text : List Char) : Prop :=
  ∀ c ∈ text.takeWhile (· ≠ '/'), c ∉ ['@', '?', '#'] ∧ ¬c.isUpper

/-- The port is left out, or written without leading zeros. -/
def PlainPort (text : List Char) : Prop :=
  ∀ host port, hostAndPort text = some (host, port) →
    port = "" ∨ port = toString (decimalValue port.toList)

/-- The host and the port of the URL are written in the plainest way. -/
def PlainUrl (url : String) : Prop :=
  ∀ text, afterScheme url.toList = some text → PlainAuthority text ∧ PlainPort text

section Plain

variable {text : List Char}

theorem toLower_of_not_isUpper {c : Char} (h : ¬c.isUpper) : c.toLower = c := by
  unfold Char.toLower
  rw [dif_neg]
  intro hbounds
  exact h (decide_eq_true hbounds)

theorem authorityOf_of_plain (h : PlainAuthority text) :
    authorityOf text = text.takeWhile (· ≠ '/') := by
  unfold PlainAuthority at h
  unfold authorityOf
  induction text with
  | nil => rfl
  | cons c text ih =>
      by_cases hslash : c = '/'
      · simp [hslash]
      · rw [List.takeWhile_cons_of_pos (by simpa using hslash)] at h
        have hplain := (h c (List.mem_cons_self ..)).1
        have hinside : c ∉ ['/', '?', '#'] := by
          simp only [List.mem_cons, not_or] at hplain ⊢
          exact ⟨hslash, hplain.2.1, hplain.2.2.1, hplain.2.2.2⟩
        rw [List.takeWhile_cons_of_pos (by simpa only [decide_eq_true_eq] using hinside),
          List.takeWhile_cons_of_pos (by simpa using hslash),
          ih fun d hd => h d (List.mem_cons_of_mem _ hd)]

theorem dropUserinfo_of_plain (h : PlainAuthority text) :
    dropUserinfo (authorityOf text) = text.takeWhile (· ≠ '/') := by
  rw [authorityOf_of_plain h, dropUserinfo, List.rtakeWhile_eq_self_iff]
  intro c hc
  have hat := (h c hc).1
  simp only [List.mem_cons, not_or] at hat
  simpa using hat.1

theorem splitHost_append (authority : List Char) :
    (splitHost authority).1 ++ (splitHost authority).2 = authority := by
  unfold splitHost
  split_ifs with hbracket
  · obtain ⟨-, hclose⟩ := hbracket
    have hsplit := List.takeWhile_append_dropWhile (p := fun c => decide (c ≠ ']')) (l := authority)
    cases hrest : authority.dropWhile fun c => decide (c ≠ ']') with
    | nil =>
        rw [List.dropWhile_eq_nil_iff] at hrest
        simpa using hrest _ hclose
    | cons c rest =>
        have hhead := List.head?_dropWhile_not (fun c => decide (c ≠ ']')) authority
        rw [hrest] at hhead
        obtain rfl : c = ']' := by simpa using hhead
        rw [hrest] at hsplit
        simpa using hsplit
  · exact List.takeWhile_append_dropWhile

/-- The endpoint of a plain URL is what stands there. -/
theorem endpointAfter_of_plain (scheme : List Char) (h : PlainAuthority text) :
    endpointAfter scheme text =
      ⟨(splitHost (text.takeWhile (· ≠ '/'))).1,
        effectivePort (defaultPort scheme) (splitHost (text.takeWhile (· ≠ '/'))).2⟩ := by
  have hlower : ∀ c ∈ (splitHost (text.takeWhile (· ≠ '/'))).1, c.toLower = c := by
    intro c hc
    apply toLower_of_not_isUpper
    refine (h c ?_).2
    rw [← splitHost_append (text.takeWhile (· ≠ '/'))]
    exact List.mem_append_left _ hc
  have hhost : (splitHost (text.takeWhile (· ≠ '/'))).1.map Char.toLower =
      (splitHost (text.takeWhile (· ≠ '/'))).1 := by
    conv_rhs => rw [← List.map_id (splitHost (text.takeWhile (· ≠ '/'))).1]
    exact List.map_congr_left hlower
  unfold endpointAfter
  simp only [dropUserinfo_of_plain h, hhost]

/-! ## What the patterns read -/

/-- The pattern stops at the first slash, if not earlier. -/
theorem takeWhile_isHostChar (text : List Char) :
    text.takeWhile isHostChar = (text.takeWhile (· ≠ '/')).takeWhile (· ≠ ':') := by
  rw [List.takeWhile_takeWhile]
  congr 1
  funext c
  simp [isHostChar, and_comm]

theorem takeWhile_isDigit_takeWhile (text : List Char) :
    (text.takeWhile (· ≠ '/')).takeWhile Char.isDigit = text.takeWhile Char.isDigit := by
  rw [List.takeWhile_takeWhile]
  congr 1
  funext c
  by_cases hc : c = '/'
  · subst hc
    rfl
  · simp [hc]

theorem portPart_dropWhile_isHostChar (text : List Char) :
    portPart (text.dropWhile isHostChar) =
      portPart ((text.takeWhile (· ≠ '/')).dropWhile (· ≠ ':')) := by
  induction text with
  | nil => rfl
  | cons c text ih =>
      by_cases hslash : c = '/'
      · subst hslash
        rfl
      · rw [List.takeWhile_cons_of_pos (by simpa using hslash)]
        by_cases hcolon : c = ':'
        · subst hcolon
          exact (takeWhile_isDigit_takeWhile text).symm
        · rw [List.dropWhile_cons_of_pos (by simp [isHostChar, hslash, hcolon]),
            List.dropWhile_cons_of_pos (by simpa using hcolon), ih]

theorem hostAndPort_eq_some_iff {text : List Char} {host port : String} :
    hostAndPort text = some (host, port) ↔
      (text.takeWhile (· ≠ '/')).takeWhile (· ≠ ':') ≠ [] ∧
      host.toList = (text.takeWhile (· ≠ '/')).takeWhile (· ≠ ':') ∧
      port.toList = portPart ((text.takeWhile (· ≠ '/')).dropWhile (· ≠ ':')) := by
  unfold hostAndPort hostPart
  rw [takeWhile_isHostChar, portPart_dropWhile_isHostChar]
  generalize (text.takeWhile (· ≠ '/')).takeWhile (· ≠ ':') = read
  generalize portPart ((text.takeWhile (· ≠ '/')).dropWhile (· ≠ ':')) = digits
  cases read with
  | nil => simp
  | cons c read =>
      simp only [List.isEmpty_cons, Bool.false_eq_true, if_false, Option.map_some,
        Option.some.injEq, Prod.mk.injEq, ne_eq, reduceCtorEq, not_false_eq_true, true_and]
      rw [← String.toList_inj, ← String.toList_inj, String.toList_ofList, String.toList_ofList]
      exact ⟨fun h => ⟨h.1.symm, h.2.symm⟩, fun h => ⟨h.1.symm, h.2.symm⟩⟩

/-- What follows the host, where there is an effective port. -/
theorem rest_of_effectivePort {default : Option Nat} {rest : List Char} {port : Nat}
    (h : effectivePort default rest = some port) :
    rest = [] ∨ ∃ digits, rest = ':' :: digits ∧ digits.all Char.isDigit = true ∧
      (digits ≠ [] → decimalValue digits = port) := by
  unfold effectivePort at h
  split at h
  · exact Or.inl rfl
  · exact Or.inr ⟨[], rfl, rfl, fun hne => absurd rfl hne⟩
  · rename_i digits _
    refine Or.inr ⟨digits, rfl, ?_⟩
    split at h
    · rename_i hdecimal
      simp only [isDecimal, Bool.and_eq_true] at hdecimal
      exact ⟨hdecimal.2, fun _ => Option.some.inj h⟩
    · cases h
  · cases h

/-- A host without a colon is read whole, with the port that is written. -/
theorem read_of_no_colon {default : Option Nat} {host rest : List Char} {port : Nat}
    (hcolon : ':' ∉ host) (hport : effectivePort default rest = some port) :
    (host ++ rest).takeWhile (· ≠ ':') = host ∧
      (portPart ((host ++ rest).dropWhile (· ≠ ':')) = [] ∨
        decimalValue (portPart ((host ++ rest).dropWhile (· ≠ ':'))) = port) := by
  have hhost : ∀ c ∈ host, decide (c ≠ ':') = true := by
    intro c hc
    have hne : c ≠ ':' := fun heq => hcolon (heq ▸ hc)
    simpa using hne
  rw [List.takeWhile_append_of_pos hhost, List.dropWhile_append_of_pos hhost]
  obtain rfl | ⟨digits, rfl, hdigits, hvalue⟩ := rest_of_effectivePort hport
  · exact ⟨by simp, Or.inl rfl⟩
  · have hall : digits.takeWhile Char.isDigit = digits :=
      List.takeWhile_eq_self_iff.mpr (List.all_eq_true.mp hdigits)
    rw [List.takeWhile_cons_of_neg (by simp), List.dropWhile_cons_of_neg (by simp)]
    simp only [List.append_nil, portPart, hall, true_and]
    by_cases hne : digits = []
    · exact Or.inl hne
    · exact Or.inr (hvalue hne)

/-- A host with a colon stands in brackets, and the pattern reads no further. -/
theorem read_of_colon {authority : List Char} (hcolon : ':' ∈ (splitHost authority).1) :
    authority.takeWhile (· ≠ ':') = (splitHost authority).1.takeWhile (· ≠ ':') ∧
      portPart (authority.dropWhile (· ≠ ':')) =
        portPart ((splitHost authority).1.dropWhile (· ≠ ':')) := by
  have hsplit := splitHost_append authority
  obtain ⟨inner, hinner⟩ : ∃ inner, (splitHost authority).1 = inner ++ [']'] := by
    unfold splitHost at hcolon ⊢
    split_ifs with hbracket
    · exact ⟨_, rfl⟩
    · rw [if_neg hbracket] at hcolon
      exact absurd hcolon (not_mem_takeWhile_ne authority ':')
  rw [hinner] at hcolon hsplit ⊢
  have hmem : ':' ∈ inner := by simpa using hcolon
  obtain ⟨before, after, rfl, hbefore⟩ := List.eq_append_cons_of_mem hmem
  generalize (splitHost authority).2 = rest at hsplit
  have hdigits : (after ++ ']' :: rest).takeWhile Char.isDigit =
      (after ++ [']']).takeWhile Char.isDigit := by
    rw [takeWhile_append_cons_of_neg after rest (by decide),
      takeWhile_append_cons_of_neg after [] (by decide)]
  simp only [← hsplit, List.append_assoc, List.cons_append, List.nil_append,
    takeWhile_ne_append_cons hbefore, dropWhile_ne_append_cons hbefore, portPart, hdigits,
    and_self]

/-- From equal hosts, with an effective port each, the patterns read equal
hosts, and ports of which one is left out or the numbers are equal too. -/
theorem read_equal_of_host_eq {first second : List Char} {default default' : Option Nat}
    {port : Nat} (hhost : (splitHost first).1 = (splitHost second).1)
    (hfirst : effectivePort default (splitHost first).2 = some port)
    (hsecond : effectivePort default' (splitHost second).2 = some port) :
    first.takeWhile (· ≠ ':') = second.takeWhile (· ≠ ':') ∧
      (portPart (first.dropWhile (· ≠ ':')) = [] ∨ portPart (second.dropWhile (· ≠ ':')) = [] ∨
        decimalValue (portPart (first.dropWhile (· ≠ ':'))) =
          decimalValue (portPart (second.dropWhile (· ≠ ':')))) := by
  by_cases hcolon : ':' ∈ (splitHost first).1
  · obtain ⟨hread, hport⟩ := read_of_colon hcolon
    obtain ⟨hread', hport'⟩ := read_of_colon (hhost ▸ hcolon)
    rw [hread, hread', hport, hport', hhost]
    exact ⟨rfl, Or.inr (Or.inr rfl)⟩
  · obtain ⟨hread, hport⟩ := read_of_no_colon hcolon hfirst
    obtain ⟨hread', hport'⟩ := read_of_no_colon (hhost ▸ hcolon) hsecond
    rw [splitHost_append] at hread hread' hport hport'
    refine ⟨hread.trans (hhost.trans hread'.symm), ?_⟩
    rcases hport with hempty | hvalue
    · exact Or.inl hempty
    rcases hport' with hempty' | hvalue'
    · exact Or.inr (Or.inl hempty')
    · exact Or.inr (Or.inr (hvalue.trans hvalue'.symm))

/-- Where two plain URLs have one endpoint, the patterns read one host, and one
port unless it is left out. -/
theorem exists_read_of_endpoint_eq {text text' scheme scheme' : List Char} {port : Nat}
    {read : String × String} (hplain : PlainAuthority text ∧ PlainPort text)
    (hplain' : PlainAuthority text' ∧ PlainPort text')
    (hendpoint : endpointAfter scheme text = endpointAfter scheme' text')
    (hport : (endpointAfter scheme text).port = some port)
    (hread : hostAndPort text = some read) :
    ∃ port', hostAndPort text' = some (read.1, port') ∧
      (read.2 = "" ∨ port' = "" ∨ read.2 = port') := by
  have hport' : (endpointAfter scheme' text').port = some port := hendpoint ▸ hport
  rw [endpointAfter_of_plain _ hplain.1] at hendpoint hport
  rw [endpointAfter_of_plain _ hplain'.1] at hendpoint hport'
  -- the endpoints have one host and one port, which the patterns read as text
  obtain ⟨hhosts, hports⟩ := read_equal_of_host_eq (congrArg Endpoint.host hendpoint) hport hport'
  obtain ⟨hne, hhost, hdigits⟩ := hostAndPort_eq_some_iff.mp hread
  have hread' : hostAndPort text' = some (read.1,
      String.ofList (portPart ((text'.takeWhile (· ≠ '/')).dropWhile (· ≠ ':')))) :=
    hostAndPort_eq_some_iff.mpr ⟨hhosts ▸ hne, hhost.trans hhosts, String.toList_ofList⟩
  refine ⟨_, hread', ?_⟩
  rw [← hdigits] at hports
  -- a port may be left out on one side, and stands for the default there
  rcases hports with hempty | hempty | hvalue
  · exact Or.inl (String.toList_eq_nil_iff.mp hempty)
  · exact Or.inr (Or.inl (by rw [hempty]))
  · rcases hplain.2 _ _ hread with hleft | htext
    · exact Or.inl hleft
    · rcases hplain'.2 _ _ hread' with hleft' | htext'
      · exact Or.inr (Or.inl hleft')
      · refine Or.inr (Or.inr ?_)
        rw [htext, htext', String.toList_ofList, hvalue]

end Plain

/-! ## Hosts that are not reached -/

theorem unreachableHost_bracket (text : List Char) : unreachableHost ('[' :: text) = false := by
  have hnumber : ipv4FirstByte ('[' :: text) = none := by
    unfold ipv4FirstByte
    rw [List.splitOn_cons_eq_if_modifyHead, if_neg (by decide)]
    cases text.splitOn '.' with
    | nil => rfl
    | cons first others =>
        have hbracket : isDecimal ('[' :: first) = false := by simp [isDecimal]
        rcases others with _ | ⟨b, _ | ⟨c, _ | ⟨d, _ | ⟨e, others⟩⟩⟩⟩ <;> simp [hbracket]
  simp [unreachableHost, hnumber]

/-- The host of a plain URL that is not reached is what the pattern reads. -/
theorem read_of_unreachableHost {text scheme : List Char} {read : String × String}
    (hplain : PlainAuthority text)
    (hhost : unreachableHost (endpointAfter scheme text).host = true)
    (hread : hostAndPort text = some read) :
    read.1.toList = (endpointAfter scheme text).host := by
  obtain ⟨-, hfirst, -⟩ := hostAndPort_eq_some_iff.mp hread
  rw [endpointAfter_of_plain _ hplain] at hhost ⊢
  rw [hfirst]
  generalize text.takeWhile (· ≠ '/') = authority at hhost ⊢
  simp only [splitHost] at hhost ⊢
  split_ifs at hhost ⊢ with hbracket
  · obtain ⟨rest, rfl⟩ : ∃ rest, authority = '[' :: rest := by
      cases authority with
      | nil => cases hbracket.1
      | cons c rest =>
          obtain rfl : c = '[' := by simpa using hbracket.1
          exact ⟨rest, rfl⟩
    rw [List.takeWhile_cons_of_pos (by decide), List.cons_append,
      unreachableHost_bracket] at hhost
    cases hhost
  · rfl

theorem ipv4FirstByte_eq_some_iff {host : List Char} {byte : Nat} :
    ipv4FirstByte host = some byte ↔
      ∃ a b c d, host.splitOn '.' = [a, b, c, d] ∧
        (isDecimal a = true ∧ isDecimal b = true ∧ isDecimal c = true ∧ isDecimal d = true) ∧
        (decimalValue a ≤ 255 ∧ decimalValue b ≤ 255 ∧ decimalValue c ≤ 255 ∧
          decimalValue d ≤ 255) ∧ decimalValue a = byte := by
  constructor
  · intro h
    unfold ipv4FirstByte at h
    split at h
    · rename_i a b c d hsplit
      split_ifs at h with hcheck
      simp only [Bool.and_eq_true, decide_eq_true_eq] at hcheck
      exact ⟨a, b, c, d, hsplit, by tauto, by tauto, Option.some.inj h⟩
    · cases h
  · rintro ⟨a, b, c, d, hsplit, hdecimal, hbytes, rfl⟩
    simp [ipv4FirstByte, hsplit, hdecimal, hbytes]

theorem exists_digit_of_isDecimal {text : List Char} (h : isDecimal text = true) :
    (∃ c rest, text = c :: rest ∧ c.isDigit = true) ∧
      ∃ rest c, text = rest ++ [c] ∧ c.isDigit = true := by
  simp only [isDecimal, Bool.and_eq_true, Bool.not_eq_true', List.isEmpty_eq_false_iff,
    List.all_eq_true] at h
  obtain ⟨hne, hdigits⟩ := h
  constructor
  · obtain ⟨c, rest, rfl⟩ := List.exists_cons_of_ne_nil hne
    exact ⟨c, rest, rfl, hdigits c (List.mem_cons_self ..)⟩
  · obtain ⟨rest, c, rfl⟩ := (List.eq_nil_or_concat' text).resolve_left hne
    exact ⟨rest, c, rfl, hdigits c (by simp)⟩

/-- An address literal begins with a digit, and trimming leaves it alone. -/
theorem head_of_ipv4FirstByte {host : List Char} {byte : Nat}
    (h : ipv4FirstByte host = some byte) :
    host.head?.any Char.isDigit = true ∧ trimSpaces host = host := by
  obtain ⟨a, b, c, d, hsplit, ⟨ha, -, -, hd⟩, -⟩ := ipv4FirstByte_eq_some_iff.mp h
  obtain ⟨⟨first, rest, rfl, hfirst⟩, -⟩ := exists_digit_of_isDecimal ha
  obtain ⟨-, before, last, rfl, hlast⟩ := exists_digit_of_isDecimal hd
  have hhost : host = first :: (rest ++ '.' :: (b ++ '.' :: (c ++ '.' :: before))) ++ [last] := by
    have hjoined : ['.'].intercalate (host.splitOn '.') = host := List.intercalate_splitOn '.'
    rw [hsplit] at hjoined
    simpa [List.intercalate_cons_cons] using hjoined.symm
  have htrim : trimSpaces host = host := by
    unfold trimSpaces
    rw [hhost, List.cons_append, List.dropWhile_cons_of_neg (by simp [isSpace_of_isDigit hfirst]),
      ← List.cons_append, List.rdropWhile_concat_neg _ _ _ (by simp [isSpace_of_isDigit hlast])]
  exact ⟨by simp [hhost, hfirst], htrim⟩

/-! ## An address and a port -/

theorem effectivePort_colon {default : Option Nat} {digits : List Char}
    (h : isDecimal digits = true) :
    effectivePort default (':' :: digits) = some (decimalValue digits) := by
  cases digits with
  | nil => cases h
  | cons c digits => simp [effectivePort, h]

/-- The letters of an address and a port are plain. -/
theorem plain_of_digit {c : Char} (h : c.isDigit = true ∨ c = '.' ∨ c = ':') :
    c ≠ '/' ∧ c ∉ ['@', '?', '#'] ∧ ¬c.isUpper := by
  rcases h with hdigit | rfl | rfl
  · have hne : ∀ d : Char, d.isDigit = false → c ≠ d := by
      rintro d hd rfl
      exact absurd hdigit (by simp [hd])
    refine ⟨hne '/' (by decide), ?_, ?_⟩
    · simp only [List.mem_cons, List.not_mem_nil, or_false, not_or]
      exact ⟨hne '@' (by decide), hne '?' (by decide), hne '#' (by decide)⟩
    · have hnine : c.toNat ≤ 57 := (Char.isDigit_iff_toNat.mp hdigit).2
      intro hupper
      have hletter := (isUpper_iff.mp hupper).1
      omega
  · decide
  · decide

/-- A URL that goes on with an address and a port points there. -/
theorem endpointAfter_address {scheme host port path : List Char}
    (hhost : ∀ c ∈ host, c.isDigit = true ∨ c = '.') (hport : isDecimal port = true) :
    endpointAfter scheme ((host ++ ':' :: port) ++ '/' :: path) =
      ⟨host, some (decimalValue port)⟩ := by
  have hletters : ∀ c ∈ host ++ ':' :: port, c.isDigit = true ∨ c = '.' ∨ c = ':' := by
    intro c hc
    rcases List.mem_append.mp hc with hc | hc
    · exact (hhost c hc).imp_right Or.inl
    · rcases List.mem_cons.mp hc with rfl | hc
      · exact Or.inr (Or.inr rfl)
      · simp only [isDecimal, Bool.and_eq_true] at hport
        exact Or.inl (List.all_eq_true.mp hport.2 c hc)
  -- the authority ends at the slash, as neither address nor port has one
  have hauthority : ((host ++ ':' :: port) ++ '/' :: path).takeWhile (· ≠ '/') =
      host ++ ':' :: port :=
    takeWhile_ne_append_cons fun hmem => (plain_of_digit (hletters _ hmem)).1 rfl
  have hplain : PlainAuthority ((host ++ ':' :: port) ++ '/' :: path) := by
    intro c hc
    rw [hauthority] at hc
    exact (plain_of_digit (hletters c hc)).2
  have hcolon : ':' ∉ host := by
    intro hmem
    rcases hhost _ hmem with hdigit | heq
    · exact absurd hdigit (by decide)
    · exact absurd heq (by decide)
  -- without brackets the colon is the one before the port
  have hhead : ¬((host ++ ':' :: port).head? = some '[' ∧ ']' ∈ host ++ ':' :: port) := by
    rintro ⟨-, hmem⟩
    rcases hletters _ hmem with hdigit | heq | heq
    · exact absurd hdigit (by decide)
    · exact absurd heq (by decide)
    · exact absurd heq (by decide)
  rw [endpointAfter_of_plain _ hplain, hauthority]
  simp only [splitHost, if_neg hhead, takeWhile_ne_append_cons hcolon,
    dropWhile_ne_append_cons hcolon, effectivePort_colon hport]

end Tr069d
