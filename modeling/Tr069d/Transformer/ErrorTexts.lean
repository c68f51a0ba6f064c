import Tr069d.Effects.Calls
import Tr069d.Soap.Replies
import Tr069d.Transformer.Engine

/-!
# The texts of the errors

An engine on UCI reports its errors with texts of its own, and with names and types
of the request.  Where the request is made of characters of XML, so are the errors,
and the fault that carries them can be read.

* `visible_of_normalize` and its kin cover the texts of the script, which are ASCII.
* `rtakeWhile_encode` covers the one text that is cut out of a request: its type.
* `returns_setParameterValues` goes through all ends of a call, whatever fails.
-/

namespace Tr069d

open Effects Xml

/-! ## Legal texts -/

theorem legalBytes_append {first second : String} (hfirst : LegalBytes first)
    (hsecond : LegalBytes second) : LegalBytes (first ++ second) := by
  obtain ⟨text, ⟨htext, hcr⟩, rfl⟩ := hfirst
  obtain ⟨rest, ⟨hrest, hcr'⟩, rfl⟩ := hsecond
  refine ⟨text ++ rest, ⟨fun c hc => ?_, ?_⟩, ?_⟩
  · rw [String.toList_append, List.mem_append] at hc
    exact hc.elim (htext c) (hrest c)
  · rw [String.toList_append, List.mem_append, not_or]
    exact ⟨hcr, hcr'⟩
  · unfold encodeString
    rw [String.toList_append, encode_append, String.ofList_append]

/-- What follows the last colon is found among the bytes as among the characters. -/
theorem rtakeWhile_encode (text : List Char) :
    (encode text).rtakeWhile (· ≠ ':') = encode (text.rtakeWhile (· ≠ ':')) := by
  induction text using List.reverseRecOn with
  | nil => rfl
  | append_singleton text c ih =>
      have hencode : encode (text ++ [c]) = encode text ++ encodeChar c := by
        rw [encode_append, encode_cons]
        exact congrArg (encode text ++ ·) (List.append_nil _)
      rw [hencode]
      by_cases hcolon : c = ':'
      · rw [hcolon, encodeChar_of_lt (by decide), List.rtakeWhile_concat_neg _ _ _ (by simp),
          List.rtakeWhile_concat_neg _ _ _ (by simp)]
        rfl
      · -- no byte of another character is a colon
        have hbytes : ∀ d ∈ encodeChar c, d ≠ ':' := by
          intro d hd
          by_cases hascii : c.toNat < 128
          · rw [encodeChar_of_lt hascii] at hd
            rwa [List.mem_singleton.mp hd]
          · have hle := le_of_mem_encodeChar (Nat.le_of_not_lt hascii) hd
            intro heq
            rw [heq] at hle
            exact absurd hle (by decide)
        have hall : ∀ d ∈ (encodeChar c).reverse, decide (d ≠ ':') = true := by
          intro d hd
          exact decide_eq_true (hbytes d (List.mem_reverse.mp hd))
        rw [List.rtakeWhile_concat_pos _ _ _ (by simp [hcolon]), encode_append, ← ih,
          List.rtakeWhile, List.reverse_append, List.takeWhile_append_of_pos hall,
          List.reverse_append, List.reverse_reverse, encode_cons]
        exact congrArg ((encode text).rtakeWhile _ ++ ·) (List.append_nil (encodeChar c)).symm

theorem legalBytes_localTypeName {declared : String} (h : LegalBytes declared) :
    LegalBytes (localTypeName declared) := by
  unfold localTypeName
  split
  · exact h
  · obtain ⟨text, ⟨htext, hcr⟩, rfl⟩ := h
    have hpart : ∀ c ∈ text.toList.rtakeWhile (· ≠ ':'), c ∈ text.toList :=
      fun c hc => (List.rtakeWhile_suffix _ _).subset hc
    refine ⟨String.ofList (text.toList.rtakeWhile (· ≠ ':')), ⟨fun c hc => ?_, fun hc => ?_⟩, ?_⟩
    · rw [String.toList_ofList] at hc
      exact htext c (hpart c hc)
    · rw [String.toList_ofList] at hc
      exact hcr (hpart _ hc)
    · rw [encodeString, encodeString, String.toList_ofList, String.toList_ofList,
        rtakeWhile_encode]

/-! ## The errors of a call -/

/-- The strings of a batch are made of characters of XML. -/
structure LegalItem (item : ParameterValue) : Prop where
  name : LegalBytes item.name
  type : LegalBytes item.type

/-- An error that says something, with legal texts. -/
structure LegalError (error : SetError) : Prop where
  message : LegalBytes error.message
  path : LegalBytes error.path
  said : error.message ≠ ""

theorem visible_of_normalize {spec : Spec} {raw message : String}
    (h : normalize spec raw = .error message) :
    OutgoingMessage.Visible message ∧ message ≠ "" := by
  -- every message is a literal of the script, one for each type
  have htype : ∀ type message, normalizeType type raw = .error message →
      OutgoingMessage.Visible message ∧ message ≠ "" := by
    intro type message htype
    cases type with
    | string => cases htype
    | boolean | unsignedInt | dateTime =>
        simp only [normalizeType] at htype
        split_ifs at htype
        cases htype
        decide
    | int =>
        simp only [normalizeType] at htype
        split at htype <;> split_ifs at htype <;> cases htype <;> decide
  unfold normalize at h
  split_ifs at h
  · cases h
    decide
  · cases h
    decide
  · split at h
    · rename_i hmessage
      cases h
      exact htype _ _ hmessage
    · split_ifs at h <;> cases h <;> decide

theorem legalError_visible {path message : String} (hpath : LegalBytes path)
    (hmessage : OutgoingMessage.Visible message ∧ message ≠ "") : LegalError ⟨path, message⟩ :=
  ⟨legalBytes_of_visible hmessage.1, hpath, hmessage.2⟩

theorem legalError_declaredType {spec : Spec} {path declared message : String}
    (hpath : LegalBytes path) (hdeclared : LegalBytes declared)
    (h : validateDeclaredType spec declared = some message) : LegalError ⟨path, message⟩ := by
  unfold validateDeclaredType at h
  split_ifs at h
  obtain rfl := Option.some.inj h
  have hname : LegalBytes spec.type.name := by
    cases spec.type <;> exact legalBytes_of_visible (by decide)
  have hmismatch : LegalBytes "type mismatch: expected " := legalBytes_of_visible (by decide)
  have hreceived : LegalBytes ", received " := legalBytes_of_visible (by decide)
  refine ⟨?_, hpath, ?_⟩
  · exact legalBytes_append (legalBytes_append (legalBytes_append hmismatch hname) hreceived)
      (legalBytes_localTypeName hdeclared)
  · intro hempty
    have hlength := congrArg String.length hempty
    have hreceived : ", received ".length = 11 := by decide
    simp only [String.length_append, String.length_empty, hreceived] at hlength
    omega

/-- A legal error, or a value that meets `ok`. -/
def LegalResult {α : Type} (ok : α → Prop) : Except SetError α → Prop
  | .error error => LegalError error
  | .ok value => ok value

namespace Engine

variable (engine : Engine)

theorem returns_stageItem {item : ParameterValue} (hitem : LegalItem item) :
    (engine.stageItem item).Returns (LegalResult fun staged => LegalBytes staged.path) := by
  unfold stageItem
  split
  · exact Prog.returns_after fun _ => legalError_visible hitem.name (by decide)
  split
  · exact Prog.returns_after fun _ => legalError_visible hitem.name (by decide)
  split
  · exact Prog.returns_after fun _ => legalError_visible hitem.name (by decide)
  split
  · rename_i htype
    exact Prog.returns_after fun _ => legalError_declaredType hitem.name hitem.type htype
  split
  · rename_i hmessage
    exact Prog.returns_after fun _ =>
      legalError_visible hitem.name (visible_of_normalize hmessage)
  · exact Prog.returns_after fun _ => hitem.name

theorem returns_stageItems {items : List ParameterValue} (hitems : ∀ item ∈ items, LegalItem item) :
    (engine.stageItems items).Returns
      (LegalResult fun staged => ∀ item ∈ staged, LegalBytes item.path) := by
  induction items with
  | nil => exact List.forall_mem_nil _
  | cons item rest ih =>
      obtain ⟨hitem, hrest⟩ := List.forall_mem_cons.mp hitems
      refine (engine.returns_stageItem hitem).bind fun result hresult => ?_
      cases result with
      | error error => exact hresult
      | ok staged =>
          refine (ih hrest).bind fun others hothers => ?_
          cases others with
          | error error => exact hothers
          | ok others => exact List.forall_mem_cons.mpr ⟨hresult, hothers⟩

theorem legalBytes_parameterKeyPath : LegalBytes parameterKeyPath :=
  legalBytes_of_visible (by decide)

theorem returns_stageParameterKey (parameterKey : String) :
    (engine.stageParameterKey parameterKey).Returns
      (LegalResult fun staged => LegalBytes staged.path) := by
  unfold stageParameterKey
  dsimp only
  split
  · exact Prog.returns_after fun _ => legalError_visible legalBytes_parameterKeyPath (by decide)
  split
  · exact Prog.returns_after fun _ => legalError_visible legalBytes_parameterKeyPath (by decide)
  split
  · rename_i hmessage
    exact Prog.returns_after fun _ =>
      legalError_visible legalBytes_parameterKeyPath (visible_of_normalize hmessage)
  · exact legalBytes_parameterKeyPath

/-- An item that is reported is one of them. -/
theorem returns_setAll (items : List StagedValue) :
    (engine.setAll items).Returns fun failed => ∀ item, failed = some item → item ∈ items := by
  induction items with
  | nil =>
      refine Prog.returns_pure fun item hnone => ?_
      cases hnone
  | cons item rest ih =>
      refine Prog.returns_after fun ok => ?_
      split
      · refine ih.mono fun failed hfailed found heq => ?_
        exact List.mem_cons_of_mem _ (hfailed found heq)
      · intro found heq
        rw [← Option.some.inj heq]
        exact List.mem_cons_self

theorem returns_readBackAll (items : List StagedValue) :
    (engine.readBackAll items).Returns fun failed =>
      ∀ item, failed = some item → item ∈ items := by
  induction items with
  | nil =>
      refine Prog.returns_pure fun item hnone => ?_
      cases hnone
  | cons item rest ih =>
      refine Prog.returns_after fun ok => ?_
      split
      · refine ih.mono fun failed hfailed found heq => ?_
        exact List.mem_cons_of_mem _ (hfailed found heq)
      · intro found heq
        rw [← Option.some.inj heq]
        exact List.mem_cons_self

theorem returns_commitStaged {staged : List StagedValue} {parameterKey : StagedValue}
    (hpaths : ∀ item ∈ staged ++ [parameterKey], LegalBytes item.path) :
    (engine.commitStaged staged parameterKey).Returns (LegalResult fun _ => True) := by
  have hempty : LegalBytes "" := legalBytes_of_visible (by decide)
  unfold commitStaged
  refine Prog.returns_after fun originals => Prog.returns_after fun originals => ?_
  refine Prog.returns_after fun _ => (engine.returns_setAll _).bind fun failed hfailed => ?_
  cases failed with
  | some item =>
      exact Prog.returns_after fun _ =>
        legalError_visible (hpaths item (hfailed item rfl)) (by decide)
  | none =>
      refine Prog.returns_after fun _ => Prog.returns_after fun committed => ?_
      split
      · refine Prog.returns_after fun _ => ?_
        refine (engine.returns_readBackAll _).bind fun failed hfailed => ?_
        cases failed with
        | some item =>
            exact Prog.returns_after fun _ =>
              legalError_visible (hpaths item (hfailed item rfl)) (by decide)
        | none => exact Prog.returns_after fun _ => Prog.returns_after fun _ => trivial
      · exact Prog.returns_after fun _ => Prog.returns_after fun _ =>
          legalError_visible hempty (by decide)

/-- Whatever fails, an error that UCI is answered with can be read in a fault. -/
theorem returns_setParameterValues (hmock : engine.mock = none) {items : List ParameterValue}
    (hitems : ∀ item ∈ items, LegalItem item) (parameterKey : String) :
    (engine.setParameterValues items parameterKey).Returns fun result =>
      LegalResult (fun _ => True) result.1 := by
  unfold setParameterValues
  refine Prog.returns_after fun _ => ?_
  refine (engine.returns_stageItems hitems).bind fun staged hstaged => ?_
  cases staged with
  | error error => exact hstaged
  | ok staged =>
      refine (engine.returns_stageParameterKey parameterKey).bind fun key hkey => ?_
      cases key with
      | error error => exact hkey
      | ok normalizedKey =>
          dsimp only
          rw [hmock]
          refine (engine.returns_commitStaged ?_).bind fun result hresult => hresult
          exact List.forall_mem_append.mpr ⟨hstaged, List.forall_mem_singleton.mpr hkey⟩

end Engine

end Tr069d
