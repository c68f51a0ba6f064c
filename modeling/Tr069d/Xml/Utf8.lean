import Tr069d.Xml.RoundTrip

/-!
# Documents as bytes

A document is a sequence of bytes; in a byte string every character stands for
one byte.  A reader decodes UTF-8 before anything else.  Printing and encoding
commute, since the characters that are escaped are single bytes and no other
byte looks like them: `readEncoded_print` is `readDocument_print` for bytes.

* `encodeChar_of_lt` and `le_of_mem_encodeChar` are the two facts about the bytes of a
  character that the rest needs.
* `encode_of_decode` says that what can be decoded is an encoding, so that a reader of
  bytes is a reader of texts.
-/

namespace Xml

/-- The bytes of a character. -/
def encodeChar (c : Char) : List Char :=
  (String.utf8EncodeChar c).map fun byte => Char.ofNat byte.toNat

def encode (text : List Char) : List Char :=
  text.flatMap encodeChar

/-- The text that the bytes encode, if they are bytes and UTF-8. -/
def decode (bytes : List Char) : Option (List Char) :=
  if bytes.all (fun c => c.toNat < 256) then
    ((bytes.map fun c => UInt8.ofNat c.toNat).toByteArray.utf8Decode?).map Array.toList
  else none

def encodeString (text : String) : String :=
  String.ofList (encode text.toList)

/-- A document as it is received. -/
def readEncoded (document : String) : Option Node :=
  (decode document.toList).bind fun text => readDocument (String.ofList text)

/-! ## Encoding -/

theorem toNat_ofNat_byte (byte : UInt8) : (Char.ofNat byte.toNat).toNat = byte.toNat := by
  have hbyte := byte.toNat_lt
  have hvalid : byte.toNat.isValidChar := Or.inl (by omega)
  rw [Char.ofNat, dif_pos hvalid]
  rfl

theorem decode_encode (text : List Char) : decode (encode text) = some text := by
  have hall : (encode text).all (fun c => c.toNat < 256) = true := by
    refine List.all_eq_true.mpr fun c hc => decide_eq_true ?_
    obtain ⟨d, -, hbyte⟩ := List.mem_flatMap.mp hc
    obtain ⟨byte, -, rfl⟩ := List.mem_map.mp hbyte
    rw [toNat_ofNat_byte]
    exact byte.toNat_lt
  have hbytes : (encode text).map (fun c => UInt8.ofNat c.toNat) =
      text.flatMap String.utf8EncodeChar := by
    rw [encode, List.map_flatMap]
    congr 1
    funext c
    rw [encodeChar, List.map_map]
    refine (List.map_congr_left fun byte _ => ?_).trans (List.map_id _)
    simp [toNat_ofNat_byte]
  have hencode : (text.flatMap String.utf8EncodeChar).toByteArray = text.utf8Encode := rfl
  rw [decode, if_pos hall, hbytes, hencode, List.utf8Decode?_utf8Encode]
  rfl

/-- What can be decoded is an encoding. -/
theorem encode_of_decode {bytes text : List Char} (h : decode bytes = some text) :
    encode text = bytes := by
  unfold decode at h
  split_ifs at h with hall
  obtain ⟨decoded, hdecoded, rfl⟩ := Option.map_eq_some_iff.mp h
  have hsome : ((bytes.map fun c => UInt8.ofNat c.toNat).toByteArray.utf8Decode?).isSome := by
    rw [hdecoded]
    rfl
  have hbytes := @ByteArray.utf8Encode_get_utf8Decode? _ hsome
  simp only [hdecoded, Option.get_some] at hbytes
  have hflat : decoded.toList.flatMap String.utf8EncodeChar =
      bytes.map fun c => UInt8.ofNat c.toNat := by
    have hdata := congrArg ByteArray.data hbytes
    simpa [List.utf8Encode] using hdata
  have hmap : encode decoded.toList =
      (decoded.toList.flatMap String.utf8EncodeChar).map fun byte => Char.ofNat byte.toNat :=
    List.map_flatMap.symm
  rw [hmap, hflat, List.map_map]
  refine (List.map_congr_left fun c hc => ?_).trans (List.map_id _)
  have hbyte : c.toNat < 256 := of_decide_eq_true (List.all_eq_true.mp hall c hc)
  have hsame : (UInt8.ofNat c.toNat).toNat = c.toNat := by
    rw [UInt8.toNat_ofNat']
    exact Nat.mod_eq_of_lt hbyte
  simp only [Function.comp_apply, hsame, Char.ofNat_toNat, id_eq]

theorem encode_append (text rest : List Char) :
    encode (text ++ rest) = encode text ++ encode rest :=
  List.flatMap_append

theorem encode_cons (c : Char) (text : List Char) :
    encode (c :: text) = encodeChar c ++ encode text := rfl

/-- A character of ASCII is one byte. -/
theorem encodeChar_of_lt {c : Char} (h : c.toNat < 128) : encodeChar c = [c] := by
  have hle : c.val.toNat ≤ 0x7f := by
    have : c.val.toNat < 128 := h
    omega
  have hbytes : String.utf8EncodeChar c = [UInt8.ofNat c.val.toNat] := by
    unfold String.utf8EncodeChar
    simp only [if_pos hle]
  have hbyte : (UInt8.ofNat c.val.toNat).toNat = c.toNat := by
    rw [UInt8.toNat_ofNat']
    exact Nat.mod_eq_of_lt (by omega)
  rw [encodeChar, hbytes, List.map_cons, hbyte, Char.ofNat_toNat, List.map_nil]

/-- The bytes of any other character are not in ASCII. -/
theorem le_of_mem_encodeChar {c d : Char} (h : 128 ≤ c.toNat) (hd : d ∈ encodeChar c) :
    128 ≤ d.toNat := by
  obtain ⟨byte, hbyte, rfl⟩ := List.mem_map.mp hd
  rw [toNat_ofNat_byte]
  have hnot : ¬c.val.toNat ≤ 0x7f := by
    have : 128 ≤ c.val.toNat := h
    omega
  unfold String.utf8EncodeChar at hbyte
  simp only [hnot, if_false] at hbyte
  split at hbyte
  · simp only [List.mem_cons, List.not_mem_nil, or_false] at hbyte
    rcases hbyte with rfl | rfl <;> simp only [UInt8.toNat_ofNat'] <;> omega
  · split at hbyte
    · simp only [List.mem_cons, List.not_mem_nil, or_false] at hbyte
      rcases hbyte with rfl | rfl | rfl <;> simp only [UInt8.toNat_ofNat'] <;> omega
    · simp only [List.mem_cons, List.not_mem_nil, or_false] at hbyte
      rcases hbyte with rfl | rfl | rfl | rfl <;> simp only [UInt8.toNat_ofNat'] <;> omega

/-- Text in ASCII. -/
def Ascii (text : List Char) : Prop :=
  text.all (fun c => c.toNat < 128) = true

instance (text : List Char) : Decidable (Ascii text) := inferInstanceAs (Decidable (_ = true))

theorem encode_of_ascii {text : List Char} (h : Ascii text) : encode text = text := by
  induction text with
  | nil => rfl
  | cons c text ih =>
      have hall := List.all_eq_true.mp h
      have hc : c.toNat < 128 := by simpa using hall c List.mem_cons_self
      have htext : Ascii text :=
        List.all_eq_true.mpr fun d hd => hall d (List.mem_cons_of_mem _ hd)
      rw [encode_cons, encodeChar_of_lt hc, ih htext, List.singleton_append]

/-! ## Encoding and printing -/

theorem escapeChar_of_le {c : Char} (h : 128 ≤ c.toNat) : escapeChar c = [c] := by
  unfold escapeChar
  split
  all_goals first | rfl | exact absurd h (by decide)

theorem escape_encode (text : List Char) : escape (encode text) = encode (escape text) := by
  induction text with
  | nil => rfl
  | cons c text ih =>
      rw [encode_cons, escape_append, escape_cons, encode_append, ih]
      congr 1
      rcases Nat.lt_or_ge c.toNat 128 with hc | hc
      · have hascii : Ascii (escapeChar c) := by
          unfold escapeChar
          split
          all_goals first | decide | simpa [Ascii] using hc
        rw [encodeChar_of_lt hc, encode_of_ascii hascii]
        simp [escape]
      · have hself : escape (encodeChar c) = encodeChar c := by
          have hchar : ∀ d ∈ encodeChar c, escapeChar d = [d] :=
            fun d hd => escapeChar_of_le (le_of_mem_encodeChar hc hd)
          rw [escape, List.flatMap_congr hchar, List.flatMap_singleton']
        rw [hself, escapeChar_of_le hc]
        simp [encode]

mutual

/-- The names of the elements and of the attributes are in ASCII. -/
def Element.AsciiNames : Element → Prop
  | .leaf name attributes _ =>
      Ascii name.toList ∧ ∀ entry ∈ attributes, Ascii entry.1.toList
  | .branch name attributes children =>
      Ascii name.toList ∧ (∀ entry ∈ attributes, Ascii entry.1.toList) ∧ AsciiNamesAll children

def AsciiNamesAll : List Element → Prop
  | [] => True
  | element :: rest => element.AsciiNames ∧ AsciiNamesAll rest

end

theorem encode_printAttributes {attributes : List (String × String)}
    (h : ∀ entry ∈ attributes, Ascii entry.1.toList) :
    printAttributes (attributes.map fun entry =>
      (entry.1, String.ofList (encode entry.2.toList))) = encode (printAttributes attributes) := by
  induction attributes with
  | nil => rfl
  | cons entry attributes ih =>
      have hname := encode_of_ascii (h entry List.mem_cons_self)
      have hrest := ih fun other hother => h other (List.mem_cons_of_mem _ hother)
      have hmarkup : encodeChar ' ' = [' '] ∧ encodeChar '=' = ['='] ∧ encodeChar '"' = ['"'] := by
        refine ⟨?_, ?_, ?_⟩ <;> exact encodeChar_of_lt (by decide)
      rw [List.map_cons, printAttributes_cons, printAttributes_cons]
      simp only [encode_cons, encode_append, hname, hmarkup, hrest, String.toList_ofList,
        escape_encode, List.singleton_append]

mutual

theorem encode_inner : ∀ element : Element, element.AsciiNames →
    (element.mapStrings encode encode).inner = encode element.inner
  | .leaf name attributes content, hascii => by
      have hname := encode_of_ascii hascii.1
      have hmarkup : encodeChar '>' = ['>'] ∧ encodeChar '<' = ['<'] ∧ encodeChar '/' = ['/'] := by
        refine ⟨?_, ?_, ?_⟩ <;> exact encodeChar_of_lt (by decide)
      simp only [Element.mapStrings, Element.inner, encode_append, encode_cons, hname, hmarkup,
        encode_printAttributes hascii.2, String.toList_ofList, escape_encode,
        List.singleton_append]
      rfl
  | .branch name attributes children, hascii => by
      have hname := encode_of_ascii hascii.1
      have hmarkup : encodeChar '>' = ['>'] ∧ encodeChar '<' = ['<'] ∧ encodeChar '/' = ['/'] := by
        refine ⟨?_, ?_, ?_⟩ <;> exact encodeChar_of_lt (by decide)
      simp only [Element.mapStrings, Element.inner, encode_append, encode_cons, hname, hmarkup,
        encode_printAttributes hascii.2.1, encode_printAll children hascii.2.2,
        List.singleton_append]
      rfl

theorem encode_printAll : ∀ elements : List Element, AsciiNamesAll elements →
    printAll (mapStringsAll encode encode elements) = encode (printAll elements)
  | [], _ => rfl
  | element :: others, hascii => by
      simp only [printAll, mapStringsAll, List.cons_append, encode_cons, encode_append,
        encodeChar_of_lt (show '<'.toNat < 128 by decide), encode_inner element hascii.1,
        encode_printAll others hascii.2, List.nil_append]

end

/-- What a reader makes of a tree whose strings were encoded before it was printed. -/
theorem readEncoded_print {element : Element} (h : element.Printable)
    (hascii : element.AsciiNames) :
    readEncoded (declaration ++ String.ofList (element.mapStrings encode encode).print) =
      some element.recovered.node := by
  have hdeclaration : Ascii declaration.toList := by decide
  have hbytes : (declaration ++ String.ofList (element.mapStrings encode encode).print).toList =
      encode (declaration ++ String.ofList element.print).toList := by
    simp only [String.toList_append, String.toList_ofList, encode_append,
      encode_of_ascii hdeclaration, Element.print, encode_cons,
      encodeChar_of_lt (show '<'.toNat < 128 by decide), encode_inner element hascii,
      List.singleton_append]
  rw [readEncoded, hbytes, decode_encode, Option.bind_some, String.ofList_toList,
    readDocument_print h]

end Xml
