import QuorumBridge.Proofs.Json.Reader
import QuorumBridge.Signature

/-!
# What a signature looks like

The texts that are read as a signature, what is said about the others, and that
the written forms are read again.

A text is read in three steps, and each has a fault of its own. The marker is
taken away once. What is left is read as bytes, and only then are the bytes
counted. A text can be wrong in several ways, so the order of the steps decides
what is said about it. A size is told only if all else is in order, and it is
the number of bytes that the digits stand for, and not that of the text.

Two lengths are in play here. The digits of a signature are counted as
characters, and the number that has to be even is that of the bytes of the
text. They differ for texts with longer characters, but no such text is a
signature.

## Main definitions

* `Signature.Digits`: What is left of a text without its marker.
* `Signature.WellFormed`: The digits of a signature.
* `Signature.Faulty`: What is said about digits that are of none.
* `Signature.Exact`: What is made of all texts.

## Theorems

* `Signature.ofHex_eq_ok_iff`: What texts are read, and as what.
* `Signature.ofHex_eq_error_iff`: What is said about the others.
* `Signature.texts_exact`: All of this, and that written forms are read again.
-/

namespace QuorumBridge

namespace Signature

/-- What is left of a text when its marker, if it has one, is taken away once. -/
inductive Digits : List Char → List Char → Prop
  | marked (digits : List Char) : Digits ('0' :: 'x' :: digits) digits
  | plain {text : List Char} (h : ∀ digits, text ≠ '0' :: 'x' :: digits) : Digits text text

theorem digits_iff {text digits : List Char} : Digits text digits ↔ unmarked text = digits := by
  constructor
  · -- One mark is taken off, and only one. Digits that start with another keep it.
    rintro (_ | h)
    · rfl
    · exact unmarked.eq_2 _ h
  · rintro rfl
    unfold unmarked
    split
    · exact .marked _
    · rename_i h
      exact .plain h

/-- The digits of a signature: two for each byte, in either case. -/
def WellFormed (digits : List Char) : Prop :=
  digits.length = 130 ∧ ∀ c ∈ digits, c ∈ Hex.alphabet

/-- What is said about digits that are those of no signature. -/
inductive Faulty (digits : List Char) : SignatureFault → Prop
  /-- There is one too many or too few. -/
  | odd (h : (utf8 digits).length % 2 = 1) : Faulty digits (.badText .oddLength)
  /-- Else, the first byte that is none. -/
  | digit {byte : UInt8} {position : Nat} (heven : (utf8 digits).length % 2 = 0)
    (hbad : Hex.FirstBad (utf8 digits) byte position) :
    Faulty digits (.badText (.badDigit byte position))
  /-- Else, how many bytes they stand for. -/
  | size {count : Nat} (hlength : digits.length = 2 * count) (hcount : count ≠ 65)
    (hdigits : ∀ c ∈ digits, c ∈ Hex.alphabet) : Faulty digits (.badSize count)

theorem toList_hex (s : Signature) : s.hex.toList = '0' :: 'x' :: Hex.encode s.toList :=
  String.toList_ofList

/-- A signature is determined by its text behind the marker. -/
theorem toList_hex_eq_iff {s : Signature} {digits : List Char} :
    s.hex.toList = '0' :: 'x' :: digits ↔ digits = Hex.encode s.toList := by
  rw [toList_hex, List.cons.injEq, and_iff_right rfl, List.cons.injEq, and_iff_right rfl, eq_comm]

/-! ## Reading bytes -/

theorem ofBytes_toList (s : Signature) : ofBytes s.toList = .ok s := by
  rw [ofBytes, toList, Octets.ofList?_toList]

theorem ofBytes_eq_ok_iff {bytes : List UInt8} {s : Signature} :
    ofBytes bytes = .ok s ↔ bytes = s.toList := by
  constructor
  · intro h
    unfold ofBytes Octets.ofList? at h
    by_cases hlength : bytes.length = 65
    · simp only [dif_pos hlength, Except.ok.injEq] at h
      rw [← h]
      rfl
    · simp only [dif_neg hlength] at h
      exact absurd h (by simp only [reduceCtorEq, not_false_eq_true])
  · rintro rfl
    exact ofBytes_toList s

/-- A fault is that of the number of bytes. -/
theorem ofBytes_of_length_ne {bytes : List UInt8} (h : bytes.length ≠ 65) :
    ofBytes bytes = .error (.badSize bytes.length) := by
  unfold ofBytes Octets.ofList?
  simp only [dif_neg h]

/-! ## Reading digits -/

section Texts

variable {text : String} {digits : List Char}

theorem ofHex_of_decode_eq_error (h : Digits text.toList digits) {fault : Hex.Fault}
    (hdecode : Hex.decode (utf8 digits) = .error fault) :
    ofHex text = .error (.badText fault) := by
  rw [ofHex, digits_iff.1 h, hdecode]

theorem ofHex_of_decode_eq_ok (h : Digits text.toList digits) {bytes : List UInt8}
    (hdecode : Hex.decode (utf8 digits) = .ok bytes) : ofHex text = ofBytes bytes := by
  rw [ofHex, digits_iff.1 h, hdecode]

/-- The text of a signature, its letters in either case. -/
theorem ofHex_eq_ok_iff (h : Digits text.toList digits) {s : Signature} :
    ofHex text = .ok s ↔ s.hex.toList = '0' :: 'x' :: digits.map Char.toLower := by
  rw [toList_hex_eq_iff, ← Hex.decode_utf8_eq_ok_iff]
  cases hdecode : Hex.decode (utf8 digits) with
  | error fault =>
    rw [ofHex_of_decode_eq_error h hdecode]
    simp only [reduceCtorEq]
  | ok bytes => rw [ofHex_of_decode_eq_ok h hdecode, ofBytes_eq_ok_iff, Except.ok.injEq]

theorem exists_ofHex_iff (h : Digits text.toList digits) :
    (∃ s, ofHex text = .ok s) ↔ WellFormed digits := by
  rw [WellFormed, ← Hex.exists_encode_iff (n := 65)]
  -- Digits that are well formed encode some bytes, and their count is that of a signature.
  constructor
  · rintro ⟨s, hs⟩
    rw [ofHex_eq_ok_iff h, toList_hex_eq_iff] at hs
    exact ⟨s.toList, s.octets.length_toList, hs⟩
  · rintro ⟨bytes, hlength, hbytes⟩
    refine ⟨⟨bytes, hlength⟩, ?_⟩
    rw [ofHex_of_decode_eq_ok h (Hex.decode_utf8_eq_ok_iff.2 hbytes), ofBytes_eq_ok_iff]
    rfl

theorem ofHex_of_faulty (h : Digits text.toList digits) {fault : SignatureFault}
    (hfault : Faulty digits fault) : ofHex text = .error fault := by
  cases hfault with
  | odd hodd => exact ofHex_of_decode_eq_error h (Hex.decode_eq_error_iff.2 (.inl ⟨hodd, rfl⟩))
  | digit heven hbad =>
    exact ofHex_of_decode_eq_error h
      (Hex.decode_eq_error_iff.2 (.inr ⟨heven, _, _, hbad, rfl⟩))
  | size hlength hcount hdigits =>
    -- The digits decode, and only then is the number of bytes looked at.
    rcases Hex.exists_encode_iff.2 ⟨hlength, hdigits⟩ with ⟨bytes, rfl, hbytes⟩
    rw [ofHex_of_decode_eq_ok h (Hex.decode_utf8_eq_ok_iff.2 hbytes), ofBytes_of_length_ne hcount]

/-- Digits are those of a signature or have a fault. -/
theorem wellFormed_or_faulty (digits : List Char) :
    WellFormed digits ∨ ∃ fault, Faulty digits fault := by
  cases hdecode : Hex.decode (utf8 digits) with
  | error fault =>
    rcases Hex.decode_eq_error_iff.1 hdecode with ⟨hodd, -⟩ | ⟨heven, byte, position, hbad, -⟩
    · exact .inr ⟨_, .odd hodd⟩
    · exact .inr ⟨_, .digit heven hbad⟩
  | ok bytes =>
    -- Digits that can be read are an even number of good ones, so only the number may be wrong.
    rcases Hex.exists_encode_iff.1 ⟨bytes, rfl, Hex.decode_utf8_eq_ok_iff.1 hdecode⟩ with
      ⟨hlength, hdigits⟩
    by_cases hcount : bytes.length = 65
    · rw [hcount] at hlength
      exact .inl ⟨hlength, hdigits⟩
    · exact .inr ⟨_, .size hlength hcount hdigits⟩

/-- So a text that is not read is told its fault, and this has one only. -/
theorem ofHex_eq_error_iff (h : Digits text.toList digits) {fault : SignatureFault} :
    ofHex text = .error fault ↔ Faulty digits fault := by
  refine ⟨fun hfault => ?_, ofHex_of_faulty h⟩
  rcases wellFormed_or_faulty digits with hwell | ⟨other, hother⟩
  · rcases (exists_ofHex_iff h).2 hwell with ⟨s, hs⟩
    rw [hs] at hfault
    exact absurd hfault (by simp only [reduceCtorEq, not_false_eq_true])
  · rw [ofHex_of_faulty h hother, Except.error.injEq] at hfault
    rwa [← hfault]

end Texts

/-! ## Written forms -/

theorem ofHex_hex (s : Signature) : ofHex s.hex = .ok s := by
  have hdigits : Digits s.hex.toList (Hex.encode s.toList) := by
    rw [toList_hex]
    exact .marked _
  rw [ofHex_eq_ok_iff hdigits, toList_hex, Hex.map_toLower_encode]

theorem ofJsonText?_render (s : Signature) : ofJsonText? s.toJson.render = some s := by
  have hlegible : Json.Legible .free s.toJson := trivial
  have htext : s.toJson.text? = some s.hex := rfl
  rw [ofJsonText?, Json.ofText?_render hlegible, Option.bind_some, ofJson?, htext]
  simp only [ofHex_hex, Except.toOption]

/-- What is made of all texts. -/
structure Exact : Prop where
  /-- A text is read if its digits are those of a signature, and only then. -/
  accepted : ∀ (text : String) (digits : List Char), Digits text.toList digits →
    ((∃ s, ofHex text = .ok s) ↔ WellFormed digits)
  /-- It is then the text of the signature, but for the marker and the case of letters. -/
  read : ∀ (text : String) (digits : List Char) (s : Signature), Digits text.toList digits →
    (ofHex text = .ok s ↔ s.hex.toList = '0' :: 'x' :: digits.map Char.toLower)
  /-- Another text is told what its digits are to be told. -/
  refused : ∀ (text : String) (digits : List Char) (fault : SignatureFault),
    Digits text.toList digits → (ofHex text = .error fault ↔ Faulty digits fault)
  /-- Every signature is read from its text. -/
  hex : ∀ s : Signature, ofHex s.hex = .ok s
  /-- And from its text in JSON. -/
  json : ∀ s : Signature, ofJsonText? s.toJson.render = some s

/-- Signatures are read from their texts and from no others. -/
theorem texts_exact : Exact where
  accepted _ _ h := exists_ofHex_iff h
  read _ _ _ h := ofHex_eq_ok_iff h
  refused _ _ _ h := ofHex_eq_error_iff h
  hex := ofHex_hex
  json := ofJsonText?_render

/-- A marker in upper case is none. -/
example : ofHex "0X00" = .error (.badText (.badDigit 88 1)) := by decide +kernel

end Signature

end QuorumBridge
