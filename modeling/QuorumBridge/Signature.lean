import QuorumBridge.Bytes.Json
import QuorumBridge.Json.Reader
import QuorumBridge.Refusal

/-!
# Signatures

A signature is 65 bytes: two scalars of 32 bytes each and a byte that tells a
parity. It is kept as it was submitted. Several byte strings lead to the same
signer, so equal signers do not make equal signatures, and nothing in this
library counts signatures by their bytes.

As text a signature is hexadecimal, with or without a lower-case marker. A
text is first looked at as hexadecimal and only then by its size.

## Main definitions

* `Signature`: The 65 bytes.
* `Signature.ofBytes`, `Signature.ofHex`, `Signature.ofJsonText?`: Reading one.
* `Signature.ofScalars`: The signature of two scalars and a parity.
* `Signature.hex`, `Signature.toJson`: The written forms.
-/

namespace QuorumBridge

/-- The 65 bytes of a signature, as submitted. -/
structure Signature where
  octets : Octets 65
deriving DecidableEq

namespace Signature

/-- The bytes of a signature. -/
def toList (signature : Signature) : List UInt8 :=
  signature.octets.toList

/-- The signature with these bytes. -/
def ofBytes (bytes : List UInt8) : Except SignatureFault Signature :=
  match Octets.ofList? 65 bytes with
  | some octets => .ok ⟨octets⟩
  | none => .error (.badSize bytes.length)

/-- The characters behind a marker, if there is one. -/
def unmarked : List Char → List Char
  | '0' :: 'x' :: digits => digits
  | digits => digits

/-- The signature that a text of digits stands for, with a marker or without. -/
def ofHex (text : String) : Except SignatureFault Signature :=
  match Hex.decode (utf8 (unmarked text.toList)) with
  | .error fault => .error (.badText fault)
  | .ok bytes => ofBytes bytes

/-- The signature of two scalars and a parity. -/
def ofScalars (r s : Amount) (odd : Bool) : Signature :=
  -- A last byte of 27 or 28, as wallets write it.
  ⟨bigEndian 32 r.toNat ++ (bigEndian 32 s.toNat ++ [if odd then 28 else 27]), by
    simp only [List.length_append, length_bigEndian, List.length_cons, List.length_nil]⟩

/-- The written form of a signature. -/
def hex (signature : Signature) : String :=
  signature.octets.hex

/-- The written form of a signature where it must be told from other bytes. -/
def labelled (signature : Signature) : String :=
  s!"AuthoritySignature({signature.hex})"

/-- A signature in JSON: the text of its digits. -/
def toJson (signature : Signature) : Json :=
  signature.octets.toJson

/-- The signature that a JSON value stands for, which must be a text. -/
def ofJson? (json : Json) : Option Signature :=
  match json.text? with
  | none => none
  | some text => (ofHex text).toOption

/-- The signature that a JSON text stands for. -/
def ofJsonText? (text : String) : Option Signature :=
  (Json.ofText? .free text).bind ofJson?

end Signature

end QuorumBridge
