import QuorumBridge.Json.Shape
import QuorumBridge.Text.Hex

/-!
# Byte strings in JSON

A byte string is written as a text: a marker and two digits per byte. It is
read from such a text with the marker left out or in either case, or from an
array that names every byte as a count. Either way the length must be right,
and since the length is known, the shape of a byte string tells it to the
reader of the text.

## Main definitions

* `Octets.toJson`: The written form.
* `Octets.shape`: What a reader expects where a byte string is to stand.
* `Octets.ofHex?`: Reading a text.
* `Octets.ofJson?`: Reading a text or an array.
-/

namespace QuorumBridge

namespace Octets

variable {n : Nat}

/-- Bytes in JSON: the text of their digits. -/
def toJson (x : Octets n) : Json :=
  .text x.hex

/-- What a reader expects where a byte string is to stand. -/
def shape (n : Nat) : Json.Shape :=
  .bytes n

/-- The characters behind a marker of either case, if there is one. -/
def unmarked : List Char → List Char
  | '0' :: 'x' :: digits => digits
  | '0' :: 'X' :: digits => digits
  | digits => digits

/-- The bytes that a text of digits stands for, if there are `n` of them. -/
def ofHex? (n : Nat) (text : String) : Option (Octets n) :=
  match Hex.decode (utf8 (unmarked text.toList)) with
  | .error _ => none
  | .ok bytes => ofList? n bytes

/-- The byte that a JSON value counts. -/
def byte? (json : Json) : Option UInt8 :=
  match json.count? with
  | some value => if value < 256 then some (UInt8.ofNat value) else none
  | none => none

/-- The bytes that a JSON value stands for: a text of digits, or the numbers of
    the bytes one by one. -/
def ofJson? (n : Nat) (json : Json) : Option (Octets n) :=
  match json.text?, json.elements? with
  | some text, _ => ofHex? n text
  | none, some elements => (elements.mapM byte?).bind (ofList? n)
  | none, none => none

end Octets

end QuorumBridge
