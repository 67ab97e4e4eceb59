import QuorumBridge.Json

/-!
# What a reader expects of a JSON value

Where a value stands in a record decides how its text is read: an array that
is to be a byte string has a known length, and what follows its last byte is
read by another rule than the rest of the text. A shape says so much of the
value that is expected, and no more. It decides nothing about the value that
is read: a text where an array is expected is still read as a text.

## Main definitions

* `Json.Shape`: The shapes.
* `Json.Shape.first`, `Json.Shape.rest`: What an array begins and goes on with.
* `Json.Shape.member`: What the member of an object has to be.
-/

namespace QuorumBridge

namespace Json

/-- What is known of a value before it is read. -/
inductive Shape
  /-- Nothing is known. -/
  | free
  /-- A byte string: if it is an array, then of this many bytes, at least one. -/
  | bytes (count : Nat)
  /-- A list: if it is an array, then all its elements are of one shape. -/
  | list (element : Shape)
  /-- A record: an object of these fields, or an array of their values in this order. -/
  | record (fields : List (String × Shape))

namespace Shape

/-- The shape of the first element of an array. -/
def first : Shape → Shape
  | list element => element
  | record ((_, field) :: _) => field
  | _ => free

/-- What an array still has to be behind its first element. -/
def rest : Shape → Shape
  | bytes (count + 1) => bytes count
  | record (_ :: fields) => record fields
  | shape => shape

/-- Whether an array has all the bytes that it is to have. -/
def isFull : Shape → Bool
  | bytes 0 => true
  | _ => false

/-- The shape of the member of an object that has this name. -/
def member : Shape → JsonString → Shape
  | record fields, .plain name => (fields.lookup name).getD free
  | _, _ => free

end Shape

end Json

end QuorumBridge
