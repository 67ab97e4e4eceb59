import QuorumBridge.Bytes.Json
import QuorumBridge.Instruction
import QuorumBridge.Json.Reader

/-!
# Instructions in JSON

An instruction is written as an object of its four fields in their order. It
is read from an object that gives each field once, in any order and among any
other members, or from an array of the four values.

## Main definitions

* `Instruction.toJson`: The written form.
* `Instruction.ofJson?`: Reading it.
* `Instruction.ofJsonText?`: Reading it from a text.
-/

namespace QuorumBridge

namespace Instruction

/-- The names of the fields, in their order. -/
def fieldNames : List String :=
  ["recipient", "value", "transaction_hash", "gas_price"]

/-- What a reader expects where an instruction is to stand. -/
def shape : Json.Shape :=
  .record (fieldNames.zip [Octets.shape 20, .free, Octets.shape 32, .free])

/-- An instruction in JSON. -/
def toJson (x : Instruction) : Json :=
  .record [("recipient", x.recipient.toJson), ("value", Amount.toJson x.value),
    ("transaction_hash", x.transaction.toJson), ("gas_price", Amount.toJson x.gasPrice)]

/-- The instruction that a JSON value stands for. All four fields must be there. -/
def ofJson? (json : Json) : Option Instruction :=
  match json.fields? fieldNames with
  -- The fields are read in their own order, in whatever order they were given.
  | some [some recipient, some value, some transaction, some gasPrice] => do
    let recipient ← Octets.ofJson? 20 recipient
    let value ← Amount.ofJson? value
    let transaction ← Octets.ofJson? 32 transaction
    let gasPrice ← Amount.ofJson? gasPrice
    return { recipient, value, transaction, gasPrice }
  | _ => none

/-- The instruction that a JSON text stands for. -/
def ofJsonText? (text : String) : Option Instruction :=
  (Json.ofText? shape text).bind ofJson?

end Instruction

end QuorumBridge
