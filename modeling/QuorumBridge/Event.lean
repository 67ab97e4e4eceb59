import QuorumBridge.Amount
import QuorumBridge.Address
import QuorumBridge.Bytes.Json

/-!
# Events

Every call that changes something tells the outside by one event. An event is
written as a JSON object whose first member is its tag; its fields follow.

The tag is what readers of the written form go by, and the name is what entries
and counters show. Each has its own table.

## Main definitions

* `Event`: The events.
* `Event.name`: The name of an event.
* `Event.tag`: The text that tells a written event from those of other kinds.
* `Event.toJson`, `Event.json`: Its written form.
-/

namespace QuorumBridge

/-- What the outside is told. -/
inductive Event
  /-- Value was locked on the home ledger. -/
  | depositRequested (recipient : Address) (value : Amount) (transaction : Hash)
  /-- A withdrawal was executed on the home ledger. -/
  | withdraw (recipient : Address) (value : Amount) (transaction : Hash)
  /-- An authority has confirmed a deposit that needs more confirmations. -/
  | depositConfirmation (recipient : Address) (value : Amount) (transaction : Hash)
  /-- A deposit was paid on the foreign ledger. -/
  | deposit (recipient : Address) (value : Amount) (transaction : Hash)
  /-- Value was locked on the foreign ledger. -/
  | withdrawRequested (recipient : Address) (value homeGasPrice : Amount) (transaction : Hash)
  /-- An authority has signed a message that needs more signatures. -/
  | withdrawSignatureSubmitted (message : Hash)
  /-- A message has all its signatures, and this authority is to relay it. -/
  | collectedSignatures (message : Hash) (relayer : Address)
deriving DecidableEq

namespace Event

/-- The name of an event, which is also the name of its kind. -/
def name : Event → String
  | .depositRequested _ _ _ => "DepositRequested"
  | .withdraw _ _ _ => "Withdraw"
  | .depositConfirmation _ _ _ => "DepositConfirmation"
  | .deposit _ _ _ => "Deposit"
  | .withdrawRequested _ _ _ _ => "WithdrawRequested"
  | .withdrawSignatureSubmitted _ => "WithdrawSignatureSubmitted"
  | .collectedSignatures _ _ => "CollectedSignatures"

/-- The text that tells a written event from those of other kinds. -/
def tag : Event → String
  | .depositRequested _ _ _ => "DepositRequested"
  | .withdraw _ _ _ => "Withdraw"
  | .depositConfirmation _ _ _ => "DepositConfirmation"
  | .deposit _ _ _ => "Deposit"
  | .withdrawRequested _ _ _ _ => "WithdrawRequested"
  | .withdrawSignatureSubmitted _ => "WithdrawSignatureSubmitted"
  | .collectedSignatures _ _ => "CollectedSignatures"

/-- The fields that four of the events share. -/
def transferFields (recipient : Address) (value : Amount) (transaction : Hash) :
    List (String × Json) :=
  [("recipient", recipient.toJson), ("value", Amount.toJson value),
    ("transaction_hash", transaction.toJson)]

/-- The fields of an event. -/
def fields : Event → List (String × Json)
  | .depositRequested recipient value transaction => transferFields recipient value transaction
  | .withdraw recipient value transaction => transferFields recipient value transaction
  | .depositConfirmation recipient value transaction =>
    transferFields recipient value transaction
  | .deposit recipient value transaction => transferFields recipient value transaction
  | .withdrawRequested recipient value homeGasPrice transaction =>
    [("recipient", recipient.toJson), ("value", Amount.toJson value),
      ("home_gas_price", Amount.toJson homeGasPrice), ("transaction_hash", transaction.toJson)]
  | .withdrawSignatureSubmitted message => [("message_hash", message.toJson)]
  | .collectedSignatures message relayer =>
    [("message_hash", message.toJson), ("authority_responsible_for_relay", relayer.toJson)]

/-- An event in JSON: its tag, then its fields. -/
def toJson (event : Event) : Json :=
  .record (("event", .text event.tag) :: event.fields)

/-- The text of an event in JSON. -/
def json (event : Event) : String :=
  event.toJson.render

end Event

end QuorumBridge
