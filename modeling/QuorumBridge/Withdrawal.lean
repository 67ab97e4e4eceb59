import QuorumBridge.Bundles
import QuorumBridge.Instruction.Json
import QuorumBridge.Settlement

/-!
# Executing a withdrawal

A relayer brings a message and signatures to the home ledger. Nothing is taken
from the bundle but these: the signers are computed again, each must be an
authority, none may sign twice, and there must be enough of them.

Who executes a withdrawal pays for the gas and is paid back from the value
that is withdrawn, at the price that the instruction names and for the amount
of gas that the gate estimates. A value that does not cover this is not
withdrawn. An estimate of zero makes the relayer work for nothing.

The product of price and estimate may pass the limit of amounts. It is then
taken to be the largest amount.

## Main definitions

* `verify`: The instruction and the signers of a signed message.
* `Gate`: The estimate of the gas that a withdrawal costs.
* `Gate.fee`: What the relayer is owed.
* `Gate.plan`: The withdrawal that a verified message asks for.
* `Gate.release`, `Gate.execute`: Executing it.
-/

namespace QuorumBridge

/-- A message whose signatures were verified. -/
structure VerifiedMessage where
  instruction : Instruction
  messageHash : Hash
  /-- Who signed, in the order of the signatures. -/
  signers : List Address
deriving DecidableEq

/-- A verified message in JSON. -/
def VerifiedMessage.toJson (verified : VerifiedMessage) : Json :=
  .record [("instruction", verified.instruction.toJson),
    ("message_hash", verified.messageHash.toJson),
    ("signers", .array (verified.signers.map Octets.toJson))]

/-- A withdrawal that was executed. -/
structure Withdrawal where
  instruction : Instruction
  messageHash : Hash
  signers : List Address
  /-- The account that executed it. -/
  relayer : Address
  /-- What the recipient was paid. -/
  recipientValue : Amount
  /-- What the relayer was paid. -/
  relayFee : Amount
deriving DecidableEq

namespace Withdrawal

/-- What is paid for a withdrawal. A fee of zero is not paid at all. -/
def payouts (withdrawal : Withdrawal) : List Payout :=
  ⟨withdrawal.instruction.recipient, withdrawal.recipientValue⟩ ::
    if withdrawal.relayFee = 0 then [] else [⟨withdrawal.relayer, withdrawal.relayFee⟩]

/-- A withdrawal in JSON. -/
def toJson (withdrawal : Withdrawal) : Json :=
  .record [("instruction", withdrawal.instruction.toJson),
    ("message_hash", withdrawal.messageHash.toJson),
    ("signers", .array (withdrawal.signers.map Octets.toJson)),
    ("relayer", withdrawal.relayer.toJson),
    ("recipient_value", Amount.toJson withdrawal.recipientValue),
    ("relay_fee", Amount.toJson withdrawal.relayFee)]

end Withdrawal

/-- The signers of a message from the left to the right, none of whom is among
    those seen or signs twice. -/
def verifySigners (registry : Registry) (message : List UInt8) :
    SignerSet → List Signature → Except Refusal (List Address)
  | _, [] => .ok []
  | seen, signature :: rest =>
    match registry.signer signature message with
    | .error refusal => .error refusal
    | .ok (index, signer) =>
      -- The set answers whether the position is new.
      match seen.insert index with
      | (false, _) => .error (.duplicateSignature signer)
      | (true, seen) =>
        match verifySigners registry message seen rest with
        | .error refusal => .error refusal
        | .ok signers => .ok (signer :: signers)

/-- The instruction and the signers of a signed message, if enough authorities
    have signed it. -/
def verify (registry : Registry) (signatures : List Signature) (message : List UInt8) :
    Except Refusal VerifiedMessage :=
  match Instruction.decode message with
  | .error refusal => .error refusal
  | .ok instruction =>
    match verifySigners registry message registry.signers signatures with
    | .error refusal => .error refusal
    | .ok signers =>
      if signers.length < registry.threshold then
        .error (.insufficientSignatures signers.length registry.threshold)
      else .ok { instruction, messageHash := messageHash message, signers }

/-- Where withdrawals are executed, with an estimate of the gas that one
    costs. -/
structure Gate where
  gas : UInt64
deriving DecidableEq

namespace Gate

/-- The gate that pays relayers nothing. -/
def free : Gate :=
  ⟨0⟩

/-- What the relayer of an instruction is owed, if its value covers that. -/
def fee (gate : Gate) (x : Instruction) : Except Refusal Amount :=
  -- A product beyond the limit counts as the largest amount, which a value of that amount covers.
  let fee := (Amount.mul? x.gasPrice (BitVec.ofNat 256 gate.gas.toNat)).getD Amount.max
  if x.value < fee then .error (.insufficientValueForRelayFee x.value fee) else .ok fee

/-- The withdrawal that a verified message asks for. -/
def plan (gate : Gate) (verified : VerifiedMessage) (relayer : Address) :
    Except Refusal Withdrawal :=
  match gate.fee verified.instruction with
  | .error refusal => .error refusal
  | .ok fee =>
    .ok {
      instruction := verified.instruction
      messageHash := verified.messageHash
      signers := verified.signers
      relayer
      -- Does not wrap, since the value covers the fee.
      recipientValue := verified.instruction.value - fee
      relayFee := fee }

/-- Executes a verified message. -/
def release {σ : Type} [Treasury σ] (gate : Gate) (treasury : σ) (verified : VerifiedMessage)
    (relayer : Address) : Except Refusal Withdrawal × σ :=
  settle treasury (.foreignWithdraw verified.instruction.transaction)
    (.alreadyExecuted verified.instruction.transaction) (gate.plan verified relayer)
    Withdrawal.payouts

/-- Verifies and executes a signed message. -/
def execute {σ : Type} [Treasury σ] (gate : Gate) (treasury : σ) (registry : Registry)
    (signatures : List Signature) (message : List UInt8) (relayer : Address) :
    Except Refusal Withdrawal × σ :=
  match verify registry signatures message with
  | .error refusal => (.error refusal, treasury)
  | .ok verified => gate.release treasury verified relayer

end Gate

end QuorumBridge
