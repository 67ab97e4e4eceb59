import QuorumBridge.Address
import QuorumBridge.Amount
import QuorumBridge.Text.CharLiteral

/-!
# Why a call is refused

Every call that is turned down says why, by a value and not by a text. The
texts are made from the values in one place, so that a reason can be compared
and reasoned about without its wording.

Refusals fall into seven kinds. A relayer that retries on purpose sees
duplication and replay; authorization and integrity are never seen by an
honest one.

## Main definitions

* `LedgerFault`: Why a ledger will not move value.
* `SignatureFault`: Why bytes are no signature, or lead to no signer.
* `Refusal`: Why a bridge turns a call down.
* `Refusal.kind`: The kind of a refusal.
* `Refusal.message`: What is said about it.
-/

namespace QuorumBridge

/-- Why a ledger will not move value. -/
inductive LedgerFault
  /-- The account holds less than it is to give up. -/
  | insufficientBalance (account : Address) (available requested : Amount)
  /-- The bridge holds less than it is to pay. -/
  | insufficientReserves (available requested : Amount)
  /-- A sum for this account would pass the limit of amounts. -/
  | overflow (account : Address)
deriving DecidableEq

/-- What is said about a ledger fault. -/
def LedgerFault.message : LedgerFault → String
  | .insufficientBalance account available requested =>
    s!"Insufficient balance for {account.checksummed}: available {available.decimal}, " ++
      s!"requested {requested.decimal}"
  | .insufficientReserves available requested =>
    s!"Insufficient bridge reserves: available {available.decimal}, requested {requested.decimal}"
  | .overflow account => s!"Balance overflow for {account.checksummed}"

/-- Why bytes are no signature, or lead to no signer. -/
inductive SignatureFault
  /-- The text is no byte string. -/
  | badText (fault : Hex.Fault)
  /-- There are this many bytes, and not 65. -/
  | badSize (got : Nat)
  /-- The last byte tells no parity. -/
  | badParity (byte : Nat)
  /-- The scalars are no signature by any key. -/
  | unrecoverable
  /-- A reason given by a signing device, in its own words. -/
  | reported (reason : String)
deriving DecidableEq

/-- What is said about a signature fault. -/
def SignatureFault.message : SignatureFault → String
  | .badText .oddLength => "Odd number of digits"
  | .badText (.badDigit byte position) =>
    s!"Invalid character {CharLiteral.ofByte byte} at position {position}"
  | .badSize got => s!"expected 65 bytes, got {got}"
  | .badParity byte => s!"invalid parity: {byte}"
  | .unrecoverable => "signature error"
  | .reported reason => reason

/-- Why a bridge turns a call down. -/
inductive Refusal
  | invalidThreshold (required authorities : Nat)
  | duplicateAuthority (authority : Address)
  | notAnAuthority (sender : Address)
  | signerNotAuthority (signer : Address)
  | signerMismatch (claimed recovered : Address)
  | invalidSignature (fault : SignatureFault)
  | duplicateConfirmation (authority : Address)
  | duplicateSignature (signer : Address)
  | messageTooShort (got expected : Nat)
  | messageTooLong (got expected : Nat)
  | messageMismatch (message : Hash)
  | alreadyReleased (transaction : Hash)
  | alreadyExecuted (transaction : Hash)
  | alreadyCollected (message : Hash)
  | duplicateTransaction (transaction : Hash)
  | insufficientSignatures (got required : Nat)
  | signatureNotFound (message : Hash) (index : Nat)
  | zeroValue
  | insufficientValueForRelayFee (value fee : Amount)
  | ledger (fault : LedgerFault)
deriving DecidableEq

namespace Refusal

/-- The kinds that refusals fall into. -/
inductive Kind
  | configuration
  | authorization
  | duplication
  | integrity
  | replay
  | insufficiency
  | value
deriving DecidableEq

/-- The name of a kind in logs and counters. -/
def Kind.label : Kind → String
  | .configuration => "configuration"
  | .authorization => "authorization"
  | .duplication => "duplication"
  | .integrity => "integrity"
  | .replay => "replay"
  | .insufficiency => "insufficiency"
  | .value => "value"

/-- The kind of a refusal. -/
def kind : Refusal → Kind
  | .invalidThreshold _ _ | .duplicateAuthority _ => .configuration
  | .notAnAuthority _ | .signerNotAuthority _ | .signerMismatch _ _ | .invalidSignature _ =>
    .authorization
  | .duplicateConfirmation _ | .duplicateSignature _ => .duplication
  | .messageTooShort _ _ | .messageTooLong _ _ | .messageMismatch _ => .integrity
  | .alreadyReleased _ | .alreadyExecuted _ | .alreadyCollected _ | .duplicateTransaction _ =>
    .replay
  | .insufficientSignatures _ _ | .signatureNotFound _ _ => .insufficiency
  | .zeroValue | .insufficientValueForRelayFee _ _ | .ledger _ => .value

/-- What is said about a refusal. -/
def message : Refusal → String
  | .invalidThreshold required authorities =>
    s!"Invalid threshold: {required} required signatures for {authorities} authorities"
  | .duplicateAuthority authority =>
    s!"Duplicate authority in authority set: {authority.checksummed}"
  | .notAnAuthority sender => s!"Unauthorized: {sender.checksummed} is not an authority"
  | .signerNotAuthority signer => s!"Recovered signer {signer.checksummed} is not an authority"
  | .signerMismatch claimed recovered =>
    s!"Signature was produced by {recovered.checksummed}, " ++
      s!"not by claimed authority {claimed.checksummed}"
  | .invalidSignature fault => s!"Invalid signature: {fault.message}"
  | .duplicateConfirmation authority =>
    s!"Authority {authority.checksummed} already confirmed this deposit"
  | .duplicateSignature signer =>
    s!"Authority {signer.checksummed} already signed this message"
  | .messageTooShort got expected =>
    s!"Message too short: expected {expected} bytes, got {got}"
  | .messageTooLong got expected =>
    s!"Message too long: expected {expected} bytes, got {got}"
  | .messageMismatch message =>
    s!"Stored message for {message.hex} differs from submitted message"
  | .alreadyReleased transaction => s!"Deposit {transaction.hex} already released"
  | .alreadyExecuted transaction => s!"Withdrawal {transaction.hex} already executed"
  | .alreadyCollected message => s!"Signatures for {message.hex} already collected"
  | .duplicateTransaction transaction =>
    s!"Transaction {transaction.hex} already requested a transfer"
  | .insufficientSignatures got required =>
    s!"Insufficient signatures: got {got}, need {required}"
  | .signatureNotFound message index => s!"No signature at index {index} for {message.hex}"
  | .zeroValue => "Transfer value must be greater than zero"
  | .insufficientValueForRelayFee value fee =>
    s!"Value {value.decimal} does not cover relay fee {fee.decimal}"
  | .ledger fault => s!"Ledger error: {fault.message}"

end Refusal

end QuorumBridge
