import QuorumBridge.Ledger

/-!
# Log entries

What is written to the log, for a reader and for a machine: a level, a
sentence, and named values. Accounts are shown with their checksum and amounts
in decimal. Counts are numbers, everything else is text.

## Main definitions

* `Entry`: The entries.
* `Entry.level`, `Entry.sentence`, `Entry.fields`: How an entry is written.
* `Entry.ofPayouts`: The entries for value that was paid.
-/

namespace QuorumBridge

/-- What is written to the log. -/
inductive Entry
  | valueLocked (account : Address) (value : Amount)
  | valueReleased (account : Address) (value : Amount)
  | depositRequested (depositor : Address) (value : Amount) (transaction : Hash)
  | depositRejected (depositor : Address) (refusal : Refusal)
  | signaturesVerified (message : Hash) (signers : Nat)
  | withdrawExecuted (recipient : Address) (value relayFee : Amount) (relayer : Address)
      (transaction : Hash)
  | withdrawRejected (relayer : Address) (refusal : Refusal)
  | confirmationRecorded (authority : Address) (transaction : Hash)
      (confirmations required : Nat)
  | depositReleased (recipient : Address) (value : Amount) (transaction : Hash)
      (confirmations : Nat)
  | confirmationRejected (authority : Address) (transaction : Hash) (refusal : Refusal)
  | withdrawRequested (sender recipient : Address) (value : Amount) (transaction : Hash)
  | withdrawRequestRejected (sender : Address) (refusal : Refusal)
  | signatureRecorded (authority : Address) (message : Hash) (signatures required : Nat)
  | signaturesCollected (message : Hash) (signatures : Nat) (relayer : Address)
  | signatureRejected (authority : Address) (refusal : Refusal)
  | eventDiscarded (event : String)
deriving DecidableEq

namespace Entry

/-- How much attention an entry asks for. -/
inductive Level
  | debug
  | info
  | warn
deriving DecidableEq

/-- The name of a level. -/
def Level.label : Level → String
  | .debug => "DEBUG"
  | .info => "INFO"
  | .warn => "WARN"

/-- A named value of an entry. -/
inductive Field
  | text (value : String)
  | number (value : Nat)
deriving DecidableEq

/-- A step on the way is for debugging, what a user asked for is information,
    and what was turned down or lost is a warning. -/
def level : Entry → Level
  | .valueLocked _ _ | .valueReleased _ _ | .signaturesVerified _ _
  | .confirmationRecorded _ _ _ _ | .signatureRecorded _ _ _ _ => .debug
  | .depositRequested _ _ _ | .withdrawExecuted _ _ _ _ _ | .depositReleased _ _ _ _
  | .withdrawRequested _ _ _ _ | .signaturesCollected _ _ _ => .info
  | .depositRejected _ _ | .withdrawRejected _ _ | .confirmationRejected _ _ _
  | .withdrawRequestRejected _ _ | .signatureRejected _ _ | .eventDiscarded _ => .warn

/-- The sentence of an entry. -/
def sentence : Entry → String
  | .valueLocked _ _ => "Locked value into bridge reserves"
  | .valueReleased _ _ => "Released value from bridge reserves"
  | .depositRequested _ _ _ => "Deposit requested"
  | .depositRejected _ _ => "Deposit rejected"
  | .signaturesVerified _ _ => "Withdraw signatures verified"
  | .withdrawExecuted _ _ _ _ _ => "Withdraw executed"
  | .withdrawRejected _ _ => "Withdraw rejected"
  | .confirmationRecorded _ _ _ _ => "Deposit confirmation recorded"
  | .depositReleased _ _ _ _ => "Deposit released"
  | .confirmationRejected _ _ _ => "Deposit confirmation rejected"
  | .withdrawRequested _ _ _ _ => "Withdraw requested"
  | .withdrawRequestRejected _ _ => "Withdraw request rejected"
  | .signatureRecorded _ _ _ _ => "Withdraw signature recorded"
  | .signaturesCollected _ _ _ => "Withdraw signatures collected"
  | .signatureRejected _ _ => "Withdraw signature rejected"
  | .eventDiscarded _ => "Event receiver dropped, discarding event"

/-- An account as a value of an entry. -/
def account (a : Address) : Field := .text a.checksummed

/-- An amount as a value of an entry. -/
def amount (a : Amount) : Field := .text (Amount.decimal a)

/-- A transaction or a message as a value of an entry. -/
def hash (h : Hash) : Field := .text h.hex

/-- A refusal as a value of an entry. -/
def reason (r : Refusal) : Field := .text r.message

/-- The named values of an entry. -/
def fields : Entry → List (String × Field)
  | .valueLocked a v => [("account", account a), ("value", amount v)]
  | .valueReleased a v => [("account", account a), ("value", amount v)]
  | .depositRequested d v t =>
    [("depositor", account d), ("value", amount v), ("tx_hash", hash t)]
  | .depositRejected d r => [("depositor", account d), ("error", reason r)]
  | .signaturesVerified m n => [("message_hash", hash m), ("signers", .number n)]
  | .withdrawExecuted a v f r t =>
    [("recipient", account a), ("value", amount v), ("relay_fee", amount f),
      ("relayer", account r), ("tx_hash", hash t)]
  | .withdrawRejected a r => [("relayer", account a), ("error", reason r)]
  | .confirmationRecorded a t n k =>
    [("authority", account a), ("tx_hash", hash t), ("confirmations", .number n),
      ("required", .number k)]
  | .depositReleased a v t n =>
    [("recipient", account a), ("value", amount v), ("tx_hash", hash t),
      ("confirmations", .number n)]
  | .confirmationRejected a t r =>
    [("authority", account a), ("tx_hash", hash t), ("error", reason r)]
  | .withdrawRequested s a v t =>
    [("sender", account s), ("recipient", account a), ("value", amount v), ("tx_hash", hash t)]
  | .withdrawRequestRejected s r => [("sender", account s), ("error", reason r)]
  | .signatureRecorded a m n k =>
    [("authority", account a), ("message_hash", hash m), ("signatures", .number n),
      ("required", .number k)]
  | .signaturesCollected m n r =>
    [("message_hash", hash m), ("signatures", .number n), ("relayer", account r)]
  | .signatureRejected a r => [("authority", account a), ("error", reason r)]
  | .eventDiscarded e => [("event", .text e)]

/-- The entries for value that was paid, one for each payout. -/
def ofPayouts (payouts : List Payout) : List Entry :=
  payouts.map fun payout => .valueReleased payout.account payout.value

end Entry

end QuorumBridge
