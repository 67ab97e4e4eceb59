import QuorumBridge.Settlement
import QuorumBridge.SignerSet

/-!
# Confirmations of deposits

Authorities watch the home ledger and confirm each deposit they see there.
Confirmations are counted for the whole deposit: recipient, value and
transaction. An authority that gets one of them wrong confirms another
deposit, and cannot bring the right one closer to its threshold.

A deposit is confirming until as many authorities as the threshold asks for
have confirmed it. The confirmation that reaches the threshold also pays the
deposit, and counts only if the payment goes through. From then on the deposit
is released for good.

## Main definitions

* `Deposit`: What is confirmed.
* `Tally`: How far the confirmation of a deposit has come.
* `Confirmations`: The tallies of all deposits.
* `Confirmations.confirm`: One confirmation.
* `Confirmations.hasConfirmed`, `Confirmations.count`, `Confirmations.isReleased`,
  `Confirmations.confirmers`: What is known about a deposit.
-/

namespace QuorumBridge

/-- A deposit on the home ledger, as an authority reports it. -/
structure Deposit where
  recipient : Address
  value : Amount
  transaction : Hash
deriving DecidableEq

namespace Deposit

/-- A deposit in JSON. -/
def toJson (deposit : Deposit) : Json :=
  .record [("recipient", deposit.recipient.toJson), ("value", Amount.toJson deposit.value),
    ("transaction_hash", deposit.transaction.toJson)]

/-- What is paid for a deposit: all of it, to its recipient. -/
def payouts (deposit : Deposit) : List Payout :=
  [⟨deposit.recipient, deposit.value⟩]

end Deposit

/-- How far the confirmation of a deposit has come. -/
inductive Tally
  /-- These have confirmed, and more are needed. -/
  | confirming (signers : SignerSet)
  /-- These have confirmed, and the deposit was paid. -/
  | released (signers : SignerSet)
deriving DecidableEq

/-- Who has confirmed. -/
def Tally.signers : Tally → SignerSet
  | .confirming signers => signers
  | .released signers => signers

/-- What an accepted confirmation has led to. -/
inductive ConfirmOutcome
  /-- The deposit still needs more confirmations. -/
  | pending (confirmations required : Nat)
  /-- This confirmation reached the threshold, and the deposit was paid. -/
  | released (confirmations : Nat)
deriving DecidableEq

/-- The tallies of all deposits that anyone has confirmed. -/
structure Confirmations where
  tallies : Table Deposit Tally

namespace Confirmations

/-- The book in which nobody has confirmed anything. -/
def empty : Confirmations :=
  ⟨Table.empty⟩

/-- The signers of a deposit with one more authority, given by its position, or
    why its confirmation does not count. -/
def vote (book : Confirmations) (registry : Registry) (deposit : Deposit) (authority : Address)
    (index : Nat) : Except Refusal SignerSet :=
  match book.tallies.get? deposit with
  | none => .ok (registry.signers.insert index).2
  | some tally =>
    -- Who has confirmed hears so even after the deposit was released.
    if tally.signers.contains index then .error (.duplicateConfirmation authority)
    else
      match tally with
      | .released _ => .error (.alreadyReleased deposit.transaction)
      | .confirming signers => .ok (signers.insert index).2

/-- Confirms a deposit as `authority`. Below the threshold the vote is kept; at
    the threshold the deposit is paid, and the vote is kept if it was. -/
def confirm {σ : Type} [Treasury σ] (book : Confirmations) (treasury : σ) (registry : Registry)
    (deposit : Deposit) (authority : Address) :
    Except Refusal ConfirmOutcome × Confirmations × σ :=
  match registry.position? authority with
  | none => (.error (.notAnAuthority authority), book, treasury)
  | some index =>
    match book.vote registry deposit authority index with
    | .error refusal => (.error refusal, book, treasury)
    | .ok signers =>
      -- Below the threshold nothing is looked at but the vote itself.
      if signers.size < registry.threshold then
        (.ok (.pending signers.size registry.threshold),
          ⟨book.tallies.put deposit (.confirming signers)⟩, treasury)
      else
        match settle treasury (.homeDeposit deposit.transaction)
            (.alreadyReleased deposit.transaction) (.ok deposit) Deposit.payouts with
        | (.error refusal, treasury) => (.error refusal, book, treasury)
        | (.ok _, treasury) =>
          (.ok (.released signers.size), ⟨book.tallies.put deposit (.released signers)⟩,
            treasury)

/-- Whether an account is an authority that has confirmed a deposit. -/
def hasConfirmed (book : Confirmations) (registry : Registry) (account : Address)
    (deposit : Deposit) : Bool :=
  match registry.position? account, book.tallies.get? deposit with
  | some index, some tally => tally.signers.contains index
  | _, _ => false

/-- How many accounts have confirmed a deposit. -/
def count (book : Confirmations) (deposit : Deposit) : Nat :=
  match book.tallies.get? deposit with
  | some tally => tally.signers.size
  | none => 0

/-- Whether a deposit was paid. -/
def isReleased (book : Confirmations) (deposit : Deposit) : Bool :=
  match book.tallies.get? deposit with
  | some (.released _) => true
  | _ => false

/-- The authorities that have confirmed a deposit, in the order they did. -/
def confirmers (book : Confirmations) (registry : Registry) (deposit : Deposit) : List Address :=
  match book.tallies.get? deposit with
  | some tally => tally.signers.addresses registry
  | none => []

end Confirmations

end QuorumBridge
