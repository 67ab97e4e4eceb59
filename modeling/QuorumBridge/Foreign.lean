import QuorumBridge.Confirmations
import QuorumBridge.Locking
import QuorumBridge.Report
import QuorumBridge.Sink
import QuorumBridge.Withdrawal

/-!
# The foreign side

Value arrives here by a deposit: authorities confirm what was locked at home,
and the confirmation that reaches the threshold pays it. Value leaves here by a
transfer home: it is locked, and the authorities then sign its message until
there is a bundle to relay.

Confirmations and signatures are told by an event before they are written to
the log. A transfer home is written to the log first. The two orders show only
when the event is lost, which is itself written to the log.

## Main definitions

* `Foreign`: The state of the foreign side.
* `Foreign.confirm`: Confirming a deposit.
* `Foreign.transferHome`: Locking value.
* `Foreign.submit`: Submitting a signature.
* `Foreign.isWithdrawRequested`: Whether a transaction has locked value.
-/

namespace QuorumBridge

/-- The foreign side of a bridge. -/
structure Foreign where
  registry : Registry
  confirmations : Confirmations
  bundles : Bundles
  /-- The foreign transactions that have locked value. -/
  requests : ReplayGuard
  ledger : Ledger
  sink : Sink

namespace Foreign

/-- A new foreign side. -/
def new (registry : Registry) (ledger : Ledger) (sink : Sink) : Foreign where
  registry := registry
  confirmations := .empty
  bundles := .empty
  requests := .empty
  ledger := ledger
  sink := sink

/-! ## From home -/

/-- What the outside is told about a confirmation. -/
def confirmedEvent (deposit : Deposit) : ConfirmOutcome → Event
  | .pending _ _ => .depositConfirmation deposit.recipient deposit.value deposit.transaction
  | .released _ => .deposit deposit.recipient deposit.value deposit.transaction

/-- What the ledger writes to the log while a deposit is confirmed. -/
def paidEntries (deposit : Deposit) : ConfirmOutcome → List Entry
  | .pending _ _ => []
  | .released _ => Entry.ofPayouts deposit.payouts

/-- The log entry for a confirmation. -/
def confirmedEntry (deposit : Deposit) (authority : Address) : ConfirmOutcome → Entry
  | .pending confirmations required =>
    .confirmationRecorded authority deposit.transaction confirmations required
  | .released confirmations =>
    .depositReleased deposit.recipient deposit.value deposit.transaction confirmations

/-- How a confirmation is counted. -/
def confirmedCount : ConfirmOutcome → Count
  | .pending _ _ => .confirmationPending
  | .released _ => .confirmationReleased

/-- Confirms a deposit as an authority. -/
def confirm (foreign : Foreign) (replays : ReplayGuard) (authority : Address)
    (deposit : Deposit) : Report (Foreign × ReplayGuard) ConfirmOutcome :=
  match foreign.confirmations.confirm (Books.mk replays foreign.ledger) foreign.registry deposit
      authority with
  | (.error refusal, confirmations, books) =>
    .turnedDown .foreignDeposit refusal
      ({ foreign with confirmations, ledger := books.ledger }, books.replays)
      [.confirmationRejected authority deposit.transaction refusal]
  | (.ok outcome, confirmations, books) =>
    -- The event goes out before the entry that says what it was about.
    let published := foreign.sink.publish (confirmedEvent deposit outcome)
    { result := .ok outcome
      state := ({ foreign with confirmations, ledger := books.ledger, sink := published.1 },
        books.replays)
      entries := paidEntries deposit outcome ++ published.2 ++
        [confirmedEntry deposit authority outcome]
      counts := [confirmedCount outcome] }

/-! ## To home -/

/-- Locks value of a sender for a recipient on the home side. -/
def transferHome (foreign : Foreign) (sender recipient : Address) (value homeGasPrice : Amount)
    (transaction : Hash) : Report Foreign Unit :=
  -- The requests of this side stand in for the guard: a transaction asks once.
  match Books.lock ⟨foreign.requests, foreign.ledger⟩ (.foreignWithdraw transaction) sender
      value with
  | (.error refusal, books) =>
    .turnedDown .foreignTransferHome refusal
      { foreign with requests := books.replays, ledger := books.ledger }
      [.withdrawRequestRejected sender refusal]
  | (.ok (), books) =>
    let published :=
      foreign.sink.publish (.withdrawRequested recipient value homeGasPrice transaction)
    { result := .ok ()
      state := { foreign with
        requests := books.replays, ledger := books.ledger, sink := published.1 }
      entries := [.valueLocked sender value,
        .withdrawRequested sender recipient value transaction] ++ published.2
      counts := [] }

/-- Whether a foreign transaction has locked value here. -/
def isWithdrawRequested (foreign : Foreign) (transaction : Hash) : Bool :=
  foreign.requests.isSpent (.foreignWithdraw transaction)

/-- What the outside is told about a signature. -/
def submittedEvent (relayer : Address) : SubmitOutcome → Event
  | .pending message _ _ => .withdrawSignatureSubmitted message
  | .collected bundle => .collectedSignatures bundle.messageHash relayer

/-- The log entry for a signature. -/
def submittedEntry (claimed relayer : Address) : SubmitOutcome → Entry
  | .pending message signatures required =>
    .signatureRecorded claimed message signatures required
  | .collected bundle =>
    .signaturesCollected bundle.messageHash bundle.signatures.length relayer

/-- How a signature is counted. -/
def submittedCount : SubmitOutcome → Count
  | .pending _ _ _ => .signaturePending
  | .collected _ => .signatureCollected

/-- Submits a signature over a message as that of `claimed`. -/
def submit (foreign : Foreign) (signature : Signature) (message : List UInt8)
    (claimed relayer : Address) : Report Foreign SubmitOutcome :=
  match foreign.bundles.submit foreign.registry signature message claimed relayer with
  | (.error refusal, bundles) =>
    .turnedDown .foreignSubmitSignature refusal { foreign with bundles }
      [.signatureRejected claimed refusal]
  | (.ok outcome, bundles) =>
    let published := foreign.sink.publish (submittedEvent relayer outcome)
    { result := .ok outcome
      state := { foreign with bundles, sink := published.1 }
      -- As with confirmations, what was lost of the event is written first.
      entries := published.2 ++ [submittedEntry claimed relayer outcome]
      counts := [submittedCount outcome] }

end Foreign

end QuorumBridge
