import QuorumBridge.Locking
import QuorumBridge.Report
import QuorumBridge.Sink
import QuorumBridge.Withdrawal

/-!
# The home side

Value leaves here by a deposit: it is locked, and the authorities are told by
an event. Value arrives here by a withdrawal: a relayer brings a message with
enough signatures, and it is paid.

The guard of paid transfers is not a part of this side. It is handed in and
back, because the foreign side may use the same one.

## Main definitions

* `Home`: The state of the home side.
* `Home.deposit`: Locking value.
* `Home.withdraw`, `Home.relay`: Executing a withdrawal.
* `Home.isDepositRequested`: Whether a transaction has locked value.
-/

namespace QuorumBridge

/-- The home side of a bridge. -/
structure Home where
  registry : Registry
  gate : Gate
  /-- The home transactions that have locked value. -/
  requests : ReplayGuard
  ledger : Ledger
  sink : Sink

namespace Home

/-- A new home side, which pays relayers nothing. -/
def new (registry : Registry) (ledger : Ledger) (sink : Sink) : Home where
  registry := registry
  gate := .free
  requests := .empty
  ledger := ledger
  sink := sink

/-- The side with this estimate of the gas that a withdrawal costs. -/
def withGas (home : Home) (gas : UInt64) : Home :=
  { home with gate := ⟨gas⟩ }

/-- Locks value of a depositor for the foreign side. -/
def deposit (home : Home) (depositor : Address) (value : Amount) (transaction : Hash) :
    Report Home Unit :=
  match Books.lock ⟨home.requests, home.ledger⟩ (.homeDeposit transaction) depositor value with
  | (.error refusal, books) =>
    .turnedDown .homeDeposit refusal
      { home with requests := books.replays, ledger := books.ledger }
      [.depositRejected depositor refusal]
  | (.ok (), books) =>
    let published := home.sink.publish (.depositRequested depositor value transaction)
    { result := .ok ()
      state := { home with
        requests := books.replays, ledger := books.ledger, sink := published.1 }
      -- The log has the request before what was lost of its event.
      entries := [.valueLocked depositor value,
        .depositRequested depositor value transaction] ++ published.2
      counts := [] }

/-- Whether a home transaction has locked value here. -/
def isDepositRequested (home : Home) (transaction : Hash) : Bool :=
  home.requests.isSpent (.homeDeposit transaction)

/-- The log entry for a withdrawal that was executed. -/
def executedEntry (withdrawal : Withdrawal) (relayer : Address) : Entry :=
  .withdrawExecuted withdrawal.instruction.recipient withdrawal.recipientValue
    withdrawal.relayFee relayer withdrawal.instruction.transaction

/-- The event for a withdrawal that was executed. -/
def executedEvent (withdrawal : Withdrawal) : Event :=
  .withdraw withdrawal.instruction.recipient withdrawal.recipientValue
    withdrawal.instruction.transaction

/-- The report of a withdrawal that is refused. It is counted twice, once among
    withdrawals and once among refusals. -/
def withdrawalTurnedDown (state : Home × ReplayGuard) (relayer : Address) (refusal : Refusal)
    (entries : List Entry) : Report (Home × ReplayGuard) Withdrawal where
  result := .error refusal
  state := state
  entries := entries ++ [.withdrawRejected relayer refusal]
  counts := [.withdrawalRejected, .refused .homeWithdraw refusal]

/-- Executes the withdrawal that a signed message asks for. -/
def withdraw (home : Home) (replays : ReplayGuard) (signatures : List Signature)
    (message : List UInt8) (relayer : Address) : Report (Home × ReplayGuard) Withdrawal :=
  match verify home.registry signatures message with
  | .error refusal => withdrawalTurnedDown (home, replays) relayer refusal []
  | .ok verified =>
    -- Written as soon as the signatures are verified, so also if the payment is refused.
    let seen := Entry.signaturesVerified verified.messageHash verified.signers.length
    match home.gate.release (Books.mk replays home.ledger) verified relayer with
    | (.error refusal, books) =>
      withdrawalTurnedDown ({ home with ledger := books.ledger }, books.replays) relayer refusal
        [seen]
    | (.ok withdrawal, books) =>
      let published := home.sink.publish (executedEvent withdrawal)
      { result := .ok withdrawal
        state := ({ home with ledger := books.ledger, sink := published.1 }, books.replays)
        entries := seen :: Entry.ofPayouts withdrawal.payouts ++
          executedEntry withdrawal relayer :: published.2
        counts := [.withdrawalExecuted] }

/-- Executes the withdrawal of a bundle. Only its message and its signatures
    are looked at. -/
def relay (home : Home) (replays : ReplayGuard) (bundle : Bundle) (relayer : Address) :
    Report (Home × ReplayGuard) Withdrawal :=
  home.withdraw replays bundle.signatures bundle.message relayer

end Home

end QuorumBridge
