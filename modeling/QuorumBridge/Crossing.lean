import QuorumBridge.Foreign
import QuorumBridge.Home
import QuorumBridge.Ledger.Call

/-!
# Both sides together

A bridge is two sides, the guards they look at and the counters they share.
The guards may be one and the same. Others may reserve identities in a guard
and use the ledgers, and what they do is a call like any other: a run of calls
is everything that can happen to a bridge.

Every call is answered by a value or a refusal. A ledger that turns down what
others ask of it answers in the same way.

## Main definitions

* `Guards`: The guards of the two sides.
* `Crossing`: The state of a bridge.
* `Crossing.Call`, `Crossing.Answer`: What may be asked, and what is answered.
* `Crossing.step`, `Crossing.run`: One call, and one after another.
-/

namespace QuorumBridge

/-- The guards of the two sides. -/
inductive Guards
  /-- Both sides look at this one. -/
  | shared (guard : ReplayGuard)
  /-- Each side has its own. -/
  | apart (home foreign : ReplayGuard)
deriving DecidableEq

namespace Guards

/-- The guard of the home side. -/
def home : Guards → ReplayGuard
  | .shared guard => guard
  | .apart home _ => home

/-- The guard of the foreign side. -/
def foreign : Guards → ReplayGuard
  | .shared guard => guard
  | .apart _ foreign => foreign

/-- The guards after that of the home side has become another one. If the sides
    share it, it has become another one for both. -/
def withHome (guards : Guards) (guard : ReplayGuard) : Guards :=
  match guards with
  | .shared _ => .shared guard
  | .apart _ foreign => .apart guard foreign

/-- The same for the foreign side. -/
def withForeign (guards : Guards) (guard : ReplayGuard) : Guards :=
  match guards with
  | .shared _ => .shared guard
  | .apart home _ => .apart home guard

end Guards

/-- The state of a bridge. -/
structure Crossing where
  home : Home
  foreign : Foreign
  guards : Guards
  metrics : Metrics

namespace Crossing

/-- The bridge of two sides, before anything was counted. -/
def new (home : Home) (foreign : Foreign) (guards : Guards) : Crossing where
  home := home
  foreign := foreign
  guards := guards
  metrics := .empty

/-- What may be asked of a bridge. -/
inductive Call
  | deposit (depositor : Address) (value : Amount) (transaction : Hash)
  | withdraw (signatures : List Signature) (message : List UInt8) (relayer : Address)
  | relay (bundle : Bundle) (relayer : Address)
  | confirm (authority : Address) (deposit : Deposit)
  | transferHome (sender recipient : Address) (value homeGasPrice : Amount) (transaction : Hash)
  | submit (signature : Signature) (message : List UInt8) (claimed relayer : Address)
  | homeLedger (call : Ledger.Call)
  | foreignLedger (call : Ledger.Call)
  | homeReserve (key : ReplayKey)
  | foreignReserve (key : ReplayKey)
deriving DecidableEq

/-- What a bridge answers. -/
inductive Answer
  | done
  | withdrawn (withdrawal : Withdrawal)
  | confirmed (outcome : ConfirmOutcome)
  | submitted (outcome : SubmitOutcome)
  /-- Whether an identity was still free. -/
  | reserved (free : Bool)
deriving DecidableEq

/-- The bridge after its home side and the guard of it have changed. -/
def withHome (crossing : Crossing) (state : Home × ReplayGuard) : Crossing :=
  { crossing with home := state.1, guards := crossing.guards.withHome state.2 }

/-- The bridge after its foreign side and the guard of it have changed. -/
def withForeign (crossing : Crossing) (state : Foreign × ReplayGuard) : Crossing :=
  { crossing with foreign := state.1, guards := crossing.guards.withForeign state.2 }

/-- The report of a call on a ledger. -/
def ledgerReport (ledger : Ledger) (call : Ledger.Call) : Report Ledger Answer :=
  match ledger.perform call with
  | (.error fault, ledger) =>
    { result := .error (.ledger fault), state := ledger, entries := [], counts := [] }
  | (.ok (), ledger) =>
    { result := .ok .done, state := ledger, entries := call.entries, counts := [] }

/-- The report of a reservation. -/
def reserveReport (guard : ReplayGuard) (key : ReplayKey) : Report ReplayGuard Answer :=
  let reserved := guard.reserve key
  { result := .ok (.reserved reserved.1), state := reserved.2, entries := [], counts := [] }

/-- What a call does to the sides and the guards. -/
def perform (crossing : Crossing) : Call → Report Crossing Answer
  -- A deposit and a transfer home look at requests of their own and at no guard.
  | .deposit depositor value transaction =>
    ((crossing.home.deposit depositor value transaction).map fun _ => .done).mapState
      fun home => { crossing with home }
  | .withdraw signatures message relayer =>
    ((crossing.home.withdraw crossing.guards.home signatures message relayer).map
      .withdrawn).mapState crossing.withHome
  | .relay bundle relayer =>
    ((crossing.home.relay crossing.guards.home bundle relayer).map .withdrawn).mapState
      crossing.withHome
  | .confirm authority deposit =>
    ((crossing.foreign.confirm crossing.guards.foreign authority deposit).map .confirmed).mapState
      crossing.withForeign
  | .transferHome sender recipient value homeGasPrice transaction =>
    ((crossing.foreign.transferHome sender recipient value homeGasPrice transaction).map
      fun _ => .done).mapState fun foreign => { crossing with foreign }
  | .submit signature message claimed relayer =>
    ((crossing.foreign.submit signature message claimed relayer).map .submitted).mapState
      fun foreign => { crossing with foreign }
  | .homeLedger call =>
    (ledgerReport crossing.home.ledger call).mapState
      fun ledger => { crossing with home := { crossing.home with ledger } }
  | .foreignLedger call =>
    (ledgerReport crossing.foreign.ledger call).mapState
      fun ledger => { crossing with foreign := { crossing.foreign with ledger } }
  | .homeReserve key =>
    (reserveReport crossing.guards.home key).mapState
      fun guard => { crossing with guards := crossing.guards.withHome guard }
  | .foreignReserve key =>
    (reserveReport crossing.guards.foreign key).mapState
      fun guard => { crossing with guards := crossing.guards.withForeign guard }

/-- Makes a call and adds what it counted to the counters. -/
def step (crossing : Crossing) (call : Call) : Report Crossing Answer :=
  let report := crossing.perform call
  report.mapState fun state => { state with metrics := crossing.metrics.add report.counts }

/-- The results of calls made one after another, and the bridge after them. -/
def run (crossing : Crossing) : List Call → List (Except Refusal Answer) × Crossing
  | [] => ([], crossing)
  | call :: rest =>
    let report := crossing.step call
    let after := report.state.run rest
    (report.result :: after.1, after.2)

end Crossing

end QuorumBridge
