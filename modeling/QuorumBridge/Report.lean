import QuorumBridge.Journal
import QuorumBridge.Metrics

/-!
# What a call leaves behind

A call on a side has a result, and it leaves the side in some state. On its way
it writes to the log and is counted. All four come back together, so that
nothing a call does is hidden in it.

A call that is turned down is counted under the operation it belongs to and
the kind of its refusal.

## Main definitions

* `Operation`: What can be asked of a bridge.
* `Report`: The result of a call, with all that it leaves behind.
* `Report.turnedDown`: The report of a call that is refused.
* `Report.map`, `Report.mapState`: A report on a part as one on the whole.
-/

namespace QuorumBridge

/-- What can be asked of a bridge. -/
inductive Operation
  | homeDeposit
  | homeWithdraw
  | foreignDeposit
  | foreignTransferHome
  | foreignSubmitSignature
deriving DecidableEq

/-- The name by which calls of an operation are counted. -/
def Operation.label : Operation → String
  | .homeDeposit => "home_deposit"
  | .homeWithdraw => "home_withdraw"
  | .foreignDeposit => "foreign_deposit"
  | .foreignTransferHome => "foreign_transfer_home"
  | .foreignSubmitSignature => "foreign_submit_signature"

/-- A refused call, as it is counted. -/
def Count.refused (operation : Operation) (refusal : Refusal) : Count :=
  .rejection operation.label refusal.kind

/-- The result of a call, with all that it leaves behind. -/
structure Report (σ α : Type) where
  result : Except Refusal α
  /-- What the call was made on, as it is afterwards. -/
  state : σ
  /-- What was written to the log, in this order. -/
  entries : List Entry
  counts : List Count

namespace Report

variable {σ τ α β : Type}

/-- The report of a call that is refused. -/
def turnedDown (operation : Operation) (refusal : Refusal) (state : σ) (entries : List Entry) :
    Report σ α where
  result := .error refusal
  state := state
  entries := entries
  counts := [.refused operation refusal]

/-- The report with another view of the state, such as the whole that it is a
    part of. -/
def mapState (report : Report σ α) (view : σ → τ) : Report τ α :=
  { report with state := view report.state }

/-- The report with another view of the value. -/
def map (report : Report σ α) (view : α → β) : Report σ β :=
  { report with result := report.result.map view }

end Report

end QuorumBridge
