import QuorumBridge.Journal

/-!
# Calls on a ledger

The ledger of a side serves others besides the bridge. What they may ask of it
is a closed list. Who holds the ledger may also put another in its place, which
is all that can be done to it in the end.

Nobody asks for the order in which a ledger looks at accounts. It is in the list
because it may be another one from one call to the next: a run with such calls
in between is what may come of the calls that are asked, whatever the orders.

## Main definitions

* `Ledger.Call`: What may be asked of a ledger.
* `Ledger.perform`: Doing it.
* `Ledger.Call.entries`: What is written to the log about a call that was done.
-/

namespace QuorumBridge

/-- What may be asked of a ledger. -/
inductive Ledger.Call
  | fund (account : Address) (value : Amount)
  | lock (owner : Address) (value : Amount)
  | checkRelease (payouts : List Payout)
  | release (payouts : List Payout)
  /-- Puts another ledger in its place. -/
  | replace (ledger : Ledger)
  /-- Looks at accounts in this order from now on. -/
  | arrange (order : List Address)
deriving DecidableEq

/-- What a call is answered, and the ledger after it. -/
def Ledger.perform (ledger : Ledger) : Ledger.Call → Except LedgerFault Unit × Ledger
  | .fund account value => ledger.fund account value
  | .lock owner value => ledger.lock owner value
  | .checkRelease payouts => (ledger.checkRelease payouts, ledger)
  | .release payouts => ledger.release payouts
  | .replace other => (.ok (), other)
  | .arrange order => (.ok (), ledger.arrange order)

/-- What is written to the log about a call that was done. Crediting an account,
    asking, replacing and arranging leave no trace there. -/
def Ledger.Call.entries : Ledger.Call → List Entry
  | .fund _ _ | .checkRelease _ | .replace _ | .arrange _ => []
  | .lock owner value => [.valueLocked owner value]
  | .release payouts => Entry.ofPayouts payouts

end QuorumBridge
