import QuorumBridge.Refusal
import QuorumBridge.Table

/-!
# The ledger of one side

Balances of accounts, and the reserves that the bridge holds on this side.
Value that leaves the side is locked: it moves from an account into the
reserves. Value that arrives is released: it moves from the reserves to the
accounts of a list of payouts.

A release is checked as a whole before any of it is paid. The payouts must not
sum up to more than the reserves, and no account may end beyond the limit of
amounts, all payouts to the same account taken together. Paying itself is
plain arithmetic on amounts, which wraps around, so the check is all that
keeps it exact.

If several accounts have no room, one of them is named, and which one the
payouts do not settle. Credits are gathered in a hash map, which is walked in an
order that is drawn anew for every map and can be any. `Ledger.order` stands for
it: what is in it is looked at first, and the accounts of the payouts after
that. It bears on nothing but this name.

An operation answers and leaves a ledger behind, whether or not it succeeds.
Crediting opens an entry for its account before it knows whether the credit
fits. That no refused operation changes a ledger is therefore a fact to be
proved, not one about the types.

## Main definitions

* `Ledger`: Balances and reserves.
* `Ledger.arrange`: Another order in which accounts are looked at.
* `Ledger.fund`, `Ledger.lock`: Crediting an account, and locking value.
* `Ledger.checkRelease`: Whether payouts can be released.
* `Ledger.release`: Paying them.
* `Ledger.total`: All value on this side.
-/

namespace QuorumBridge

/-- An amount to be paid to an account. -/
structure Payout where
  account : Address
  value : Amount
deriving DecidableEq

/-- Balances of accounts and the reserves of the bridge. -/
structure Ledger where
  balances : Table Address Amount
  reserves : Amount
  /-- The accounts that are looked at first when one without room is to be named. -/
  order : List Address
deriving DecidableEq

namespace Ledger

/-- The ledger without accounts, whose bridge holds the given reserves. -/
def ofReserves (reserves : Amount) : Ledger :=
  ⟨Table.empty, reserves, []⟩

/-- The ledger that looks at accounts in another order. -/
def arrange (ledger : Ledger) (order : List Address) : Ledger :=
  { ledger with order }

/-- The balance of an account. An account that was never credited has none. -/
def balance (ledger : Ledger) (account : Address) : Amount :=
  (ledger.balances.get? account).getD 0

/-- All value on this side, in accounts and reserves. -/
def total (ledger : Ledger) : Nat :=
  ledger.balances.sum BitVec.toNat + ledger.reserves.toNat

/-- The ledger with another balance of an account. -/
def setBalance (ledger : Ledger) (account : Address) (balance : Amount) : Ledger :=
  { ledger with balances := ledger.balances.put account balance }

/-- The ledger in which an account has an entry, without value if it is new. -/
def opened (ledger : Ledger) (account : Address) : Ledger :=
  ledger.setBalance account (ledger.balance account)

/-- Credits an account from outside the bridge. -/
def fund (ledger : Ledger) (account : Address) (value : Amount) :
    Except LedgerFault Unit × Ledger :=
  -- The entry is opened first and stays if the credit does not fit.
  let ledger := ledger.opened account
  match Amount.add? (ledger.balance account) value with
  | none => (.error (.overflow account), ledger)
  | some balance => (.ok (), ledger.setBalance account balance)

/-- Moves value from an account into the reserves. -/
def lock (ledger : Ledger) (owner : Address) (value : Amount) :
    Except LedgerFault Unit × Ledger :=
  let available := ledger.balance owner
  if available < value then (.error (.insufficientBalance owner available value), ledger)
  else
    match Amount.add? ledger.reserves value with
    -- The reserves have no account of their own, so the owner is named.
    | none => (.error (.overflow owner), ledger)
    | some reserves =>
      (.ok (), { ledger.setBalance owner (available - value) with reserves })

/-- The sum of the payouts added to `sum`, unless it passes the limit. The
    payout at which it does is the one to be named. -/
def sumPayouts (sum : Amount) : List Payout → Except LedgerFault Amount
  | [] => .ok sum
  | payout :: rest =>
    match Amount.add? sum payout.value with
    | none => .error (.overflow payout.account)
    | some sum => sumPayouts sum rest

/-- What an account is to receive from a list of payouts, all together. -/
def credit (account : Address) (payouts : List Payout) : Nat :=
  (payouts.filter (·.account == account)).foldr (fun payout total => payout.value.toNat + total) 0

/-- Whether the balance of an account and its credit stay below the limit. -/
def fits (ledger : Ledger) (payouts : List Payout) (account : Address) : Bool :=
  decide ((ledger.balance account).toNat + credit account payouts < Amount.limit)

/-- The accounts that are looked at for a list of payouts. Whoever is paid nothing
    has room for it, so it makes no difference that such accounts may be among
    them. -/
def walk (ledger : Ledger) (payouts : List Payout) : List Address :=
  ledger.order ++ payouts.map Payout.account

/-- Whether payouts can be released. Of several accounts without room the first one
    that is looked at is named. -/
def checkRelease (ledger : Ledger) (payouts : List Payout) : Except LedgerFault Unit :=
  match sumPayouts 0 payouts with
  | .error fault => .error fault
  | .ok sum =>
    if ledger.reserves < sum then .error (.insufficientReserves ledger.reserves sum)
    else
      -- Each account must hold all its payouts together, not each on its own.
      match (ledger.walk payouts).find? (fun account => !ledger.fits payouts account) with
      | some account => .error (.overflow account)
      | none => .ok ()

/-- Moves one payout from the reserves to its account. -/
def pay (ledger : Ledger) (payout : Payout) : Ledger :=
  { ledger with
    balances := ledger.balances.put payout.account (ledger.balance payout.account + payout.value)
    reserves := ledger.reserves - payout.value }

/-- Pays the payouts, if they can be released. -/
def release (ledger : Ledger) (payouts : List Payout) : Except LedgerFault Unit × Ledger :=
  match ledger.checkRelease payouts with
  | .error fault => (.error fault, ledger)
  | .ok () => (.ok (), payouts.foldl pay ledger)

end Ledger

end QuorumBridge
