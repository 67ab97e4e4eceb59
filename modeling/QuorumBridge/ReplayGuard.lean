import QuorumBridge.Address
import QuorumBridge.Bytes.Json

/-!
# The replay guard

A transfer is known by the ledger it comes from and the transaction that made
it there. Once a transfer has been paid its identity is spent for good: the
guard only ever grows. Transfers from the home ledger and from the foreign
ledger are told apart, so two ledgers may happen to use the same transaction
hash, and one guard may serve both directions.

## Main definitions

* `Origin`: The ledger a transfer comes from.
* `ReplayKey`: The identity of a transfer.
* `ReplayGuard`: The identities spent so far.
* `ReplayGuard.reserve`: Spending an identity, if it is not spent already.
* `ReplayGuard.isWithdrawn`, `ReplayGuard.isDepositReleased`: What a guard says
  about the transactions of either direction.

## Theorems

* `ReplayGuard.isSpent_reserve`: What is spent after an identity was reserved.
-/

namespace QuorumBridge

/-- The ledger a transfer comes from. -/
inductive Origin
  | home
  | foreign
deriving DecidableEq

/-- The name of an origin in running text. -/
def Origin.label : Origin → String
  | .home => "home"
  | .foreign => "foreign"

/-- An origin in JSON, where its name has a capital letter. -/
def Origin.toJson : Origin → Json
  | .home => .text "Home"
  | .foreign => .text "Foreign"

/-- The identity of a transfer. -/
structure ReplayKey where
  origin : Origin
  transaction : Hash
deriving DecidableEq

namespace ReplayKey

/-- A deposit made on the home ledger, to be paid on the foreign ledger. -/
def homeDeposit (transaction : Hash) : ReplayKey :=
  ⟨.home, transaction⟩

/-- A withdrawal asked for on the foreign ledger, to be paid on the home ledger. -/
def foreignWithdraw (transaction : Hash) : ReplayKey :=
  ⟨.foreign, transaction⟩

/-- An identity in running text. -/
def display (key : ReplayKey) : String :=
  s!"{key.origin.label}:{key.transaction.hex}"

/-- An identity in JSON. -/
def toJson (key : ReplayKey) : Json :=
  .record [("origin", key.origin.toJson), ("transaction_hash", key.transaction.toJson)]

end ReplayKey

/-- The identities spent so far, oldest first. -/
structure ReplayGuard where
  spent : List ReplayKey
deriving DecidableEq

namespace ReplayGuard

/-- The guard of a new bridge. -/
def empty : ReplayGuard :=
  ⟨[]⟩

/-- Whether an identity was spent. -/
def isSpent (guard : ReplayGuard) (key : ReplayKey) : Bool :=
  guard.spent.contains key

/-- Spends an identity, and says whether it was still free. -/
def reserve (guard : ReplayGuard) (key : ReplayKey) : Bool × ReplayGuard :=
  if guard.isSpent key then (false, guard) else (true, ⟨guard.spent ++ [key]⟩)

/-- Whether the withdrawal of a foreign transaction was paid on the home side. -/
def isWithdrawn (guard : ReplayGuard) (transaction : Hash) : Bool :=
  guard.isSpent (.foreignWithdraw transaction)

/-- Whether a deposit of a home transaction was paid on the foreign side. -/
def isDepositReleased (guard : ReplayGuard) (transaction : Hash) : Bool :=
  guard.isSpent (.homeDeposit transaction)

/-- How many identities were spent. -/
def size (guard : ReplayGuard) : Nat :=
  guard.spent.length

/-- After an identity was reserved it is spent, and nothing else has changed. -/
theorem isSpent_reserve (guard : ReplayGuard) (key k : ReplayKey) :
    (guard.reserve key).2.isSpent k = (guard.isSpent k || decide (k = key)) := by
  unfold reserve
  by_cases h : guard.isSpent key = true
  · rw [if_pos h]
    -- Reserving what is spent changes nothing, and the new disjunct says nothing new.
    by_cases hk : k = key
    · rw [hk, h, Bool.true_or]
    · rw [decide_eq_false hk, Bool.or_false]
  · rw [if_neg h]
    simp only [isSpent, List.contains_append, List.contains_cons, List.contains_nil,
      Bool.or_false]
    rfl

end ReplayGuard

end QuorumBridge
