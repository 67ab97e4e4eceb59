import QuorumBridge.Settlement

/-!
# Locking value once

Both directions begin in the same act: value is locked on the ledger where it
is, for one transaction of that ledger. The transaction must not have locked
value before. A lock that fails leaves its transaction free, so that it may be
asked for again.

The guard that remembers these transactions is one of its own. It says what was
asked for on this side, not what was paid on the other.

## Main definitions

* `Books.lock`: Locking value for a transaction.
-/

namespace QuorumBridge

/-- Locks value for a transfer that was not asked for yet. -/
def Books.lock (books : Books) (key : ReplayKey) (owner : Address) (value : Amount) :
    Except Refusal Unit × Books :=
  if value = 0 then (.error .zeroValue, books)
  else if books.replays.isSpent key then
    (.error (.duplicateTransaction key.transaction), books)
  else
    match books.ledger.lock owner value with
    -- The identity is not reserved, so the transaction may ask again.
    | (.error fault, ledger) => (.error (.ledger fault), { books with ledger })
    | (.ok (), ledger) => (.ok (), ⟨(books.replays.reserve key).2, ledger⟩)

end QuorumBridge
