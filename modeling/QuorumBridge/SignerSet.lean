import QuorumBridge.Registry

/-!
# Sets of signers

Which authorities have voted, by their positions. A set never outgrows the
registry it was made for: it has one bit for every position, in words of 64,
and a list of the positions in the order they came. The bits answer whether a
position is in the set, the list says how many there are and who was first.

A position beyond the capacity has no bit. It is never in the set and is not
put into it.

## Main definitions

* `SignerSet`: The bits, the order and the capacity.
* `SignerSet.ofCapacity`: The empty set of a capacity.
* `SignerSet.contains`, `SignerSet.insert`: Asking for a position and adding one.
* `SignerSet.addresses`: The authorities at the positions of a set.
-/

namespace QuorumBridge

/-- A set of positions below a capacity. -/
structure SignerSet where
  /-- One bit for every position, 64 to a word. -/
  words : List (BitVec 64)
  /-- The positions in the set, in the order they were added. -/
  order : List Nat
  /-- The number of positions. -/
  capacity : Nat
deriving DecidableEq

namespace SignerSet

/-- The empty set for this many positions. -/
def ofCapacity (capacity : Nat) : SignerSet where
  words := List.replicate ((capacity + 63) / 64) 0
  order := []
  capacity := capacity

/-- Whether the bit of a position is set. None is set beyond the capacity. -/
def contains (signers : SignerSet) (index : Nat) : Bool :=
  decide (index < signers.capacity) &&
    (signers.words.getD (index / 64) 0).getLsbD (index % 64)

/-- The set with a position added, and whether that changed it. -/
def insert (signers : SignerSet) (index : Nat) : Bool × SignerSet :=
  if signers.capacity ≤ index ∨ signers.contains index then (false, signers)
  else
    (true, { signers with
      -- Bits and order change together.
      words := signers.words.modify (index / 64) (· ||| BitVec.twoPow 64 (index % 64))
      order := signers.order ++ [index] })

/-- How many positions were put in. -/
def size (signers : SignerSet) : Nat :=
  signers.order.length

/-- The authorities at the positions of a set, in the order they were added.
    Positions that the registry does not have are passed over. -/
def addresses (signers : SignerSet) (registry : Registry) : List Address :=
  signers.order.filterMap registry.authority?

end SignerSet

/-- The empty set of signers for a registry. -/
def Registry.signers (registry : Registry) : SignerSet :=
  SignerSet.ofCapacity registry.size

end QuorumBridge
