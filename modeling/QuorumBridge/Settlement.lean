import QuorumBridge.Ledger
import QuorumBridge.ReplayGuard

/-!
# Settling a transfer once

Both directions end in the same act: an identity is spent and value is paid
out for it. It runs in five steps.

1. An identity that is already spent is turned down.
2. The payouts are worked out, which may turn the transfer down too.
3. The treasury is asked whether it can pay.
4. The identity is spent. Somebody else may have spent it since step 1.
5. The payouts are paid.

Asking before spending is what keeps a transfer alive that cannot be paid yet:
a refusal in step 3 leaves its identity free. Spending before paying is what
keeps it from being paid twice.

A treasury is anything that can do the steps. Nothing here relies on its
keeping still while it is asked, or on its paying because it said it could.
`Books`, a guard and a ledger, does keep still and does pay.

## Main definitions

* `Treasury`: What a settlement needs.
* `Books`: A guard and a ledger, and the treasury they make.
* `settle`: The five steps.
-/

namespace QuorumBridge

/-- A state that spends identities and pays from reserves. Each operation may
    change the state, whether or not it succeeds. -/
class Treasury (σ : Type) where
  /-- Whether an identity is spent. -/
  isSpent : σ → ReplayKey → Bool
  /-- Spends an identity, and says whether it was still free. -/
  reserve : σ → ReplayKey → Bool × σ
  /-- Whether payouts can be paid. -/
  checkRelease : σ → List Payout → Except LedgerFault Unit × σ
  /-- Pays payouts. -/
  release : σ → List Payout → Except LedgerFault Unit × σ

/-- The guard that a side looks at and the ledger that it pays from. -/
structure Books where
  replays : ReplayGuard
  ledger : Ledger

/-- Books are a treasury that nobody else has a hand in. -/
instance : Treasury Books where
  isSpent books key := books.replays.isSpent key
  reserve books key :=
    let reserved := books.replays.reserve key
    (reserved.1, { books with replays := reserved.2 })
  checkRelease books payouts := (books.ledger.checkRelease payouts, books)
  release books payouts :=
    let released := books.ledger.release payouts
    (released.1, { books with ledger := released.2 })

/-- Pays what is planned for an identity, once. `replayed` is said if the
    identity is spent, and `plan` gives what is planned or why nothing is. -/
def settle {σ α : Type} [Treasury σ] (treasury : σ) (key : ReplayKey) (replayed : Refusal)
    (plan : Except Refusal α) (payouts : α → List Payout) : Except Refusal α × σ :=
  if Treasury.isSpent treasury key then (.error replayed, treasury)
  else
    match plan with
    | .error refusal => (.error refusal, treasury)
    | .ok planned =>
      -- A refusal here leaves the identity free, so the transfer can be tried again.
      match Treasury.checkRelease treasury (payouts planned) with
      | (.error fault, treasury) => (.error (.ledger fault), treasury)
      | (.ok (), treasury) =>
        -- The treasury may have changed while it was asked: look again.
        match Treasury.reserve treasury key with
        | (false, treasury) => (.error replayed, treasury)
        | (true, treasury) =>
          match Treasury.release treasury (payouts planned) with
          | (.error fault, treasury) => (.error (.ledger fault), treasury)
          | (.ok (), treasury) => (.ok planned, treasury)

end QuorumBridge
