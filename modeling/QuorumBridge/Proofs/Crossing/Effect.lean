import QuorumBridge.Crossing
import QuorumBridge.Proofs.Bundles.Step
import QuorumBridge.Proofs.Confirmations.Payment

/-!
# What a call does to a bridge

All that a call can do to the two sides and their guards, in one list.

A call goes through a side, a store, a settlement and a ledger, and each of
them can refuse it. What a property of the whole bridge needs from all this is
little: either nothing has happened, or one of a few things has, and then the
checks that stand before it have passed. `Crossing.Effect` is the list of these
things, and `effect_perform` says that it is complete. An invariant of a bridge
is proved by going through the list, and does not look into any of the parts
again.

A bundle that is relayed is a message that is withdrawn. The list has one entry
for both, and `Call.plain` takes the one call to the other.

The counters are not in the list. They are added behind every call and nothing
ever looks at them.

## Main definitions

* `Crossing.Call.plain`: The call that a call stands for.
* `Crossing.Effect`: What a call can do to the sides and the guards.

## Theorems

* `Crossing.effect_perform`: Every call has one of these effects.
* `Home.withdraw_cases`: How a withdrawal can end.
-/

namespace QuorumBridge

/-- How a withdrawal can end. If it is refused, nothing has changed. -/
theorem Home.withdraw_cases (home : Home) (replays : ReplayGuard)
    (signatures : List Signature) (message : List UInt8) (relayer : Address) :
    (∃ refusal, (home.withdraw replays signatures message relayer).result = .error refusal ∧
        (home.withdraw replays signatures message relayer).state = (home, replays)) ∨
      ∃ verified withdrawal, verify home.registry signatures message = .ok verified ∧
        replays.isSpent (.foreignWithdraw verified.instruction.transaction) = false ∧
        home.gate.plan verified relayer = .ok withdrawal ∧
        home.ledger.checkRelease withdrawal.payouts = .ok () ∧
        (home.withdraw replays signatures message relayer).result = .ok withdrawal ∧
        (home.withdraw replays signatures message relayer).state =
          ({ home with
              ledger := withdrawal.payouts.foldl Ledger.pay home.ledger
              sink := (home.sink.publish (executedEvent withdrawal)).1 },
            (replays.reserve (.foreignWithdraw verified.instruction.transaction)).2) := by
  unfold withdraw
  cases hverify : verify home.registry signatures message with
  | error refusal => exact Or.inl ⟨refusal, rfl, rfl⟩
  | ok verified =>
    -- Behind verification there is one settlement over the guard and the ledger of the side.
    simp only [Gate.release]
    rcases settle_books_cases (Books.mk replays home.ledger)
      (.foreignWithdraw verified.instruction.transaction)
      (.alreadyExecuted verified.instruction.transaction) (home.gate.plan verified relayer)
      Withdrawal.payouts with ⟨refusal, hr⟩ | ⟨withdrawal, hplan, hfree, hcheck, hr⟩
    · rw [hr]
      exact Or.inl ⟨refusal, rfl, rfl⟩
    · rw [hr]
      exact Or.inr ⟨verified, withdrawal, rfl, hfree, hplan, hcheck, rfl, rfl⟩

namespace Crossing

/-- The call that a call stands for. Of a bundle only the message and the
    signatures are looked at. -/
def Call.plain : Call → Call
  | .relay bundle relayer => .withdraw bundle.signatures bundle.message relayer
  | call => call

/-- What a call can do to the sides and the guards of a bridge. Each entry but
    the first has the checks before it that have passed. -/
inductive Effect (crossing : Crossing) : Call → Except Refusal Answer → Crossing → Prop
  /-- Nothing at all. -/
  | refused (call : Call) (refusal : Refusal) : Effect crossing call (.error refusal) crossing
  /-- Value was locked at home. -/
  | deposited {depositor : Address} {value : Amount} {transaction : Hash} (hvalue : value ≠ 0)
      (hfree : crossing.home.requests.isSpent (.homeDeposit transaction) = false)
      (hlock : (crossing.home.ledger.lock depositor value).1 = .ok ()) :
      Effect crossing (.deposit depositor value transaction) (.ok .done)
        { crossing with home := { crossing.home with
            requests := (crossing.home.requests.reserve (.homeDeposit transaction)).2
            ledger := (crossing.home.ledger.lock depositor value).2
            sink := (crossing.home.sink.publish
              (.depositRequested depositor value transaction)).1 } }
  /-- A withdrawal was executed. -/
  | withdrawn {signatures : List Signature} {message : List UInt8} {relayer : Address}
      {verified : VerifiedMessage} {withdrawal : Withdrawal}
      (hverify : verify crossing.home.registry signatures message = .ok verified)
      (hfree : crossing.guards.home.isSpent
        (.foreignWithdraw verified.instruction.transaction) = false)
      (hplan : crossing.home.gate.plan verified relayer = .ok withdrawal)
      (hcheck : crossing.home.ledger.checkRelease withdrawal.payouts = .ok ()) :
      Effect crossing (.withdraw signatures message relayer) (.ok (.withdrawn withdrawal))
        (crossing.withHome
          ({ crossing.home with
              ledger := withdrawal.payouts.foldl Ledger.pay crossing.home.ledger
              sink := (crossing.home.sink.publish (Home.executedEvent withdrawal)).1 },
            (crossing.guards.home.reserve
              (.foreignWithdraw verified.instruction.transaction)).2))
  /-- A deposit was confirmed and needs more confirmations. -/
  | confirmed {authority : Address} {deposit : Deposit} {index : Nat} {signers : SignerSet}
      (hpos : crossing.foreign.registry.position? authority = some index)
      (hvote : crossing.foreign.confirmations.vote crossing.foreign.registry deposit authority
        index = .ok signers)
      (hbelow : signers.size < crossing.foreign.registry.threshold) :
      Effect crossing (.confirm authority deposit)
        (.ok (.confirmed (.pending signers.size crossing.foreign.registry.threshold)))
        { crossing with foreign := { crossing.foreign with
            confirmations :=
              ⟨crossing.foreign.confirmations.tallies.put deposit (.confirming signers)⟩
            sink := (crossing.foreign.sink.publish (Foreign.confirmedEvent deposit
              (.pending signers.size crossing.foreign.registry.threshold))).1 } }
  /-- A deposit was confirmed for the last time and paid. -/
  | released {authority : Address} {deposit : Deposit} {index : Nat} {signers : SignerSet}
      (hpos : crossing.foreign.registry.position? authority = some index)
      (hvote : crossing.foreign.confirmations.vote crossing.foreign.registry deposit authority
        index = .ok signers)
      (hreached : crossing.foreign.registry.threshold ≤ signers.size)
      (hfree : crossing.guards.foreign.isSpent (.homeDeposit deposit.transaction) = false)
      (hcheck : crossing.foreign.ledger.checkRelease deposit.payouts = .ok ()) :
      Effect crossing (.confirm authority deposit) (.ok (.confirmed (.released signers.size)))
        (crossing.withForeign
          ({ crossing.foreign with
              confirmations :=
                ⟨crossing.foreign.confirmations.tallies.put deposit (.released signers)⟩
              ledger := deposit.payouts.foldl Ledger.pay crossing.foreign.ledger
              sink := (crossing.foreign.sink.publish (Foreign.confirmedEvent deposit
                (.released signers.size))).1 },
            (crossing.guards.foreign.reserve (.homeDeposit deposit.transaction)).2))
  /-- Value was locked on the foreign side. -/
  | transferred {sender recipient : Address} {value homeGasPrice : Amount} {transaction : Hash}
      (hvalue : value ≠ 0)
      (hfree : crossing.foreign.requests.isSpent (.foreignWithdraw transaction) = false)
      (hlock : (crossing.foreign.ledger.lock sender value).1 = .ok ()) :
      Effect crossing (.transferHome sender recipient value homeGasPrice transaction) (.ok .done)
        { crossing with foreign := { crossing.foreign with
            requests := (crossing.foreign.requests.reserve (.foreignWithdraw transaction)).2
            ledger := (crossing.foreign.ledger.lock sender value).2
            sink := (crossing.foreign.sink.publish
              (.withdrawRequested recipient value homeGasPrice transaction)).1 } }
  /-- A signature was accepted. -/
  | submitted {signature : Signature} {message : List UInt8} {claimed relayer : Address}
      {outcome : SubmitOutcome} {bundles : Bundles}
      (hsubmit : crossing.foreign.bundles.submit crossing.foreign.registry signature message
        claimed relayer = (.ok outcome, bundles)) :
      Effect crossing (.submit signature message claimed relayer) (.ok (.submitted outcome))
        { crossing with foreign := { crossing.foreign with
            bundles
            sink := (crossing.foreign.sink.publish
              (Foreign.submittedEvent relayer outcome)).1 } }
  /-- Others have used the ledger of the home side. -/
  | usedHome {call : Ledger.Call} (hdone : (crossing.home.ledger.perform call).1 = .ok ()) :
      Effect crossing (.homeLedger call) (.ok .done)
        { crossing with home := { crossing.home with
            ledger := (crossing.home.ledger.perform call).2 } }
  /-- Others have used the ledger of the foreign side. -/
  | usedForeign {call : Ledger.Call}
      (hdone : (crossing.foreign.ledger.perform call).1 = .ok ()) :
      Effect crossing (.foreignLedger call) (.ok .done)
        { crossing with foreign := { crossing.foreign with
            ledger := (crossing.foreign.ledger.perform call).2 } }
  /-- Others have tried to reserve an identity in the guard of the home side. -/
  | reservedHome (key : ReplayKey) :
      Effect crossing (.homeReserve key) (.ok (.reserved (crossing.guards.home.reserve key).1))
        { crossing with
          guards := crossing.guards.withHome (crossing.guards.home.reserve key).2 }
  /-- Others have tried to reserve an identity in that of the foreign side. -/
  | reservedForeign (key : ReplayKey) :
      Effect crossing (.foreignReserve key)
        (.ok (.reserved (crossing.guards.foreign.reserve key).1))
        { crossing with
          guards := crossing.guards.withForeign (crossing.guards.foreign.reserve key).2 }

/-- The guards are as they were if the guard of a side is. -/
theorem withHome_self (crossing : Crossing) :
    crossing.withHome (crossing.home, crossing.guards.home) = crossing := by
  -- A shared guard is put back once for both sides.
  rcases crossing with ⟨home, foreign, guards, metrics⟩
  cases guards with
  | shared guard => rfl
  | apart homeGuard foreignGuard => rfl

/-- The same for a foreign side that has changed otherwise. -/
theorem withForeign_guard (crossing : Crossing) (foreign : Foreign) :
    crossing.withForeign (foreign, crossing.guards.foreign) = { crossing with foreign } := by
  rcases crossing with ⟨home, before, guards, metrics⟩
  cases guards with
  | shared guard => rfl
  | apart homeGuard foreignGuard => rfl

theorem effect_deposit (crossing : Crossing) (depositor : Address) (value : Amount)
    (transaction : Hash) :
    Effect crossing (.deposit depositor value transaction)
      (crossing.perform (.deposit depositor value transaction)).result
      (crossing.perform (.deposit depositor value transaction)).state := by
  unfold perform Home.deposit
  rcases Books.lock_cases ⟨crossing.home.requests, crossing.home.ledger⟩
    (.homeDeposit transaction) depositor value with ⟨refusal, hr⟩ | ⟨hvalue, hfree, hlock, hr⟩
  · simp only [hr]
    exact Effect.refused _ refusal
  · simp only [hr]
    exact Effect.deposited hvalue hfree hlock

theorem effect_withdraw (crossing : Crossing) (signatures : List Signature)
    (message : List UInt8) (relayer : Address) :
    Effect crossing (.withdraw signatures message relayer)
      (crossing.perform (.withdraw signatures message relayer)).result
      (crossing.perform (.withdraw signatures message relayer)).state := by
  unfold perform
  simp only [Report.map, Report.mapState]
  rcases Home.withdraw_cases crossing.home crossing.guards.home signatures message relayer with
    ⟨refusal, hresult, hstate⟩ | ⟨verified, withdrawal, hverify, hfree, hplan, hcheck, hresult,
      hstate⟩
  · rw [hresult, hstate, withHome_self]
    exact Effect.refused _ refusal
  · rw [hresult, hstate]
    exact Effect.withdrawn hverify hfree hplan hcheck

theorem effect_confirm (crossing : Crossing) (authority : Address) (deposit : Deposit) :
    Effect crossing (.confirm authority deposit)
      (crossing.perform (.confirm authority deposit)).result
      (crossing.perform (.confirm authority deposit)).state := by
  unfold perform Foreign.confirm
  simp only [Report.map, Report.mapState]
  rcases crossing.foreign.confirmations.confirm_books_cases
    (Books.mk crossing.guards.foreign crossing.foreign.ledger) crossing.foreign.registry deposit
    authority with ⟨refusal, hr⟩ | ⟨index, signers, hpos, hvote, ⟨hbelow, hr⟩ |
      ⟨hreached, hfree, hcheck, hr⟩⟩
  · -- The side and its guard are put back as they came.
    simp only [hr, Report.turnedDown]
    rw [withForeign_guard]
    exact Effect.refused _ refusal
  · -- A vote that only waits leaves the books alone.
    simp only [hr]
    rw [withForeign_guard]
    exact Effect.confirmed hpos hvote hbelow
  · simp only [hr]
    -- The settlement hands back the books that the effect names.
    exact Effect.released hpos hvote hreached hfree hcheck

theorem effect_transferHome (crossing : Crossing) (sender recipient : Address)
    (value homeGasPrice : Amount) (transaction : Hash) :
    Effect crossing (.transferHome sender recipient value homeGasPrice transaction)
      (crossing.perform (.transferHome sender recipient value homeGasPrice transaction)).result
      (crossing.perform (.transferHome sender recipient value homeGasPrice transaction)).state := by
  unfold perform Foreign.transferHome
  rcases Books.lock_cases ⟨crossing.foreign.requests, crossing.foreign.ledger⟩
    (.foreignWithdraw transaction) sender value with ⟨refusal, hr⟩ | ⟨hvalue, hfree, hlock, hr⟩
  · simp only [hr]
    exact Effect.refused _ refusal
  · simp only [hr]
    exact Effect.transferred hvalue hfree hlock

theorem effect_submit (crossing : Crossing) (signature : Signature) (message : List UInt8)
    (claimed relayer : Address) :
    Effect crossing (.submit signature message claimed relayer)
      (crossing.perform (.submit signature message claimed relayer)).result
      (crossing.perform (.submit signature message claimed relayer)).state := by
  unfold perform Foreign.submit
  rcases hsubmit : crossing.foreign.bundles.submit crossing.foreign.registry signature message
    claimed relayer with ⟨refusal | outcome, bundles⟩
  · -- The collections that come back are those that went in.
    have hsame : bundles = crossing.foreign.bundles := by
      have := Bundles.submit_error (congrArg Prod.fst hsubmit)
      rw [hsubmit] at this
      exact this
    simp only [hsubmit, hsame]
    exact Effect.refused _ refusal
  · simp only [hsubmit]
    exact Effect.submitted hsubmit

/-- How a use of a ledger by others can end. If it is refused, nothing has
    changed. -/
theorem ledgerReport_cases (ledger : Ledger) (call : Ledger.Call) :
    (∃ refusal, (ledgerReport ledger call).result = .error refusal ∧
        (ledgerReport ledger call).state = ledger) ∨
      ((ledger.perform call).1 = .ok () ∧ (ledgerReport ledger call).result = .ok .done ∧
        (ledgerReport ledger call).state = (ledger.perform call).2) := by
  unfold ledgerReport
  rcases hperform : ledger.perform call with ⟨fault | _, after⟩
  · have hsame := Ledger.perform_error (congrArg Prod.fst hperform)
    rw [hperform] at hsame
    exact Or.inl ⟨.ledger fault, rfl, hsame⟩
  · exact Or.inr ⟨rfl, rfl, rfl⟩

/-- Every call has one of the effects in the list. -/
theorem effect_perform (crossing : Crossing) (call : Call) :
    Effect crossing call.plain (crossing.perform call).result (crossing.perform call).state := by
  cases call with
  | deposit depositor value transaction => exact effect_deposit crossing _ _ _
  | withdraw signatures message relayer => exact effect_withdraw crossing _ _ _
  -- Relaying runs the same code on two fields of the bundle.
  | relay bundle relayer => exact effect_withdraw crossing bundle.signatures bundle.message relayer
  | confirm authority deposit => exact effect_confirm crossing _ _
  | transferHome sender recipient value homeGasPrice transaction =>
    exact effect_transferHome crossing _ _ _ _ _
  | submit signature message claimed relayer => exact effect_submit crossing _ _ _ _
  | homeLedger call =>
    unfold perform
    simp only [Report.mapState]
    rcases ledgerReport_cases crossing.home.ledger call with
      ⟨refusal, hresult, hstate⟩ | ⟨hdone, hresult, hstate⟩
    · rw [hresult, hstate]
      exact Effect.refused _ refusal
    · rw [hresult, hstate]
      exact Effect.usedHome hdone
  | foreignLedger call =>
    unfold perform
    simp only [Report.mapState]
    rcases ledgerReport_cases crossing.foreign.ledger call with
      ⟨refusal, hresult, hstate⟩ | ⟨hdone, hresult, hstate⟩
    · rw [hresult, hstate]
      exact Effect.refused _ refusal
    · rw [hresult, hstate]
      exact Effect.usedForeign hdone
  | homeReserve key => exact Effect.reservedHome key
  | foreignReserve key => exact Effect.reservedForeign key

end Crossing

end QuorumBridge
