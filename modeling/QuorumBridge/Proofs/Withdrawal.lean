import QuorumBridge.Proofs.Crossing.Effect
import QuorumBridge.Proofs.Ledger
import QuorumBridge.Proofs.Verification.Fault

/-!
# Which withdrawals are executed

Exactly when a withdrawal is executed, what it moves, and why it is refused
otherwise.

Between a signed message and a payment stand the walk along the signatures, the
guard, the fee, the check of the ledger and the arithmetic of paying. Each of
them is pinned down where it is defined. What is added here is that together
they amount to two short lists, one of conditions and one of reasons, and that
these exclude each other.

The conditions (`Home.Admits`) are in whole numbers and know nothing of
payouts. An account receives a share of the value: the recipient what the fee
leaves, the relayer the fee, and an account that is both receives all of it. So
nothing special has to be said about a relayer who withdraws to itself, nor of
a fee of zero, which is not paid at all.

The reasons (`Home.Refuses`) stand in the order of the checks, and each carries
that those before it have passed. Only the last leaves a choice: where both
accounts would pass the limit, either of them may be named.

## Main definitions

* `Instruction.share`: What an account is to receive.
* `VerifiedMessage.paid`: The withdrawal of a message for a fee.
* `Home.Admits`: The conditions of a withdrawal.
* `Home.Refuses`: The reasons against one.
* `Home.Paid`: What a withdrawal moves.
* `Home.Decides`: A withdrawal is executed or refused as it should be.

## Theorems

* `VerifiedMessage.worth_paid`, `VerifiedMessage.credit_paid`: What is paid is
  the value, in shares.
* `Home.Admits.not_refuses`: Nothing speaks against what is admitted.
* `Home.withdraw_decides`: Every withdrawal is decided so.
-/

namespace QuorumBridge

/-- What an account is to receive: the recipient the value less the fee, the
    relayer the fee, and whoever is both receives both. -/
def Instruction.share (x : Instruction) (relayer : Address) (fee : Amount)
    (account : Address) : Nat :=
  (if x.recipient = account then x.value.toNat - fee.toNat else 0) +
    if relayer = account then fee.toNat else 0

/-- The withdrawal of a verified message for a fee. -/
def VerifiedMessage.paid (verified : VerifiedMessage) (relayer : Address) (fee : Amount) :
    Withdrawal where
  instruction := verified.instruction
  messageHash := verified.messageHash
  signers := verified.signers
  relayer := relayer
  recipientValue := verified.instruction.value - fee
  relayFee := fee

namespace Gate

theorem fee_le {gate : Gate} {x : Instruction} {fee : Amount} (h : gate.fee x = .ok fee) :
    fee ≤ x.value := by
  unfold Gate.fee at h
  simp only at h
  -- A fee that the value does not cover is refused. What is left is what was to be shown.
  split at h
  · exact absurd h (by simp only [reduceCtorEq, not_false_eq_true])
  · rename_i hless
    rw [← Except.ok.inj h, BitVec.le_def]
    rw [BitVec.lt_def] at hless
    exact Nat.le_of_not_lt hless

theorem plan_eq_ok_iff (gate : Gate) (verified : VerifiedMessage) (relayer : Address)
    (withdrawal : Withdrawal) :
    gate.plan verified relayer = .ok withdrawal ↔
      ∃ fee, gate.fee verified.instruction = .ok fee ∧
        withdrawal = verified.paid relayer fee := by
  unfold plan
  cases gate.fee verified.instruction with
  | error refusal =>
    simp only [reduceCtorEq, false_and, exists_false]
  | ok fee =>
    simp only [Except.ok.injEq]
    constructor
    · rintro rfl
      exact ⟨fee, rfl, rfl⟩
    · rintro ⟨other, rfl, rfl⟩
      rfl

end Gate

namespace VerifiedMessage

variable {verified : VerifiedMessage} (relayer : Address) {fee : Amount}

theorem toNat_recipientValue (hle : fee ≤ verified.instruction.value) :
    (verified.paid relayer fee).recipientValue.toNat =
      verified.instruction.value.toNat - fee.toNat :=
  BitVec.toNat_sub_of_le hle

/-- The two parts of a withdrawal make up its value. -/
theorem recipientValue_add_relayFee (hle : fee ≤ verified.instruction.value) :
    (verified.paid relayer fee).recipientValue.toNat +
        (verified.paid relayer fee).relayFee.toNat = verified.instruction.value.toNat := by
  have hsplit := toNat_recipientValue relayer hle
  have hfee : (verified.paid relayer fee).relayFee = fee := rfl
  rw [BitVec.le_def] at hle
  rw [hsplit, hfee]
  omega

theorem worth_paid (hle : fee ≤ verified.instruction.value) :
    Ledger.worth (verified.paid relayer fee).payouts = verified.instruction.value.toNat := by
  have hsplit := recipientValue_add_relayFee relayer hle
  unfold Withdrawal.payouts
  rw [Ledger.worth_cons]
  by_cases hzero : (verified.paid relayer fee).relayFee = 0
  · -- A fee of zero is left out, and is worth nothing.
    rw [if_pos hzero]
    rw [hzero] at hsplit
    exact hsplit
  · rw [if_neg hzero]
    exact hsplit

theorem credit_paid (hle : fee ≤ verified.instruction.value) (account : Address) :
    Ledger.credit account (verified.paid relayer fee).payouts =
      verified.instruction.share relayer fee account := by
  have hvalue := toNat_recipientValue relayer hle
  have hrecipient : (verified.paid relayer fee).instruction.recipient =
      verified.instruction.recipient := rfl
  have hfee : (verified.paid relayer fee).relayFee = fee := rfl
  have hrelayer : (verified.paid relayer fee).relayer = relayer := rfl
  have hnone : Ledger.credit account [] = 0 := rfl
  unfold Withdrawal.payouts Instruction.share
  rw [Ledger.credit_cons]
  simp only [hvalue, hrecipient, hfee, hrelayer]
  -- Without a fee there is one payout, and with one there are two, maybe to the same account.
  by_cases hzero : fee = 0
  · have hnothing : fee.toNat = 0 := by rw [hzero]; rfl
    rw [if_pos hzero, hnone, hnothing, ite_self]
  · rw [if_neg hzero, Ledger.credit_cons, hnone, Nat.add_zero]

end VerifiedMessage

namespace Home

/-- The conditions of a withdrawal. -/
structure Admits (home : Home) (replays : ReplayGuard) (signatures : List Signature)
    (message : List UInt8) (relayer : Address) (verified : VerifiedMessage) (fee : Amount) :
    Prop where
  verify_eq : verify home.registry signatures message = .ok verified
  unspent : replays.isSpent (.foreignWithdraw verified.instruction.transaction) = false
  fee_eq : home.gate.fee verified.instruction = .ok fee
  covered : verified.instruction.value.toNat ≤ home.ledger.reserves.toNat
  fits : ∀ account, (home.ledger.balance account).toNat +
    verified.instruction.share relayer fee account < Amount.limit

/-- The reasons against a withdrawal, in the order of the checks. -/
inductive Refuses (home : Home) (replays : ReplayGuard) (signatures : List Signature)
    (message : List UInt8) (relayer : Address) : Refusal → Prop
  | unverified {refusal : Refusal}
      (hfault : home.registry.Unverified signatures message refusal) :
      Refuses home replays signatures message relayer refusal
  | executed {verified : VerifiedMessage}
      (hverify : verify home.registry signatures message = .ok verified)
      (hspent : replays.isSpent (.foreignWithdraw verified.instruction.transaction) = true) :
      Refuses home replays signatures message relayer
        (.alreadyExecuted verified.instruction.transaction)
  | uncovered {verified : VerifiedMessage} {due : Amount}
      (hverify : verify home.registry signatures message = .ok verified)
      (hfree : replays.isSpent (.foreignWithdraw verified.instruction.transaction) = false)
      (hfee : home.gate.fee verified.instruction =
        .error (.insufficientValueForRelayFee verified.instruction.value due)) :
      Refuses home replays signatures message relayer
        (.insufficientValueForRelayFee verified.instruction.value due)
  | reserves {verified : VerifiedMessage} {fee : Amount}
      (hverify : verify home.registry signatures message = .ok verified)
      (hfree : replays.isSpent (.foreignWithdraw verified.instruction.transaction) = false)
      (hfee : home.gate.fee verified.instruction = .ok fee)
      (hshort : home.ledger.reserves.toNat < verified.instruction.value.toNat) :
      Refuses home replays signatures message relayer
        (.ledger (.insufficientReserves home.ledger.reserves verified.instruction.value))
  | account {verified : VerifiedMessage} {fee : Amount} {account : Address}
      (hverify : verify home.registry signatures message = .ok verified)
      (hfree : replays.isSpent (.foreignWithdraw verified.instruction.transaction) = false)
      (hfee : home.gate.fee verified.instruction = .ok fee)
      (hcovered : verified.instruction.value.toNat ≤ home.ledger.reserves.toNat)
      (hover : Amount.limit ≤ (home.ledger.balance account).toNat +
        verified.instruction.share relayer fee account) :
      Refuses home replays signatures message relayer (.ledger (.overflow account))

/-- What a withdrawal moves: its value out of the reserves, to each account its
    share, and its identity into the guard. -/
structure Paid (before after : Home × ReplayGuard) (withdrawal : Withdrawal) : Prop where
  reserves : after.1.ledger.reserves.toNat + withdrawal.instruction.value.toNat =
    before.1.ledger.reserves.toNat
  balance : ∀ account, (after.1.ledger.balance account).toNat =
    (before.1.ledger.balance account).toNat +
      withdrawal.instruction.share withdrawal.relayer withdrawal.relayFee account
  spent : after.2.spent =
    before.2.spent ++ [.foreignWithdraw withdrawal.instruction.transaction]
  requests : after.1.requests = before.1.requests

variable {home : Home} {replays : ReplayGuard} {signatures : List Signature}
  {message : List UInt8} {relayer : Address}

/-- Nothing speaks against a withdrawal that is admitted. -/
theorem Admits.not_refuses {verified : VerifiedMessage} {fee : Amount}
    (h : home.Admits replays signatures message relayer verified fee) (refusal : Refusal) :
    ¬ home.Refuses replays signatures message relayer refusal := by
  have hverified := h.verify_eq
  have hunspent := h.unspent
  have hfeeOk := h.fee_eq
  have hcovers := h.covered
  -- All later reasons are about the message that was verified.
  have hsame : ∀ other, verify home.registry signatures message = .ok other →
      other = verified := by
    intro other hother
    rw [hverified, Except.ok.injEq] at hother
    exact hother.symm
  intro hrefuses
  cases hrefuses with
  | unverified hfault =>
    rw [← verify_eq_error_iff, hverified] at hfault
    exact absurd hfault (by simp only [reduceCtorEq, not_false_eq_true])
  | executed hverify hspent =>
    rw [hsame _ hverify, hunspent] at hspent
    exact Bool.false_ne_true hspent
  | uncovered hverify _ hfee =>
    rw [hsame _ hverify, hfeeOk] at hfee
    exact absurd hfee (by simp only [reduceCtorEq, not_false_eq_true])
  | reserves hverify _ _ hshort =>
    rw [hsame _ hverify] at hshort
    omega
  | @account _ other account hverify _ hfee _ hover =>
    rw [hsame _ hverify, hfeeOk, Except.ok.injEq] at hfee
    rw [hsame _ hverify, ← hfee] at hover
    have hfits := h.fits account
    omega

/-- What is payable is what is admitted: the value is within the reserves and
    the shares are within the limit. -/
theorem payable_paid_iff {verified : VerifiedMessage} {fee : Amount}
    (hle : fee ≤ verified.instruction.value) (ledger : Ledger) (relayer : Address) :
    ledger.Payable (verified.paid relayer fee).payouts ↔
      verified.instruction.value.toNat ≤ ledger.reserves.toNat ∧
        ∀ account, (ledger.balance account).toNat +
          verified.instruction.share relayer fee account < Amount.limit := by
  -- Both payouts together are the value, and to an account they come to its share.
  have hworth := VerifiedMessage.worth_paid relayer hle
  have hcredit := VerifiedMessage.credit_paid relayer hle
  constructor
  · rintro ⟨hcovered, hfits⟩
    rw [hworth] at hcovered
    refine ⟨hcovered, fun account => ?_⟩
    rw [← hcredit]
    exact hfits account
  · rintro ⟨hcovered, hfits⟩
    refine ⟨by rw [hworth]; exact hcovered, fun account => ?_⟩
    rw [hcredit]
    exact hfits account

/-- Whatever a withdrawal is refused for is a reason against it. -/
theorem withdraw_error {refusal : Refusal}
    (h : (home.withdraw replays signatures message relayer).result = .error refusal) :
    home.Refuses replays signatures message relayer refusal := by
  rw [withdraw_result, Gate.execute] at h
  cases hverify : verify home.registry signatures message with
  | error reason =>
    rw [hverify] at h
    rw [← Except.error.inj h]
    exact .unverified ((verify_eq_error_iff _ _ _ _).1 hverify)
  | ok verified =>
    rw [hverify] at h
    rcases settle_books_refusal h with ⟨hspent, rfl⟩ | ⟨hfree, hplan⟩ |
      ⟨hfree, withdrawal, fault, hplan, hcheck, rfl⟩
    · exact .executed hverify hspent
    · have hfee := Gate.plan_error hplan
      rcases Gate.fee_error hfee with ⟨due, rfl⟩
      exact .uncovered hverify hfree hfee
    · rcases (Gate.plan_eq_ok_iff _ _ _ _).1 hplan with ⟨fee, hfee, rfl⟩
      have hworth := VerifiedMessage.worth_paid relayer (Gate.fee_le hfee)
      have hlimit := verified.instruction.value.toNat_lt_limit
      -- The payouts add up to the value, which is an amount, so their sum is no reason.
      cases Ledger.refuses_of_checkRelease hcheck with
      | sum account hover => omega
      | reserves hsum hshort =>
        rw [hworth] at hsum hshort
        rw [BitVec.eq_of_toNat_eq hsum]
        exact .reserves hverify hfree hfee hshort
      | account hcovered hover =>
        rw [hworth] at hcovered
        rw [VerifiedMessage.credit_paid relayer (Gate.fee_le hfee)] at hover
        exact .account hverify hfree hfee hcovered hover

/-- A withdrawal that is executed was admitted, and has moved what it should. -/
theorem withdraw_ok {withdrawal : Withdrawal}
    (h : (home.withdraw replays signatures message relayer).result = .ok withdrawal) :
    (∃ verified fee, home.Admits replays signatures message relayer verified fee ∧
        withdrawal = verified.paid relayer fee) ∧
      Paid (home, replays) (home.withdraw replays signatures message relayer).state
        withdrawal := by
  rcases home.withdraw_cases replays signatures message relayer with
    ⟨refusal, hresult, _⟩ | ⟨verified, done, hverify, hfree, hplan, hcheck, hresult, hstate⟩
  · rw [hresult] at h
    exact absurd h (by simp only [reduceCtorEq, not_false_eq_true])
  · rw [hresult, Except.ok.injEq] at h
    rw [h] at hplan hcheck hstate
    rcases (Gate.plan_eq_ok_iff _ _ _ _).1 hplan with ⟨fee, hfee, rfl⟩
    -- What is paid is payable, so no sum wraps around on the way.
    have hle := Gate.fee_le hfee
    have hpayable := (Ledger.checkRelease_eq_ok_iff _ _).1 hcheck
    have hadmits := (payable_paid_iff hle home.ledger relayer).1 hpayable
    have hreserves := hpayable.reserves_foldl
    have hbalance := hpayable.balance_foldl
    rw [VerifiedMessage.worth_paid relayer hle] at hreserves
    simp only [VerifiedMessage.credit_paid relayer hle] at hbalance
    refine ⟨⟨verified, fee, ⟨hverify, hfree, hfee, hadmits.1, hadmits.2⟩, rfl⟩, ?_⟩
    rw [hstate]
    refine ⟨hreserves, hbalance, ?_, rfl⟩
    rw [ReplayGuard.reserve, hfree]
    rfl

/-- A withdrawal is executed if it is admitted and for no other reason, it is
    refused for what speaks against it, and it moves its value exactly. -/
structure Decides (home : Home) (replays : ReplayGuard) (signatures : List Signature)
    (message : List UInt8) (relayer : Address) : Prop where
  accepted_iff : ∀ withdrawal,
    (home.withdraw replays signatures message relayer).result = .ok withdrawal ↔
      ∃ verified fee, home.Admits replays signatures message relayer verified fee ∧
        withdrawal = verified.paid relayer fee
  refused : ∀ refusal,
    (home.withdraw replays signatures message relayer).result = .error refusal →
      home.Refuses replays signatures message relayer refusal
  refused_of : ∀ refusal, home.Refuses replays signatures message relayer refusal →
    ∃ other, (home.withdraw replays signatures message relayer).result = .error other
  paid : ∀ withdrawal,
    (home.withdraw replays signatures message relayer).result = .ok withdrawal →
      Paid (home, replays) (home.withdraw replays signatures message relayer).state withdrawal

/-- Every withdrawal is decided by these conditions and reasons, whatever the
    state of the home side and of the guard. -/
theorem withdraw_decides (home : Home) (replays : ReplayGuard) (signatures : List Signature)
    (message : List UInt8) (relayer : Address) :
    home.Decides replays signatures message relayer := by
  refine ⟨?_, fun refusal h => withdraw_error h, ?_, fun withdrawal h => (withdraw_ok h).2⟩
  · intro withdrawal
    constructor
    · intro h
      exact (withdraw_ok h).1
    · rintro ⟨verified, fee, hadmits, rfl⟩
      cases hresult : (home.withdraw replays signatures message relayer).result with
      | error refusal => exact absurd (withdraw_error hresult) (hadmits.not_refuses refusal)
      | ok done =>
        -- What was executed was admitted too, for the same message and the same fee.
        rcases (withdraw_ok hresult).1 with ⟨other, due, hother, rfl⟩
        have hverified := hother.verify_eq
        rw [hadmits.verify_eq, Except.ok.injEq] at hverified
        have hfee := hother.fee_eq
        rw [← hverified, hadmits.fee_eq, Except.ok.injEq] at hfee
        rw [hverified, hfee]
  · intro refusal hrefuses
    cases hresult : (home.withdraw replays signatures message relayer).result with
    | error other => exact ⟨other, rfl⟩
    | ok done =>
      rcases (withdraw_ok hresult).1 with ⟨verified, fee, hadmits, _⟩
      exact absurd hrefuses (hadmits.not_refuses refusal)

end Home

end QuorumBridge
