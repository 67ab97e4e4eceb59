import QuorumBridge.Proofs.Withdrawal

/-!
# What a relayer is paid

What a relayer is owed is a product of an amount and an estimate of 64 bits,
and so it may be far above every amount. It is compared with the value of the
instruction after it was brought down to the largest amount. Here this is
compared with the debt itself, in whole numbers.

Below the limit of amounts the two agree. From the limit on, the value is
smaller than the debt in any case, since a value is an amount. It is refused in
all cases but one, for the largest amount is not smaller than itself: an
instruction with that value passes (`Gate.Overlooks`), and all of its value goes
to the relayer, who is still owed more. This can happen behind every gate whose
estimate is two or more, and behind no other.

## Main definitions

* `Gate.owed`: What a relayer is owed, without a limit.
* `Gate.Overlooks`: The debt passes the limit and the value just meets it.
* `Gate.Charges`: How a gate charges what is owed.
* `Gate.dear`: An instruction whose debt is overlooked.

## Theorems

* `Amount.mul?_eq_some_iff`, `Amount.mul?_eq_none_iff`: Products of amounts.
* `Gate.exists_asked`: A gate asks for the debt or the largest amount, whichever
  is less.
* `Gate.charges`: Which values cover a fee, and which fee is paid.
-/

namespace QuorumBridge

namespace Amount

theorem mul?_eq_some_iff (a b product : Amount) :
    mul? a b = some product ↔
      a.toNat * b.toNat < limit ∧ product.toNat = a.toNat * b.toNat :=
  ofNat?_eq_some_iff _ product

theorem mul?_eq_none_iff (a b : Amount) : mul? a b = none ↔ limit ≤ a.toNat * b.toNat :=
  ofNat?_eq_none_iff _

theorem limit_eq : limit = max.toNat + 1 := rfl

/-- An estimate of gas is an amount. -/
theorem toNat_ofGas (gas : UInt64) : (BitVec.ofNat 256 gas.toNat).toNat = gas.toNat := by
  have hlt := gas.toNat_lt
  rw [BitVec.toNat_ofNat]
  exact Nat.mod_eq_of_lt (by omega)

end Amount

namespace Gate

/-- What the relayer of an instruction is owed, in whole numbers. -/
def owed (gate : Gate) (x : Instruction) : Nat :=
  x.gasPrice.toNat * gate.gas.toNat

/-- The debt is no amount any more, and the value is the largest one. -/
structure Overlooks (gate : Gate) (x : Instruction) : Prop where
  beyond : Amount.limit ≤ gate.owed x
  full : x.value = Amount.max

/-- A gate asks for the debt, or for the largest amount if that is less. -/
theorem exists_asked (gate : Gate) (x : Instruction) :
    ∃ asked : Amount, asked.toNat = min (gate.owed x) Amount.max.toNat ∧
      gate.fee x = if x.value < asked
        then .error (.insufficientValueForRelayFee x.value asked) else .ok asked := by
  refine ⟨_, ?_, rfl⟩
  have howed : x.gasPrice.toNat * (BitVec.ofNat 256 gate.gas.toNat).toNat = gate.owed x := by
    rw [Amount.toNat_ofGas]
    rfl
  have hlimit := Amount.limit_eq
  cases hproduct : Amount.mul? x.gasPrice (BitVec.ofNat 256 gate.gas.toNat) with
  | some product =>
    -- The product is an amount, and below the largest one.
    rcases (Amount.mul?_eq_some_iff _ _ _).1 hproduct with ⟨hlt, hexact⟩
    rw [howed] at hlt hexact
    rw [Option.getD_some, hexact]
    omega
  | none =>
    -- The product is none, so the largest amount takes its place.
    have hover := (Amount.mul?_eq_none_iff _ _).1 hproduct
    rw [howed] at hover
    rw [Option.getD_none]
    omega

variable {gate : Gate} {x : Instruction}

/-- The value covers what is asked for if it covers the debt, or if the debt is
    overlooked. -/
theorem not_lt_asked_iff {asked : Amount}
    (hasked : asked.toNat = min (gate.owed x) Amount.max.toNat) :
    ¬ x.value < asked ↔ gate.owed x ≤ x.value.toNat ∨ gate.Overlooks x := by
  have hlimit := Amount.limit_eq
  have hvalue := x.value.toNat_lt_limit
  rw [BitVec.lt_def]
  constructor
  · intro hcovers
    by_cases hpaid : gate.owed x ≤ x.value.toNat
    · exact Or.inl hpaid
    · -- What is asked for is less than the debt here, so it is the largest amount.
      exact Or.inr ⟨by omega, BitVec.eq_of_toNat_eq (by omega)⟩
  · rintro (hpaid | ⟨hover, hfull⟩)
    · omega
    · rw [hfull]
      omega

theorem fee_eq_ok_iff (gate : Gate) (x : Instruction) (fee : Amount) :
    gate.fee x = .ok fee ↔
      (gate.owed x ≤ x.value.toNat ∧ fee.toNat = gate.owed x) ∨
        (gate.Overlooks x ∧ fee = x.value) := by
  rcases gate.exists_asked x with ⟨asked, hasked, hfee⟩
  have hcovers := not_lt_asked_iff hasked
  have hlimit := Amount.limit_eq
  have hvalue := x.value.toNat_lt_limit
  rw [hfee]
  constructor
  · intro hok
    by_cases hless : x.value < asked
    · rw [if_pos hless] at hok
      exact absurd hok (by simp only [reduceCtorEq, not_false_eq_true])
    · rw [if_neg hless, Except.ok.injEq] at hok
      rw [← hok]
      rcases hcovers.1 hless with hpaid | hoverlooked
      · exact Or.inl ⟨hpaid, by omega⟩
      · -- A value that is the largest amount covers whatever is asked, so it may be less than the
        -- debt.
        have hover := hoverlooked.beyond
        refine Or.inr ⟨hoverlooked, BitVec.eq_of_toNat_eq ?_⟩
        rw [hoverlooked.full]
        omega
  · rintro (⟨hpaid, hexact⟩ | ⟨hoverlooked, rfl⟩)
    · rw [if_neg (hcovers.2 (Or.inl hpaid)), Except.ok.injEq]
      exact BitVec.eq_of_toNat_eq (by omega)
    · have hover := hoverlooked.beyond
      rw [if_neg (hcovers.2 (Or.inr hoverlooked)), Except.ok.injEq]
      refine BitVec.eq_of_toNat_eq ?_
      rw [hoverlooked.full]
      omega

theorem fee_eq_error_iff (gate : Gate) (x : Instruction) (refusal : Refusal) :
    gate.fee x = .error refusal ↔
      x.value.toNat < gate.owed x ∧ ¬ gate.Overlooks x ∧
        ∃ fee : Amount, fee.toNat = min (gate.owed x) Amount.max.toNat ∧
          refusal = .insufficientValueForRelayFee x.value fee := by
  rcases gate.exists_asked x with ⟨asked, hasked, hfee⟩
  have hcovers := not_lt_asked_iff hasked
  rw [hfee]
  by_cases hless : x.value < asked
  · -- What does not cover the fee does not cover the debt, and is not overlooked either.
    have huncovered := mt hcovers.2 (not_not_intro hless)
    rw [not_or, Nat.not_le] at huncovered
    rw [if_pos hless, Except.error.injEq]
    constructor
    · rintro rfl
      exact ⟨huncovered.1, huncovered.2, asked, hasked, rfl⟩
    · rintro ⟨_, _, fee, hexact, rfl⟩
      rw [BitVec.eq_of_toNat_eq (hexact.trans hasked.symm)]
  · rw [if_neg hless]
    constructor
    · intro hok
      exact absurd hok (by simp only [reduceCtorEq, not_false_eq_true])
    · rintro ⟨hshort, hseen, _⟩
      rcases hcovers.1 hless with hpaid | hoverlooked
      · exact absurd hshort (Nat.not_lt.2 hpaid)
      · exact absurd hoverlooked hseen

/-- A debt is overlooked behind some instruction, unless the estimate is too
    small for any debt to be no amount. -/
theorem exists_overlooks_iff (gate : Gate) :
    (∃ x, gate.Overlooks x) ↔ 2 ≤ gate.gas.toNat := by
  have hlimit := Amount.limit_eq
  constructor
  · rintro ⟨x, hover, _⟩
    have hprice := x.gasPrice.toNat_lt_limit
    by_contra hsmall
    have hmul := Nat.mul_le_mul_left x.gasPrice.toNat (Nat.le_of_lt_succ (Nat.not_le.1 hsmall))
    unfold owed at hover
    omega
  · intro hlarge
    have hpositive : 1 ≤ Amount.max.toNat := by decide
    have hmul := Nat.mul_le_mul_left Amount.max.toNat hlarge
    -- The highest price will do, whatever the estimate.
    refine ⟨⟨Address.zero, Amount.max, Octets.zero 32, Amount.max⟩, ?_, rfl⟩
    unfold owed
    simp only
    omega

/-- An overlooked debt is above the value. -/
theorem Overlooks.lt_owed (h : gate.Overlooks x) : x.value.toNat < gate.owed x :=
  Nat.lt_of_lt_of_le x.value.toNat_lt_limit h.beyond

theorem release_ok {σ : Type} [Treasury σ] {treasury : σ} {verified : VerifiedMessage}
    {relayer : Address} {withdrawal : Withdrawal}
    (h : (gate.release treasury verified relayer).1 = .ok withdrawal) :
    ∃ fee, gate.fee verified.instruction = .ok fee ∧ withdrawal = verified.paid relayer fee :=
  (gate.plan_eq_ok_iff verified relayer withdrawal).1 (settle_ok h)

/-- Which values cover a fee and which fee that is, for every instruction. -/
structure Charges (gate : Gate) : Prop where
  accepted_iff : ∀ x fee, gate.fee x = .ok fee ↔
    (gate.owed x ≤ x.value.toNat ∧ fee.toNat = gate.owed x) ∨
      (gate.Overlooks x ∧ fee = x.value)
  refused_iff : ∀ x refusal, gate.fee x = .error refusal ↔
    x.value.toNat < gate.owed x ∧ ¬ gate.Overlooks x ∧
      ∃ fee : Amount, fee.toNat = min (gate.owed x) Amount.max.toNat ∧
        refusal = .insufficientValueForRelayFee x.value fee
  /-- Only an estimate below two never overlooks a debt. -/
  exact_iff : (∀ x, (∃ fee, gate.fee x = .ok fee) ↔ gate.owed x ≤ x.value.toNat) ↔
    gate.gas.toNat < 2
  /-- Nobody is paid another fee, from whichever treasury. -/
  released : ∀ {σ : Type} [Treasury σ] (treasury : σ) (verified : VerifiedMessage)
    (relayer : Address) (withdrawal : Withdrawal),
    (gate.release treasury verified relayer).1 = .ok withdrawal →
      gate.fee verified.instruction = .ok withdrawal.relayFee ∧
        withdrawal.recipientValue.toNat + withdrawal.relayFee.toNat =
          verified.instruction.value.toNat

/-- Every gate charges the debt, to those whose value covers it; what is
    overlooked is charged the whole value. -/
theorem charges (gate : Gate) : gate.Charges := by
  refine ⟨gate.fee_eq_ok_iff, gate.fee_eq_error_iff, ?_, ?_⟩
  · rw [← Nat.not_le, ← gate.exists_overlooks_iff, not_exists]
    constructor
    · intro hexact x hoverlooked
      -- What is overlooked is accepted and does not cover its debt, so nothing may be overlooked.
      have hpaid := (hexact x).1 ⟨_, (gate.fee_eq_ok_iff x _).2 (Or.inr ⟨hoverlooked, rfl⟩)⟩
      exact absurd hoverlooked.lt_owed (Nat.not_lt.2 hpaid)
    · intro hnone x
      constructor
      · rintro ⟨fee, hfee⟩
        rcases (gate.fee_eq_ok_iff x fee).1 hfee with ⟨hpaid, _⟩ | ⟨hoverlooked, _⟩
        · exact hpaid
        · exact absurd hoverlooked (hnone x)
      · intro hpaid
        -- A debt that is covered by an amount is one, and that amount is the fee.
        have hlt := Nat.lt_of_le_of_lt hpaid x.value.toNat_lt_limit
        exact ⟨_, (gate.fee_eq_ok_iff x _).2
          (Or.inl ⟨hpaid, ((Amount.ofNat?_eq_some_iff _ _).1 (if_pos hlt)).2⟩)⟩
  · intro σ _ treasury verified relayer withdrawal hok
    rcases release_ok hok with ⟨fee, hfee, rfl⟩
    exact ⟨hfee, verified.recipientValue_add_relayFee relayer (fee_le hfee)⟩

/-- The largest value there is, at a price of half the limit. -/
def dear : Instruction where
  recipient := Address.zero
  value := Amount.max
  transaction := Octets.zero 32
  gasPrice := BitVec.twoPow 256 255

/-- A fee is taken that the value does not cover: two units of gas at that price
    are one more than the value. -/
theorem fee_overlooked :
    ¬ ((∃ fee, (Gate.mk 2).fee dear = .ok fee) ↔ (Gate.mk 2).owed dear ≤ dear.value.toNat) := by
  intro hexact
  have hpaid := hexact.1 ⟨Amount.max, rfl⟩
  exact absurd hpaid (by decide)

end Gate

end QuorumBridge
