import Mathlib.Data.List.Nodup
import QuorumBridge.Home
import QuorumBridge.Proofs.Positions
import QuorumBridge.Proofs.Settlement

/-!
# What is verified

The meaning of a signed message that passes.

Verification walks along the signatures with a set of the positions it has
seen, and stops at the first that does not fit. What it accepts can be said
without the walk: each signature leads to an authority, these are distinct, and
there are enough of them. `verify_eq_ok_iff` is that statement. Whoever puts
signatures together elsewhere only has to meet it.

What is left to go wrong for a verified message is the settlement. A relayer
who brings one can be told that it was executed already, that its value does
not cover the fee, or that the ledger refuses.

## Main definitions

* `Registry.Signed`: A signature over a message leads to an authority.
* `Instruction.Unpaid`: What can be said about an instruction that is not paid.

## Theorems

* `Registry.signer_eq_ok_iff`: When a signature is that of an authority.
* `verifySigners_eq_ok_iff`: What the walk accepts.
* `verify_eq_ok_iff`: What verification accepts.
* `Gate.execute_refusal`: What can go wrong for a verified message.
* `Home.withdraw_result`: The home side answers what its gate answers.
-/

namespace QuorumBridge

namespace Registry

/-- A signature over a message leads to an authority. -/
def Signed (registry : Registry) (message : List UInt8) (signature : Signature)
    (authority : Address) : Prop :=
  signature.signer message = .ok authority ∧ authority ∈ registry.authorities

/-- A signature is that of an authority if it leads to an address and the
    address has a position. -/
theorem signer_eq_ok_iff (registry : Registry) (signature : Signature) (message : List UInt8)
    (index : Nat) (authority : Address) :
    registry.signer signature message = .ok (index, authority) ↔
      signature.signer message = .ok authority ∧ registry.position? authority = some index := by
  unfold signer
  cases hsigner : signature.signer message with
  | error fault =>
    simp only [reduceCtorEq, false_and]
  | ok found =>
    simp only [Except.ok.injEq]
    cases hpos : registry.position? found with
    | none =>
      simp only [reduceCtorEq, false_iff]
      -- A stranger has no position.
      rintro ⟨rfl, hat⟩
      rw [hpos] at hat
      exact absurd hat (by simp only [reduceCtorEq, not_false_eq_true])
    | some place =>
      simp only [Except.ok.injEq, Prod.mk.injEq]
      constructor
      · rintro ⟨rfl, rfl⟩
        exact ⟨rfl, hpos⟩
      · rintro ⟨rfl, hat⟩
        rw [hpos, Option.some.injEq] at hat
        exact ⟨hat, rfl⟩

/-- The authority that a signature leads to has a position. -/
theorem Signed.exists_signer {registry : Registry} {message : List UInt8}
    {signature : Signature} {authority : Address}
    (h : registry.Signed message signature authority) :
    ∃ index, registry.position? authority = some index ∧
      registry.signer signature message = .ok (index, authority) := by
  cases hpos : registry.position? authority with
  | none => exact absurd h.2 ((registry.position?_eq_none_iff authority).1 hpos)
  | some index =>
    -- The one position at which it stands is the one that is found.
    exact ⟨index, rfl, (registry.signer_eq_ok_iff signature message index authority).2
      ⟨h.1, hpos⟩⟩

theorem signed_of_signer {registry : Registry} {message : List UInt8} {signature : Signature}
    {index : Nat} {authority : Address}
    (h : registry.signer signature message = .ok (index, authority)) :
    registry.Signed message signature authority := by
  rw [signer_eq_ok_iff] at h
  exact ⟨h.1, mem_of_position? h.2⟩

end Registry

/-- One step of the walk. Whoever was seen before is turned down, and anybody
    else is seen from now on. -/
theorem verifySigners_cons {registry : Registry} {message : List UInt8} {seen : SignerSet}
    (h : seen.SoundFor registry) {signature : Signature} {index : Nat} {signer : Address}
    (hsigner : registry.signer signature message = .ok (index, signer)) (rest : List Signature) :
    verifySigners registry message seen (signature :: rest) =
      if signer ∈ seen.addresses registry then .error (.duplicateSignature signer)
      else (verifySigners registry message (seen.insert index).2 rest).map (signer :: ·) := by
  have hpos := ((registry.signer_eq_ok_iff _ _ _ _).1 hsigner).2
  rw [verifySigners, hsigner]
  simp only
  -- The walk asks the bits whether it has seen the signer, and the bits know.
  by_cases hseen : signer ∈ seen.addresses registry
  · have hold : (seen.insert index).1 = false := by
      rw [Bool.eq_false_iff, ne_eq, h.insert_fst_iff hpos, not_not]
      exact hseen
    rcases hinsert : seen.insert index with ⟨added, grown⟩
    rw [hinsert] at hold
    rw [if_pos hseen]
    simp only at hold
    rw [hold]
  · have hnew : (seen.insert index).1 = true := (h.insert_fst_iff hpos).2 hseen
    rcases hinsert : seen.insert index with ⟨added, grown⟩
    rw [hinsert] at hnew
    rw [if_neg hseen]
    simp only at hnew
    rw [hnew]
    simp only
    cases verifySigners registry message grown rest with
    | error refusal => rfl
    | ok signers => rfl

/-- What the walk along the signatures accepts: each leads to an authority, and
    these are distinct and none of them was seen before. -/
theorem verifySigners_eq_ok_iff {registry : Registry} {message : List UInt8} {seen : SignerSet}
    (h : seen.SoundFor registry) (signatures : List Signature) (signers : List Address) :
    verifySigners registry message seen signatures = .ok signers ↔
      List.Forall₂ (registry.Signed message) signatures signers ∧ signers.Nodup ∧
        ∀ account ∈ signers, account ∉ seen.addresses registry := by
  induction signatures generalizing seen signers with
  | nil =>
    rw [verifySigners, Except.ok.injEq, List.forall₂_nil_left_iff]
    constructor
    · rintro rfl
      exact ⟨rfl, List.nodup_nil, fun account hmem => absurd hmem List.not_mem_nil⟩
    · rintro ⟨rfl, _, _⟩
      rfl
  | cons signature rest ih =>
    constructor
    · intro hok
      cases hsigner : registry.signer signature message with
      | error refusal =>
        rw [verifySigners, hsigner] at hok
        exact absurd hok (by simp only [reduceCtorEq, not_false_eq_true])
      | ok found =>
        rcases found with ⟨index, signer⟩
        have hpos := ((registry.signer_eq_ok_iff _ _ _ _).1 hsigner).2
        rw [verifySigners_cons h hsigner] at hok
        by_cases hseen : signer ∈ seen.addresses registry
        · rw [if_pos hseen] at hok
          exact absurd hok (by simp only [reduceCtorEq, not_false_eq_true])
        · rw [if_neg hseen] at hok
          have hnew := fun hmem => hseen ((SignerSet.SoundFor.mem_addresses_iff hpos).2 hmem)
          cases hrest : verifySigners registry message (seen.insert index).2 rest with
          | error refusal =>
            rw [hrest] at hok
            exact absurd hok (by simp only [Except.map, reduceCtorEq, not_false_eq_true])
          | ok others =>
            rw [hrest, Except.map, Except.ok.injEq] at hok
            rcases (ih (SignerSet.soundFor_insert h index) others).1 hrest with
              ⟨hsigned, hnodup, hothers⟩
            -- To the others the signer is one that was seen.
            simp only [h.addresses_insert hpos hnew, List.mem_append, List.mem_singleton,
              not_or] at hothers
            rw [← hok]
            refine ⟨List.Forall₂.cons (Registry.signed_of_signer hsigner) hsigned,
              List.nodup_cons.2 ⟨fun hmem => (hothers signer hmem).2 rfl, hnodup⟩, ?_⟩
            intro account hmem
            rcases List.mem_cons.1 hmem with rfl | hmem
            · exact hseen
            · exact (hothers account hmem).1
    · -- The signers are given, so each signature leads to the one that is next.
      rintro ⟨hall, hnodup, hfresh⟩
      rcases List.forall₂_cons_left_iff.1 hall with ⟨signer, others, hsigned, hrest, rfl⟩
      rcases hsigned.exists_signer with ⟨index, hpos, hsigner⟩
      rw [List.nodup_cons] at hnodup
      have hseen : signer ∉ seen.addresses registry := hfresh signer List.mem_cons_self
      have hnew := fun hmem => hseen ((SignerSet.SoundFor.mem_addresses_iff hpos).2 hmem)
      rw [verifySigners_cons h hsigner, if_neg hseen,
        (ih (SignerSet.soundFor_insert h index) others).2 ⟨hrest, hnodup.2, ?_⟩]
      · rfl
      · intro account hmem
        rw [h.addresses_insert hpos hnew, List.mem_append, List.mem_singleton, not_or]
        refine ⟨hfresh account (List.mem_cons_of_mem signer hmem), ?_⟩
        rintro rfl
        exact hnodup.1 hmem

/-- What verification accepts: the message carries an instruction, and as many
    distinct authorities as the threshold asks for have signed it. -/
theorem verify_eq_ok_iff (registry : Registry) (signatures : List Signature)
    (message : List UInt8) (verified : VerifiedMessage) :
    verify registry signatures message = .ok verified ↔
      Instruction.decode message = .ok verified.instruction ∧
        verified.messageHash = messageHash message ∧
        List.Forall₂ (registry.Signed message) signatures verified.signers ∧
        verified.signers.Nodup ∧ registry.threshold ≤ verified.signers.length := by
  -- Nobody was seen before the walk, so all that is asked for is distinct signers.
  have hwalk : ∀ signers, verifySigners registry message registry.signers signatures =
      .ok signers ↔ List.Forall₂ (registry.Signed message) signatures signers ∧
        signers.Nodup := by
    intro signers
    have hnobody : registry.signers.addresses registry = [] := rfl
    rw [verifySigners_eq_ok_iff (SignerSet.soundFor_signers registry), hnobody]
    simp only [List.not_mem_nil, not_false_eq_true, implies_true, and_true]
  unfold verify
  cases hdecode : Instruction.decode message with
  | error refusal => simp only [reduceCtorEq, false_and]
  | ok instruction =>
    simp only [Except.ok.injEq]
    cases hsigners : verifySigners registry message registry.signers signatures with
    | error refusal =>
      simp only [reduceCtorEq, false_iff]
      rintro ⟨_, _, hall, hnodup, _⟩
      rw [(hwalk verified.signers).2 ⟨hall, hnodup⟩] at hsigners
      exact absurd hsigners (by simp only [reduceCtorEq, not_false_eq_true])
    | ok signers =>
      -- Whom the walk has found only has to be counted.
      have hfound := (hwalk signers).1 hsigners
      simp only
      constructor
      · intro hok
        by_cases hfew : signers.length < registry.threshold
        · rw [if_pos hfew] at hok
          exact absurd hok (by simp only [reduceCtorEq, not_false_eq_true])
        · rw [if_neg hfew, Except.ok.injEq] at hok
          rw [← hok]
          exact ⟨rfl, rfl, hfound.1, hfound.2, Nat.le_of_not_lt hfew⟩
      · rintro ⟨hinstruction, hhash, hall, hnodup, henough⟩
        -- The walk has one answer, so these signers are the ones it found.
        have hsame : verified.signers = signers := by
          have := (hwalk verified.signers).2 ⟨hall, hnodup⟩
          rw [hsigners, Except.ok.injEq] at this
          exact this.symm
        rw [hsame] at henough
        rw [if_neg (Nat.not_lt.2 henough), hinstruction, ← hhash, ← hsame]

/-- The only thing that is said about a fee is that the value does not cover
    it. -/
theorem Gate.fee_error {gate : Gate} {x : Instruction} {refusal : Refusal}
    (h : gate.fee x = .error refusal) :
    ∃ fee, refusal = .insufficientValueForRelayFee x.value fee := by
  unfold fee at h
  simp only at h
  split at h
  · exact ⟨_, (Except.error.inj h).symm⟩
  · exact absurd h (by simp only [reduceCtorEq, not_false_eq_true])

theorem Gate.plan_error {gate : Gate} {verified : VerifiedMessage} {relayer : Address}
    {refusal : Refusal} (h : gate.plan verified relayer = .error refusal) :
    gate.fee verified.instruction = .error refusal := by
  unfold plan at h
  cases hfee : gate.fee verified.instruction with
  | error reason =>
    rw [hfee, Except.error.injEq] at h
    rw [h]
  | ok fee =>
    rw [hfee] at h
    exact absurd h (by simp only [reduceCtorEq, not_false_eq_true])

/-- What can be said about an instruction that is in order and is not paid. -/
def Instruction.Unpaid (x : Instruction) (refusal : Refusal) : Prop :=
  refusal = .alreadyExecuted x.transaction ∨
    (∃ fee, refusal = .insufficientValueForRelayFee x.value fee) ∨
    ∃ fault, refusal = .ledger fault

/-- What a relayer who brings a verified message can be told: that it was
    executed already, that its value does not cover the fee, or that the ledger
    refuses. -/
theorem Gate.execute_refusal {σ : Type} [Treasury σ] {gate : Gate} {treasury : σ}
    {registry : Registry} {signatures : List Signature} {message : List UInt8}
    {relayer : Address} {verified : VerifiedMessage} {refusal : Refusal}
    (hverify : verify registry signatures message = .ok verified)
    (h : (gate.execute treasury registry signatures message relayer).1 = .error refusal) :
    verified.instruction.Unpaid refusal := by
  rw [execute, hverify] at h
  -- Verification has passed, so what is left is the settlement.
  rcases settle_refusal h with hreplayed | hplan | hledger
  · exact Or.inl hreplayed
  · exact Or.inr (Or.inl (fee_error (plan_error hplan)))
  · exact Or.inr (Or.inr hledger)

/-- The home side answers what its gate answers. -/
theorem Home.withdraw_result (home : Home) (replays : ReplayGuard)
    (signatures : List Signature) (message : List UInt8) (relayer : Address) :
    (home.withdraw replays signatures message relayer).result =
      (home.gate.execute (Books.mk replays home.ledger) home.registry signatures message
        relayer).1 := by
  unfold withdraw Gate.execute
  -- The home side and its gate differ in what they record, not in what they answer.
  cases verify home.registry signatures message with
  | error refusal => rfl
  | ok verified =>
    simp only
    rcases home.gate.release (Books.mk replays home.ledger) verified relayer with
      ⟨refusal | withdrawal, books⟩
    · rfl
    · rfl

end QuorumBridge
