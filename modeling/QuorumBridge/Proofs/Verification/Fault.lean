import QuorumBridge.Proofs.Verification

/-!
# What is not verified

The first thing that is wrong with a signed message.

A message is refused for one reason, although several may apply, and relayers
act on the reason they are told. Which one it is follows from the order of the
checks: the length of the message, then the signatures from the left to the
right, then their number. This module says so without the walk.

A list of signatures has its first fault at the place where what stands before
it is in order, distinct authorities one for each signature, and the signature
at the place is not. It may lead to nobody, to somebody who is no authority, or
to an authority that has signed before (`Registry.Faulty`). Whatever stands
behind the place makes no difference.

Together with `verify_eq_ok_iff` this leaves nothing open: each signed message
is accepted or has one of these faults.

## Main definitions

* `Registry.Faulty`: What can be wrong with one signature.
* `Registry.FirstFault`: What is wrong first with a list of signatures.
* `Registry.Unverified`: What is wrong first with a signed message.

## Theorems

* `verifySigners_eq_error_iff`: The walk stops at the first fault.
* `verify_eq_error_iff`: Verification names what is wrong first.
-/

namespace QuorumBridge

namespace Registry

/-- What can be wrong with a signature that comes behind those of `seen`. -/
inductive Faulty (registry : Registry) (message : List UInt8) (seen : List Address)
    (signature : Signature) : Refusal → Prop
  | unrecoverable {fault : SignatureFault} (hsigner : signature.signer message = .error fault) :
      Faulty registry message seen signature (.invalidSignature fault)
  | stranger {signer : Address} (hsigner : signature.signer message = .ok signer)
      (hout : signer ∉ registry.authorities) :
      Faulty registry message seen signature (.signerNotAuthority signer)
  | repeated {signer : Address} (hsigned : registry.Signed message signature signer)
      (hseen : signer ∈ seen) :
      Faulty registry message seen signature (.duplicateSignature signer)

/-- What is wrong first with a list of signatures: those before the place are of
    distinct authorities, and the one at the place is faulty. -/
inductive FirstFault (registry : Registry) (message : List UInt8) :
    List Signature → Refusal → Prop
  | at {before after : List Signature} {signers : List Address} {signature : Signature}
      {refusal : Refusal} (hbefore : List.Forall₂ (registry.Signed message) before signers)
      (hnodup : signers.Nodup) (hfaulty : registry.Faulty message signers signature refusal) :
      FirstFault registry message (before ++ signature :: after) refusal

/-- What is wrong first with a signed message. -/
inductive Unverified (registry : Registry) (signatures : List Signature)
    (message : List UInt8) : Refusal → Prop
  | length (hlength : message.length ≠ Instruction.messageLength) :
      Unverified registry signatures message (Instruction.lengthRefusal message.length)
  | signature (hlength : message.length = Instruction.messageLength) {refusal : Refusal}
      (hfault : registry.FirstFault message signatures refusal) :
      Unverified registry signatures message refusal
  | few (hlength : message.length = Instruction.messageLength) {signers : List Address}
      (hsigned : List.Forall₂ (registry.Signed message) signatures signers)
      (hnodup : signers.Nodup) (hfew : signers.length < registry.threshold) :
      Unverified registry signatures message
        (.insufficientSignatures signers.length registry.threshold)

/-- The authority of a signature is refused where the signature is faulty on its
    own, whoever has signed before. -/
theorem faulty_of_signer {registry : Registry} {message : List UInt8} {signature : Signature}
    {refusal : Refusal} (h : registry.signer signature message = .error refusal)
    (seen : List Address) : registry.Faulty message seen signature refusal := by
  unfold signer at h
  cases hsigner : signature.signer message with
  | error fault =>
    rw [hsigner] at h
    rw [← Except.error.inj h]
    exact .unrecoverable hsigner
  | ok found =>
    rw [hsigner] at h
    simp only at h
    cases hpos : registry.position? found with
    | none =>
      rw [hpos] at h
      rw [← Except.error.inj h]
      -- Only authorities have positions.
      exact .stranger hsigner ((registry.position?_eq_none_iff found).1 hpos)
    | some index =>
      rw [hpos] at h
      exact absurd h (by simp only [reduceCtorEq, not_false_eq_true])

end Registry

variable {registry : Registry} {message : List UInt8} {seen : SignerSet}

/-- A faulty signature stops the walk at once. -/
theorem verifySigners_of_faulty (h : seen.SoundFor registry) {signature : Signature}
    {refusal : Refusal}
    (hfaulty : registry.Faulty message (seen.addresses registry) signature refusal)
    (after : List Signature) :
    verifySigners registry message seen (signature :: after) = .error refusal := by
  -- The three faults are told in this order: no signer, a stranger, a repetition.
  cases hfaulty with
  | unrecoverable hsigner =>
    rw [verifySigners, Registry.signer, hsigner]
  | stranger hsigner hout =>
    have hpos := (registry.position?_eq_none_iff _).2 hout
    rw [verifySigners, Registry.signer, hsigner]
    simp only [hpos]
  | repeated hsigned hseen =>
    rcases hsigned.exists_signer with ⟨index, _, hsigner⟩
    rw [verifySigners_cons h hsigner, if_pos hseen]

/-- Signatures of distinct authorities, none of whom was seen, do not stop the
    walk, so it comes to what stands behind them. -/
theorem verifySigners_of_fault (h : seen.SoundFor registry) {before after : List Signature}
    {signers : List Address} {signature : Signature} {refusal : Refusal}
    (hbefore : List.Forall₂ (registry.Signed message) before signers) (hnodup : signers.Nodup)
    (hfresh : ∀ account ∈ signers, account ∉ seen.addresses registry)
    (hfaulty : registry.Faulty message (seen.addresses registry ++ signers) signature refusal) :
    verifySigners registry message seen (before ++ signature :: after) = .error refusal := by
  induction hbefore generalizing seen with
  | nil =>
    rw [List.append_nil] at hfaulty
    exact verifySigners_of_faulty h hfaulty after
  | @cons first signer rest others hsigned hrest ih =>
    rcases hsigned.exists_signer with ⟨index, hpos, hsigner⟩
    have hseen := hfresh signer List.mem_cons_self
    have hnew := fun hmem => hseen ((SignerSet.SoundFor.mem_addresses_iff hpos).2 hmem)
    -- Its signer is new and is seen from here on, so the rest is walked with one more account
    -- seen.
    have hgrown := h.addresses_insert hpos hnew
    rw [List.nodup_cons] at hnodup
    have htail : verifySigners registry message (seen.insert index).2
        (rest ++ signature :: after) = .error refusal := by
      refine ih (SignerSet.soundFor_insert h index) hnodup.2 ?_ ?_
      · intro account hmem
        rw [hgrown, List.mem_append, List.mem_singleton, not_or]
        refine ⟨hfresh account (List.mem_cons_of_mem signer hmem), ?_⟩
        rintro rfl
        exact hnodup.1 hmem
      · rw [hgrown, List.append_assoc]
        exact hfaulty
    rw [List.cons_append, verifySigners_cons h hsigner, if_neg hseen, htail]
    rfl

/-- Where the walk stops there is a fault, and none before it. -/
theorem verifySigners_error (h : seen.SoundFor registry) {signatures : List Signature}
    {refusal : Refusal}
    (herror : verifySigners registry message seen signatures = .error refusal) :
    ∃ before signature after signers, signatures = before ++ signature :: after ∧
      List.Forall₂ (registry.Signed message) before signers ∧ signers.Nodup ∧
      (∀ account ∈ signers, account ∉ seen.addresses registry) ∧
      registry.Faulty message (seen.addresses registry ++ signers) signature refusal := by
  induction signatures generalizing seen with
  | nil => exact absurd herror (by simp only [verifySigners, reduceCtorEq, not_false_eq_true])
  | cons first rest ih =>
    cases hsigner : registry.signer first message with
    | error reason =>
      rw [verifySigners, hsigner] at herror
      rw [← Except.error.inj herror]
      exact ⟨[], first, rest, [], rfl, .nil, List.nodup_nil,
        fun account hmem => absurd hmem List.not_mem_nil,
        Registry.faulty_of_signer hsigner _⟩
    | ok found =>
      rcases found with ⟨index, signer⟩
      have hpos := ((registry.signer_eq_ok_iff _ _ _ _).1 hsigner).2
      have hsigned := Registry.signed_of_signer hsigner
      rw [verifySigners_cons h hsigner] at herror
      by_cases hseen : signer ∈ seen.addresses registry
      · rw [if_pos hseen] at herror
        rw [← Except.error.inj herror]
        refine ⟨[], first, rest, [], rfl, .nil, List.nodup_nil,
          fun account hmem => absurd hmem List.not_mem_nil, .repeated hsigned ?_⟩
        exact List.mem_append_left [] hseen
      · rw [if_neg hseen] at herror
        have hnew := fun hmem => hseen ((SignerSet.SoundFor.mem_addresses_iff hpos).2 hmem)
        have hgrown := h.addresses_insert hpos hnew
        cases hrest : verifySigners registry message (seen.insert index).2 rest with
        | ok others =>
          rw [hrest] at herror
          exact absurd herror (by simp only [Except.map, reduceCtorEq, not_false_eq_true])
        | error reason =>
          rw [hrest, Except.map, Except.error.injEq] at herror
          rw [herror] at hrest
          rcases ih (SignerSet.soundFor_insert h index) hrest with
            ⟨before, signature, after, signers, rfl, hbefore, hnodup, hfresh, hfaulty⟩
          -- To what comes later the first signer is one that was seen.
          simp only [hgrown, List.mem_append, List.mem_singleton, not_or] at hfresh
          rw [hgrown, List.append_assoc] at hfaulty
          refine ⟨first :: before, signature, after, signer :: signers, rfl,
            .cons hsigned hbefore, List.nodup_cons.2 ⟨fun hmem => (hfresh signer hmem).2 rfl,
              hnodup⟩, ?_, hfaulty⟩
          intro account hmem
          rcases List.mem_cons.1 hmem with rfl | hmem
          · exact hseen
          · exact (hfresh account hmem).1

/-- From nobody on, the walk stops exactly at the first fault. -/
theorem verifySigners_eq_error_iff (registry : Registry) (message : List UInt8)
    (signatures : List Signature) (refusal : Refusal) :
    verifySigners registry message registry.signers signatures = .error refusal ↔
      registry.FirstFault message signatures refusal := by
  have hsound := SignerSet.soundFor_signers registry
  have hnobody : registry.signers.addresses registry = [] := rfl
  constructor
  · intro herror
    rcases verifySigners_error hsound herror with
      ⟨before, signature, after, signers, rfl, hbefore, hnodup, _, hfaulty⟩
    -- Whoever was seen has signed in front of the fault.
    rw [hnobody, List.nil_append] at hfaulty
    exact .at hbefore hnodup hfaulty
  · rintro ⟨hbefore, hnodup, hfaulty⟩
    refine verifySigners_of_fault hsound hbefore hnodup ?_ ?_
    · intro account _
      rw [hnobody]
      exact List.not_mem_nil
    · rw [hnobody, List.nil_append]
      exact hfaulty

theorem Instruction.decode_error {message : List UInt8} {refusal : Refusal}
    (h : Instruction.decode message = .error refusal) :
    message.length ≠ Instruction.messageLength ∧
      refusal = Instruction.lengthRefusal message.length := by
  unfold decode at h
  by_cases hlength : message.length = messageLength
  · rw [dif_pos hlength] at h
    exact absurd h (by simp only [reduceCtorEq, not_false_eq_true])
  · rw [dif_neg hlength] at h
    exact ⟨hlength, (Except.error.inj h).symm⟩

theorem unverified_of_verify {signatures : List Signature} {refusal : Refusal}
    (h : verify registry signatures message = .error refusal) :
    registry.Unverified signatures message refusal := by
  unfold verify at h
  cases hdecode : Instruction.decode message with
  | error reason =>
    rcases Instruction.decode_error hdecode with ⟨hlength, rfl⟩
    rw [hdecode] at h
    rw [← Except.error.inj h]
    exact .length hlength
  | ok instruction =>
    have hlength := (Instruction.exists_decode_iff message).1 ⟨_, hdecode⟩
    rw [hdecode] at h
    simp only at h
    cases hwalk : verifySigners registry message registry.signers signatures with
    | error reason =>
      rw [hwalk] at h
      rw [← Except.error.inj h]
      exact .signature hlength ((verifySigners_eq_error_iff _ _ _ _).1 hwalk)
    | ok signers =>
      rcases (verifySigners_eq_ok_iff (SignerSet.soundFor_signers registry)
        signatures signers).1 hwalk with ⟨hsigned, hnodup, _⟩
      rw [hwalk] at h
      simp only at h
      -- The walk has passed, so there can only be too few.
      by_cases hfew : signers.length < registry.threshold
      · rw [if_pos hfew] at h
        rw [← Except.error.inj h]
        exact .few hlength hsigned hnodup hfew
      · rw [if_neg hfew] at h
        exact absurd h (by simp only [reduceCtorEq, not_false_eq_true])

theorem verify_of_unverified {signatures : List Signature} {refusal : Refusal}
    (h : registry.Unverified signatures message refusal) :
    verify registry signatures message = .error refusal := by
  cases h with
  | length hlength =>
    rw [verify, Instruction.decode, dif_neg hlength]
  | signature hlength hfault =>
    rcases (Instruction.exists_decode_iff message).2 hlength with ⟨instruction, hdecode⟩
    rw [verify, hdecode, (verifySigners_eq_error_iff _ _ _ _).2 hfault]
  | few hlength hsigned hnodup hfew =>
    rcases (Instruction.exists_decode_iff message).2 hlength with ⟨instruction, hdecode⟩
    -- The walk goes through and finds too few.
    have hwalk := (verifySigners_eq_ok_iff (SignerSet.soundFor_signers registry) _ _).2
      ⟨hsigned, hnodup, fun _ _ => List.not_mem_nil⟩
    rw [verify, hdecode, hwalk]
    exact if_pos hfew

/-- Verification is refused exactly for what is wrong first. -/
theorem verify_eq_error_iff (registry : Registry) (signatures : List Signature)
    (message : List UInt8) (refusal : Refusal) :
    verify registry signatures message = .error refusal ↔
      registry.Unverified signatures message refusal :=
  ⟨unverified_of_verify, verify_of_unverified⟩

end QuorumBridge
