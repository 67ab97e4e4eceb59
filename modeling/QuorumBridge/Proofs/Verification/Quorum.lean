import Mathlib.Data.List.Perm.Subperm
import Mathlib.Data.Prod.Basic
import QuorumBridge.Proofs.Verification.Fault

/-!
# Enough signatures

Verification accepts the quorums, whatever order they come in.

The walk along the signatures has an order: it stops at the first that does not
fit, and whether one fits depends on those before it. What it accepts has none.
The addresses that the signatures lead to are distinct authorities and there
are enough of them, and this can be said of a list without walking along it
(`Registry.Quorum`). So a relayer may bring the signatures of a bundle in any
order, and may leave out those it does not need.

A relayer may not add to them. One signature that leads to nobody, to a
stranger or to somebody who has signed already spoils a quorum, wherever it is
put. For the first two the walk stops where the signature stands. A repeated
signer may be met at its other signature, if that one stands further back, but
it is the same address that is named.

## Main definitions

* `Registry.Quorum`: Signatures of enough distinct authorities.
* `Registry.AcceptsQuorums`: Verification accepts these and nothing else.

## Theorems

* `Registry.forall₂_signed_iff`: Signatures of authorities, place by place and
  as a whole.
* `Registry.verify_eq_ok_iff_quorum`: What is accepted is a quorum.
* `Registry.Quorum.perm`, `Registry.Quorum.sublist`: Neither the order of
  signatures nor their surplus makes a difference.
* `Registry.Quorum.spoiled`: One faulty signature does.
* `Registry.accepts_quorums`: All of this for every registry and message.
-/

namespace QuorumBridge

/-- Of two lists kept in step, whoever leaves out places of the one can leave out
    the same places of the other. -/
theorem exists_forall₂_of_sublist {α β : Type} {R : α → β → Prop} {l₁ l₂ : List α} {u₂ : List β}
    (hsublist : l₁.Sublist l₂) (h : List.Forall₂ R l₂ u₂) :
    ∃ u₁, List.Forall₂ R l₁ u₁ ∧ u₁.Sublist u₂ := by
  -- The induction follows how the shorter list leaves out places. The other list leaves out the
  -- same ones.
  induction hsublist generalizing u₂ with
  | slnil => exact ⟨[], .nil, List.nil_sublist u₂⟩
  | cons a _ ih =>
    rcases List.forall₂_cons_left_iff.1 h with ⟨b, rest, _, hrest, rfl⟩
    rcases ih hrest with ⟨u₁, hu, hkept⟩
    exact ⟨u₁, hu, hkept.cons b⟩
  | cons_cons a _ ih =>
    rcases List.forall₂_cons_left_iff.1 h with ⟨b, rest, hab, hrest, rfl⟩
    rcases ih hrest with ⟨u₁, hu, hkept⟩
    exact ⟨b :: u₁, .cons hab hu, hkept.cons_cons b⟩

namespace Registry

/-- Signatures over a message of enough distinct authorities, with the signers
    in the order of the signatures. -/
structure Quorum (registry : Registry) (message : List UInt8) (signatures : List Signature)
    (signers : List Address) : Prop where
  /-- Every signature leads to an address, and these are the signers. -/
  recovered : signatures.map (fun signature => signature.signer message) = signers.map .ok
  nodup : signers.Nodup
  registered : ∀ signer ∈ signers, signer ∈ registry.authorities
  enough : registry.threshold ≤ signers.length

variable {registry : Registry} {message : List UInt8}

/-- Each signature is that of the authority at its place exactly if the
    signatures lead to the signers and all of these are authorities. -/
theorem forall₂_signed_iff (registry : Registry) (message : List UInt8)
    (signatures : List Signature) (signers : List Address) :
    List.Forall₂ (registry.Signed message) signatures signers ↔
      signatures.map (fun signature => signature.signer message) = signers.map .ok ∧
        ∀ signer ∈ signers, signer ∈ registry.authorities := by
  induction signatures generalizing signers with
  | nil =>
    rw [List.forall₂_nil_left_iff, List.map_nil, eq_comm (a := []), List.map_eq_nil_iff]
    constructor
    · rintro rfl
      exact ⟨rfl, fun signer hmem => absurd hmem List.not_mem_nil⟩
    · exact fun h => h.1
  | cons signature rest ih =>
    cases signers with
    | nil => simp only [List.forall₂_nil_right_iff, List.map_cons, List.map_nil, reduceCtorEq,
        false_and]
    | cons signer others =>
      -- The pairs at the front and those behind are each split into the two halves.
      rw [List.forall₂_cons, ih others, Signed]
      simp only [List.map_cons, List.cons.injEq, List.forall_mem_cons]
      tauto

/-- Verification accepts quorums over messages of the right length, and reads
    the instruction off the message. -/
theorem verify_eq_ok_iff_quorum (registry : Registry) (signatures : List Signature)
    (message : List UInt8) (verified : VerifiedMessage) :
    verify registry signatures message = .ok verified ↔
      registry.Quorum message signatures verified.signers ∧
        Instruction.decode message = .ok verified.instruction ∧
        verified.messageHash = messageHash message := by
  rw [verify_eq_ok_iff, forall₂_signed_iff]
  constructor
  · rintro ⟨hdecode, hhash, ⟨hrecovered, hregistered⟩, hnodup, henough⟩
    exact ⟨⟨hrecovered, hnodup, hregistered, henough⟩, hdecode, hhash⟩
  · rintro ⟨hquorum, hdecode, hhash⟩
    exact ⟨hdecode, hhash, ⟨hquorum.recovered, hquorum.registered⟩, hquorum.nodup,
      hquorum.enough⟩

section Quorum

variable {signatures others : List Signature} {signers : List Address}

theorem Quorum.forall₂_signed (h : registry.Quorum message signatures signers) :
    List.Forall₂ (registry.Signed message) signatures signers :=
  (forall₂_signed_iff _ _ _ _).2 ⟨h.recovered, h.registered⟩

theorem Quorum.length_signers (h : registry.Quorum message signatures signers) :
    signers.length = signatures.length :=
  h.forall₂_signed.length_eq.symm

/-- Distinct authorities are at most all of them. -/
theorem Quorum.length_le_size (h : registry.Quorum message signatures signers) :
    signers.length ≤ registry.size :=
  (List.subperm_of_subset h.nodup h.registered).length_le

/-- Whom each signature belongs to can be told from the signatures alone. -/
theorem Quorum.map_zip (h : registry.Quorum message signatures signers) :
    (signatures.zip signers).map (Prod.map id .ok) =
      signatures.map fun signature => (signature, signature.signer message) := by
  have hzip := List.zip_map' (f := id) (g := fun signature => signature.signer message)
    (l := signatures)
  rw [List.map_id, h.recovered, List.zip_map_right] at hzip
  exact hzip

/-- The signatures of a quorum in another order are a quorum, and each belongs
    to whom it belonged before. -/
theorem Quorum.perm (h : registry.Quorum message signatures signers)
    (hperm : others.Perm signatures) :
    ∃ reordered, registry.Quorum message others reordered ∧
      (others.zip reordered).Perm (signatures.zip signers) := by
  rcases List.perm_comp_forall₂ hperm h.forall₂_signed with ⟨reordered, hsigned, hsigners⟩
  rcases (forall₂_signed_iff _ _ _ _).1 hsigned with ⟨hrecovered, hregistered⟩
  have hquorum : registry.Quorum message others reordered :=
    ⟨hrecovered, hsigners.nodup_iff.2 h.nodup, hregistered, hsigners.length_eq.symm ▸ h.enough⟩
  -- Both pairings are one function of their signatures, and these are the same but for the order.
  have hpaired := hperm.map fun signature => (signature, signature.signer message)
  rw [← hquorum.map_zip, ← h.map_zip] at hpaired
  have hinjective : Function.Injective
      (Prod.map id .ok : Signature × Address → Signature × Except SignatureFault Address) :=
    Function.injective_id.prodMap (fun _ _ hsame => Except.ok.inj hsame)
  exact ⟨reordered, hquorum, (List.map_perm_map_iff hinjective).1 hpaired⟩

/-- Enough of the signatures of a quorum are a quorum. -/
theorem Quorum.sublist (h : registry.Quorum message signatures signers)
    (hsublist : others.Sublist signatures) (henough : registry.threshold ≤ others.length) :
    ∃ remaining, registry.Quorum message others remaining ∧ remaining.Sublist signers := by
  rcases exists_forall₂_of_sublist hsublist h.forall₂_signed with ⟨remaining, hsigned, hkept⟩
  rcases (forall₂_signed_iff _ _ _ _).1 hsigned with ⟨hrecovered, hregistered⟩
  rw [hsigned.length_eq] at henough
  exact ⟨remaining, ⟨hrecovered, h.nodup.sublist hkept, hregistered, henough⟩, hkept⟩

/-- A faulty signature spoils a quorum wherever it is put, and what is wrong with
    it is what is said. -/
theorem Quorum.spoiled {front back : List Signature} {signature : Signature}
    {refusal : Refusal} (h : registry.Quorum message (front ++ back) signers)
    (hlength : message.length = Instruction.messageLength)
    (hfaulty : registry.Faulty message signers signature refusal) :
    verify registry (front ++ signature :: back) message = .error refusal := by
  have hfront := List.forall₂_take front.length h.forall₂_signed
  have hback := List.forall₂_drop front.length h.forall₂_signed
  rw [List.take_left] at hfront
  rw [List.drop_left] at hback
  have hnodup := h.nodup
  rw [← List.take_append_drop front.length signers] at hnodup hfaulty
  generalize signers.take front.length = first at hfront hnodup hfaulty
  generalize signers.drop front.length = second at hback hnodup hfaulty
  have hfirst := hnodup.sublist (List.sublist_append_left first second)
  refine verify_of_unverified (.signature hlength ?_)
  cases hfaulty with
  | unrecoverable hsigner => exact .at hfront hfirst (.unrecoverable hsigner)
  | stranger hsigner hout => exact .at hfront hfirst (.stranger hsigner hout)
  | @repeated signer hsigned hseen =>
    rcases List.mem_append.1 hseen with hbefore | hbehind
    · exact .at hfront hfirst (.repeated hsigned hbefore)
    · -- The signer comes first now, so the walk goes on to where it stood before.
      rcases List.append_of_mem hbehind with ⟨between, after, rfl⟩
      have hbetween := List.forall₂_take_append back between (signer :: after) hback
      have hafter := List.forall₂_drop_append back between (signer :: after) hback
      rcases List.forall₂_cons_right_iff.1 hafter with ⟨again, rest, hagain, _, hrest⟩
      have hlist : front ++ signature :: back =
          (front ++ signature :: back.take between.length) ++ again :: rest := by
        rw [← hrest, List.append_assoc, List.cons_append, List.take_append_drop]
      have hdistinct : (first ++ signer :: between).Nodup := by
        have hsub : (first ++ (between ++ [signer])).Sublist
            (first ++ (between ++ signer :: after)) :=
          List.Sublist.append_left (List.Sublist.append_left
            (List.cons_sublist_cons.2 (List.nil_sublist after)) between) first
        exact ((List.perm_append_singleton signer between).append_left first).nodup_iff.1
          (hnodup.sublist hsub)
      rw [hlist]
      exact .at (List.rel_append hfront (.cons hsigned hbetween)) hdistinct
        (.repeated hagain (List.mem_append_right first List.mem_cons_self))

end Quorum

/-- A signature that leads to no authority but those who have signed is faulty
    behind them. -/
theorem exists_faulty {signers : List Address} {signature : Signature}
    (h : ∀ signer, signature.signer message = .ok signer →
      signer ∈ registry.authorities → signer ∈ signers) :
    ∃ refusal, registry.Faulty message signers signature refusal := by
  cases hsigner : signature.signer message with
  | error fault => exact ⟨_, .unrecoverable hsigner⟩
  | ok signer =>
    by_cases hregistered : signer ∈ registry.authorities
    · exact ⟨_, .repeated ⟨hsigner, hregistered⟩ (h signer hsigner hregistered)⟩
    · exact ⟨_, .stranger hsigner hregistered⟩

/-- Verification of signatures over a message accepts the quorums and nothing
    else. -/
structure AcceptsQuorums (registry : Registry) (message : List UInt8) : Prop where
  /-- It accepts a message of the right length with a quorum of signatures. -/
  exists_iff : ∀ signatures, (∃ verified, verify registry signatures message = .ok verified) ↔
    message.length = Instruction.messageLength ∧
      ∃ signers, registry.Quorum message signatures signers
  /-- What comes back is who has signed, in the order of the signatures, with the
      instruction and the name of the message. -/
  accepts_iff : ∀ signatures verified, verify registry signatures message = .ok verified ↔
    registry.Quorum message signatures verified.signers ∧
      Instruction.decode message = .ok verified.instruction ∧
      verified.messageHash = messageHash message
  /-- Each signature has one signer, and there are no more of them than
      authorities. -/
  bounds : ∀ signatures verified, verify registry signatures message = .ok verified →
    verified.signers.length = signatures.length ∧
      registry.threshold ≤ verified.signers.length ∧ verified.signers.length ≤ registry.size
  /-- In another order the same signatures are accepted, each as that of the same
      signer. -/
  reordered : ∀ signatures others verified, verify registry signatures message = .ok verified →
    others.Perm signatures → ∃ signers,
      verify registry others message = .ok { verified with signers } ∧
        (others.zip signers).Perm (signatures.zip verified.signers)
  /-- Enough of them are accepted without the others. -/
  shortened : ∀ signatures others verified, verify registry signatures message = .ok verified →
    others.Sublist signatures → registry.threshold ≤ others.length → ∃ signers,
      verify registry others message = .ok { verified with signers } ∧
        signers.Sublist verified.signers
  /-- With a signature in between that leads to nobody new among the authorities
      they are refused for what is wrong with it. -/
  spoiled : ∀ front back signature verified,
    verify registry (front ++ back) message = .ok verified →
      (∀ signer, signature.signer message = .ok signer →
        signer ∈ registry.authorities → signer ∈ verified.signers) →
        ∃ refusal, registry.Faulty message verified.signers signature refusal ∧
          verify registry (front ++ signature :: back) message = .error refusal

/-- Every registry accepts the quorums over every message. -/
theorem accepts_quorums (registry : Registry) (message : List UInt8) :
    registry.AcceptsQuorums message := by
  have haccepts := fun signatures verified =>
    verify_eq_ok_iff_quorum registry signatures message verified
  have hlength := Instruction.exists_decode_iff message
  refine ⟨?_, haccepts, ?_, ?_, ?_, ?_⟩
  · intro signatures
    constructor
    · rintro ⟨verified, hverify⟩
      rcases (haccepts signatures verified).1 hverify with ⟨hquorum, hdecode, _⟩
      exact ⟨hlength.1 ⟨_, hdecode⟩, _, hquorum⟩
    · rintro ⟨hright, signers, hquorum⟩
      -- A message of this length has an instruction, and with a quorum that is all it takes.
      rcases hlength.2 hright with ⟨instruction, hdecode⟩
      exact ⟨⟨instruction, messageHash message, signers⟩,
        (haccepts signatures _).2 ⟨hquorum, hdecode, rfl⟩⟩
  · intro signatures verified hverify
    have hquorum := ((haccepts signatures verified).1 hverify).1
    exact ⟨hquorum.length_signers, hquorum.enough, hquorum.length_le_size⟩
  · intro signatures others verified hverify hperm
    rcases (haccepts signatures verified).1 hverify with ⟨hquorum, hsaid⟩
    -- The signers follow their signatures, and what is said about the message is the same.
    rcases hquorum.perm hperm with ⟨signers, hreordered, hpaired⟩
    exact ⟨signers, (haccepts others _).2 ⟨hreordered, hsaid⟩, hpaired⟩
  · intro signatures others verified hverify hsublist henough
    rcases (haccepts signatures verified).1 hverify with ⟨hquorum, hsaid⟩
    rcases hquorum.sublist hsublist henough with ⟨signers, hshortened, hkept⟩
    exact ⟨signers, (haccepts others _).2 ⟨hshortened, hsaid⟩, hkept⟩
  · intro front back signature verified hverify hnobody
    rcases (haccepts _ verified).1 hverify with ⟨hquorum, hdecode, _⟩
    -- A signature of nobody is faulty wherever it stands, so the walk stops at it.
    rcases exists_faulty hnobody with ⟨refusal, hfaulty⟩
    exact ⟨refusal, hfaulty, hquorum.spoiled (hlength.1 ⟨_, hdecode⟩) hfaulty⟩

end Registry

end QuorumBridge
