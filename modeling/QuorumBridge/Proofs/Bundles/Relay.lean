import QuorumBridge.Proofs.Bundles.Step

/-!
# Collected bundles are accepted

What is collected on the foreign side passes on the home side.

The two sides check signatures in their own ways. The foreign side takes them
one at a time, under the name of their message, from accounts that say whose
they are. The home side is handed a list, trusts nothing that comes with it,
and computes all signers again. Were the two to disagree, value could be locked
on one side under a bundle that the other never accepts.

They agree because both come down to the same statement: distinct authorities,
as many as the threshold asks for, and one signature of each over the message.
The invariant of the collections is that statement for a closed bundle, and
`verify_eq_ok_iff` is that statement for the home side.

A run is any number of submissions, accepted or not, of any messages. Each is
kept beside its answer, since a bundle comes to light in two ways: in the answer
to the submission that closed it, and to whoever asks for it later.

## Main definitions

* `Submission`, `Receipt`: A signature that is handed in, and its answer.
* `Bundles.run`: The receipts of a run, and the collections after it.
* `Bundle.Relayable`: A bundle that the home side accepts.

## Theorems

* `Bundles.run_sound`: A run keeps the collections sound.
* `Bundles.receipt_run`: A bundle in a receipt is sound.
* `Collection.Sound.relayable`: A sound bundle can be relayed.
* `Bundles.relayable_run`: Every bundle that comes out of a run can be relayed.
-/

namespace QuorumBridge

/-- A signature over a message, handed in by `relayer` as that of `claimed`. -/
structure Submission where
  signature : Signature
  message : List UInt8
  claimed : Address
  relayer : Address
deriving DecidableEq

/-- A submission with its answer. -/
structure Receipt where
  submission : Submission
  result : Except Refusal SubmitOutcome

/-- A bundle is what it is called, passes on the home side with the signers it
    names, and can from then on only fail to be paid. -/
structure Bundle.Relayable (registry : Registry) (hash : Hash) (bundle : Bundle) : Prop where
  messageHash_eq : bundle.messageHash = hash
  /-- Verification finds the very signers that the bundle names. -/
  verified : ∃ x, Instruction.decode bundle.message = .ok x ∧
    verify registry bundle.signatures bundle.message =
      .ok ⟨x, bundle.messageHash, bundle.signers⟩
  /-- No home side of the same authorities turns it down for its signatures,
      whatever happened there before and whoever brings it. -/
  relay_refusal : ∀ (home : Home) (replays : ReplayGuard) (relayer : Address)
    (refusal : Refusal), home.registry = registry →
      (home.relay replays bundle relayer).result = .error refusal →
        ∃ x, Instruction.decode bundle.message = .ok x ∧ x.Unpaid refusal
  /-- Nor does any gate, whoever holds the value. -/
  execute_refusal : ∀ (σ : Type) [Treasury σ] (gate : Gate) (treasury : σ)
    (relayer : Address) (refusal : Refusal),
      (gate.execute treasury registry bundle.signatures bundle.message relayer).1 =
          .error refusal →
        ∃ x, Instruction.decode bundle.message = .ok x ∧ x.Unpaid refusal

/-- A sound bundle can be relayed. -/
theorem Collection.Sound.relayable {registry : Registry} {hash : Hash} {bundle : Bundle}
    (h : (Collection.collected bundle).Sound registry hash) : bundle.Relayable registry hash := by
  rcases (Instruction.exists_decode_iff bundle.message).2 h.length_message with ⟨x, hdecode⟩
  -- There are as many signers as signatures, and these are as many as it takes.
  have henough : registry.threshold ≤ bundle.signers.length := by
    have hlength := h.signed.length_eq
    have hstage := h.stage.2
    simp only [Collection.signatures, Collection.signers] at hlength
    omega
  -- The name was checked against the key, and the key against the message.
  have hname : bundle.messageHash = messageHash bundle.message := h.stage.1.trans h.named.symm
  have hverify : verify registry bundle.signatures bundle.message =
      .ok ⟨x, bundle.messageHash, bundle.signers⟩ :=
    (verify_eq_ok_iff registry bundle.signatures bundle.message _).2
      ⟨hdecode, hname, h.signed, h.nodup, henough⟩
  refine ⟨h.stage.1, ⟨x, hdecode, hverify⟩, ?_, ?_⟩
  · rintro home replays relayer refusal rfl hrelay
    rw [Home.relay, Home.withdraw_result] at hrelay
    exact ⟨x, hdecode, Gate.execute_refusal hverify hrelay⟩
  · intro σ _ gate treasury relayer refusal hexecute
    exact ⟨x, hdecode, Gate.execute_refusal hverify hexecute⟩

namespace Bundles

/-- The receipts of a run of submissions, and the collections after it. -/
def run (registry : Registry) : Bundles → List Submission → List Receipt × Bundles
  | book, [] => ([], book)
  | book, submission :: rest =>
    let answered := book.submit registry submission.signature submission.message
      submission.claimed submission.relayer
    let after := run registry answered.2 rest
    (⟨submission, answered.1⟩ :: after.1, after.2)

variable {registry : Registry} {book : Bundles}

theorem run_sound (h : book.Sound registry) (submissions : List Submission) :
    (run registry book submissions).2.Sound registry := by
  induction submissions generalizing book with
  | nil => exact h
  | cons submission rest ih =>
    exact ih (submit_sound h submission.signature submission.message submission.claimed
      submission.relayer)

/-- The bundle in a receipt of a run is sound, under the name of the message
    that was handed in. -/
theorem receipt_run (h : book.Sound registry) (submissions : List Submission)
    (receipt : Receipt) (hmem : receipt ∈ (run registry book submissions).1) (bundle : Bundle)
    (hresult : receipt.result = .ok (.collected bundle)) :
    (Collection.collected bundle).Sound registry (messageHash receipt.submission.message) := by
  induction submissions generalizing book with
  | nil => exact absurd hmem List.not_mem_nil
  | cons submission rest ih =>
    have hnext := submit_sound h submission.signature submission.message submission.claimed
      submission.relayer
    rcases List.mem_cons.1 hmem with rfl | hmem
    · exact submit_collected h hresult
    · -- A later receipt comes from the collections after this submission.
      exact ih hnext hmem

/-- A bundle that is found in sound collections is sound. -/
theorem Sound.collected? (h : book.Sound registry) {hash : Hash} {bundle : Bundle}
    (hfound : book.collected? hash = some bundle) :
    (Collection.collected bundle).Sound registry hash := by
  unfold Bundles.collected? at hfound
  split at hfound
  · rename_i found hget
    rw [Option.some.injEq] at hfound
    rw [← hfound]
    exact h hash _ hget
  · exact absurd hfound (by simp only [reduceCtorEq, not_false_eq_true])

/-- Every bundle that comes out of a run of submissions can be relayed, whether
    it is asked for by name or was the answer to the last signature. -/
theorem relayable_run (registry : Registry) (submissions : List Submission) :
    (∀ hash bundle, (run registry .empty submissions).2.collected? hash = some bundle →
        bundle.Relayable registry hash) ∧
      ∀ receipt ∈ (run registry .empty submissions).1, ∀ bundle,
        receipt.result = .ok (.collected bundle) →
          bundle.Relayable registry (messageHash receipt.submission.message) := by
  have hempty := sound_empty registry
  constructor
  · intro hash bundle hfound
    exact ((run_sound hempty submissions).collected? hfound).relayable
  · intro receipt hmem bundle hresult
    exact (receipt_run hempty submissions receipt hmem bundle hresult).relayable

/-- An account that decides alone. -/
def soleAuthority : Address :=
  ⟨bigEndian 20 0xf39fd6e51aad88f6f4ce6ab8827279cfffb92266, by decide⟩

/-- The registry of an account that decides alone. -/
def soleRegistry : Registry where
  authorities := [soleAuthority]
  threshold := 1
  nodup := List.nodup_singleton soleAuthority
  threshold_pos := Nat.one_pos
  threshold_le := Nat.le_refl 1

/-- Its signature over a message that asks for an amount of a hundred. -/
def soleSubmission : Submission where
  signature := .ofScalars
    0xeda9b12d13396200fceaae032af1cc67f76c0093da5bf0f715f30bf140790aff
    0x1576ea3a8de1fd469a8acbecf8cf6c7c30b47937ea1a1e5274a44e31f12996e1 true
  message := bigEndian 20 0xeeeeeeeeeeeeeeeeeeeeeeeeeeeeeeeeeeeeeeee ++
    (bigEndian 32 100 ++ (List.replicate 32 1 ++ bigEndian 32 0))
  claimed := soleAuthority
  relayer := soleAuthority

/-- An account that another one has to agree with. -/
def nextAuthority : Address :=
  ⟨bigEndian 20 0x70997970c51812dc3a010c7d01b50e0d17dc79c8, by decide⟩

theorem nodup_joint : [soleAuthority, nextAuthority].Nodup := by
  decide

/-- The registry of two accounts that decide together. -/
def jointRegistry : Registry where
  authorities := [soleAuthority, nextAuthority]
  threshold := 2
  nodup := nodup_joint
  threshold_pos := Nat.two_pos
  threshold_le := Nat.le_of_eq rfl

/-- The signature of the second account over the same message. -/
def nextSubmission : Submission where
  signature := .ofScalars
    0x86c01436311f09d4f02db018ed5db93a59fe9818da691a45c41bd44c7711e1c6
    0x486a87b1b0dfcbe3c8760c12675db3549cb442b2258df99295b8f88456f173fb true
  message := soleSubmission.message
  claimed := nextAuthority
  relayer := nextAuthority

set_option maxRecDepth 100000 in
/-- Two signatures close a bundle. They stand in it as they came, and that is not
    the order of the registry. -/
theorem relayable_run_joint : ∃ bundle,
    (run jointRegistry .empty [nextSubmission, soleSubmission]).2.collected?
        (messageHash soleSubmission.message) = some bundle ∧
      bundle.signers = [nextAuthority, soleAuthority] ∧
      bundle.signatures = [nextSubmission.signature, soleSubmission.signature] ∧
      bundle.Relayable jointRegistry (messageHash soleSubmission.message) := by
  -- The two signatures recover to the two authorities by computation. That the bundle can be
  -- relayed is not computed: it is the theorem at this run.
  have hclosed : ((run jointRegistry .empty [nextSubmission, soleSubmission]).2.collected?
      (messageHash soleSubmission.message)).map (fun bundle =>
        (bundle.signers, bundle.signatures)) =
      some ([nextAuthority, soleAuthority],
        [nextSubmission.signature, soleSubmission.signature]) := by decide +kernel
  rcases Option.map_eq_some_iff.1 hclosed with ⟨bundle, hbundle, hcontent⟩
  rw [Prod.mk.injEq] at hcontent
  exact ⟨bundle, hbundle, hcontent.1, hcontent.2,
    (relayable_run jointRegistry [nextSubmission, soleSubmission]).1 _ bundle hbundle⟩

end Bundles

end QuorumBridge
