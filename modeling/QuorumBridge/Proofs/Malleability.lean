import QuorumBridge.Proofs.Bundles.Record
import QuorumBridge.Proofs.Verification.Quorum

/-!
# One signature in many spellings

Whoever has seen a signature can write down another one that leads to the same
signer, without any key.

The last byte tells a parity, and either parity can be told by more than a
hundred bytes. Beyond that, the second scalar may be replaced by what it lacks
to the group order if the parity is turned over, which is the same point taken
with the opposite sign. Nothing of this can be kept from happening where a
signature is stored as it was handed in. What keeps an authority from being
counted twice is that the bytes are never compared: votes are counted by the
signer that is computed, and all spellings lead to one.

For a twin this rests on `normalize`. Of the two scalars that make up the group
order together exactly one is above the half, since the order is odd, and it is
that one which is replaced by the other. So both spellings are one from there on,
before the curve comes into it.

## Main definitions

* `Signature.r`, `Signature.s`, `Signature.v`: The three parts of a signature.
* `Signature.Twin`, `Signature.Respelled`: The two ways to spell one differently.
* `Signature.CountedOnce`: Of two signatures only one is counted.

## Theorems

* `Recovery.Scalars.normalize_twin`: Twins are one after they were normalized.
* `Signature.Variant.signer_eq`: All spellings lead to one signer.
* `exists_verify_error`: One signer at two places is not verified.
* `Bundles.submit_again`: One signer is not accepted twice.
* `Signature.counted_once`: Of two spellings only one is counted.
-/

namespace QuorumBridge

namespace Signature

/-- The first scalar of a signature. -/
def r (signature : Signature) : Nat :=
  fromBigEndian (signature.toList.take 32)

/-- The second scalar of a signature. -/
def s (signature : Signature) : Nat :=
  fromBigEndian ((signature.toList.drop 32).take 32)

/-- The last byte of a signature, which tells the parity. -/
def v (signature : Signature) : Nat :=
  fromBigEndian (signature.toList.drop 64)

/-- Two signatures with one first scalar whose second scalars make up the group
    order and whose last bytes tell opposite parities. -/
structure Twin (a b : Signature) : Prop where
  r_eq : b.r = a.r
  s_pos : 0 < a.s
  s_lt : a.s < Secp256k1.n
  s_eq : b.s = Secp256k1.n - a.s
  parity : ∃ odd, Recovery.parity a.v = .ok odd ∧ Recovery.parity b.v = .ok (!odd)

/-- Two signatures with the same scalars whose last bytes tell one parity. -/
structure Respelled (a b : Signature) : Prop where
  r_eq : b.r = a.r
  s_eq : b.s = a.s
  parity : ∃ odd, Recovery.parity a.v = .ok odd ∧ Recovery.parity b.v = .ok odd

/-- Two spellings of one signature. -/
def Variant (a b : Signature) : Prop :=
  a.Twin b ∨ a.Respelled b

variable {a b : Signature}

theorem Twin.symm (h : a.Twin b) : b.Twin a := by
  have hpos := h.s_pos
  have hlt := h.s_lt
  have hsum := h.s_eq
  rcases h.parity with ⟨odd, ha, hb⟩
  refine ⟨h.r_eq.symm, by omega, by omega, by omega, !odd, hb, ?_⟩
  rw [Bool.not_not]
  exact ha

theorem Respelled.symm (h : a.Respelled b) : b.Respelled a := by
  rcases h.parity with ⟨odd, ha, hb⟩
  exact ⟨h.r_eq.symm, h.s_eq.symm, odd, hb, ha⟩

theorem Variant.symm (h : a.Variant b) : b.Variant a :=
  h.imp Twin.symm Respelled.symm

theorem scalars_of_parity {odd : Bool} (h : Recovery.parity a.v = .ok odd) :
    Recovery.scalars a = .ok ⟨a.r, a.s, odd⟩ := by
  unfold v at h
  rw [Recovery.scalars, h]
  rfl

end Signature

namespace Recovery

/-- The difference to the group order does not wrap around below it. -/
theorem toNat_order_sub {s : Nat} (h : s < Secp256k1.n) :
    (BitVec.ofNat 256 Secp256k1.n - BitVec.ofNat 256 s).toNat = Secp256k1.n - s := by
  have horder : (BitVec.ofNat 256 Secp256k1.n).toNat = Secp256k1.n := by decide
  have hscalar : (BitVec.ofNat 256 s).toNat = s :=
    Nat.mod_eq_of_lt (Nat.lt_trans h (by decide))
  rw [BitVec.toNat_sub_of_le, horder, hscalar]
  rw [BitVec.le_def, horder, hscalar]
  exact Nat.le_of_lt h

/-- Twins are one after they were normalized. -/
theorem Scalars.normalize_twin {r s : Nat} {odd : Bool} (hpos : 0 < s)
    (hlt : s < Secp256k1.n) :
    normalize ⟨r, Secp256k1.n - s, !odd⟩ = normalize ⟨r, s, odd⟩ := by
  -- The order is odd, so exactly one of the two scalars is above its half.
  have hodd : Secp256k1.n % 2 = 1 := by decide
  by_cases habove : Secp256k1.n / 2 < s
  · have hbelow : ¬Secp256k1.n / 2 < Secp256k1.n - s := by omega
    simp only [normalize, if_pos habove, if_neg hbelow, toNat_order_sub hlt]
  · have htwin : Secp256k1.n / 2 < Secp256k1.n - s := by omega
    have hback : Secp256k1.n - (Secp256k1.n - s) = s := by omega
    simp only [normalize, if_neg habove, if_pos htwin,
      toNat_order_sub (Nat.sub_lt (Nat.lt_trans hpos hlt) hpos), hback, Bool.not_not]

/-- The signer is computed from what is left after scalars were normalized. -/
theorem signer_eq_of_normalize {a b : Signature} {x y : Scalars}
    (ha : scalars a = .ok x) (hb : scalars b = .ok y) (h : y.normalize = x.normalize)
    (message : List UInt8) : b.signer message = a.signer message := by
  unfold Signature.signer
  rw [ha, hb]
  simp only [signer?, h]

end Recovery

/-- All spellings of a signature lead to one signer, or none of them to any. -/
theorem Signature.Variant.signer_eq {a b : Signature} (h : a.Variant b)
    (message : List UInt8) : b.signer message = a.signer message := by
  -- Recovery starts by bringing the scalars to their lower half. There the twin meets the
  -- signature itself; a respelled marker stands for the same parity.
  rcases h with htwin | hrespelled
  · rcases htwin.parity with ⟨odd, ha, hb⟩
    refine Recovery.signer_eq_of_normalize (scalars_of_parity ha) (scalars_of_parity hb) ?_ message
    rw [htwin.r_eq, htwin.s_eq]
    exact Recovery.Scalars.normalize_twin htwin.s_pos htwin.s_lt
  · rcases hrespelled.parity with ⟨odd, ha, hb⟩
    refine Recovery.signer_eq_of_normalize (scalars_of_parity ha) (scalars_of_parity hb) ?_ message
    rw [hrespelled.r_eq, hrespelled.s_eq]

/-- At each place of a quorum the signature leads to the signer at the place. -/
theorem Registry.Quorum.exists_getElem? {registry : Registry} {message : List UInt8}
    {signatures : List Signature} {signers : List Address}
    (h : registry.Quorum message signatures signers) {i : Nat} {signature : Signature}
    (hi : signatures[i]? = some signature) :
    ∃ signer, signers[i]? = some signer ∧ signature.signer message = .ok signer := by
  have hplace : (signatures.map fun signature => signature.signer message)[i]? =
      (signers.map .ok)[i]? := by rw [h.recovered]
  rw [List.getElem?_map, List.getElem?_map, hi, Option.map_some] at hplace
  rcases Option.map_eq_some_iff.1 hplace.symm with ⟨signer, hsigner, hok⟩
  exact ⟨signer, hsigner, hok.symm⟩

/-- Signatures with one signer at two places are not verified, whether they are
    the same bytes or not. -/
theorem exists_verify_error (registry : Registry) {signatures : List Signature}
    {message : List UInt8} {a b : Signature} {i j : Nat} (hplaces : i ≠ j)
    (hi : signatures[i]? = some a) (hj : signatures[j]? = some b)
    (h : b.signer message = a.signer message) :
    ∃ refusal, verify registry signatures message = .error refusal := by
  cases hverify : verify registry signatures message with
  | error refusal => exact ⟨refusal, rfl⟩
  | ok verified =>
    have hquorum := ((Registry.verify_eq_ok_iff_quorum _ _ _ _).1 hverify).1
    rcases hquorum.exists_getElem? hi with ⟨signer, hsigner, ha⟩
    rcases hquorum.exists_getElem? hj with ⟨other, hother, hb⟩
    rw [hb, ha, Except.ok.injEq] at h
    rw [h, ← hsigner] at hother
    -- The signers are distinct, so one of them has one place.
    have hlt : i < verified.signers.length := (List.getElem?_eq_some_iff.1 hsigner).1
    exact absurd ((List.getElem?_inj hlt hquorum.nodup).1 hother.symm) hplaces

namespace Bundles

variable {registry : Registry} {book : Bundles}

/-- A signature of an authority that has signed the stored message is turned
    down, before the bundle is closed and after. -/
theorem submit_again (h : book.Sound registry) {signature : Signature} {message : List UInt8}
    {claimed : Address} (hlength : message.length = Instruction.messageLength)
    (hsigned : registry.Signed message signature claimed)
    (hstored : book.message? (messageHash message) = some message)
    (hseen : claimed ∈ book.signers registry (messageHash message)) (relayer : Address) :
    book.submit registry signature message claimed relayer =
      (.error (.duplicateSignature claimed), book) := by
  have hcheck := (Instruction.checkLength_eq_ok_iff message).2 hlength
  rcases hsigned.exists_signer with ⟨index, hpos, hsigner⟩
  rcases Option.map_eq_some_iff.1 hstored with ⟨collection, hget, hmessage⟩
  -- Gathering or closed, a collection answers by the same set of signers.
  rw [signers, hget] at hseen
  have hfound : collection.hasSigner index claimed = true := by
    rw [(h _ collection hget).hasSigner_eq hpos, decide_eq_true_eq]
    exact hseen
  unfold submit accept Bundles.pending
  simp only [hcheck, hsigner, ne_eq, not_true_eq_false, if_false, hget, hmessage, hfound, if_true]

/-- Whose signature over a message was accepted in a run is turned down with any
    other spelling of it. -/
theorem submit_variant_run {submissions : List Submission} {receipt : Receipt}
    (hmem : receipt ∈ (run registry .empty submissions).1) {outcome : SubmitOutcome}
    (haccepted : receipt.result = .ok outcome) {signature : Signature}
    (h : signature.signer receipt.submission.message =
      receipt.submission.signature.signer receipt.submission.message) (relayer : Address) :
    (run registry .empty submissions).2.submit registry signature receipt.submission.message
        receipt.submission.claimed relayer =
      (.error (.duplicateSignature receipt.submission.claimed),
        (run registry .empty submissions).2) := by
  have hsound := run_sound (sound_empty registry) submissions
  have hrecorded := recorded_run (sound_empty registry)
    (recorded_empty registry receipt.submission.name) submissions
  rw [List.nil_append] at hrecorded
  -- The submission is part of the history of its name, and so is its signer.
  have hpast : receipt.submission ∈ accepted receipt.submission.name
      (run registry .empty submissions).1 := by
    refine List.mem_filterMap.2 ⟨receipt, hmem, ?_⟩
    rw [Receipt.accepted?, haccepted]
    exact if_pos rfl
  rcases hrecorded.signed hsound hpast with ⟨hsigned, hlength, _⟩
  refine submit_again hsound hlength ⟨h.trans hsigned.1, hsigned.2⟩
    (hrecorded.message?_of_mem _ hpast) ?_ relayer
  rw [← Submission.name, hrecorded.signers_eq]
  exact List.mem_map_of_mem hpast

end Bundles

namespace Signature

/-- Where one of two signatures was counted, the other one is not. -/
structure CountedOnce (a b : Signature) : Prop where
  /-- They lead to one signer, or none of them to any. -/
  signer_eq : ∀ message, b.signer message = a.signer message
  /-- Signatures with both among them are not verified. -/
  verify_refused : ∀ (registry : Registry) (message : List UInt8)
    (signatures : List Signature) (i j : Nat), i ≠ j → signatures[i]? = some a →
      signatures[j]? = some b → ∃ refusal, verify registry signatures message = .error refusal
  /-- After one was accepted the other is turned down for the same message and
      account, whatever was handed in before and since. -/
  submit_refused : ∀ (registry : Registry) (submissions : List Submission)
    (receipt : Receipt) (outcome : SubmitOutcome) (relayer : Address),
    receipt ∈ (Bundles.run registry .empty submissions).1 → receipt.result = .ok outcome →
      receipt.submission.signature = a →
        (Bundles.run registry .empty submissions).2.submit registry b
            receipt.submission.message receipt.submission.claimed relayer =
          (.error (.duplicateSignature receipt.submission.claimed),
            (Bundles.run registry .empty submissions).2)

theorem Variant.countedOnce {a b : Signature} (h : a.Variant b) : CountedOnce a b where
  signer_eq := h.signer_eq
  verify_refused := fun registry message _ _ _ hplaces hi hj =>
    exists_verify_error registry hplaces hi hj (h.signer_eq message)
  submit_refused := by
    intro registry submissions receipt outcome relayer hmem haccepted hsignature
    -- The earlier signature is one of the run; the later one recovers to its signer.
    refine Bundles.submit_variant_run hmem haccepted ?_ relayer
    rw [hsignature]
    exact h.signer_eq _

/-- Of two spellings of a signature only one is counted, whichever comes first. -/
theorem counted_once {a b : Signature} (h : a.Variant b) : CountedOnce a b ∧ CountedOnce b a :=
  ⟨h.countedOnce, h.symm.countedOnce⟩

/-- The twin of the signature of an account that decides alone. -/
def soleTwin : Signature :=
  .ofScalars
    0xeda9b12d13396200fceaae032af1cc67f76c0093da5bf0f715f30bf140790aff
    (Secp256k1.n - 0x1576ea3a8de1fd469a8acbecf8cf6c7c30b47937ea1a1e5274a44e31f12996e1) false

set_option maxRecDepth 100000 in
/-- An account that decides alone has decided once, however its signature is
    spelled. -/
theorem counted_once_sole :
    Bundles.soleSubmission.signature.Variant soleTwin ∧
      (∃ outcome, (Bundles.empty.submit Bundles.soleRegistry Bundles.soleSubmission.signature
        Bundles.soleSubmission.message Bundles.soleAuthority Bundles.soleAuthority).1 =
          .ok outcome) ∧
      ((Bundles.run Bundles.soleRegistry .empty [Bundles.soleSubmission]).2.submit
          Bundles.soleRegistry soleTwin Bundles.soleSubmission.message Bundles.soleAuthority
          Bundles.soleAuthority).1 =
        .error (.duplicateSignature Bundles.soleAuthority) := by
  have hvariant : Bundles.soleSubmission.signature.Variant soleTwin :=
    Or.inl ⟨by decide +kernel, by decide +kernel, by decide +kernel, by decide +kernel, true,
      by decide +kernel, by decide +kernel⟩
  have haccepted : (Bundles.empty.submit Bundles.soleRegistry Bundles.soleSubmission.signature
      Bundles.soleSubmission.message Bundles.soleAuthority
      Bundles.soleAuthority).1.toOption.isSome = true := by
    decide +kernel
  cases hresult : (Bundles.empty.submit Bundles.soleRegistry Bundles.soleSubmission.signature
      Bundles.soleSubmission.message Bundles.soleAuthority Bundles.soleAuthority).1 with
  | error refusal =>
    rw [hresult] at haccepted
    exact absurd haccepted Bool.false_ne_true
  | ok outcome =>
    -- The twin comes after a signature that was taken, and leads to the same account.
    have hrefused := (counted_once hvariant).1.submit_refused Bundles.soleRegistry
      [Bundles.soleSubmission] ⟨Bundles.soleSubmission, .ok outcome⟩ outcome
      Bundles.soleAuthority (by rw [← hresult]; exact List.mem_singleton_self _) rfl rfl
    exact ⟨hvariant, ⟨outcome, rfl⟩, congrArg Prod.fst hrefused⟩

end Signature

end QuorumBridge
