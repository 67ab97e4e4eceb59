import Mathlib.Data.List.Forall2
import QuorumBridge.Proofs.Verification

/-!
# One signature

What a single submission can do to the collections.

A collection changes its kind when the threshold is reached. Before that its
signers are positions in a bit set, afterwards they are a list of addresses. A
second signature is told from a first one by the bits in the one case and by
the list in the other. `Collection.signers` is what both stand for, and
`Collection.Sound` says that it is the right list: it goes along with the
signatures, place by place, and each signature leads to the authority beside
it.

The invariant also ties a collection to the name it is kept under. The first
submission fixes the bytes of a message, and no later one could change them,
so the name of what is stored is the name it is stored under.

A submission is accepted or it is not. If it is, the signature and the
authority that it was claimed for come last in both lists. Whether that closes
the bundle depends on the number of signatures alone.

## Main definitions

* `Collection.signers`: Who has signed, whatever the kind of the collection.
* `Collection.Sound`, `Bundles.Sound`: The invariant of the collections.
* `Pending.close`: The bundle of what is pending.
* `Bundles.signatures`, `Bundles.signers`: The same lists, by name.
* `Bundles.Accepted`: What an accepted submission has added.

## Theorems

* `Collection.Sound.hasSigner_eq`: A second signature is told from a first one.
* `Bundles.accept_ok`: What it means that a submission is accepted.
* `Bundles.exists_accept_iff`: Which submissions are accepted.
* `Bundles.submit_cases`: The three ways a submission can end.
* `Bundles.submit_error`: A refused submission changes no collection.
* `Bundles.submit_sound`: A submission keeps the collections sound.
* `Bundles.submit_collected`: The bundle that it is answered with is sound.
* `Bundles.submit_congr`: A submission looks at one collection.
-/

namespace QuorumBridge

namespace Collection

/-- Who has signed, in the order of the signatures. -/
def signers (registry : Registry) : Collection → List Address
  | .collecting pending => pending.signers.addresses registry
  | .collected bundle => bundle.signers

/-- A collection is open below the threshold and closed at it. -/
def InStage (registry : Registry) (hash : Hash) : Collection → Prop
  | .collecting pending =>
    pending.signers.SoundFor registry ∧ pending.signatures.length < registry.threshold
  | .collected bundle =>
    bundle.messageHash = hash ∧ bundle.signatures.length = registry.threshold

/-- A collection holds a message under its own name, and signatures of distinct
    authorities over it, each beside the authority it leads to. -/
structure Sound (registry : Registry) (hash : Hash) (collection : Collection) : Prop where
  named : messageHash collection.message = hash
  length_message : collection.message.length = Instruction.messageLength
  signed : List.Forall₂ (registry.Signed collection.message) collection.signatures
    (collection.signers registry)
  nodup : (collection.signers registry).Nodup
  stage : collection.InStage registry hash

/-- A second signature is told from a first one, before the bundle is closed
    and after. -/
theorem Sound.hasSigner_eq {registry : Registry} {hash : Hash} {collection : Collection}
    (h : collection.Sound registry hash) {index : Nat} {authority : Address}
    (hpos : registry.position? authority = some index) :
    collection.hasSigner index authority = decide (authority ∈ collection.signers registry) := by
  have hstage := h.stage
  cases collection with
  | collecting pending => exact hstage.1.contains_eq hpos
  | collected bundle =>
    rw [Bool.eq_iff_iff, decide_eq_true_eq]
    exact List.contains_iff_mem

end Collection

/-- The bundle of what is pending under a name, once somebody closes it. -/
def Pending.close (registry : Registry) (hash : Hash) (relayer : Address) (pending : Pending) :
    Bundle where
  messageHash := hash
  message := pending.message
  signers := pending.signers.addresses registry
  signatures := pending.signatures
  relayer := relayer

namespace Bundles

/-- Every collection is sound. -/
def Sound (registry : Registry) (book : Bundles) : Prop :=
  ∀ hash collection, book.collections.get? hash = some collection →
    collection.Sound registry hash

/-- The signatures collected for a message. -/
def signatures (book : Bundles) (hash : Hash) : List Signature :=
  match book.collections.get? hash with
  | some collection => collection.signatures
  | none => []

/-- Who has signed a message, in the order of the signatures. -/
def signers (book : Bundles) (registry : Registry) (hash : Hash) : List Address :=
  match book.collections.get? hash with
  | some collection => collection.signers registry
  | none => []

variable {registry : Registry} {book : Bundles}

theorem sound_empty (registry : Registry) : Bundles.empty.Sound registry := by
  intro hash collection hget
  exact absurd hget (by simp only [empty, Table.get?_empty, reduceCtorEq, not_false_eq_true])

theorem Sound.put (h : book.Sound registry) {hash : Hash} {collection : Collection}
    (hcollection : collection.Sound registry hash) :
    (Bundles.mk (book.collections.put hash collection)).Sound registry :=
  Table.forall_put h hcollection

/-- What an accepted submission has added: a signature comes last, and so does
    the authority that it was claimed for and that it leads to. -/
structure Accepted (registry : Registry) (book : Bundles) (signature : Signature)
    (message : List UInt8) (claimed : Address) (pending : Pending) : Prop where
  length_message : message.length = Instruction.messageLength
  signed : registry.Signed message signature claimed
  /-- If the message was signed before, it was this very message. -/
  message?_eq : ∀ stored, book.message? (messageHash message) = some stored → stored = message
  before : List.Forall₂ (registry.Signed message) (book.signatures (messageHash message))
    (book.signers registry (messageHash message))
  new : claimed ∉ book.signers registry (messageHash message)
  below : (book.signatures (messageHash message)).length < registry.threshold
  message_eq : pending.message = message
  signatures_eq : pending.signatures = book.signatures (messageHash message) ++ [signature]
  soundFor : pending.signers.SoundFor registry
  signers_eq : pending.signers.addresses registry =
    book.signers registry (messageHash message) ++ [claimed]

/-- What is pending for a message to which an authority may add its signature:
    nothing yet, or what the open collection under its name holds. -/
theorem pending_cases {message : List UInt8} {index : Nat} {authority : Address}
    {before : Pending} (hok : book.pending registry message index authority = .ok before) :
    (book.collections.get? (messageHash message) = none ∧
        before = ⟨message, registry.signers, []⟩) ∨
      (book.collections.get? (messageHash message) = some (.collecting before) ∧
        before.message = message ∧ before.signers.contains index = false) := by
  unfold Bundles.pending at hok
  cases hget : book.collections.get? (messageHash message) with
  | none =>
    rw [hget, Except.ok.injEq] at hok
    exact Or.inl ⟨rfl, hok.symm⟩
  | some collection =>
    rw [hget] at hok
    simp only at hok
    -- Another message, a second signature and a closed bundle are turned down in turn.
    by_cases hmessage : collection.message ≠ message
    · rw [if_pos hmessage] at hok
      exact absurd hok (by simp only [reduceCtorEq, not_false_eq_true])
    rw [if_neg hmessage] at hok
    by_cases hsigner : collection.hasSigner index authority = true
    · rw [if_pos hsigner] at hok
      exact absurd hok (by simp only [reduceCtorEq, not_false_eq_true])
    rw [if_neg hsigner] at hok
    cases collection with
    | collected bundle => exact absurd hok (by simp only [reduceCtorEq, not_false_eq_true])
    | collecting found =>
      rw [Except.ok.injEq] at hok
      rw [← hok]
      exact Or.inr ⟨rfl, not_not.1 hmessage, Bool.eq_false_iff.2 hsigner⟩

/-- The checks that an accepted submission has passed before it was added. -/
theorem accept_cases {signature : Signature} {message : List UInt8} {claimed : Address}
    {pending : Pending} (hok : book.accept registry signature message claimed = .ok pending) :
    ∃ index before, message.length = Instruction.messageLength ∧
      registry.signer signature message = .ok (index, claimed) ∧
      book.pending registry message index claimed = .ok before ∧
      pending = { before with
        signers := (before.signers.insert index).2
        signatures := before.signatures ++ [signature] } := by
  unfold accept at hok
  -- The checks in their order; whatever fails one of them is not accepted.
  cases hcheck : Instruction.checkLength message with
  | error refusal =>
    rw [hcheck] at hok
    exact absurd hok (by simp only [reduceCtorEq, not_false_eq_true])
  | ok _ =>
    rw [hcheck] at hok
    simp only at hok
    cases hsigner : registry.signer signature message with
    | error refusal =>
      rw [hsigner] at hok
      exact absurd hok (by simp only [reduceCtorEq, not_false_eq_true])
    | ok found =>
      rcases found with ⟨index, signer⟩
      rw [hsigner] at hok
      simp only at hok
      by_cases hclaimed : signer ≠ claimed
      · rw [if_pos hclaimed] at hok
        exact absurd hok (by simp only [reduceCtorEq, not_false_eq_true])
      rw [if_neg hclaimed, not_not.1 hclaimed] at hok
      cases hpending : book.pending registry message index claimed with
      | error refusal =>
        rw [hpending] at hok
        exact absurd hok (by simp only [reduceCtorEq, not_false_eq_true])
      | ok before =>
        rw [hpending, Except.ok.injEq] at hok
        exact ⟨index, before, (Instruction.checkLength_eq_ok_iff message).1 hcheck,
          by rw [not_not.1 hclaimed], hpending, hok.symm⟩

/-- What it means that a submission is accepted. -/
theorem accept_ok (h : book.Sound registry) {signature : Signature} {message : List UInt8}
    {claimed : Address} {pending : Pending}
    (hok : book.accept registry signature message claimed = .ok pending) :
    Accepted registry book signature message claimed pending := by
  rcases accept_cases hok with ⟨index, before, hlength, hsigner, hpending, rfl⟩
  -- The position that is added is that of the claimed authority.
  have hpos := ((registry.signer_eq_ok_iff _ _ _ _).1 hsigner).2
  have hsigned := Registry.signed_of_signer hsigner
  rcases pending_cases hpending with ⟨hnone, rfl⟩ | ⟨hsome, hmessage, hcontains⟩
  · -- The first signature of a message meets two empty lists.
    have hsignatures : book.signatures (messageHash message) = [] := by
      rw [signatures, hnone]
    have hsigners : book.signers registry (messageHash message) = [] := by
      rw [signers, hnone]
    have hfor := SignerSet.soundFor_signers registry
    refine ⟨hlength, hsigned, ?_, ?_, ?_, ?_, rfl, ?_, SignerSet.soundFor_insert hfor index, ?_⟩
    · intro stored hstored
      rw [message?, hnone] at hstored
      exact absurd hstored (by simp only [Option.map_none, reduceCtorEq, not_false_eq_true])
    · rw [hsignatures, hsigners]
      exact List.Forall₂.nil
    · rw [hsigners]
      exact List.not_mem_nil
    · rw [hsignatures]
      exact registry.threshold_pos
    · rw [hsignatures]
    · rw [hsigners]
      exact hfor.addresses_insert hpos List.not_mem_nil
  · -- A later one meets what the invariant says about the open collection.
    have hsound := h _ _ hsome
    have hsignatures : book.signatures (messageHash message) = before.signatures := by
      rw [signatures, hsome]
      rfl
    have hsigners : book.signers registry (messageHash message) =
        before.signers.addresses registry := by
      rw [signers, hsome]
      rfl
    have hfor : before.signers.SoundFor registry := hsound.stage.1
    have hnew : index ∉ before.signers.order := by
      rw [← SignerSet.contains_iff hfor.toSound, hcontains]
      exact Bool.false_ne_true
    refine ⟨hlength, hsigned, ?_, ?_, ?_, ?_, hmessage, ?_, SignerSet.soundFor_insert hfor index,
      ?_⟩
    · intro stored hstored
      rw [message?, hsome, Option.map_some, Option.some.injEq] at hstored
      rw [← hstored]
      exact hmessage
    · rw [hsignatures, hsigners]
      have hbefore := hsound.signed
      simp only [Collection.message, hmessage] at hbefore
      exact hbefore
    · rw [hsigners, SignerSet.SoundFor.mem_addresses_iff hpos]
      exact hnew
    · rw [hsignatures]
      exact hsound.stage.2
    · rw [hsignatures]
    · rw [hsigners]
      exact hfor.addresses_insert hpos hnew

/-- Whose signatures are accepted: those of authorities that have not signed the
    message, handed in under their names, as long as the bundle is open. -/
theorem exists_accept_iff (h : book.Sound registry) {signature : Signature}
    {message : List UInt8} {claimed : Address}
    (hlength : message.length = Instruction.messageLength)
    (hstored : ∀ stored, book.message? (messageHash message) = some stored → stored = message) :
    (∃ pending, book.accept registry signature message claimed = .ok pending) ↔
      registry.Signed message signature claimed ∧
        claimed ∉ book.signers registry (messageHash message) ∧
        (book.signatures (messageHash message)).length < registry.threshold := by
  constructor
  · rintro ⟨pending, hok⟩
    have haccepted := accept_ok h hok
    exact ⟨haccepted.signed, haccepted.new, haccepted.below⟩
  · rintro ⟨hsigned, hnew, hbelow⟩
    rcases hsigned.exists_signer with ⟨index, hpos, hsigner⟩
    have hcheck := (Instruction.checkLength_eq_ok_iff message).2 hlength
    -- What is left to pass is the collection under the name of the message.
    have hpending : ∃ before, book.pending registry message index claimed = .ok before := by
      unfold Bundles.pending
      unfold message? at hstored
      unfold signers at hnew
      unfold signatures at hbelow
      cases hget : book.collections.get? (messageHash message) with
      | none => exact ⟨_, rfl⟩
      | some collection =>
        have hcollection := h _ collection hget
        rw [hget] at hstored hnew hbelow
        have hsame : collection.message = message := hstored _ rfl
        have hfirst : collection.hasSigner index claimed = false := by
          rw [hcollection.hasSigner_eq hpos, decide_eq_false_iff_not]
          exact hnew
        simp only [hsame, ne_eq, not_true_eq_false, if_false, hfirst, Bool.false_eq_true]
        cases collection with
        | collecting before => exact ⟨before, rfl⟩
        | collected bundle =>
          -- A closed bundle is full.
          have hfull : bundle.signatures.length = registry.threshold := hcollection.stage.2
          simp only [Collection.signatures] at hbelow
          omega
    rcases hpending with ⟨before, hpending⟩
    unfold accept
    simp only [hcheck, hsigner, ne_eq, not_true_eq_false, if_false, hpending]
    exact ⟨_, rfl⟩

/-- The three ways a submission can end: it is refused and changes nothing, it
    leaves more to be signed, or it closes the bundle. -/
theorem submit_cases (book : Bundles) (registry : Registry) (signature : Signature)
    (message : List UInt8) (claimed relayer : Address) :
    (∃ refusal, book.submit registry signature message claimed relayer =
        (.error refusal, book)) ∨
      ∃ pending, book.accept registry signature message claimed = .ok pending ∧
        ((pending.signatures.length < registry.threshold ∧
            book.submit registry signature message claimed relayer =
              (.ok (.pending (messageHash message) pending.signatures.length registry.threshold),
                ⟨book.collections.put (messageHash message) (.collecting pending)⟩)) ∨
          (registry.threshold ≤ pending.signatures.length ∧
            book.submit registry signature message claimed relayer =
              (.ok (.collected (pending.close registry (messageHash message) relayer)),
                ⟨book.collections.put (messageHash message)
                  (.collected (pending.close registry (messageHash message) relayer))⟩))) := by
  unfold submit
  cases haccept : book.accept registry signature message claimed with
  | error refusal => exact Or.inl ⟨refusal, rfl⟩
  | ok pending =>
    simp only
    by_cases hbelow : pending.signatures.length < registry.threshold
    · rw [if_pos hbelow]
      exact Or.inr ⟨pending, rfl, Or.inl ⟨hbelow, rfl⟩⟩
    · rw [if_neg hbelow]
      exact Or.inr ⟨pending, rfl, Or.inr ⟨Nat.le_of_not_lt hbelow, rfl⟩⟩

/-- A submission is answered by an outcome if it is accepted. -/
theorem exists_submit_iff (book : Bundles) (registry : Registry) (signature : Signature)
    (message : List UInt8) (claimed relayer : Address) :
    (∃ outcome, (book.submit registry signature message claimed relayer).1 = .ok outcome) ↔
      ∃ pending, book.accept registry signature message claimed = .ok pending := by
  unfold submit
  cases book.accept registry signature message claimed with
  | error refusal => simp only [reduceCtorEq, exists_false]
  | ok pending =>
    refine ⟨fun _ => ⟨pending, rfl⟩, fun _ => ?_⟩
    simp only
    split
    · exact ⟨_, rfl⟩
    · exact ⟨_, rfl⟩

theorem submit_error {book : Bundles} {registry : Registry} {signature : Signature}
    {message : List UInt8} {claimed relayer : Address} {refusal : Refusal}
    (h : (book.submit registry signature message claimed relayer).1 = .error refusal) :
    (book.submit registry signature message claimed relayer).2 = book := by
  rcases submit_cases book registry signature message claimed relayer with
    ⟨_, hr⟩ | ⟨_, _, ⟨_, hr⟩ | ⟨_, hr⟩⟩
  · rw [hr]
  · rw [hr] at h
    exact absurd h (by simp only [reduceCtorEq, not_false_eq_true])
  · rw [hr] at h
    exact absurd h (by simp only [reduceCtorEq, not_false_eq_true])

variable {signature : Signature} {message : List UInt8} {claimed relayer : Address}
  {pending : Pending}

namespace Accepted

theorem length_signatures (h : Accepted registry book signature message claimed pending) :
    pending.signatures.length = (book.signatures (messageHash message)).length + 1 := by
  rw [h.signatures_eq, List.length_append, List.length_singleton]

/-- The signatures still go along with the signers. -/
theorem forall₂_signed (h : Accepted registry book signature message claimed pending) :
    List.Forall₂ (registry.Signed pending.message) pending.signatures
      (pending.signers.addresses registry) := by
  rw [h.message_eq, h.signatures_eq, h.signers_eq]
  -- Both lists are longer by one, at the same end.
  exact List.rel_append h.before (List.Forall₂.cons h.signed List.Forall₂.nil)

/-- Below the threshold a sound collection stays open. -/
theorem sound_collecting (h : Accepted registry book signature message claimed pending)
    (hbelow : pending.signatures.length < registry.threshold) :
    (Collection.collecting pending).Sound registry (messageHash message) where
  named := by rw [Collection.message, h.message_eq]
  length_message := by
    rw [Collection.message, h.message_eq]
    exact h.length_message
  signed := h.forall₂_signed
  nodup := h.soundFor.nodup_addresses
  stage := ⟨h.soundFor, hbelow⟩

/-- At the threshold it is closed, and then its bundle has exactly as many
    signatures as the threshold asks for. -/
theorem sound_collected (h : Accepted registry book signature message claimed pending)
    (hreached : registry.threshold ≤ pending.signatures.length) (relayer : Address) :
    (Collection.collected (pending.close registry (messageHash message) relayer)).Sound registry
      (messageHash message) where
  named := by
    rw [Collection.message, Pending.close, h.message_eq]
  length_message := by
    rw [Collection.message, Pending.close, h.message_eq]
    exact h.length_message
  signed := h.forall₂_signed
  nodup := h.soundFor.nodup_addresses
  stage := by
    refine ⟨rfl, ?_⟩
    -- There was room for one more signature, so there is none beyond the threshold.
    have hbelow := h.below
    have hlength := h.length_signatures
    simp only [Pending.close]
    omega

end Accepted

/-- A submission keeps the collections sound. -/
theorem submit_sound (h : book.Sound registry) (signature : Signature) (message : List UInt8)
    (claimed relayer : Address) :
    (book.submit registry signature message claimed relayer).2.Sound registry := by
  rcases submit_cases book registry signature message claimed relayer with
    ⟨_, hr⟩ | ⟨pending, haccept, ⟨hbelow, hr⟩ | ⟨hreached, hr⟩⟩
  · rw [hr]
    exact h
  · rw [hr]
    exact h.put ((accept_ok h haccept).sound_collecting hbelow)
  · rw [hr]
    exact h.put ((accept_ok h haccept).sound_collected hreached relayer)

/-- The bundle that a submission is answered with is sound. -/
theorem submit_collected (h : book.Sound registry) {bundle : Bundle}
    (hok : (book.submit registry signature message claimed relayer).1 = .ok (.collected bundle)) :
    (Collection.collected bundle).Sound registry (messageHash message) := by
  -- Of the three ways to end only the last one is answered with a bundle.
  rcases submit_cases book registry signature message claimed relayer with
    ⟨_, hr⟩ | ⟨pending, haccept, ⟨_, hr⟩ | ⟨hreached, hr⟩⟩
  · rw [hr] at hok
    exact absurd hok (by simp only [reduceCtorEq, not_false_eq_true])
  · rw [hr, Except.ok.injEq] at hok
    exact absurd hok (by simp only [reduceCtorEq, not_false_eq_true])
  · rw [hr, Except.ok.injEq, SubmitOutcome.collected.injEq] at hok
    rw [← hok]
    exact (accept_ok h haccept).sound_collected hreached relayer

/-! ## One name -/

/-- A submission looks at one collection. Collections that agree under the name
    of its message answer it alike, and they still agree there afterwards. -/
theorem submit_congr {other : Bundles}
    (h : book.collections.get? (messageHash message) =
      other.collections.get? (messageHash message))
    (registry : Registry) (signature : Signature) (claimed relayer : Address) :
    (book.submit registry signature message claimed relayer).1 =
        (other.submit registry signature message claimed relayer).1 ∧
      (book.submit registry signature message claimed relayer).2.collections.get?
          (messageHash message) =
        (other.submit registry signature message claimed relayer).2.collections.get?
          (messageHash message) := by
  have haccept : book.accept registry signature message claimed =
      other.accept registry signature message claimed := by
    unfold accept Bundles.pending
    rw [h]
  unfold submit
  rw [haccept]
  cases other.accept registry signature message claimed with
  | error refusal => exact ⟨rfl, h⟩
  | ok pending =>
    simp only
    -- Whatever is put is put under the same name in both.
    by_cases hbelow : pending.signatures.length < registry.threshold
    · simp only [if_pos hbelow, Table.get?_put, if_true, and_self]
    · simp only [if_neg hbelow, Table.get?_put, if_true, and_self]

end Bundles

end QuorumBridge
