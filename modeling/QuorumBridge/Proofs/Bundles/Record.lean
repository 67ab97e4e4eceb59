import QuorumBridge.Proofs.Bundles.Relay

/-!
# The record of a run of submissions

What the collections answer is what was accepted.

A collection can be asked for its message, for the number of its signatures and
for each of them, for whether somebody has signed, and for the bundle once it is
closed. All of these answers are made from what is stored, and what is stored
changes its form when the bundle is closed: positions become addresses, and the
relayer comes to stand beside them. A history of submissions has no such seam.
This module says that the answers are those of the history.

The history of a name is the list of accepted submissions of messages with that
name (`Bundles.accepted`). That these are submissions of one and the same
message is a part of what is proved: the first one fixes the bytes.

One submission is described by what it does to the answers under every name
(`Bundles.Taken`), so that neither the kind of a collection nor the way it is
stored is looked at afterwards. `Bundles.Recorded` ties the stored lists to a
history, and a submission that is taken keeps it with one more entry in the
history. All answers are then read off the two lists.

## Main definitions

* `Submission.name`: The name of the message of a submission.
* `Bundles.Taken`: What an accepted submission does to the answers.
* `Bundles.accepted`: The history of a name.
* `Bundles.Recorded`: The stored lists are those of a history.
* `Bundles.Answers`: The answers are those of a history.

## Theorems

* `Bundles.submit_taken`: Accepted submissions are taken.
* `Bundles.recorded_run`: A run records its history.
* `Bundles.answers_run`: It is answered for with it.
-/

namespace QuorumBridge

/-- The name of the message of a submission. -/
def Submission.name (submission : Submission) : Hash :=
  messageHash submission.message

/-- The bundle that an outcome has closed, if it has. -/
def SubmitOutcome.bundle? : SubmitOutcome → Option Bundle
  | .pending _ _ _ => none
  | .collected bundle => some bundle

/-- The bundle of a collection, if it is closed. -/
def Collection.bundle? : Collection → Option Bundle
  | .collecting _ => none
  | .collected bundle => some bundle

namespace Bundles

variable {registry : Registry} {book : Bundles}

/-! ## One submission -/

theorem collected?_eq (book : Bundles) (hash : Hash) :
    book.collected? hash = (book.collections.get? hash).bind Collection.bundle? := by
  unfold collected?
  cases book.collections.get? hash with
  | none => rfl
  | some collection => cases collection <;> rfl

theorem signatures_eq_elim (book : Bundles) (hash : Hash) :
    book.signatures hash = (book.collections.get? hash).elim [] Collection.signatures := by
  unfold signatures
  cases book.collections.get? hash with
  | none => rfl
  | some collection => rfl

theorem signers_eq_elim (book : Bundles) (registry : Registry) (hash : Hash) :
    book.signers registry hash =
      (book.collections.get? hash).elim [] (Collection.signers registry) := by
  unfold signers
  cases book.collections.get? hash with
  | none => rfl
  | some collection => rfl

section Put

variable (book) (name hash : Hash) (collection : Collection)

/-- What was put is found under its name, and everything else as before. -/
theorem get?_put_name :
    (book.collections.put name collection).get? hash =
      if hash = name then some collection else book.collections.get? hash := by
  rw [Table.get?_put]
  by_cases hsame : hash = name
  · rw [if_pos hsame, if_pos hsame.symm]
  · rw [if_neg hsame, if_neg (fun hc => hsame hc.symm)]

theorem signatures_put :
    (Bundles.mk (book.collections.put name collection)).signatures hash =
      if hash = name then collection.signatures else book.signatures hash := by
  simp only [signatures_eq_elim, get?_put_name]
  exact apply_ite (fun stored => Option.elim stored [] Collection.signatures) _ _ _

theorem signers_put (registry : Registry) :
    (Bundles.mk (book.collections.put name collection)).signers registry hash =
      if hash = name then collection.signers registry else book.signers registry hash := by
  simp only [signers_eq_elim, get?_put_name]
  exact apply_ite (fun stored => Option.elim stored [] (Collection.signers registry)) _ _ _

theorem message?_put :
    (Bundles.mk (book.collections.put name collection)).message? hash =
      if hash = name then some collection.message else book.message? hash := by
  simp only [message?, get?_put_name]
  exact apply_ite (Option.map Collection.message) _ _ _

theorem collected?_put :
    (Bundles.mk (book.collections.put name collection)).collected? hash =
      if hash = name then collection.bundle? else book.collected? hash := by
  simp only [collected?_eq, get?_put_name]
  exact apply_ite (fun stored => Option.bind stored Collection.bundle?) _ _ _

end Put

/-- What an accepted submission does to the answers. Its signature and the
    authority that it was claimed for come last under its own name, and under
    every other name all is as it was. The last signature that is needed closes
    the bundle, for the account that brings it. -/
structure Taken (registry : Registry) (book after : Bundles) (submission : Submission)
    (outcome : SubmitOutcome) : Prop where
  signed : registry.Signed submission.message submission.signature submission.claimed
  message?_before : ∀ stored, book.message? submission.name = some stored →
    stored = submission.message
  signatures_eq : ∀ hash, after.signatures hash =
    if hash = submission.name then book.signatures submission.name ++ [submission.signature]
    else book.signatures hash
  signers_eq : ∀ hash, after.signers registry hash =
    if hash = submission.name then book.signers registry submission.name ++ [submission.claimed]
    else book.signers registry hash
  message?_eq : ∀ hash, after.message? hash =
    if hash = submission.name then some submission.message else book.message? hash
  collected?_eq : ∀ hash, after.collected? hash =
    if hash = submission.name then outcome.bundle? else book.collected? hash
  outcome_eq : (∃ number, outcome = .pending submission.name number registry.threshold ∧
      number = (book.signatures submission.name).length + 1) ∨
    ∃ bundle, outcome = .collected bundle ∧ bundle.messageHash = submission.name ∧
      bundle.relayer = submission.relayer

theorem taken_put (h : book.Sound registry) {submission : Submission} {pending : Pending}
    {collection : Collection} {outcome : SubmitOutcome}
    (haccept : book.accept registry submission.signature submission.message
      submission.claimed = .ok pending)
    (hmessage : collection.message = pending.message)
    (hsignatures : collection.signatures = pending.signatures)
    (hsigners : collection.signers registry = pending.signers.addresses registry)
    (hbundle : collection.bundle? = outcome.bundle?)
    (houtcome : (∃ number, outcome = .pending submission.name number registry.threshold ∧
        number = pending.signatures.length) ∨
      ∃ bundle, outcome = .collected bundle ∧ bundle.messageHash = submission.name ∧
        bundle.relayer = submission.relayer) :
    Taken registry book ⟨book.collections.put submission.name collection⟩ submission
      outcome := by
  -- What the submission adds is known from its acceptance. Putting it away adds nothing.
  have haccepted := accept_ok h haccept
  refine ⟨haccepted.signed, haccepted.message?_eq, ?_, ?_, ?_, ?_, ?_⟩
  · intro hash
    rw [signatures_put, hsignatures, haccepted.signatures_eq]
    rfl
  · intro hash
    rw [signers_put, hsigners, haccepted.signers_eq]
    rfl
  · intro hash
    rw [message?_put, hmessage, haccepted.message_eq]
  · intro hash
    rw [collected?_put, hbundle]
  · -- The number that is told counts the new signature.
    rw [haccepted.length_signatures] at houtcome
    exact houtcome

/-- Accepted submissions are taken, and refused ones change nothing. -/
theorem submit_taken (h : book.Sound registry) (submission : Submission) :
    (∃ refusal, book.submit registry submission.signature submission.message
        submission.claimed submission.relayer = (.error refusal, book)) ∨
      ∃ outcome after, book.submit registry submission.signature submission.message
          submission.claimed submission.relayer = (.ok outcome, after) ∧
        Taken registry book after submission outcome := by
  rcases submit_cases book registry submission.signature submission.message submission.claimed
    submission.relayer with hrefused | ⟨pending, haccept, ⟨_, hr⟩ | ⟨_, hr⟩⟩
  · exact Or.inl hrefused
  · exact Or.inr ⟨_, _, hr,
      taken_put h haccept rfl rfl rfl rfl (Or.inl ⟨_, rfl, rfl⟩)⟩
  · exact Or.inr ⟨_, _, hr,
      taken_put h haccept rfl rfl rfl rfl (Or.inr ⟨_, rfl, rfl, rfl⟩)⟩

/-! ## The history of a name -/

end Bundles

/-- The submission of a receipt, if it was accepted under a name. -/
def Receipt.accepted? (receipt : Receipt) (hash : Hash) : Option Submission :=
  match receipt.result with
  | .ok _ => if receipt.submission.name = hash then some receipt.submission else none
  | .error _ => none

namespace Bundles

variable {registry : Registry} {book : Bundles}

/-- The accepted submissions of messages with a name, in their order. -/
def accepted (hash : Hash) (receipts : List Receipt) : List Submission :=
  receipts.filterMap (·.accepted? hash)

theorem accepted_cons (hash : Hash) (receipt : Receipt) (rest : List Receipt) :
    accepted hash (receipt :: rest) = (receipt.accepted? hash).toList ++ accepted hash rest := by
  unfold accepted
  rw [List.filterMap_eq_flatMap_toList, List.flatMap_cons, List.filterMap_eq_flatMap_toList]

/-- What is stored under a name is what a history says. -/
structure Recorded (registry : Registry) (book : Bundles) (hash : Hash)
    (past : List Submission) : Prop where
  signatures_eq : book.signatures hash = past.map Submission.signature
  signers_eq : book.signers registry hash = past.map Submission.claimed
  message?_of_nil : past = [] → book.message? hash = none
  message?_of_mem : ∀ submission ∈ past, book.message? hash = some submission.message
  relayer : ∀ bundle, book.collected? hash = some bundle →
    past.getLast?.map Submission.relayer = some bundle.relayer

theorem recorded_empty (registry : Registry) (hash : Hash) :
    Recorded registry .empty hash [] where
  signatures_eq := rfl
  signers_eq := rfl
  message?_of_nil := fun _ => rfl
  message?_of_mem := fun submission hmem => absurd hmem List.not_mem_nil
  relayer := fun bundle hfound => absurd hfound (by
    simp only [collected?_eq, empty, Table.get?_empty, Option.bind_none, reduceCtorEq,
      not_false_eq_true])

/-- A submission that is taken is recorded under its name. -/
theorem Recorded.of_taken {after : Bundles} {submission : Submission} {outcome : SubmitOutcome}
    {past : List Submission} (h : Recorded registry book submission.name past)
    (htaken : Taken registry book after submission outcome) :
    Recorded registry after submission.name (past ++ [submission]) := by
  refine ⟨?_, ?_, ?_, ?_, ?_⟩
  · rw [htaken.signatures_eq, if_pos rfl, h.signatures_eq, List.map_append, List.map_singleton]
  · rw [htaken.signers_eq, if_pos rfl, h.signers_eq, List.map_append, List.map_singleton]
  · intro hnil
    exact absurd hnil (List.append_ne_nil_of_right_ne_nil past (List.cons_ne_nil _ _))
  · -- Whoever signed before has signed the stored message, and that is this one.
    intro other hmem
    rw [htaken.message?_eq, if_pos rfl]
    rcases List.mem_append.1 hmem with hmem | hmem
    · rw [htaken.message?_before _ (h.message?_of_mem other hmem)]
    · rw [List.mem_singleton.1 hmem]
  · intro bundle hfound
    -- A bundle is stored now only if this submission has closed it.
    rw [htaken.collected?_eq, if_pos rfl] at hfound
    rw [List.getLast?_append, List.getLast?_singleton]
    rcases htaken.outcome_eq with ⟨number, rfl, _⟩ | ⟨closed, rfl, _, hrelayer⟩
    · exact absurd hfound (by simp only [SubmitOutcome.bundle?, reduceCtorEq,
        not_false_eq_true])
    · rw [SubmitOutcome.bundle?, Option.some.injEq] at hfound
      rw [← hfound, hrelayer]
      rfl

/-- Under any other name the record is as it was. -/
theorem Recorded.of_other {after : Bundles} {submission : Submission} {outcome : SubmitOutcome}
    {hash : Hash} {past : List Submission} (h : Recorded registry book hash past)
    (htaken : Taken registry book after submission outcome) (hother : hash ≠ submission.name) :
    Recorded registry after hash past := by
  have hsignatures := htaken.signatures_eq hash
  have hsigners := htaken.signers_eq hash
  have hmessage := htaken.message?_eq hash
  have hcollected := htaken.collected?_eq hash
  -- Four readings of a collection, each as it was before under another name.
  rw [if_neg hother] at hsignatures hsigners hmessage hcollected
  exact ⟨hsignatures.trans h.signatures_eq, hsigners.trans h.signers_eq,
    fun hnil => hmessage.trans (h.message?_of_nil hnil),
    fun other hmem => hmessage.trans (h.message?_of_mem other hmem),
    fun bundle hfound => h.relayer bundle (hcollected.symm.trans hfound)⟩

/-- One submission is recorded as its receipt says. -/
theorem recorded_submit (hsound : book.Sound registry) {hash : Hash} {past : List Submission}
    (h : Recorded registry book hash past) (submission : Submission) :
    Recorded registry (book.submit registry submission.signature submission.message
        submission.claimed submission.relayer).2 hash
      (past ++ ((Receipt.mk submission (book.submit registry submission.signature
        submission.message submission.claimed submission.relayer).1).accepted? hash).toList) := by
  rcases submit_taken hsound submission with ⟨refusal, hr⟩ | ⟨outcome, after, hr, htaken⟩
  · rw [hr, Receipt.accepted?, Option.toList_none, List.append_nil]
    exact h
  · rw [hr, Receipt.accepted?]
    simp only
    -- An accepted submission extends the record of its own name only.
    by_cases hname : submission.name = hash
    · rw [if_pos hname, Option.toList_some]
      subst hname
      exact h.of_taken htaken
    · rw [if_neg hname, Option.toList_none, List.append_nil]
      exact h.of_other htaken (fun hc => hname hc.symm)

/-- A run records its history behind what was recorded before. -/
theorem recorded_run (hsound : book.Sound registry) {hash : Hash} {past : List Submission}
    (h : Recorded registry book hash past) (submissions : List Submission) :
    Recorded registry (run registry book submissions).2 hash
      (past ++ accepted hash (run registry book submissions).1) := by
  induction submissions generalizing book past with
  | nil =>
    have hnone : accepted hash (run registry book []).1 = [] := rfl
    rw [hnone, List.append_nil]
    exact h
  | cons submission rest ih =>
    -- The collections stay sound, so the history can go on from those that are left.
    have hnext := submit_sound hsound submission.signature submission.message
      submission.claimed submission.relayer
    have hrest := ih hnext (recorded_submit hsound h submission)
    simp only [run]
    rw [accepted_cons, ← List.append_assoc]
    exact hrest

/-! ## The answers -/

theorem Sound.length_signatures_le (h : book.Sound registry) (hash : Hash) :
    (book.signatures hash).length ≤ registry.threshold := by
  unfold signatures
  cases hget : book.collections.get? hash with
  | none => exact Nat.zero_le _
  | some collection =>
    -- The stage of a collection says how its signatures stand to the threshold: below it while
    -- they are gathered, at it once the bundle is closed.
    have hstage := (h hash collection hget).stage
    cases collection with
    | collecting pending => exact Nat.le_of_lt hstage.2
    | collected bundle => exact Nat.le_of_eq hstage.2

/-- A bundle is closed exactly when it has as many signatures as it takes. -/
theorem Sound.collected?_isSome_iff (h : book.Sound registry) (hash : Hash) :
    (book.collected? hash).isSome = true ↔
      (book.signatures hash).length = registry.threshold := by
  unfold signatures
  rw [collected?_eq]
  cases hget : book.collections.get? hash with
  | none =>
    -- The threshold is positive, so nothing is not enough.
    have hpos := registry.threshold_pos
    simp only [Option.bind_none, Option.isSome_none, Bool.false_eq_true, List.length_nil,
      false_iff]
    omega
  | some collection =>
    have hstage := (h hash collection hget).stage
    cases collection with
    | collecting pending =>
      have hlt : pending.signatures.length < registry.threshold := hstage.2
      simp only [Option.bind_some, Collection.bundle?, Option.isSome_none, Bool.false_eq_true,
        Collection.signatures, false_iff]
      omega
    | collected bundle =>
      have heq : bundle.signatures.length = registry.threshold := hstage.2
      simp only [Option.bind_some, Collection.bundle?, Option.isSome_some, Collection.signatures,
        heq]

theorem get?_of_collected? {hash : Hash} {bundle : Bundle}
    (hfound : book.collected? hash = some bundle) :
    book.collections.get? hash = some (.collected bundle) := by
  rw [collected?_eq, Option.bind_eq_some_iff] at hfound
  rcases hfound with ⟨collection, hget, hbundle⟩
  cases collection with
  | collecting pending => exact absurd hbundle (by simp only [Collection.bundle?, reduceCtorEq,
      not_false_eq_true])
  | collected closed =>
    rw [Collection.bundle?, Option.some.injEq] at hbundle
    rw [hget, hbundle]

theorem lists_of_collected? (registry : Registry) {hash : Hash} {bundle : Bundle}
    (hfound : book.collected? hash = some bundle) :
    book.signatures hash = bundle.signatures ∧ book.signers registry hash = bundle.signers := by
  have hget := get?_of_collected? hfound
  unfold signatures signers
  rw [hget]
  exact ⟨rfl, rfl⟩

theorem count_eq (book : Bundles) (hash : Hash) :
    book.count hash = (book.signatures hash).length := by
  unfold count signatures
  cases book.collections.get? hash with
  | none => rfl
  | some collection => rfl

theorem signature_eq_elim (book : Bundles) (hash : Hash) (index : Nat) :
    book.signature hash index =
      (book.signatures hash)[index]?.elim (.error (.signatureNotFound hash index)) .ok := by
  unfold signature signatures
  cases book.collections.get? hash with
  | none => rfl
  | some collection =>
    simp only [Option.bind_some]
    cases collection.signatures[index]? with
    | none => rfl
    | some found => rfl

/-- Who has signed, as the collections say it. -/
theorem Sound.hasSigned_eq (h : book.Sound registry) (account : Address) {message : List UInt8}
    (hlength : message.length = Instruction.messageLength) :
    book.hasSigned registry account message =
      .ok (decide (book.message? (messageHash message) = some message ∧
        account ∈ book.signers registry (messageHash message))) := by
  unfold hasSigned message? signers
  rw [(Instruction.checkLength_eq_ok_iff message).2 hlength]
  simp only
  cases hget : book.collections.get? (messageHash message) with
  | none =>
    simp only [Option.map_none, reduceCtorEq, false_and, decide_false]
    cases registry.position? account with
    | none => rfl
    | some index => rfl
  | some collection =>
    have hsound := h _ collection hget
    simp only [Option.map_some, Option.some.injEq]
    cases hpos : registry.position? account with
    | none =>
      -- Whoever has no position is not among the signers, who are authorities.
      have hout := (registry.position?_eq_none_iff account).1 hpos
      have hnot : account ∉ collection.signers registry := by
        intro hmem
        rcases List.mem_iff_getElem.1 hmem with ⟨i, hi, rfl⟩
        have hi' : i < collection.signatures.length := by
          rw [hsound.signed.length_eq]
          exact hi
        exact hout (List.Forall₂.get hsound.signed hi' hi).2
      simp only [hnot, and_false, decide_false]
    | some index =>
      simp only
      rw [hsound.hasSigner_eq hpos, Bool.decide_and]

/-- The answers about a name are those of a history. -/
structure Answers (registry : Registry) (book : Bundles) (hash : Hash)
    (past : List Submission) : Prop where
  /-- There are no more signatures than the threshold asks for. -/
  length_le : past.length ≤ registry.threshold
  /-- All are over one message, of the right length and of this name. -/
  same_message : ∀ a ∈ past, ∀ b ∈ past, a.message = b.message
  length_message : ∀ a ∈ past, a.message.length = Instruction.messageLength
  named : ∀ a ∈ past, a.name = hash
  /-- Each leads to the authority that it was claimed for, and these are
      distinct. -/
  signed : ∀ a ∈ past, a.signature.signer a.message = .ok a.claimed ∧
    registry.isAuthority a.claimed = true
  nodup : (past.map Submission.claimed).Nodup
  message?_eq : book.message? hash = past.head?.map Submission.message
  count_eq : book.count hash = past.length
  signature_eq : ∀ index, book.signature hash index =
    match past[index]? with
    | some submission => .ok submission.signature
    | none => .error (.signatureNotFound hash index)
  /-- An account has signed a message if it has submitted this very message. -/
  hasSigned_eq : ∀ account message, message.length = Instruction.messageLength →
    messageHash message = hash → book.hasSigned registry account message =
      .ok (decide (∃ submission ∈ past,
        submission.message = message ∧ submission.claimed = account))
  /-- The bundle is closed exactly at the threshold. -/
  collected?_iff : (book.collected? hash).isSome = true ↔ past.length = registry.threshold
  /-- It holds the history, and the relayer of the submission that closed it. -/
  collected?_eq : ∀ bundle, book.collected? hash = some bundle →
    bundle.signers = past.map Submission.claimed ∧
      bundle.signatures = past.map Submission.signature ∧
      past[registry.threshold - 1]?.map Submission.relayer = some bundle.relayer

theorem Recorded.head?_message {hash : Hash} {past : List Submission}
    (h : Recorded registry book hash past) :
    book.message? hash = past.head?.map Submission.message := by
  cases past with
  | nil => exact h.message?_of_nil rfl
  | cons first rest => exact h.message?_of_mem first List.mem_cons_self

/-- What was recorded was signed by its authority over the stored message. -/
theorem Recorded.signed {hash : Hash} {past : List Submission}
    (h : Recorded registry book hash past) (hsound : book.Sound registry)
    {submission : Submission} (hmem : submission ∈ past) :
    registry.Signed submission.message submission.signature submission.claimed ∧
      submission.message.length = Instruction.messageLength ∧ submission.name = hash := by
  have hmessage := h.message?_of_mem submission hmem
  unfold message? at hmessage
  rw [Option.map_eq_some_iff] at hmessage
  rcases hmessage with ⟨collection, hget, hstored⟩
  have hcollection := hsound hash collection hget
  have hsignatures := h.signatures_eq
  have hsigners := h.signers_eq
  simp only [signatures, signers, hget] at hsignatures hsigners
  -- Both lists are made from the history, so they go along with it entry by entry.
  have hsigned := hcollection.signed
  rw [hsignatures, hsigners, List.forall₂_map_left_iff, List.forall₂_map_right_iff,
    List.forall₂_same] at hsigned
  refine ⟨?_, ?_, ?_⟩
  · rw [← hstored]
    exact hsigned submission hmem
  · rw [← hstored]
    exact hcollection.length_message
  · rw [Submission.name, ← hstored]
    exact hcollection.named

theorem Sound.nodup_signers (h : book.Sound registry) (hash : Hash) :
    (book.signers registry hash).Nodup := by
  unfold signers
  cases hget : book.collections.get? hash with
  | none => exact List.nodup_nil
  | some collection => exact (h hash collection hget).nodup

/-- The answers of sound collections are those of the history that they
    record. -/
theorem Recorded.answers {hash : Hash} {past : List Submission}
    (h : Recorded registry book hash past) (hsound : book.Sound registry) :
    Answers registry book hash past := by
  have hcount : (book.signatures hash).length = past.length := by
    rw [h.signatures_eq, List.length_map]
  -- Each answer is read off a list that is stored, and each list is the history, mapped.
  refine ⟨?_, ?_, fun a ha => (h.signed hsound ha).2.1, fun a ha => (h.signed hsound ha).2.2,
    ?_, ?_, h.head?_message, ?_, ?_, ?_, ?_, ?_⟩
  · rw [← hcount]
    exact hsound.length_signatures_le hash
  · intro a ha b hb
    -- Both were taken for the one message that is stored.
    have hsame := h.message?_of_mem a ha
    rw [h.message?_of_mem b hb, Option.some.injEq] at hsame
    exact hsame.symm
  · intro a ha
    have hsigned := (h.signed hsound ha).1
    exact ⟨hsigned.1, List.contains_iff_mem.2 hsigned.2⟩
  · rw [← h.signers_eq]
    exact hsound.nodup_signers hash
  · rw [← hcount, count_eq]
  · intro index
    rw [signature_eq_elim, h.signatures_eq, List.getElem?_map]
    cases past[index]? with
    | none => rfl
    | some submission => rfl
  · intro account message hlength hname
    rw [hsound.hasSigned_eq account hlength, hname, h.signers_eq]
    congr 1
    -- Who is told to have signed has signed this very message, and not another one of its name.
    rw [decide_eq_decide, List.mem_map]
    constructor
    · rintro ⟨hmessage, submission, hmem, hclaimed⟩
      have hstored := h.message?_of_mem submission hmem
      rw [hmessage, Option.some.injEq] at hstored
      exact ⟨submission, hmem, hstored.symm, hclaimed⟩
    · rintro ⟨submission, hmem, rfl, hclaimed⟩
      exact ⟨h.message?_of_mem submission hmem, submission, hmem, hclaimed⟩
  · rw [hsound.collected?_isSome_iff, hcount]
  · intro bundle hfound
    rcases lists_of_collected? registry hfound with ⟨hsignatures, hsigners⟩
    -- A closed bundle is full, so its last signature is that of the history.
    have hfull := (hsound.collected?_isSome_iff hash).1 (by rw [hfound, Option.isSome_some])
    have hrelayer := h.relayer bundle hfound
    rw [List.getLast?_eq_getElem?, ← hcount, hfull] at hrelayer
    rw [← hsigners, ← hsignatures]
    exact ⟨h.signers_eq, h.signatures_eq, hrelayer⟩

/-- After every run of submissions, the answers about every name are those of
    the accepted submissions of its messages. -/
theorem answers_run (registry : Registry) (submissions : List Submission) (hash : Hash) :
    Answers registry (run registry .empty submissions).2 hash
      (accepted hash (run registry .empty submissions).1) := by
  have hempty := sound_empty registry
  have hrecorded := recorded_run hempty (recorded_empty registry hash) submissions
  rw [List.nil_append] at hrecorded
  exact hrecorded.answers (run_sound hempty submissions)

end Bundles

end QuorumBridge
