import QuorumBridge.Proofs.Bundles.Record
import QuorumBridge.Proofs.Turnout

/-!
# One message, any submissions

What comes of a message when any signatures over it are handed in, in any order
and as often as anybody likes.

A submission is worth something if its signature leads to the account under
whose name it is handed in. What is worth nothing is refused whenever it comes.
So a list of submissions comes down to the list of those accounts
(`Submission.signer?`), among them some that are no authorities and some that
come twice, by the same signature or by another one that leads to them as well.
How many authorities are among them is all that the end depends on.

There is no place that cannot be had here. A bundle is closed by its last
signature alone, whereas a deposit has to be paid as well. The limit of
`Counted` is the threshold.

A message is looked at by its name only, and the name is a hash. What is stored
under it has to be the same message, or nothing, and that is carried along: from
nothing the first submission stores this message.

## Main definitions

* `Submission.signer?`: The account that a submission is of, if it is of any.
* `Receipt.isPending`, `Receipt.isCollected`: How a submission was answered.
* `Bundles.Gathering`: What is kept while the submissions come.
* `Bundles.Gathered`: What comes of them, in terms of the turnout.

## Theorems

* `Bundles.Gathering.step`, `Bundles.Gathering.run`: One submission, and any
  number of them.
* `Bundles.run_congr`: What is stored under other names is not looked at.
* `Bundles.gathered_run`: What comes of submissions depends on the turnout, and
  not on the order.
-/

namespace QuorumBridge

/-- The account that a submission is of: whom its signature leads to, if that is
    who it is handed in for. -/
def Submission.signer? (submission : Submission) : Option Address :=
  match submission.signature.signer submission.message with
  | .ok signer => if signer = submission.claimed then some signer else none
  | .error _ => none

theorem Submission.signer?_eq_some_iff (submission : Submission) (account : Address) :
    submission.signer? = some account ↔
      submission.signature.signer submission.message = .ok account ∧
        account = submission.claimed := by
  unfold signer?
  cases submission.signature.signer submission.message with
  | error fault => simp only [reduceCtorEq, false_and]
  | ok signer =>
    simp only [Except.ok.injEq]
    -- A signer counts only as the one who was claimed.
    by_cases hclaimed : signer = submission.claimed
    · rw [if_pos hclaimed, Option.some.injEq]
      constructor
      · rintro rfl
        exact ⟨rfl, hclaimed⟩
      · exact fun h => h.1
    · rw [if_neg hclaimed]
      simp only [reduceCtorEq, false_iff]
      rintro ⟨rfl, hsame⟩
      exact hclaimed hsame

namespace Receipt

/-- Whether a signature was taken and the bundle stayed open. -/
def isPending (receipt : Receipt) : Bool :=
  match receipt.result with
  | .ok (.pending _ _ _) => true
  | _ => false

/-- Whether a signature closed the bundle. -/
def isCollected (receipt : Receipt) : Bool :=
  match receipt.result with
  | .ok (.collected _) => true
  | _ => false

end Receipt

namespace Bundles

/-- Some accounts have handed in signatures over a message. -/
structure Gathering (registry : Registry) (message : List UInt8) (came : List Address)
    (book : Bundles) : Prop where
  sound : book.Sound registry
  counted : registry.Counted registry.threshold came
    (book.signers registry (messageHash message))
  stored : ∀ stored, book.message? (messageHash message) = some stored → stored = message

variable {registry : Registry} {message : List UInt8} {came : List Address} {book : Bundles}

/-- Signatures and signers go along with each other. -/
theorem Sound.length_signers (h : book.Sound registry) (hash : Hash) :
    (book.signers registry hash).length = (book.signatures hash).length := by
  unfold signers signatures
  cases hget : book.collections.get? hash with
  | none => rfl
  | some collection => exact (h hash collection hget).signed.length_eq.symm

/-- A receipt of a refusal is of neither kind. -/
theorem advanced_error (registry : Registry) (submission : Submission) (refusal : Refusal)
    (length : Nat) :
    registry.Advanced length length
      (if (Receipt.mk submission (.error refusal)).isPending then 1 else 0)
      (if (Receipt.mk submission (.error refusal)).isCollected then 1 else 0) :=
  .refl registry length

/-- A submission that is taken is pending below the threshold and closes the
    bundle at it. -/
theorem Taken.advanced {after : Bundles} {submission : Submission} {outcome : SubmitOutcome}
    (htaken : Taken registry book after submission outcome) (hafter : after.Sound registry) :
    registry.Advanced (book.signatures submission.name).length
      (after.signatures submission.name).length
      (if (Receipt.mk submission (.ok outcome)).isPending then 1 else 0)
      (if (Receipt.mk submission (.ok outcome)).isCollected then 1 else 0) := by
  have hle := hafter.length_signatures_le submission.name
  have hclosed := hafter.collected?_isSome_iff submission.name
  have hgrown := htaken.signatures_eq submission.name
  rw [if_pos rfl] at hgrown
  rw [htaken.collected?_eq, if_pos rfl] at hclosed
  rw [hgrown, List.length_append, List.length_singleton] at hle hclosed ⊢
  -- The outcome says whether the bundle is closed, and the bundle whether it is full.
  rcases htaken.outcome_eq with ⟨number, rfl, _⟩ | ⟨bundle, rfl, _, _⟩
  · simp only [SubmitOutcome.bundle?, Option.isSome_none, Bool.false_eq_true, false_iff] at hclosed
    simp only [Receipt.isPending, Receipt.isCollected, Bool.false_eq_true, if_true, if_false]
    exact .next (by omega)
  · simp only [SubmitOutcome.bundle?, Option.isSome_some, true_iff] at hclosed
    simp only [Receipt.isPending, Receipt.isCollected, Bool.false_eq_true, if_true, if_false]
    exact .last hclosed

/-- An authority whose submission is refused although there is room has signed
    already. -/
theorem Gathering.mem_of_refused {submission : Submission}
    (h : Gathering registry submission.message came book)
    (hlength : submission.message.length = Instruction.messageLength) {refusal : Refusal}
    (hr : book.submit registry submission.signature submission.message submission.claimed
      submission.relayer = (.error refusal, book))
    (hsigned : registry.Signed submission.message submission.signature submission.claimed)
    (hroom : (book.signers registry submission.name).length < registry.threshold) :
    submission.claimed ∈ book.signers registry submission.name := by
  by_contra hnew
  rw [h.sound.length_signers] at hroom
  have haccept := (exists_accept_iff h.sound hlength h.stored).2 ⟨hsigned, hnew, hroom⟩
  rcases (exists_submit_iff book registry submission.signature submission.message
    submission.claimed submission.relayer).2 haccept with ⟨outcome, hdone⟩
  rw [hr] at hdone
  exact absurd hdone (by simp only [reduceCtorEq, not_false_eq_true])

/-- One more submission comes. It is refused and changes nothing, or it is taken
    and its account is counted. -/
theorem Gathering.step (h : Gathering registry message came book)
    (hlength : message.length = Instruction.messageLength) {submission : Submission}
    (hmessage : submission.message = message) :
    Gathering registry message (came ++ submission.signer?.toList)
        (book.submit registry submission.signature submission.message submission.claimed
          submission.relayer).2 ∧
      registry.Advanced (book.signatures (messageHash message)).length
        ((book.submit registry submission.signature submission.message submission.claimed
          submission.relayer).2.signatures (messageHash message)).length
        (if (Receipt.mk submission (book.submit registry submission.signature submission.message
          submission.claimed submission.relayer).1).isPending then 1 else 0)
        (if (Receipt.mk submission (book.submit registry submission.signature submission.message
          submission.claimed submission.relayer).1).isCollected then 1 else 0) := by
  subst hmessage
  rcases submit_taken h.sound submission with ⟨refusal, hr⟩ | ⟨outcome, after, hr, htaken⟩
  · have hcounted : registry.Counted registry.threshold (came ++ submission.signer?.toList)
        (book.signers registry submission.name) := by
      cases hsigner : submission.signer? with
      | none =>
        rw [Option.toList_none, List.append_nil]
        exact h.counted
      | some account =>
        -- Its account was counted before, or is no authority, or there was no room.
        rcases (submission.signer?_eq_some_iff account).1 hsigner with ⟨hrecovered, rfl⟩
        refine h.counted.pass ?_
        intro hauthority hroom
        exact h.mem_of_refused hlength hr ⟨hrecovered, List.contains_iff_mem.1 hauthority⟩ hroom
    rw [hr]
    exact ⟨⟨h.sound, hcounted, h.stored⟩, advanced_error registry submission refusal _⟩
  · have haccept := (exists_submit_iff book registry submission.signature submission.message
      submission.claimed submission.relayer).1 ⟨outcome, by rw [hr]⟩
    rcases (exists_accept_iff h.sound hlength h.stored).1 haccept with ⟨hsigned, hnew, hbelow⟩
    have hsound := submit_sound h.sound submission.signature submission.message
      submission.claimed submission.relayer
    rw [hr] at hsound ⊢
    -- What is taken is a submission of the account that it was handed in for.
    have hsigner := (submission.signer?_eq_some_iff submission.claimed).2 ⟨hsigned.1, rfl⟩
    have hsigners := htaken.signers_eq submission.name
    have hmessage := htaken.message?_eq submission.name
    rw [if_pos rfl] at hsigners hmessage
    rw [← h.sound.length_signers] at hbelow
    refine ⟨⟨hsound, ?_, ?_⟩, htaken.advanced hsound⟩
    · rw [hsigner, Option.toList_some, ← Submission.name, hsigners]
      exact h.counted.add (List.contains_iff_mem.2 hsigned.2) hnew hbelow
    · intro stored hstored
      rw [← Submission.name, hmessage, Option.some.injEq] at hstored
      exact hstored.symm

/-- Any number of submissions come. -/
theorem Gathering.run (h : Gathering registry message came book)
    (hlength : message.length = Instruction.messageLength) {submissions : List Submission}
    (hmessage : ∀ submission ∈ submissions, submission.message = message) :
    Gathering registry message (came ++ submissions.filterMap Submission.signer?)
        (Bundles.run registry book submissions).2 ∧
      registry.Advanced (book.signatures (messageHash message)).length
        ((Bundles.run registry book submissions).2.signatures (messageHash message)).length
        ((Bundles.run registry book submissions).1.countP Receipt.isPending)
        ((Bundles.run registry book submissions).1.countP Receipt.isCollected) := by
  induction submissions generalizing came book with
  | nil =>
    rw [List.filterMap_nil, List.append_nil]
    exact ⟨h, .refl registry _⟩
  | cons submission rest ih =>
    rcases h.step hlength (hmessage submission List.mem_cons_self) with ⟨hnext, hfirst⟩
    rcases ih hnext (fun other hmem => hmessage other (List.mem_cons_of_mem submission hmem)) with
      ⟨hend, hrest⟩
    -- A submission adds its account to those who came, or nobody.
    rw [List.append_assoc] at hend
    rw [List.filterMap_eq_flatMap_toList] at hend ⊢
    rw [List.flatMap_cons]
    simp only [Bundles.run, List.countP_cons]
    exact ⟨hend, hfirst.trans hrest⟩

/-- What is stored under other names is not looked at by submissions of one
    message. -/
theorem run_congr {other : Bundles} {submissions : List Submission}
    (h : book.collections.get? (messageHash message) =
      other.collections.get? (messageHash message))
    (registry : Registry)
    (hmessage : ∀ submission ∈ submissions, submission.message = message) :
    (run registry book submissions).1 = (run registry other submissions).1 ∧
      (run registry book submissions).2.collections.get? (messageHash message) =
        (run registry other submissions).2.collections.get? (messageHash message) := by
  induction submissions generalizing book other with
  | nil => exact ⟨rfl, h⟩
  | cons submission rest ih =>
    have hfirst := hmessage submission List.mem_cons_self
    have hrest : ∀ later ∈ rest, later.message = message :=
      fun later hmem => hmessage later (List.mem_cons_of_mem submission hmem)
    -- The lemma about one submission speaks of the name of its own message.
    rw [← hfirst] at h
    rcases submit_congr h registry submission.signature submission.claimed submission.relayer with
      ⟨hanswer, hafter⟩
    rw [hfirst] at hafter
    simp only [run]
    rw [hfirst] at hanswer ⊢
    rcases ih hafter hrest with ⟨hreceipts, hend⟩
    rw [hanswer, hreceipts]
    exact ⟨rfl, hend⟩

/-- What comes of submissions of a message that nobody has signed, in terms of
    the accounts that they are of. -/
structure Gathered (registry : Registry) (hash : Hash) (came : List Address)
    (result : List Receipt × Bundles) : Prop where
  count_eq : result.2.count hash = min (registry.turnout came) registry.threshold
  collected_iff : (result.2.collected? hash).isSome = true ↔
    registry.threshold ≤ registry.turnout came
  pending_eq : result.1.countP Receipt.isPending =
    min (registry.turnout came) (registry.threshold - 1)
  collected_eq : result.1.countP Receipt.isCollected =
    if registry.threshold ≤ registry.turnout came then 1 else 0

/-- What comes of a message that nobody has signed, when any submissions of it
    are made, depends on how many authorities have signed it and were named for
    it. It does not depend on the order of the submissions, nor on what else is
    among them, nor on what is stored of other messages. -/
theorem gathered_run (registry : Registry) {book : Bundles} {message : List UInt8}
    (hlength : message.length = Instruction.messageLength)
    (hnew : book.collections.get? (messageHash message) = none) {submissions : List Submission}
    (hmessage : ∀ submission ∈ submissions, submission.message = message)
    {order : List Submission} (horder : order.Perm submissions) :
    Gathered registry (messageHash message) (submissions.filterMap Submission.signer?)
      (run registry book order) := by
  have hpos := registry.threshold_pos
  have hsame : ∀ submission ∈ order, submission.message = message :=
    fun submission hmem => hmessage submission (horder.mem_iff.1 hmem)
  have hturnout := registry.turnout_perm (horder.filterMap Submission.signer?)
  -- It is enough to look at a run that starts from no collections at all.
  have hstart : Gathering registry message [] Bundles.empty :=
    ⟨sound_empty registry, registry.counted_nil _, fun stored hstored =>
      absurd hstored (by simp only [message?, empty, Table.get?_empty, Option.map_none,
        reduceCtorEq, not_false_eq_true])⟩
  rcases hstart.run hlength hsame with ⟨hend, htold⟩
  have hnone : Bundles.empty.signatures (messageHash message) = [] := rfl
  have hcounted := hend.counted.length_eq
  have hclosed := hend.sound.collected?_isSome_iff (messageHash message)
  rw [List.nil_append, hturnout, hend.sound.length_signers] at hcounted
  rw [hnone, List.length_nil] at htold
  rcases htold.of_zero (hend.sound.length_signatures_le _) with ⟨hpending, hfinished⟩
  have hagree : book.collections.get? (messageHash message) =
      Bundles.empty.collections.get? (messageHash message) := hnew
  rcases run_congr hagree registry hsame with ⟨hreceipts, hstored⟩
  have hcount : (run registry book order).2.count (messageHash message) =
      ((run registry .empty order).2.signatures (messageHash message)).length := by
    rw [← count_eq]
    unfold count
    rw [hstored]
  have hcollected : (run registry book order).2.collected? (messageHash message) =
      (run registry .empty order).2.collected? (messageHash message) := by
    rw [collected?_eq, collected?_eq, hstored]
  -- The bundle is full exactly when enough have come.
  have hfull : ((run registry .empty order).2.signatures (messageHash message)).length =
      registry.threshold ↔
        registry.threshold ≤ registry.turnout (submissions.filterMap Submission.signer?) := by
    omega
  refine ⟨?_, ?_, ?_, ?_⟩
  · rw [hcount, hcounted]
  · rw [hcollected, hclosed, hfull]
  · rw [hreceipts, hpending, hcounted]
    omega
  · rw [hreceipts, hfinished]
    simp only [hfull]

/-- The same signature is handed in twice, once under another name. -/
def soleOffers : List Submission :=
  [{ soleSubmission with claimed := Octets.zero 20 }, soleSubmission]

set_option maxRecDepth 100000 in
/-- It closes the bundle once, in whichever order. -/
theorem gathered_run_sole :
    soleSubmission.message.length = Instruction.messageLength ∧
      Bundles.empty.collections.get? (messageHash soleSubmission.message) = none ∧
      (∀ submission ∈ soleOffers, submission.message = soleSubmission.message) ∧
      soleOffers.reverse.Perm soleOffers ∧
      soleRegistry.turnout (soleOffers.filterMap Submission.signer?) = 1 ∧
      Gathered soleRegistry (messageHash soleSubmission.message)
        (soleOffers.filterMap Submission.signer?) (run soleRegistry .empty soleOffers.reverse) := by
  have hmessage : ∀ submission ∈ soleOffers, submission.message = soleSubmission.message := by
    decide
  exact ⟨by decide, rfl, hmessage, soleOffers.reverse_perm, by decide +kernel,
    gathered_run soleRegistry (by decide) rfl hmessage soleOffers.reverse_perm⟩

end Bundles

end QuorumBridge
