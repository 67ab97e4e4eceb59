import QuorumBridge.Proofs.Bundles.Record

/-!
# One message among others

Submissions of other messages make no difference to a message.

Signatures over many messages come in mixed as the transfers do. Some bundles
are closed while others are not begun, and some of what is handed in is no
message at all. All of them are kept in one table, and a submission that is
accepted puts something there. It does so under the name of its own message, and
under that name it has looked before. So a bundle comes about as it does when
its own submissions are made and no others.

Unlike a deposit, a message is not paid when it is complete. Nothing is taken
from what messages have in common, and so nothing has to be assumed of the other
submissions: they may be refused, be accepted or close their bundles.

Two messages of one name would be one to the table. What is said here is said of
names, so that it holds whether or not there are such messages.

## Main definitions

* `Bundles.AgreeOn`: The same is known under a name.

## Theorems

* `Bundles.submit_other`: A submission of another name leaves a collection as
  it is.
* `Bundles.agreeOn_of_get?`: Whatever is known under a name is read off one
  collection.
* `Bundles.run_name`: What other submissions do is not looked at.
* `Bundles.independent_run`: Submissions of other names may be left out.
-/

namespace QuorumBridge

namespace Bundles

variable {book other : Bundles} {registry : Registry} {hash : Hash}

/-- What is known under a name is the same in two books. -/
structure AgreeOn (registry : Registry) (hash : Hash) (book other : Bundles) : Prop where
  message?_eq : book.message? hash = other.message? hash
  collected?_eq : book.collected? hash = other.collected? hash
  count_eq : book.count hash = other.count hash
  signature_eq : ∀ index, book.signature hash index = other.signature hash index
  hasSigned_eq : ∀ account message, messageHash message = hash →
    book.hasSigned registry account message = other.hasSigned registry account message

/-- All that is known under a name is read off the collection under it. -/
theorem agreeOn_of_get? (h : book.collections.get? hash = other.collections.get? hash)
    (registry : Registry) : AgreeOn registry hash book other where
  message?_eq := by rw [message?, message?, h]
  collected?_eq := by rw [collected?_eq, collected?_eq, h]
  count_eq := by rw [count, count, h]
  signature_eq := by
    intro index
    rw [signature, signature, h]
  hasSigned_eq := by
    -- What is asked for by a message is under the name of that message, here the same.
    rintro account message rfl
    rw [hasSigned, hasSigned, h]

/-- A submission of a message of another name leaves the collection under a name
    as it is. -/
theorem submit_other {message : List UInt8} (hother : messageHash message ≠ hash)
    (book : Bundles) (registry : Registry) (signature : Signature) (claimed relayer : Address) :
    (book.submit registry signature message claimed relayer).2.collections.get? hash =
      book.collections.get? hash := by
  rcases submit_cases book registry signature message claimed relayer with
    ⟨refusal, hr⟩ | ⟨pending, _, ⟨_, hr⟩ | ⟨_, hr⟩⟩
  · rw [hr]
  · rw [hr, Table.get?_put, if_neg hother]
  · rw [hr, Table.get?_put, if_neg hother]

/-- Submissions of other names may be left out of a run, and what else is stored
    may be another thing. -/
theorem run_name (h : book.collections.get? hash = other.collections.get? hash)
    (registry : Registry) (submissions : List Submission) :
    (run registry book submissions).1.filter (·.submission.name = hash) =
        (run registry other (submissions.filter (·.name = hash))).1 ∧
      (run registry book submissions).2.collections.get? hash =
        (run registry other (submissions.filter (·.name = hash))).2.collections.get? hash := by
  induction submissions generalizing book other with
  | nil => exact ⟨rfl, h⟩
  | cons submission rest ih =>
    by_cases hname : submission.name = hash
    · -- The submission is made in both runs, on the same collection.
      subst hname
      rcases submit_congr h registry submission.signature submission.claimed submission.relayer with
        ⟨hanswer, hafter⟩
      rcases ih hafter with ⟨hreceipts, hend⟩
      simp only [List.filter_cons, decide_true, if_true, run]
      exact ⟨by rw [hanswer, hreceipts], hend⟩
    · -- It is made in the first run only, under its own name.
      have hkept := submit_other hname book registry submission.signature submission.claimed
        submission.relayer
      rcases ih (hkept.trans h) with ⟨hreceipts, hend⟩
      simp only [List.filter_cons, hname, decide_false, Bool.false_eq_true, if_false, run]
      exact ⟨hreceipts, hend⟩

/-- The submissions of one name are answered as if all others had been left out,
    and the same is known under the name in the end. -/
theorem independent_run (registry : Registry) (book : Bundles) (submissions : List Submission)
    (hash : Hash) :
    (run registry book submissions).1.filter (·.submission.name = hash) =
        (run registry book (submissions.filter (·.name = hash))).1 ∧
      AgreeOn registry hash (run registry book submissions).2
        (run registry book (submissions.filter (·.name = hash))).2 := by
  rcases run_name rfl registry submissions with ⟨hreceipts, hend⟩
  exact ⟨hreceipts, agreeOn_of_get? hend registry⟩

end Bundles

end QuorumBridge
