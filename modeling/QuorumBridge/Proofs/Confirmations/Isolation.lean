import QuorumBridge.Proofs.Confirmations.Poll

/-!
# One deposit among others

Confirmations of other deposits make no difference to a deposit, as long as
none of the others is paid.

An authority that gets a recipient, a value or a transaction wrong confirms
another deposit. The others may be many, some of them of the very transaction
that the right one is of, and their confirmations come at any time in between.
What is to be ruled out is that they leave something behind which a later
confirmation of the right deposit meets: in its tally, among the spent
identities or on the ledger.

The statement compares two runs. In one of them everybody confirms what they
like, and in the other one all confirmations of other deposits are left out.
What others do to the books is a part of both. The runs do not end with the same
tallies, since the first has tallies of deposits that the second has never heard
of. They agree on the one tally and on the books, and a confirmation looks at
nothing else (`confirm_congr`). That is carried along the two runs: a
confirmation of the deposit is made in both, and one of another deposit is made
in the first run only, where it touches neither the tally nor the books
(`confirm_other`).

Were another deposit paid, it would take value from the reserves, and the
identity as well if it is of the same transaction. So the assumption cannot be
left out. It is about the answers that were given in the run, not about who was
honest.

## Main definitions

* `Confirmations.Act.concerns`: What happens to a deposit in a run.
* `Confirmations.Isolated`: A deposit fares in one run as in another, in which
  no other deposit is confirmed.

## Theorems

* `Confirmations.confirm_other`: A confirmation of another deposit leaves the
  tally and the books as they are.
* `Confirmations.isolated_of_agree`: Runs from tallies that agree on a deposit.
* `Confirmations.isolated_run`: Confirmations of others may be left out.
-/

namespace QuorumBridge

namespace Confirmations

/-- Whether something that happens in a run is a confirmation of a deposit, or
    is done by others to the treasury. -/
def Act.concerns {σ : Type} (deposit : Deposit) : Act σ → Bool
  | .confirm other _ => decide (other = deposit)
  | .interfere _ => true

/-- A deposit fares in one run as it does in another, in which nobody confirms
    any other deposit. -/
structure Isolated (deposit : Deposit) (mixed alone : List Ballot × Confirmations × Books) :
    Prop where
  /-- Its confirmations are answered the same. -/
  ballots_eq : mixed.1.filter (·.deposit = deposit) = alone.1
  /-- Its tally is the same in the end. -/
  tally_eq : mixed.2.1.tallies.get? deposit = alone.2.1.tallies.get? deposit
  /-- The same is spent, and the same is left on the ledger. -/
  books_eq : mixed.2.2 = alone.2.2

variable {registry : Registry} {book other : Confirmations} {books : Books}
  {deposit first : Deposit} {account : Address}

/-- A confirmation of another deposit that does not pay it leaves the tally of a
    deposit and the books as they are. -/
theorem confirm_other (hother : first ≠ deposit)
    (hquiet : Ballot.isReleased
      ⟨first, account, (book.confirm books registry first account).1⟩ = false) :
    (book.confirm books registry first account).2.1.tallies.get? deposit =
        book.tallies.get? deposit ∧
      (book.confirm books registry first account).2.2 = books := by
  rcases confirm_books_cases book books registry first account with
    ⟨refusal, hr⟩ | ⟨index, signers, _, _, ⟨_, hr⟩ | ⟨_, _, _, hr⟩⟩
  · rw [hr]
    exact ⟨rfl, rfl⟩
  · rw [hr]
    exact ⟨by rw [Table.get?_put, if_neg hother], rfl⟩
  · -- The deposit would have been paid.
    rw [hr] at hquiet
    exact absurd hquiet (by simp only [Ballot.isReleased, Bool.true_eq_false,
      not_false_eq_true])

section Ballots

variable {mixed alone : List Ballot × Confirmations × Books}
  {result : Except Refusal ConfirmOutcome}

/-- A confirmation of the deposit comes first in both runs. -/
theorem Isolated.cons_own (h : Isolated deposit mixed alone) :
    Isolated deposit (⟨deposit, account, result⟩ :: mixed.1, mixed.2)
      (⟨deposit, account, result⟩ :: alone.1, alone.2) where
  ballots_eq := by
    simp only [List.filter_cons, decide_true, if_true, h.ballots_eq]
  tally_eq := h.tally_eq
  books_eq := h.books_eq

/-- A confirmation of another deposit comes first in one of them. -/
theorem Isolated.cons_other (h : Isolated deposit mixed alone) (hother : first ≠ deposit) :
    Isolated deposit (⟨first, account, result⟩ :: mixed.1, mixed.2) alone where
  ballots_eq := by
    simp only [List.filter_cons, hother, decide_false, Bool.false_eq_true, if_false, h.ballots_eq]
  tally_eq := h.tally_eq
  books_eq := h.books_eq

end Ballots

/-- Confirmations of other deposits may be left out of a run in which none of
    them is paid, and what else the tallies hold may be another thing. -/
theorem isolated_of_agree (h : book.tallies.get? deposit = other.tallies.get? deposit)
    {acts : List (Act Books)}
    (hquiet : ∀ ballot ∈ (run registry book books acts).1, ballot.deposit ≠ deposit →
      ballot.isReleased = false) :
    Isolated deposit (run registry book books acts)
      (run registry other books (acts.filter (·.concerns deposit))) := by
  induction acts generalizing book other books with
  | nil => exact ⟨rfl, h, rfl⟩
  | cons act rest ih =>
    cases act with
    | interfere change =>
      -- What others do is done in both runs.
      exact ih h hquiet
    | confirm first account =>
      have hlater : ∀ ballot ∈ (run registry (book.confirm books registry first account).2.1
          (book.confirm books registry first account).2.2 rest).1,
          ballot.deposit ≠ deposit → ballot.isReleased = false :=
        fun ballot hmem => hquiet ballot (List.mem_cons_of_mem _ hmem)
      by_cases hsame : first = deposit
      · -- The confirmation is made in both runs, on the same tally and the same books.
        subst hsame
        rcases confirm_congr h books registry account with ⟨hanswer, htally, hbooks⟩
        have hrest := ih htally hlater
        rw [hbooks] at hrest
        simp only [List.filter_cons, Act.concerns, decide_true, if_true, run]
        rw [hanswer, hbooks]
        exact hrest.cons_own
      · -- It is made in the first run only, and leaves nothing behind.
        rcases confirm_other hsame (hquiet _ List.mem_cons_self hsame) with ⟨htally, hbooks⟩
        have hrest := ih (htally.trans h) hlater
        rw [hbooks] at hrest
        simp only [List.filter_cons, Act.concerns, hsame, decide_false, Bool.false_eq_true,
          if_false, run]
        rw [hbooks]
        exact hrest.cons_other hsame

/-- In a run in which no other deposit is paid, the confirmations of a deposit
    are answered as if those of all others had been left out, and they lead to
    the same tally and the same books. -/
theorem isolated_run (registry : Registry) (book : Confirmations) (books : Books)
    (deposit : Deposit) (acts : List (Act Books))
    (hquiet : ∀ ballot ∈ (run registry book books acts).1, ballot.deposit ≠ deposit →
      ballot.isReleased = false) :
    Isolated deposit (run registry book books acts)
      (run registry book books (acts.filter (·.concerns deposit))) :=
  isolated_of_agree rfl hquiet

/-- Two accounts confirm a deposit, and each of them once gets it wrong: one the
    value and the other the recipient. -/
def pairMistakes : List (Act Books) :=
  [.confirm (pairDeposit 1) (pairAccount 1),
    .confirm { pairDeposit 1 with value := 6 } (pairAccount 1),
    .confirm { pairDeposit 1 with recipient := pairAccount 4 } (pairAccount 2),
    .confirm (pairDeposit 1) (pairAccount 2)]

/-- The deposit is released all the same. -/
theorem isolated_run_pair :
    (∀ ballot ∈ (run pairRegistry .empty (pairBooks 10) pairMistakes).1,
        ballot.deposit ≠ pairDeposit 1 → ballot.isReleased = false) ∧
      (run pairRegistry .empty (pairBooks 10) pairMistakes).2.1.isReleased (pairDeposit 1) =
        true ∧
      Isolated (pairDeposit 1) (run pairRegistry .empty (pairBooks 10) pairMistakes)
        (run pairRegistry .empty (pairBooks 10)
          (pairMistakes.filter (·.concerns (pairDeposit 1)))) := by
  have hquiet : ∀ ballot ∈ (run pairRegistry .empty (pairBooks 10) pairMistakes).1,
      ballot.deposit ≠ pairDeposit 1 → ballot.isReleased = false := by decide +kernel
  exact ⟨hquiet, by decide +kernel,
    isolated_run pairRegistry .empty (pairBooks 10) (pairDeposit 1) pairMistakes hquiet⟩

end Confirmations

end QuorumBridge
