import Mathlib.Data.Finset.Card
import QuorumBridge.Proofs.Confirmations.Step

/-!
# The record of a run of confirmations

What the tallies remember is what was answered.

A run is any number of confirmations, by anybody and of any deposits, with
anything in between that others do to the treasury: value may come and go, and
identities may be spent. The tallies are built from the calls that were
accepted. This module says that nothing is lost and nothing is made up on the
way: the confirmers of a deposit are the authorities of its accepted
confirmations, in the order of the calls, and what each of them was answered
follows from its place in that order.

The argument carries the invariant of one confirmation along the run. It is an
induction on what happens, from any sound tallies on, since the rest of a run
starts from tallies that are not empty. A run that begins with none is the case
that matters: every prefix of it is such a run too.

That less than the threshold cannot release a deposit is then counting. The
confirmers of a released deposit are distinct and as many as the threshold, so
a smaller set of accounts leaves one of them out.

## Main definitions

* `Confirmations.Act`: What can happen in a run.
* `Confirmations.Ballot`, `Confirmations.Vote`: A confirmation with its answer,
  and an accepted one.
* `Confirmations.run`: The ballots of a run, and what it leaves.
* `Confirmations.Faithful`: The tallies say of a deposit what its votes were.

## Theorems

* `Confirmations.run_sound`: A run keeps the tallies sound.
* `Confirmations.confirmers_run`: A run adds its votes to the confirmers.
* `Confirmations.outcome_run`: What a vote was answered is said by its place.
* `Confirmations.faithful_run`: The tallies after a run are faithful to it.
-/

namespace QuorumBridge

namespace Confirmations

/-- What can happen while deposits are confirmed. -/
inductive Act (σ : Type)
  /-- An account confirms a deposit, whether or not it may. -/
  | confirm (deposit : Deposit) (account : Address)
  /-- Others change what the treasury holds or what it has spent. -/
  | interfere (change : σ → σ)

/-- A confirmation that was asked for, with its answer. -/
structure Ballot where
  deposit : Deposit
  account : Address
  result : Except Refusal ConfirmOutcome
deriving DecidableEq

/-- A confirmation that was accepted. -/
structure Vote where
  authority : Address
  outcome : ConfirmOutcome
deriving DecidableEq

/-- The vote that a ballot is for a deposit, if it is one and was accepted. -/
def Ballot.vote? (ballot : Ballot) (deposit : Deposit) : Option Vote :=
  if ballot.deposit = deposit then
    match ballot.result with
    | .ok outcome => some ⟨ballot.account, outcome⟩
    | .error _ => none
  else none

/-- The accepted confirmations of a deposit, in the order of the calls. -/
def votes (deposit : Deposit) (ballots : List Ballot) : List Vote :=
  ballots.filterMap (·.vote? deposit)

theorem votes_cons (deposit : Deposit) (ballot : Ballot) (rest : List Ballot) :
    votes deposit (ballot :: rest) = (ballot.vote? deposit).toList ++ votes deposit rest := by
  unfold votes
  rw [List.filterMap_cons]
  cases ballot.vote? deposit with
  | none => rfl
  | some vote => rfl

theorem vote?_error (deposit other : Deposit) (account : Address) (refusal : Refusal) :
    (Ballot.mk deposit account (.error refusal)).vote? other = none := by
  simp only [Ballot.vote?, ite_self]

/-- An accepted confirmation is a vote for its own deposit and for no other. -/
theorem vote?_ok (deposit other : Deposit) (account : Address) (outcome : ConfirmOutcome) :
    (Ballot.mk deposit account (.ok outcome)).vote? other =
      if deposit = other then some ⟨account, outcome⟩ else none := rfl

variable {σ : Type} [Treasury σ]

/-- The ballots of a run, and the tallies and the treasury after it. -/
def run (registry : Registry) : Confirmations → σ → List (Act σ) →
    List Ballot × Confirmations × σ
  | book, treasury, [] => ([], book, treasury)
  | book, treasury, .interfere change :: rest => run registry book (change treasury) rest
  | book, treasury, .confirm deposit account :: rest =>
    let answered := book.confirm treasury registry deposit account
    let after := run registry answered.2.1 answered.2.2 rest
    (⟨deposit, account, answered.1⟩ :: after.1, after.2)

variable {registry : Registry} {book : Confirmations}

theorem run_sound (h : book.Sound registry) (treasury : σ) (acts : List (Act σ)) :
    (run registry book treasury acts).2.1.Sound registry := by
  induction acts generalizing book treasury with
  | nil => exact h
  | cons act rest ih =>
    cases act with
    | interfere change => exact ih h (change treasury)
    | confirm deposit account =>
      -- What is left of the run starts from the tallies after this call.
      refine ih ?_ _
      cases hr : (book.confirm treasury registry deposit account).1 with
      | error refusal =>
        rw [confirm_error hr]
        exact h
      | ok outcome => exact (confirm_accepted h hr).sound

/-- What one confirmation adds to the votes for a deposit, it adds to its
    confirmers as well. -/
theorem confirmers_confirm (h : book.Sound registry) (treasury : σ) (deposit other : Deposit)
    (account : Address) :
    (book.confirm treasury registry deposit account).2.1.confirmers registry other =
      book.confirmers registry other ++
        ((Ballot.mk deposit account
          (book.confirm treasury registry deposit account).1).vote? other).toList.map
            Vote.authority := by
  cases hr : (book.confirm treasury registry deposit account).1 with
  | error refusal =>
    rw [confirm_error hr, vote?_error, Option.toList_none, List.map_nil, List.append_nil]
  | ok outcome =>
    rw [(confirm_accepted h hr).confirmers_eq, vote?_ok]
    -- An accepted vote is appended for its own deposit and leaves every other tally alone.
    by_cases hsame : deposit = other
    · rw [if_pos hsame, if_pos hsame.symm, hsame]
      rfl
    · rw [if_neg hsame, if_neg (fun hc => hsame hc.symm)]
      exact (List.append_nil _).symm

/-- A run adds the authorities of its votes to the confirmers, in the order of
    the calls. -/
theorem confirmers_run (h : book.Sound registry) (treasury : σ) (acts : List (Act σ))
    (deposit : Deposit) :
    (run registry book treasury acts).2.1.confirmers registry deposit =
      book.confirmers registry deposit ++
        (votes deposit (run registry book treasury acts).1).map Vote.authority := by
  induction acts generalizing book treasury with
  | nil => exact (List.append_nil _).symm
  | cons act rest ih =>
    cases act with
    | interfere change => exact ih h (change treasury)
    | confirm first account =>
      -- One call is a run as well, so its tallies are sound.
      have hsound := run_sound h treasury [.confirm first account]
      have hrest := ih hsound (book.confirm treasury registry first account).2.2
      simp only [run] at hrest ⊢
      rw [hrest, confirmers_confirm h, votes_cons, List.map_append, List.append_assoc]

/-- What a vote was answered is said by its place behind the confirmers that
    the run started from. -/
theorem outcome_run (h : book.Sound registry) (treasury : σ) (acts : List (Act σ))
    (deposit : Deposit) (j : Nat) (vote : Vote)
    (hat : (votes deposit (run registry book treasury acts).1)[j]? = some vote) :
    vote.outcome = registry.outcome ((book.confirmers registry deposit).length + j + 1) := by
  induction acts generalizing book treasury j with
  | nil => exact absurd hat (by simp only [run, votes, List.filterMap_nil, List.getElem?_nil,
      reduceCtorEq, not_false_eq_true])
  | cons act rest ih =>
    cases act with
    | interfere change => exact ih h (change treasury) j hat
    | confirm first account =>
      have hsound := run_sound h treasury [.confirm first account]
      have hrest := ih hsound (book.confirm treasury registry first account).2.2
      have hgrown := confirmers_confirm h treasury first deposit account
      simp only [run] at hrest hat
      rw [hgrown] at hrest
      rw [votes_cons] at hat
      cases hr : (book.confirm treasury registry first account).1 with
      | error refusal =>
        -- A refused call is no vote, so the places are those of the rest.
        rw [hr, vote?_error, Option.toList_none] at hat hrest
        rw [List.map_nil, List.append_nil] at hrest
        exact hrest j hat
      | ok outcome =>
        rw [hr, vote?_ok] at hat hrest
        by_cases hsame : first = deposit
        · rw [if_pos hsame, Option.toList_some, List.singleton_append] at hat
          rw [if_pos hsame, Option.toList_some, List.map_singleton, List.length_append,
            List.length_singleton] at hrest
          -- The first vote has the next place, and all others come behind it.
          cases j with
          | zero =>
            rw [List.getElem?_cons_zero, Option.some.injEq] at hat
            rw [← hat, ← hsame]
            exact (confirm_accepted h hr).outcome_eq
          | succ i =>
            rw [List.getElem?_cons_succ] at hat
            rw [hrest i hat]
            congr 1
            omega
        · -- Nor is a vote for another deposit.
          rw [if_neg hsame, Option.toList_none] at hat hrest
          rw [List.map_nil, List.append_nil] at hrest
          exact hrest j hat

/-- The tallies say of a deposit what its votes were. -/
structure Faithful (registry : Registry) (book : Confirmations) (deposit : Deposit)
    (votes : List Vote) : Prop where
  /-- Its confirmers are the authorities of its accepted confirmations, in the
      order of the calls. -/
  confirmers_eq : book.confirmers registry deposit = votes.map Vote.authority
  /-- They are distinct. -/
  nodup : (book.confirmers registry deposit).Nodup
  /-- They are authorities. -/
  registered : ∀ account ∈ book.confirmers registry deposit,
    registry.isAuthority account = true
  /-- There are no more of them than the threshold asks for. -/
  length_le : (book.confirmers registry deposit).length ≤ registry.threshold
  /-- Below the threshold, each was told its own number. -/
  pending : ∀ j vote, votes[j]? = some vote → j + 1 < registry.threshold →
    vote.outcome = .pending (j + 1) registry.threshold
  /-- The deposit is released exactly if there are as many of them as the
      threshold asks for. -/
  isReleased_iff : book.isReleased deposit = true ↔
    (book.confirmers registry deposit).length = registry.threshold
  /-- The one that reached the threshold was told of the release. -/
  released : ∀ j vote, votes[j]? = some vote → j + 1 = registry.threshold →
    vote.outcome = .released registry.threshold
  /-- Nobody else was. -/
  released_once : ∀ j vote number, votes[j]? = some vote → vote.outcome = .released number →
    j + 1 = registry.threshold

/-- The tallies after a run of confirmations are faithful to its answers, for
    every deposit. It takes as many authorities as the threshold to release
    one: any smaller set of accounts leaves out a confirmer of it. -/
theorem faithful_run (registry : Registry) (treasury : σ) (acts : List (Act σ))
    (deposit : Deposit) :
    Faithful registry (run registry .empty treasury acts).2.1 deposit
        (votes deposit (run registry .empty treasury acts).1) ∧
      ((run registry .empty treasury acts).2.1.isReleased deposit = true →
        ∀ accounts : Finset Address, accounts.card < registry.threshold →
          ∃ account ∈ (run registry .empty treasury acts).2.1.confirmers registry deposit,
            account ∉ accounts) := by
  -- Everything said of a run from sound tallies holds of one from none.
  have hempty := sound_empty registry
  have hsound := run_sound hempty treasury acts
  have hconfirmers := confirmers_run hempty treasury acts deposit
  have houtcome := outcome_run hempty treasury acts deposit
  have hnone : Confirmations.empty.confirmers registry deposit = [] := rfl
  rw [hnone, List.nil_append] at hconfirmers
  simp only [hnone, List.length_nil, Nat.zero_add] at houtcome
  have hnodup := hsound.nodup_confirmers deposit
  have hlength := hsound.length_confirmers_le deposit
  have hreleased := hsound.isReleased_iff deposit
  constructor
  · refine ⟨hconfirmers, hnodup, ?_, hlength, ?_, hreleased, ?_, ?_⟩
    · intro account hmem
      exact List.contains_iff_mem.2 (mem_authorities_of_mem_confirmers hmem)
    · intro j vote hat hlt
      rw [houtcome j vote hat, Registry.outcome, if_pos hlt]
    · intro j vote hat heq
      rw [houtcome j vote hat, Registry.outcome, if_neg (by omega), heq]
    · intro j vote number hat hout
      rw [houtcome j vote hat, Registry.outcome] at hout
      by_cases hlt : j + 1 < registry.threshold
      · rw [if_pos hlt] at hout
        exact absurd hout (by simp only [reduceCtorEq, not_false_eq_true])
      · -- There is no place beyond the threshold.
        have hplace := (List.getElem?_eq_some_iff.1 hat).1
        have hcount := congrArg List.length hconfirmers
        rw [List.length_map] at hcount
        omega
  · intro hrel accounts hcard
    -- The confirmers are a set as large as the threshold.
    have hlarge : accounts.card <
        ((run registry .empty treasury acts).2.1.confirmers registry deposit).toFinset.card := by
      rw [List.toFinset_card_of_nodup hnodup, hreleased.1 hrel]
      exact hcard
    rcases Finset.exists_mem_notMem_of_card_lt_card hlarge with ⟨account, hmem, hout⟩
    exact ⟨account, List.mem_toFinset.1 hmem, hout⟩

end Confirmations

end QuorumBridge
