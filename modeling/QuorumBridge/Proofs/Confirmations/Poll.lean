import QuorumBridge.Proofs.Confirmations.Payment
import QuorumBridge.Proofs.Confirmations.Record
import QuorumBridge.Proofs.Turnout

/-!
# One deposit, any votes

What comes of a deposit when any accounts confirm it, in any order and as often
as they like.

The answers to single votes do depend on the order. Of two votes the later one
may be the one that releases the deposit, or the one that is too late. What
comes of all of them does not: it is a function of how many authorities are
among the accounts (`Registry.turnout`) and of whether the books can pay the
deposit.

The books come in by the last vote. As long as the threshold is not reached a
confirmation touches no books, so they are what they were in the beginning, and
so is the answer to whether they can pay. If they cannot, the vote that would
reach the threshold is refused, whoever casts it and however often, and the
tally stays one short. There is then one place less in it, and that is the only
difference: `Counted` takes the number of places as its limit. Of a released
deposit there is nothing left to say, since every place is taken.

The numbers of answers follow from the length of the tally, which every accepted
vote makes longer by one (`Registry.Advanced`).

## Main definitions

* `Ballot.isPending`, `Ballot.isReleased`: How a ballot was answered.
* `Confirmations.poll`: Accounts confirm one deposit, one after another.
* `Confirmations.places`: How many confirmations of a deposit there is room for.
* `Confirmations.Polling`: What is kept while the accounts come.
* `Confirmations.Polled`: What comes of it, in terms of the turnout.

## Theorems

* `Confirmations.Polling.step`, `Confirmations.Polling.run`: One vote, and any
  number of them.
* `Confirmations.poll_congr`: The tallies of other deposits are not looked at.
* `Confirmations.poll_decided`: What comes of a poll depends on the turnout and
  on what the books can pay, and not on the order.
-/

namespace QuorumBridge

namespace Confirmations

/-- Whether a confirmation was taken and the deposit still waits. -/
def Ballot.isPending (ballot : Ballot) : Bool :=
  match ballot.result with
  | .ok (.pending _ _) => true
  | _ => false

/-- Whether a confirmation has paid the deposit. -/
def Ballot.isReleased (ballot : Ballot) : Bool :=
  match ballot.result with
  | .ok (.released _) => true
  | _ => false

/-- Accounts confirm one deposit, one after another. -/
def poll (registry : Registry) (book : Confirmations) (books : Books) (deposit : Deposit)
    (accounts : List Address) : List Ballot × Confirmations × Books :=
  run registry book books (accounts.map (.confirm deposit))

/-- How many confirmations of a deposit there is room for. The last place is not
    to be had if the deposit cannot be paid. -/
def places (registry : Registry) (books : Books) (deposit : Deposit) : Nat :=
  if books.CanPay deposit then registry.threshold else registry.threshold - 1

theorem poll_cons (registry : Registry) (book : Confirmations) (books : Books)
    (deposit : Deposit) (account : Address) (rest : List Address) :
    poll registry book books deposit (account :: rest) =
      (⟨deposit, account, (book.confirm books registry deposit account).1⟩ ::
          (poll registry (book.confirm books registry deposit account).2.1
            (book.confirm books registry deposit account).2.2 deposit rest).1,
        (poll registry (book.confirm books registry deposit account).2.1
          (book.confirm books registry deposit account).2.2 deposit rest).2) := rfl

/-- Some accounts have come to confirm a deposit, and the books were these when
    nobody had come. -/
structure Polling (registry : Registry) (first : Books) (deposit : Deposit)
    (came : List Address) (book : Confirmations) (books : Books) : Prop where
  sound : book.Sound registry
  counted : registry.Counted (places registry first deposit) came
    (book.confirmers registry deposit)
  books_eq : books =
    if (book.confirmers registry deposit).length < registry.threshold then first
    else first.paid deposit

variable {registry : Registry} {first books : Books} {deposit : Deposit} {came : List Address}
  {book : Confirmations}

/-- There is a place for a vote below the threshold, unless it is the last one
    and the deposit cannot be paid. -/
theorem lt_places_iff {length : Nat} (hbelow : length < registry.threshold) :
    length < places registry first deposit ↔
      (registry.threshold ≤ length + 1 → first.CanPay deposit) := by
  unfold places
  by_cases hcan : first.CanPay deposit
  · rw [if_pos hcan]
    exact ⟨fun _ _ => hcan, fun _ => hbelow⟩
  · rw [if_neg hcan]
    -- The last place is not to be had, so below the places is below the last but one.
    constructor
    · intro hlt hreached
      omega
    · intro hreached
      by_cases hlast : registry.threshold ≤ length + 1
      · exact absurd (hreached hlast) hcan
      · omega

theorem places_le (registry : Registry) (books : Books) (deposit : Deposit) :
    places registry books deposit ≤ registry.threshold := by
  unfold places
  split
  · exact Nat.le_refl _
  · exact Nat.sub_le _ _

/-- An authority that is turned down although there is a place has one already. -/
theorem Polling.mem_of_refused (h : Polling registry first deposit came book books)
    {account : Address} {refusal : Refusal}
    (hr : book.confirm books registry deposit account = (.error refusal, book, books))
    (hauthority : registry.isAuthority account = true)
    (hroom : (book.confirmers registry deposit).length < places registry first deposit) :
    account ∈ book.confirmers registry deposit := by
  by_contra hnew
  have hbooks := h.books_eq
  have hbelow := Nat.lt_of_lt_of_le hroom (places_le registry first deposit)
  rw [if_pos hbelow] at hbooks
  -- Otherwise its vote would be added, and the books could pay if it came to that.
  rcases (adds_iff h.sound deposit account).2
    ⟨List.contains_iff_mem.1 hauthority, hnew, hbelow⟩ with ⟨signers, hadds⟩
  have hpay : registry.threshold ≤ signers.size → books.CanPay deposit := by
    rw [hadds.size_eq h.sound, hbooks]
    exact (lt_places_iff hbelow).1 hroom
  have hkept := confirm_of_adds hadds hpay
  rw [hr] at hkept
  exact absurd (congrArg Prod.fst hkept) (by simp only [kept, reduceCtorEq, not_false_eq_true])

/-- A ballot that is refused is of neither kind. -/
theorem advanced_error (registry : Registry) (deposit : Deposit) (account : Address)
    (refusal : Refusal) (length : Nat) :
    registry.Advanced length length
      (if (Ballot.mk deposit account (.error refusal)).isPending then 1 else 0)
      (if (Ballot.mk deposit account (.error refusal)).isReleased then 1 else 0) :=
  .refl registry length

/-- A vote is pending below the threshold and releases the deposit at it. -/
theorem advanced_outcome {registry : Registry} {length : Nat}
    (hbelow : length < registry.threshold) (deposit : Deposit) (account : Address) :
    registry.Advanced length (length + 1)
      (if (Ballot.mk deposit account (.ok (registry.outcome (length + 1)))).isPending then 1 else 0)
      (if (Ballot.mk deposit account (.ok (registry.outcome (length + 1)))).isReleased
        then 1 else 0) := by
  unfold Registry.outcome
  by_cases hnext : length + 1 < registry.threshold
  · simp only [if_pos hnext, Ballot.isPending, Ballot.isReleased, Bool.false_eq_true, if_true,
      if_false]
    exact .next hnext
  · simp only [if_neg hnext, Ballot.isPending, Ballot.isReleased, Bool.false_eq_true, if_true,
      if_false]
    exact .last (by omega)

/-- One more account comes. It is turned down, or its vote is the next one. -/
theorem Polling.step (h : Polling registry first deposit came book books) (account : Address) :
    Polling registry first deposit (came ++ [account])
        (book.confirm books registry deposit account).2.1
        (book.confirm books registry deposit account).2.2 ∧
      registry.Advanced (book.confirmers registry deposit).length
        ((book.confirm books registry deposit account).2.1.confirmers registry deposit).length
        (if (Ballot.mk deposit account
          (book.confirm books registry deposit account).1).isPending then 1 else 0)
        (if (Ballot.mk deposit account
          (book.confirm books registry deposit account).1).isReleased then 1 else 0) := by
  have hbooks := h.books_eq
  rcases confirm_refused_or_adds book books registry deposit account with
    ⟨refusal, hr⟩ | ⟨signers, hadds, hpay, hr⟩
  · have hpass := h.counted.pass (fun hauthority hroom => h.mem_of_refused hr hauthority hroom)
    rw [hr]
    exact ⟨⟨h.sound, hpass, hbooks⟩, advanced_error registry deposit account refusal _⟩
  · have hsize := hadds.size_eq h.sound
    have hok : (book.confirm books registry deposit account).1 =
        .ok (registry.outcome ((book.confirmers registry deposit).length + 1)) := by
      rw [hr, ← hsize]
      rfl
    have haccepted := confirm_accepted h.sound hok
    have hbelow := haccepted.below
    have hlist := haccepted.confirmers_eq deposit
    rw [if_pos rfl] at hlist
    have hlength : ((book.confirm books registry deposit account).2.1.confirmers registry
        deposit).length = (book.confirmers registry deposit).length + 1 := by
      rw [hlist, List.length_append, List.length_singleton]
    -- Below the threshold the books are the first ones, so these can pay, too.
    rw [if_pos hbelow] at hbooks
    rw [hsize, hbooks] at hpay
    have hroom := (lt_places_iff hbelow).2 hpay
    refine ⟨⟨haccepted.sound, ?_, ?_⟩, ?_⟩
    · rw [hlist]
      exact h.counted.add (List.contains_iff_mem.2 haccepted.registered) haccepted.new hroom
    · rw [hlength, ← hsize, hr, hbooks]
      rfl
    · rw [hlength, hok]
      exact advanced_outcome hbelow deposit account

/-- Any number of accounts come. -/
theorem Polling.run (h : Polling registry first deposit came book books)
    (accounts : List Address) :
    Polling registry first deposit (came ++ accounts)
        (poll registry book books deposit accounts).2.1
        (poll registry book books deposit accounts).2.2 ∧
      registry.Advanced (book.confirmers registry deposit).length
        ((poll registry book books deposit accounts).2.1.confirmers registry deposit).length
        ((poll registry book books deposit accounts).1.countP Ballot.isPending)
        ((poll registry book books deposit accounts).1.countP Ballot.isReleased) := by
  induction accounts generalizing came book books with
  | nil =>
    rw [List.append_nil]
    exact ⟨h, .refl registry _⟩
  | cons account rest ih =>
    -- What was told in the rest is added to what the first one was told.
    rcases h.step account with ⟨hnext, hfirst⟩
    rcases ih hnext with ⟨hend, hrest⟩
    rw [List.append_assoc, List.singleton_append] at hend
    rw [poll_cons]
    simp only [List.countP_cons]
    exact ⟨hend, hfirst.trans hrest⟩

/-- A poll on one deposit looks at one tally. Whatever else is held, it is
    answered the same, and it does the same to the tally and to the books. -/
theorem poll_congr {other : Confirmations}
    (h : book.tallies.get? deposit = other.tallies.get? deposit) (registry : Registry)
    (books : Books) (accounts : List Address) :
    (poll registry book books deposit accounts).1 =
        (poll registry other books deposit accounts).1 ∧
      (poll registry book books deposit accounts).2.1.tallies.get? deposit =
        (poll registry other books deposit accounts).2.1.tallies.get? deposit ∧
      (poll registry book books deposit accounts).2.2 =
        (poll registry other books deposit accounts).2.2 := by
  induction accounts generalizing book other books with
  | nil => exact ⟨rfl, h, rfl⟩
  | cons account rest ih =>
    -- One confirmation leaves tallies that agree on the deposit, and the same books.
    rcases confirm_congr h books registry account with ⟨hanswer, htally, hbooks⟩
    rw [poll_cons, poll_cons, hanswer, hbooks]
    rcases ih htally (other.confirm books registry deposit account).2.2 with
      ⟨hballots, hend, hafter⟩
    exact ⟨congrArg (List.cons _) hballots, hend, hafter⟩

/-- What comes of a poll on a deposit that nobody has confirmed, in terms of the
    turnout and of what the books could pay in the beginning. -/
structure Polled (registry : Registry) (books : Books) (deposit : Deposit)
    (accounts : List Address) (result : List Ballot × Confirmations × Books) : Prop where
  isReleased_iff : result.2.1.isReleased deposit = true ↔
    registry.threshold ≤ registry.turnout accounts ∧ books.CanPay deposit
  count_eq : result.2.1.count deposit = min (registry.turnout accounts)
    (if books.CanPay deposit then registry.threshold else registry.threshold - 1)
  pending_eq : result.1.countP Ballot.isPending =
    min (registry.turnout accounts) (registry.threshold - 1)
  released_eq : result.1.countP Ballot.isReleased =
    if result.2.1.isReleased deposit then 1 else 0
  books_eq : result.2.2 = if result.2.1.isReleased deposit then books.paid deposit else books

/-- Two polls on a deposit came to the same. They need not have counted the same
    authorities. -/
structure SameEnd (deposit : Deposit) (result other : List Ballot × Confirmations × Books) :
    Prop where
  isReleased_eq : result.2.1.isReleased deposit = other.2.1.isReleased deposit
  count_eq : result.2.1.count deposit = other.2.1.count deposit
  pending_eq : result.1.countP Ballot.isPending = other.1.countP Ballot.isPending
  released_eq : result.1.countP Ballot.isReleased = other.1.countP Ballot.isReleased
  replays_eq : result.2.2.replays = other.2.2.replays
  ledger_eq : result.2.2.ledger = other.2.2.ledger

/-- What comes of a poll is said by the turnout, so equal turnouts come to the
    same. -/
theorem Polled.sameEnd {accounts others : List Address}
    {result other : List Ballot × Confirmations × Books}
    (h : Polled registry books deposit accounts result)
    (hother : Polled registry books deposit others other)
    (hturnout : registry.turnout accounts = registry.turnout others) :
    SameEnd deposit result other := by
  have hreleased : result.2.1.isReleased deposit = other.2.1.isReleased deposit := by
    rw [Bool.eq_iff_iff, h.isReleased_iff, hother.isReleased_iff, hturnout]
  -- The books are a function of whether the deposit is released.
  have hbooks : result.2.2 = other.2.2 := by
    rw [h.books_eq, hother.books_eq, hreleased]
  refine ⟨hreleased, ?_, ?_, ?_, ?_, ?_⟩
  · rw [h.count_eq, hother.count_eq, hturnout]
  · rw [h.pending_eq, hother.pending_eq, hturnout]
  · rw [h.released_eq, hother.released_eq, hreleased]
  · rw [hbooks]
  · rw [hbooks]

/-- Nothing of this is said by any other tally. -/
theorem Polled.of_tally {accounts : List Address}
    {result other : List Ballot × Confirmations × Books}
    (h : Polled registry books deposit accounts other)
    (hsame : result.1 = other.1 ∧
      result.2.1.tallies.get? deposit = other.2.1.tallies.get? deposit ∧
      result.2.2 = other.2.2) :
    Polled registry books deposit accounts result := by
  rcases hsame with ⟨hballots, htally, hbooks⟩
  -- What is said of a poll is said of its answers, of one tally and of the books.
  have hreleased := isReleased_congr htally
  have hcount := count_congr htally
  refine ⟨?_, ?_, ?_, ?_, ?_⟩
  · rw [hreleased]
    exact h.isReleased_iff
  · rw [hcount]
    exact h.count_eq
  · rw [hballots]
    exact h.pending_eq
  · rw [hballots, hreleased]
    exact h.released_eq
  · rw [hbooks, hreleased]
    exact h.books_eq

/-- The invariant of the whole list says what has come of it. -/
theorem Polling.polled {result : List Ballot × Confirmations × Books} {accounts : List Address}
    (h : Polling registry first deposit accounts result.2.1 result.2.2)
    (htold : registry.Advanced 0 (result.2.1.confirmers registry deposit).length
      (result.1.countP Ballot.isPending) (result.1.countP Ballot.isReleased)) :
    Polled registry first deposit accounts result := by
  have hpos := registry.threshold_pos
  have hle := h.sound.length_confirmers_le deposit
  have hlength := h.counted.length_eq
  have hfull := h.sound.isReleased_iff deposit
  have hbooks := h.books_eq
  rcases htold.of_zero hle with ⟨hpending, hreleased⟩
  have hiff : result.2.1.isReleased deposit = true ↔
      registry.threshold ≤ registry.turnout accounts ∧ first.CanPay deposit := by
    -- The tally is full if there was room for everybody and enough have come.
    rw [hfull, hlength]
    unfold places
    by_cases hcan : first.CanPay deposit
    · simp only [hcan, if_true, and_true]
      omega
    · -- One place is missing, so the turnout does not matter.
      simp only [hcan, if_false, and_false, iff_false]
      omega
  refine ⟨hiff, ?_, ?_, ?_, ?_⟩
  · rw [h.sound.count_eq]
    exact hlength
  · -- Whether there was a last place or not, it was not a pending one.
    rw [hpending, hlength]
    unfold places
    split
    · omega
    · omega
  · rw [hreleased]
    simp only [hfull]
  · rw [hbooks]
    by_cases hpaid : result.2.1.isReleased deposit = true
    · have hall := hfull.1 hpaid
      rw [if_pos hpaid, if_neg (by omega)]
    · have hsome : ¬ (result.2.1.confirmers registry deposit).length = registry.threshold :=
        fun hc => hpaid (hfull.2 hc)
      rw [if_neg hpaid, if_pos (by omega)]

/-- What comes of a deposit that nobody has confirmed, when any accounts confirm
    it, depends on how many authorities are among them and on whether the books
    can pay it. It does not depend on the order in which they come, nor on who
    else comes, nor on what is known of other deposits. -/
theorem poll_decided (registry : Registry) {book : Confirmations} (books : Books)
    {deposit : Deposit} (hnew : book.tallies.get? deposit = none) (accounts : List Address) :
    Polled registry books deposit accounts (poll registry book books deposit accounts) ∧
      ∀ others : List Address, others.Perm accounts →
        SameEnd deposit (poll registry book books deposit others)
          (poll registry book books deposit accounts) := by
  have hpolled : ∀ came, Polled registry books deposit came
      (poll registry book books deposit came) := by
    intro came
    -- It is enough to look at a poll that starts from no tallies at all.
    have hstart : Polling registry books deposit [] Confirmations.empty books := by
      refine ⟨sound_empty registry, registry.counted_nil _, ?_⟩
      exact (if_pos registry.threshold_pos).symm
    rcases hstart.run came with ⟨hend, htold⟩
    have hnone : Confirmations.empty.confirmers registry deposit = [] := rfl
    rw [hnone, List.length_nil] at htold
    exact (hend.polled htold).of_tally
      (poll_congr (hnew.trans (Table.get?_empty deposit).symm) registry books came)
  refine ⟨hpolled accounts, ?_⟩
  intro others hperm
  exact (hpolled others).sameEnd (hpolled accounts) (registry.turnout_perm hperm)

/-- An authority has confirmed another deposit. -/
def pairTold : Confirmations :=
  (poll pairRegistry .empty (pairBooks 10) (pairDeposit 2) [pairAccount 1]).2.1

/-- Both authorities come, one of them twice, and somebody else. -/
def pairComers : List Address :=
  [pairAccount 1, pairAccount 3, pairAccount 1, pairAccount 2]

/-- Whichever authority comes last releases the deposit. -/
theorem poll_decided_pair :
    pairTold.tallies.get? (pairDeposit 1) = none ∧
      pairRegistry.turnout pairComers = 2 ∧
      Polled pairRegistry (pairBooks 10) (pairDeposit 1) pairComers
        (poll pairRegistry pairTold (pairBooks 10) (pairDeposit 1) pairComers) ∧
      SameEnd (pairDeposit 1)
        (poll pairRegistry pairTold (pairBooks 10) (pairDeposit 1) pairComers.reverse)
        (poll pairRegistry pairTold (pairBooks 10) (pairDeposit 1) pairComers) :=
  ⟨by decide +kernel, by decide +kernel,
    (poll_decided pairRegistry (pairBooks 10) (by decide +kernel) pairComers).1,
    (poll_decided pairRegistry (pairBooks 10) (by decide +kernel) pairComers).2 _
      pairComers.reverse_perm⟩

end Confirmations

end QuorumBridge
