import QuorumBridge.Proofs.Confirmations.Payment
import QuorumBridge.Proofs.Confirmations.Record
import QuorumBridge.Proofs.Ledger

/-!
# Confirmations in either order

Two confirmations of different deposits may come in either order.

That they write to different tallies is the easy half. The other half is that
both may reach their thresholds, and then both pay, from the same reserves and
perhaps to the same account. The one that comes second finds less in the
reserves and more in the account, so it is not plain that it would have been
paid had it come first. It would have been: the two payments together are within
the reserves and the limits, and what is payable together is payable in any
order (`Ledger.Payable.swap`). Two deposits of one transaction share an
identity. The first that is paid takes it, so the two are never both paid, and
where only one of them is, the other does not look at the identity at all.

The states that are left are not equal as terms. A table keeps its entries in
the order in which their keys came, and so does a guard. They are alike: every
question about a tally, an identity, a balance or the reserves has the same
answer. `Alike.run` says that this is all that a confirmation looks at, so that
nothing later can tell the two orders apart either.

## Main definitions

* `Books.Alike`: The same is spent, and the same is held.
* `Confirmations.Alike`: The same tallies, over books that are alike.
* `Confirmations.asks`: Confirmations one after another.

## Theorems

* `Books.CanPay.swap`: Two deposits that are paid are payable in either order.
* `Books.paid_swap`: Paying them in either order leaves books that are alike.
* `Confirmations.Alike.run`: Nothing tells states apart that are alike.
* `Confirmations.swap_pair`: Two confirmations may come in either order.
* `Confirmations.swap_run`: They may do so within a longer run.
-/

namespace QuorumBridge

/-- The same identities are spent, and the same value is held. -/
structure Books.Alike (books other : Books) : Prop where
  spent : ∀ key, books.replays.isSpent key = other.replays.isSpent key
  balances : ∀ account, books.ledger.balances.get? account = other.ledger.balances.get? account
  reserves : books.ledger.reserves = other.ledger.reserves

namespace Books

variable {books other : Books} {first second deposit : Deposit}

theorem Alike.refl (books : Books) : books.Alike books :=
  ⟨fun _ => rfl, fun _ => rfl, rfl⟩

theorem paid_ledger (books : Books) (deposit : Deposit) :
    (books.paid deposit).ledger = books.ledger.pay ⟨deposit.recipient, deposit.value⟩ := rfl

theorem isSpent_paid (books : Books) (deposit : Deposit) (key : ReplayKey) :
    (books.paid deposit).replays.isSpent key =
      (books.replays.isSpent key || decide (key = .homeDeposit deposit.transaction)) :=
  ReplayGuard.isSpent_reserve _ _ _

theorem Alike.paid (h : books.Alike other) (deposit : Deposit) :
    (books.paid deposit).Alike (other.paid deposit) := by
  refine ⟨?_, ?_, ?_⟩
  · intro key
    rw [isSpent_paid, isSpent_paid, h.spent]
  · intro account
    simp only [paid_ledger, Ledger.pay, Ledger.balance, Table.get?_put, h.balances]
  · simp only [paid_ledger, Ledger.pay, h.reserves]

/-- Two deposits that were paid one after the other can be paid in the other
    order. -/
theorem CanPay.swap (hfirst : books.CanPay first) (hsecond : (books.paid first).CanPay second) :
    books.CanPay second ∧ (books.paid second).CanPay first := by
  -- The second identity was free although the first was taken, so they are two.
  have hfree := hsecond.free
  rw [isSpent_paid, Bool.or_eq_false_iff, decide_eq_false_iff_not] at hfree
  have hpayable := (Ledger.checkRelease_eq_ok_iff _ _).1 hfirst.covered
  have hrest := (Ledger.checkRelease_eq_ok_iff _ _).1 hsecond.covered
  rw [paid_ledger] at hrest
  -- What is paid one after the other is payable together.
  have htogether := (hpayable.of_pay hrest).swap
  refine ⟨⟨hfree.1, ?_⟩, ⟨?_, ?_⟩⟩
  · exact (Ledger.checkRelease_eq_ok_iff _ _).2 htogether.head
  · rw [isSpent_paid, hfirst.free, Bool.false_or, decide_eq_false_iff_not]
    exact fun hsame => hfree.2 hsame.symm
  · rw [paid_ledger]
    exact (Ledger.checkRelease_eq_ok_iff _ _).2 htogether.tail

theorem paid_swap (books : Books) (first second : Deposit) :
    ((books.paid second).paid first).Alike ((books.paid first).paid second) := by
  refine ⟨?_, ?_, ?_⟩
  · intro key
    simp only [isSpent_paid]
    exact Bool.or_right_comm _ _ _
  · intro account
    exact Ledger.balances_pay_comm books.ledger _ _ account
  · exact Ledger.reserves_pay_comm books.ledger _ _

end Books

namespace Confirmations

/-- The same tallies are held, over books that are alike. -/
structure Alike (state other : Confirmations × Books) : Prop where
  tallies : ∀ deposit, state.1.tallies.get? deposit = other.1.tallies.get? deposit
  books : state.2.Alike other.2

/-- Confirmations asked for one after another, with nothing in between. -/
def asks {σ : Type} (calls : List (Deposit × Address)) : List (Act σ) :=
  calls.map fun call => .confirm call.1 call.2

variable {registry : Registry}

/-- Where the same is held, a confirmation is answered the same, and the same is
    held afterwards. -/
theorem Alike.confirm {state other : Confirmations × Books} (h : Alike state other)
    (registry : Registry) (deposit : Deposit) (account : Address) :
    (state.1.confirm state.2 registry deposit account).1 =
        (other.1.confirm other.2 registry deposit account).1 ∧
      Alike (state.1.confirm state.2 registry deposit account).2
        (other.1.confirm other.2 registry deposit account).2 := by
  -- The same is put under the same deposit.
  have hput : ∀ tally k, (state.1.tallies.put deposit tally).get? k =
      (other.1.tallies.put deposit tally).get? k := by
    intro tally k
    rw [Table.get?_put, Table.get?_put, h.tallies]
  unfold Confirmations.confirm
  cases registry.position? account with
  | none => exact ⟨rfl, h⟩
  | some index =>
    simp only [vote_congr (h.tallies deposit)]
    cases other.1.vote registry deposit account index with
    | error refusal => exact ⟨rfl, h⟩
    | ok signers =>
      simp only
      by_cases hbelow : signers.size < registry.threshold
      · simp only [if_pos hbelow, true_and]
        exact ⟨hput _, h.books⟩
      · simp only [if_neg hbelow, settle_books, h.books.spent,
          Ledger.checkRelease_congr h.books.balances h.books.reserves]
        by_cases hspent : other.2.replays.isSpent (.homeDeposit deposit.transaction) = true
        · simp only [if_pos hspent, true_and]
          exact h
        · simp only [if_neg hspent]
          cases other.2.ledger.checkRelease deposit.payouts with
          | error fault => exact ⟨rfl, h⟩
          | ok _ => exact ⟨rfl, hput _, h.books.paid deposit⟩

/-- Where the same is held, a run of confirmations is answered the same, and the
    same is held afterwards. -/
theorem Alike.run {state other : Confirmations × Books} (h : Alike state other)
    (registry : Registry) (calls : List (Deposit × Address)) :
    (Confirmations.run registry state.1 state.2 (asks calls)).1 =
        (Confirmations.run registry other.1 other.2 (asks calls)).1 ∧
      Alike (Confirmations.run registry state.1 state.2 (asks calls)).2
        (Confirmations.run registry other.1 other.2 (asks calls)).2 := by
  induction calls generalizing state other with
  | nil => exact ⟨rfl, h⟩
  | cons call rest ih =>
    -- The first call leaves states that are alike again, and the rest starts from them.
    rcases h.confirm registry call.1 call.2 with ⟨hanswer, hafter⟩
    rcases ih hafter with ⟨hballots, hend⟩
    refine ⟨?_, hend⟩
    exact congrArg₂ List.cons (congrArg (Ballot.mk call.1 call.2) hanswer) hballots

variable {book : Confirmations} {books : Books} {first second : Deposit}
  {signers others : SignerSet}

/-- A vote that is kept leaves the tallies of other deposits as they are. -/
theorem get?_kept_of_ne (hne : first ≠ second) :
    (book.kept books registry first signers).2.1.tallies.get? second =
      book.tallies.get? second := by
  unfold kept
  simp only [Table.get?_put, if_neg hne]

/-- Of two votes that were kept, each finds its deposit payable in the other
    order if it reaches the threshold. -/
theorem kept_canPay_swap
    (hfirst : registry.threshold ≤ signers.size → books.CanPay first)
    (hsecond : registry.threshold ≤ others.size →
      (book.kept books registry first signers).2.2.CanPay second) :
    (registry.threshold ≤ others.size → books.CanPay second) ∧
      (registry.threshold ≤ signers.size →
        (book.kept books registry second others).2.2.CanPay first) := by
  unfold kept at hsecond ⊢
  simp only at hsecond ⊢
  by_cases hbelow : signers.size < registry.threshold
  · -- The first vote pays nothing, and asks for nothing.
    rw [if_pos hbelow] at hsecond
    exact ⟨hsecond, fun hreached => absurd hbelow (Nat.not_lt.2 hreached)⟩
  · rw [if_neg hbelow] at hsecond
    have hcan := hfirst (Nat.le_of_not_lt hbelow)
    by_cases hother : others.size < registry.threshold
    · rw [if_pos hother]
      exact ⟨fun hreached => absurd hother (Nat.not_lt.2 hreached), hfirst⟩
    · rw [if_neg hother]
      -- Two payments that can be made in one order can be made in the other.
      have hboth := hcan.swap (hsecond (Nat.le_of_not_lt hother))
      exact ⟨fun _ => hboth.1, fun _ => hboth.2⟩

/-- Two votes that were kept leave the same behind in the other order. -/
theorem kept_swap (hne : first ≠ second) (book : Confirmations) (books : Books)
    (registry : Registry) (signers others : SignerSet) :
    Alike
      ((book.kept books registry second others).2.1.kept
        (book.kept books registry second others).2.2 registry first signers).2
      ((book.kept books registry first signers).2.1.kept
        (book.kept books registry first signers).2.2 registry second others).2 := by
  unfold kept
  refine ⟨?_, ?_⟩
  · -- Each deposit has a tally of its own.
    intro deposit
    simp only [Table.get?_put]
    by_cases hfirst : first = deposit
    · have hsecond : ¬ second = deposit := fun hc => hne (hfirst.trans hc.symm)
      rw [if_pos hfirst, if_neg hsecond, if_pos hfirst]
    · rw [if_neg hfirst, if_neg hfirst]
  · simp only
    by_cases hbelow : signers.size < registry.threshold
    · -- The books are those of the other vote alone.
      rw [if_pos hbelow, if_pos hbelow]
      exact Books.Alike.refl _
    · rw [if_neg hbelow, if_neg hbelow]
      by_cases hother : others.size < registry.threshold
      · rw [if_pos hother, if_pos hother]
        exact Books.Alike.refl _
      · -- Both votes pay.
        rw [if_neg hother, if_neg hother]
        exact Books.paid_swap books first second

variable {authority other : Address} {outcome result : ConfirmOutcome}

/-- Of two confirmations of different deposits that were both accepted, each is
    accepted in the other order, too. -/
theorem confirm_swap (hne : first ≠ second)
    (hfirst : (book.confirm books registry first authority).1 = .ok outcome)
    (hsecond : ((book.confirm books registry first authority).2.1.confirm
      (book.confirm books registry first authority).2.2 registry second other).1 = .ok result) :
    (book.confirm books registry second other).1 = .ok result ∧
      ((book.confirm books registry second other).2.1.confirm
        (book.confirm books registry second other).2.2 registry first authority).1 = .ok outcome ∧
      Alike
        ((book.confirm books registry second other).2.1.confirm
          (book.confirm books registry second other).2.2 registry first authority).2
        ((book.confirm books registry first authority).2.1.confirm
          (book.confirm books registry first authority).2.2 registry second other).2 := by
  -- Both votes were added, the second one to tallies that hold the first.
  rcases adds_of_confirm_ok hfirst with ⟨signers, hadds, hpay, hkept⟩
  rw [hkept] at hfirst hsecond ⊢
  rcases adds_of_confirm_ok hsecond with ⟨others, hadded, hpaid, hlater⟩
  rw [hlater] at hsecond ⊢
  rcases kept_canPay_swap hpay hpaid with ⟨hpaySecond, hpayFirst⟩
  -- In the other order the tally of each is the one that it found.
  have haddsSecond : book.Adds registry second other others :=
    adds_congr (get?_kept_of_ne hne) hadded
  have haddsFirst : (book.kept books registry second others).2.1.Adds registry first authority
      signers :=
    adds_congr (get?_kept_of_ne (fun hc => hne hc.symm)).symm hadds
  rw [confirm_of_adds haddsSecond hpaySecond, confirm_of_adds haddsFirst hpayFirst]
  -- What a kept vote is answered is said by its signers.
  exact ⟨hsecond, hfirst, kept_swap hne book books registry signers others⟩

/-- Two confirmations of different deposits that are both accepted are both
    accepted in the other order. Each is answered the same, and the same is held
    afterwards. -/
theorem swap_pair (hne : first ≠ second) (book : Confirmations) (books : Books)
    (registry : Registry)
    (h : (run registry book books (asks [(first, authority), (second, other)])).1 =
      [⟨first, authority, .ok outcome⟩, ⟨second, other, .ok result⟩]) :
    (run registry book books (asks [(second, other), (first, authority)])).1 =
        [⟨second, other, .ok result⟩, ⟨first, authority, .ok outcome⟩] ∧
      Alike (run registry book books (asks [(second, other), (first, authority)])).2
        (run registry book books (asks [(first, authority), (second, other)])).2 := by
  simp only [asks, List.map_cons, List.map_nil, run, List.cons.injEq, Ballot.mk.injEq,
    true_and, and_true] at h ⊢
  rcases confirm_swap hne h.1 h.2 with ⟨hsecond, hfirst, halike⟩
  exact ⟨⟨hsecond, hfirst⟩, halike⟩

/-- One authority has confirmed two deposits that take all of the reserves. -/
def pairBook : Confirmations :=
  (run pairRegistry .empty (pairBooks 10)
    (asks [(pairDeposit 1, pairAccount 1), (pairDeposit 2, pairAccount 1)])).2.1

/-- The other one may release them in either order. -/
theorem swap_pair_pair :
    pairDeposit 1 ≠ pairDeposit 2 ∧
      (run pairRegistry pairBook (pairBooks 10)
          (asks [(pairDeposit 1, pairAccount 2), (pairDeposit 2, pairAccount 2)])).1 =
        [⟨pairDeposit 1, pairAccount 2, .ok (.released 2)⟩,
          ⟨pairDeposit 2, pairAccount 2, .ok (.released 2)⟩] ∧
      (run pairRegistry pairBook (pairBooks 10)
          (asks [(pairDeposit 2, pairAccount 2), (pairDeposit 1, pairAccount 2)])).1 =
        [⟨pairDeposit 2, pairAccount 2, .ok (.released 2)⟩,
          ⟨pairDeposit 1, pairAccount 2, .ok (.released 2)⟩] :=
  ⟨by decide, by decide +kernel,
    (swap_pair (by decide) pairBook (pairBooks 10) pairRegistry (by decide +kernel)).1⟩

/-- Exchanging two such confirmations within a longer run changes no answer, be
    it to these two or to those that come later. -/
theorem swap_run (hne : first ≠ second) (book : Confirmations) (books : Books)
    (registry : Registry) (earlier later : List (Deposit × Address))
    {before after : List Ballot} (hlength : before.length = earlier.length)
    (h : (run registry book books
        (asks (earlier ++ (first, authority) :: (second, other) :: later))).1 =
      before ++ ⟨first, authority, .ok outcome⟩ :: ⟨second, other, .ok result⟩ :: after) :
    (run registry book books
        (asks (earlier ++ (second, other) :: (first, authority) :: later))).1 =
        before ++ ⟨second, other, .ok result⟩ :: ⟨first, authority, .ok outcome⟩ :: after ∧
      Alike
        (run registry book books
          (asks (earlier ++ (second, other) :: (first, authority) :: later))).2
        (run registry book books
          (asks (earlier ++ (first, authority) :: (second, other) :: later))).2 := by
  induction earlier generalizing book books before with
  | nil =>
    -- The two calls come first.
    rw [List.length_nil, List.length_eq_zero_iff] at hlength
    subst hlength
    simp only [asks, List.nil_append, List.map_cons, run, List.cons.injEq, Ballot.mk.injEq,
      true_and] at h ⊢
    rcases h with ⟨hfirst, hsecond, hafter⟩
    rcases confirm_swap hne hfirst hsecond with ⟨hother, hanswer, halike⟩
    -- Nothing that comes later tells the two states apart.
    rcases halike.run registry later with ⟨hballots, hend⟩
    exact ⟨⟨hother, hanswer, hballots.trans hafter⟩, hend⟩
  | cons call rest ih =>
    cases before with
    | nil => exact absurd hlength (by simp only [List.length_nil, List.length_cons]; omega)
    | cons ballot ballots =>
      simp only [List.length_cons, Nat.add_right_cancel_iff] at hlength
      -- Both runs begin with this call, so it is answered the same in both.
      simp only [asks, List.cons_append, List.map_cons, run, List.cons.injEq] at h ⊢
      rcases ih _ _ hlength h.2 with ⟨hballots, hend⟩
      exact ⟨⟨h.1, hballots⟩, hend⟩

end Confirmations

end QuorumBridge
