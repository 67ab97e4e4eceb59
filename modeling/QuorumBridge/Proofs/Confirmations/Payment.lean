import QuorumBridge.Proofs.Confirmations.Step
import QuorumBridge.Proofs.Ledger

/-!
# Confirmations over books

What a confirmation does where a guard and a ledger pay.

Over books nothing comes between asking and paying, so a confirmation is two
decisions that have little to do with each other. The tallies decide whether
the vote is added and whether that reaches the threshold. The books decide
whether the deposit can be paid, and are asked for nothing else. `Adds` is the
first decision, `Books.CanPay` is the second, and `confirm_of_adds` puts them
together.

The first decision looks at one tally. What is known of other deposits makes no
difference to a confirmation, and a confirmation makes no difference to what is
known of other deposits. `confirm_congr` says so: tallies that agree on a
deposit answer its confirmations alike, whatever else they hold.

## Main definitions

* `Books.CanPay`, `Books.paid`: Whether a deposit can be paid, and the books
  when it was.
* `Registry.tally`: The tally that signers make.
* `Confirmations.Adds`: A vote is added to those for a deposit.

## Theorems

* `Ledger.checkRelease_congr`: Whether a deposit can be paid depends on the reserves and
  on a balance.
* `Confirmations.confirm_books_cases`: How a confirmation over books can end.
* `Confirmations.confirm_of_adds`: A vote that is added is kept if it can be.
* `Confirmations.confirm_refused_or_adds`: Nothing else ever happens.
* `Confirmations.adds_iff`: Whose votes are added.
* `Confirmations.confirm_congr`: A confirmation looks at one tally.
-/

namespace QuorumBridge

/-- The identity of a deposit is free, and the ledger can pay it. -/
structure Books.CanPay (books : Books) (deposit : Deposit) : Prop where
  free : books.replays.isSpent (.homeDeposit deposit.transaction) = false
  covered : books.ledger.checkRelease deposit.payouts = .ok ()

/-- Whether books can pay is settled by asking the guard and the ledger. -/
instance (books : Books) (deposit : Deposit) : Decidable (books.CanPay deposit) :=
  decidable_of_iff
    (books.replays.isSpent (.homeDeposit deposit.transaction) = false ∧
      books.ledger.checkRelease deposit.payouts = .ok ())
    ⟨fun h => ⟨h.1, h.2⟩, fun h => ⟨h.free, h.covered⟩⟩

/-- The books when a deposit was paid. -/
def Books.paid (books : Books) (deposit : Deposit) : Books where
  replays := (books.replays.reserve (.homeDeposit deposit.transaction)).2
  ledger := deposit.payouts.foldl Ledger.pay books.ledger

/-- The tally that signers make: they are enough, or more are needed. -/
def Registry.tally (registry : Registry) (signers : SignerSet) : Tally :=
  if signers.size < registry.threshold then .confirming signers else .released signers

/-- The account of a deposit is named, whatever the order, if it has no room. -/
theorem Ledger.find?_walk_payouts (ledger : Ledger) (deposit : Deposit) :
    (ledger.walk deposit.payouts).find? (fun account => !ledger.fits deposit.payouts account) =
      if ledger.fits deposit.payouts deposit.recipient then none else some deposit.recipient := by
  have hpaid : deposit.payouts.map Payout.account = [deposit.recipient] := rfl
  cases hfound : (ledger.walk deposit.payouts).find?
      fun account => !ledger.fits deposit.payouts account with
  | none => rw [if_pos ((fits_eq_true_iff _ _ _).2 (fits_of_find? hfound _))]
  | some account =>
    -- Whoever is named has no room for its credit, and with one payout the only account that is
    -- credited is the recipient.
    have hfull := List.find?_some hfound
    have hmem := mem_of_not_fits hfull
    rw [hpaid, List.mem_singleton] at hmem
    rw [Bool.not_eq_true', Bool.eq_false_iff, ne_eq, hmem] at hfull
    rw [if_neg hfull, hmem]

/-- The check of a deposit asks for the reserves and for a balance. The order of
    accounts is nothing to it, for there is only one to be named. -/
theorem Ledger.checkRelease_congr {ledger other : Ledger}
    (hbalances : ∀ account, ledger.balances.get? account = other.balances.get? account)
    (hreserves : ledger.reserves = other.reserves) (deposit : Deposit) :
    ledger.checkRelease deposit.payouts = other.checkRelease deposit.payouts := by
  have hfits : ledger.fits deposit.payouts = other.fits deposit.payouts := by
    unfold fits Ledger.balance
    simp only [hbalances]
  unfold checkRelease
  rw [find?_walk_payouts, find?_walk_payouts, hreserves, hfits]

namespace Confirmations

/-- The vote of an authority is added to those for a deposit, which makes them
    these signers. -/
def Adds (book : Confirmations) (registry : Registry) (deposit : Deposit) (authority : Address)
    (signers : SignerSet) : Prop :=
  ∃ index, registry.position? authority = some index ∧
    book.vote registry deposit authority index = .ok signers

/-- How a confirmation over books can end. If it is refused, nothing has
    changed, and if it pays the deposit, the identity of it was free and the
    ledger could pay. -/
theorem confirm_books_cases (book : Confirmations) (books : Books)
    (registry : Registry) (deposit : Deposit) (authority : Address) :
    (∃ refusal, book.confirm books registry deposit authority = (.error refusal, book, books)) ∨
      ∃ index signers, registry.position? authority = some index ∧
        book.vote registry deposit authority index = .ok signers ∧
        ((signers.size < registry.threshold ∧
            book.confirm books registry deposit authority =
              (.ok (.pending signers.size registry.threshold),
                ⟨book.tallies.put deposit (.confirming signers)⟩, books)) ∨
          (registry.threshold ≤ signers.size ∧
            books.replays.isSpent (.homeDeposit deposit.transaction) = false ∧
            books.ledger.checkRelease deposit.payouts = .ok () ∧
            book.confirm books registry deposit authority =
              (.ok (.released signers.size), ⟨book.tallies.put deposit (.released signers)⟩,
                ⟨(books.replays.reserve (.homeDeposit deposit.transaction)).2,
                  deposit.payouts.foldl Ledger.pay books.ledger⟩))) := by
  rcases confirm_cases book books registry deposit authority with
    ⟨refusal, after, hr, hafter⟩ | ⟨index, signers, hpos, hvote, hbelow | ⟨hreached, after, hsettle,
      hr⟩⟩
  · -- A settlement that was refused has left the books alone, too.
    have hsame : after = books := by
      rcases hafter with hkept | hsettle
      · exact hkept
      · exact settle_books_error hsettle
    rw [hsame] at hr
    exact Or.inl ⟨refusal, hr⟩
  · exact Or.inr ⟨index, signers, hpos, hvote, Or.inl hbelow⟩
  · rcases settle_books_ok hsettle with ⟨_, hfree, hcheck, hafter⟩
    rw [hafter] at hr
    exact Or.inr ⟨index, signers, hpos, hvote, Or.inr ⟨hreached, hfree, hcheck, hr⟩⟩

/-- What is written when a vote is added: the tally that the signers make, and
    the payment if they are enough. -/
def kept (book : Confirmations) (books : Books) (registry : Registry) (deposit : Deposit)
    (signers : SignerSet) : Except Refusal ConfirmOutcome × Confirmations × Books :=
  (.ok (registry.outcome signers.size), ⟨book.tallies.put deposit (registry.tally signers)⟩,
    if signers.size < registry.threshold then books else books.paid deposit)

variable {registry : Registry} {book : Confirmations} {books : Books} {deposit : Deposit}
  {authority : Address} {signers : SignerSet}

/-- A vote that is added is kept, unless it reaches the threshold of a deposit
    that cannot be paid. -/
theorem confirm_of_adds (h : book.Adds registry deposit authority signers)
    (hpay : registry.threshold ≤ signers.size → books.CanPay deposit) :
    book.confirm books registry deposit authority =
      book.kept books registry deposit signers := by
  rcases h with ⟨index, hpos, hvote⟩
  unfold confirm kept Registry.outcome Registry.tally
  simp only [hpos, hvote]
  by_cases hbelow : signers.size < registry.threshold
  · simp only [if_pos hbelow]
  · -- At the threshold the deposit is settled, which the books can do.
    have hcan := hpay (Nat.le_of_not_lt hbelow)
    simp only [if_neg hbelow, settle_books, hcan.free, hcan.covered, Bool.false_eq_true, if_false]
    rfl

/-- A confirmation over books is refused and changes nothing, or its vote is
    added and kept. -/
theorem confirm_refused_or_adds (book : Confirmations) (books : Books) (registry : Registry)
    (deposit : Deposit) (authority : Address) :
    (∃ refusal, book.confirm books registry deposit authority = (.error refusal, book, books)) ∨
      ∃ signers, book.Adds registry deposit authority signers ∧
        (registry.threshold ≤ signers.size → books.CanPay deposit) ∧
        book.confirm books registry deposit authority =
          book.kept books registry deposit signers := by
  rcases confirm_books_cases book books registry deposit authority with
    hrefused | ⟨index, signers, hpos, hvote, ⟨hbelow, _⟩ | ⟨_, hfree, hcheck, _⟩⟩
  · exact Or.inl hrefused
  · have hadds : book.Adds registry deposit authority signers := ⟨index, hpos, hvote⟩
    -- Below the threshold nothing is paid, so nothing is asked of the books.
    have hpay : registry.threshold ≤ signers.size → books.CanPay deposit :=
      fun hreached => absurd hbelow (Nat.not_lt.2 hreached)
    exact Or.inr ⟨signers, hadds, hpay, confirm_of_adds hadds hpay⟩
  · have hadds : book.Adds registry deposit authority signers := ⟨index, hpos, hvote⟩
    exact Or.inr ⟨signers, hadds, fun _ => ⟨hfree, hcheck⟩,
      confirm_of_adds hadds (fun _ => ⟨hfree, hcheck⟩)⟩

/-- What an accepted confirmation over books has done. -/
theorem adds_of_confirm_ok {outcome : ConfirmOutcome}
    (hok : (book.confirm books registry deposit authority).1 = .ok outcome) :
    ∃ signers, book.Adds registry deposit authority signers ∧
      (registry.threshold ≤ signers.size → books.CanPay deposit) ∧
      book.confirm books registry deposit authority =
        book.kept books registry deposit signers := by
  rcases confirm_refused_or_adds book books registry deposit authority with ⟨_, hr⟩ | hadds
  · rw [hr] at hok
    exact absurd hok (by simp only [reduceCtorEq, not_false_eq_true])
  · exact hadds

/-- The signers are one more than have confirmed the deposit before. -/
theorem Adds.size_eq (h : book.Adds registry deposit authority signers)
    (hsound : book.Sound registry) :
    signers.size = (book.confirmers registry deposit).length + 1 := by
  rcases h with ⟨index, hpos, hvote⟩
  rcases vote_ok hsound hvote with ⟨before, hfor, haddr, _, hnew, rfl⟩
  have hafter := SignerSet.soundFor_insert hfor index
  rw [← hafter.length_addresses, hfor.addresses_insert hpos hnew, haddr, List.length_append,
    List.length_singleton]

/-- The votes that are added are those of authorities that have not confirmed
    the deposit, as long as it is not released. -/
theorem adds_iff (hsound : book.Sound registry) (deposit : Deposit) (authority : Address) :
    (∃ signers, book.Adds registry deposit authority signers) ↔
      authority ∈ registry.authorities ∧ authority ∉ book.confirmers registry deposit ∧
        (book.confirmers registry deposit).length < registry.threshold := by
  constructor
  · rintro ⟨signers, index, hpos, hvote⟩
    have haccepted := accepted_put hsound hpos hvote rfl
    exact ⟨haccepted.registered, haccepted.new, haccepted.below⟩
  · rintro ⟨hauthority, hnew, hbelow⟩
    cases hpos : registry.position? authority with
    | none => exact absurd hauthority ((registry.position?_eq_none_iff authority).1 hpos)
    | some index =>
      unfold Adds vote
      unfold confirmers at hnew hbelow
      cases hget : book.tallies.get? deposit with
      | none => exact ⟨_, index, hpos, rfl⟩
      | some tally =>
        have htally := hsound deposit tally hget
        rw [hget] at hnew hbelow
        simp only at hnew hbelow
        -- The bits of the tally know that the authority is not among the addresses.
        have hbit : tally.signers.contains index = false := by
          rw [htally.signers.contains_eq hpos, decide_eq_false_iff_not]
          exact hnew
        rw [htally.signers.length_addresses] at hbelow
        cases tally with
        | confirming before =>
          refine ⟨(before.insert index).2, index, hpos, ?_⟩
          simp only [hbit, Bool.false_eq_true, if_false]
        | released before =>
          -- A released tally is full.
          have hfull : before.size = registry.threshold := htally.2
          simp only [Tally.signers] at hbelow
          omega

/-! ## One tally -/

/-- A vote is added to one tally, and the others are not looked at. -/
theorem vote_congr {other : Confirmations}
    (h : book.tallies.get? deposit = other.tallies.get? deposit) (registry : Registry)
    (authority : Address) (index : Nat) :
    book.vote registry deposit authority index = other.vote registry deposit authority index := by
  unfold vote
  rw [h]

theorem adds_congr {other : Confirmations}
    (h : book.tallies.get? deposit = other.tallies.get? deposit)
    (hadds : book.Adds registry deposit authority signers) :
    other.Adds registry deposit authority signers := by
  rcases hadds with ⟨index, hpos, hvote⟩
  exact ⟨index, hpos, (vote_congr h registry authority index).symm.trans hvote⟩

/-- Tallies that agree on a deposit answer a confirmation of it alike. They do
    the same to the books, and they still agree afterwards. -/
theorem confirm_congr {other : Confirmations}
    (h : book.tallies.get? deposit = other.tallies.get? deposit) (books : Books)
    (registry : Registry) (authority : Address) :
    (book.confirm books registry deposit authority).1 =
        (other.confirm books registry deposit authority).1 ∧
      (book.confirm books registry deposit authority).2.1.tallies.get? deposit =
        (other.confirm books registry deposit authority).2.1.tallies.get? deposit ∧
      (book.confirm books registry deposit authority).2.2 =
        (other.confirm books registry deposit authority).2.2 := by
  unfold confirm
  cases registry.position? authority with
  | none => exact ⟨rfl, h, rfl⟩
  | some index =>
    simp only [vote_congr h]
    cases other.vote registry deposit authority index with
    | error refusal => exact ⟨rfl, h, rfl⟩
    | ok signers =>
      simp only
      -- Whatever is put is put under the same deposit in both.
      by_cases hbelow : signers.size < registry.threshold
      · simp only [if_pos hbelow, Table.get?_put, if_true, and_self]
      · simp only [if_neg hbelow]
        rcases settle books (.homeDeposit deposit.transaction)
          (.alreadyReleased deposit.transaction) (.ok deposit) Deposit.payouts with
          ⟨refusal | planned, after⟩
        · exact ⟨rfl, h, rfl⟩
        · simp only [Table.get?_put, if_true, and_self]

/-! ## Two accounts that decide together -/

/-- The account whose bytes are all the same. -/
def pairAccount (byte : UInt8) : Address :=
  ⟨List.replicate 20 byte, List.length_replicate⟩

/-- The smallest registry in which a deposit can be both pending and paid. -/
def pairRegistry : Registry where
  authorities := [pairAccount 1, pairAccount 2]
  threshold := 2
  nodup := by decide
  threshold_pos := Nat.two_pos
  threshold_le := Nat.le_refl 2

/-- A deposit of five, in the transaction whose bytes are all the same. -/
def pairDeposit (byte : UInt8) : Deposit where
  recipient := pairAccount 3
  value := 5
  transaction := ⟨List.replicate 32 byte, List.length_replicate⟩

/-- Books in which nothing was spent. -/
def pairBooks (reserves : Amount) : Books where
  replays := .empty
  ledger := .ofReserves reserves

end Confirmations

end QuorumBridge
