import QuorumBridge.Ledger.Call
import QuorumBridge.Locking

/-!
# All or nothing

Every operation that moves value either does all of it or leaves everything as
it was.

For a ledger this is a fact about what happens before a refusal. Crediting an
account opens an entry for it first; a new entry holds nothing, so a credit
that is too large meets an entry that was there already. Locking and releasing
look before they write.

For a settlement it is a fact about what cannot happen. It spends an identity
before it pays, so a refusal by the reservation or by the payment would leave
something behind. Neither can occur over `Books`: nothing comes between asking
for the identity and spending it, and a ledger pays what it said it could pay
because it asks itself the same question again. `settle_books` is the
settlement with those two branches gone.

A treasury in general promises nothing of the kind. `settle_cases` says what is
left: the settlement does what was planned or is refused for one of three
reasons, whoever holds the value.

## Theorems

* `Ledger.perform_error`: A refused call leaves a ledger as it was.
* `Ledger.release_of_checkRelease`: What can be paid is paid.
* `settle_books`: A settlement over books, without the branches that are not
  reached.
* `settle_books_cases`: It leaves the books as they were, or spends a free
  identity and pays.
* `settle_books_error`, `settle_books_ok`: Which of the two it was.
* `settle_books_refusal`: Why it was the first.
* `settle_cases`: How a settlement ends, whatever the treasury.
* `settle_ok`, `settle_refusal`: What was done, and why nothing was.
* `Books.lock_cases`: Locking leaves the books as they were, or locks.
-/

namespace QuorumBridge

namespace Ledger

/-- A credit that is refused leaves the ledger as it was. An account without an
    entry can take any amount, so the entry that was opened was there before. -/
theorem fund_error {ledger : Ledger} {account : Address} {value : Amount} {fault : LedgerFault}
    (h : (ledger.fund account value).1 = .error fault) :
    (ledger.fund account value).2 = ledger := by
  -- Opening an entry does not change the balance, so the sum that fails is the plain one.
  have hopened : (ledger.opened account).balance account = ledger.balance account := by
    simp only [opened, setBalance, balance, Table.get?_put, if_true, Option.getD_some]
  unfold fund at h ⊢
  simp only [hopened] at h ⊢
  cases hsum : Amount.add? (ledger.balance account) value with
  | some sum =>
    rw [hsum] at h
    exact absurd h (by simp only [reduceCtorEq, not_false_eq_true])
  | none =>
    simp only
    cases hentry : ledger.balances.get? account with
    | none =>
      -- Nothing plus the value is the value, which is an amount.
      have hzero : ledger.balance account = 0 := by
        rw [balance, hentry, Option.getD_none]
      rw [hzero, Amount.add?, Amount.ofNat?, if_pos] at hsum
      · exact absurd hsum (by simp only [reduceCtorEq, not_false_eq_true])
      · simp only [BitVec.ofNat_eq_ofNat, BitVec.toNat_ofNat, Nat.zero_mod, Nat.zero_add]
        exact value.toNat_lt_limit
    | some balance =>
      -- The entry was there, and opening it has put the same balance again.
      have hsame : ledger.balance account = balance := by
        rw [Ledger.balance, hentry, Option.getD_some]
      rw [opened, setBalance, hsame, Table.put_of_get? hentry]

/-- A lock that is refused leaves the ledger as it was. -/
theorem lock_error {ledger : Ledger} {owner : Address} {value : Amount} {fault : LedgerFault}
    (h : (ledger.lock owner value).1 = .error fault) :
    (ledger.lock owner value).2 = ledger := by
  unfold lock at h ⊢
  -- Both reasons to refuse are found before anything is written.
  by_cases hless : ledger.balance owner < value
  · simp only [if_pos hless]
  · simp only [if_neg hless] at h ⊢
    cases hsum : Amount.add? ledger.reserves value with
    | none => rfl
    | some reserves =>
      rw [hsum] at h
      exact absurd h (by simp only [reduceCtorEq, not_false_eq_true])

theorem release_of_checkRelease_error {ledger : Ledger} {payouts : List Payout}
    {fault : LedgerFault} (h : ledger.checkRelease payouts = .error fault) :
    ledger.release payouts = (.error fault, ledger) := by
  rw [release, h]

/-- What can be paid is paid. -/
theorem release_of_checkRelease {ledger : Ledger} {payouts : List Payout}
    (h : ledger.checkRelease payouts = .ok ()) :
    ledger.release payouts = (.ok (), payouts.foldl pay ledger) := by
  rw [release, h]

/-- A release that is refused leaves the ledger as it was. -/
theorem release_error {ledger : Ledger} {payouts : List Payout} {fault : LedgerFault}
    (h : (ledger.release payouts).1 = .error fault) : (ledger.release payouts).2 = ledger := by
  cases hcheck : ledger.checkRelease payouts with
  | error reason => rw [release_of_checkRelease_error hcheck]
  | ok _ =>
    rw [release_of_checkRelease hcheck] at h
    exact absurd h (by simp only [reduceCtorEq, not_false_eq_true])

/-- A refused call leaves a ledger as it was. -/
theorem perform_error {ledger : Ledger} {call : Call} {fault : LedgerFault}
    (h : (ledger.perform call).1 = .error fault) : (ledger.perform call).2 = ledger := by
  cases call with
  -- Asking changes nothing in any case, and the last two are never refused.
  | fund account value => exact fund_error h
  | lock owner value => exact lock_error h
  | checkRelease payouts => rfl
  | release payouts => exact release_error h
  | replace other => exact absurd h (by simp only [perform, reduceCtorEq, not_false_eq_true])
  | arrange order => exact absurd h (by simp only [perform, reduceCtorEq, not_false_eq_true])

end Ledger

variable {α : Type}

/-- A settlement over books. Nothing comes between its steps, so an identity
    that was free can be spent, and payouts that passed their check are paid. -/
theorem settle_books (books : Books) (key : ReplayKey) (replayed : Refusal)
    (plan : Except Refusal α) (payouts : α → List Payout) :
    settle books key replayed plan payouts =
      if books.replays.isSpent key then (.error replayed, books)
      else
        match plan with
        | .error refusal => (.error refusal, books)
        | .ok planned =>
          match books.ledger.checkRelease (payouts planned) with
          | .error fault => (.error (.ledger fault), books)
          | .ok () =>
            (.ok planned,
              ⟨(books.replays.reserve key).2,
                (payouts planned).foldl Ledger.pay books.ledger⟩) := by
  unfold settle
  by_cases hspent : books.replays.isSpent key = true
  · simp only [Treasury.isSpent, if_pos hspent]
  · simp only [Treasury.isSpent, if_neg hspent]
    cases plan with
    | error refusal => rfl
    | ok planned =>
      cases hcheck : books.ledger.checkRelease (payouts planned) with
      | error fault => simp only [Treasury.checkRelease, hcheck]
      | ok _ =>
        -- The identity was free a moment ago, and nothing came in between.
        have hfree : (books.replays.reserve key).1 = true := by
          rw [ReplayGuard.reserve, if_neg hspent]
        simp only [Treasury.checkRelease, Treasury.reserve, Treasury.release, hcheck, hfree,
          Ledger.release_of_checkRelease hcheck]

/-- A settlement over books leaves them as they were, or spends an identity that
    was free and pays what was planned for it. -/
theorem settle_books_cases (books : Books) (key : ReplayKey) (replayed : Refusal)
    (plan : Except Refusal α) (payouts : α → List Payout) :
    (∃ refusal, settle books key replayed plan payouts = (.error refusal, books)) ∨
      ∃ planned, plan = .ok planned ∧ books.replays.isSpent key = false ∧
        books.ledger.checkRelease (payouts planned) = .ok () ∧
        settle books key replayed plan payouts =
          (.ok planned,
            ⟨(books.replays.reserve key).2, (payouts planned).foldl Ledger.pay books.ledger⟩) := by
  rw [settle_books]
  -- Three checks in turn: the identity, the plan, the ledger.
  by_cases hspent : books.replays.isSpent key = true
  · exact Or.inl ⟨replayed, by rw [if_pos hspent]⟩
  · rw [if_neg hspent]
    cases plan with
    | error refusal => exact Or.inl ⟨refusal, rfl⟩
    | ok planned =>
      cases hcheck : books.ledger.checkRelease (payouts planned) with
      | error fault => exact Or.inl ⟨.ledger fault, by simp only [hcheck]⟩
      | ok _ =>
        exact Or.inr ⟨planned, rfl, Bool.eq_false_iff.2 hspent, hcheck, by simp only [hcheck]⟩

/-- A settlement that is refused leaves the books as they were. -/
theorem settle_books_error {books after : Books} {key : ReplayKey} {replayed refusal : Refusal}
    {plan : Except Refusal α} {payouts : α → List Payout}
    (h : settle books key replayed plan payouts = (.error refusal, after)) : after = books := by
  rcases settle_books_cases books key replayed plan payouts with
    ⟨_, hr⟩ | ⟨_, _, _, _, hr⟩
  · rw [hr, Prod.mk.injEq] at h
    exact h.2.symm
  · rw [hr, Prod.mk.injEq] at h
    exact absurd h.1 (by simp only [reduceCtorEq, not_false_eq_true])

/-- A settlement that is done has spent a free identity and paid what was
    planned for it. -/
theorem settle_books_ok {books after : Books} {key : ReplayKey} {replayed : Refusal}
    {plan : Except Refusal α} {payouts : α → List Payout} {done : α}
    (h : settle books key replayed plan payouts = (.ok done, after)) :
    plan = .ok done ∧ books.replays.isSpent key = false ∧
      books.ledger.checkRelease (payouts done) = .ok () ∧
      after = ⟨(books.replays.reserve key).2, (payouts done).foldl Ledger.pay books.ledger⟩ := by
  rcases settle_books_cases books key replayed plan payouts with
    ⟨_, hr⟩ | ⟨planned, hplan, hfree, hcheck, hr⟩
  · rw [hr, Prod.mk.injEq] at h
    exact absurd h.1 (by simp only [reduceCtorEq, not_false_eq_true])
  · rw [hr, Prod.mk.injEq, Except.ok.injEq] at h
    rw [← h.1]
    exact ⟨hplan, hfree, hcheck, h.2.symm⟩

/-- Why a settlement over books is refused: the identity was spent, or else there
    was no plan, or else the ledger could not pay it. -/
theorem settle_books_refusal {books : Books} {key : ReplayKey} {replayed refusal : Refusal}
    {plan : Except Refusal α} {payouts : α → List Payout}
    (h : (settle books key replayed plan payouts).1 = .error refusal) :
    (books.replays.isSpent key = true ∧ refusal = replayed) ∨
      (books.replays.isSpent key = false ∧ plan = .error refusal) ∨
      (books.replays.isSpent key = false ∧ ∃ planned fault, plan = .ok planned ∧
        books.ledger.checkRelease (payouts planned) = .error fault ∧
        refusal = .ledger fault) := by
  rw [settle_books] at h
  by_cases hspent : books.replays.isSpent key = true
  · rw [if_pos hspent] at h
    exact Or.inl ⟨hspent, (Except.error.inj h).symm⟩
  · rw [if_neg hspent] at h
    -- Each question is asked only if those before it were answered well.
    have hfree := Bool.eq_false_iff.2 hspent
    cases plan with
    | error reason =>
      rw [← Except.error.inj h]
      exact Or.inr (Or.inl ⟨hfree, rfl⟩)
    | ok planned =>
      simp only at h
      cases hcheck : books.ledger.checkRelease (payouts planned) with
      | error fault =>
        rw [hcheck] at h
        exact Or.inr (Or.inr ⟨hfree, planned, fault, rfl, hcheck, (Except.error.inj h).symm⟩)
      | ok _ =>
        rw [hcheck] at h
        exact absurd h (by simp only [reduceCtorEq, not_false_eq_true])

/-- How a settlement ends, whatever the treasury. The identity is spent, nothing
    can be planned for it, the ledger refuses, or what was planned is done. -/
theorem settle_cases {σ : Type} [Treasury σ] (treasury : σ) (key : ReplayKey)
    (replayed : Refusal) (plan : Except Refusal α) (payouts : α → List Payout) :
    (settle treasury key replayed plan payouts).1 = .error replayed ∨
      (∃ refusal, plan = .error refusal ∧
        (settle treasury key replayed plan payouts).1 = .error refusal) ∨
      (∃ fault, (settle treasury key replayed plan payouts).1 = .error (.ledger fault)) ∨
      ∃ planned, plan = .ok planned ∧
        (settle treasury key replayed plan payouts).1 = .ok planned := by
  unfold settle
  by_cases hspent : Treasury.isSpent treasury key = true
  · exact Or.inl (by rw [if_pos hspent])
  · rw [if_neg hspent]
    cases plan with
    | error reason => exact Or.inr (Or.inl ⟨reason, rfl, rfl⟩)
    | ok planned =>
      -- The plan is there, so from here on only the treasury can refuse.
      simp only
      rcases Treasury.checkRelease treasury (payouts planned) with ⟨fault | _, asked⟩
      · exact Or.inr (Or.inr (Or.inl ⟨fault, rfl⟩))
      · simp only
        rcases Treasury.reserve asked key with ⟨_ | _, reserved⟩
        · exact Or.inl rfl
        · simp only
          rcases Treasury.release reserved (payouts planned) with ⟨fault | _, paid⟩
          · exact Or.inr (Or.inr (Or.inl ⟨fault, rfl⟩))
          · exact Or.inr (Or.inr (Or.inr ⟨planned, rfl, rfl⟩))

theorem settle_ok {σ : Type} [Treasury σ] {treasury : σ} {key : ReplayKey} {replayed : Refusal}
    {plan : Except Refusal α} {payouts : α → List Payout} {done : α}
    (h : (settle treasury key replayed plan payouts).1 = .ok done) : plan = .ok done := by
  rcases settle_cases treasury key replayed plan payouts with hr | ⟨_, _, hr⟩ | ⟨_, hr⟩ |
    ⟨planned, hplan, hr⟩
  · exact absurd (hr.symm.trans h) (by simp only [reduceCtorEq, not_false_eq_true])
  · exact absurd (hr.symm.trans h) (by simp only [reduceCtorEq, not_false_eq_true])
  · exact absurd (hr.symm.trans h) (by simp only [reduceCtorEq, not_false_eq_true])
  · rw [hplan, ← Except.ok.inj (hr.symm.trans h)]

/-- A settlement is refused for one of three reasons. -/
theorem settle_refusal {σ : Type} [Treasury σ] {treasury : σ} {key : ReplayKey}
    {replayed : Refusal} {plan : Except Refusal α} {payouts : α → List Payout}
    {refusal : Refusal} (h : (settle treasury key replayed plan payouts).1 = .error refusal) :
    refusal = replayed ∨ plan = .error refusal ∨ ∃ fault, refusal = .ledger fault := by
  rcases settle_cases treasury key replayed plan payouts with hr | ⟨reason, hplan, hr⟩ |
    ⟨fault, hr⟩ | ⟨_, _, hr⟩
  · exact Or.inl (Except.error.inj (h.symm.trans hr))
  · exact Or.inr (Or.inl (by rw [hplan, Except.error.inj (h.symm.trans hr)]))
  · exact Or.inr (Or.inr ⟨fault, Except.error.inj (h.symm.trans hr)⟩)
  · exact absurd (h.symm.trans hr) (by simp only [reduceCtorEq, not_false_eq_true])

/-- Locking leaves the books as they were, or locks value that is not zero for a
    transaction that was free. -/
theorem Books.lock_cases (books : Books) (key : ReplayKey) (owner : Address) (value : Amount) :
    (∃ refusal, books.lock key owner value = (.error refusal, books)) ∨
      (value ≠ 0 ∧ books.replays.isSpent key = false ∧
        (books.ledger.lock owner value).1 = .ok () ∧
        books.lock key owner value =
          (.ok (), ⟨(books.replays.reserve key).2, (books.ledger.lock owner value).2⟩)) := by
  unfold Books.lock
  -- Two checks that touch nothing, then the ledger, which touches nothing if it refuses.
  by_cases hzero : value = 0
  · exact Or.inl ⟨.zeroValue, by rw [if_pos hzero]⟩
  rw [if_neg hzero]
  by_cases hspent : books.replays.isSpent key = true
  · exact Or.inl ⟨.duplicateTransaction key.transaction, by rw [if_pos hspent]⟩
  · rw [if_neg hspent]
    rcases hlock : books.ledger.lock owner value with ⟨fault | _, ledger⟩
    · have hsame : ledger = books.ledger := by
        have := Ledger.lock_error (by rw [hlock] : (books.ledger.lock owner value).1 = .error fault)
        rw [hlock] at this
        exact this
      exact Or.inl ⟨.ledger fault, by rw [hsame]⟩
    · exact Or.inr ⟨hzero, Bool.eq_false_iff.2 hspent, rfl, rfl⟩

end QuorumBridge
