import QuorumBridge.Ledger

/-!
# Exact value

What the operations of a ledger do, in whole numbers.

A ledger computes with amounts, and amounts wrap around. Locking and crediting
ask for a sum that does not, so nothing can go wrong there. Paying asks for
nothing: it subtracts from the reserves and adds to a balance, once for every
payout, and relies on a check that was made over the whole list beforehand.

The check is about the end of the payments and the arithmetic is about each of
them, so what has to be carried along a list of payouts is the check of what is
left of it. `Payable` is that check in whole numbers: the payouts together do
not pass the reserves, and no account together with its credit passes the limit.
A payable list whose first payout was paid leaves a payable list
(`Payable.tail`), and paying the first one was exact. By induction the whole
list is paid exactly, whatever accounts repeat in it.

Value is never made or lost on the way. Locking and paying keep the sum of all
balances and the reserves, and crediting adds to it what it credits.

## Main definitions

* `Ledger.worth`: The sum of a list of payouts.
* `Ledger.Payable`: A list of payouts is within reserves and limits.
* `Ledger.Refuses`: Why a list of payouts is not.
* `Ledger.Locked`: What a lock that is done has moved.

## Theorems

* `Ledger.checkRelease_eq_ok_iff`: The check passes what is payable.
* `Ledger.refuses_of_checkRelease`: Why it refuses the rest.
* `Ledger.Payable.reserves_foldl`, `Ledger.Payable.balance_foldl`: Paying is
  exact.
* `Ledger.Payable.total_foldl`: Paying keeps the total.
* `Ledger.Payable.swap`, `Ledger.balances_pay_comm`: The order of payouts makes
  no difference.
* `Ledger.lock_ok`, `Ledger.fund_ok`: Locking and crediting are exact.
-/

namespace QuorumBridge

namespace Amount

theorem ofNat?_eq_some_iff (value : Nat) (a : Amount) :
    ofNat? value = some a ↔ value < limit ∧ a.toNat = value := by
  unfold ofNat?
  by_cases hlt : value < limit
  · -- Below the limit nothing is cut off when a number is made an amount.
    have hexact : (BitVec.ofNat 256 value).toNat = value := by
      rw [BitVec.toNat_ofNat]
      unfold limit max at hlt
      rw [BitVec.toNat_allOnes] at hlt
      exact Nat.mod_eq_of_lt (by omega)
    rw [if_pos hlt, Option.some.injEq]
    constructor
    · rintro rfl
      exact ⟨hlt, hexact⟩
    · rintro ⟨_, heq⟩
      exact BitVec.eq_of_toNat_eq (hexact.trans heq.symm)
  · rw [if_neg hlt]
    simp only [reduceCtorEq, hlt, false_and]

theorem add?_eq_some_iff (a b sum : Amount) :
    add? a b = some sum ↔ a.toNat + b.toNat < limit ∧ sum.toNat = a.toNat + b.toNat :=
  ofNat?_eq_some_iff _ sum

theorem ofNat?_eq_none_iff (value : Nat) : ofNat? value = none ↔ limit ≤ value := by
  unfold ofNat?
  by_cases hlt : value < limit
  · rw [if_pos hlt]
    simp only [reduceCtorEq, false_iff]
    omega
  · rw [if_neg hlt]
    simp only [true_iff]
    omega

theorem add?_eq_none_iff (a b : Amount) : add? a b = none ↔ limit ≤ a.toNat + b.toNat :=
  ofNat?_eq_none_iff _

/-- A sum below the limit does not wrap around. -/
theorem toNat_add_of_lt_limit {a b : Amount} (h : a.toNat + b.toNat < limit) :
    (a + b).toNat = a.toNat + b.toNat := by
  refine BitVec.toNat_add_of_lt ?_
  unfold limit max at h
  rw [BitVec.toNat_allOnes] at h
  omega

end Amount

namespace Ledger

/-- The sum of a list of payouts. -/
def worth (payouts : List Payout) : Nat :=
  payouts.foldr (fun payout total => payout.value.toNat + total) 0

theorem worth_cons (payout : Payout) (rest : List Payout) :
    worth (payout :: rest) = payout.value.toNat + worth rest := rfl

theorem credit_cons (account : Address) (payout : Payout) (rest : List Payout) :
    credit account (payout :: rest) =
      (if payout.account = account then payout.value.toNat else 0) + credit account rest := by
  unfold credit
  by_cases hsame : payout.account = account
  · rw [List.filter_cons_of_pos (by rw [hsame, BEq.rfl]), if_pos hsame, List.foldr_cons]
  · rw [List.filter_cons_of_neg (by simp only [beq_iff_eq, hsame, not_false_eq_true]),
      if_neg hsame, Nat.zero_add]

theorem credit_eq_zero {account : Address} {payouts : List Payout}
    (h : ∀ payout ∈ payouts, payout.account ≠ account) : credit account payouts = 0 := by
  induction payouts with
  | nil => rfl
  | cons payout rest ih =>
    rw [credit_cons, if_neg (h payout List.mem_cons_self),
      ih (fun other hmem => h other (List.mem_cons_of_mem payout hmem))]

/-! ## Balances and the total -/

theorem toNat_balance (ledger : Ledger) (account : Address) :
    (ledger.balance account).toNat =
      ((ledger.balances.get? account).map BitVec.toNat).getD 0 := by
  unfold balance
  cases ledger.balances.get? account with
  | none => rfl
  | some found => rfl

theorem balance_setBalance (ledger : Ledger) (account other : Address) (balance : Amount) :
    (ledger.setBalance account balance).balance other =
      if account = other then balance else ledger.balance other := by
  simp only [Ledger.balance, setBalance, Table.get?_put]
  split
  · rfl
  · rfl

/-- Another balance of an account moves the total by the difference. -/
theorem total_setBalance (ledger : Ledger) (account : Address) (balance : Amount) :
    (ledger.setBalance account balance).total + (ledger.balance account).toNat =
      ledger.total + balance.toNat := by
  have hsum := ledger.balances.sum_put BitVec.toNat account balance
  rw [← toNat_balance] at hsum
  simp only [total, setBalance]
  omega

theorem total_withReserves (ledger : Ledger) (reserves : Amount) :
    ({ ledger with reserves } : Ledger).total + ledger.reserves.toNat =
      ledger.total + reserves.toNat := by
  simp only [total]
  omega

/-! ## What can be paid -/

/-- A list of payouts is within the reserves, and no account passes the limit by
    what it is to receive from it. -/
structure Payable (ledger : Ledger) (payouts : List Payout) : Prop where
  covered : worth payouts ≤ ledger.reserves.toNat
  fits : ∀ account, (ledger.balance account).toNat + credit account payouts < Amount.limit

theorem sumPayouts_eq_ok_iff (sum total : Amount) (payouts : List Payout) :
    sumPayouts sum payouts = .ok total ↔
      sum.toNat + worth payouts < Amount.limit ∧ total.toNat = sum.toNat + worth payouts := by
  induction payouts generalizing sum with
  | nil =>
    have hlt := sum.toNat_lt_limit
    simp only [sumPayouts, worth, List.foldr_nil, Nat.add_zero, hlt, true_and, Except.ok.injEq]
    rw [eq_comm, BitVec.toNat_inj]
  | cons payout rest ih =>
    rw [sumPayouts, worth_cons]
    cases hadd : Amount.add? sum payout.value with
    | none =>
      -- The sum is over the limit already, and what follows only adds to it.
      rw [Amount.add?_eq_none_iff] at hadd
      simp only [reduceCtorEq, false_iff]
      omega
    | some next =>
      rw [Amount.add?_eq_some_iff] at hadd
      simp only
      rw [ih next, hadd.2, Nat.add_assoc]

theorem sumPayouts_error {sum : Amount} {payouts : List Payout} {fault : LedgerFault}
    (h : sumPayouts sum payouts = .error fault) :
    Amount.limit ≤ sum.toNat + worth payouts ∧ ∃ account, fault = .overflow account := by
  induction payouts generalizing sum with
  | nil => exact absurd h (by simp only [sumPayouts, reduceCtorEq, not_false_eq_true])
  | cons payout rest ih =>
    rw [sumPayouts] at h
    rw [worth_cons]
    cases hadd : Amount.add? sum payout.value with
    | none =>
      rw [hadd] at h
      rw [Amount.add?_eq_none_iff] at hadd
      -- This payout is the one that is named.
      exact ⟨by omega, payout.account, (Except.error.inj h).symm⟩
    | some next =>
      rw [hadd] at h
      rw [Amount.add?_eq_some_iff] at hadd
      have hrest := ih h
      exact ⟨by omega, hrest.2⟩

theorem fits_eq_true_iff (ledger : Ledger) (payouts : List Payout) (account : Address) :
    ledger.fits payouts account = true ↔
      (ledger.balance account).toNat + credit account payouts < Amount.limit :=
  decide_eq_true_iff

/-- Whoever is paid nothing has room for it. -/
theorem mem_of_not_fits {ledger : Ledger} {payouts : List Payout} {account : Address}
    (h : (!ledger.fits payouts account) = true) : account ∈ payouts.map Payout.account := by
  by_cases hpaid : account ∈ payouts.map Payout.account
  · exact hpaid
  · have hnone : credit account payouts = 0 :=
      credit_eq_zero fun payout hmem hsame => hpaid (List.mem_map.2 ⟨payout, hmem, hsame⟩)
    rw [Bool.not_eq_true', Bool.eq_false_iff, ne_eq, fits_eq_true_iff, hnone, Nat.add_zero] at h
    exact absurd (ledger.balance account).toNat_lt_limit h

/-- So it is enough to look at the accounts that are paid. -/
theorem fits_of_find? {ledger : Ledger} {payouts : List Payout}
    (h : (ledger.walk payouts).find? (fun account => !ledger.fits payouts account) = none)
    (account : Address) :
    (ledger.balance account).toNat + credit account payouts < Amount.limit := by
  rw [← fits_eq_true_iff]
  cases hfits : ledger.fits payouts account with
  | true => rfl
  | false =>
    have hfull : (!ledger.fits payouts account) = true := by rw [hfits, Bool.not_false]
    exact absurd hfull (List.find?_eq_none.1 h account
      (List.mem_append_right ledger.order (mem_of_not_fits hfull)))

/-- Why a ledger does not pay: the sum of the payouts passes the limit of
    amounts, or else it passes the reserves, or else an account does not fit. -/
inductive Refuses (ledger : Ledger) (payouts : List Payout) : LedgerFault → Prop
  | sum (account : Address) (hover : Amount.limit ≤ worth payouts) :
      Refuses ledger payouts (.overflow account)
  | reserves {sum : Amount} (hsum : sum.toNat = worth payouts)
      (hshort : ledger.reserves.toNat < worth payouts) :
      Refuses ledger payouts (.insufficientReserves ledger.reserves sum)
  | account {account : Address} (hcovered : worth payouts ≤ ledger.reserves.toNat)
      (hover : Amount.limit ≤ (ledger.balance account).toNat + credit account payouts) :
      Refuses ledger payouts (.overflow account)

/-- The check passes what is payable, or says what is wrong. -/
theorem checkRelease_cases (ledger : Ledger) (payouts : List Payout) :
    (ledger.checkRelease payouts = .ok () ∧ ledger.Payable payouts) ∨
      ∃ fault, ledger.checkRelease payouts = .error fault ∧ ledger.Refuses payouts fault := by
  unfold checkRelease
  have hzero : (0 : Amount).toNat = 0 := rfl
  cases hsum : sumPayouts 0 payouts with
  | error fault =>
    rcases sumPayouts_error hsum with ⟨hover, account, rfl⟩
    rw [hzero, Nat.zero_add] at hover
    exact Or.inr ⟨_, rfl, .sum account hover⟩
  | ok sum =>
    rw [sumPayouts_eq_ok_iff, hzero, Nat.zero_add] at hsum
    simp only
    by_cases hshort : ledger.reserves < sum
    · rw [if_pos hshort]
      rw [BitVec.lt_def, hsum.2] at hshort
      exact Or.inr ⟨_, rfl, .reserves hsum.2 hshort⟩
    · rw [if_neg hshort]
      rw [BitVec.lt_def, hsum.2] at hshort
      -- The reserves cover the sum, so what is left is to look at the accounts one by one.
      have hcovered := Nat.le_of_not_lt hshort
      cases hfind : (ledger.walk payouts).find? (fun account => !ledger.fits payouts account) with
      | none => exact Or.inl ⟨rfl, hcovered, fits_of_find? hfind⟩
      | some account =>
        have hover := List.find?_some hfind
        rw [Bool.not_eq_true', Bool.eq_false_iff, ne_eq, fits_eq_true_iff] at hover
        exact Or.inr ⟨_, rfl, .account hcovered (Nat.le_of_not_lt hover)⟩

/-- What is payable is not refused. -/
theorem Payable.not_refuses {ledger : Ledger} {payouts : List Payout}
    (h : ledger.Payable payouts) (fault : LedgerFault) : ¬ ledger.Refuses payouts fault := by
  have hcovered := h.covered
  have hreserves := ledger.reserves.toNat_lt_limit
  intro hrefuses
  -- Each reason against a release contradicts one of the two bounds.
  cases hrefuses with
  | sum account hover => omega
  | reserves hsum hshort => omega
  | @account account hcovered hover =>
    have hfits := h.fits account
    omega

/-- The check passes what is payable, and nothing else. -/
theorem checkRelease_eq_ok_iff (ledger : Ledger) (payouts : List Payout) :
    ledger.checkRelease payouts = .ok () ↔ ledger.Payable payouts := by
  rcases checkRelease_cases ledger payouts with ⟨hok, hpayable⟩ | ⟨fault, herror, hrefuses⟩
  · exact ⟨fun _ => hpayable, fun _ => hok⟩
  · rw [herror]
    exact ⟨fun hc => absurd hc (by simp only [reduceCtorEq, not_false_eq_true]),
      fun hpayable => absurd hrefuses (hpayable.not_refuses fault)⟩

theorem refuses_of_checkRelease {ledger : Ledger} {payouts : List Payout} {fault : LedgerFault}
    (h : ledger.checkRelease payouts = .error fault) : ledger.Refuses payouts fault := by
  rcases checkRelease_cases ledger payouts with ⟨hok, _⟩ | ⟨reason, herror, hrefuses⟩
  · rw [hok] at h
    exact absurd h (by simp only [reduceCtorEq, not_false_eq_true])
  · rw [herror, Except.error.injEq] at h
    rw [← h]
    exact hrefuses

/-! ## Paying -/

section Pay

variable {ledger : Ledger} {payout : Payout} {payouts rest : List Payout}

theorem balance_pay (ledger : Ledger) (payout : Payout) (account : Address) :
    (ledger.pay payout).balance account =
      if payout.account = account then ledger.balance payout.account + payout.value
      else ledger.balance account :=
  balance_setBalance ledger payout.account account _

theorem Payable.reserves_pay (h : ledger.Payable (payout :: rest)) :
    (ledger.pay payout).reserves.toNat + payout.value.toNat = ledger.reserves.toNat := by
  have hcovered := h.covered
  rw [worth_cons] at hcovered
  have hle : payout.value ≤ ledger.reserves := by
    rw [BitVec.le_def]
    omega
  simp only [pay, BitVec.toNat_sub_of_le hle]
  omega

/-- The credit of an account for the whole list leaves room for one payout. -/
theorem Payable.balance_add (h : ledger.Payable (payout :: rest)) :
    (ledger.balance payout.account + payout.value).toNat =
      (ledger.balance payout.account).toNat + payout.value.toNat := by
  have hfits := h.fits payout.account
  rw [credit_cons, if_pos rfl] at hfits
  exact Amount.toNat_add_of_lt_limit (by omega)

theorem Payable.toNat_balance_pay (h : ledger.Payable (payout :: rest)) (account : Address) :
    ((ledger.pay payout).balance account).toNat =
      (ledger.balance account).toNat +
        if payout.account = account then payout.value.toNat else 0 := by
  rw [balance_pay]
  by_cases hsame : payout.account = account
  · rw [if_pos hsame, if_pos hsame, h.balance_add, hsame]
  · rw [if_neg hsame, if_neg hsame, Nat.add_zero]

theorem Payable.total_pay (h : ledger.Payable (payout :: rest)) :
    (ledger.pay payout).total = ledger.total := by
  have hreserves := h.reserves_pay
  have hbalance := h.balance_add
  -- What the account gains the reserves lose.
  have hset := total_setBalance ledger payout.account
    (ledger.balance payout.account + payout.value)
  have htotal := total_withReserves
    (ledger.setBalance payout.account (ledger.balance payout.account + payout.value))
    (ledger.pay payout).reserves
  have hpay : ({ ledger.setBalance payout.account
      (ledger.balance payout.account + payout.value) with
      reserves := (ledger.pay payout).reserves } : Ledger) = ledger.pay payout := rfl
  have hkept : (ledger.setBalance payout.account
      (ledger.balance payout.account + payout.value)).reserves = ledger.reserves := rfl
  rw [hpay, hkept] at htotal
  omega

/-- Once the first payout is paid, the others are still payable. -/
theorem Payable.tail (h : ledger.Payable (payout :: rest)) :
    (ledger.pay payout).Payable rest := by
  have hreserves := h.reserves_pay
  have hcovered := h.covered
  rw [worth_cons] at hcovered
  refine ⟨by omega, ?_⟩
  -- The first payout moves its part of the credits into the balances, so what an account has and
  -- is still to get stays the same.
  intro account
  have hfits := h.fits account
  rw [credit_cons] at hfits
  rw [h.toNat_balance_pay]
  omega

/-- What is payable by itself and leaves the others payable is payable with
    them. -/
theorem Payable.of_pay (h : ledger.Payable [payout]) (hrest : (ledger.pay payout).Payable rest) :
    ledger.Payable (payout :: rest) := by
  -- The first payment took from the reserves and gave to the balance just its value.
  have hreserves := h.reserves_pay
  have hcovered := hrest.covered
  refine ⟨?_, ?_⟩
  · rw [worth_cons]
    omega
  · intro account
    have hfits := hrest.fits account
    rw [h.toNat_balance_pay] at hfits
    rw [credit_cons]
    omega

/-- Neither the sum nor a credit depends on which payout comes first. -/
theorem Payable.swap {other : Payout} (h : ledger.Payable (payout :: other :: rest)) :
    ledger.Payable (other :: payout :: rest) := by
  have hcovered := h.covered
  rw [worth_cons, worth_cons] at hcovered
  -- Both bounds are sums over the payouts, and sums do not depend on the order.
  refine ⟨?_, ?_⟩
  · rw [worth_cons, worth_cons]
    omega
  · intro account
    have hfits := h.fits account
    rw [credit_cons, credit_cons] at hfits ⊢
    omega

/-- What the others are paid leaves a payout payable that is payable with
    them. -/
theorem Payable.head (h : ledger.Payable (payout :: rest)) : ledger.Payable [payout] := by
  have hcovered := h.covered
  have hnone : worth [] = 0 := rfl
  rw [worth_cons] at hcovered
  refine ⟨?_, ?_⟩
  · rw [worth_cons]
    omega
  · intro account
    -- An account is credited no more by one payout than by that and others.
    have hfits := h.fits account
    have hcredit : credit account [] = 0 := rfl
    rw [credit_cons] at hfits
    rw [credit_cons]
    omega

/-- Two payouts may be paid in either order, whether or not they go to the same
    account. Amounts wrap around, so this asks for no check. -/
theorem balances_pay_comm (ledger : Ledger) (payout other : Payout) (account : Address) :
    ((ledger.pay payout).pay other).balances.get? account =
      ((ledger.pay other).pay payout).balances.get? account := by
  simp only [pay, Ledger.balance, Table.get?_put]
  by_cases hsame : payout.account = other.account
  · -- One account receives both, and its sum does not depend on the order.
    simp only [hsame, if_true, Option.getD_some]
    by_cases hthere : other.account = account
    · simp only [if_pos hthere]
      rw [BitVec.add_assoc, BitVec.add_assoc, BitVec.add_comm payout.value]
    · simp only [if_neg hthere]
  · -- Two accounts receive one each, and neither is looked at for the other.
    have hapart : ¬ other.account = payout.account := fun hc => hsame hc.symm
    simp only [if_neg hsame, if_neg hapart]
    by_cases hfirst : payout.account = account
    · have hsecond : ¬ other.account = account := fun hc => hsame (hfirst.trans hc.symm)
      simp only [if_pos hfirst, if_neg hsecond]
    · simp only [if_neg hfirst]

theorem reserves_pay_comm (ledger : Ledger) (payout other : Payout) :
    ((ledger.pay payout).pay other).reserves = ((ledger.pay other).pay payout).reserves := by
  simp only [pay]
  bv_omega

theorem Payable.reserves_foldl (h : ledger.Payable payouts) :
    (payouts.foldl pay ledger).reserves.toNat + worth payouts = ledger.reserves.toNat := by
  induction payouts generalizing ledger with
  | nil => rfl
  | cons payout rest ih =>
    have hfirst := h.reserves_pay
    have hrest := ih h.tail
    rw [List.foldl_cons, worth_cons]
    omega

theorem Payable.balance_foldl (h : ledger.Payable payouts) (account : Address) :
    ((payouts.foldl pay ledger).balance account).toNat =
      (ledger.balance account).toNat + credit account payouts := by
  induction payouts generalizing ledger with
  | nil => rfl
  | cons payout rest ih =>
    rw [List.foldl_cons, ih h.tail, h.toNat_balance_pay, credit_cons, Nat.add_assoc]

theorem Payable.total_foldl (h : ledger.Payable payouts) :
    (payouts.foldl pay ledger).total = ledger.total := by
  induction payouts generalizing ledger with
  | nil => rfl
  | cons payout rest ih => rw [List.foldl_cons, ih h.tail, h.total_pay]

end Pay

/-! ## Locking and crediting -/

/-- A lock that is done moves its value from the account into the reserves. -/
structure Locked (before after : Ledger) (owner : Address) (value : Amount) : Prop where
  reserves : after.reserves.toNat = before.reserves.toNat + value.toNat
  balance : ∀ account, (after.balance account).toNat +
    (if owner = account then value.toNat else 0) = (before.balance account).toNat
  total : after.total = before.total

theorem lock_ok {ledger : Ledger} {owner : Address} {value : Amount}
    (h : (ledger.lock owner value).1 = .ok ()) :
    Locked ledger (ledger.lock owner value).2 owner value := by
  unfold lock at h ⊢
  by_cases hless : ledger.balance owner < value
  · simp only [if_pos hless, reduceCtorEq] at h
  · simp only [if_neg hless] at h ⊢
    rw [BitVec.lt_def] at hless
    -- The owner has what is locked, so taking it away does not wrap around.
    have hsub : (ledger.balance owner - value).toNat =
        (ledger.balance owner).toNat - value.toNat :=
      BitVec.toNat_sub_of_le (by rw [BitVec.le_def]; omega)
    cases hadd : Amount.add? ledger.reserves value with
    | none =>
      rw [hadd] at h
      exact absurd h (by simp only [reduceCtorEq, not_false_eq_true])
    | some reserves =>
      rw [Amount.add?_eq_some_iff] at hadd
      -- What the accounts lose is what the reserves gain.
      have hset := total_setBalance ledger owner (ledger.balance owner - value)
      have htotal :=
        total_withReserves (ledger.setBalance owner (ledger.balance owner - value)) reserves
      have hkept : (ledger.setBalance owner (ledger.balance owner - value)).reserves =
          ledger.reserves := rfl
      rw [hkept] at htotal
      refine ⟨hadd.2, ?_, by simp only; omega⟩
      intro account
      have hbalance := balance_setBalance ledger owner account (ledger.balance owner - value)
      simp only [Ledger.balance] at hbalance hsub hless ⊢
      rw [hbalance]
      by_cases hsame : owner = account
      · rw [if_pos hsame, if_pos hsame, hsub, ← hsame]
        omega
      · rw [if_neg hsame, if_neg hsame, Nat.add_zero]

/-- Crediting adds to the total what it credits, and touches no reserves. -/
theorem fund_ok {ledger : Ledger} {account : Address} {value : Amount}
    (h : (ledger.fund account value).1 = .ok ()) :
    (ledger.fund account value).2.reserves = ledger.reserves ∧
      (ledger.fund account value).2.total = ledger.total + value.toNat := by
  -- Opening the entry changes neither the balance nor the total.
  have hopened := total_setBalance ledger account (ledger.balance account)
  have hbalance := balance_setBalance ledger account account (ledger.balance account)
  rw [if_pos rfl] at hbalance
  unfold fund at h ⊢
  simp only [opened] at h ⊢
  rw [hbalance] at h ⊢
  cases hadd : Amount.add? (ledger.balance account) value with
  | none =>
    rw [hadd] at h
    exact absurd h (by simp only [reduceCtorEq, not_false_eq_true])
  | some balance =>
    rw [Amount.add?_eq_some_iff] at hadd
    have hset := total_setBalance (ledger.setBalance account (ledger.balance account)) account
      balance
    rw [hbalance] at hset
    exact ⟨rfl, by simp only; omega⟩

end Ledger

end QuorumBridge
