import Mathlib.Data.List.Find
import QuorumBridge.Proofs.Ledger
import QuorumBridge.Proofs.Settlement

/-!
# Paying a list of payouts

A release is checked once over the whole list and then paid one payout at a
time, and no single payment goes wrong.

The check looks at sums and the payments at amounts. Between two payments the
reserves have lost what was paid so far and some balances have grown, so each
payment meets another ledger than the one that was checked. What every such
ledger still has is that the rest of the list is payable on it
(`Ledger.Payable.foldl`). Hence each payment is exact where it is made
(`Ledger.PaysExactly`), whatever accounts repeat before and behind it.

The check itself must not be taken in by amounts that wrap around. Payouts to
one account count together, and their sum is an amount like any other, gathered
in a table account by account (`Ledger.gather`). No account is ever credited with
more than the sum of all payouts, which has passed by then, so gathering does not
fail and finds for each account its credit. A check that goes through the table
is therefore the check of whole numbers (`Ledger.checkGathered_eq`). Both look at
accounts in the order of the ledger, so they agree on the account to be named as
well.

Which account that is stays open. The order is no property of the balances, and
any account that has no room is named in some order
(`Ledger.Crowded.exists_arrange`). Nothing else depends on it
(`Ledger.checkRelease_arrange`).

## Main definitions

* `Ledger.gather`: The credits of a list of payouts, account by account.
* `Ledger.checkGathered`: The check by gathered credits.
* `Ledger.Crowded`: An account has no room for its payouts.
* `Ledger.PaysExactly`: A payment that does not wrap around.
* `Ledger.ReleasesExactly`: What checking and paying a list come to.

## Theorems

* `Ledger.gather_ok`: Gathering finds the credits.
* `Ledger.checkGathered_eq`: The two checks are one.
* `Ledger.Crowded.exists_arrange`: Any account without room is named in some
  order.
* `Ledger.checkRelease_arrange`: The check in another order.
* `Ledger.Payable.foldl`: Payments leave the rest payable.
* `Ledger.sumPayouts_overflow`: The sum overflows at the payout that is named.
* `Ledger.releases_exactly`: Every list is checked and paid exactly.
-/

namespace QuorumBridge

namespace Table

variable {κ α : Type} [DecidableEq κ]

/-- The first key of a kind is the same whether a key that is there already is
    put in its place or at the end. -/
theorem find?_keys_putEntry (q : κ → Bool) (key : κ) (value : α) (entries : List (κ × α)) :
    ((putEntry key value entries).map Prod.fst).find? q =
      (entries.map Prod.fst ++ [key]).find? q := by
  induction entries with
  | nil => rfl
  | cons entry rest ih =>
    by_cases hsame : entry.1 = key
    · rw [putEntry, if_pos hsame, List.map_cons, List.map_cons, hsame, List.cons_append,
        List.find?_cons, List.find?_cons, List.find?_append]
      -- If the key is not found in front, it is not found at the end.
      cases hq : q key with
      | true => rfl
      | false => simp only [List.find?_cons, hq, List.find?_nil, Option.or_none]
    · rw [putEntry, if_neg hsame, List.map_cons, List.map_cons, List.cons_append,
        List.find?_cons, List.find?_cons, ih]

end Table

namespace Ledger

/-! ## Credits in a table -/

/-- Adds to the credits in a table what their accounts are to receive, unless a
    credit passes the limit of amounts. -/
def gather (credits : Table Address Amount) :
    List Payout → Except LedgerFault (Table Address Amount)
  | [] => .ok credits
  | payout :: rest =>
    match Amount.add? ((credits.get? payout.account).getD 0) payout.value with
    | none => .error (.overflow payout.account)
    | some credit => gather (credits.put payout.account credit) rest

/-- Whether payouts can be released, by credits that are gathered first. -/
def checkGathered (ledger : Ledger) (payouts : List Payout) : Except LedgerFault Unit :=
  match sumPayouts 0 payouts with
  | .error fault => .error fault
  | .ok sum =>
    if ledger.reserves < sum then .error (.insufficientReserves ledger.reserves sum)
    else
      match gather .empty payouts with
      | .error fault => .error fault
      | .ok credits =>
        match (ledger.order ++ credits.entries.map Prod.fst).find? fun account =>
            (Amount.add? (ledger.balance account) ((credits.get? account).getD 0)).isNone with
        | some account => .error (.overflow account)
        | none => .ok ()

/-- No account is to receive more than all payouts together. -/
theorem credit_le_worth (account : Address) (payouts : List Payout) :
    credit account payouts ≤ worth payouts := by
  induction payouts with
  | nil => exact Nat.le_refl 0
  | cons payout rest ih =>
    rw [credit_cons, worth_cons]
    split
    · exact Nat.add_le_add_left ih _
    · omega

/-- Gathering fails only where a credit passes the limit. Else it finds for each
    account what that is to receive, and the accounts in the order in which they
    first come. -/
theorem gather_ok (credits : Table Address Amount) (payouts : List Payout)
    (h : ∀ account, ((credits.get? account).getD 0).toNat + credit account payouts <
      Amount.limit) :
    ∃ gathered, gather credits payouts = .ok gathered ∧
      (∀ account, ((gathered.get? account).getD 0).toNat =
        ((credits.get? account).getD 0).toNat + credit account payouts) ∧
      ∀ q : Address → Bool, (gathered.entries.map Prod.fst).find? q =
        (credits.entries.map Prod.fst ++ payouts.map Payout.account).find? q := by
  induction payouts generalizing credits with
  | nil =>
    refine ⟨credits, rfl, fun account => rfl, fun q => ?_⟩
    rw [List.map_nil, List.append_nil]
  | cons payout rest ih =>
    have hown := h payout.account
    rw [credit_cons, if_pos rfl] at hown
    cases hadd : Amount.add? ((credits.get? payout.account).getD 0) payout.value with
    | none =>
      rw [Amount.add?_eq_none_iff] at hadd
      omega
    | some sum =>
      have hsum := (Amount.add?_eq_some_iff _ _ _).1 hadd
      -- What is put under the account moves from what is to come to what is there.
      have hput : ∀ account, (((credits.put payout.account sum).get? account).getD 0).toNat +
          credit account rest =
            ((credits.get? account).getD 0).toNat + credit account (payout :: rest) := by
        intro account
        rw [Table.get?_put, credit_cons]
        by_cases hsame : payout.account = account
        · rw [if_pos hsame, if_pos hsame, Option.getD_some, hsum.2, hsame, Nat.add_assoc]
        · rw [if_neg hsame, if_neg hsame, Nat.zero_add]
      rcases ih (credits.put payout.account sum)
        (fun account => (hput account).symm ▸ h account) with ⟨gathered, hok, hcredits, hfirst⟩
      refine ⟨gathered, ?_, fun account => (hcredits account).trans (hput account), fun q => ?_⟩
      · rw [gather, hadd]
        exact hok
      · rw [hfirst q, Table.put, List.find?_append, Table.find?_keys_putEntry,
          ← List.find?_append, List.append_assoc]
        rfl

/-- An account that has no room for its gathered credit has none for its payouts. -/
theorem isNone_add?_gathered (ledger : Ledger) {gathered : Table Address Amount}
    {payouts : List Payout}
    (hcredits : ∀ account, ((gathered.get? account).getD 0).toNat = credit account payouts)
    (account : Address) :
    (Amount.add? (ledger.balance account) ((gathered.get? account).getD 0)).isNone =
      !ledger.fits payouts account := by
  rw [Bool.eq_iff_iff, Option.isNone_iff_eq_none, Amount.add?_eq_none_iff, hcredits,
    Bool.not_eq_true', Bool.eq_false_iff, ne_eq, fits_eq_true_iff, Nat.not_lt]

/-- The check by gathered credits is the check by whole numbers, and names the
    same account. -/
theorem checkGathered_eq (ledger : Ledger) (payouts : List Payout) :
    ledger.checkGathered payouts = ledger.checkRelease payouts := by
  unfold checkGathered checkRelease
  cases hsum : sumPayouts 0 payouts with
  | error fault => rfl
  | ok sum =>
    by_cases hshort : ledger.reserves < sum
    · simp only [if_pos hshort]
    · simp only [if_neg hshort]
      have hworth := ((sumPayouts_eq_ok_iff _ _ _).1 hsum).1
      have hzero : (0 : Amount).toNat = 0 := rfl
      have hnone : ∀ account : Address,
          (((Table.empty : Table Address Amount).get? account).getD 0).toNat = 0 := fun _ => rfl
      have hroom : ∀ account, (((Table.empty : Table Address Amount).get? account).getD 0).toNat +
          credit account payouts < Amount.limit := by
        intro account
        have hle := credit_le_worth account payouts
        rw [hnone]
        omega
      rcases gather_ok .empty payouts hroom with ⟨gathered, hok, hcredits, hfirst⟩
      have hwhole : ∀ account,
          ((gathered.get? account).getD 0).toNat = credit account payouts := by
        intro account
        rw [hcredits account, hnone, Nat.zero_add]
      -- Behind the order the table has the accounts as they first come in the payouts.
      have hnamed : (ledger.order ++ gathered.entries.map Prod.fst).find?
            (fun account => !ledger.fits payouts account) =
          (ledger.walk payouts).find? (fun account => !ledger.fits payouts account) := by
        rw [walk, List.find?_append, List.find?_append, hfirst]
        rfl
      rw [hok]
      cases hfound : (ledger.walk payouts).find? fun account => !ledger.fits payouts account with
      | none => simp only [isNone_add?_gathered ledger hwhole, hnamed, hfound]
      | some account => simp only [isNone_add?_gathered ledger hwhole, hnamed, hfound]

/-! ## The account that is named -/

/-- An account has no room for its payouts, on a ledger that could cover all of
    them. -/
structure Crowded (ledger : Ledger) (payouts : List Payout) (account : Address) : Prop where
  covered : worth payouts ≤ ledger.reserves.toNat
  exceeds : Amount.limit ≤ (ledger.balance account).toNat + credit account payouts

section Order

variable {ledger : Ledger} {payouts : List Payout} {account : Address}

/-- If the reserves cover the payouts, what is left to look for is an account
    without room. -/
theorem checkRelease_of_covered (h : worth payouts ≤ ledger.reserves.toNat) :
    ledger.checkRelease payouts =
      ((ledger.walk payouts).find? fun account => !ledger.fits payouts account).elim (.ok ())
        fun account => .error (.overflow account) := by
  have hlimit := ledger.reserves.toNat_lt_limit
  have hzero : (0 : Amount).toNat = 0 := rfl
  unfold checkRelease
  cases hsum : sumPayouts 0 payouts with
  | error fault =>
    -- A sum that is within the reserves is an amount.
    have hover := (sumPayouts_error hsum).1
    omega
  | ok sum =>
    rw [sumPayouts_eq_ok_iff, hzero, Nat.zero_add] at hsum
    have hcovered : ¬ledger.reserves < sum := by
      rw [BitVec.lt_def, hsum.2]
      exact Nat.not_lt.2 h
    simp only [if_neg hcovered]
    cases (ledger.walk payouts).find? fun account => !ledger.fits payouts account <;> rfl

theorem not_fits_iff : (!ledger.fits payouts account) = true ↔
    Amount.limit ≤ (ledger.balance account).toNat + credit account payouts := by
  rw [Bool.not_eq_true', Bool.eq_false_iff, ne_eq, fits_eq_true_iff, Nat.not_lt]

theorem crowded_of_find? (hcovered : worth payouts ≤ ledger.reserves.toNat)
    (hfind : (ledger.walk payouts).find? (fun account => !ledger.fits payouts account) =
      some account) : ledger.Crowded payouts account := by
  have hfull := List.find?_some hfind
  exact ⟨hcovered, not_fits_iff.1 hfull⟩

/-- Any account without room is named in some order. -/
theorem Crowded.exists_arrange (h : ledger.Crowded payouts account) :
    ∃ order, (ledger.arrange order).checkRelease payouts = .error (.overflow account) := by
  have hfull : (!(ledger.arrange [account]).fits payouts account) = true := not_fits_iff.2 h.exceeds
  have hwalk : (ledger.arrange [account]).walk payouts =
      account :: payouts.map Payout.account := rfl
  have hcovered : worth payouts ≤ (ledger.arrange [account]).reserves.toNat := h.covered
  refine ⟨[account], ?_⟩
  rw [checkRelease_of_covered hcovered, hwalk, List.find?_cons, hfull]
  rfl

/-- Another order bears on nothing but the account that is named, and that has no
    room in either. -/
theorem checkRelease_arrange (ledger : Ledger) (order : List Address) (payouts : List Payout) :
    (ledger.arrange order).checkRelease payouts = ledger.checkRelease payouts ∨
      ∃ named other, ledger.Crowded payouts named ∧ ledger.Crowded payouts other ∧
        (ledger.arrange order).checkRelease payouts = .error (.overflow named) ∧
        ledger.checkRelease payouts = .error (.overflow other) := by
  by_cases hcovered : worth payouts ≤ ledger.reserves.toNat
  · have harranged : worth payouts ≤ (ledger.arrange order).reserves.toNat := hcovered
    rw [checkRelease_of_covered hcovered, checkRelease_of_covered harranged]
    cases hnamed : ((ledger.arrange order).walk payouts).find?
        fun account => !(ledger.arrange order).fits payouts account with
    | none =>
      -- All accounts have room, whoever looks at them.
      have hnone : (ledger.walk payouts).find? (fun account => !ledger.fits payouts account) =
          none := by
        refine List.find?_eq_none.2 fun account _ => ?_
        rw [not_fits_iff, Nat.not_le]
        exact fits_of_find? hnamed account
      rw [hnone]
      exact .inl rfl
    | some named =>
      have hfull := crowded_of_find? harranged hnamed
      cases hother : (ledger.walk payouts).find? fun account => !ledger.fits payouts account with
      | none => exact absurd (fits_of_find? hother named) (Nat.not_lt.2 hfull.exceeds)
      | some other =>
        exact .inr ⟨named, other, ⟨hcovered, hfull.exceeds⟩, crowded_of_find? hcovered hother, rfl,
          rfl⟩
  · -- The reserves do not cover the payouts, and nobody looks for room.
    left
    have hshort : ∀ {sum : Amount}, sumPayouts 0 payouts = .ok sum → ledger.reserves < sum := by
      intro sum hsum
      rw [sumPayouts_eq_ok_iff] at hsum
      have hzero : (0 : Amount).toNat = 0 := rfl
      rw [BitVec.lt_def]
      omega
    have hreserves : (ledger.arrange order).reserves = ledger.reserves := rfl
    unfold checkRelease
    cases hsum : sumPayouts 0 payouts with
    | error fault => rfl
    | ok sum => simp only [hreserves, if_pos (hshort hsum)]

end Order

/-! ## One payment after another -/

/-- The payout that is named is the one at which the sum passes the limit. -/
theorem sumPayouts_overflow (sum : Amount) (payouts : List Payout)
    (h : Amount.limit ≤ sum.toNat + worth payouts) :
    ∃ before payout behind, payouts = before ++ payout :: behind ∧
      sum.toNat + worth before < Amount.limit ∧
      Amount.limit ≤ sum.toNat + worth before + payout.value.toNat ∧
      sumPayouts sum payouts = .error (.overflow payout.account) := by
  induction payouts generalizing sum with
  | nil => exact absurd sum.toNat_lt_limit (Nat.not_lt.2 h)
  | cons payout rest ih =>
    cases hadd : Amount.add? sum payout.value with
    | none =>
      have hover := (Amount.add?_eq_none_iff _ _).1 hadd
      -- This is the payout, and the sum in front of it is an amount.
      refine ⟨[], payout, rest, rfl, sum.toNat_lt_limit, hover, ?_⟩
      rw [sumPayouts, hadd]
    | some next =>
      have hnext := ((Amount.add?_eq_some_iff _ _ _).1 hadd).2
      rw [worth_cons, ← Nat.add_assoc, ← hnext] at h
      -- It is one of the rest, and this one belongs in front of it.
      rcases ih next h with ⟨before, found, behind, rfl, hbelow, hover, herror⟩
      rw [hnext] at hbelow hover
      refine ⟨payout :: before, found, behind, rfl, ?_, ?_, ?_⟩
      · rw [worth_cons, ← Nat.add_assoc]
        exact hbelow
      · rw [worth_cons, ← Nat.add_assoc]
        exact hover
      · rw [sumPayouts, hadd]
        exact herror

/-- A payment takes from the reserves and gives to the balance just its value. -/
structure PaysExactly (ledger : Ledger) (payout : Payout) : Prop where
  reserves : (ledger.pay payout).reserves.toNat + payout.value.toNat = ledger.reserves.toNat
  balance : ((ledger.pay payout).balance payout.account).toNat =
    (ledger.balance payout.account).toNat + payout.value.toNat

theorem Payable.paysExactly {ledger : Ledger} {payout : Payout} {rest : List Payout}
    (h : ledger.Payable (payout :: rest)) : ledger.PaysExactly payout := by
  refine ⟨h.reserves_pay, ?_⟩
  rw [h.toNat_balance_pay, if_pos rfl]

/-- Once some payouts are paid, those behind them are still payable. -/
theorem Payable.foldl {ledger : Ledger} {paid rest : List Payout}
    (h : ledger.Payable (paid ++ rest)) : (paid.foldl pay ledger).Payable rest := by
  induction paid generalizing ledger with
  | nil => exact h
  | cons payout others ih => exact ih h.tail

/-- What checking and paying a list of payouts come to. -/
structure ReleasesExactly (ledger : Ledger) (payouts : List Payout) : Prop where
  /-- The check passes if the reserves cover all payouts and every account has
      room for all of its own. -/
  check_iff : ledger.checkRelease payouts = .ok () ↔
    worth payouts ≤ ledger.reserves.toNat ∧
      ∀ account, (ledger.balance account).toNat + credit account payouts < Amount.limit
  /-- It is the check that gathers the credits in amounts. -/
  check_eq : ledger.checkGathered payouts = ledger.checkRelease payouts
  /-- The release is answered as the check is. -/
  release_eq : (ledger.release payouts).1 = ledger.checkRelease payouts
  /-- What passes the check is paid one after another. -/
  paid : ledger.checkRelease payouts = .ok () →
    (ledger.release payouts).2 = payouts.foldl pay ledger
  /-- Each of these payments is exact on the ledger that it meets. -/
  steps : ledger.checkRelease payouts = .ok () → ∀ before payout behind,
    payouts = before ++ payout :: behind → (before.foldl pay ledger).PaysExactly payout
  /-- In the end the reserves have lost the sum of the payouts. -/
  reserves : ledger.checkRelease payouts = .ok () →
    (ledger.release payouts).2.reserves.toNat + worth payouts = ledger.reserves.toNat
  /-- Each account has gained the sum of its own. -/
  balance : ledger.checkRelease payouts = .ok () → ∀ account,
    ((ledger.release payouts).2.balance account).toNat =
      (ledger.balance account).toNat + credit account payouts
  /-- Whoever is paid nothing has what it had. -/
  kept : ledger.checkRelease payouts = .ok () → ∀ account,
    (∀ payout ∈ payouts, payout.account ≠ account) →
      (ledger.release payouts).2.balance account = ledger.balance account
  /-- A sum beyond the limit is an overflow, told of the payout at which it
      happens. -/
  overflow : Amount.limit ≤ worth payouts → ∃ before payout behind,
    payouts = before ++ payout :: behind ∧ worth before < Amount.limit ∧
      Amount.limit ≤ worth before + payout.value.toNat ∧
      ledger.checkRelease payouts = .error (.overflow payout.account)
  /-- A sum below it that the reserves do not cover is told with the reserves. -/
  short : worth payouts < Amount.limit → ledger.reserves.toNat < worth payouts →
    ∃ sum : Amount, sum.toNat = worth payouts ∧
      ledger.checkRelease payouts = .error (.insufficientReserves ledger.reserves sum)
  /-- If they cover it, an account without room is an overflow. -/
  full : worth payouts ≤ ledger.reserves.toNat →
    (∃ account, Amount.limit ≤ (ledger.balance account).toNat + credit account payouts) →
      ∃ account, Amount.limit ≤ (ledger.balance account).toNat + credit account payouts ∧
        ledger.checkRelease payouts = .error (.overflow account)
  /-- Whatever is refused, the ledger is as it was. -/
  unchanged : ∀ fault, ledger.checkRelease payouts = .error fault →
    (ledger.release payouts).2 = ledger

/-- A check that is not passed says why. -/
theorem exists_refuses {ledger : Ledger} {payouts : List Payout}
    (h : ¬ ledger.Payable payouts) :
    ∃ fault, ledger.checkRelease payouts = .error fault ∧ ledger.Refuses payouts fault := by
  rcases ledger.checkRelease_cases payouts with ⟨_, hpayable⟩ | hrefused
  · exact absurd hpayable h
  · exact hrefused

/-- Every ledger checks and pays every list exactly. -/
theorem releases_exactly (ledger : Ledger) (payouts : List Payout) :
    ledger.ReleasesExactly payouts := by
  -- The check is about being payable, and the other clauses are about what that is worth.
  have hpayable := ledger.checkRelease_eq_ok_iff payouts
  have hlimit := ledger.reserves.toNat_lt_limit
  constructor
  case check_iff =>
    rw [hpayable]
    exact ⟨fun h => ⟨h.covered, h.fits⟩, fun h => ⟨h.1, h.2⟩⟩
  case check_eq => exact ledger.checkGathered_eq payouts
  case release_eq =>
    unfold release
    cases ledger.checkRelease payouts with
    | error fault => rfl
    | ok _ => rfl
  case paid =>
    intro hcheck
    rw [release_of_checkRelease hcheck]
  case steps =>
    intro hcheck before payout behind hsplit
    have h := hpayable.1 hcheck
    rw [hsplit] at h
    -- What is still to be paid is payable on what the payments before have left.
    exact h.foldl.paysExactly
  case reserves =>
    intro hcheck
    rw [release_of_checkRelease hcheck]
    exact (hpayable.1 hcheck).reserves_foldl
  case balance =>
    intro hcheck account
    rw [release_of_checkRelease hcheck]
    exact (hpayable.1 hcheck).balance_foldl account
  case kept =>
    intro hcheck account hnone
    -- Who is not paid is credited with nothing.
    have hbalance := (hpayable.1 hcheck).balance_foldl account
    rw [credit_eq_zero hnone, Nat.add_zero, BitVec.toNat_inj] at hbalance
    rw [release_of_checkRelease hcheck]
    exact hbalance
  case overflow =>
    intro hover
    have hzero : (0 : Amount).toNat = 0 := rfl
    rcases sumPayouts_overflow 0 payouts (by omega) with
      ⟨before, payout, behind, hsplit, hbelow, hpassed, herror⟩
    rw [hzero, Nat.zero_add] at hbelow hpassed
    refine ⟨before, payout, behind, hsplit, hbelow, hpassed, ?_⟩
    rw [checkRelease, herror]
  case short =>
    intro hbelow hshort
    rcases exists_refuses
      (fun h => absurd h.covered (Nat.not_le.2 hshort)) with ⟨fault, herror, hrefuses⟩
    -- Of the three refusals this is the one that the amounts allow.
    cases hrefuses with
    | sum account hover => exact absurd hover (Nat.not_le.2 hbelow)
    | reserves hsum _ => exact ⟨_, hsum, herror⟩
    | account hcovered _ => exact absurd hcovered (Nat.not_le.2 hshort)
  case full =>
    rintro hcovered ⟨crowded, hcrowded⟩
    rcases exists_refuses
      (fun h => absurd (h.fits crowded) (Nat.not_lt.2 hcrowded)) with ⟨fault, herror, hrefuses⟩
    -- And here it is the last one, for the first two were passed.
    cases hrefuses with
    | sum account hover => omega
    | reserves _ hshort => exact absurd hcovered (Nat.not_le.2 hshort)
    | account _ hover => exact ⟨_, hover, herror⟩
  case unchanged =>
    intro fault hcheck
    rw [release_of_checkRelease_error hcheck]

end Ledger

end QuorumBridge
