import QuorumBridge.Proofs.Crossing.Publication
import QuorumBridge.Proofs.Release

/-!
# The account that is named

The order in which a ledger looks at accounts bears on one word of one answer.

If several accounts have no room for what they are to be paid, one of them is
named, and the order tells which. The order may be another one at every call, so
two runs of the same calls from the same state need not give the same answers.
They differ in that name, though, and in nothing else: not in whether a call is
refused or what for, and not in what is left behind.

A run is therefore compared with the run of what is asked in it
(`Crossing.asked`), in which no order is ever changed. The calls that change it
are made in one of the runs only, and the states of the two runs differ in the
orders of their ledgers (`Crossing.Rearranged`). That a call keeps this relation
is all there is to be shown. It is shown operation by operation, each on a state
and on the state with other orders, and only where an operation goes through
`Ledger.checkRelease` with more than one account is there something to it.

Not every overflow is open to the order. A deposit is paid to one account, and
crediting and locking look at one. So an answer keeps its name unless the call
asks a ledger for room for several accounts (`Crossing.Call.pays`).

## Main definitions

* `Refusal.unnamed`: A refusal without the account that it names.
* `Crossing.asked`: Calls without those that change an order.
* `Crossing.told`: What is told in a history, whatever the orders.
* `Crossing.Rearranged`: Two bridges that differ in the orders of their ledgers.
* `Crossing.Indifferent`: Two runs that differ in no more than that.

## Theorems

* `Ledger.perform_arrange`: A ledger in another order.
* `Home.withdraw_arrange`, `Foreign.confirm_arrange`: The two payments.
* `Crossing.Rearranged.step`: One call.
* `Crossing.Rearranged.asked`: Any number of calls.
* `Crossing.indifferent_run`: What is told and published in a run depends on what
  is asked in it.
-/

namespace QuorumBridge

/-- A fault without the account that it names. -/
def LedgerFault.unnamed : LedgerFault → LedgerFault
  | .overflow _ => .overflow Address.zero
  | fault => fault

/-- A refusal without the account that it names, if it is that of a ledger. -/
def Refusal.unnamed : Refusal → Refusal
  | .ledger fault => .ledger fault.unnamed
  | refusal => refusal

/-- An answer without the account that it names. -/
def unnamedResult {α : Type} : Except Refusal α → Except Refusal α
  | .ok answer => .ok answer
  | .error refusal => .error refusal.unnamed

section Results

variable {α β : Type} {result other : Except Refusal α}

/-- Two answers that differ in a name at most are refusals that do, or they are
    the same. -/
theorem unnamedResult_cases (h : unnamedResult result = unnamedResult other) :
    (∃ answer, result = .ok answer ∧ other = .ok answer) ∨
      ∃ refusal reason, result = .error refusal ∧ other = .error reason ∧
        refusal.unnamed = reason.unnamed := by
  cases result with
  | error refusal =>
    cases other with
    | error reason => exact .inr ⟨refusal, reason, rfl, rfl, Except.error.inj h⟩
    | ok answer => exact absurd h (by simp only [unnamedResult, reduceCtorEq, not_false_eq_true])
  | ok answer =>
    cases other with
    | error reason => exact absurd h (by simp only [unnamedResult, reduceCtorEq,
        not_false_eq_true])
    | ok planned => exact .inl ⟨answer, rfl, congrArg Except.ok (Except.ok.inj h).symm⟩

theorem unnamedResult_map (f : α → β) (h : unnamedResult result = unnamedResult other) :
    unnamedResult (result.map f) = unnamedResult (other.map f) := by
  rcases unnamedResult_cases h with ⟨answer, rfl, rfl⟩ | ⟨refusal, reason, rfl, rfl, hname⟩
  · rfl
  · exact congrArg Except.error hname

end Results

/-! ## Ledgers -/

namespace Ledger

variable (ledger : Ledger) (order : List Address)

theorem foldl_pay_arrange (payouts : List Payout) :
    payouts.foldl pay (ledger.arrange order) = (payouts.foldl pay ledger).arrange order := by
  induction payouts generalizing ledger with
  | nil => rfl
  | cons payout rest ih => exact ih (ledger.pay payout)

theorem fund_arrange (account : Address) (value : Amount) :
    (ledger.arrange order).fund account value =
      ((ledger.fund account value).1, (ledger.fund account value).2.arrange order) := by
  have hbalance : ((ledger.arrange order).opened account).balance account =
      (ledger.opened account).balance account := rfl
  unfold fund
  simp only [hbalance]
  cases Amount.add? ((ledger.opened account).balance account) value <;> rfl

theorem lock_arrange (owner : Address) (value : Amount) :
    (ledger.arrange order).lock owner value =
      ((ledger.lock owner value).1, (ledger.lock owner value).2.arrange order) := by
  -- A lock reads one balance and the reserves, and the order is in neither.
  have hbalance : (ledger.arrange order).balance owner = ledger.balance owner := rfl
  have hreserves : (ledger.arrange order).reserves = ledger.reserves := rfl
  unfold lock
  simp only [hbalance, hreserves]
  by_cases hpoor : ledger.balance owner < value
  · simp only [if_pos hpoor]
  · simp only [if_neg hpoor]
    cases Amount.add? ledger.reserves value <;> rfl

/-- What may be refused in another order is refused in this one, up to a name. -/
theorem exists_checkRelease_arrange {payouts : List Payout} {fault : LedgerFault}
    (h : ledger.checkRelease payouts = .error fault) :
    ∃ other, (ledger.arrange order).checkRelease payouts = .error other ∧
      other.unnamed = fault.unnamed := by
  rcases ledger.checkRelease_arrange order payouts with hsame | ⟨named, other, _, _, hnamed, hother⟩
  · exact ⟨fault, hsame.trans h, rfl⟩
  · rw [h, Except.error.injEq] at hother
    exact ⟨_, hnamed, by rw [hother]; rfl⟩

theorem checkRelease_arrange_ok {payouts : List Payout}
    (h : ledger.checkRelease payouts = .ok ()) :
    (ledger.arrange order).checkRelease payouts = .ok () := by
  rcases ledger.checkRelease_arrange order payouts with hsame | ⟨_, _, _, _, _, hother⟩
  · exact hsame.trans h
  · rw [h] at hother
    exact absurd hother (by simp only [reduceCtorEq, not_false_eq_true])

/-- Whether a call asks for room for several accounts. -/
def Call.pays : Ledger.Call → Bool
  | .checkRelease _ | .release _ => true
  | _ => false

/-- A call in another order leaves the same ledger, up to the order, and is
    answered the same but for a name. -/
theorem perform_arrange (call : Ledger.Call) :
    (∃ later, ((ledger.arrange order).perform call).2 = (ledger.perform call).2.arrange later) ∧
      (((ledger.arrange order).perform call).1 = (ledger.perform call).1 ∨
        call.pays = true ∧ ∃ fault other, ((ledger.arrange order).perform call).1 = .error fault ∧
          (ledger.perform call).1 = .error other ∧ fault.unnamed = other.unnamed) := by
  cases call with
  | fund account value =>
    rw [perform, fund_arrange]
    exact ⟨⟨order, rfl⟩, .inl rfl⟩
  | lock owner value =>
    rw [perform, lock_arrange]
    exact ⟨⟨order, rfl⟩, .inl rfl⟩
  | checkRelease payouts =>
    refine ⟨⟨order, rfl⟩, ?_⟩
    cases hcheck : ledger.checkRelease payouts with
    | ok _ => exact .inl ((ledger.checkRelease_arrange_ok order hcheck).trans hcheck.symm)
    | error fault =>
      rcases ledger.exists_checkRelease_arrange order hcheck with ⟨other, hother, hname⟩
      exact .inr ⟨rfl, other, fault, hother, hcheck, hname⟩
  | release payouts =>
    cases hcheck : ledger.checkRelease payouts with
    | ok _ =>
      have harranged := ledger.checkRelease_arrange_ok order hcheck
      rw [perform, perform, release_of_checkRelease hcheck, release_of_checkRelease harranged,
        foldl_pay_arrange]
      exact ⟨⟨order, rfl⟩, .inl rfl⟩
    | error fault =>
      rcases ledger.exists_checkRelease_arrange order hcheck with ⟨other, hother, hname⟩
      rw [perform, perform, release_of_checkRelease_error hcheck,
        release_of_checkRelease_error hother]
      exact ⟨⟨order, rfl⟩, .inr ⟨rfl, other, fault, rfl, rfl, hname⟩⟩
  -- The ledger that is put in its place, and the order that comes next, are given.
  | replace other => exact ⟨⟨other.order, rfl⟩, .inl rfl⟩
  | arrange next => exact ⟨⟨next, rfl⟩, .inl rfl⟩

end Ledger

/-! ## Sides -/

/-- A settlement on a ledger in another order. It is answered exactly the same if
    the ledger answers exactly the same whether it can pay. -/
theorem settle_arrange {α : Type} (guard : ReplayGuard) (ledger : Ledger) (order : List Address)
    (key : ReplayKey) (replayed : Refusal) (plan : Except Refusal α)
    (payouts : α → List Payout) :
    ∃ result other left after,
      settle (Books.mk guard (ledger.arrange order)) key replayed plan payouts =
          (result, ⟨left, after.arrange order⟩) ∧
        settle (Books.mk guard ledger) key replayed plan payouts = (other, ⟨left, after⟩) ∧
        unnamedResult result = unnamedResult other ∧
        ((∀ planned, (ledger.arrange order).checkRelease (payouts planned) =
          ledger.checkRelease (payouts planned)) → result = other) := by
  rw [settle_books, settle_books]
  -- The guard and the plan are asked first, and they know of no order.
  by_cases hspent : guard.isSpent key = true
  · simp only [if_pos hspent]
    exact ⟨_, _, guard, ledger, rfl, rfl, rfl, fun _ => rfl⟩
  · simp only [if_neg hspent]
    cases plan with
    | error refusal => exact ⟨_, _, guard, ledger, rfl, rfl, rfl, fun _ => rfl⟩
    | ok planned =>
      simp only
      cases hcheck : ledger.checkRelease (payouts planned) with
      | ok _ =>
        -- Both can pay, and payments are made in the order of the payouts.
        rw [ledger.checkRelease_arrange_ok order hcheck, Ledger.foldl_pay_arrange]
        exact ⟨_, _, _, _, rfl, rfl, rfl, fun _ => rfl⟩
      | error fault =>
        rcases ledger.exists_checkRelease_arrange order hcheck with ⟨other, hother, hname⟩
        rw [hother]
        -- Neither can pay. The fault is that of the ledger, which may have another name.
        refine ⟨_, _, guard, ledger, rfl, rfl, ?_, fun hsame => ?_⟩
        · exact congrArg (fun fault => Except.error (Refusal.ledger fault)) hname
        · have hfault := hsame planned
          rw [hother, hcheck, Except.error.injEq] at hfault
          rw [hfault]

theorem Books.lock_arrange (guard : ReplayGuard) (ledger : Ledger) (order : List Address)
    (key : ReplayKey) (owner : Address) (value : Amount) :
    (Books.mk guard (ledger.arrange order)).lock key owner value =
      (((Books.mk guard ledger).lock key owner value).1,
        ⟨((Books.mk guard ledger).lock key owner value).2.replays,
          ((Books.mk guard ledger).lock key owner value).2.ledger.arrange order⟩) := by
  unfold Books.lock
  by_cases hzero : value = 0
  · simp only [if_pos hzero]
  · simp only [if_neg hzero]
    by_cases hspent : guard.isSpent key = true
    · simp only [if_pos hspent]
    · simp only [if_neg hspent, Ledger.lock_arrange]
      rcases ledger.lock owner value with ⟨fault | _, after⟩ <;> rfl

namespace Home

/-- The home side whose ledger looks at accounts in another order. -/
def arrange (home : Home) (order : List Address) : Home :=
  { home with ledger := home.ledger.arrange order }

variable (home : Home) (order : List Address)

theorem deposit_arrange (depositor : Address) (value : Amount) (transaction : Hash) :
    ((home.arrange order).deposit depositor value transaction).result =
        (home.deposit depositor value transaction).result ∧
      ((home.arrange order).deposit depositor value transaction).state =
        (home.deposit depositor value transaction).state.arrange order := by
  unfold deposit arrange
  simp only [Books.lock_arrange]
  rcases Books.lock ⟨home.requests, home.ledger⟩ (.homeDeposit transaction) depositor value with
    ⟨refusal | _, books⟩ <;> exact ⟨rfl, rfl⟩

/-- A withdrawal from a ledger in another order may name another account. -/
theorem withdraw_arrange (guard : ReplayGuard) (signatures : List Signature)
    (message : List UInt8) (relayer : Address) :
    unnamedResult ((home.arrange order).withdraw guard signatures message relayer).result =
        unnamedResult (home.withdraw guard signatures message relayer).result ∧
      ((home.arrange order).withdraw guard signatures message relayer).state =
        ((home.withdraw guard signatures message relayer).state.1.arrange order,
          (home.withdraw guard signatures message relayer).state.2) := by
  unfold withdraw
  have hregistry : (home.arrange order).registry = home.registry := rfl
  rw [hregistry]
  cases verify home.registry signatures message with
  | error refusal => exact ⟨rfl, rfl⟩
  | ok verified =>
    rcases settle_arrange guard home.ledger order
      (.foreignWithdraw verified.instruction.transaction)
      (.alreadyExecuted verified.instruction.transaction) (home.gate.plan verified relayer)
      Withdrawal.payouts with ⟨result, other, left, after, harranged, hplain, hname, -⟩
    have hgate : (home.arrange order).gate = home.gate := rfl
    have hledger : (home.arrange order).ledger = home.ledger.arrange order := rfl
    simp only [Gate.release, hgate, hledger, harranged, hplain]
    -- Both are refused or neither is, for a name is all that may differ.
    rcases unnamedResult_cases hname with ⟨withdrawal, rfl, rfl⟩ | ⟨refusal, reason, rfl, rfl, -⟩
    · exact ⟨rfl, rfl⟩
    · exact ⟨hname, rfl⟩

end Home

namespace Foreign

/-- The foreign side whose ledger looks at accounts in another order. -/
def arrange (foreign : Foreign) (order : List Address) : Foreign :=
  { foreign with ledger := foreign.ledger.arrange order }

variable (foreign : Foreign) (order : List Address)

/-- A deposit is paid to one account, so there is none to choose. -/
theorem confirm_arrange (guard : ReplayGuard) (authority : Address) (deposit : Deposit) :
    ((foreign.arrange order).confirm guard authority deposit).result =
        (foreign.confirm guard authority deposit).result ∧
      ((foreign.arrange order).confirm guard authority deposit).state =
        ((foreign.confirm guard authority deposit).state.1.arrange order,
          (foreign.confirm guard authority deposit).state.2) := by
  have hregistry : (foreign.arrange order).registry = foreign.registry := rfl
  have hbook : (foreign.arrange order).confirmations = foreign.confirmations := rfl
  have hledger : (foreign.arrange order).ledger = foreign.ledger.arrange order := rfl
  unfold confirm Confirmations.confirm
  rw [hregistry, hbook, hledger]
  cases foreign.registry.position? authority with
  | none => exact ⟨rfl, rfl⟩
  | some index =>
    simp only
    cases foreign.confirmations.vote foreign.registry deposit authority index with
    | error refusal => exact ⟨rfl, rfl⟩
    | ok signers =>
      simp only
      by_cases hbelow : signers.size < foreign.registry.threshold
      · simp only [if_pos hbelow, true_and]
        rfl
      · rcases settle_arrange guard foreign.ledger order (.homeDeposit deposit.transaction)
          (.alreadyReleased deposit.transaction) (.ok deposit) Deposit.payouts with
          ⟨result, other, left, after, harranged, hplain, -, hexact⟩
        -- With one payout there is one account to look at, wherever it stands.
        have hsame : result = other :=
          hexact (@Ledger.checkRelease_congr (foreign.ledger.arrange order) foreign.ledger
            (fun _ => rfl) rfl)
        simp only [if_neg hbelow, harranged, hplain, hsame]
        cases other with
        | error refusal => exact ⟨rfl, rfl⟩
        | ok planned => exact ⟨rfl, rfl⟩

theorem transferHome_arrange (sender recipient : Address) (value homeGasPrice : Amount)
    (transaction : Hash) :
    ((foreign.arrange order).transferHome sender recipient value homeGasPrice transaction).result =
        (foreign.transferHome sender recipient value homeGasPrice transaction).result ∧
      ((foreign.arrange order).transferHome sender recipient value homeGasPrice
          transaction).state =
        (foreign.transferHome sender recipient value homeGasPrice transaction).state.arrange
          order := by
  unfold transferHome arrange
  simp only [Books.lock_arrange]
  rcases Books.lock ⟨foreign.requests, foreign.ledger⟩ (.foreignWithdraw transaction) sender value
    with ⟨refusal | _, books⟩ <;> exact ⟨rfl, rfl⟩

/-- A signature is submitted to no ledger. -/
theorem submit_arrange (signature : Signature) (message : List UInt8)
    (claimed relayer : Address) :
    ((foreign.arrange order).submit signature message claimed relayer).result =
        (foreign.submit signature message claimed relayer).result ∧
      ((foreign.arrange order).submit signature message claimed relayer).state =
        (foreign.submit signature message claimed relayer).state.arrange order := by
  unfold submit arrange
  rcases foreign.bundles.submit foreign.registry signature message claimed relayer with
    ⟨refusal | outcome, bundles⟩ <;> exact ⟨rfl, rfl⟩

end Foreign

/-! ## Bridges -/

namespace Crossing

/-- Whether a call changes the order in which a ledger looks at accounts. -/
def Call.arranges : Call → Bool
  | .homeLedger (.arrange _) | .foreignLedger (.arrange _) => true
  | _ => false

/-- Whether a call asks a ledger for room for several accounts. -/
def Call.pays : Call → Bool
  | .withdraw _ _ _ | .relay _ _ => true
  | .homeLedger call | .foreignLedger call => call.pays
  | _ => false

/-- The calls but those that change an order. -/
def asked (calls : List Call) : List Call :=
  calls.filter (!·.arranges)

/-- An exchange without the account that is named, if the order may have to do
    with it. -/
def Exchange.unnamed (exchange : Exchange) : Exchange :=
  if exchange.call.pays then ⟨exchange.call, unnamedResult exchange.result⟩ else exchange

/-- What is told in a history, whatever the orders. -/
def told (history : List Exchange) : List Exchange :=
  (history.filter (!·.call.arranges)).map Exchange.unnamed

/-- Two bridges are the same but for the orders of their ledgers, and for what
    was counted. -/
structure Rearranged (crossing other : Crossing) : Prop where
  home : ∃ order, other.home = crossing.home.arrange order
  foreign : ∃ order, other.foreign = crossing.foreign.arrange order
  guards : other.guards = crossing.guards

variable {crossing other : Crossing}

theorem Rearranged.refl (crossing : Crossing) : Rearranged crossing crossing :=
  ⟨⟨crossing.home.ledger.order, rfl⟩, ⟨crossing.foreign.ledger.order, rfl⟩, rfl⟩

theorem unnamed_of_pays {call : Call} (h : call.pays = true) {result other : Except Refusal Answer}
    (hsame : unnamedResult result = unnamedResult other) :
    (Exchange.mk call result).unnamed = (Exchange.mk call other).unnamed := by
  rw [Exchange.unnamed, Exchange.unnamed, if_pos h, if_pos h, hsame]

/-- A withdrawal on two bridges that differ in orders. -/
theorem Rearranged.withdraw (h : Rearranged crossing other) (signatures : List Signature)
    (message : List UInt8) (relayer : Address) :
    unnamedResult (other.perform (.withdraw signatures message relayer)).result =
        unnamedResult (crossing.perform (.withdraw signatures message relayer)).result ∧
      Rearranged (crossing.perform (.withdraw signatures message relayer)).state
        (other.perform (.withdraw signatures message relayer)).state := by
  rcases h with ⟨⟨order, hhome⟩, ⟨later, hforeign⟩, hguards⟩
  rcases crossing.home.withdraw_arrange order crossing.guards.home signatures message relayer with
    ⟨hresult, hstate⟩
  unfold perform
  simp only [Report.map, Report.mapState, hhome, hguards, hstate]
  refine ⟨unnamedResult_map _ hresult, ⟨order, rfl⟩, ⟨later, hforeign⟩, ?_⟩
  simp only [withHome, hguards]

/-- A use of a ledger on two bridges that differ in orders. -/
theorem ledgerReport_arrange (ledger : Ledger) (order : List Address) (call : Ledger.Call) :
    (∃ later, (ledgerReport (ledger.arrange order) call).state =
        (ledgerReport ledger call).state.arrange later) ∧
      ((ledgerReport (ledger.arrange order) call).result = (ledgerReport ledger call).result ∨
        call.pays = true ∧ unnamedResult (ledgerReport (ledger.arrange order) call).result =
          unnamedResult (ledgerReport ledger call).result) := by
  rcases ledger.perform_arrange order call with ⟨⟨later, hstate⟩, hresult⟩
  unfold ledgerReport
  -- All that is known of the two answers stands in the hypotheses, so the calls may be forgotten.
  generalize (ledger.arrange order).perform call = arranged at hstate hresult ⊢
  generalize ledger.perform call = plain at hstate hresult ⊢
  rcases arranged with ⟨result, after⟩
  rcases plain with ⟨other, before⟩
  simp only at hstate hresult
  rcases hresult with rfl | ⟨hpays, fault, reason, rfl, rfl, hname⟩
  · cases result with
    | error fault => exact ⟨⟨later, hstate⟩, .inl rfl⟩
    | ok _ => exact ⟨⟨later, hstate⟩, .inl rfl⟩
  · refine ⟨⟨later, hstate⟩, .inr ⟨hpays, ?_⟩⟩
    exact congrArg (fun fault => Except.error (Refusal.ledger fault)) hname

/-- A use of a ledger by others on two bridges that differ in orders. -/
theorem unnamed_ledgerReport (ledger : Ledger) (order : List Address) (use : Ledger.Call)
    {call : Call} (hpays : call.pays = use.pays) :
    (Exchange.mk call (ledgerReport (ledger.arrange order) use).result).unnamed =
      (Exchange.mk call (ledgerReport ledger use).result).unnamed := by
  rcases (ledgerReport_arrange ledger order use).2 with hsame | ⟨huse, hname⟩
  · rw [hsame]
  · exact unnamed_of_pays (hpays.trans huse) hname

/-- Two bridges that differ in orders answer a call the same but for a name, and
    differ in orders afterwards. -/
theorem Rearranged.perform (h : Rearranged crossing other) (call : Call) :
    (Exchange.mk call (other.perform call).result).unnamed =
        (Exchange.mk call (crossing.perform call).result).unnamed ∧
      Rearranged (crossing.perform call).state (other.perform call).state := by
  have hwithdraw := h.withdraw
  rcases h with ⟨⟨order, hhome⟩, ⟨later, hforeign⟩, hguards⟩
  -- Each call is made on one side, whose lemma says what it does there. The other side keeps its
  -- order.
  cases call with
  | deposit depositor value transaction =>
    rcases crossing.home.deposit_arrange order depositor value transaction with ⟨hresult, hstate⟩
    simp only [Crossing.perform, Report.map, Report.mapState, hhome, hresult, hstate, true_and]
    exact ⟨⟨order, rfl⟩, ⟨later, hforeign⟩, hguards⟩
  -- These are the calls of the bridge that may name another account.
  | withdraw signatures message relayer =>
    rcases hwithdraw signatures message relayer with ⟨hname, hstate⟩
    exact ⟨unnamed_of_pays rfl hname, hstate⟩
  | relay bundle relayer =>
    rcases hwithdraw bundle.signatures bundle.message relayer with ⟨hname, hstate⟩
    exact ⟨unnamed_of_pays rfl hname, hstate⟩
  | confirm authority deposit =>
    rcases crossing.foreign.confirm_arrange later crossing.guards.foreign authority deposit with
      ⟨hresult, hstate⟩
    simp only [Crossing.perform, Report.map, Report.mapState, hforeign, hguards, hresult, hstate,
      true_and]
    exact ⟨⟨order, hhome⟩, ⟨later, rfl⟩, by simp only [withForeign, hguards]⟩
  | transferHome sender recipient value homeGasPrice transaction =>
    rcases crossing.foreign.transferHome_arrange later sender recipient value homeGasPrice
      transaction with ⟨hresult, hstate⟩
    simp only [Crossing.perform, Report.map, Report.mapState, hforeign, hresult, hstate, true_and]
    exact ⟨⟨order, hhome⟩, ⟨later, rfl⟩, hguards⟩
  | submit signature message claimed relayer =>
    rcases crossing.foreign.submit_arrange later signature message claimed relayer with
      ⟨hresult, hstate⟩
    simp only [Crossing.perform, Report.map, Report.mapState, hforeign, hresult, hstate, true_and]
    exact ⟨⟨order, hhome⟩, ⟨later, rfl⟩, hguards⟩
  -- Others may leave any order behind, so the one that comes next is not the one before.
  | homeLedger use =>
    rcases (ledgerReport_arrange crossing.home.ledger order use).1 with ⟨next, hstate⟩
    have hledger : other.home.ledger = crossing.home.ledger.arrange order := by rw [hhome]; rfl
    refine ⟨?_, ⟨next, ?_⟩, ⟨later, hforeign⟩, hguards⟩
    · simp only [Crossing.perform, Report.mapState, hledger]
      exact unnamed_ledgerReport crossing.home.ledger order use rfl
    · simp only [Crossing.perform, Report.mapState, hledger, hstate]
      rw [hhome]
      rfl
  | foreignLedger use =>
    rcases (ledgerReport_arrange crossing.foreign.ledger later use).1 with ⟨next, hstate⟩
    have hledger : other.foreign.ledger = crossing.foreign.ledger.arrange later := by
      rw [hforeign]; rfl
    refine ⟨?_, ⟨order, hhome⟩, ⟨next, ?_⟩, hguards⟩
    · simp only [Crossing.perform, Report.mapState, hledger]
      exact unnamed_ledgerReport crossing.foreign.ledger later use rfl
    · simp only [Crossing.perform, Report.mapState, hledger, hstate]
      rw [hforeign]
      rfl
  | homeReserve key =>
    simp only [Crossing.perform, Report.mapState, hguards, true_and]
    exact ⟨⟨order, hhome⟩, ⟨later, hforeign⟩, rfl⟩
  | foreignReserve key =>
    simp only [Crossing.perform, Report.mapState, hguards, true_and]
    exact ⟨⟨order, hhome⟩, ⟨later, hforeign⟩, rfl⟩

/-- The same for a call that is counted, which no relation of the two looks at. -/
theorem Rearranged.step (h : Rearranged crossing other) (call : Call) :
    (Exchange.mk call (other.step call).result).unnamed =
        (Exchange.mk call (crossing.step call).result).unnamed ∧
      Rearranged (crossing.step call).state (other.step call).state := by
  rcases h.perform call with ⟨hname, hhome, hforeign, hguards⟩
  exact ⟨hname, hhome, hforeign, hguards⟩

/-- A call that changes an order makes no difference but that. -/
theorem Rearranged.skip (h : Rearranged crossing other) {call : Call}
    (harranges : call.arranges = true) : Rearranged crossing (other.step call).state := by
  rcases h with ⟨⟨order, hhome⟩, ⟨later, hforeign⟩, hguards⟩
  cases call with
  | homeLedger use =>
    cases use with
    | arrange next =>
      -- The second bridge has the new order now, and it was related to the first by whatever
      -- order.
      have hnext : (other.step (.homeLedger (.arrange next))).state.home =
        other.home.arrange next := rfl
      exact ⟨⟨next, by rw [hnext, hhome]; rfl⟩, ⟨later, hforeign⟩, hguards⟩
    | _ => exact absurd harranges Bool.false_ne_true
  | foreignLedger use =>
    cases use with
    | arrange next =>
      have hnext : (other.step (.foreignLedger (.arrange next))).state.foreign =
        other.foreign.arrange next := rfl
      exact ⟨⟨order, hhome⟩, ⟨next, by rw [hnext, hforeign]; rfl⟩, hguards⟩
    | _ => exact absurd harranges Bool.false_ne_true
  | _ => exact absurd harranges Bool.false_ne_true

theorem told_cons_of_arranges {exchange : Exchange} (h : exchange.call.arranges = true)
    (rest : List Exchange) : told (exchange :: rest) = told rest := by
  rw [told, List.filter_cons_of_neg (by rw [h]; exact Bool.false_ne_true), told]

theorem told_cons {exchange : Exchange} (h : exchange.call.arranges = false)
    (rest : List Exchange) : told (exchange :: rest) = exchange.unnamed :: told rest := by
  rw [told, List.filter_cons_of_pos (by rw [h]; rfl), List.map_cons, told]

/-- Of a refusal nothing is published, with or without a name. -/
theorem event?_unnamed (exchange : Exchange) (side : Origin) :
    exchange.unnamed.event? side = exchange.event? side := by
  rcases exchange with ⟨call, result⟩
  rw [Exchange.unnamed]
  -- It is only from refusals that a name is taken, and a refusal publishes nothing.
  by_cases hpays : call.pays = true
  · rw [if_pos hpays]
    cases result with
    | error refusal => cases side <;> rfl
    | ok answer => rfl
  · rw [if_neg hpays]

/-- Of an order nothing is published. -/
theorem event?_of_arranges (crossing : Crossing) {call : Call} (h : call.arranges = true)
    (side : Origin) : (Exchange.mk call (crossing.step call).result).event? side = none := by
  cases call with
  | homeLedger use | foreignLedger use =>
    cases use with
    | arrange next => cases side <;> rfl
    | _ => exact absurd h Bool.false_ne_true
  | _ => exact absurd h Bool.false_ne_true

/-- Two runs tell the same, publish the same and end in the same state, but for
    the orders of ledgers. -/
structure Indifferent (crossing other : Crossing) (calls others : List Call) : Prop where
  told_eq : told (other.exchanges others) = told (crossing.exchanges calls)
  published_eq : ∀ side, published side (other.exchanges others) =
    published side (crossing.exchanges calls)
  rearranged : Rearranged (crossing.run calls).2 (other.run others).2

/-- A run differs in orders only from the run of what is asked in it. -/
theorem Rearranged.asked (h : Rearranged crossing other) (calls : List Call) :
    Indifferent crossing other (asked calls) calls := by
  induction calls generalizing crossing other with
  | nil => exact ⟨rfl, fun _ => rfl, h⟩
  | cons call rest ih =>
    cases harranges : call.arranges with
    | true =>
      -- The call is made in one of the runs only.
      have hasked : Crossing.asked (call :: rest) = Crossing.asked rest :=
        List.filter_cons_of_neg (by rw [harranges]; exact Bool.false_ne_true)
      rcases ih (h.skip harranges) with ⟨htold, hpublished, hend⟩
      rw [hasked]
      refine ⟨?_, fun side => ?_, hend⟩
      · rw [exchanges_cons, told_cons_of_arranges harranges, htold]
      · rw [exchanges_cons, published_cons, event?_of_arranges other harranges, hpublished]
        rfl
    | false =>
      -- The call is made in both, and what is published about it has no name.
      have hasked : Crossing.asked (call :: rest) = call :: Crossing.asked rest :=
        List.filter_cons_of_pos (by rw [harranges]; rfl)
      rcases h.step call with ⟨hname, hnext⟩
      rcases ih hnext with ⟨htold, hpublished, hend⟩
      rw [hasked]
      refine ⟨?_, fun side => ?_, hend⟩
      · rw [exchanges_cons, told_cons harranges, exchanges_cons, told_cons harranges, hname, htold]
      · rw [exchanges_cons, published_cons, exchanges_cons, published_cons, hpublished,
          ← event?_unnamed, hname, event?_unnamed]

/-- Two bridges that differ from a third in orders differ from each other in
    orders. -/
theorem Rearranged.of_common {third : Crossing} (h : Rearranged third crossing)
    (hother : Rearranged third other) : Rearranged crossing other := by
  rcases h with ⟨⟨order, hhome⟩, ⟨later, hforeign⟩, hguards⟩
  rcases hother with ⟨⟨next, hotherHome⟩, ⟨last, hotherForeign⟩, hotherGuards⟩
  refine ⟨⟨next, ?_⟩, ⟨last, ?_⟩, hotherGuards.trans hguards.symm⟩
  · rw [hotherHome, hhome]; rfl
  · rw [hotherForeign, hforeign]; rfl

/-- Two runs from one state in which the same is asked differ in orders only. -/
theorem indifferent_run (crossing : Crossing) {calls others : List Call}
    (h : asked others = asked calls) : Indifferent crossing crossing calls others := by
  have hothers := (Rearranged.refl crossing).asked others
  have hcalls := (Rearranged.refl crossing).asked calls
  rw [h] at hothers
  exact ⟨hothers.told_eq.trans hcalls.told_eq.symm,
    fun side => (hothers.published_eq side).trans (hcalls.published_eq side).symm,
    hcalls.rearranged.of_common hothers.rearranged⟩

end Crossing

end QuorumBridge
