import Mathlib.Algebra.GroupWithZero.Nat
import QuorumBridge.Proofs.Bundles.Relay
import QuorumBridge.Proofs.Crossing.Publication
import QuorumBridge.Proofs.Withdrawal

/-!
# Conservation of value

What the reserves of a side hold is what its events say, and no value is made or
lost.

The reserves of a side are filled by locking and emptied by paying, and either
is told by an event. Whoever adds up the events from the beginning should
therefore arrive at the reserves. On the foreign side that is all there is to
it. On the home side the event of a withdrawal tells what its recipient was
paid, and the fee of the relayer comes out of the same reserves and is told by
no event. So what is added up there is the value of the instructions that were
executed, of which recipient value and fee are the two parts.

All sums are over whole numbers, while the ledgers compute with amounts that
wrap around. `Ledger.Moved` is one entry of the account: how much came into the
reserves, how much left them, and how much was credited to the side from
outside. Entries are added up along a run by `Ledger.Moved.trans`. That every
effect of a call makes an entry which agrees with its event is
`moved_of_effect`.

Others may use the ledger of a side as well. If all they do is to credit
accounts, the account above stays right. Were they to lock or release value
themselves, or to put another ledger in its place, no event would tell.

## Main definitions

* `Ledger.Moved`: An entry of the account of a ledger.
* `Crossing.Call.fundsOnly`: Others only credit accounts on a side.
* `Crossing.locked`, `Crossing.released`, `Crossing.funded`: What was locked,
  paid and credited in a history.
* `Crossing.Reconciled`: The account of a side over a run.

## Theorems

* `Crossing.moved_of_effect`: Every effect agrees with its event.
* `Crossing.moved_run`: So does every run.
* `Crossing.reconciled_run`: The account of either side is right at all times.
-/

namespace QuorumBridge

namespace Ledger

/-- An entry of the account of a ledger: what came into the reserves, what left
    them, and what was credited from outside. -/
structure Moved (before after : Ledger) (locked released funded : Nat) : Prop where
  reserves : after.reserves.toNat + released = before.reserves.toNat + locked
  total : after.total = before.total + funded

theorem Moved.refl (ledger : Ledger) : ledger.Moved ledger 0 0 0 := ⟨rfl, rfl⟩

theorem Moved.trans {first second third : Ledger} {l r f l' r' f' : Nat}
    (h : first.Moved second l r f) (h' : second.Moved third l' r' f') :
    first.Moved third (l + l') (r + r') (f + f') := by
  have hreserves := h.reserves
  have hreserves' := h'.reserves
  have htotal := h.total
  have htotal' := h'.total
  exact ⟨by omega, by omega⟩

theorem moved_lock {ledger : Ledger} {owner : Address} {value : Amount}
    (h : (ledger.lock owner value).1 = .ok ()) :
    ledger.Moved (ledger.lock owner value).2 value.toNat 0 0 :=
  ⟨(lock_ok h).reserves, (lock_ok h).total⟩

theorem moved_foldl_pay {ledger : Ledger} {payouts : List Payout}
    (h : ledger.checkRelease payouts = .ok ()) :
    ledger.Moved (payouts.foldl pay ledger) 0 (worth payouts) 0 := by
  have hpayable := (checkRelease_eq_ok_iff ledger payouts).1 h
  exact ⟨hpayable.reserves_foldl, hpayable.total_foldl⟩

theorem moved_fund {ledger : Ledger} {account : Address} {value : Amount}
    (h : (ledger.fund account value).1 = .ok ()) :
    ledger.Moved (ledger.fund account value).2 0 0 value.toNat := by
  rcases fund_ok h with ⟨hreserves, htotal⟩
  exact ⟨by rw [hreserves], htotal⟩

theorem moved_arrange (ledger : Ledger) (order : List Address) :
    ledger.Moved (ledger.arrange order) 0 0 0 := ⟨rfl, rfl⟩

end Ledger

/-- The value that an event tells was locked on a side. -/
def Event.locked : Origin → Event → Nat
  | .home, .depositRequested _ value _ => value.toNat
  | .foreign, .withdrawRequested _ value _ _ => value.toNat
  | _, _ => 0

/-- The value that an event tells was paid for a deposit. -/
def Event.deposited : Event → Nat
  | .deposit _ value _ => value.toNat
  | _ => 0

namespace Crossing

/-- The ledger of a side. -/
def ledger (crossing : Crossing) : Origin → Ledger
  | .home => crossing.home.ledger
  | .foreign => crossing.foreign.ledger

/-- What others ask of the ledger of a side by a call, if it is such a call. -/
def Call.ledgerCall? : Origin → Call → Option Ledger.Call
  | .home, .homeLedger call => some call
  | .foreign, .foreignLedger call => some call
  | _, _ => none

/-- Whether a call does no more to the ledger of a side, without the bridge, than
    to credit an account. The order of accounts may change at any time. -/
def Call.fundsOnly (side : Origin) (call : Call) : Bool :=
  match call.ledgerCall? side with
  | none | some (.fund _ _) | some (.arrange _) => true
  | some _ => false

/-- The withdrawal that an exchange has executed, if it has. -/
def Exchange.withdrawal? (exchange : Exchange) : Option Withdrawal :=
  match exchange.result with
  | .ok (.withdrawn withdrawal) => some withdrawal
  | _ => none

/-- What an exchange has credited on the ledger of a side. -/
def Exchange.funded (side : Origin) (exchange : Exchange) : Nat :=
  match exchange.result, exchange.call.ledgerCall? side with
  | .ok _, some (.fund _ value) => value.toNat
  | _, _ => 0

/-- The withdrawals that were executed in a history. -/
def withdrawals (history : List Exchange) : List Withdrawal :=
  history.filterMap Exchange.withdrawal?

/-- What was locked on a side in a history, as its events tell. -/
def locked (side : Origin) (history : List Exchange) : Nat :=
  ((published side history).map (Event.locked side)).sum

/-- What was paid out of the reserves of a side: on the foreign side for the
    deposits that its events tell of, at home for the withdrawals it executed. -/
def released : Origin → List Exchange → Nat
  | .home, history => ((withdrawals history).map (·.instruction.value.toNat)).sum
  | .foreign, history => ((published .foreign history).map Event.deposited).sum

/-- What was credited on the ledger of a side in a history. -/
def funded (side : Origin) (history : List Exchange) : Nat :=
  (history.map (Exchange.funded side)).sum

theorem withdrawals_cons (exchange : Exchange) (rest : List Exchange) :
    withdrawals (exchange :: rest) = withdrawals [exchange] ++ withdrawals rest :=
  List.filterMap_append (l := [exchange])

theorem published_cons_singleton (side : Origin) (exchange : Exchange) (rest : List Exchange) :
    published side (exchange :: rest) = published side [exchange] ++ published side rest :=
  List.filterMap_append (l := [exchange])

theorem locked_cons (side : Origin) (exchange : Exchange) (rest : List Exchange) :
    locked side (exchange :: rest) = locked side [exchange] + locked side rest := by
  unfold locked
  rw [published_cons_singleton, List.map_append, List.sum_append]

theorem released_cons (side : Origin) (exchange : Exchange) (rest : List Exchange) :
    released side (exchange :: rest) = released side [exchange] + released side rest := by
  cases side with
  | home =>
    simp only [released]
    rw [withdrawals_cons, List.map_append, List.sum_append]
  | foreign =>
    simp only [released]
    rw [published_cons_singleton, List.map_append, List.sum_append]

theorem funded_cons (side : Origin) (exchange : Exchange) (rest : List Exchange) :
    funded side (exchange :: rest) = funded side [exchange] + funded side rest := by
  unfold funded
  rw [List.map_cons, List.sum_cons, List.map_singleton, List.sum_singleton]

/-! ## One call -/

theorem fundsOnly_plain (side : Origin) (call : Call) :
    call.plain.fundsOnly side = call.fundsOnly side := by
  cases call <;> cases side <;> rfl

theorem published_plain (side : Origin) (call : Call) (result : Except Refusal Answer) :
    published side [⟨call.plain, result⟩] = published side [⟨call, result⟩] := by
  rw [published_cons, published_cons, event?_plain]

theorem locked_plain (side : Origin) (call : Call) (result : Except Refusal Answer) :
    locked side [⟨call.plain, result⟩] = locked side [⟨call, result⟩] := by
  rw [locked, published_plain]
  rfl

theorem released_plain (side : Origin) (call : Call) (result : Except Refusal Answer) :
    released side [⟨call.plain, result⟩] = released side [⟨call, result⟩] := by
  cases side with
  | home => rfl
  | foreign =>
    rw [released, published_plain]
    rfl

theorem funded_plain (side : Origin) (call : Call) (result : Except Refusal Answer) :
    funded side [⟨call.plain, result⟩] = funded side [⟨call, result⟩] := by
  cases call <;> cases side <;> rfl

/-- What an effect does to the ledger of a side is what its exchange tells. -/
theorem moved_of_effect {crossing after : Crossing} {call : Call}
    {result : Except Refusal Answer} (h : Effect crossing call result after) (side : Origin)
    (hfunds : call.fundsOnly side = true) :
    (crossing.ledger side).Moved (after.ledger side) (locked side [⟨call, result⟩])
      (released side [⟨call, result⟩]) (funded side [⟨call, result⟩]) := by
  cases h with
  | refused call refusal =>
    -- A refusal is told by nothing and funds nothing.
    cases side <;> exact Ledger.Moved.refl _
  | deposited hvalue hfree hlock =>
    cases side with
    | home => exact Ledger.moved_lock hlock
    | foreign => exact Ledger.Moved.refl _
  | withdrawn hverify hfree hplan hcheck =>
    cases side with
    | home =>
      rcases (Gate.plan_eq_ok_iff _ _ _ _).1 hplan with ⟨fee, hfee, rfl⟩
      have hmoved := Ledger.moved_foldl_pay hcheck
      rw [VerifiedMessage.worth_paid _ (Gate.fee_le hfee)] at hmoved
      exact hmoved
    | foreign => exact Ledger.Moved.refl _
  | confirmed hpos hvote hbelow => cases side <;> exact Ledger.Moved.refl _
  | released hpos hvote hreached hfree hcheck =>
    cases side with
    | home => exact Ledger.Moved.refl _
    | foreign => exact Ledger.moved_foldl_pay hcheck
  | transferred hvalue hfree hlock =>
    cases side with
    | home => exact Ledger.Moved.refl _
    | foreign => exact Ledger.moved_lock hlock
  | submitted hsubmit =>
    -- A signature moves no value on either side, whatever it leads to.
    rename_i outcome bundles
    cases side with
    | home => exact Ledger.Moved.refl _
    | foreign => cases outcome <;> exact Ledger.Moved.refl _
  | @usedHome used hdone =>
    cases side with
    | home =>
      cases used with
      | fund account value => exact Ledger.moved_fund hdone
      | arrange order => exact Ledger.moved_arrange _ order
      | _ => exact absurd hfunds Bool.false_ne_true
    | foreign => exact Ledger.Moved.refl _
  | @usedForeign used hdone =>
    cases side with
    | home => exact Ledger.Moved.refl _
    | foreign =>
      cases used with
      | fund account value => exact Ledger.moved_fund hdone
      | arrange order => exact Ledger.moved_arrange _ order
      | _ => exact absurd hfunds Bool.false_ne_true
  | reservedHome key => cases side <;> exact Ledger.Moved.refl _
  | reservedForeign key => cases side <;> exact Ledger.Moved.refl _

theorem moved_step (crossing : Crossing) (call : Call) (side : Origin)
    (hfunds : call.fundsOnly side = true) :
    (crossing.ledger side).Moved ((crossing.step call).state.ledger side)
      (locked side [⟨call, (crossing.step call).result⟩])
      (released side [⟨call, (crossing.step call).result⟩])
      (funded side [⟨call, (crossing.step call).result⟩]) := by
  have heffect := moved_of_effect (effect_perform crossing call) side
    ((fundsOnly_plain side call).trans hfunds)
  rw [locked_plain, released_plain, funded_plain] at heffect
  -- The counters are no part of a ledger.
  have hledger : (crossing.step call).state.ledger side =
      (crossing.perform call).state.ledger side := by
    cases side <;> rfl
  rw [hledger]
  exact heffect

/-! ## Runs -/

/-- What a run does to the ledger of a side is what its history tells. -/
theorem moved_run (crossing : Crossing) {calls : List Call} (side : Origin)
    (hfunds : ∀ call ∈ calls, call.fundsOnly side = true) :
    (crossing.ledger side).Moved ((crossing.run calls).2.ledger side)
      (locked side (crossing.exchanges calls)) (released side (crossing.exchanges calls))
      (funded side (crossing.exchanges calls)) := by
  induction calls generalizing crossing with
  | nil => cases side <;> exact Ledger.Moved.refl _
  | cons call rest ih =>
    -- What is moved adds up: the sums of the history are those of the first call and of the calls
    -- behind it.
    have hfirst := moved_step crossing call side (hfunds call List.mem_cons_self)
    have hrest := ih (crossing.step call).state
      (fun later hmem => hfunds later (List.mem_cons_of_mem call hmem))
    rw [exchanges_cons, locked_cons, released_cons, funded_cons]
    exact hfirst.trans hrest

/-- A withdrawal is told by an event that carries what its recipient was paid,
    and this and the fee make up the value of its instruction. -/
structure Exchange.Split (exchange : Exchange) (withdrawal : Withdrawal) : Prop where
  told : exchange.event? .home = some (.withdraw withdrawal.instruction.recipient
    withdrawal.recipientValue withdrawal.instruction.transaction)
  parts : withdrawal.recipientValue.toNat + withdrawal.relayFee.toNat =
    withdrawal.instruction.value.toNat

theorem split_of_effect {crossing after : Crossing} {call : Call} {withdrawal : Withdrawal}
    (h : Effect crossing call (.ok (.withdrawn withdrawal)) after) :
    withdrawal.recipientValue.toNat + withdrawal.relayFee.toNat =
      withdrawal.instruction.value.toNat := by
  cases h with
  | withdrawn hverify hfree hplan hcheck =>
    rcases (Gate.plan_eq_ok_iff _ _ _ _).1 hplan with ⟨fee, hfee, rfl⟩
    exact VerifiedMessage.recipientValue_add_relayFee _ (Gate.fee_le hfee)

theorem split_run (crossing : Crossing) (calls : List Call) :
    ∀ exchange ∈ crossing.exchanges calls, ∀ withdrawal,
      exchange.withdrawal? = some withdrawal → exchange.Split withdrawal := by
  refine forall_exchanges ?_ crossing calls
  intro state call withdrawal hfound
  have heffect := effect_perform state call
  have hresult : (state.perform call).result = (state.step call).result := rfl
  unfold Exchange.withdrawal? at hfound
  simp only at hfound
  -- Only an exchange that has executed a withdrawal tells of one.
  split at hfound
  · rename_i done hdone
    rw [Option.some.injEq] at hfound
    rw [hresult, hdone, hfound] at heffect
    rw [hdone, hfound]
    exact ⟨rfl, split_of_effect heffect⟩
  · exact absurd hfound (by simp only [reduceCtorEq, not_false_eq_true])

/-- The account of a side over a run. -/
structure Reconciled (side : Origin) (first last : Crossing) (history : List Exchange) :
    Prop where
  /-- The reserves are what they were, with what was locked and less what was
      paid. -/
  reserves : (last.ledger side).reserves.toNat + released side history =
    (first.ledger side).reserves.toNat + locked side history
  /-- All balances and the reserves are what they were, with what was credited. -/
  total : (last.ledger side).total = (first.ledger side).total + funded side history
  /-- If the events of the side are kept, those of the run are kept behind those
      from before. -/
  events : (first.sink side).isOpen = true →
    (last.sink side).events = (first.sink side).events ++ published side history
  /-- Every withdrawal is told by its event and is paid in two parts. -/
  split : ∀ exchange ∈ history, ∀ withdrawal, exchange.withdrawal? = some withdrawal →
    exchange.Split withdrawal

/-- The account of a side is right after every run in which others only credit
    accounts on its ledger, whatever state the run begins in. -/
theorem reconciled_run (side : Origin) (crossing : Crossing) (calls : List Call)
    (hfunds : ∀ call ∈ calls, call.fundsOnly side = true) :
    Reconciled side crossing (crossing.run calls).2 (crossing.exchanges calls) := by
  have hmoved := moved_run crossing side hfunds
  refine ⟨hmoved.reserves, hmoved.total, ?_, split_run crossing calls⟩
  intro hopen
  rw [events_run, if_pos hopen]

/-- A bridge of an account that decides alone. -/
def soleBridge : Crossing :=
  Setting.start
    { homeRegistry := Bundles.soleRegistry
      foreignRegistry := Bundles.soleRegistry
      homeLedger := .ofReserves 500
      foreignLedger := .ofReserves 500
      gas := 21000 }
    (.shared .empty) .newHistory .newHistory

/-- Value crosses it in both directions. -/
def soleCalls : List Call :=
  [.homeLedger (.fund Bundles.soleAuthority 50),
    .deposit Bundles.soleAuthority 30 (Octets.zero 32),
    .confirm Bundles.soleAuthority ⟨Bundles.soleAuthority, 30, Octets.zero 32⟩,
    .transferHome Bundles.soleAuthority Bundles.soleAuthority 20 0 (Octets.zero 32),
    .withdraw [Bundles.soleSubmission.signature] Bundles.soleSubmission.message
      Bundles.soleAuthority]

set_option maxRecDepth 100000 in
/-- Here the home side has locked thirty, paid a hundred and was credited with
    fifty. -/
theorem reconciled_run_sole :
    (∀ call ∈ soleCalls, call.fundsOnly .home = true) ∧
      Reconciled .home soleBridge (soleBridge.run soleCalls).2 (soleBridge.exchanges soleCalls) ∧
      locked .home (soleBridge.exchanges soleCalls) = 30 ∧
      released .home (soleBridge.exchanges soleCalls) = 100 ∧
      funded .home (soleBridge.exchanges soleCalls) = 50 :=
  ⟨by decide, reconciled_run .home soleBridge soleCalls (by decide), by decide +kernel,
    by decide +kernel, by decide +kernel⟩

end Crossing

end QuorumBridge
