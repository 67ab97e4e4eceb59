import Mathlib.Algebra.BigOperators.Group.List.Basic
import Mathlib.Algebra.GroupWithZero.Nat
import QuorumBridge.Proofs.Crossing.Publication

/-!
# What the counters say

A call is seen from outside in three ways: by what it is answered, by the event
that tells of it and by the counters. These are written in different places,
and the counters are never read by the bridge, so nothing would fail if they
drifted away from the rest.

They do not. What is counted for a call is a function of the call and its
answer (`Exchange.counts`): the events that tell of it, those that have a
counter, and behind them the refusal. A withdrawal that is refused is counted a
second time, among the withdrawals. That every operation counts this and
nothing else is one walk over the calls (`counts_perform`).

Over a run the counts of single calls are put one behind the other. Events and
refusals alternate there, while a log has the events of its own side only. The
order is of no concern to a counter, so the counts are rearranged: first the
events of both logs, then the refusals (`counts_perm`). From there on it is a
matter of how often something stands in a list.

Two events have no counter. Of value that was locked, the counters say nothing.

## Main definitions

* `Crossing.Call.operation?`: The operation that a call is counted under.
* `Count.eventName?`: The name of the events that a count goes with.
* `Crossing.refusals`: The refused calls of a history.
* `Crossing.Exchange.counts`: How an exchange is counted.
* `Metrics.Rises`: By how much a counter has risen.
* `Crossing.Metered`: Logs, counters and answers agree.

## Theorems

* `Crossing.counts_perform`, `Crossing.counts_run`: What is counted for a call,
  and in a run.
* `Crossing.counts_perm`: The counts of a run, events first.
* `Crossing.metered_run`: Over every run logs, counters and answers agree.
-/

namespace QuorumBridge

/-! ## Kinds of refusals -/

/-- All kinds of refusals. -/
def Refusal.Kind.all : List Refusal.Kind :=
  [.configuration, .authorization, .duplication, .integrity, .replay, .insufficiency, .value]

/-- Each kind is one of them, and once. -/
theorem Refusal.Kind.sum_eq_one (kind : Refusal.Kind) :
    (Refusal.Kind.all.map fun other => if kind = other then 1 else 0).sum = 1 := by
  cases kind <;> rfl

/-! ## Counts of events and refusals -/

/-- The count that goes with an event, if it has one. -/
def Event.count? : Event → Option Count
  | .depositRequested _ _ _ => none
  | .withdraw _ _ _ => some .withdrawalExecuted
  | .depositConfirmation _ _ _ => some .confirmationPending
  | .deposit _ _ _ => some .confirmationReleased
  | .withdrawRequested _ _ _ _ => none
  | .withdrawSignatureSubmitted _ => some .signaturePending
  | .collectedSignatures _ _ => some .signatureCollected

/-- The name of the events that a count goes with. Refusals have no event. -/
def Count.eventName? : Count → Option String
  | .confirmationPending => some "DepositConfirmation"
  | .confirmationReleased => some "Deposit"
  | .signaturePending => some "WithdrawSignatureSubmitted"
  | .signatureCollected => some "CollectedSignatures"
  | .withdrawalExecuted => some "Withdraw"
  | .withdrawalRejected => none
  | .rejection _ _ => none

theorem Event.count?_eq_some_iff {count : Count} {name : String}
    (hname : count.eventName? = some name) (event : Event) :
    event.count? = some count ↔ event.name = name := by
  cases count with
  | withdrawalRejected | rejection =>
    exact absurd hname (by simp only [Count.eventName?, reduceCtorEq, not_false_eq_true])
  | _ =>
    cases hname
    -- Names and counts tell the same events apart.
    cases event <;>
      simp only [Event.count?, Event.name, Option.some.injEq, reduceCtorEq, String.reduceEq]

/-- How a refused call is counted. -/
def Operation.rejections (operation : Operation) (refusal : Refusal) : List Count :=
  match operation with
  | .homeWithdraw => [.withdrawalRejected, .refused operation refusal]
  | _ => [.refused operation refusal]

/-- A refusal has no event. -/
theorem Operation.eventName?_rejections {operation : Operation} {refusal : Refusal}
    {count : Count} (h : count ∈ operation.rejections refusal) : count.eventName? = none := by
  unfold Operation.rejections at h
  split at h
  · rcases List.mem_pair.1 h with rfl | rfl
    · rfl
    · rfl
  · rw [List.mem_singleton.1 h]
    rfl

/-- A counter has risen by so much. -/
def Metrics.Rises (before after : Metrics) (count : Count) (rise : Nat) : Prop :=
  after.counter count = before.counter count + rise

namespace Crossing

/-- The operation that a call is counted under. Calls on the ledgers and the
    guards alone are not counted. -/
def Call.operation? : Call → Option Operation
  | .deposit _ _ _ => some .homeDeposit
  | .withdraw _ _ _ | .relay _ _ => some .homeWithdraw
  | .confirm _ _ => some .foreignDeposit
  | .transferHome _ _ _ _ _ => some .foreignTransferHome
  | .submit _ _ _ _ => some .foreignSubmitSignature
  | .homeLedger _ | .foreignLedger _ | .homeReserve _ | .foreignReserve _ => none

/-- If a call was refused, the operation it was made on and the reason. -/
def Exchange.refusal? (exchange : Exchange) : Option (Operation × Refusal) :=
  match exchange.result with
  | .ok _ => none
  | .error refusal => exchange.call.operation?.map fun operation => (operation, refusal)

/-- The refused calls of a history. -/
def refusals (history : List Exchange) : List (Operation × Refusal) :=
  history.filterMap Exchange.refusal?

/-- Whether a refused call is one of an operation, for a reason of a kind. -/
def isOf (label : String) (kind : Refusal.Kind) (refused : Operation × Refusal) : Bool :=
  refused.1.label == label && refused.2.kind == kind

/-- The events that tell of an exchange. -/
def Exchange.events (exchange : Exchange) : List Event :=
  (exchange.event? .home).toList ++ (exchange.event? .foreign).toList

/-- How refused calls are counted. -/
def rejections (refused : List (Operation × Refusal)) : List Count :=
  refused.flatMap fun call => call.1.rejections call.2

/-- How an exchange is counted: by its events, and by its refusal. -/
def Exchange.counts (exchange : Exchange) : List Count :=
  exchange.events.filterMap Event.count? ++ rejections exchange.refusal?.toList

/-- A withdrawal counts what its exchange says, under every call that is counted
    as one. -/
theorem counts_withdraw (crossing : Crossing) (signatures : List Signature)
    (message : List UInt8) (relayer : Address) {call : Call}
    (hcall : call.operation? = some .homeWithdraw) :
    (crossing.perform (.withdraw signatures message relayer)).counts =
      (Exchange.mk call
        (crossing.perform (.withdraw signatures message relayer)).result).counts := by
  -- A refusal is counted in one way, wherever it comes from.
  have hrefused : ∀ refusal, (Exchange.mk call (.error refusal)).counts =
      Operation.homeWithdraw.rejections refusal := by
    intro refusal
    simp only [Exchange.counts, Exchange.refusal?, hcall]
    rfl
  simp only [perform, Home.withdraw]
  cases verify crossing.home.registry signatures message with
  | error refusal => exact (hrefused refusal).symm
  | ok verified =>
    simp only
    rcases crossing.home.gate.release (Books.mk crossing.guards.home crossing.home.ledger)
      verified relayer with ⟨refusal | withdrawal, books⟩
    · exact (hrefused refusal).symm
    · rfl

/-- Every call counts what its exchange says, and nothing else. -/
theorem counts_perform (crossing : Crossing) (call : Call) :
    (crossing.perform call).counts = (Exchange.mk call (crossing.perform call).result).counts := by
  cases call with
  | deposit depositor value transaction =>
    simp only [perform, Home.deposit]
    -- An operation ends in a refusal, which it counts as one, or in the answer that it counts.
    rcases Books.lock ⟨crossing.home.requests, crossing.home.ledger⟩ (.homeDeposit transaction)
      depositor value with ⟨refusal | _, books⟩
    · rfl
    · rfl
  | withdraw signatures message relayer => exact counts_withdraw crossing _ _ _ rfl
  | relay bundle relayer =>
    exact counts_withdraw crossing bundle.signatures bundle.message relayer rfl
  | confirm authority deposit =>
    simp only [perform, Foreign.confirm]
    -- A confirmation that pays is counted in another way than one that waits.
    rcases crossing.foreign.confirmations.confirm
      (Books.mk crossing.guards.foreign crossing.foreign.ledger) crossing.foreign.registry deposit
      authority with ⟨refusal | outcome, confirmations, books⟩
    · rfl
    · cases outcome <;> rfl
  | transferHome sender recipient value homeGasPrice transaction =>
    simp only [perform, Foreign.transferHome]
    rcases Books.lock ⟨crossing.foreign.requests, crossing.foreign.ledger⟩
      (.foreignWithdraw transaction) sender value with ⟨refusal | _, books⟩
    · rfl
    · rfl
  | submit signature message claimed relayer =>
    simp only [perform, Foreign.submit]
    -- So is a signature that closes its bundle.
    rcases crossing.foreign.bundles.submit crossing.foreign.registry signature message claimed
      relayer with ⟨refusal | outcome, bundles⟩
    · rfl
    · cases outcome <;> rfl
  | homeLedger call =>
    simp only [perform, ledgerReport]
    -- What others do to a ledger is no operation of the bridge, and nobody counts it.
    rcases crossing.home.ledger.perform call with ⟨fault | _, ledger⟩
    · rfl
    · rfl
  | foreignLedger call =>
    simp only [perform, ledgerReport]
    rcases crossing.foreign.ledger.perform call with ⟨fault | _, ledger⟩
    · rfl
    · rfl
  | homeReserve key => rfl
  | foreignReserve key => rfl

/-- A run counts what its exchanges say, one after the other. -/
theorem counts_run (crossing : Crossing) (calls : List Call) :
    (crossing.run calls).2.metrics.counts =
      crossing.metrics.counts ++ (crossing.exchanges calls).flatMap Exchange.counts := by
  induction calls generalizing crossing with
  | nil => exact (List.append_nil _).symm
  | cons call rest ih =>
    -- One call counts behind what was counted before, so the counts of a run are its exchanges'
    -- counts in their order.
    have hstep : (crossing.step call).state.metrics.counts =
        crossing.metrics.counts ++ (Exchange.mk call (crossing.step call).result).counts :=
      congrArg (crossing.metrics.counts ++ ·) (counts_perform crossing call)
    have hrest := ih (crossing.step call).state
    rw [hstep, List.append_assoc] at hrest
    rw [exchanges_cons, List.flatMap_cons]
    exact hrest

/-! ## How often something was counted -/

/-- The counts of a history are those of the events of both sides and those of
    the refusals, in another order. -/
theorem counts_perm (history : List Exchange) :
    (history.flatMap Exchange.counts).Perm
      ((published .home history ++ published .foreign history).filterMap Event.count? ++
        rejections (refusals history)) := by
  have hevents : (history.flatMap Exchange.events).Perm
      (published .home history ++ published .foreign history) := by
    unfold published
    rw [List.filterMap_eq_flatMap_toList, List.filterMap_eq_flatMap_toList]
    exact (List.flatMap_append_perm history _ _).symm
  have hrefused : history.flatMap (fun exchange => rejections exchange.refusal?.toList) =
      rejections (refusals history) := by
    unfold rejections refusals
    rw [List.filterMap_eq_flatMap_toList, List.flatMap_assoc]
  -- Exchange by exchange events and refusals alternate. Here the events are moved to the front.
  have hsplit := (List.flatMap_append_perm history
    (fun exchange => exchange.events.filterMap Event.count?)
    fun exchange => rejections exchange.refusal?.toList).symm
  rw [← List.filterMap_flatMap, hrefused] at hsplit
  exact hsplit.trans ((hevents.filterMap Event.count?).append_right _)

/-- What a run adds to a counter. -/
theorem counter_run (crossing : Crossing) (calls : List Call) (count : Count) :
    Metrics.Rises crossing.metrics (crossing.run calls).2.metrics count
      (((published .home (crossing.exchanges calls) ++
          published .foreign (crossing.exchanges calls)).filterMap Event.count?).count count +
        (rejections (refusals (crossing.exchanges calls))).count count) := by
  unfold Metrics.Rises Metrics.counter
  rw [counts_run, List.count_append, (counts_perm _).count_eq, List.count_append]

/-- A count that goes with events is made as often as there are events of their
    name. -/
theorem count_events {count : Count} {name : String} (hname : count.eventName? = some name)
    (events : List Event) :
    (events.filterMap Event.count?).count count = (events.map Event.name).count name := by
  rw [List.count_filterMap, List.count_eq_countP, List.countP_map]
  refine List.countP_congr ?_
  intro event _
  simp only [beq_iff_eq, Function.comp_apply]
  exact Event.count?_eq_some_iff hname event

theorem count_events_eq_zero {count : Count} (hname : count.eventName? = none)
    (events : List Event) : (events.filterMap Event.count?).count count = 0 := by
  rw [List.count_filterMap, List.countP_eq_zero]
  intro event _ hcount
  rw [beq_iff_eq] at hcount
  cases event <;> cases hcount <;>
    exact absurd hname (by simp only [Count.eventName?, reduceCtorEq, not_false_eq_true])

theorem rejections_cons (operation : Operation) (refusal : Refusal)
    (rest : List (Operation × Refusal)) :
    rejections ((operation, refusal) :: rest) = operation.rejections refusal ++ rejections rest :=
  List.flatMap_cons

/-- A refusal is counted as nothing that has an event. -/
theorem count_rejections_eq_zero {count : Count} {name : String}
    (hname : count.eventName? = some name) (refused : List (Operation × Refusal)) :
    (rejections refused).count count = 0 := by
  rw [List.count_eq_zero]
  intro hmem
  rcases List.mem_flatMap.1 hmem with ⟨call, _, hcount⟩
  rw [Operation.eventName?_rejections hcount] at hname
  exact absurd hname (by simp only [reduceCtorEq, not_false_eq_true])

/-- A refusal is counted once under its operation and its kind. -/
theorem count_rejection (label : String) (kind : Refusal.Kind)
    (refused : List (Operation × Refusal)) :
    (rejections refused).count (.rejection label kind) = refused.countP (isOf label kind) := by
  induction refused with
  | nil => rfl
  | cons call rest ih =>
    rcases call with ⟨operation, refusal⟩
    -- A refused withdrawal is counted twice, and only one of the two is by its kind.
    have hone : (operation.rejections refusal).count (.rejection label kind) =
        if isOf label kind (operation, refusal) then 1 else 0 := by
      cases operation <;>
        simp only [Operation.rejections, Count.refused, isOf, List.count_cons, List.count_nil,
          beq_iff_eq, Bool.and_eq_true, Count.rejection.injEq, reduceCtorEq, if_false,
          Nat.zero_add, Nat.add_zero]
    rw [rejections_cons, List.count_append, hone, ih, List.countP_cons, Nat.add_comm]

/-- A withdrawal that is refused is counted once more, whatever the kind. -/
theorem count_withdrawalRejected (refused : List (Operation × Refusal)) :
    (rejections refused).count .withdrawalRejected =
      (Refusal.Kind.all.map fun kind =>
        refused.countP (isOf Operation.homeWithdraw.label kind)).sum := by
  induction refused with
  | nil => rfl
  | cons call rest ih =>
    rcases call with ⟨operation, refusal⟩
    have hone : (operation.rejections refusal).count .withdrawalRejected =
        (Refusal.Kind.all.map fun kind =>
          if isOf Operation.homeWithdraw.label kind (operation, refusal) then 1 else 0).sum := by
      cases operation with
      | homeWithdraw =>
        have hsum := Refusal.Kind.sum_eq_one refusal.kind
        simp only [isOf, beq_self_eq_true, Bool.true_and, beq_iff_eq]
        rw [hsum]
        rfl
      -- No other operation has this label.
      | _ => rfl
    simp only [List.countP_cons, List.sum_map_add]
    rw [rejections_cons, List.count_append, hone, ih, Nat.add_comm]

/-- Logs, counters and answers agree. -/
structure Metered (before after : Crossing) (history : List Exchange) : Prop where
  /-- A log has grown by what its side has published. -/
  logged : ∀ side events, before.sink side = .history events →
    after.sink side = .history (events ++ published side history)
  /-- The counter of an event has risen by the number of these events. -/
  told : ∀ count name, count.eventName? = some name →
    Metrics.Rises before.metrics after.metrics count
      (((published .home history ++ published .foreign history).map Event.name).count name)
  /-- The counter of an operation and a kind has risen by the number of calls of
      the operation that were refused for a reason of the kind. -/
  refused : ∀ label kind,
    Metrics.Rises before.metrics after.metrics (.rejection label kind)
      ((refusals history).countP (isOf label kind))
  /-- That of refused withdrawals has risen by as much as those of all kinds of
      their refusals together. -/
  rejected : Metrics.Rises before.metrics after.metrics .withdrawalRejected
    (Refusal.Kind.all.map fun kind =>
      (refusals history).countP (isOf Operation.homeWithdraw.label kind)).sum

/-- Over every run logs, counters and answers agree, whatever the state of the
    bridge and wherever its events go. -/
theorem metered_run (crossing : Crossing) (calls : List Call) :
    Metered crossing (crossing.run calls).2 (crossing.exchanges calls) := by
  refine ⟨fun side events h => history_run h calls, ?_, ?_, ?_⟩
  · -- A counter that belongs to an event is raised by no refusal.
    intro count name hname
    have hrises := counter_run crossing calls count
    rw [count_events hname, count_rejections_eq_zero hname, Nat.add_zero] at hrises
    exact hrises
  · -- A counter that belongs to a refusal is raised by no event.
    intro label kind
    have hrises := counter_run crossing calls (.rejection label kind)
    rw [count_events_eq_zero rfl, count_rejection, Nat.zero_add] at hrises
    exact hrises
  · have hrises := counter_run crossing calls .withdrawalRejected
    rw [count_events_eq_zero rfl, count_withdrawalRejected, Nat.zero_add] at hrises
    exact hrises

end Crossing

end QuorumBridge
