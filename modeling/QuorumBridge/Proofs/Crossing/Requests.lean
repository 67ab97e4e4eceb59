import QuorumBridge.Proofs.Crossing.Conservation
import QuorumBridge.Proofs.Crossing.Grammar
import QuorumBridge.Proofs.Locking
import QuorumBridge.Proofs.Results

/-!
# One lock for each transaction

A transaction locks value once, and it does so as soon as it can.

Both sides have a door at which value is locked, and what is done behind the two
doors is the same. A user whose request is refused will try again, with another
value or from another account, under the same transaction. So a refusal must
leave the transaction as free as it was, and an accepted request must use it up.
A side that reserved the transaction first and looked at the ledger afterwards
would get this wrong.

What a side remembers is compared with what has happened at its door. Every call
adds to the one what it adds to the other (`locked_of_effect`): a request that
is accepted adds its transaction, which was free, and no other call comes near
the requests. So the transactions that have locked value are those that the side
says have, and there is none twice.

Whether a request is accepted is then a matter of the ledger and of the history
of its door alone.

## Main definitions

* `Crossing.Call.request?`: What a call asks to be locked on a side.
* `Crossing.lockedFor`: The transactions that have locked value in a history.
* `Crossing.isRequested`: What a side says about a transaction.
* `Crossing.LocksOnce`: A side locks once for each transaction, if it can.

## Theorems

* `Crossing.locked_run`: What a side says is what has happened.
* `Crossing.step_request`: A request is answered by the books of its side.
* `Crossing.locks_once_run`: After every run a side locks once, if it can.
-/

namespace QuorumBridge

namespace Crossing

/-- What a call asks to be locked on a side, if it is made for that. -/
def Call.request? : Origin → Call → Option Request
  | .home, .deposit depositor value transaction => some ⟨depositor, value, transaction⟩
  | .foreign, .transferHome sender _ value _ transaction => some ⟨sender, value, transaction⟩
  | _, _ => none

/-- The transaction for which an exchange has locked value on a side. -/
def Exchange.locked? (side : Origin) (exchange : Exchange) : Option Hash :=
  match exchange.result with
  | .ok _ => (exchange.call.request? side).map Request.transaction
  | .error _ => none

/-- The transactions that have locked value on a side in a history, one entry
    for every request that was accepted. -/
def lockedFor (side : Origin) (history : List Exchange) : List Hash :=
  history.filterMap (Exchange.locked? side)

/-- Whether a side says that a transaction has locked value there. -/
def isRequested (crossing : Crossing) (side : Origin) (transaction : Hash) : Bool :=
  match side with
  | .home => crossing.home.isDepositRequested transaction
  | .foreign => crossing.foreign.isWithdrawRequested transaction

/-- The requests of a side and the ledger that they lock value on. -/
def asking (crossing : Crossing) (side : Origin) : Books :=
  ⟨crossing.requests side, crossing.ledger side⟩

/-! ## What a side remembers -/

theorem isRequested_eq (crossing : Crossing) (side : Origin) (transaction : Hash) :
    crossing.isRequested side transaction =
      (crossing.requests side).isSpent ⟨side, transaction⟩ := by
  cases side <;> rfl

/-- Reserving a transaction that was free is remembered of it and of no other. -/
theorem toNat_requested_reserve {guard : ReplayGuard} {side : Origin} {transaction : Hash}
    (hfree : guard.isSpent ⟨side, transaction⟩ = false) (other : Hash) :
    ((guard.reserve ⟨side, transaction⟩).2.isSpent ⟨side, other⟩).toNat =
      (guard.isSpent ⟨side, other⟩).toNat + (decide (some transaction = some other)).toNat := by
  rw [toNat_spent_reserve hfree]
  simp only [Option.some.injEq, ReplayKey.mk.injEq, true_and]

/-- A call adds to what a side remembers the transaction for which it has locked
    value there. -/
theorem locked_of_effect {crossing after : Crossing} {call : Call}
    {result : Except Refusal Answer} (h : Effect crossing call result after) (side : Origin)
    (transaction : Hash) :
    (after.isRequested side transaction).toNat = (crossing.isRequested side transaction).toNat +
      (decide ((Exchange.mk call result).locked? side = some transaction)).toNat := by
  cases h with
  | deposited hvalue hfree hlock =>
    cases side with
    | home => exact toNat_requested_reserve hfree transaction
    | foreign => rfl
  | transferred hvalue hfree hlock =>
    cases side with
    | home => rfl
    | foreign => exact toNat_requested_reserve hfree transaction
  | _ => cases side <;> rfl

theorem locked?_plain (call : Call) (result : Except Refusal Answer) (side : Origin) :
    (Exchange.mk call.plain result).locked? side = (Exchange.mk call result).locked? side := by
  cases call with
  | relay bundle relayer => cases side <;> rfl
  | _ => rfl

theorem locked_step (crossing : Crossing) (call : Call) (side : Origin) (transaction : Hash) :
    ((crossing.step call).state.isRequested side transaction).toNat =
      (crossing.isRequested side transaction).toNat +
        (decide ((Exchange.mk call (crossing.step call).result).locked? side =
          some transaction)).toNat := by
  have heffect := locked_of_effect (effect_perform crossing call) side transaction
  rw [locked?_plain] at heffect
  -- The counters remember nothing.
  have hsame : (crossing.step call).state.isRequested side transaction =
      (crossing.perform call).state.isRequested side transaction := by
    cases side <;> rfl
  rw [hsame]
  exact heffect

theorem count_lockedFor_cons (side : Origin) (exchange : Exchange) (rest : List Exchange)
    (transaction : Hash) :
    (lockedFor side (exchange :: rest)).count transaction =
      (decide (exchange.locked? side = some transaction)).toNat +
        (lockedFor side rest).count transaction := by
  unfold lockedFor
  cases hlocked : exchange.locked? side with
  | none =>
    rw [List.filterMap_cons_none hlocked]
    simp only [reduceCtorEq, decide_false, Bool.toNat_false, Nat.zero_add]
  | some found =>
    rw [List.filterMap_cons_some hlocked, List.count_cons, Nat.add_comm]
    by_cases hsame : found = transaction
    · simp only [hsame, BEq.rfl, if_true, decide_true, Bool.toNat_true]
    · simp only [beq_iff_eq, Option.some.injEq, hsame, if_false, decide_false, Bool.toNat_false]

/-- What a side remembers after a run is what it remembered before, then what has
    locked value in the run. -/
theorem locked_run (crossing : Crossing) (calls : List Call) (side : Origin)
    (transaction : Hash) :
    ((crossing.run calls).2.isRequested side transaction).toNat =
      (crossing.isRequested side transaction).toNat +
        (lockedFor side (crossing.exchanges calls)).count transaction := by
  induction calls generalizing crossing with
  | nil => rfl
  | cons call rest ih =>
    have hfirst := locked_step crossing call side transaction
    have hrest := ih (crossing.step call).state
    have hrun : (crossing.run (call :: rest)).2 = ((crossing.step call).state.run rest).2 := rfl
    rw [hrun, hrest, hfirst, exchanges_cons, count_lockedFor_cons]
    omega

/-! ## What a side answers -/

/-- A request is answered by the books of its side, and what they leave behind is
    the ledger of the side. -/
theorem step_request {call : Call} {side : Origin} {request : Request}
    (h : call.request? side = some request) (crossing : Crossing) :
    (crossing.step call).result =
        ((crossing.asking side).lockFor side request).1.map (fun _ => .done) ∧
      (crossing.step call).state.ledger side =
        ((crossing.asking side).lockFor side request).2.ledger := by
  -- A side has one call by which value is locked, and it goes through the books of the side.
  cases side with
  | home =>
    cases call with
    | deposit depositor value transaction =>
      rw [Call.request?, Option.some.injEq] at h
      subst h
      simp only [step, perform, Home.deposit, Report.map, Report.mapState, ledger, asking, requests,
        Books.lockFor, ReplayKey.homeDeposit]
      rcases Books.lock ⟨crossing.home.requests, crossing.home.ledger⟩ ⟨.home, transaction⟩
        depositor value with ⟨refusal | _, books⟩
      · exact ⟨rfl, rfl⟩
      · exact ⟨rfl, rfl⟩
    | _ => exact absurd h (by simp only [Call.request?, reduceCtorEq, not_false_eq_true])
  | foreign =>
    cases call with
    | transferHome sender recipient value homeGasPrice transaction =>
      rw [Call.request?, Option.some.injEq] at h
      subst h
      simp only [step, perform, Foreign.transferHome, Report.map, Report.mapState, ledger, asking,
        requests, Books.lockFor, ReplayKey.foreignWithdraw]
      rcases Books.lock ⟨crossing.foreign.requests, crossing.foreign.ledger⟩
        ⟨.foreign, transaction⟩ sender value with ⟨refusal | _, books⟩
      · exact ⟨rfl, rfl⟩
      · exact ⟨rfl, rfl⟩
    | _ => exact absurd h (by simp only [Call.request?, reduceCtorEq, not_false_eq_true])

theorem map_done_eq_ok_iff {result : Except Refusal Unit} :
    result.map (fun _ => Answer.done) = .ok .done ↔ result = .ok () := by
  rw [map_eq_ok_iff]
  constructor
  · rintro ⟨_, hresult, -⟩
    exact hresult
  · exact fun hresult => ⟨(), hresult, rfl⟩

/-- A side at which the transactions of `past` have locked value locks once for
    each transaction, and whenever it can. -/
structure LocksOnce (side : Origin) (crossing : Crossing) (past : List Hash) : Prop where
  /-- What the side says of a transaction is whether it has locked value. -/
  requested_iff : ∀ transaction, crossing.isRequested side transaction = true ↔
    transaction ∈ past
  /-- None has done so twice. -/
  nodup : past.Nodup
  /-- A request is accepted exactly if its value can be locked and its transaction
      has not locked value before. -/
  ok_iff : ∀ call request, call.request? side = some request →
    ((crossing.step call).result = .ok .done ↔
      (crossing.ledger side).CanLock (request.transaction ∈ past) request)
  /-- Then its value goes from the owner to the reserves, and no other balance
      changes. -/
  moved : ∀ call request, call.request? side = some request →
    (crossing.step call).result = .ok .done →
      (crossing.ledger side).Locked ((crossing.step call).state.ledger side) request.owner
        request.value
  /-- Otherwise it is refused for what is wrong first. -/
  refused_iff : ∀ call request refusal, call.request? side = some request →
    ((crossing.step call).result = .error refusal ↔
      (crossing.ledger side).LockRefused (request.transaction ∈ past) request refusal)
  /-- Then the ledger is as it was, and the transactions are as free as they
      were. -/
  kept : ∀ call refusal, (crossing.step call).result = .error refusal →
    (crossing.step call).state.ledger side = crossing.ledger side ∧
      ∀ transaction, (crossing.step call).state.isRequested side transaction =
        crossing.isRequested side transaction

/-- Where a side remembers the transactions that have locked value, it locks once
    for each of them. -/
theorem locksOnce_of_count {crossing : Crossing} {side : Origin} {past : List Hash}
    (hcount : ∀ transaction,
      (crossing.isRequested side transaction).toNat = past.count transaction) :
    LocksOnce side crossing past := by
  have hrequested : ∀ transaction, crossing.isRequested side transaction = true ↔
      transaction ∈ past := by
    intro transaction
    rw [← List.count_pos_iff, ← hcount, ← Bool.toNat_eq_one]
    have hle := Bool.toNat_le (crossing.isRequested side transaction)
    omega
  -- So the books and the history say the same about a request.
  have hasked : ∀ request : Request,
      (crossing.asking side).Asked side request = (request.transaction ∈ past) := by
    intro request
    rw [← propext (hrequested request.transaction), isRequested_eq]
    rfl
  refine ⟨hrequested, ?_, ?_, ?_, ?_, ?_⟩
  · rw [List.nodup_iff_count_le_one]
    intro transaction
    rw [← hcount]
    exact Bool.toNat_le _
  · intro call request hcall
    have hlock := Books.lockFor_eq_ok_iff (crossing.asking side) side request
    rw [hasked] at hlock
    rw [(step_request hcall crossing).1]
    exact map_done_eq_ok_iff.trans hlock
  · intro call request hcall hok
    rw [(step_request hcall crossing).1, map_done_eq_ok_iff] at hok
    rw [(step_request hcall crossing).2]
    exact Books.locked_of_lockFor hok
  · intro call request refusal hcall
    have hlock := Books.lockFor_eq_error_iff (crossing.asking side) side request refusal
    rw [hasked] at hlock
    rw [(step_request hcall crossing).1]
    exact map_eq_error_iff.trans hlock
  · intro call refusal hrefused
    rw [unchanged_step hrefused]
    constructor
    · cases side <;> rfl
    · intro transaction
      cases side <;> rfl

/-- After every run from the beginning both sides lock once for each transaction,
    whatever else was called and whatever others did to the ledgers. -/
theorem locks_once_run (setting : Setting) (guards : Guards) (homeSink foreignSink : Sink)
    (calls : List Call) (side : Origin) :
    LocksOnce side ((setting.start guards homeSink foreignSink).run calls).2
      (lockedFor side ((setting.start guards homeSink foreignSink).exchanges calls)) := by
  refine locksOnce_of_count fun transaction => ?_
  have hstart : (setting.start guards homeSink foreignSink).isRequested side transaction =
      false := by
    cases side <;> rfl
  rw [locked_run, hstart, Bool.toNat_false, Nat.zero_add]

end Crossing

end QuorumBridge
