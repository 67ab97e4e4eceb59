import QuorumBridge.Proofs.Bundles.Relay
import QuorumBridge.Proofs.Crossing.History

/-!
# At most one payment

An identity is paid once, however the calls on a bridge are mixed.

Payments are asked for in terms that the guard does not know. A deposit is
confirmed with its recipient and its value, a withdrawal is executed from a
message and signatures, and many of either may name the same transaction. The
guard knows transactions only, and it is open to others, who may take an
identity without anything being paid for it.

The link is a balance. Whether an identity is spent is a number that is nought
or one, and a call adds to it exactly what it pays for the identity and what it
takes of it for others. `spent_run` is that balance over a run. Since the
number cannot pass one, there is at most one payment, and none if the identity
was spent to begin with or was taken by somebody else.

Where nobody else takes identities, the balance can be read from the other end:
an identity is spent because it was paid. For deposits the foreign side
remembers this a second time, in its tallies. `Settled` says that the two
agree.

## Main definitions

* `Crossing.Exchange.pays`, `Crossing.Exchange.takes`: What an exchange does
  with an identity.
* `Crossing.payments`, `Crossing.takings`: The exchanges of a history that pay
  for an identity, and those by which others take it.
* `Crossing.spent`: Whether an identity is spent on a bridge with one guard.
* `Crossing.Settled`: The released deposits are those whose identity is spent.
* `Crossing.PaidOnce`, `Crossing.Accounted`: What is paid in a run, and what is
  spent.

## Theorems

* `Crossing.spent_step`, `Crossing.spent_run`: The balance of an identity.
* `Crossing.settled_run`: Released deposits and spent identities agree.
* `Crossing.paid_once`: There is at most one payment for an identity.
-/

namespace QuorumBridge

/-- Reserving adds to whether an identity is spent exactly whether it has spent
    it. -/
theorem ReplayGuard.toNat_isSpent_reserve (guard : ReplayGuard) (key k : ReplayKey) :
    ((guard.reserve key).2.isSpent k).toNat =
      (guard.isSpent k).toNat + ((guard.reserve key).1 && decide (key = k)).toNat := by
  rw [isSpent_reserve]
  by_cases hsame : key = k
  · rw [← hsame, reserve]
    -- A reservation of what is spent already is answered with false and adds nothing.
    cases hspent : guard.isSpent key with
    | true => rfl
    | false => simp only [Bool.false_eq_true, if_false, decide_true, Bool.or_true, Bool.and_true,
        Bool.toNat_false, Bool.toNat_true, Nat.zero_add]
  · rw [decide_eq_false hsame, decide_eq_false (fun hc => hsame hc.symm), Bool.or_false,
      Bool.and_false, Bool.toNat_false, Nat.add_zero]

namespace Crossing

/-- The identity of the withdrawal that a message asks for, if it is one. -/
def withdrawal? (message : List UInt8) : Option ReplayKey :=
  match Instruction.decode message with
  | .ok x => some (.foreignWithdraw x.transaction)
  | .error _ => none

/-- The identity of the transfer that a call can finish. -/
def Call.transfer? : Call → Option ReplayKey
  | .confirm _ confirmed => some (.homeDeposit confirmed.transaction)
  | .withdraw _ message _ => withdrawal? message
  | .relay bundle _ => withdrawal? bundle.message
  | _ => none

/-- Whether a call only reserves an identity for somebody else. -/
def Call.isReserve : Call → Bool
  | .homeReserve _ | .foreignReserve _ => true
  | _ => false

namespace Exchange

/-- Whether an exchange has paid for an identity: a deposit was released or a
    withdrawal was executed. -/
def pays (key : ReplayKey) (exchange : Exchange) : Bool :=
  match exchange.result with
  | .ok (.withdrawn _) | .ok (.confirmed (.released _)) =>
    decide (exchange.call.transfer? = some key)
  | _ => false

/-- Whether others have taken an identity by an exchange. -/
def takes (key : ReplayKey) (exchange : Exchange) : Bool :=
  match exchange.result, exchange.call with
  | .ok (.reserved free), .homeReserve taken => free && decide (taken = key)
  | .ok (.reserved free), .foreignReserve taken => free && decide (taken = key)
  | _, _ => false

end Exchange

/-- The payments for an identity in a history. -/
def payments (key : ReplayKey) (history : List Exchange) : List Exchange :=
  history.filter (Exchange.pays key)

/-- The exchanges of a history by which others have taken an identity. -/
def takings (key : ReplayKey) (history : List Exchange) : List Exchange :=
  history.filter (Exchange.takes key)

/-- Whether an identity is spent, for a bridge whose sides share one guard. -/
def spent (crossing : Crossing) (key : ReplayKey) : Bool :=
  crossing.guards.home.isSpent key

/-- A bundle is paid for what its message asks for. -/
theorem pays_plain (call : Call) (result : Except Refusal Answer) (key : ReplayKey) :
    (Exchange.mk call.plain result).pays key = (Exchange.mk call result).pays key := by
  cases call <;> rfl

theorem takes_plain (call : Call) (result : Except Refusal Answer) (key : ReplayKey) :
    (Exchange.mk call.plain result).takes key = (Exchange.mk call result).takes key := by
  cases call with
  | relay bundle relayer =>
    rcases result with refusal | answer
    · rfl
    · cases answer <;> rfl
  | _ => rfl

/-- What a reservation adds to whether an identity is spent is what is paid for
    it or taken of it, if it was free. -/
theorem toNat_spent_reserve {guard : ReplayGuard} {key : ReplayKey}
    (hfree : guard.isSpent key = false) (k : ReplayKey) :
    ((guard.reserve key).2.isSpent k).toNat =
      (guard.isSpent k).toNat + (decide (some key = some k)).toNat := by
  have hreserved : (guard.reserve key).1 = true := by
    rw [ReplayGuard.reserve, hfree]
    rfl
  rw [ReplayGuard.toNat_isSpent_reserve, hreserved, Bool.true_and]
  simp only [Option.some.injEq]

/-- An effect adds to whether an identity is spent exactly what it pays for it
    and what others take of it. -/
theorem spent_of_effect {crossing after : Crossing} {call : Call}
    {result : Except Refusal Answer} (hshared : crossing.guards.isShared = true)
    (h : Effect crossing call result after) (key : ReplayKey) :
    (after.spent key).toNat = (crossing.spent key).toNat +
      ((Exchange.mk call result).pays key).toNat +
      ((Exchange.mk call result).takes key).toNat := by
  cases h with
  | withdrawn hverify hfree hplan hcheck =>
    -- The message of a verified withdrawal names the identity that was reserved.
    have hdecode := ((verify_eq_ok_iff _ _ _ _).1 hverify).1
    simp only [spent, withHome, Guards.home_withHome, Exchange.pays, Exchange.takes,
      Call.transfer?, withdrawal?, hdecode, Bool.toNat_false, Nat.add_zero]
    exact toNat_spent_reserve hfree key
  | released hpos hvote hreached hfree hcheck =>
    -- The guard of the foreign side is the one that the home side looks at.
    rw [Guards.foreign_eq_home hshared] at hfree
    simp only [spent, withForeign, Guards.home_withForeign hshared,
      Guards.foreign_eq_home hshared, Exchange.pays, Exchange.takes, Call.transfer?,
      Bool.toNat_false, Nat.add_zero]
    exact toNat_spent_reserve hfree key
  | reservedHome taken =>
    simp only [spent, Guards.home_withHome]
    exact ReplayGuard.toNat_isSpent_reserve _ taken key
  | reservedForeign taken =>
    simp only [spent, Guards.home_withForeign hshared, Guards.foreign_eq_home hshared]
    exact ReplayGuard.toNat_isSpent_reserve _ taken key
  | _ => rfl

/-- The balance of an identity over one call. -/
theorem spent_step {crossing : Crossing} (hshared : crossing.guards.isShared = true)
    (call : Call) (key : ReplayKey) :
    ((crossing.step call).state.spent key).toNat = (crossing.spent key).toNat +
      ((Exchange.mk call (crossing.step call).result).pays key).toNat +
      ((Exchange.mk call (crossing.step call).result).takes key).toNat := by
  have heffect := spent_of_effect hshared (effect_perform crossing call) key
  rw [pays_plain, takes_plain] at heffect
  exact heffect

theorem length_filter_cons {α : Type} (test : α → Bool) (x : α) (rest : List α) :
    ((x :: rest).filter test).length = (test x).toNat + (rest.filter test).length := by
  rw [List.filter_cons]
  cases test x with
  | true => simp only [if_true, List.length_cons, Bool.toNat_true, Nat.add_comm]
  | false => simp only [Bool.false_eq_true, if_false, Bool.toNat_false, Nat.zero_add]

/-- The balance of an identity over a run: it is spent if it was, if it was paid
    or if others have taken it, and all this happens once at most. -/
theorem spent_run {crossing : Crossing} (hshared : crossing.guards.isShared = true)
    (calls : List Call) (key : ReplayKey) :
    ((crossing.run calls).2.spent key).toNat = (crossing.spent key).toNat +
      (payments key (crossing.exchanges calls)).length +
      (takings key (crossing.exchanges calls)).length := by
  induction calls generalizing crossing with
  | nil => rfl
  | cons call rest ih =>
    -- The balance of the first call, then that of the rest from the state it leaves.
    have hfirst := spent_step hshared call key
    have hrest := ih ((isShared_step crossing call).trans hshared)
    have hrun : (crossing.run (call :: rest)).2 = ((crossing.step call).state.run rest).2 := rfl
    have hpaid := length_filter_cons (Exchange.pays key)
      ⟨call, (crossing.step call).result⟩ ((crossing.step call).state.exchanges rest)
    have htaken := length_filter_cons (Exchange.takes key)
      ⟨call, (crossing.step call).result⟩ ((crossing.step call).state.exchanges rest)
    rw [hrun, hrest, hfirst, exchanges_cons]
    unfold payments takings
    omega

/-- What the foreign side says was released is what the guard says was spent for
    deposits, and no two of these are of one transaction. -/
structure Settled (crossing : Crossing) : Prop where
  shared : crossing.guards.isShared = true
  spent_of_released : ∀ deposit, crossing.foreign.confirmations.isReleased deposit = true →
    crossing.spent (.homeDeposit deposit.transaction) = true
  unique : ∀ a b, crossing.foreign.confirmations.isReleased a = true →
    crossing.foreign.confirmations.isReleased b = true → a.transaction = b.transaction → a = b
  exists_released : ∀ transaction, crossing.spent (.homeDeposit transaction) = true →
    ∃ deposit, crossing.foreign.confirmations.isReleased deposit = true ∧
      deposit.transaction = transaction

/-- A bridge on which nothing was released and nothing is spent is settled. -/
theorem settled_start (setting : Setting) (homeSink foreignSink : Sink) :
    Settled (setting.start (.shared .empty) homeSink foreignSink) where
  shared := rfl
  spent_of_released := by
    intro deposit hreleased
    exact absurd hreleased Bool.false_ne_true
  unique := by
    intro a b hreleased
    exact absurd hreleased Bool.false_ne_true
  exists_released := by
    intro transaction hspent
    exact absurd hspent Bool.false_ne_true

/-- A bridge stays settled as long as nothing is released and no deposit is
    spent. -/
theorem Settled.of_eq {crossing after : Crossing} (h : Settled crossing)
    (hshared : after.guards.isShared = true)
    (hreleased : ∀ deposit, after.foreign.confirmations.isReleased deposit =
      crossing.foreign.confirmations.isReleased deposit)
    (hspent : ∀ transaction, after.spent (.homeDeposit transaction) =
      crossing.spent (.homeDeposit transaction)) : Settled after where
  shared := hshared
  spent_of_released := by
    intro deposit hafter
    -- Both states spend the same deposits and release the same ones, so each fact is carried
    -- over.
    rw [hspent]
    exact h.spent_of_released deposit ((hreleased deposit).symm.trans hafter)
  unique := by
    intro a b ha hb
    exact h.unique a b ((hreleased a).symm.trans ha) ((hreleased b).symm.trans hb)
  exists_released := by
    intro transaction hafter
    rcases h.exists_released transaction ((hspent transaction).symm.trans hafter) with
      ⟨deposit, hdeposit, htransaction⟩
    exact ⟨deposit, (hreleased deposit).trans hdeposit, htransaction⟩

/-- A bridge stays settled when a deposit is released and its identity, which
    was free, is spent. No other deposit of its transaction was released, since
    the identity would have been spent. -/
theorem Settled.of_release {crossing after : Crossing} (h : Settled crossing)
    (hshared : after.guards.isShared = true) {deposit : Deposit}
    (hfree : crossing.spent (.homeDeposit deposit.transaction) = false)
    (hreleased : ∀ other, after.foreign.confirmations.isReleased other =
      if other = deposit then true else crossing.foreign.confirmations.isReleased other)
    (hspent : ∀ transaction, after.spent (.homeDeposit transaction) =
      (crossing.spent (.homeDeposit transaction) || decide (transaction = deposit.transaction))) :
    Settled after := by
  -- Whatever else is released was so before, and is of another transaction.
  have hother : ∀ other, after.foreign.confirmations.isReleased other = true →
      other = deposit ∨ other ≠ deposit ∧ other.transaction ≠ deposit.transaction ∧
        crossing.foreign.confirmations.isReleased other = true := by
    intro other hafter
    rw [hreleased] at hafter
    by_cases hsame : other = deposit
    · exact Or.inl hsame
    · rw [if_neg hsame] at hafter
      refine Or.inr ⟨hsame, ?_, hafter⟩
      intro htransaction
      have hbefore := h.spent_of_released other hafter
      rw [htransaction, hfree] at hbefore
      exact Bool.false_ne_true hbefore
  refine ⟨hshared, ?_, ?_, ?_⟩
  · intro other hafter
    rw [hspent, Bool.or_eq_true, decide_eq_true_eq]
    rcases hother other hafter with rfl | ⟨_, _, hbefore⟩
    · exact Or.inr rfl
    · exact Or.inl (h.spent_of_released other hbefore)
  · intro a b ha hb htransaction
    rcases hother a ha with rfl | ⟨_, hadiff, ha⟩
    · rcases hother b hb with rfl | ⟨_, hbdiff, _⟩
      · rfl
      · exact absurd htransaction.symm hbdiff
    · rcases hother b hb with rfl | ⟨_, _, hb⟩
      · exact absurd htransaction hadiff
      · exact h.unique a b ha hb htransaction
  · intro transaction hafter
    rw [hspent, Bool.or_eq_true, decide_eq_true_eq] at hafter
    rcases hafter with hbefore | rfl
    · rcases h.exists_released transaction hbefore with ⟨other, hrel, htransaction⟩
      refine ⟨other, ?_, htransaction⟩
      rw [hreleased, hrel, ite_self]
    · exact ⟨deposit, by rw [hreleased, if_pos rfl], rfl⟩

/-- What a call of the bridge itself does keeps it settled. -/
theorem settled_of_effect {crossing after : Crossing} {call : Call}
    {result : Except Refusal Answer} (hsettled : Settled crossing)
    (hown : call.isReserve = false) (h : Effect crossing call result after) : Settled after := by
  have hshared := (isShared_of_effect h).trans hsettled.shared
  cases h with
  | withdrawn hverify hfree hplan hcheck =>
    refine hsettled.of_eq hshared (fun deposit => rfl) ?_
    intro transaction
    -- A withdrawal spends an identity of the other direction.
    simp only [spent, withHome, Guards.home_withHome, ReplayGuard.isSpent_reserve,
      ReplayKey.homeDeposit, ReplayKey.foreignWithdraw, ReplayKey.mk.injEq, reduceCtorEq,
      false_and, decide_false, Bool.or_false]
  | confirmed hpos hvote hbelow =>
    refine hsettled.of_eq hshared ?_ (fun transaction => rfl)
    intro other
    simp only [Confirmations.isReleased_put]
    -- The deposit that is confirmed was not released, and it is not released now.
    split
    · rename_i hsame
      rw [hsame, Confirmations.isReleased_of_vote hvote]
      rfl
    · rfl
  | released hpos hvote hreached hfree hcheck =>
    rw [Guards.foreign_eq_home hsettled.shared] at hfree
    refine hsettled.of_release hshared hfree ?_ ?_
    · intro other
      simp only [withForeign, Confirmations.isReleased_put]
      rfl
    · intro transaction
      simp only [spent, withForeign, Guards.home_withForeign hsettled.shared,
        Guards.foreign_eq_home hsettled.shared, ReplayGuard.isSpent_reserve,
        ReplayKey.homeDeposit, ReplayKey.mk.injEq, true_and]
  | reservedHome taken => exact absurd hown (by simp only [Call.isReserve, reduceCtorEq,
      not_false_eq_true])
  | reservedForeign taken => exact absurd hown (by simp only [Call.isReserve, reduceCtorEq,
      not_false_eq_true])
  | _ => exact hsettled.of_eq hshared (fun deposit => rfl) (fun transaction => rfl)

/-- A run in which nobody else takes identities keeps a bridge settled. -/
theorem settled_run {crossing : Crossing} (hsettled : Settled crossing) {calls : List Call}
    (hown : ∀ call ∈ calls, call.isReserve = false) : Settled (crossing.run calls).2 := by
  refine run_invariant ?_ hsettled
  intro state call hmem hstate
  -- A bundle that is relayed takes nothing for others.
  have hplain : call.plain.isReserve = false := by
    have := hown call hmem
    cases call <;> exact this
  exact (settled_of_effect hstate hplain (effect_perform state call)).of_eq
    ((isShared_step state call).trans hstate.shared) (fun deposit => rfl) (fun transaction => rfl)

theorem takes_of_own {exchange : Exchange} (hown : exchange.call.isReserve = false)
    (key : ReplayKey) : exchange.takes key = false := by
  unfold Exchange.takes
  -- The two calls that can take an identity for others are the reservations of the two sides.
  split
  · rename_i hcall
    rw [hcall] at hown
    exact absurd hown.symm Bool.false_ne_true
  · rename_i hcall
    rw [hcall] at hown
    exact absurd hown.symm Bool.false_ne_true
  · rfl

/-- Where nobody reserves identities for others, none are taken. -/
theorem takings_of_own (crossing : Crossing) {calls : List Call}
    (hown : ∀ call ∈ calls, call.isReserve = false) (key : ReplayKey) :
    takings key (crossing.exchanges calls) = [] := by
  unfold takings
  rw [List.filter_eq_nil_iff]
  intro exchange hmem
  have hcall : exchange.call ∈ calls := by
    rw [← map_call_exchanges crossing calls]
    exact List.mem_map_of_mem hmem
  rw [takes_of_own (hown _ hcall)]
  exact Bool.false_ne_true

/-- What is paid between two states of a guard. -/
structure PaidOnce (first last : ReplayGuard) (history : List Exchange) : Prop where
  /-- There is at most one payment for an identity. -/
  once : ∀ key, (payments key history).length ≤ 1
  /-- There is none for an identity that was spent before. -/
  none_of_spent : ∀ key, first.isSpent key = true → payments key history = []
  /-- An identity that was paid for is spent. -/
  spent_of_paid : ∀ key, payments key history ≠ [] → last.isSpent key = true
  /-- An identity stays spent. -/
  stays_spent : ∀ key, first.isSpent key = true → last.isSpent key = true

/-- What is spent on a bridge that nobody else takes identities from. -/
structure Accounted (last : ReplayGuard) (confirmations : Confirmations)
    (history : List Exchange) : Prop where
  /-- An identity is spent exactly if it was paid for once. -/
  spent_iff : ∀ key, last.isSpent key = true ↔ (payments key history).length = 1
  /-- The identity of a deposit is spent exactly if one deposit of its
      transaction is released. -/
  released_iff : ∀ transaction, last.isSpent (.homeDeposit transaction) = true ↔
    ∃! deposit, deposit.transaction = transaction ∧ confirmations.isReleased deposit = true

/-- A run over one guard pays once at most for an identity. -/
theorem paidOnce_run {crossing : Crossing} (hshared : crossing.guards.isShared = true)
    (calls : List Call) :
    PaidOnce crossing.guards.home (crossing.run calls).2.guards.home
      (crossing.exchanges calls) := by
  -- What is spent is nought or one, and that is all that is to be shared out.
  have hbalance := spent_run hshared calls
  have hlimit := fun key => Bool.toNat_le ((crossing.run calls).2.spent key)
  unfold spent at hbalance hlimit
  refine ⟨?_, ?_, ?_, ?_⟩
  · intro key
    have hkey := hbalance key
    have hle := hlimit key
    omega
  · intro key hspent
    have hkey := hbalance key
    have hle := hlimit key
    rw [hspent, Bool.toNat_true] at hkey
    exact List.eq_nil_of_length_eq_zero (by omega)
  · intro key hpaid
    have hkey := hbalance key
    have hpos := List.length_pos_of_ne_nil hpaid
    rw [← Bool.toNat_eq_one]
    have hle := hlimit key
    omega
  · intro key hspent
    have hkey := hbalance key
    have hle := hlimit key
    rw [hspent, Bool.toNat_true] at hkey
    rw [← Bool.toNat_eq_one]
    omega

/-- A run from a new bridge from which nobody else takes identities spends those
    that it pays for. -/
theorem accounted_run (setting : Setting) (homeSink foreignSink : Sink) {calls : List Call}
    (hown : ∀ call ∈ calls, call.isReserve = false) :
    Accounted ((setting.start (.shared .empty) homeSink foreignSink).run calls).2.guards.home
      ((setting.start (.shared .empty) homeSink foreignSink).run calls).2.foreign.confirmations
      ((setting.start (.shared .empty) homeSink foreignSink).exchanges calls) := by
  have hsettled := settled_run (settled_start setting homeSink foreignSink) hown
  constructor
  · -- Nothing was spent before and nothing was taken, so the balance is between two sides.
    intro key
    have hkey := spent_run (settled_start setting homeSink foreignSink).shared calls key
    have hnone : (setting.start (.shared .empty) homeSink foreignSink).spent key = false := rfl
    rw [takings_of_own _ hown, hnone, List.length_nil, Bool.toNat_false] at hkey
    unfold spent at hkey
    rw [← Bool.toNat_eq_one]
    omega
  · intro transaction
    constructor
    · intro hspent
      rcases hsettled.exists_released transaction hspent with ⟨deposit, hreleased, rfl⟩
      refine ⟨deposit, ⟨rfl, hreleased⟩, ?_⟩
      rintro other ⟨htransaction, hother⟩
      exact hsettled.unique other deposit hother hreleased htransaction
    · rintro ⟨deposit, ⟨rfl, hreleased⟩, _⟩
      exact hsettled.spent_of_released deposit hreleased

/-- There is at most one payment for an identity, whatever is called on a bridge
    whose sides share a guard, and in whatever order. If the bridge is new and
    nobody else takes identities, those that are spent are those that were
    paid. -/
theorem paid_once (calls : List Call) :
    (∀ (home : Home) (foreign : Foreign) (first : ReplayGuard) (metrics : Metrics),
        ∃ last, ((Crossing.mk home foreign (.shared first) metrics).run calls).2.guards =
            .shared last ∧
          PaidOnce first last
            ((Crossing.mk home foreign (.shared first) metrics).exchanges calls)) ∧
      ∀ (setting : Setting) (homeSink foreignSink : Sink),
        (∀ call ∈ calls, call.isReserve = false) →
          ∃ last, ((setting.start (.shared .empty) homeSink foreignSink).run calls).2.guards =
              .shared last ∧
            Accounted last
              ((setting.start (.shared .empty) homeSink foreignSink).run
                calls).2.foreign.confirmations
              ((setting.start (.shared .empty) homeSink foreignSink).exchanges calls) := by
  constructor
  · intro home foreign first metrics
    -- Whatever is called, the guard stays one for both sides.
    have hshared : (Crossing.mk home foreign (.shared first) metrics).guards.isShared = true := rfl
    exact ⟨_, Guards.eq_shared (isShared_run hshared calls), paidOnce_run hshared calls⟩
  · intro setting homeSink foreignSink hown
    have hshared := (settled_start setting homeSink foreignSink).shared
    exact ⟨_, Guards.eq_shared (isShared_run hshared calls),
      accounted_run setting homeSink foreignSink hown⟩

/-- Two authorities decide on the foreign side and one at home. -/
def rivalSetting : Setting where
  homeRegistry := Bundles.soleRegistry
  foreignRegistry := Confirmations.pairRegistry
  homeLedger := .ofReserves 200
  foreignLedger := .ofReserves 200
  gas := 0

/-- The transaction that all of the deposits and the message name. -/
def rivalTransaction : Hash :=
  (Confirmations.pairDeposit 1).transaction

/-- A deposit of another value in the same transaction. -/
def rivalDeposit : Deposit :=
  { Confirmations.pairDeposit 1 with value := 6 }

/-- Two deposits that name one transaction wait together, and the second of them
    is decided first. The same transaction is withdrawn twice. -/
def rivalCalls : List Call :=
  [.confirm (Confirmations.pairAccount 1) (Confirmations.pairDeposit 1),
    .confirm (Confirmations.pairAccount 2) rivalDeposit,
    .confirm (Confirmations.pairAccount 1) rivalDeposit,
    .confirm (Confirmations.pairAccount 2) (Confirmations.pairDeposit 1),
    .withdraw [Bundles.soleSubmission.signature] Bundles.soleSubmission.message
      Bundles.soleAuthority,
    .withdraw [Bundles.soleSubmission.signature] Bundles.soleSubmission.message
      Bundles.soleAuthority]

set_option maxRecDepth 100000 in
/-- In each direction the transaction is paid once. -/
theorem paid_once_rivals :
    (∀ call ∈ rivalCalls, call.isReserve = false) ∧
      (∀ key ∈ [ReplayKey.homeDeposit rivalTransaction, .foreignWithdraw rivalTransaction],
        (payments key ((rivalSetting.start (.shared .empty) .newHistory .newHistory).exchanges
          rivalCalls)).length = 1) ∧
      ∃ last, ((rivalSetting.start (.shared .empty) .newHistory .newHistory).run
          rivalCalls).2.guards = .shared last ∧
        last.isSpent (.homeDeposit rivalTransaction) = true ∧
        last.isSpent (.foreignWithdraw rivalTransaction) = true ∧
        Accounted last ((rivalSetting.start (.shared .empty) .newHistory .newHistory).run
            rivalCalls).2.foreign.confirmations
          ((rivalSetting.start (.shared .empty) .newHistory .newHistory).exchanges
            rivalCalls) := by
  have hown : ∀ call ∈ rivalCalls, call.isReserve = false := by decide
  have hpaid : ∀ key ∈ [ReplayKey.homeDeposit rivalTransaction,
      .foreignWithdraw rivalTransaction],
      (payments key ((rivalSetting.start (.shared .empty) .newHistory .newHistory).exchanges
        rivalCalls)).length = 1 := by decide +kernel
  rcases (paid_once rivalCalls).2 rivalSetting .newHistory .newHistory hown with
    ⟨last, hguards, haccounted⟩
  -- What was paid is spent, since nobody else took anything.
  exact ⟨hown, hpaid, last, hguards,
    (haccounted.spent_iff _).2 (hpaid _ List.mem_cons_self),
    (haccounted.spent_iff _).2 (hpaid _ (List.mem_cons_of_mem _ List.mem_cons_self)), haccounted⟩

end Crossing

end QuorumBridge
