import QuorumBridge.Proofs.Bundles.Relay
import QuorumBridge.Proofs.Crossing.Naming

/-!
# One guard for both directions

Two sides that share a guard cannot tell that they do.

Either side asks the guard whether an identity is spent and spends it when it
pays. What the sides spend differs in the origin: the home side spends foreign
transactions and the foreign side spends home transactions. So whatever one of
them writes into a shared guard, the other one does not read, even where the
same transaction hash goes in both directions.

The statement compares two runs. In one of them both sides work on one guard,
their calls mixed in any order. In the other one a side works alone on a guard
of its own, and only its own calls are made. Nothing about the two guards is
kept but what they say of the one origin (`ReplayGuard.AgreesOn`): the shared
guard fills up with identities of the other direction, which the guard of the
side alone never sees.

`Alike` is the relation between the two runs for one side. A call of the side
itself is made in both runs, is answered the same and keeps the relation
(`Alike.own`). A call of the other side is made in one run only and keeps it as
well (`Alike.skip`). What a run comes to follows by induction on the calls.

The ledger of a side can be used by others, and such a use counts as a call of
the side. Reservations by others are left out: they could spend anything.

Which account a ledger names when several overflow is up to an order that may
change between any two calls. As far as the ledgers of the two runs look at
accounts in the same orders, the runs agree to the word (`Separate`). As far as
they do not, it is no other side that makes the difference, and the runs agree
but for that account (`Reordered`).

## Main definitions

* `ReplayGuard.AgreesOn`: Two guards say the same of one origin.
* `Crossing.Call.owner?`, `Crossing.own`: The calls of a side.
* `Crossing.part`, `Crossing.isPaid`: What there is to see of a side.
* `Crossing.Alike`: A side is the same in two bridges.
* `Crossing.Separate`: A side does in company what it does alone.
* `Crossing.Reordered`: The same where the ledger of the side alone looks at
  accounts in other orders.
* `Crossing.Unnoticed`: Both of them.

## Theorems

* `settle_agrees`: A settlement looks at one origin of a guard.
* `Crossing.Alike.own`, `Crossing.Alike.skip`: One call, of the side and of the
  other one.
* `Crossing.Alike.run`: Any number of calls.
* `Crossing.separate_run`: Sharing a guard is not to be noticed.
-/

namespace QuorumBridge

namespace ReplayGuard

/-- Two guards say the same of the transactions of one origin. -/
def AgreesOn (origin : Origin) (guard other : ReplayGuard) : Prop :=
  ∀ transaction, guard.isSpent ⟨origin, transaction⟩ = other.isSpent ⟨origin, transaction⟩

variable {origin : Origin} {guard other : ReplayGuard}

/-- Whatever is spent in both, they still agree. -/
theorem AgreesOn.reserve (h : guard.AgreesOn origin other) (key : ReplayKey) :
    (guard.reserve key).2.AgreesOn origin (other.reserve key).2 := by
  intro transaction
  rw [isSpent_reserve, isSpent_reserve, h transaction]

/-- What is spent of the other origin makes no difference. -/
theorem AgreesOn.reserve_left (h : guard.AgreesOn origin other) {key : ReplayKey}
    (hkey : key.origin ≠ origin) : (guard.reserve key).2.AgreesOn origin other := by
  intro transaction
  have hother : ¬ (⟨origin, transaction⟩ : ReplayKey) = key := by
    rintro rfl
    exact hkey rfl
  rw [isSpent_reserve, decide_eq_false hother, Bool.or_false, h transaction]

end ReplayGuard

/-- A settlement asks a guard about the origin of its own identity. Guards that
    agree there settle alike, and agree there afterwards. -/
theorem settle_agrees {α : Type} (key : ReplayKey) {guard other : ReplayGuard}
    (h : guard.AgreesOn key.origin other) (ledger : Ledger) (replayed : Refusal)
    (plan : Except Refusal α) (payouts : α → List Payout) :
    ∃ result left right after,
      settle (Books.mk guard ledger) key replayed plan payouts = (result, ⟨left, after⟩) ∧
        settle (Books.mk other ledger) key replayed plan payouts = (result, ⟨right, after⟩) ∧
        left.AgreesOn key.origin right := by
  -- A guard is asked once, and written to at the end.
  have hsame : guard.isSpent key = other.isSpent key := h key.transaction
  rw [settle_books, settle_books, hsame]
  by_cases hspent : other.isSpent key = true
  · simp only [if_pos hspent]
    exact ⟨_, guard, other, ledger, rfl, rfl, h⟩
  · simp only [if_neg hspent]
    cases plan with
    | error refusal => exact ⟨_, guard, other, ledger, rfl, rfl, h⟩
    | ok planned =>
      simp only
      cases ledger.checkRelease (payouts planned) with
      | error fault => exact ⟨_, guard, other, ledger, rfl, rfl, h⟩
      | ok _ => exact ⟨_, _, _, _, rfl, rfl, h.reserve key⟩

/-- A withdrawal looks at what was paid of foreign transactions. -/
theorem Home.withdraw_agrees {guard other : ReplayGuard} (h : guard.AgreesOn .foreign other)
    (home : Home) (signatures : List Signature) (message : List UInt8) (relayer : Address) :
    (home.withdraw guard signatures message relayer).result =
        (home.withdraw other signatures message relayer).result ∧
      (home.withdraw guard signatures message relayer).state.1 =
        (home.withdraw other signatures message relayer).state.1 ∧
      (home.withdraw guard signatures message relayer).state.2.AgreesOn .foreign
        (home.withdraw other signatures message relayer).state.2 := by
  unfold withdraw
  cases verify home.registry signatures message with
  | error refusal => exact ⟨rfl, rfl, h⟩
  | ok verified =>
    rcases settle_agrees (.foreignWithdraw verified.instruction.transaction) h home.ledger
      (.alreadyExecuted verified.instruction.transaction) (home.gate.plan verified relayer)
      Withdrawal.payouts with ⟨result, left, right, after, hleft, hright, hagree⟩
    simp only [Gate.release, hleft, hright]
    cases result with
    | error refusal => exact ⟨rfl, rfl, hagree⟩
    | ok withdrawal => exact ⟨rfl, rfl, hagree⟩

/-- A confirmation looks at what was paid of home transactions. -/
theorem Foreign.confirm_agrees {guard other : ReplayGuard} (h : guard.AgreesOn .home other)
    (foreign : Foreign) (authority : Address) (deposit : Deposit) :
    (foreign.confirm guard authority deposit).result =
        (foreign.confirm other authority deposit).result ∧
      (foreign.confirm guard authority deposit).state.1 =
        (foreign.confirm other authority deposit).state.1 ∧
      (foreign.confirm guard authority deposit).state.2.AgreesOn .home
        (foreign.confirm other authority deposit).state.2 := by
  unfold confirm Confirmations.confirm
  cases foreign.registry.position? authority with
  | none => exact ⟨rfl, rfl, h⟩
  | some index =>
    simp only
    cases foreign.confirmations.vote foreign.registry deposit authority index with
    | error refusal => exact ⟨rfl, rfl, h⟩
    | ok signers =>
      simp only
      by_cases hbelow : signers.size < foreign.registry.threshold
      · -- Below the threshold no guard is looked at.
        simp only [if_pos hbelow, true_and]
        exact h
      · rcases settle_agrees (.homeDeposit deposit.transaction) h foreign.ledger
          (.alreadyReleased deposit.transaction) (.ok deposit) Deposit.payouts with
          ⟨result, left, right, after, hleft, hright, hagree⟩
        simp only [if_neg hbelow, hleft, hright]
        cases result with
        | error refusal => exact ⟨rfl, rfl, hagree⟩
        | ok planned => exact ⟨rfl, rfl, hagree⟩

namespace Crossing

/-! ## Calls of a side -/

/-- The side that a call belongs to. The ledger of a side belongs to it, and a
    reservation in a guard belongs to neither. -/
def Call.owner? : Call → Option Origin
  | .deposit _ _ _ | .withdraw _ _ _ | .relay _ _ | .homeLedger _ => some .home
  | .confirm _ _ | .transferHome _ _ _ _ _ | .submit _ _ _ _ | .foreignLedger _ => some .foreign
  | .homeReserve _ | .foreignReserve _ => none

/-- The calls of a side among others, in their order. -/
def own (side : Origin) (calls : List Call) : List Call :=
  calls.filter (·.owner? = some side)

/-- All that a side is made of. -/
def part (crossing : Crossing) : Origin → Home ⊕ Foreign
  | .home => .inl crossing.home
  | .foreign => .inr crossing.foreign

/-- Whether a transaction of the other ledger was paid on a side. -/
def isPaid (crossing : Crossing) (side : Origin) (transaction : Hash) : Bool :=
  match side with
  | .home => crossing.guards.home.isWithdrawn transaction
  | .foreign => crossing.guards.foreign.isDepositReleased transaction

/-- A side is the same in two bridges, and the guards that it looks at there say
    the same of what it pays. -/
structure Alike (side : Origin) (crossing other : Crossing) : Prop where
  part_eq : crossing.part side = other.part side
  isPaid_eq : ∀ transaction, crossing.isPaid side transaction = other.isPaid side transaction

variable {crossing other : Crossing} {side : Origin}

theorem Alike.refl (crossing : Crossing) : Alike side crossing crossing :=
  ⟨rfl, fun _ => rfl⟩

theorem Alike.symm (h : Alike side crossing other) : Alike side other crossing :=
  ⟨h.part_eq.symm, fun transaction => (h.isPaid_eq transaction).symm⟩

theorem Alike.trans {third : Crossing} (h : Alike side crossing other)
    (hnext : Alike side other third) : Alike side crossing third :=
  ⟨h.part_eq.trans hnext.part_eq, fun transaction =>
    (h.isPaid_eq transaction).trans (hnext.isPaid_eq transaction)⟩

/-- Counting a call changes neither side. -/
theorem alike_step (crossing : Crossing) (call : Call) (side : Origin) :
    Alike side (crossing.step call).state (crossing.perform call).state := by
  cases side with
  | home => exact ⟨rfl, fun _ => rfl⟩
  | foreign => exact ⟨rfl, fun _ => rfl⟩

theorem alike_home_iff : Alike .home crossing other ↔
    crossing.home = other.home ∧ crossing.guards.home.AgreesOn .foreign other.guards.home :=
  ⟨fun h => ⟨Sum.inl.inj h.part_eq, h.isPaid_eq⟩, fun h => ⟨congrArg Sum.inl h.1, h.2⟩⟩

theorem alike_foreign_iff : Alike .foreign crossing other ↔
    crossing.foreign = other.foreign ∧
      crossing.guards.foreign.AgreesOn .home other.guards.foreign :=
  ⟨fun h => ⟨Sum.inr.inj h.part_eq, h.isPaid_eq⟩, fun h => ⟨congrArg Sum.inr h.1, h.2⟩⟩

/-- A withdrawal on two home sides that are the same. -/
theorem Alike.withdraw (h : Alike .home crossing other) (signatures : List Signature)
    (message : List UInt8) (relayer : Address) :
    (crossing.perform (.withdraw signatures message relayer)).result =
        (other.perform (.withdraw signatures message relayer)).result ∧
      Alike .home (crossing.perform (.withdraw signatures message relayer)).state
        (other.perform (.withdraw signatures message relayer)).state := by
  rcases alike_home_iff.1 h with ⟨hhome, hguard⟩
  rcases Home.withdraw_agrees hguard other.home signatures message relayer with
    ⟨hresult, hstate, hagree⟩
  unfold perform
  simp only [Report.map, Report.mapState]
  rw [hhome, hresult]
  refine ⟨rfl, alike_home_iff.2 ⟨hstate, ?_⟩⟩
  -- The guard of the side is the one that the withdrawal hands back.
  simp only [withHome, Guards.home_withHome]
  exact hagree

/-- A confirmation on two foreign sides that are the same. -/
theorem Alike.confirm (h : Alike .foreign crossing other) (authority : Address)
    (deposit : Deposit) :
    (crossing.perform (.confirm authority deposit)).result =
        (other.perform (.confirm authority deposit)).result ∧
      Alike .foreign (crossing.perform (.confirm authority deposit)).state
        (other.perform (.confirm authority deposit)).state := by
  rcases alike_foreign_iff.1 h with ⟨hforeign, hguard⟩
  rcases Foreign.confirm_agrees hguard other.foreign authority deposit with
    ⟨hresult, hstate, hagree⟩
  unfold perform
  simp only [Report.map, Report.mapState]
  rw [hforeign, hresult]
  refine ⟨rfl, alike_foreign_iff.2 ⟨hstate, ?_⟩⟩
  simp only [withForeign, Guards.foreign_withForeign]
  exact hagree

/-- A call of the home side is answered alike on two that are the same. -/
theorem Alike.perform_home (h : Alike .home crossing other) {call : Call}
    (howner : call.owner? = some .home) :
    (crossing.perform call).result = (other.perform call).result ∧
      Alike .home (crossing.perform call).state (other.perform call).state := by
  rcases alike_home_iff.1 h with ⟨hhome, hguard⟩
  cases call with
  | deposit depositor value transaction =>
    simp only [perform, Report.map, Report.mapState, hhome, true_and]
    exact alike_home_iff.2 ⟨rfl, hguard⟩
  -- Only these look at the guard.
  | withdraw signatures message relayer => exact h.withdraw signatures message relayer
  | relay bundle relayer => exact h.withdraw bundle.signatures bundle.message relayer
  | homeLedger use =>
    simp only [perform, Report.mapState, hhome, true_and]
    exact alike_home_iff.2 ⟨rfl, hguard⟩
  -- All others are calls of the foreign side, or of nobody.
  | _ => exact absurd howner (by simp only [Call.owner?, Option.some.injEq, reduceCtorEq,
      not_false_eq_true])

/-- A call of the foreign side is answered alike on two that are the same. -/
theorem Alike.perform_foreign (h : Alike .foreign crossing other) {call : Call}
    (howner : call.owner? = some .foreign) :
    (crossing.perform call).result = (other.perform call).result ∧
      Alike .foreign (crossing.perform call).state (other.perform call).state := by
  rcases alike_foreign_iff.1 h with ⟨hforeign, hguard⟩
  cases call with
  -- Only a confirmation looks at the guard.
  | confirm authority deposit => exact h.confirm authority deposit
  | transferHome sender recipient value homeGasPrice transaction =>
    simp only [perform, Report.map, Report.mapState, hforeign, true_and]
    exact alike_foreign_iff.2 ⟨rfl, hguard⟩
  | submit signature message claimed relayer =>
    simp only [perform, Report.map, Report.mapState, hforeign, true_and]
    exact alike_foreign_iff.2 ⟨rfl, hguard⟩
  | foreignLedger use =>
    simp only [perform, Report.mapState, hforeign, true_and]
    exact alike_foreign_iff.2 ⟨rfl, hguard⟩
  -- All others are calls of the home side, or of nobody.
  | _ => exact absurd howner (by simp only [Call.owner?, Option.some.injEq, reduceCtorEq,
      not_false_eq_true])

/-- A call of the side itself is answered alike, and the side stays the same. -/
theorem Alike.own (h : Alike side crossing other) {call : Call}
    (howner : call.owner? = some side) :
    (crossing.step call).result = (other.step call).result ∧
      Alike side (crossing.step call).state (other.step call).state := by
  have hperform : (crossing.perform call).result = (other.perform call).result ∧
      Alike side (crossing.perform call).state (other.perform call).state := by
    cases side with
    | home => exact h.perform_home howner
    | foreign => exact h.perform_foreign howner
  exact ⟨hperform.1, ((alike_step crossing call side).trans hperform.2).trans
    (alike_step other call side).symm⟩

theorem owner?_plain (call : Call) : call.plain.owner? = call.owner? := by
  cases call <;> rfl

/-- What the home side pays is not touched by what the foreign side reserves. -/
theorem agreesOn_withForeign (guards : Guards) (transaction : Hash) :
    (guards.withForeign (guards.foreign.reserve (.homeDeposit transaction)).2).home.AgreesOn
      .foreign guards.home := by
  cases guards with
  | shared guard =>
    have hsame : guard.AgreesOn .foreign guard := fun _ => rfl
    exact hsame.reserve_left (by simp only [ReplayKey.homeDeposit, ne_eq, reduceCtorEq,
      not_false_eq_true])
  | apart home foreign => exact fun _ => rfl

theorem agreesOn_withHome (guards : Guards) (transaction : Hash) :
    (guards.withHome (guards.home.reserve (.foreignWithdraw transaction)).2).foreign.AgreesOn
      .home guards.foreign := by
  cases guards with
  | shared guard =>
    have hsame : guard.AgreesOn .home guard := fun _ => rfl
    exact hsame.reserve_left (by simp only [ReplayKey.foreignWithdraw, ne_eq, reduceCtorEq,
      not_false_eq_true])
  | apart home foreign => exact fun _ => rfl

/-- No effect of a call of one side is to be seen on the other side. -/
theorem alike_of_effect {after : Crossing} {call : Call} {result : Except Refusal Answer}
    (h : Effect crossing call result after) {owner : Origin} (howner : call.owner? = some owner)
    (hside : owner ≠ side) : Alike side after crossing := by
  cases h with
  | refused call refusal => exact Alike.refl crossing
  | reservedHome key => exact absurd howner (by simp only [Call.owner?, reduceCtorEq,
      not_false_eq_true])
  | reservedForeign key => exact absurd howner (by simp only [Call.owner?, reduceCtorEq,
      not_false_eq_true])
  -- A payment spends an identity of the side that it is made on.
  | withdrawn hverify hfree hplan hcheck =>
    cases howner
    cases side with
    | home => exact absurd rfl hside
    | foreign => exact alike_foreign_iff.2 ⟨rfl, agreesOn_withHome _ _⟩
  | released hpos hvote hreached hfree hcheck =>
    cases howner
    cases side with
    | home => exact alike_home_iff.2 ⟨rfl, agreesOn_withForeign _ _⟩
    | foreign => exact absurd rfl hside
  | _ =>
    -- No other effect touches a guard.
    cases howner
    cases side
    · first
      | exact absurd rfl hside
      | exact ⟨rfl, fun _ => rfl⟩
    · first
      | exact absurd rfl hside
      | exact ⟨rfl, fun _ => rfl⟩

/-- A call of the other side is not to be seen on a side, whether or not it is
    made. -/
theorem Alike.skip (h : Alike side crossing other) {call : Call} {owner : Origin}
    (howner : call.owner? = some owner) (hside : owner ≠ side) :
    Alike side (crossing.step call).state other := by
  have heffect := alike_of_effect (effect_perform crossing call)
    ((owner?_plain call).trans howner) hside
  exact ((alike_step crossing call side).trans heffect).trans h

theorem own_cons_of_eq {call : Call} (howner : call.owner? = some side) (rest : List Call) :
    own side (call :: rest) = call :: own side rest :=
  List.filter_cons_of_pos (decide_eq_true howner)

theorem own_cons_of_ne {call : Call} (howner : call.owner? ≠ some side) (rest : List Call) :
    own side (call :: rest) = own side rest :=
  List.filter_cons_of_neg (by simp only [howner, decide_false, Bool.false_eq_true,
    not_false_eq_true])

theorem event?_of_effect {after : Crossing} {call : Call} {result : Except Refusal Answer}
    (h : Effect crossing call result after) (howner : call.owner? ≠ some side) :
    (Exchange.mk call result).event? side = none := by
  cases h <;> cases side <;> first | rfl | exact absurd rfl howner

/-- A side publishes nothing about a call that is not its own. -/
theorem event?_of_owner_ne (crossing : Crossing) {call : Call}
    (howner : call.owner? ≠ some side) :
    (Exchange.mk call (crossing.step call).result).event? side = none := by
  rw [← owner?_plain] at howner
  have hevent := event?_of_effect (effect_perform crossing call) howner
  rw [event?_plain] at hevent
  exact hevent

/-- In company a side answers, publishes and becomes what it does with its own
    calls alone. -/
structure Separate (side : Origin) (crossing alone : Crossing) (calls : List Call) : Prop where
  /-- Its own calls are answered the same. -/
  exchanges_eq : (crossing.exchanges calls).filter (·.call.owner? = some side) =
    alone.exchanges (own side calls)
  /-- It publishes the same. -/
  published_eq : published side (crossing.exchanges calls) =
    published side (alone.exchanges (own side calls))
  /-- The same is left of it. -/
  part_eq : (crossing.run calls).2.part side = (alone.run (own side calls)).2.part side
  /-- The same is known to be paid. -/
  isPaid_eq : ∀ transaction, (crossing.run calls).2.isPaid side transaction =
    (alone.run (own side calls)).2.isPaid side transaction

/-- A side that is the same in two bridges does the same in both, if the calls
    that are left out in one of them are those of the other side. -/
theorem Alike.run (h : Alike side crossing other) {calls : List Call}
    (howned : ∀ call ∈ calls, call.owner? ≠ none) : Separate side crossing other calls := by
  induction calls generalizing crossing other with
  | nil => exact ⟨rfl, rfl, h.part_eq, h.isPaid_eq⟩
  | cons call rest ih =>
    have hrest : ∀ later ∈ rest, later.owner? ≠ none :=
      fun later hmem => howned later (List.mem_cons_of_mem call hmem)
    by_cases howner : call.owner? = some side
    · -- The call is made in both bridges.
      rcases h.own howner with ⟨hresult, hnext⟩
      have hlater := ih hnext hrest
      have hexchanges := hlater.exchanges_eq
      have hpublished := hlater.published_eq
      refine ⟨?_, ?_, ?_, ?_⟩
      · rw [own_cons_of_eq howner, exchanges_cons, exchanges_cons, ← hexchanges, ← hresult]
        simp only [List.filter_cons, howner, decide_true, if_true]
      · rw [own_cons_of_eq howner, exchanges_cons, exchanges_cons, published_cons, published_cons,
          hpublished, hresult]
      · rw [own_cons_of_eq howner]
        exact hlater.part_eq
      · rw [own_cons_of_eq howner]
        exact hlater.isPaid_eq
    · -- The call is made in one of them, by the other side.
      rcases Option.ne_none_iff_exists'.1 (howned call List.mem_cons_self) with ⟨owner, hcall⟩
      have hside : owner ≠ side := fun hc => howner (hcall.trans (congrArg some hc))
      have hlater := ih (h.skip hcall hside) hrest
      have hexchanges := hlater.exchanges_eq
      have hpublished := hlater.published_eq
      refine ⟨?_, ?_, ?_, ?_⟩
      · rw [own_cons_of_ne howner, exchanges_cons, ← hexchanges]
        simp only [List.filter_cons, howner, decide_false, Bool.false_eq_true, if_false]
      · rw [own_cons_of_ne howner, exchanges_cons, published_cons,
          event?_of_owner_ne crossing howner, hpublished]
        rfl
      · rw [own_cons_of_ne howner]
        exact hlater.part_eq
      · rw [own_cons_of_ne howner]
        exact hlater.isPaid_eq

/-- In company a side does what it does with its own calls alone, where the
    orders of its ledger are others. It answers the same but for an account that
    is named among several, publishes the same and becomes the same but for the
    order that it ends in. -/
structure Reordered (side : Origin) (crossing alone : Crossing) (calls others : List Call) :
    Prop where
  told_eq : told ((crossing.exchanges calls).filter (·.call.owner? = some side)) =
    told (alone.exchanges others)
  published_eq : published side (crossing.exchanges calls) =
    published side (alone.exchanges others)
  part_eq : ∃ order, (alone.run others).2.part side =
    ((crossing.run calls).2.part side).map (·.arrange order) (·.arrange order)
  isPaid_eq : ∀ transaction, (crossing.run calls).2.isPaid side transaction =
    (alone.run others).2.isPaid side transaction

/-- To change the orders of a side that works alone is to change no more than
    that. -/
theorem Separate.reordered {calls others : List Call} (h : Separate side crossing other calls)
    (hasked : asked others = asked (Crossing.own side calls)) :
    Reordered side crossing other calls others := by
  have hrun := indifferent_run other hasked
  rcases hrun.rearranged with ⟨⟨order, hhome⟩, ⟨later, hforeign⟩, hguards⟩
  refine ⟨?_, ?_, ?_, ?_⟩
  · rw [h.exchanges_eq, hrun.told_eq]
  · rw [h.published_eq, hrun.published_eq side]
  · rw [h.part_eq]
    -- The order that counts is that of the ledger of the side.
    cases side with
    | home => exact ⟨order, congrArg Sum.inl hhome⟩
    | foreign => exact ⟨later, congrArg Sum.inr hforeign⟩
  · intro transaction
    rw [h.isPaid_eq transaction]
    cases side <;> simp only [isPaid, hguards]

/-- A side cannot tell that it is in company, in whatever orders its ledger looks
    at accounts. -/
structure Unnoticed (side : Origin) (crossing alone : Crossing) (calls : List Call) : Prop where
  /-- The orders are the same in both runs. -/
  separate : Separate side crossing alone calls
  /-- They are others, and may be so at every call. -/
  reordered : ∀ others, asked others = asked (own side calls) →
    Reordered side crossing alone calls others

/-- Two sides that share a guard do what each of them does alone, on a guard of
    its own that says in the beginning what the shared one says. It makes no
    difference which other side stands idle beside it. -/
theorem separate_run (home idleHome : Home) (foreign idleForeign : Foreign)
    (guard idleGuard : ReplayGuard) (metrics : Metrics) {calls : List Call}
    (howned : ∀ call ∈ calls, call.owner? ≠ none) :
    Unnoticed .home ⟨home, foreign, .shared guard, metrics⟩
        ⟨home, idleForeign, .apart guard idleGuard, metrics⟩ calls ∧
      Unnoticed .foreign ⟨home, foreign, .shared guard, metrics⟩
        ⟨idleHome, foreign, .apart idleGuard guard, metrics⟩ calls := by
  have hhome : Alike .home ⟨home, foreign, .shared guard, metrics⟩
      ⟨home, idleForeign, .apart guard idleGuard, metrics⟩ := ⟨rfl, fun _ => rfl⟩
  have hforeign : Alike .foreign ⟨home, foreign, .shared guard, metrics⟩
      ⟨idleHome, foreign, .apart idleGuard guard, metrics⟩ := ⟨rfl, fun _ => rfl⟩
  exact ⟨⟨hhome.run howned, fun _ hasked => (hhome.run howned).reordered hasked⟩,
    ⟨hforeign.run howned, fun _ hasked => (hforeign.run howned).reordered hasked⟩⟩

/-- The home side of an account that decides alone. -/
def soleHome : Home :=
  .new Bundles.soleRegistry (.ofReserves 500) .newHistory

/-- The foreign side of the same account. -/
def soleForeign : Foreign :=
  .new Bundles.soleRegistry (.ofReserves 500) .newHistory

/-- One transaction hash is paid in both directions. -/
def crossedCalls : List Call :=
  [.confirm Bundles.soleAuthority
      ⟨Bundles.soleAuthority, 30, ⟨List.replicate 32 1, List.length_replicate⟩⟩,
    .withdraw [Bundles.soleSubmission.signature] Bundles.soleSubmission.message
      Bundles.soleAuthority]

set_option maxRecDepth 100000 in
/-- Neither payment stands in the way of the other. -/
theorem separate_run_sole :
    (∀ call ∈ crossedCalls, call.owner? ≠ none) ∧
      ((Crossing.mk soleHome soleForeign (.shared .empty) .empty).run crossedCalls).1.all
        Except.isOk = true ∧
      Unnoticed .home ⟨soleHome, soleForeign, .shared .empty, .empty⟩
        ⟨soleHome, soleForeign, .apart .empty .empty, .empty⟩ crossedCalls ∧
      Unnoticed .foreign ⟨soleHome, soleForeign, .shared .empty, .empty⟩
        ⟨soleHome, soleForeign, .apart .empty .empty, .empty⟩ crossedCalls :=
  ⟨by decide, by decide +kernel,
    separate_run soleHome soleHome soleForeign soleForeign .empty .empty .empty (by decide)⟩

end Crossing

end QuorumBridge
